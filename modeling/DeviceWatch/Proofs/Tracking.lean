import DeviceWatch.Proofs.Roster
import DeviceWatch.Proofs.Still
/-!
# Open handles track their devices

A departure takes the device off the roster, then runs callbacks, and only then
disconnects the handles that are open on it; callbacks may open, close, plug
and unplug in between. So the handles of a context do not always tell exactly
which devices are gone. `Tracks` says what they tell while some departures are
under way: no handle is disconnected whose device is still there, and one whose
device is not there is disconnected, or the departure of its device is not over
yet. With no departure under way the handles tell exactly.
-/

namespace DeviceWatch

variable {κ τ : Type}

/-- The devices and the open handles of a context. -/
structure Holding where
  devices : List Device
  handles : List OpenHandle
  /-- The number of the next device. -/
  nextDevice : Nat
  /-- The number of the next handle. -/
  nextOpen : Nat
  gone : OpenId → Prop

namespace Holding

/-- **What handles tell of devices** while the departures of some devices are
under way. -/
structure Tracks (s : Holding) (under : DeviceId → Prop) : Prop where
  /-- No two attached devices share an identity. -/
  nodup : (s.devices.map Device.id).Nodup
  /-- The number of the next device is new. -/
  attached_lt : ∀ d ∈ s.devices, d.id.val < s.nextDevice
  opened_lt : ∀ h ∈ s.handles, h.device.id.val < s.nextDevice
  /-- A handle and the attached device with its identity agree. -/
  agree : ∀ h ∈ s.handles, ∀ d ∈ s.devices, d.id = h.device.id → d = h.device
  /-- No two open handles share an identity. -/
  distinct : (s.handles.map OpenHandle.id).Nodup
  /-- The number of the next handle is new. -/
  open_lt : ∀ h ∈ s.handles, h.id.val < s.nextOpen
  gone_lt : ∀ k, s.gone k → k.val < s.nextOpen
  /-- A handle on an attached device is not disconnected. -/
  away_of_gone : ∀ h ∈ s.handles, s.gone h.id → h.device.id ∉ s.devices.map Device.id
  /-- A handle on any other device is, unless a departure is under way. -/
  gone_of_away : ∀ h ∈ s.handles, h.device.id ∉ s.devices.map Device.id →
    s.gone h.id ∨ under h.device.id

/-- The device had its number and is not attached. Its number is never given
again, so it stays away. -/
structure Departed (s : Holding) (i : DeviceId) : Prop where
  lt : i.val < s.nextDevice
  absent : i ∉ s.devices.map Device.id

/-- Handles are disconnected. -/
def lose (s : Holding) (hs : List OpenHandle) : Holding :=
  { s with gone := fun k => s.gone k ∨ ∃ h ∈ hs, h.id = k }

variable {s : Holding} {under : DeviceId → Prop} {d : Device} {i : DeviceId}

theorem lose_nil : s.lose [] = s := by
  simp only [lose, List.not_mem_nil, false_and, exists_false, or_false]

theorem lose_lose {hs hs' : List OpenHandle} : (s.lose hs).lose hs' = s.lose (hs ++ hs') := by
  simp only [lose, List.mem_append, or_and_right, exists_or, or_assoc]

theorem lose_of_gone {h : OpenHandle} (hgone : s.gone h.id) : s.lose [h] = s := by
  have heq : (fun k => s.gone k ∨ ∃ o ∈ [h], o.id = k) = s.gone := by
    funext k
    refine propext ⟨?_, Or.inl⟩
    rintro (hk | ⟨o, ho, rfl⟩)
    · exact hk
    · rw [List.mem_singleton.1 ho]
      exact hgone
  rw [lose, heq]

/-- With no departure under way the handles tell exactly which devices are
gone. -/
theorem Tracks.exact (hs : s.Tracks fun _ => False) {h : OpenHandle} (hh : h ∈ s.handles) :
    s.gone h.id ↔ h.device ∉ s.devices := by
  constructor
  · intro hgone hmem
    exact hs.away_of_gone h hh hgone (List.mem_map_of_mem hmem)
  · intro hno
    refine (hs.gone_of_away h hh fun hmem => ?_).resolve_right id
    obtain ⟨d, hd, heq⟩ := List.mem_map.1 hmem
    exact hno (hs.agree h hh d hd heq ▸ hd)

/-! ## What the operations keep -/

/-- A new device is attached. -/
theorem Tracks.attach (hs : s.Tracks under) (hd : d.id.val = s.nextDevice) :
    ({ s with devices := s.devices ++ [d], nextDevice := s.nextDevice + 1 } : Holding).Tracks
      under := by
  have hnew : d.id ∉ s.devices.map Device.id := by
    intro hmem
    obtain ⟨x, hx, heq⟩ := List.mem_map.1 hmem
    have := hs.attached_lt x hx
    rw [heq] at this
    omega
  -- Open handles are on devices with lower numbers, attached or not.
  have hother : ∀ h ∈ s.handles, h.device.id ≠ d.id := by
    intro h hh heq
    have := hs.opened_lt h hh
    rw [heq] at this
    omega
  refine { hs with nodup := ?_, attached_lt := ?_, opened_lt := ?_, agree := ?_,
                   away_of_gone := ?_, gone_of_away := ?_ }
  · rw [List.map_append]
    exact hs.nodup.append (List.nodup_singleton _) (List.disjoint_singleton.2 hnew)
  · intro x hx
    rcases List.mem_append.1 hx with hx | hx
    · exact Nat.lt_succ_of_lt (hs.attached_lt x hx)
    · rw [List.mem_singleton.1 hx, hd]
      exact Nat.lt_succ_self _
  · exact fun h hh => Nat.lt_succ_of_lt (hs.opened_lt h hh)
  · intro h hh x hx heq
    rcases List.mem_append.1 hx with hx | hx
    · exact hs.agree h hh x hx heq
    · rw [List.mem_singleton.1 hx] at heq
      exact absurd heq.symm (hother h hh)
  · intro h hh hgone hmem
    rw [List.map_append, List.mem_append] at hmem
    rcases hmem with hmem | hmem
    · exact hs.away_of_gone h hh hgone hmem
    · exact hother h hh (List.mem_singleton.1 hmem)
  · intro h hh haway
    refine hs.gone_of_away h hh fun hmem => haway ?_
    rw [List.map_append]
    exact List.mem_append_left _ hmem

theorem Departed.attach (hi : s.Departed i) (hd : d.id.val = s.nextDevice) :
    ({ s with devices := s.devices ++ [d], nextDevice := s.nextDevice + 1 } : Holding).Departed
      i where
  lt := Nat.lt_succ_of_lt hi.lt
  absent hmem := by
    rw [List.map_append, List.mem_append] at hmem
    rcases hmem with hmem | hmem
    · exact hi.absent hmem
    · have hlt := hi.lt
      rw [List.mem_singleton.1 hmem, hd] at hlt
      exact Nat.lt_irrefl _ hlt

/-- A device is detached, which begins its departure. -/
theorem Tracks.detach {rest : List Device} (hs : s.Tracks under)
    (hperm : s.devices.Perm (d :: rest)) :
    ({ s with devices := rest } : Holding).Tracks (fun i => i = d.id ∨ under i) := by
  have hmem : ∀ x ∈ rest, x ∈ s.devices := fun x hx =>
    hperm.mem_iff.2 (List.mem_cons_of_mem d hx)
  have hids : ∀ i ∈ rest.map Device.id, i ∈ s.devices.map Device.id := by
    intro i hi
    obtain ⟨x, hx, rfl⟩ := List.mem_map.1 hi
    exact List.mem_map_of_mem (hmem x hx)
  refine { hs with nodup := ?_, attached_lt := ?_, agree := ?_, away_of_gone := ?_,
                   gone_of_away := ?_ }
  · exact nodup_map_of_perm_cons _ hs.nodup hperm
  · exact fun x hx => hs.attached_lt x (hmem x hx)
  · exact fun h hh x hx => hs.agree h hh x (hmem x hx)
  · exact fun h hh hgone hin => hs.away_of_gone h hh hgone (hids _ hin)
  · -- A handle on the device waits for the end of its departure.
    intro h hh haway
    by_cases hd : h.device.id = d.id
    · exact Or.inr (Or.inl hd)
    · refine (hs.gone_of_away h hh fun hin => ?_).imp_right Or.inr
      rcases List.mem_cons.1 ((hperm.map Device.id).mem_iff.1 hin) with heq | hin
      · exact hd heq
      · exact haway hin

theorem Departed.detach {rest : List Device} (hi : s.Departed i)
    (hperm : s.devices.Perm (d :: rest)) : ({ s with devices := rest } : Holding).Departed i where
  lt := hi.lt
  absent hmem :=
    hi.absent ((hperm.map Device.id).mem_iff.2 (List.mem_cons_of_mem d.id hmem))

/-- What is detached has departed. -/
theorem Tracks.departed {rest : List Device} (hs : s.Tracks under)
    (hperm : s.devices.Perm (d :: rest)) :
    ({ s with devices := rest } : Holding).Departed d.id where
  lt := hs.attached_lt d (hperm.mem_iff.2 List.mem_cons_self)
  absent := (List.nodup_cons.1 ((hperm.map Device.id).nodup_iff.1 hs.nodup)).1

/-- A handle is opened on an attached device. -/
theorem Tracks.open (hs : s.Tracks under) (hd : d ∈ s.devices) :
    ({ s with handles := s.handles ++ [⟨⟨s.nextOpen⟩, d⟩], nextOpen := s.nextOpen + 1 } :
      Holding).Tracks under := by
  have hin : d.id ∈ s.devices.map Device.id := List.mem_map_of_mem hd
  refine { hs with opened_lt := ?_, agree := ?_, distinct := ?_, open_lt := ?_, gone_lt := ?_,
                   away_of_gone := ?_, gone_of_away := ?_ }
  · intro h hh
    rcases List.mem_append.1 hh with hh | hh
    · exact hs.opened_lt h hh
    · rw [List.mem_singleton.1 hh]
      exact hs.attached_lt d hd
  · intro h hh x hx heq
    rcases List.mem_append.1 hh with hh | hh
    · exact hs.agree h hh x hx heq
    · rw [List.mem_singleton.1 hh] at heq ⊢
      exact List.inj_on_of_nodup_map hs.nodup hx hd heq
  · exact OpenHandle.nodup_concat hs.distinct hs.open_lt
  · exact OpenHandle.lt_of_mem_concat hs.open_lt
  · exact fun k hk => Nat.lt_succ_of_lt (hs.gone_lt k hk)
  · intro h hh hgone
    rcases List.mem_append.1 hh with hh | hh
    · exact hs.away_of_gone h hh hgone
    · -- the number of the new handle was given to none before
      rw [List.mem_singleton.1 hh] at hgone
      exact absurd (hs.gone_lt _ hgone) (Nat.lt_irrefl _)
  · intro h hh haway
    rcases List.mem_append.1 hh with hh | hh
    · exact hs.gone_of_away h hh haway
    · rw [List.mem_singleton.1 hh] at haway
      exact absurd hin haway

/-- A handle is closed. -/
theorem Tracks.close {o : OpenHandle} {rest : List OpenHandle} (hs : s.Tracks under)
    (hperm : s.handles.Perm (o :: rest)) :
    ({ s with handles := rest } : Holding).Tracks under := by
  have hmem : ∀ x ∈ rest, x ∈ s.handles := fun x hx =>
    hperm.mem_iff.2 (List.mem_cons_of_mem o hx)
  exact { hs with
    opened_lt := fun h hh => hs.opened_lt h (hmem h hh)
    agree := fun h hh => hs.agree h (hmem h hh)
    distinct := nodup_map_of_perm_cons _ hs.distinct hperm
    open_lt := fun h hh => hs.open_lt h (hmem h hh)
    away_of_gone := fun h hh => hs.away_of_gone h (hmem h hh)
    gone_of_away := fun h hh => hs.gone_of_away h (hmem h hh) }

/-- The handles open on a device that is away are disconnected, which ends its
departure. -/
theorem Tracks.disconnect {hs : List OpenHandle} (ht : s.Tracks fun j => j = i ∨ under j)
    (haway : i ∉ s.devices.map Device.id)
    (hon : ∀ h, h ∈ hs ↔ h ∈ s.handles ∧ h.device.id = i) :
    (s.lose hs).Tracks under := by
  refine { ht with gone_lt := ?_, away_of_gone := ?_, gone_of_away := ?_ }
  · rintro k (hk | ⟨h, hh, rfl⟩)
    · exact ht.gone_lt k hk
    · exact ht.open_lt h ((hon h).1 hh).1
  · rintro h hh (hgone | ⟨o, ho, heq⟩)
    · exact ht.away_of_gone h hh hgone
    · -- a handle of that number is the same handle
      obtain ⟨hmem, hdev⟩ := (hon o).1 ho
      rw [← List.inj_on_of_nodup_map ht.distinct hmem hh heq, hdev]
      exact haway
  · intro h hh hno
    rcases ht.gone_of_away h hh hno with hgone | hi | hunder
    · exact Or.inl (Or.inl hgone)
    · exact Or.inl (Or.inr ⟨h, (hon h).2 ⟨hh, hi⟩, rfl⟩)
    · exact Or.inr hunder

end Holding
end DeviceWatch
