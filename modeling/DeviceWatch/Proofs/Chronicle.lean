import Mathlib.Data.List.Induction
import DeviceWatch.Proofs.Changes
import DeviceWatch.Proofs.GivingUp
/-!
# Chronicles

What is noted of a context presumes what was noted before: a device that leaves is
there, one that comes was never there before, and nobody is told of a device except
in the course of something that announced it. Notices that keep to this are a
chronicle. All that the identity of a device stands for follows from that alone,
without a look at the worlds in between: it arrives once, leaves at most once, and
is there from the one to the other.
-/

namespace DeviceWatch

/-- The devices of a context that had none, after notices. -/
def rosterAfter (c : ContextId) (ns : List Notice) : Roster :=
  Roster.followAll c {} ns

namespace Notice

/-- Whether the notice announces to a registration that a device is there: a pass over
its arrival began, or the registration was made and is to be told of it. -/
def offers (c : ContextId) (o : CallbackId) (d : Device) : Notice → Bool
  | .passBegan c' x e => c' = c && x = d && e = .arrived
  | .registered c' id _ _ _ existing => c' = c && id = o && existing.contains d
  | _ => false

/-- **What a notice of a context presumes** of the notices before it. -/
def Presumes (c : ContextId) (past : List Notice) : Notice → Prop
  -- The identity of a new device was not used before.
  | .attached c' d => c' = c → (d.id, .arrived) ∉ changes c past
  | .detached c' d => c' = c → d ∈ (rosterAfter c past).toList
  | .passBegan c' d .arrived => c' = c → d ∈ (rosterAfter c past).toList
  | .registered c' _ _ _ _ existing => c' = c → ∀ d ∈ existing, d ∈ (rosterAfter c past).toList
  | .opened c' h => c' = c → h.device ∈ (rosterAfter c past).toList
  -- An arrival that is delivered was announced.
  | .delivered c' o d .arrived => c' = c → ∃ n ∈ past, n.offers c o d = true
  | .delivered c' _ d .left => c' = c → (d.id, .left) ∈ changes c past
  | _ => True

end Notice

/-- **Every notice has behind it what it presumes.** -/
def Chronicle (c : ContextId) (ns : List Notice) : Prop :=
  ∀ before n after, ns = before ++ n :: after → n.Presumes c before

variable {c : ContextId} {d x y : Device} {i : DeviceId} {n : Notice} {r : Roster}
variable {ns ms past : List Notice}

/-! ## Rosters along notices -/

theorem rosterAfter_concat : rosterAfter c (past ++ [n]) = (rosterAfter c past).follow c n := by
  rw [rosterAfter, Roster.followAll, List.foldl_append]
  rfl

theorem rosterAfter_append : rosterAfter c (ns ++ ms) = (rosterAfter c ns).followAll c ms :=
  List.foldl_append

theorem changes_attached {c' : ContextId} :
    changes c [.attached c' d] = if c' = c then [(d.id, .arrived)] else [] := by
  by_cases hc : c' = c <;> simp [changes, hc]

theorem changes_detached {c' : ContextId} :
    changes c [.detached c' d] = if c' = c then [(d.id, .left)] else [] := by
  by_cases hc : c' = c <;> simp [changes, hc]

theorem mem_changes_of_attached (h : .attached c d ∈ ns) : (d.id, .arrived) ∈ changes c ns :=
  List.mem_filterMap.2 ⟨_, h, if_pos rfl⟩

theorem mem_changes_of_detached (h : .detached c d ∈ ns) : (d.id, .left) ∈ changes c ns :=
  List.mem_filterMap.2 ⟨_, h, if_pos rfl⟩

namespace Roster

theorem mem_of_mem_follow (h : d ∈ (r.follow c n).toList) :
    d ∈ r.toList ∨ n = .attached c d := by
  cases n with
  | attached c' x =>
    by_cases hc : c' = c
    · subst hc
      simp only [follow, if_pos, attach, List.mem_append, List.mem_singleton] at h
      rcases h with h | rfl
      · exact Or.inl (List.mem_of_mem_filter h)
      · exact Or.inr rfl
    · simp only [follow, if_neg hc] at h
      exact Or.inl h
  | detached c' x =>
    by_cases hc : c' = c
    · simp only [follow, if_pos hc] at h
      rcases hdetach : r.detach? x.id with _ | ⟨y, rest⟩
      · rw [hdetach] at h
        exact Or.inl h
      · rw [hdetach] at h
        exact Or.inl ((detach?_eq_some hdetach).2.mem_iff.2 (List.mem_cons_of_mem y h))
    · simp only [follow, if_neg hc] at h
      exact Or.inl h
  | _ => exact Or.inl h

theorem nodup_follow (h : r.ids.Nodup) : (r.follow c n).ids.Nodup := by
  cases n with
  | attached c' x =>
    by_cases hc : c' = c
    · simp only [follow, if_pos hc]
      exact nodup_attach h
    · simp only [follow, if_neg hc]
      exact h
  | detached c' x =>
    by_cases hc : c' = c
    · simp only [follow, if_pos hc]
      rcases hdetach : r.detach? x.id with _ | ⟨y, rest⟩
      · exact h
      · exact nodup_of_detach? h hdetach
    · simp only [follow, if_neg hc]
      exact h
  | _ => exact h

/-- A device stays until one of its identity comes or leaves. -/
theorem mem_follow (h : d ∈ r.toList) (ha : (d.id, .arrived) ∉ changes c [n])
    (hl : (d.id, .left) ∉ changes c [n]) : d ∈ (r.follow c n).toList := by
  cases n with
  | attached c' x =>
    by_cases hc : c' = c
    · have hne : d.id ≠ x.id := by simpa [changes_attached, hc] using ha
      simp only [follow, if_pos hc, attach, List.mem_append, List.mem_filter]
      exact Or.inl ⟨h, bne_iff_ne.2 hne⟩
    · simp only [follow, if_neg hc]
      exact h
  | detached c' x =>
    by_cases hc : c' = c
    · have hne : d.id ≠ x.id := by simpa [changes_detached, hc] using hl
      simp only [follow, if_pos hc]
      rcases hdetach : r.detach? x.id with _ | ⟨y, rest⟩
      · exact h
      · obtain ⟨hid, hperm⟩ := detach?_eq_some hdetach
        refine (List.mem_cons.1 (hperm.mem_iff.1 h)).resolve_left fun heq => ?_
        exact hne (heq ▸ hid)
    · simp only [follow, if_neg hc]
      exact h
  | _ => exact h

end Roster

theorem nodup_rosterAfter : (rosterAfter c ns).ids.Nodup := by
  induction ns using List.reverseRecOn with
  | nil => exact List.nodup_nil
  | append_singleton ns n ih =>
    rw [rosterAfter_concat]
    exact Roster.nodup_follow ih

/-- What is there was attached. -/
theorem attached_of_mem_rosterAfter (h : d ∈ (rosterAfter c ns).toList) : .attached c d ∈ ns := by
  induction ns using List.reverseRecOn with
  | nil => cases h
  | append_singleton ns n ih =>
    rw [rosterAfter_concat] at h
    rcases Roster.mem_of_mem_follow h with h | rfl
    · exact List.mem_append_left _ (ih h)
    · exact List.mem_append_right _ (List.mem_singleton_self _)

theorem mem_changes_of_mem_ids (h : i ∈ (rosterAfter c ns).ids) : (i, .arrived) ∈ changes c ns := by
  obtain ⟨d, hd, rfl⟩ := List.mem_map.1 h
  exact mem_changes_of_attached (attached_of_mem_rosterAfter hd)

namespace Chronicle

theorem nil : Chronicle c [] := by
  intro before n after h
  simp at h

theorem of_append (h : Chronicle c (ns ++ ms)) : Chronicle c ns := fun before n after heq =>
  h before n (after ++ ms) (by rw [heq, List.append_assoc, List.cons_append])

theorem presumes (h : Chronicle c (ns ++ n :: ms)) : n.Presumes c ns :=
  h ns n ms rfl

theorem concat (h : Chronicle c past) (hn : n.Presumes c past) : Chronicle c (past ++ [n]) := by
  intro before m after heq
  rcases List.eq_nil_or_concat after with rfl | ⟨front, z, rfl⟩
  · obtain ⟨rfl, hm⟩ := List.append_inj' heq rfl
    exact (List.cons.inj hm).1 ▸ hn
  · rw [List.concat_eq_append, ← List.cons_append, ← List.append_assoc] at heq
    exact h _ _ _ (List.append_inj' heq rfl).1

theorem extend (h : Chronicle c past) (hn : ∀ before, ∀ n ∈ ns, n.Presumes c before) :
    Chronicle c (past ++ ns) := by
  induction ns using List.reverseRecOn with
  | nil => rwa [List.append_nil]
  | append_singleton ns n ih =>
    rw [← List.append_assoc]
    refine (ih fun before m hm => hn before m (List.mem_append_left _ hm)).concat (hn _ n ?_)
    exact List.mem_append_right _ (List.mem_singleton_self _)

/-! ## What identities stand for -/

/-- **An identity is given once.** -/
theorem once (h : Chronicle c ns) (i : DeviceId) : (changes c ns).count (i, .arrived) ≤ 1 := by
  induction ns using List.reverseRecOn with
  | nil => exact Nat.zero_le _
  | append_singleton ns n ih =>
    have hpast := ih h.of_append
    have hn := h.presumes
    rw [changes_append, List.count_append]
    cases n with
    | attached c' x =>
      rw [changes_attached]
      by_cases hc : c' = c
      · by_cases hx : x.id = i
        · subst hx
          have hnone := List.count_eq_zero.2 (hn hc)
          simp [hnone, hc]
        · simpa [hc, hx] using hpast
      · simpa [hc] using hpast
    | detached c' x =>
      rw [changes_detached]
      by_cases hc : c' = c <;> simpa [hc] using hpast
    | _ => exact hpast

/-- A device attached under an identity is the only one ever. -/
theorem attached_unique (h : Chronicle c ns) (hx : .attached c x ∈ ns) (hy : .attached c y ∈ ns)
    (hid : x.id = y.id) : x = y := by
  induction ns using List.reverseRecOn with
  | nil => cases hx
  | append_singleton ns n ih =>
    have hn := h.presumes
    rw [List.mem_append, List.mem_singleton] at hx hy
    rcases hx with hx | rfl
    · rcases hy with hy | rfl
      · exact ih h.of_append hx hy
      · exact absurd (hid ▸ mem_changes_of_attached hx) (hn rfl)
    · rcases hy with hy | hy
      · exact absurd (hid ▸ mem_changes_of_attached hy) (hn rfl)
      · exact (Notice.attached.inj hy).2.symm

/-- **What arrived is there or has left.** -/
theorem balance (h : Chronicle c ns) (i : DeviceId) :
    (changes c ns).count (i, .left) + (if i ∈ (rosterAfter c ns).ids then 1 else 0) =
      (changes c ns).count (i, .arrived) := by
  induction ns using List.reverseRecOn with
  | nil => rfl
  | append_singleton ns n ih =>
    have hpast := ih h.of_append
    have hn := h.presumes
    rw [changes_append, List.count_append, List.count_append, rosterAfter_concat]
    cases n with
    | attached c' x =>
      rw [changes_attached]
      by_cases hc : c' = c
      · have hnew : x.id ∉ (rosterAfter c ns).ids := fun hmem => hn hc (mem_changes_of_mem_ids hmem)
        simp only [Roster.follow, if_pos hc, Roster.ids_attach_of_not_mem hnew, List.mem_append,
          List.mem_singleton]
        by_cases hx : x.id = i
        · subst hx
          rw [if_neg hnew] at hpast
          simp [← hpast]
        · simpa [hc, hx, Ne.symm hx] using hpast
      · simpa [Roster.follow, hc] using hpast
    | detached c' x =>
      rw [changes_detached]
      by_cases hc : c' = c
      · -- The device that leaves was there, and no other has its identity.
        have hin : x.id ∈ (rosterAfter c ns).ids := List.mem_map_of_mem (hn hc)
        rcases hdetach : (rosterAfter c ns).detach? x.id with _ | ⟨y, rest⟩
        · exact absurd hin (Roster.detach?_eq_none_iff.1 hdetach)
        have hrest : ∀ {j}, j ∈ rest.ids ↔ j ∈ (rosterAfter c ns).ids ∧ j ≠ x.id :=
          Roster.mem_ids_of_detach? nodup_rosterAfter hdetach
        simp only [Roster.follow, if_pos hc, hdetach, Option.map_some, Option.getD_some, hrest]
        by_cases hx : x.id = i
        · subst hx
          rw [if_pos hin] at hpast
          simp [← hpast]
        · simpa [hc, hx, Ne.symm hx] using hpast
      · simpa [Roster.follow, hc] using hpast
    | _ => exact hpast

/-- What has left is away for good. -/
theorem away (h : Chronicle c ns) (hi : (i, .left) ∈ changes c ns) :
    i ∉ (rosterAfter c ns).ids := by
  intro hmem
  have hpos := List.count_pos_iff.2 hi
  have honce := h.once i
  have hbalance := h.balance i
  rw [if_pos hmem] at hbalance
  omega

/-- **A device that is there stays until it leaves.** -/
theorem stays_iff (h : Chronicle c (ns ++ ms)) (hd : d ∈ (rosterAfter c ns).toList) :
    d ∈ (rosterAfter c (ns ++ ms)).toList ↔ (d.id, .left) ∉ changes c ms := by
  constructor
  · intro hmem hleft
    refine h.away ?_ (List.mem_map_of_mem hmem)
    rw [changes_append]
    exact List.mem_append_right _ hleft
  · intro hno
    induction ms using List.reverseRecOn with
    | nil => rwa [List.append_nil]
    | append_singleton ms n ih =>
      rw [← List.append_assoc] at h
      rw [changes_append, List.mem_append, not_or] at hno
      have hmem := ih h.of_append hno.1
      rw [← List.append_assoc, rosterAfter_concat]
      refine Roster.mem_follow hmem (fun harrived => ?_) hno.2
      -- Its identity was given before.
      have hpos := List.count_pos_iff.2 harrived
      have hbefore := List.count_pos_iff.2
        (mem_changes_of_attached (attached_of_mem_rosterAfter hmem))
      have honce := h.once d.id
      rw [changes_append, List.count_append] at honce
      omega

/-- The device of a handle was attached. -/
theorem attached_of_opened {h : OpenHandle} (hc : Chronicle c ns) (hh : h ∈ opened c ns) :
    .attached c h.device ∈ ns := by
  obtain ⟨n, hn, hopen⟩ := List.mem_filterMap.1 hh
  obtain ⟨before, after, rfl⟩ := List.append_of_mem hn
  have hpresumes := hc.presumes
  cases n with
  | opened c' k =>
    by_cases heq : c' = c
    · obtain rfl : k = h := by simpa [heq] using hopen
      exact List.mem_append_left _ (attached_of_mem_rosterAfter (hpresumes heq))
    · simp [heq] at hopen
  | _ => cases hopen

/-- The device of a handle is the one that is there under its identity, if any is. -/
theorem eq_opened {h : OpenHandle} (hc : Chronicle c ns) (hh : h ∈ opened c ns)
    (hd : d ∈ (rosterAfter c ns).toList) (hid : d.id = h.device.id) : d = h.device :=
  hc.attached_unique (attached_of_mem_rosterAfter hd) (hc.attached_of_opened hh) hid

/-- What leaves has left once: it is there no more, and does not leave again. -/
theorem not_left_again (h : Chronicle c (ns ++ ms)) (hi : (i, .left) ∈ changes c ns) :
    (i, .left) ∉ changes c ms := by
  intro hagain
  have hpos := List.count_pos_iff.2 hi
  have hpos' := List.count_pos_iff.2 hagain
  have honce := h.once i
  have hbalance := h.balance i
  rw [changes_append, List.count_append] at honce hbalance
  rw [List.count_append] at hbalance
  omega

end Chronicle
end DeviceWatch
