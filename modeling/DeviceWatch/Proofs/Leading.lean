import DeviceWatch.Proofs.Replay
/-!
# Names that lead to devices

Every name of a replay leads to a device on the bus, whatever steps came before: also
after a transfer that failed on a handle left on a former device of a name, which gives
up the name and makes no device leave. What carries this is that the device of an unused
handle goes by the handle's name, if by any.
-/

namespace DeviceWatch
namespace Bench

/-- **Every name leads to a device on the bus**, and to one of its own. -/
structure Leads (s : Bench) : Prop where
  unambiguous : s.replay.Unambiguous
  distinct : s.replay.named.Nodup
  attached : ∀ i ∈ s.replay.named, i ∈ s.devices.ids
  /-- No two devices share an identity. -/
  nodup : s.devices.ids.Nodup
  /-- The number of the next device is new. -/
  lt : ∀ i ∈ s.devices.ids, i.val < s.next
  opened_lt : ∀ e ∈ s.replay.handles, e.2.device.id.val < s.next
  /-- If the device of a handle has a name, it is the handle's. -/
  own : ∀ e ∈ s.replay.handles, ∀ x ∈ s.replay.names, x.2 = e.2.device.id → x.1 = e.1

namespace Leads

variable {s s' : Bench} {step : Step} {r : Replay} {d : Device} {rest : Roster}

/-- Names may be given up and handles used up. -/
theorem of_subset (hs : s.Leads) (hnames : r.names.Sublist s.replay.names)
    (hhandles : ∀ e ∈ r.handles, e ∈ s.replay.handles) :
    (Bench.mk r s.devices s.next).Leads where
  unambiguous := hs.unambiguous.sublist (hnames.map _)
  distinct := hs.distinct.sublist (hnames.map _)
  attached i hi := hs.attached i ((hnames.map _).subset hi)
  nodup := hs.nodup
  lt := hs.lt
  opened_lt e he := hs.opened_lt e (hhandles e he)
  own e he x hx := hs.own e (hhandles e he) x (hnames.subset hx)

/-- A device without a name may leave. -/
theorem leave (hs : s.Leads) (hd : s.devices.detach? d.id = some (d, rest))
    (hfree : d.id ∉ s.replay.named) : (Bench.mk s.replay rest s.next).Leads where
  unambiguous := hs.unambiguous
  distinct := hs.distinct
  attached i hi :=
    (Roster.mem_ids_of_detach? hs.nodup hd).2 ⟨hs.attached i hi, fun heq => hfree (heq ▸ hi)⟩
  nodup := Roster.nodup_of_detach? hs.nodup hd
  lt i hi := hs.lt i ((Roster.mem_ids_of_detach? hs.nodup hd).1 hi).1
  opened_lt := hs.opened_lt
  own := hs.own

/-- A device under the next number gets a name that is free. -/
theorem plug (hs : s.Leads) {name : String} (hfree : s.replay.device? name = none)
    (hd : d.id.val = s.next) :
    (Bench.mk (s.replay.addName name d.id) (s.devices.attach d) (s.next + 1)).Leads := by
  have hnew : d.id ∉ s.devices.ids := fun hmem => Nat.lt_irrefl _ (hd ▸ hs.lt _ hmem)
  have hids := Roster.ids_attach_of_not_mem hnew
  refine ⟨?unambiguous, ?distinct, fun i hi => ?attached, ?nodup, fun i hi => ?lt,
    fun e he => Nat.lt_succ_of_lt (hs.opened_lt e he), fun e he x hx heq => ?own⟩
  case unambiguous =>
    rw [Replay.Unambiguous, Replay.addName, List.map_append]
    exact hs.unambiguous.append (List.nodup_singleton _)
      (List.disjoint_singleton.2 (Replay.device?_eq_none_iff.1 hfree))
  case distinct =>
    rw [Replay.named, Replay.addName, List.map_append]
    exact hs.distinct.append (List.nodup_singleton _)
      (List.disjoint_singleton.2 fun hmem => hnew (hs.attached _ hmem))
  case attached =>
    rw [Replay.named, Replay.addName, List.map_append] at hi
    rw [hids]
    exact List.mem_append.2 ((List.mem_append.1 hi).imp_left (hs.attached i))
  case nodup =>
    rw [hids]
    exact hs.nodup.append (List.nodup_singleton _) (List.disjoint_singleton.2 hnew)
  case lt =>
    rw [hids] at hi
    rcases List.mem_append.1 hi with hi | hi
    · exact Nat.lt_succ_of_lt (hs.lt i hi)
    · rw [List.mem_singleton.1 hi, hd]
      exact Nat.lt_succ_self _
  case own =>
    -- A handle opened before is on a device with a lower number.
    rcases List.mem_append.1 hx with hx | hx
    · exact hs.own e he x hx heq
    · have hlt := hs.opened_lt e he
      rw [← heq, List.mem_singleton.1 hx, hd] at hlt
      exact absurd hlt (Nat.lt_irrefl _)

/-- A handle is opened on the device of a name. -/
theorem openHandle (hs : s.Leads) {name : String} {i : DeviceId} {h : OpenHandle}
    (hname : s.replay.device? name = some i) (hid : h.device.id = i) :
    (Bench.mk (s.replay.addHandle name h) s.devices s.next).Leads := by
  have hmem := Replay.mem_of_device? hname
  refine ⟨hs.unambiguous, hs.distinct, hs.attached, hs.nodup, hs.lt, fun e he => ?_,
    fun e he x hx heq => ?_⟩
  · rcases List.mem_append.1 he with he | he
    · exact hs.opened_lt e he
    · rw [List.mem_singleton.1 he, hid]
      exact hs.lt i (hs.attached i (List.mem_map_of_mem hmem))
  · rcases List.mem_append.1 he with he | he
    · exact hs.own e he x hx heq
    · rw [List.mem_singleton.1 he, hid] at heq
      rw [List.mem_singleton.1 he, List.inj_on_of_nodup_map hs.distinct hx hmem heq]

/-- **Every step that succeeds leaves the names leading to devices**, also if it is a
transfer that failed on a handle on another device than that of the name. -/
theorem takes (hs : s.Leads) (h : s.Takes step s') : s'.Leads := by
  cases h with
  | plug d tally hfree hd => exact (hs.plug hfree hd).of_subset (.refl _) fun _ => id
  | @unplug name i d rest tally hname hdetach =>
    obtain ⟨rfl, -⟩ := Roster.detach?_eq_some hdetach
    have hdrop : (Bench.mk (s.replay.dropName name) s.devices s.next).Leads :=
      hs.of_subset List.filter_sublist fun _ => id
    refine (hdrop.leave hdetach fun hmem => ?_).of_subset (.refl _) fun _ => id
    obtain ⟨x, hx, heq⟩ := List.mem_map.1 hmem
    obtain ⟨hx, hne⟩ := Replay.mem_names_dropName.1 hx
    have hmem := Replay.mem_of_device? hname
    exact hne (congrArg Prod.fst (List.inj_on_of_nodup_map hs.distinct hx hmem heq))
  | openHandle hname hget =>
    exact (hs.openHandle hname (Roster.id_of_get? hget)).of_subset (.refl _) fun _ => id
  | closeHandle htake =>
    obtain ⟨-, hnames, hhandles⟩ := Replay.of_takeHandle? htake
    exact hs.of_subset (hnames ▸ .refl _) hhandles
  | @transferFailed name h r d rest tally htake hdetach =>
    -- If the device that leaves has a name, it is the one that is given up.
    obtain ⟨hmem, hnames, hhandles⟩ := Replay.of_takeHandle? htake
    obtain ⟨hid, -⟩ := Roster.detach?_eq_some hdetach
    have hsub : (r.dropName name).names.Sublist s.replay.names := hnames ▸ List.filter_sublist
    have hdrop : (Bench.mk (r.dropName name) s.devices s.next).Leads := hs.of_subset hsub hhandles
    rw [← hid] at hdetach
    refine (hdrop.leave hdetach fun hmem' => ?_).of_subset (.refl _) fun _ => id
    obtain ⟨x, hx, heq⟩ := List.mem_map.1 hmem'
    obtain ⟨hx, hne⟩ := Replay.mem_names_dropName.1 hx
    exact hne (hs.own _ hmem x (hnames ▸ hx) (heq.trans hid))
  | @transferFailedAway name h r tally htake hdetach =>
    obtain ⟨-, hnames, hhandles⟩ := Replay.of_takeHandle? htake
    have hsub : (r.dropName name).names.Sublist s.replay.names := hnames ▸ List.filter_sublist
    exact hs.of_subset hsub hhandles
  | sleep => exact hs.of_subset (.refl _) fun _ => id

end Leads
end Bench
end DeviceWatch
