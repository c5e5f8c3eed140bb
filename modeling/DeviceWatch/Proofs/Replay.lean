import DeviceWatch.Proofs.Attachment
import DeviceWatch.Scenario.Replay
/-!
# The steps of a replay

A step of a replay works on a bench: the names and the unused handles of the
replay, the devices on its bus, and the number of the next one. Where callbacks
neither attach nor detach devices, what a step that succeeds makes of the bench
does not depend on them; `Bench.Takes` says what it is, one case for each kind of
step, and invariants of replays are read off its cases.
-/

namespace DeviceWatch

variable {κ τ : Type}

/-! ## Names and handles -/

namespace Replay

variable {r r' : Replay} {name other : String} {i : DeviceId} {h : OpenHandle}

/-- The devices that go by a name. -/
def named (r : Replay) : List DeviceId :=
  r.names.map Prod.snd

/-- No name is given twice. -/
def Unambiguous (r : Replay) : Prop :=
  (r.names.map Prod.fst).Nodup

theorem mem_of_device? (h : r.device? name = some i) : (name, i) ∈ r.names := by
  obtain ⟨l₁, l₂, heq, -⟩ := List.lookup_eq_some_iff.1 h
  rw [heq]
  exact List.mem_append_right _ List.mem_cons_self

theorem device?_eq_none_iff : r.device? name = none ↔ name ∉ r.names.map Prod.fst := by
  rw [device?, List.lookup_eq_none_iff, List.mem_map]
  constructor
  · rintro h ⟨e, he, rfl⟩
    simpa using h e he
  · intro h e he
    refine bne_iff_ne.2 fun heq => h ⟨e, he, heq.symm⟩

theorem device?_of_mem (hn : r.Unambiguous) (hm : (name, i) ∈ r.names) :
    r.device? name = some i := by
  rcases h : r.device? name with _ | j
  · exact absurd (List.mem_map_of_mem hm) (device?_eq_none_iff.1 h)
  · have heq := List.inj_on_of_nodup_map hn (mem_of_device? h) hm rfl
    rw [(Prod.mk.inj heq).2]

theorem mem_names_dropName {e : String × DeviceId} :
    e ∈ (r.dropName name).names ↔ e ∈ r.names ∧ e.1 ≠ name := by
  rw [dropName, List.mem_filter, bne_iff_ne]

theorem names_dropName_of_free (h : r.device? name = none) :
    (r.dropName name).names = r.names := by
  refine List.filter_eq_self.2 fun e he => bne_iff_ne.2 fun heq => ?_
  exact device?_eq_none_iff.1 h (heq ▸ List.mem_map_of_mem he)

/-- A handle that is taken was there, and none is added. -/
theorem of_takeHandle? (htake : r.takeHandle? name = some (h, r')) :
    (name, h) ∈ r.handles ∧ r'.names = r.names ∧ ∀ e ∈ r'.handles, e ∈ r.handles := by
  simp only [takeHandle?, Option.bind_eq_bind, Option.bind_eq_some_iff, pure, Option.some.injEq,
    Prod.mk.injEq] at htake
  obtain ⟨⟨n, k⟩, hfind, rfl, rfl⟩ := htake
  obtain rfl : n = name := by simpa using List.find?_some hfind
  exact ⟨List.mem_of_find?_eq_some hfind, rfl, fun e he => List.mem_of_mem_eraseP he⟩

/-- A handle that is taken leaves the report as it is. -/
theorem report_of_takeHandle? (htake : r.takeHandle? name = some (h, r')) :
    r'.report = r.report := by
  obtain ⟨entry, -, heq⟩ := Option.bind_eq_some_iff.1 htake
  cases heq
  rfl

theorem names_dropName_of_take (htake : r.takeHandle? name = some (h, r')) (other : String) :
    (r'.dropName other).names = (r.dropName other).names := by
  obtain ⟨-, hnames, -⟩ := of_takeHandle? htake
  rw [dropName, dropName, hnames]

end Replay

/-! ## Steps -/

/-- What a step of a replay works on. -/
structure Bench where
  replay : Replay
  /-- The devices on the bus. -/
  devices : Roster
  /-- The number of the next device. -/
  next : Nat

/-- The bench of a replay on a bus. -/
def World.bench (w : World κ τ) (b : BusId) (r : Replay) : Bench :=
  ⟨r, w.devices b, (w.bus b).nextDevice⟩

/-- **What a step that succeeds makes of the bench.** -/
inductive Bench.Takes (s : Bench) : Step → Bench → Prop
  /-- A name that is free goes to a device under the next number. -/
  | plug {name : String} {vendor product : UInt16} {deviceClass : UInt8} (d : Device)
      (tally : Tally) : s.replay.device? name = none → d.id.val = s.next →
      s.Takes (.plug name vendor product deviceClass)
        ⟨(s.replay.addName name d.id).record tally, s.devices.attach d, s.next + 1⟩
  | unplug {name : String} {i : DeviceId} {d : Device} {rest : Roster} (tally : Tally) :
      s.replay.device? name = some i → s.devices.detach? i = some (d, rest) →
      s.Takes (.unplug name) ⟨(s.replay.dropName name).record tally, rest, s.next⟩
  | openHandle {name : String} {i : DeviceId} {h : OpenHandle} :
      s.replay.device? name = some i → s.devices.get? i = some h.device →
      s.Takes (.openHandle name) ⟨(s.replay.addHandle name h).count, s.devices, s.next⟩
  | closeHandle {name : String} {h : OpenHandle} {r : Replay} :
      s.replay.takeHandle? name = some (h, r) →
      s.Takes (.closeHandle name) ⟨r.count, s.devices, s.next⟩
  /-- The device of the handle leaves; the name is given up. -/
  | transferFailed {name : String} {h : OpenHandle} {r : Replay} {d : Device} {rest : Roster}
      (tally : Tally) : s.replay.takeHandle? name = some (h, r) →
      s.devices.detach? h.device.id = some (d, rest) →
      s.Takes (.transferFailed name) ⟨(r.dropName name).record tally, rest, s.next⟩
  /-- The device of the handle has left before; the name is given up. -/
  | transferFailedAway {name : String} {h : OpenHandle} {r : Replay} (tally : Tally) :
      s.replay.takeHandle? name = some (h, r) → s.devices.detach? h.device.id = none →
      s.Takes (.transferFailed name) ⟨(r.dropName name).record tally, s.devices, s.next⟩
  | sleep {millis : UInt64} : s.Takes (.sleep millis) ⟨s.replay.count, s.devices, s.next⟩

namespace Act.Closed

variable {P : (α : Type) → Act κ τ α → Prop} {host : Host κ τ} {b : BusId} {r : Replay}
variable {step : Step}

/-- **What a step comes down to**, with the handle that it closes. -/
theorem of_step (hP : Act.Closed P) (hplug : ∀ s, P _ (Act.plug host b s))
    (hunplug : ∀ i, P _ (Act.unplug host b i)) (hopen : ∀ i, P _ (Act.openDevice b i))
    (hclose : ∀ name h rest, step = .closeHandle name → r.takeHandle? name = some (h, rest) →
      P _ (Act.closeDevice b h))
    (hfailed : ∀ h, P _ (Act.transferFailed host b h)) : P _ (Replay.apply host b r step) := by
  cases step with
  | plug name vendor product deviceClass =>
    simp only [Replay.apply]
    split
    · exact hP.pure _
    · exact hP.bind (hplug _) fun _ => hP.pure _
  | unplug name =>
    simp only [Replay.apply]
    split
    · exact hP.pure _
    · refine hP.bind (hunplug _) fun answer => ?_
      rcases answer with e | ⟨d, tally⟩
      · exact hP.pure _
      · exact hP.pure _
  | openHandle name =>
    simp only [Replay.apply]
    split
    · exact hP.pure _
    · refine hP.bind (hopen _) fun answer => ?_
      rcases answer with e | h
      · exact hP.pure _
      · exact hP.pure _
  | closeHandle name =>
    simp only [Replay.apply]
    split
    · exact hP.pure _
    next h rest htake => exact hP.bind (hclose name h rest rfl htake) fun _ => hP.pure _
  | transferFailed name =>
    simp only [Replay.apply]
    split
    · exact hP.pure _
    · exact hP.bind (hfailed _) fun _ => hP.pure _
  | sleep millis => exact hP.pure _

/-- A step is put together from acts on the bus. -/
theorem apply (hP : Act.Closed P)
    (hop : ∀ {α : Type} {x : Act κ τ α}, Repertoire.Calm host α x → P α x) :
    P _ (Replay.apply host b r step) :=
  hP.of_step (fun s => hop (.plug b s)) (fun i => hop (.unplug b i))
    (fun i => hop (.openDevice b i)) (fun _ h _ _ _ => hop (.closeDevice b h))
    fun h => hop (.transferFailed b h)

end Act.Closed

namespace Replay

variable {host : Host κ τ} {b : BusId} {w : World κ τ} {r r' : Replay} {step : Step}

/-- The world's bench, after an act on the bus that had this outcome. -/
theorem bench_eq {w' : World κ τ} {bus : Bus} {devices : Roster} (hbus : w'.bus b = bus)
    (hdevices : w'.devices b = devices) : w'.bench b r = ⟨r, devices, bus.nextDevice⟩ := by
  rw [World.bench, hbus, hdevices]

/-- Where devices stay what they are, so does all of the bench but the replay. -/
theorem bench_of_same {w' : World κ τ} {ns : List Notice} (h : SameDevices b w ns w') :
    w'.bench b r = ⟨r, w.devices b, (w.bus b).nextDevice⟩ :=
  bench_eq h.bus h.devices

/-- **A step that succeeds takes the bench to another one**, where callbacks leave
the devices alone. -/
theorem takes_of_apply (hr : ∀ inv, (host.react inv).Obeys (SameDevices b))
    (hok : ((apply host b r step).run w).result = some (.ok r')) :
    (w.bench b r).Takes step (((apply host b r step).run w).world.bench b r') := by
  cases step with
  | plug name vendor product deviceClass =>
    rcases hname : r.device? name with _ | i
    · simp only [apply, hname, Option.isSome_none, Bool.false_eq_true, if_false] at hok ⊢
      obtain ⟨⟨d, tally⟩, hplug, hreturn, hworld⟩ := Act.of_run_bind hok
      cases hreturn
      obtain ⟨hbus, hdevices, hnew⟩ : ((Act.plug host b _).run w).world.bus b = _ ∧ _ :=
        Act.plug_attaches hr
      obtain rfl := hnew d tally hplug
      rw [hworld, Act.run_pure, bench_eq hbus hdevices]
      exact .plug _ tally hname rfl
    · simp only [apply, hname, Option.isSome_some, if_true] at hok
      cases hok
  | unplug name =>
    rcases hname : r.device? name with _ | i
    · simp only [apply, hname] at hok
      cases hok
    simp only [apply, hname] at hok ⊢
    obtain ⟨found, hunplug, hreturn, hworld⟩ := Act.of_run_bind hok
    rcases hdetach : (w.devices b).detach? i with _ | ⟨d, rest⟩
    · -- A device that is not there fails the step.
      rw [Act.run_unplug_of_none hdetach] at hunplug
      cases hunplug
      cases hreturn
    · obtain ⟨hbus, hdevices, hanswer⟩ := Act.unplug_detaches hr hdetach
      obtain ⟨tally, rfl⟩ := hanswer found hunplug
      cases hreturn
      simp only [hworld, Act.run_pure, bench_eq hbus hdevices]
      exact .unplug tally hname hdetach
  | openHandle name =>
    rcases hname : r.device? name with _ | i
    · simp only [apply, hname] at hok
      cases hok
    simp only [apply, hname] at hok ⊢
    obtain ⟨answer, hopen, hreturn, hworld⟩ := Act.of_run_bind hok
    have hsame : (Act.openDevice b i : Act κ τ _).Obeys (SameDevices b) :=
      Act.sameDevices_openDevice
    rcases answer with e | h
    · cases hreturn
    · cases hreturn
      simp only [hworld, Act.run_pure, bench_of_same (hsame w)]
      exact .openHandle hname (Act.openDevice_answer hopen)
  | closeHandle name =>
    rcases htake : r.takeHandle? name with _ | ⟨h, rest⟩
    · simp only [apply, htake] at hok
      cases hok
    simp only [apply, htake] at hok ⊢
    obtain ⟨closed, -, hreturn, hworld⟩ := Act.of_run_bind hok
    have hsame : (Act.closeDevice b h : Act κ τ _).Obeys (SameDevices b) :=
      Act.sameDevices_closeDevice
    cases hreturn
    rw [hworld, Act.run_pure, bench_of_same (hsame w)]
    exact .closeHandle htake
  | transferFailed name =>
    rcases htake : r.takeHandle? name with _ | ⟨h, rest⟩
    · simp only [apply, htake] at hok
      cases hok
    simp only [apply, htake] at hok ⊢
    obtain ⟨tally, hfailed, hreturn, hworld⟩ := Act.of_run_bind hok
    cases hreturn
    rw [hworld, Act.run_pure]
    rcases hdetach : (w.devices b).detach? h.device.id with _ | ⟨d, left⟩
    · rw [Act.run_transferFailed_of_none hdetach]
      exact .transferFailedAway tally htake hdetach
    · obtain ⟨hbus, hdevices⟩ := Act.transferFailed_detaches hr hdetach
      rw [bench_eq hbus hdevices]
      exact .transferFailed tally htake hdetach
  | sleep millis =>
    cases hok
    exact .sleep

/-- A replay says at most what it is about before it takes its steps. -/
theorem run_eq (host : Host κ τ) (b : BusId) (w : World κ τ) (s : Scenario) :
    ∃ ns, (∀ n ∈ ns, ∃ description, n = .replaying description) ∧
      (run host b s).run w =
        { (runFrom host b 1 s.steps {}).run w with
          notices := ns ++ ((runFrom host b 1 s.steps {}).run w).notices } := by
  by_cases hd : (!s.description.isEmpty) = true
  · refine ⟨[.replaying s.description], by simp, ?_⟩
    simp only [run, if_pos hd]
    rfl
  · refine ⟨[], List.forall_mem_nil _, ?_⟩
    simp only [run, if_neg hd]
    rfl

end Replay
end DeviceWatch
