import DeviceWatch.Proofs.Leading
/-!
# Steps that fail

A step of a replay fails because of names and handles alone: a name is taken that
should be free, or is free that should be taken, or no handle of a name is left. The
bus has no say in it, as every name leads to a device on the bus.

`Replay.attempt` takes a step in place, so that what it has changed by the time that it
fails stays changed. That is nothing.
-/

namespace DeviceWatch

variable {κ τ : Type}

namespace Replay

/-- Takes a step that changes the replay as it goes. Answers whether it succeeded, with
the replay that it leaves in either case. -/
def attempt (host : Host κ τ) (b : BusId) (r : Replay) (step : Step) :
    Act κ τ (Except StepError Unit × Replay) := do
  match step with
  | .plug name vendor product deviceClass =>
    if (r.device? name).isSome then
      return (.error (.alreadyPlugged name), r)
    let (d, tally) ← Act.plug host b { label := name, vendor, product, deviceClass }
    let r := r.addName name d.id
    return (.ok (), r.record tally)
  | .unplug name =>
    match r.device? name with
    | none => return (.error (.notPlugged name), r)
    | some id =>
      match ← Act.unplug host b id with
      | .error e => return (.error (.bus e), r)
      | .ok (_, tally) =>
        let r := r.dropName name
        return (.ok (), r.record tally)
  | .openHandle name =>
    match r.device? name with
    | none => return (.error (.notPlugged name), r)
    | some id =>
      match ← Act.openDevice b id with
      | .error e => return (.error (.bus e), r)
      | .ok h =>
        let r := r.addHandle name h
        return (.ok (), r.count)
  | .closeHandle name =>
    match r.takeHandle? name with
    | none => return (.error (.noHandle name), r)
    | some (h, r) =>
      let _ ← Act.closeDevice b h
      return (.ok (), r.count)
  | .transferFailed name =>
    match r.takeHandle? name with
    | none => return (.error (.noHandle name), r)
    | some (h, r) =>
      let tally ← Act.transferFailed host b h
      let r := r.dropName name
      return (.ok (), r.record tally)
  | .sleep _ => return (.ok (), r.count)

/-- What is left of a replay by the outcome of a step. -/
def after (r : Replay) : Except StepError Replay → Except StepError Unit × Replay
  | .error e => (.error e, r)
  | .ok r' => (.ok (), r')

variable {host : Host κ τ} {b : BusId} {w w' : World κ τ} {r r' : Replay} {step : Step}
variable {name other : String} {h : OpenHandle} {error : StepError}

/-- **A step taken in place does what the step does**, and has changed nothing when it
fails. -/
theorem attempt_eq : attempt host b r step = after r <$> apply host b r step := by
  cases step with
  | plug name vendor product deviceClass =>
    rcases hname : r.device? name with _ | i
    · simp [attempt, apply, hname, after]
    · simp [attempt, apply, hname, after]
  | unplug name =>
    rcases hname : r.device? name with _ | i
    · simp [attempt, apply, hname, after]
    · simp only [attempt, apply, hname, map_bind]
      congr 1
      funext found
      rcases found with e | ⟨d, tally⟩
      · simp [after]
      · simp [after]
  | openHandle name =>
    rcases hname : r.device? name with _ | i
    · simp [attempt, apply, hname, after]
    · simp only [attempt, apply, hname, map_bind]
      congr 1
      funext answer
      rcases answer with e | h
      · simp [after]
      · simp [after]
  | closeHandle name =>
    rcases htake : r.takeHandle? name with _ | ⟨h, rest⟩
    · simp [attempt, apply, htake, after]
    · simp [attempt, apply, htake, after]
  | transferFailed name =>
    rcases htake : r.takeHandle? name with _ | ⟨h, rest⟩
    · simp [attempt, apply, htake, after]
    · simp [attempt, apply, htake, after]
  | sleep millis => simp [attempt, apply, after]

theorem run_attempt : (attempt host b r step).run w =
    { result := ((apply host b r step).run w).result.map (after r)
      world := ((apply host b r step).run w).world
      notices := ((apply host b r step).run w).notices } := by
  rw [attempt_eq, map_eq_pure_bind, Act.run_bind_pure]

/-! ## Queues of handles -/

/-- Each name has a queue of its own, and a handle is taken off its front. -/
theorem queue_of_take (htake : r.takeHandle? name = some (h, r')) :
    r.queue name = h :: r'.queue name ∧ ∀ other, other ≠ name → r'.queue other = r.queue other := by
  simp only [takeHandle?, Option.bind_eq_bind, Option.bind_eq_some_iff, pure, Option.some.injEq,
    Prod.mk.injEq] at htake
  obtain ⟨⟨n, k⟩, hfind, rfl, rfl⟩ := htake
  obtain ⟨hn, before, rest, heq, hbefore⟩ := List.find?_eq_some_iff_append.1 hfind
  obtain rfl : n = name := by simpa using hn
  have hother : ∀ e ∈ before, (e.1 == n) = false := by simpa using hbefore
  have herase : (r.handles.eraseP fun entry => entry.1 == n) = before ++ rest := by
    have hskip : ∀ e ∈ before, ¬ (e.1 == n) = true := fun e he => Bool.eq_false_iff.1 (hother e he)
    have hfirst : (((n, k) :: rest).eraseP fun entry => entry.1 == n) = rest :=
      List.eraseP_cons_of_pos hn
    rw [heq, List.eraseP_append_right _ hskip, hfirst]
  have hnone : (before.filterMap fun e => if e.1 == n then some e.2 else none) = [] := by
    refine List.filterMap_eq_nil_iff.2 fun e he => ?_
    rw [hother e he]
    rfl
  refine ⟨?_, fun other hne => ?_⟩
  · simp only [queue, herase]
    simp only [heq, List.filterMap_append, hnone, List.nil_append, List.filterMap_cons,
      beq_self_eq_true, if_true]
  · have hno : (n == other) = false := beq_eq_false_iff_ne.2 hne.symm
    simp only [queue, herase]
    simp only [heq, List.filterMap_append, List.filterMap_cons, hno, Bool.false_eq_true, if_false]

/-- There is no handle to be taken if the queue is empty. -/
theorem takeHandle?_eq_none_iff : r.takeHandle? name = none ↔ r.queue name = [] := by
  rcases htake : r.takeHandle? name with _ | ⟨h, r'⟩
  · refine iff_of_true rfl ?_
    have hfind : r.handles.find? (fun entry => entry.1 == name) = none := by
      rcases hfind : r.handles.find? (fun entry => entry.1 == name) with _ | e
      · exact hfind
      · simp [takeHandle?, hfind] at htake
    refine List.filterMap_eq_nil_iff.2 fun e he => ?_
    rw [Bool.eq_false_iff.2 (List.find?_eq_none.1 hfind e he)]
    rfl
  · rw [(queue_of_take htake).1]
    refine iff_of_false (fun heq => ?_) fun heq => ?_
    · cases heq
    · cases heq

/-- A handle goes to the end of the queue of its name. -/
theorem queue_addHandle :
    (r.addHandle name h).queue other =
      r.queue other ++ if name = other then [h] else [] := by
  rw [queue, addHandle, List.filterMap_append]
  by_cases heq : name = other
  · simp [queue, heq]
  · simp [queue, heq]

/-! ## Why a step fails -/

/-- **Why a step fails**, given the names that devices go by and the names of which no
handle is left. The bus is not among the reasons. -/
inductive Lacks (names : List String) (spent : String → Prop) : Step → StepError → Prop
  | plug {name : String} {vendor product : UInt16} {deviceClass : UInt8} : name ∈ names →
      Lacks names spent (.plug name vendor product deviceClass) (.alreadyPlugged name)
  | unplug {name : String} : name ∉ names →
      Lacks names spent (.unplug name) (.notPlugged name)
  | openHandle {name : String} : name ∉ names →
      Lacks names spent (.openHandle name) (.notPlugged name)
  | closeHandle {name : String} : spent name →
      Lacks names spent (.closeHandle name) (.noHandle name)
  | transferFailed {name : String} : spent name →
      Lacks names spent (.transferFailed name) (.noHandle name)

/-- A step fails for one reason only. -/
theorem Lacks.unique {names : List String} {spent : String → Prop} {error' : StepError}
    (hlacks : Lacks names spent step error) (hlacks' : Lacks names spent step error') :
    error = error' := by
  cases hlacks <;> cases hlacks' <;> rfl

theorem Lacks.congr {names : List String} {spent spent' : String → Prop}
    (hspent : ∀ name, spent name ↔ spent' name) (hlacks : Lacks names spent step error) :
    Lacks names spent' step error := by
  cases hlacks with
  | plug hin => exact .plug hin
  | unplug hno => exact .unplug hno
  | openHandle hno => exact .openHandle hno
  | closeHandle hs => exact .closeHandle ((hspent _).1 hs)
  | transferFailed hs => exact .transferFailed ((hspent _).1 hs)

/-- What a step lacks, by the names and the queues of the replay. -/
def lacks (r : Replay) : Step → StepError → Prop :=
  Lacks (r.names.map Prod.fst) fun name => r.queue name = []

/-- A step that lacks something fails for that, and does nothing. -/
theorem run_apply_of_lacks (hlacks : r.lacks step error) :
    (apply host b r step).run w = { result := some (.error error), world := w } := by
  cases hlacks with
  | @plug name vendor product deviceClass hin =>
    rcases hname : r.device? name with _ | i
    · exact absurd hin (device?_eq_none_iff.1 hname)
    · simp only [apply, hname, Option.isSome_some, if_true]
      rfl
  | unplug hno =>
    simp only [apply, device?_eq_none_iff.2 hno]
    rfl
  | openHandle hno =>
    simp only [apply, device?_eq_none_iff.2 hno]
    rfl
  | closeHandle hs =>
    simp only [apply, takeHandle?_eq_none_iff.2 hs]
    rfl
  | transferFailed hs =>
    simp only [apply, takeHandle?_eq_none_iff.2 hs]
    rfl

end Replay

/-- A handle can be opened on every device on the bus. -/
theorem Act.openDevice_succeeds {b : BusId} {w : World κ τ} {i : DeviceId}
    (hin : i ∈ (w.devices b).ids) :
    ∃ h, ((Act.openDevice b i).run w).result = some (.ok h) := by
  rcases hget : (w.roster (w.contextOf b)).get? i with _ | d
  · obtain ⟨d, hd, rfl⟩ := List.mem_map.1 hin
    exact absurd (beq_self_eq_true d.id) (List.find?_eq_none.1 hget d hd)
  · rw [run_openDevice, hget]
    exact ⟨_, rfl⟩

namespace Replay

variable {host : Host κ τ} {b : BusId} {w : World κ τ} {r : Replay} {step : Step}

/-- **A step that lacks nothing succeeds**, where names lead to devices. -/
theorem apply_succeeds (hr : ∀ inv, (host.react inv).Obeys (SameDevices b))
    (hret : ∀ inv, (host.react inv).Returns) (hs : (w.bench b r).Leads)
    (hlacks : ∀ error, ¬ r.lacks step error) :
    ∃ r', ((apply host b r step).run w).result = some (.ok r') := by
  have hlead : ∀ {name}, name ∈ r.names.map Prod.fst → ∃ i, r.device? name = some i ∧
      i ∈ (w.devices b).ids := by
    intro name hin
    rcases hname : r.device? name with _ | i
    · exact absurd hin (device?_eq_none_iff.1 hname)
    · exact ⟨i, rfl, hs.attached i (List.mem_map_of_mem (mem_of_device? hname))⟩
  cases step with
  | plug name vendor product deviceClass =>
    have hfree : r.device? name = none := device?_eq_none_iff.2 fun hin => hlacks _ (.plug hin)
    obtain ⟨⟨d, tally⟩, hplug⟩ := Act.returns_plug (b := b)
      (s := { label := name, vendor, product, deviceClass }) hret w
    simp only [apply, hfree, Option.isSome_none, Bool.false_eq_true, if_false,
      Act.run_bind_of_result hplug]
    exact ⟨_, rfl⟩
  | unplug name =>
    obtain ⟨i, hname, hin⟩ := hlead (not_not.1 fun hno => hlacks _ (.unplug hno))
    rcases hdetach : (w.devices b).detach? i with _ | ⟨d, rest⟩
    · exact absurd hin (Roster.detach?_eq_none_iff.1 hdetach)
    obtain ⟨a, hunplug⟩ := Act.returns_unplug (b := b) (i := i) hret w
    obtain ⟨-, -, hanswer⟩ := Act.unplug_detaches hr hdetach
    obtain ⟨tally, rfl⟩ := hanswer a hunplug
    simp only [apply, hname, Act.run_bind_of_result hunplug]
    exact ⟨_, rfl⟩
  | openHandle name =>
    obtain ⟨i, hname, hin⟩ := hlead (not_not.1 fun hno => hlacks _ (.openHandle hno))
    obtain ⟨h, hopen⟩ : ∃ h, ((Act.openDevice b i).run w).result = some (.ok h) :=
      Act.openDevice_succeeds hin
    simp only [apply, hname, Act.run_bind_of_result hopen]
    exact ⟨_, rfl⟩
  | closeHandle name =>
    rcases htake : r.takeHandle? name with _ | ⟨h, rest⟩
    · exact absurd (.closeHandle (takeHandle?_eq_none_iff.1 htake)) (hlacks _)
    obtain ⟨closed, hclose⟩ : ∃ closed, ((Act.closeDevice b h).run w).result = some closed :=
      Act.closed_returns.closeDevice (fun _ => Act.returns_closeHandle) w
    simp only [apply, htake, Act.run_bind_of_result hclose]
    exact ⟨_, rfl⟩
  | transferFailed name =>
    rcases htake : r.takeHandle? name with _ | ⟨h, rest⟩
    · exact absurd (.transferFailed (takeHandle?_eq_none_iff.1 htake)) (hlacks _)
    obtain ⟨tally, hfailed⟩ : ∃ tally, ((Act.transferFailed host b h).run w).result = some tally :=
      Act.parts_returns.calm hret (.transferFailed b h) w
    simp only [apply, htake, Act.run_bind_of_result hfailed]
    exact ⟨_, rfl⟩
  | sleep millis => exact ⟨_, rfl⟩

end Replay
end DeviceWatch
