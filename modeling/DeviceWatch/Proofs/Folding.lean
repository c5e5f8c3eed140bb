import Mathlib.Algebra.GroupWithZero.Nat
import DeviceWatch.Proofs.StepFailures
/-!
# A replay as a fold

A replay of a scenario takes its steps one after the other until one fails. So it is the
fold of `apply` over the steps: with its result, its world and its report if all of them
succeed, and otherwise with the world and the notices of those before the first that
fails. What was done before is neither undone nor done again.
-/

namespace DeviceWatch

variable {κ τ : Type}

namespace Act

variable {host : Host κ τ} {b : BusId} {w : World κ τ} {i : DeviceId} {e : BusError}

/-- A device that cannot be unplugged is told to nobody. -/
theorem run_unplug_of_error (h : ((unplug host b i).run w).result = some (.error e)) :
    (unplug host b i).run w = { result := some (.error e), world := w } := by
  rcases hdetach : (w.devices b).detach? i with _ | ⟨d, rest⟩
  · rw [run_unplug_of_none hdetach] at h ⊢
    cases h
    rfl
  · rw [run_unplug, show (w.roster (w.contextOf b)).detach? i = _ from hdetach] at h
    obtain ⟨tally, -, heq⟩ := Option.map_eq_some_iff.1 h
    cases heq

/-- A device that cannot be opened stays as it is. -/
theorem run_openDevice_of_error (h : ((openDevice b i).run w).result = some (.error e)) :
    (openDevice b i).run w = { result := some (.error e), world := w } := by
  rw [run_openDevice] at h ⊢
  rcases hget : (w.roster (w.contextOf b)).get? i with _ | d
  · rw [hget] at h
    cases h
    rfl
  · rw [hget] at h
    cases h

end Act

namespace Replay

/-- Takes steps one after the other, as far as they succeed. -/
def applyAll (host : Host κ τ) (b : BusId) (steps : List Step) (r : Replay) :
    Act κ τ (Except StepError Replay) :=
  (steps.foldlM (fun r step => ExceptT.mk (apply host b r step)) r :
    ExceptT StepError (Act κ τ) Replay).run

/-- The summary of the pass that a step on a bus leads to; of no pass, if it leads to none. -/
def summary (host : Host κ τ) (b : BusId) (r : Replay) (step : Step) (w : World κ τ) : Tally :=
  match step with
  | .plug name vendor product deviceClass =>
    match ((Act.plug host b { label := name, vendor, product, deviceClass }).run w).result with
    | some (_, tally) => tally
    | none => {}
  | .unplug name =>
    match (r.device? name).bind fun id => ((Act.unplug host b id).run w).result with
    | some (.ok (_, tally)) => tally
    | _ => {}
  | .transferFailed name =>
    match (r.takeHandle? name).bind fun (h, _) =>
      ((Act.transferFailed host b h).run w).result with
    | some tally => tally
    | none => {}
  | _ => {}

/-- The summaries of steps that are taken one after the other, as far as they succeed. -/
def summaries (host : Host κ τ) (b : BusId) : List Step → Replay → World κ τ → List Tally
  | [], _, _ => []
  | step :: rest, r, w =>
    summary host b r step w ::
      match ((apply host b r step).run w).result with
      | some (.ok r') => summaries host b rest r' ((apply host b r step).run w).world
      | _ => []

variable {host : Host κ τ} {b : BusId} {w : World κ τ} {r r' : Replay} {step : Step}
variable {steps before rest : List Step} {place : Nat} {error : StepError}

/-! ## One step -/

/-- **A step that fails leaves everything as it was**, on whatever bus and for whatever
reason. -/
theorem run_apply_of_error (hfail : ((apply host b r step).run w).result = some (.error error)) :
    (apply host b r step).run w = { result := some (.error error), world := w } := by
  cases step with
  | plug name vendor product deviceClass =>
    rcases hname : r.device? name with _ | i
    · simp only [apply, hname, Option.isSome_none, Bool.false_eq_true, if_false] at hfail
      obtain ⟨_, -, hreturn, -⟩ := Act.of_run_bind hfail
      cases hreturn
    · simp only [apply, hname, Option.isSome_some, if_true] at hfail ⊢
      cases hfail
      rfl
  | unplug name =>
    rcases hname : r.device? name with _ | i
    · simp only [apply, hname] at hfail ⊢
      cases hfail
      rfl
    · simp only [apply, hname] at hfail ⊢
      obtain ⟨e | ⟨d, tally⟩, hunplug, hreturn, -⟩ := Act.of_run_bind hfail
      · cases hreturn
        rw [Act.run_bind_of_result hunplug, Act.run_unplug_of_error hunplug]
        rfl
      · cases hreturn
  | openHandle name =>
    rcases hname : r.device? name with _ | i
    · simp only [apply, hname] at hfail ⊢
      cases hfail
      rfl
    · simp only [apply, hname] at hfail ⊢
      obtain ⟨e | h, hopen, hreturn, -⟩ := Act.of_run_bind hfail
      · cases hreturn
        rw [Act.run_bind_of_result hopen, Act.run_openDevice_of_error hopen]
        rfl
      · cases hreturn
  | closeHandle name =>
    rcases htake : r.takeHandle? name with _ | ⟨h, rest⟩
    · simp only [apply, htake] at hfail ⊢
      cases hfail
      rfl
    · simp only [apply, htake] at hfail
      obtain ⟨_, -, hreturn, -⟩ := Act.of_run_bind hfail
      cases hreturn
  | transferFailed name =>
    rcases htake : r.takeHandle? name with _ | ⟨h, rest⟩
    · simp only [apply, htake] at hfail ⊢
      cases hfail
      rfl
    · simp only [apply, htake] at hfail
      obtain ⟨_, -, hreturn, -⟩ := Act.of_run_bind hfail
      cases hreturn
  | sleep millis => cases hfail

/-- **A step that succeeds counts itself and the summary of its pass**, and nothing
else. -/
theorem report_of_apply (hok : ((apply host b r step).run w).result = some (.ok r')) :
    r'.report = r.report.record (summary host b r step w) := by
  cases step with
  | plug name vendor product deviceClass =>
    rcases hname : r.device? name with _ | i
    · simp only [apply, hname, Option.isSome_none, Bool.false_eq_true, if_false] at hok
      obtain ⟨⟨d, tally⟩, hplug, hreturn, -⟩ := Act.of_run_bind hok
      cases hreturn
      simp only [summary, hplug]
      rfl
    · simp only [apply, hname, Option.isSome_some, if_true] at hok
      cases hok
  | unplug name =>
    rcases hname : r.device? name with _ | i
    · simp only [apply, hname] at hok
      cases hok
    · simp only [apply, hname] at hok
      obtain ⟨e | ⟨d, tally⟩, hunplug, hreturn, -⟩ := Act.of_run_bind hok
      · cases hreturn
      · cases hreturn
        simp only [summary, hname, Option.bind_some, hunplug]
        rfl
  | openHandle name =>
    rcases hname : r.device? name with _ | i
    · simp only [apply, hname] at hok
      cases hok
    · simp only [apply, hname] at hok
      obtain ⟨e | h, hopen, hreturn, -⟩ := Act.of_run_bind hok
      · cases hreturn
      · cases hreturn
        rfl
  | closeHandle name =>
    rcases htake : r.takeHandle? name with _ | ⟨h, rest⟩
    · simp only [apply, htake] at hok
      cases hok
    · simp only [apply, htake] at hok
      obtain ⟨closed, -, hreturn, -⟩ := Act.of_run_bind hok
      cases hreturn
      rw [count, report_of_takeHandle? htake]
      rfl
  | transferFailed name =>
    rcases htake : r.takeHandle? name with _ | ⟨h, rest⟩
    · simp only [apply, htake] at hok
      cases hok
    · simp only [apply, htake] at hok
      obtain ⟨tally, hfailed, hreturn, -⟩ := Act.of_run_bind hok
      cases hreturn
      simp only [summary, htake, Option.bind_some, hfailed]
      rw [record, dropName, report_of_takeHandle? htake]
  | sleep millis =>
    cases hok
    rfl

/-! ## Steps one after the other -/

theorem applyAll_cons : applyAll host b (step :: rest) r = (do
    match ← apply host b r step with
    | .error error => return .error error
    | .ok r => applyAll host b rest r) := by
  rw [applyAll, List.foldlM_cons, ExceptT.run_bind]
  refine congrArg (apply host b r step >>= ·) (funext fun answer => ?_)
  rcases answer with error | r'
  · rfl
  · rfl

/-- After a step that succeeds the others are taken. -/
theorem run_applyAll_cons (hok : ((apply host b r step).run w).result = some (.ok r')) :
    (applyAll host b (step :: rest) r).run w =
      { (applyAll host b rest r').run ((apply host b r step).run w).world with
        notices := ((apply host b r step).run w).notices ++
          ((applyAll host b rest r').run ((apply host b r step).run w).world).notices } := by
  rw [applyAll_cons, Act.run_bind_of_result hok]

theorem run_runFrom_cons (hok : ((apply host b r step).run w).result = some (.ok r')) :
    (runFrom host b place (step :: rest) r).run w =
      { (runFrom host b (place + 1) rest r').run ((apply host b r step).run w).world with
        notices := ((apply host b r step).run w).notices ++
          ((runFrom host b (place + 1) rest r').run
            ((apply host b r step).run w).world).notices } := by
  rw [runFrom_cons, Act.run_bind_of_result hok]

/-- If steps succeed, so does the first of them, and the others after it. -/
theorem of_applyAll_cons
    (hok : ((applyAll host b (step :: rest) r).run w).result = some (.ok r')) :
    ∃ r₁, ((apply host b r step).run w).result = some (.ok r₁) ∧
      ((applyAll host b rest r₁).run ((apply host b r step).run w).world).result =
        some (.ok r') := by
  rw [applyAll_cons] at hok
  obtain ⟨error | r₁, hstep, hrest, -⟩ := Act.of_run_bind hok
  · cases hrest
  · exact ⟨r₁, hstep, hrest⟩

/-- **The report of steps that succeed** counts them and adds up their summaries. -/
theorem report_of_applyAll (hok : ((applyAll host b steps r).run w).result = some (.ok r')) :
    r'.report =
      { steps := r.report.steps + steps.length
        invoked := r.report.invoked + ((summaries host b steps r w).map Tally.invoked).sum
        disconnected := r.report.disconnected +
          ((summaries host b steps r w).map Tally.disconnected).sum } := by
  induction steps generalizing r w with
  | nil =>
    cases hok
    rfl
  | cons step rest ih =>
    obtain ⟨r₁, hstep, hrest⟩ := of_applyAll_cons hok
    rw [ih hrest, report_of_apply hstep]
    simp only [summaries, hstep, ReplayReport.record, List.length_cons, List.map_cons,
      List.sum_cons, ReplayReport.mk.injEq]
    omega

/-- Steps stop at one that fails: those before it succeed. -/
def Stops (host : Host κ τ) (b : BusId) (r : Replay) (w : World κ τ)
    (steps before : List Step) (error : StepError) : Prop :=
  ∃ step rest r', steps = before ++ step :: rest ∧
    ((applyAll host b before r).run w).result = some (.ok r') ∧
    ((apply host b r' step).run ((applyAll host b before r).run w).world).result =
      some (.error error)

/-- A step that fails stops the steps at once. -/
theorem stops_nil (hfail : ((apply host b r step).run w).result = some (.error error)) :
    Stops host b r w (step :: rest) [] error :=
  ⟨step, rest, r, rfl, rfl, hfail⟩

/-- After a step that succeeds, all of the steps stop where those after it do. -/
theorem stops_cons_iff (hok : ((apply host b r step).run w).result = some (.ok r')) :
    Stops host b r w (step :: rest) (step :: before) error ↔
      Stops host b r' ((apply host b r step).run w).world rest before error := by
  simp only [Stops, run_applyAll_cons hok, List.cons_append, List.cons.injEq, true_and]

/-- **Steps succeed or stop at one that fails**, where no callback panics. -/
theorem succeeds_or_stops (hret : ∀ inv, (host.react inv).Returns) (steps : List Step)
    (r : Replay) (w : World κ τ) :
    (∃ r', ((applyAll host b steps r).run w).result = some (.ok r')) ∨
      ∃ before error, Stops host b r w steps before error := by
  induction steps generalizing r w with
  | nil => exact Or.inl ⟨r, rfl⟩
  | cons step rest ih =>
    have hreturns : (apply host b r step).Returns :=
      Act.closed_returns.apply (Act.parts_returns.calm hret)
    obtain ⟨error | r₁, hstep⟩ := hreturns w
    · exact Or.inr ⟨[], error, stops_nil hstep⟩
    · rcases ih r₁ ((apply host b r step).run w).world with ⟨r', hrest⟩ | ⟨before, error, hstop⟩
      · refine Or.inl ⟨r', ?_⟩
        rw [run_applyAll_cons hstep]
        exact hrest
      · exact Or.inr ⟨step :: before, error, (stops_cons_iff hstep).2 hstop⟩

/-! ## Replays -/

/-- **If the steps succeed, the replay leaves what they leave**, and answers their
report. -/
theorem runFrom_of_ok (hok : ((applyAll host b steps r).run w).result = some (.ok r')) :
    (runFrom host b place steps r).run w =
      { result := some (.ok r'.report)
        world := ((applyAll host b steps r).run w).world
        notices := ((applyAll host b steps r).run w).notices } := by
  induction steps generalizing place r w with
  | nil =>
    cases hok
    rfl
  | cons step rest ih =>
    obtain ⟨r₁, hstep, hrest⟩ := of_applyAll_cons hok
    rw [run_runFrom_cons hstep, run_applyAll_cons hstep, ih hrest]

/-- **If the steps stop, the replay leaves what those before leave**, and answers the place
at which they stop. -/
theorem runFrom_of_stops (h : Stops host b r w steps before error) :
    (runFrom host b place steps r).run w =
      { result := some (.error ⟨place + before.length, error⟩)
        world := ((applyAll host b before r).run w).world
        notices := ((applyAll host b before r).run w).notices } := by
  induction before generalizing place r w steps with
  | nil =>
    obtain ⟨step, rest, r', rfl, hbefore, hfail⟩ := h
    cases hbefore
    have hfail : ((apply host b r step).run w).result = some (.error error) := hfail
    rw [List.nil_append, runFrom_cons, Act.run_bind, run_apply_of_error hfail]
    rfl
  | cons first before ih =>
    obtain ⟨step, rest, r', rfl, hbefore, -⟩ := id h
    obtain ⟨r₁, hstep, -⟩ := of_applyAll_cons hbefore
    have hrest : Stops host b r₁ _ (before ++ step :: rest) before error :=
      (stops_cons_iff hstep).1 h
    have hplace : place + 1 + before.length = place + (before.length + 1) := by omega
    rw [List.cons_append, run_runFrom_cons hstep, run_applyAll_cons hstep, ih hrest, hplace,
      List.length_cons]

/-- The replay leaves the world of an effect, and its notices after at most one that says
what the replay is about. -/
def Leaves (host : Host κ τ) (b : BusId) (s : Scenario) (w : World κ τ) {α : Type}
    (e : Effect κ τ α) : Prop :=
  ((run host b s).run w).world = e.world ∧
    ∃ ns, (∀ n ∈ ns, ∃ description, n = .replaying description) ∧
      ((run host b s).run w).notices = ns ++ e.notices

/-- **What a replay is by the fold of `apply`** over its steps. -/
structure AsFolded (host : Host κ τ) (b : BusId) (s : Scenario) (w : World κ τ) : Prop where
  /-- It comes to an end. -/
  ends : ∃ answer, ((run host b s).run w).result = some answer
  /-- It succeeds if and only if all steps do, with their report. -/
  succeeds (report : ReplayReport) : ((run host b s).run w).result = some (.ok report) ↔
    ∃ r, ((applyAll host b s.steps {}).run w).result = some (.ok r) ∧ r.report = report
  /-- The report counts the steps and adds up the summaries of their passes. -/
  report (r : Replay) : ((applyAll host b s.steps {}).run w).result = some (.ok r) →
    r.report =
      { steps := s.steps.length
        invoked := ((summaries host b s.steps {} w).map Tally.invoked).sum
        disconnected := ((summaries host b s.steps {} w).map Tally.disconnected).sum }
  /-- If all steps succeed, it leaves what they leave. -/
  leaves (r : Replay) : ((applyAll host b s.steps {}).run w).result = some (.ok r) →
    Leaves host b s w ((applyAll host b s.steps {}).run w)
  /-- It fails if and only if a step does, at the place of the first that does. -/
  fails (error : ReplayError) : ((run host b s).run w).result = some (.error error) ↔
    ∃ before, Stops host b {} w s.steps before error.error ∧ error.place = before.length + 1
  /-- If a step fails, it leaves what the steps before that leave. -/
  stops (before : List Step) (error : StepError) : Stops host b {} w s.steps before error →
    Leaves host b s w ((applyAll host b before {}).run w)

/-- **Replaying a scenario is folding `apply` over its steps**, sleeps included, where no
callback panics. -/
theorem run_as_folded (hret : ∀ inv, (host.react inv).Returns) (b : BusId) (s : Scenario)
    (w : World κ τ) : AsFolded host b s w := by
  obtain ⟨ns, hns, hrun⟩ := run_eq host b w s
  have hok : ∀ r, ((applyAll host b s.steps {}).run w).result = some (.ok r) →
      ((run host b s).run w).result = some (.ok r.report) ∧
        Leaves host b s w ((applyAll host b s.steps {}).run w) := by
    intro r hfold
    rw [Leaves, hrun, runFrom_of_ok hfold]
    exact ⟨rfl, rfl, ns, hns, rfl⟩
  have hstop : ∀ before error, Stops host b {} w s.steps before error →
      ((run host b s).run w).result = some (.error ⟨1 + before.length, error⟩) ∧
        Leaves host b s w ((applyAll host b before {}).run w) := by
    intro before error hstops
    rw [Leaves, hrun, runFrom_of_stops hstops]
    exact ⟨rfl, rfl, ns, hns, rfl⟩
  have hcases := succeeds_or_stops (b := b) hret s.steps {} w
  refine ⟨?ends, fun report => ⟨fun hreport => ?ok, fun ⟨r, hfold, hreport⟩ => ?fold⟩,
    fun r hfold => ?report, fun r hfold => (hok r hfold).2,
    fun error => ⟨fun herror => ?stopped, fun ⟨before, hstops, hplace⟩ => ?failed⟩,
    fun before error hstops => (hstop before error hstops).2⟩
  case ends =>
    rcases hcases with ⟨r, hfold⟩ | ⟨before, error, hstops⟩
    · exact ⟨_, (hok r hfold).1⟩
    · exact ⟨_, (hstop before error hstops).1⟩
  case ok =>
    rcases hcases with ⟨r, hfold⟩ | ⟨before, error, hstops⟩
    · rw [(hok r hfold).1] at hreport
      exact ⟨r, hfold, Except.ok.inj (Option.some.inj hreport)⟩
    · rw [(hstop before error hstops).1] at hreport
      cases hreport
  case fold =>
    rw [(hok r hfold).1, hreport]
  case report =>
    rw [report_of_applyAll hfold]
    simp only [Nat.zero_add]
  case stopped =>
    rcases hcases with ⟨r, hfold⟩ | ⟨before, error', hstops⟩
    · rw [(hok r hfold).1] at herror
      cases herror
    · rw [(hstop before error' hstops).1] at herror
      cases herror
      exact ⟨before, hstops, Nat.add_comm _ _⟩
  case failed =>
    rw [(hstop before error.error hstops).1, Nat.add_comm, ← hplace]

/-- Callbacks close a handle when a device leaves. One scenario goes to its end, with
waiting in between, and the other one stops at a step in its middle. -/
theorem run_as_folded_before_closing :
    ∃ w : World Unit Unit,
      AsFolded (Act.closing ⟨1⟩) ⟨1⟩ ⟨"a transfer fails", [.plug "a" 1 1 0, .openHandle "a",
        .sleep 10, .openHandle "a", .transferFailed "a", .sleep 0]⟩ w ∧
      ((run (Act.closing ⟨1⟩) ⟨1⟩ ⟨"a transfer fails", [.plug "a" 1 1 0, .openHandle "a",
        .sleep 10, .openHandle "a", .transferFailed "a", .sleep 0]⟩).run w).result =
          some (.ok ⟨6, 2, 1⟩) ∧
      AsFolded (Act.closing ⟨1⟩) ⟨1⟩ ⟨"", [.plug "a" 1 1 0, .sleep 10, .unplug "b",
        .unplug "a"]⟩ w ∧
      ((run (Act.closing ⟨1⟩) ⟨1⟩ ⟨"", [.plug "a" 1 1 0, .sleep 10, .unplug "b",
        .unplug "a"]⟩).run w).result = some (.error ⟨3, .notPlugged "b"⟩) := by
  have hreturns : ∀ inv, ((Act.closing ⟨1⟩).react inv).Returns :=
    fun inv => (Act.closing_within inv).returns_onBus
  refine ⟨((Act.register (Act.closing ⟨1⟩) ⟨1⟩ { events := .all, program := some () }).run
    Act.oneBus).world, run_as_folded hreturns _ _ _, rfl, run_as_folded hreturns _ _ _, rfl⟩

end Replay
end DeviceWatch
