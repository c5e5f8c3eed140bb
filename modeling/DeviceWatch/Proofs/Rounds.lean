import DeviceWatch.Proofs.Account
import DeviceWatch.Proofs.Fate
/-!
# Rounds that break off

A pass makes its visits to many records for one device, an enumeration to one
record for many devices. Both are rounds of visits that were planned when they
began. A round breaks off where the callback of a visit does not return: the
visits before it were made, its own visit is never committed, and the visits
ahead of it are not made. What the round does by itself touches no record but
those that it visits.
-/

namespace DeviceWatch

variable {κ τ α : Type}

/-! ## Visits that do not come to their end -/

/-- What the callback that the visit ran has noted. -/
def Turn.reports (t : Turn κ τ) : List Notice :=
  match t.call with
  | none => []
  | some run => run.notices

namespace Act

variable {host : Host κ τ} {c : ContextId} {d : Device} {e : Event} {w : World κ τ}
variable {id : CallbackId}

/-- A visit whose callback panics stops in the world that the callback left. It
commits nothing. -/
theorem run_visit_of_panic {run : Effect κ τ Wish} (h : call host c d e w id = some run)
    (hr : run.result = none) :
    (visit host c d e id).run w =
      { result := none
        world := run.world
        notices := .decided c id .invoke :: .delivered c id d e :: run.notices } := by
  rcases hv : ((w.registry c).decide id d e).1 with _ | _ | _ | program
  all_goals simp only [call, hv] at h
  all_goals cases h
  rw [visit, run_bind, run_decide, Effect.andThen_some, hv]
  simp only [invoke, run_bind, run_note, Effect.andThen, hr, Verdict.decision]
  simp

/-- Only a callback panics under a visit. -/
theorem call_of_panic (h : ((visit host c d e id).run w).result = none) :
    ∃ run, call host c d e w id = some run ∧ run.result = none := by
  rcases hc : call host c d e w id with _ | run
  · obtain ⟨v, -, -, hrun⟩ := run_visit_of_no_call hc
    rw [hrun] at h
    cases h
  · rcases hr : run.result with _ | wish
    · exact ⟨run, rfl, hr⟩
    · rw [run_visit_of_call hc hr] at h
      cases h

/-- A visit notes at first what it decided. -/
theorem notices_of_visit :
    ∃ v rest, ((visit host c d e id).run w).notices = .decided c id v :: rest := by
  rw [visit, run_bind, run_decide, Effect.andThen_some]
  exact ⟨_, _, rfl⟩

/-- A visit that runs a callback notes so at once. -/
theorem notices_of_call {run : Effect κ τ Wish} (h : call host c d e w id = some run) :
    ∃ rest, ((visit host c d e id).run w).notices =
      .decided c id .invoke :: .delivered c id d e :: rest := by
  rcases hr : run.result with _ | wish
  · exact ⟨run.notices, by rw [run_visit_of_panic h hr]⟩
  · exact ⟨_, by rw [run_visit_of_call h hr]⟩

/-- What a visit notes by itself is about its own record. -/
theorem any_whole_turn {p : Notice → Bool} (hdecided : ∀ v, p (.decided c id v) = false)
    (hdelivered : p (.delivered c id d e) = false)
    (hcommitted : ∀ wish b, p (.committed c id wish b) = false) :
    (turn host c d e w id).whole.notices.any p = (turn host c d e w id).reports.any p := by
  rcases hc : call host c d e w id with _ | run
  · obtain ⟨v, -, -, hrun⟩ := run_visit_of_no_call hc
    simp [turn, Turn.reports, hc, hrun, hdecided]
  · rcases hr : run.result with _ | wish
    · simp [turn, Turn.reports, hc, run_visit_of_panic hc hr, hdecided, hdelivered]
    · simp [turn, Turn.reports, hc, run_visit_of_call hc hr, hdecided, hdelivered, hcommitted]

end Act

/-! ## Rounds -/

/-- The visits of a pass or of an enumeration, as they were planned. -/
structure Round (κ τ : Type) where
  host : Host κ τ
  context : ContextId
  event : Event
  /-- The world in which the visits begin. -/
  began : World κ τ
  /-- For which device to visit which record, in order. -/
  plan : List (Device × CallbackId)

namespace Round

/-- A pass visits the records that are live when it begins, all for one device. -/
def pass (host : Host κ τ) (c : ContextId) (d : Device) (e : Event) (w : World κ τ) :
    Round κ τ where
  host
  context := c
  event := e
  began := w
  plan := (host.order w (w.registry c).ids).map fun id => (d, id)

/-- An enumeration visits one record, once for each device. -/
def enumeration (host : Host κ τ) (c : ContextId) (id : CallbackId) (devices : List Device)
    (w : World κ τ) : Round κ τ where
  host
  context := c
  event := .arrived
  began := w
  plan := devices.map fun d => (d, id)

variable (r : Round κ τ)

/-- A visit of the round in a world. -/
def turn (v : World κ τ) (s : Device × CallbackId) : Turn κ τ :=
  Act.turn r.host r.context s.1 r.event v s.2

/-- Visits of the round from a world on. -/
def turns : List (Device × CallbackId) → World κ τ → List (Turn κ τ)
  | [], _ => []
  | s :: rest, v => r.turn v s :: turns rest (r.turn v s).left

/-- The world after visits from a world on. -/
def past (l : List (Device × CallbackId)) (v : World κ τ) : World κ τ :=
  l.foldl (fun v s => (r.turn v s).left) v

/-- What visits note from a world on. -/
def noted (l : List (Device × CallbackId)) (v : World κ τ) : List Notice :=
  (r.turns l v).flatMap fun t => t.whole.notices

/-- What the callbacks note that visits from a world on run. -/
def reports (l : List (Device × CallbackId)) (v : World κ τ) : List Notice :=
  (r.turns l v).flatMap Turn.reports

variable {r} {l made made' ahead ahead' : List (Device × CallbackId)} {s s' : Device × CallbackId}
variable {v : World κ τ}

theorem past_append : r.past (made ++ l) v = r.past l (r.past made v) :=
  List.foldl_append

/-- Visits are a path in the lives of records, whether or not they all come to
their end. -/
theorem life_past (hlife : ∀ inv, (r.host.react inv).Obeys Life) :
    Life v (r.noted l v) (r.past l v) := by
  induction l generalizing v with
  | nil => exact .refl v
  | cons s rest ih =>
    have hturn : Life v (r.turn v s).whole.notices (r.turn v s).left := Act.life_visit hlife v
    exact hturn.trans ih

/-- **Visits do nothing by themselves about a record that none of them is to**: all
that they tell of it was noted by callbacks. -/
theorem any_noted {p : Notice → Bool} (hdelivered : ∀ c id d e, p (.delivered c id d e) = false)
    (hdecided : ∀ s ∈ l, ∀ v, p (.decided r.context s.2 v) = false)
    (hcommitted : ∀ s ∈ l, ∀ wish b, p (.committed r.context s.2 wish b) = false) :
    (r.noted l v).any p = (r.reports l v).any p := by
  induction l generalizing v with
  | nil => rfl
  | cons s rest ih =>
    have hturn : (r.turn v s).whole.notices.any p = (r.turn v s).reports.any p :=
      Act.any_whole_turn (hdecided s List.mem_cons_self) (hdelivered _ _ _ _)
        (hcommitted s List.mem_cons_self)
    have hrest : (r.noted rest (r.turn v s).left).any p =
        (r.reports rest (r.turn v s).left).any p :=
      ih (fun s hs => hdecided s (List.mem_cons_of_mem _ hs))
        fun s hs => hcommitted s (List.mem_cons_of_mem _ hs)
    simp only [noted, reports, turns, List.flatMap_cons, List.any_append] at hrest ⊢
    rw [hturn, hrest]

/-! ## Where a round breaks off -/

/-- **Visits that do not come to their end**: the first ones return, then one does
not, and nothing is done after it. -/
def Halts (r : Round κ τ) (l : List (Device × CallbackId)) (v : World κ τ) (ns : List Notice)
    (v' : World κ τ) : Prop :=
  ∃ made s ahead, l = made ++ s :: ahead ∧
    (∀ t ∈ r.turns made v, ∃ a, t.whole.result = some a) ∧
    (r.turn (r.past made v) s).whole.result = none ∧
    v' = (r.turn (r.past made v) s).left ∧
    ns = r.noted made v ++ (r.turn (r.past made v) s).whole.notices

/-- A visit and what is done on its answer break off in the visit or after it. -/
theorem halts_of_bind {k : Visit → Act κ τ α}
    (h : ((Act.visit r.host r.context s.1 r.event s.2 >>= k).run v).result = none)
    (hk : ∀ a, (r.turn v s).whole.result = some a →
      ((k a).run (r.turn v s).left).result = none →
        r.Halts l (r.turn v s).left ((k a).run (r.turn v s).left).notices
          ((k a).run (r.turn v s).left).world) :
    r.Halts (s :: l) v ((Act.visit r.host r.context s.1 r.event s.2 >>= k).run v).notices
      ((Act.visit r.host r.context s.1 r.event s.2 >>= k).run v).world := by
  rcases ha : ((Act.visit r.host r.context s.1 r.event s.2).run v).result with _ | a
  · rw [Act.run_bind_of_panic ha]
    exact ⟨[], s, l, rfl, List.forall_mem_nil _, ha, rfl, rfl⟩
  · rw [Act.run_bind_of_result ha] at h ⊢
    obtain ⟨made, s', ahead, rfl, hret, hnone, hworld, hnotices⟩ := hk a ha h
    refine ⟨s :: made, s', ahead, rfl, List.forall_mem_cons.2 ⟨⟨a, ha⟩, hret⟩, hnone, hworld, ?_⟩
    simp only [noted, turns, List.flatMap_cons, List.append_assoc]
    exact congrArg _ hnotices

/-- Visits break off at one place only. -/
theorem halts_unique (heq : made ++ s :: ahead = made' ++ s' :: ahead')
    (hret : ∀ t ∈ r.turns made v, ∃ a, t.whole.result = some a)
    (hret' : ∀ t ∈ r.turns made' v, ∃ a, t.whole.result = some a)
    (hnone : (r.turn (r.past made v) s).whole.result = none)
    (hnone' : (r.turn (r.past made' v) s').whole.result = none) :
    made = made' ∧ s = s' := by
  induction made generalizing made' v with
  | nil =>
    rcases made' with _ | ⟨q, made'⟩
    · exact ⟨rfl, (List.cons.inj heq).1⟩
    · obtain ⟨rfl, -⟩ := List.cons.inj heq
      obtain ⟨a, ha⟩ := hret' _ List.mem_cons_self
      cases hnone.symm.trans ha
  | cons q made ih =>
    rcases made' with _ | ⟨q', made'⟩
    · obtain ⟨rfl, -⟩ := List.cons.inj heq
      obtain ⟨a, ha⟩ := hret _ List.mem_cons_self
      cases hnone'.symm.trans ha
    · obtain ⟨rfl, hrest⟩ := List.cons.inj heq
      obtain ⟨rfl, hs⟩ := ih hrest (fun t ht => hret t (List.mem_cons_of_mem _ ht))
        (fun t ht => hret' t (List.mem_cons_of_mem _ ht)) hnone hnone'
      exact ⟨rfl, hs⟩

end Round

/-- The act makes the visits of the round. -/
inductive Act.Makes : {α : Type} → Act κ τ α → Round κ τ → Prop
  | pass (host : Host κ τ) (c : ContextId) (d : Device) (e : Event) (w : World κ τ) :
      (Act.pass host c d e).Makes (.pass host c d e w)
  | enumerate (host : Host κ τ) (c : ContextId) (id : CallbackId) (devices : List Device)
      (w : World κ τ) :
      (Act.enumerate host c id devices).Makes (.enumeration host c id devices w)

namespace Act

variable {host : Host κ τ} {c : ContextId} {d : Device} {e : Event} {w v : World κ τ}
variable {id : CallbackId} {x : Act κ τ α} {r : Round κ τ}

theorem visitAll_halts {ids : List CallbackId}
    (h : ((visitAll host c d e ids).run v).result = none) :
    (Round.pass host c d e w).Halts (ids.map fun id => (d, id)) v
      ((visitAll host c d e ids).run v).notices ((visitAll host c d e ids).run v).world := by
  induction ids generalizing v with
  | nil => cases h
  | cons id rest ih =>
    refine Round.halts_of_bind (r := Round.pass host c d e w) (s := (d, id)) h fun a _ hrest => ?_
    rw [run_bind_pure] at hrest ⊢
    exact ih (Option.map_eq_none_iff.1 hrest)

theorem enumerate_halts {devices : List Device}
    (h : ((enumerate host c id devices).run v).result = none) :
    (Round.enumeration host c id devices w).Halts (devices.map fun d => (d, id)) v
      ((enumerate host c id devices).run v).notices
      ((enumerate host c id devices).run v).world := by
  -- which devices are planned has no part in a visit
  suffices hall : ∀ l : List Device, ((enumerate host c id l).run v).result = none →
      (Round.enumeration host c id devices w).Halts (l.map fun d => (d, id)) v
        ((enumerate host c id l).run v).notices ((enumerate host c id l).run v).world from
    hall devices h
  clear h
  intro l hl
  induction l generalizing v with
  | nil => cases hl
  | cons d rest ih =>
    refine Round.halts_of_bind (r := Round.enumeration host c id devices w) (s := (d, id)) hl
      fun a _ hrest => ?_
    rcases a with _ | _ | _ | (_ | _)
    all_goals try cases hrest
    all_goals
      rw [run_bind_pure] at hrest ⊢
      exact ih (Option.map_eq_none_iff.1 hrest)

/-- A pass panics under one of its visits. -/
theorem pass_halts (h : ((pass host c d e).run w).result = none) :
    (Round.pass host c d e w).Halts (Round.pass host c d e w).plan w
      ((pass host c d e).run w).notices ((pass host c d e).run w).world := by
  have hrun : (pass host c d e).run w =
      (visitAll host c d e (host.order w (w.registry c).ids) >>= fun visits =>
        followUp c d e >>= fun disconnected => pure { visits, disconnected }).run w := by
    rw [pass_eq]
    rfl
  rw [hrun] at h ⊢
  rcases hvs : ((visitAll host c d e (host.order w (w.registry c).ids)).run w).result with _ | vs
  · rw [run_bind_of_panic hvs] at h ⊢
    exact visitAll_halts hvs
  · obtain ⟨hs, hhs⟩ : ∃ hs, ((followUp c d e).run
      ((visitAll host c d e (host.order w (w.registry c).ids)).run w).world).result = some hs :=
        returns_followUp _
    rw [run_bind_of_result hvs, run_bind_pure, hhs] at h
    cases h

/-- **A round that panics breaks off at one of its visits.** -/
theorem Makes.halts (hx : x.Makes r) (h : (x.run r.began).result = none) :
    r.Halts r.plan r.began (x.run r.began).notices (x.run r.began).world := by
  cases hx with
  | pass => exact pass_halts h
  | enumerate => exact enumerate_halts h

end Act

/-! ## Invocations that do not return -/

/-- An invocation of a callback that did not return, with the round that made it. -/
structure Unfinished (κ τ : Type) where
  round : Round κ τ
  /-- What had been noted when the round began its visits. -/
  before : List Notice
  /-- The visits that the round had made. -/
  made : List (Device × CallbackId)
  device : Device
  callback : CallbackId
  program : κ
  /-- The visits that were still ahead. -/
  ahead : List (Device × CallbackId)

namespace Unfinished

variable (f : Unfinished κ τ)

/-- The world in which the round came to the record. -/
def found : World κ τ :=
  f.round.past f.made f.round.began

/-- The record's registry then. -/
def registry : Registry κ :=
  f.found.registry f.round.context

/-- The world in which the callback started. -/
def start : World κ τ :=
  f.found.setRegistry f.round.context (f.registry.decide f.callback f.device f.round.event).2

/-- What the callback did. -/
def act : Act κ τ Wish :=
  f.round.host.react
    { context := f.round.context, callback := f.callback, program := f.program,
      device := f.device, event := f.round.event }

/-- The run of the callback. -/
def run : Effect κ τ Wish :=
  f.act.run f.start

/-- What was noted from the beginning of the round until the callback started. -/
def noted : List Notice :=
  f.round.noted f.made f.round.began ++
    [.decided f.round.context f.callback .invoke,
      .delivered f.round.context f.callback f.device f.round.event]

/-- The invocation, if more had been noted before. -/
def since (ns : List Notice) : Unfinished κ τ :=
  { f with before := ns ++ f.before }

/-- **The invocation broke its round off**: its callback ran and panicked, after
visits that all came to their end. -/
structure Broken (f : Unfinished κ τ) : Prop where
  planned : f.round.plan = f.made ++ (f.device, f.callback) :: f.ahead
  returned : ∀ t ∈ f.round.turns f.made f.round.began, ∃ a, t.whole.result = some a
  decided : (f.registry.decide f.callback f.device f.round.event).1 = .invoke f.program
  panicked : f.run.result = none

variable {f} {x : Act κ τ α} {r : Round κ τ}

/-- The visit to the record stopped with its callback. -/
theorem Broken.whole_turn (hf : f.Broken) :
    (f.round.turn f.found (f.device, f.callback)).whole =
      { result := none
        world := f.run.world
        notices := .decided f.round.context f.callback .invoke ::
          .delivered f.round.context f.callback f.device f.round.event :: f.run.notices } :=
  Act.run_visit_of_panic (Act.call_of_invoke hf.decided) hf.panicked

/-- **A round stops with the callback that broke it off**: it commits nothing, and
makes none of the visits ahead. -/
theorem Broken.run_round (hf : f.Broken) (hx : x.Makes f.round)
    (h : (x.run f.round.began).result = none) :
    (x.run f.round.began).world = f.run.world ∧
      (x.run f.round.began).notices = f.noted ++ f.run.notices := by
  obtain ⟨made, s, ahead, hplan, hret, hnone, hworld, hnotices⟩ := hx.halts h
  have hturn := hf.whole_turn
  obtain ⟨rfl, rfl⟩ := Round.halts_unique (hf.planned.symm.trans hplan) hf.returned hret
    (congrArg Effect.result hturn) hnone
  refine ⟨hworld.trans (congrArg Effect.world hturn), ?_⟩
  rw [hnotices, noted, List.append_assoc]
  exact congrArg _ (congrArg Effect.notices hturn)

/-- Some invocation broke off a round that panicked. -/
theorem exists_broken (hx : x.Makes r) (h : (x.run r.began).result = none) :
    ∃ f : Unfinished κ τ, f.round = r ∧ f.before = [] ∧ f.Broken := by
  obtain ⟨made, ⟨d, id⟩, ahead, hplan, hret, hnone, -⟩ := hx.halts h
  obtain ⟨run, hcall, hrun⟩ := Act.call_of_panic hnone
  rcases hv : (((r.past made r.began).registry r.context).decide id d r.event).1 with
    _ | _ | _ | program
  all_goals simp only [Act.call, hv] at hcall
  all_goals cases hcall
  exact ⟨⟨r, [], made, d, id, program, ahead⟩, rfl, rfl, hplan, hret, hv, hrun⟩

/-- Deciding to run the callback and starting it are a path in the lives of
records. -/
theorem Broken.life_start (hf : f.Broken) :
    Life f.found
      [.decided f.round.context f.callback .invoke,
        .delivered f.round.context f.callback f.device f.round.event] f.start := by
  have hdecide : Life f.found [.decided f.round.context f.callback .invoke] f.start := by
    have hstep := LifeStep.decide f.found f.round.context f.callback f.device f.round.event
    have hdecided : ((f.found.registry f.round.context).decide f.callback f.device
      f.round.event).1 = .invoke f.program := hf.decided
    rw [hdecided] at hstep
    exact .single hstep
  have hdeliver : Life f.start
      [.delivered f.round.context f.callback f.device f.round.event] f.start :=
    .quiet (fun _ => rfl) rfl (List.forall_mem_singleton.2 rfl)
  exact hdecide.trans hdeliver

/-- So is all that is done from the beginning of the round until the callback
starts. -/
theorem Broken.life_noted (hf : f.Broken) (hlife : ∀ inv, (f.round.host.react inv).Obeys Life) :
    Life f.round.began f.noted f.start :=
  (Round.life_past hlife).trans hf.life_start

end Unfinished
end DeviceWatch
