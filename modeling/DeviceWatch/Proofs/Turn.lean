import DeviceWatch.Proofs.Retirement
/-!
# Turns of a pass

A pass takes the records that were live when it began one after the other,
while callbacks change the registry under its feet. A turn is the visit to one
of them with all that can be said of it: the world in which the pass came to
the record, the run of the callback if there was one, and what the visit left.
Whatever a callback does, its pass resumes in a later world on a path of steps;
this is all that the account of a pass knows of callbacks.
-/

namespace DeviceWatch

variable {κ τ : Type}

/-- A visit of a pass, with the worlds on its way. -/
structure Turn (κ τ : Type) where
  id : CallbackId
  /-- The world in which the pass came to it. -/
  found : World κ τ
  /-- The run of the callback, if it ran. -/
  call : Option (Effect κ τ Wish)
  whole : Effect κ τ Visit

namespace Turn

/-- The world in which the visit took its last step. -/
def last (t : Turn κ τ) : World κ τ :=
  match t.call with
  | none => t.found
  | some run => run.world

/-- The world after the visit. -/
def left (t : Turn κ τ) : World κ τ :=
  t.whole.world

/-- Whether the visit itself ran the callback. -/
def ran (t : Turn κ τ) : Bool :=
  t.call.isSome

/-- Whether the last step of the visit removed the record: it was live before
the step and is not after it. -/
def removed (c : ContextId) (t : Turn κ τ) : Bool :=
  (t.last.registry c).contains t.id && !(t.left.registry c).contains t.id

/-- What the visit notes. The notices between the delivery and the commit are
those of the callback's run, passes that it begins included. -/
def told (c : ContextId) (d : Device) (e : Event) (t : Turn κ τ) : List Notice :=
  .decided c t.id ((t.found.registry c).decide t.id d e).1.decision ::
    match t.call with
    | none => []
    | some run =>
      .delivered c t.id d e ::
        (run.notices ++ run.result.toList.map fun wish => .committed c t.id wish (t.removed c))

theorem removed_iff {c : ContextId} {t : Turn κ τ} :
    t.removed c = true ↔ t.id ∈ (t.last.registry c).ids ∧ t.id ∉ (t.left.registry c).ids := by
  rw [removed, Bool.and_eq_true, Bool.not_eq_true', ← Bool.not_eq_true, Registry.contains_iff,
    Registry.contains_iff]

end Turn

namespace Act

variable (host : Host κ τ) (c : ContextId) (d : Device) (e : Event)

/-- The run of a record's callback, if a visit to it in a world runs it. -/
def call (w : World κ τ) (id : CallbackId) : Option (Effect κ τ Wish) :=
  match ((w.registry c).decide id d e).1 with
  | .invoke program =>
    some ((host.react { context := c, callback := id, program, device := d, event := e }).run
      (w.setRegistry c ((w.registry c).decide id d e).2))
  | _ => none

/-- The visit to a record in a world. -/
def turn (w : World κ τ) (id : CallbackId) : Turn κ τ where
  id
  found := w
  call := call host c d e w id
  whole := (visit host c d e id).run w

/-- The visits to records one after the other. -/
def turns : List CallbackId → World κ τ → List (Turn κ τ)
  | [], _ => []
  | id :: rest, w => turn host c d e w id :: turns rest (turn host c d e w id).left

variable {host c d e} {w : World κ τ} {id : CallbackId} {ids : List CallbackId} {t : Turn κ τ}

/-! ## One visit -/

theorem call_of_invoke {program : κ} (h : ((w.registry c).decide id d e).1 = .invoke program) :
    call host c d e w id =
      some ((host.react { context := c, callback := id, program, device := d, event := e }).run
        (w.setRegistry c ((w.registry c).decide id d e).2)) := by
  simp only [call, h]

/-- A visit runs the callback of a record that is active and hears of the
event, and no other. -/
theorem call_isSome_iff :
    (call host c d e w id).isSome = true ↔
      ∃ x, (w.registry c).get? id = some x ∧ x.status = .active ∧ x.hears d e = true := by
  rw [← Registry.decide_eq_invoke_iff]
  rcases h : ((w.registry c).decide id d e).1 with _ | _ | _ | program
  all_goals simp [call, h, Verdict.decision]

theorem call_returns (hret : ∀ inv, (host.react inv).Returns) {run : Effect κ τ Wish}
    (h : call host c d e w id = some run) : ∃ wish, run.result = some wish := by
  rcases hv : ((w.registry c).decide id d e).1 with _ | _ | _ | program
  all_goals simp only [call, hv] at h
  all_goals cases h
  exact hret _ _

/-- A visit that runs no callback only decides. -/
theorem run_visit_of_no_call (h : call host c d e w id = none) :
    ∃ v : Visit, v.ran = false ∧
      (v.removed = true ↔ ((w.registry c).decide id d e).1.decision = .released) ∧
      (visit host c d e id).run w =
        { result := some v
          world := w.setRegistry c ((w.registry c).decide id d e).2
          notices := [.decided c id ((w.registry c).decide id d e).1.decision] } := by
  rw [visit, run_bind, run_decide, Effect.andThen_some]
  rcases hv : ((w.registry c).decide id d e).1 with _ | _ | _ | program
  · exact ⟨.gone, rfl, by simp [Visit.removed, Verdict.decision], rfl⟩
  · exact ⟨.released, rfl, by simp [Visit.removed, Verdict.decision], rfl⟩
  · exact ⟨.skipped, rfl, by simp [Visit.removed, Verdict.decision], rfl⟩
  · rw [call_of_invoke hv] at h
    cases h

/-- A visit that runs a callback commits in the world that the callback left. -/
theorem run_visit_of_call {run : Effect κ τ Wish} {wish : Wish}
    (h : call host c d e w id = some run) (hr : run.result = some wish) :
    (visit host c d e id).run w =
      { result := some (.invoked ((run.world.registry c).releases id wish))
        world := run.world.setRegistry c ((run.world.registry c).commit id wish)
        notices := .decided c id .invoke :: .delivered c id d e ::
          (run.notices ++ [.committed c id wish ((run.world.registry c).releases id wish)]) } := by
  rcases hv : ((w.registry c).decide id d e).1 with _ | _ | _ | program
  all_goals simp only [call, hv] at h
  all_goals cases h
  rw [visit, run_bind, run_decide, Effect.andThen_some, hv]
  simp only [invoke, run_bind, run_note, Effect.andThen, hr, run_commit,
    run_pure, Verdict.decision]
  simp

/-! ## One turn -/

theorem left_of_no_call (h : call host c d e w id = none) :
    (turn host c d e w id).left.registry c = ((w.registry c).decide id d e).2 := by
  obtain ⟨v, -, -, hrun⟩ := run_visit_of_no_call h
  rw [Turn.left, turn, hrun]
  exact World.registry_setRegistry.trans (if_pos rfl)

theorem left_of_call {run : Effect κ τ Wish} {wish : Wish}
    (h : call host c d e w id = some run) (hr : run.result = some wish) :
    (turn host c d e w id).left.registry c = (run.world.registry c).commit id wish := by
  rw [Turn.left, turn, run_visit_of_call h hr]
  exact World.registry_setRegistry.trans (if_pos rfl)

theorem last_of_no_call (h : call host c d e w id = none) : (turn host c d e w id).last = w := by
  simp only [Turn.last, turn, h]

theorem last_of_call {run : Effect κ τ Wish} (h : call host c d e w id = some run) :
    (turn host c d e w id).last = run.world := by
  simp only [Turn.last, turn, h]

theorem removed_of_no_call (h : call host c d e w id = none) :
    (turn host c d e w id).removed c = true ↔
      ((w.registry c).decide id d e).1.decision = .released := by
  rw [Turn.removed_iff, last_of_no_call h, left_of_no_call h]
  exact Registry.decide_removes_iff

theorem removed_of_call {run : Effect κ τ Wish} {wish : Wish}
    (h : call host c d e w id = some run) (hr : run.result = some wish) :
    (turn host c d e w id).removed c = (run.world.registry c).releases id wish := by
  rw [Bool.eq_iff_iff, Turn.removed_iff, last_of_call h, left_of_call h hr]
  exact Registry.commit_removes_iff

/-- **What a visit answers and notes is what its turn tells.** -/
theorem turn_whole (hret : ∀ inv, (host.react inv).Returns) :
    (∃ v : Visit, (turn host c d e w id).whole.result = some v ∧
      v.ran = (turn host c d e w id).ran ∧ v.removed = (turn host c d e w id).removed c) ∧
    (turn host c d e w id).whole.notices = (turn host c d e w id).told c d e := by
  rcases hc : call host c d e w id with _ | run
  · -- The visit ends with its decision.
    obtain ⟨v, hran, hrem, hrun⟩ := run_visit_of_no_call hc
    refine ⟨⟨v, by rw [turn, hrun], ?_, ?_⟩, ?_⟩
    · rw [Turn.ran, turn, hc, hran]
      rfl
    · rw [Bool.eq_iff_iff, hrem]
      exact (removed_of_no_call hc).symm
    · simp only [Turn.told, turn, hrun, hc]
  · -- The visit ends with a commit in the world that the callback left.
    obtain ⟨wish, hwish⟩ := call_returns hret hc
    have hrun := run_visit_of_call hc hwish
    have hrem := removed_of_call hc hwish
    refine ⟨⟨.invoked ((run.world.registry c).releases id wish), by rw [turn, hrun], ?_, ?_⟩, ?_⟩
    · rw [Turn.ran, turn, hc]
      rfl
    · rw [hrem]
      rfl
    · have hinvoke : ((w.registry c).decide id d e).1.decision = .invoke :=
        Registry.decide_eq_invoke_iff.2 (call_isSome_iff.1 (by rw [hc]; rfl))
      rw [Turn.told, hrem]
      simp only [turn, hrun, hc, hinvoke, hwish, Option.toList_some, List.map_cons, List.map_nil]

/-- A record that is not active when the pass comes to it does not outlive the
visit. -/
theorem absent_of_inactive (h : (w.registry c).status? id ≠ some .active) :
    id ∉ ((turn host c d e w id).left.registry c).ids := by
  have hc : call host c d e w id = none := by
    rw [← Option.not_isSome_iff_eq_none, call_isSome_iff]
    rintro ⟨x, hx, hs, -⟩
    exact h (Registry.status?_eq_some hx hs)
  rw [left_of_no_call hc]
  exact Registry.not_mem_ids_decide h

/-- A record whose callback asks for it, or that is not active when its
callback is done, does not outlive the visit. -/
theorem absent_of_call (hret : ∀ inv, (host.react inv).Returns) {run : Effect κ τ Wish}
    (h : call host c d e w id = some run)
    (hdone : run.result = some .deregister ∨ (run.world.registry c).status? id ≠ some .active) :
    id ∉ ((turn host c d e w id).left.registry c).ids := by
  obtain ⟨wish, hwish⟩ := call_returns hret h
  rw [left_of_call h hwish]
  refine Registry.not_mem_ids_commit (hdone.imp_left fun hd => ?_)
  exact Option.some.inj (hwish.symm.trans hd)

/-! ## All turns -/

theorem map_id_turns : (turns host c d e ids w).map Turn.id = ids := by
  induction ids generalizing w with
  | nil => rfl
  | cons id rest ih => rw [turns, List.map_cons, ih, turn]

theorem returns_visitAll (hret : ∀ inv, (host.react inv).Returns) :
    (visitAll host c d e ids).Returns :=
  closed_returns.visitAll fun _ _ => returns_visit hret

theorem run_visitAll_cons {rest : List CallbackId} {v : Visit} {vs : List (CallbackId × Visit)}
    (hv : (turn host c d e w id).whole.result = some v)
    (hvs : ((visitAll host c d e rest).run (turn host c d e w id).left).result = some vs) :
    (visitAll host c d e (id :: rest)).run w =
      { result := some ((id, v) :: vs)
        world := ((visitAll host c d e rest).run (turn host c d e w id).left).world
        notices := (turn host c d e w id).whole.notices ++
          ((visitAll host c d e rest).run (turn host c d e w id).left).notices } := by
  simp only [turn, Turn.left] at hv hvs ⊢
  simp only [visitAll, run_bind, Effect.andThen, hv, hvs, run_pure, List.append_nil]

/-- Each turn begins in a world on the way, and the way goes on from where it
ends. -/
theorem mem_turns (hlife : ∀ inv, (host.react inv).Obeys Life)
    (hret : ∀ inv, (host.react inv).Returns) (ht : t ∈ turns host c d e ids w) :
    t = turn host c d e t.found t.id ∧ (∃ ns, Life w ns t.found) ∧
      ∃ ns, Life t.left ns ((visitAll host c d e ids).run w).world := by
  induction ids generalizing w with
  | nil => cases ht
  | cons id rest ih =>
    obtain ⟨⟨v, hv, -⟩, -⟩ : (∃ v, (turn host c d e w id).whole.result = some v ∧ _) ∧ _ :=
      turn_whole hret
    obtain ⟨vs, hvs⟩ := returns_visitAll hret (turn host c d e w id).left
    rw [run_visitAll_cons hv hvs]
    rcases List.mem_cons.1 ht with rfl | ht
    · exact ⟨rfl, ⟨_, .refl w⟩, _, closed_obeys.visitAll (fun _ _ => life_visit hlife) _⟩
    · obtain ⟨heq, ⟨ns, hbefore⟩, hafter⟩ := ih ht
      exact ⟨heq, ⟨_, (life_visit hlife w).trans hbefore⟩, hafter⟩

/-- The visits answer and note what the turns tell. -/
theorem visitAll_whole (hret : ∀ inv, (host.react inv).Returns) :
    (∃ vs, ((visitAll host c d e ids).run w).result = some vs ∧
      (vs.countP fun v => v.2.ran) = (turns host c d e ids w).countP Turn.ran ∧
      (vs.countP fun v => v.2.removed) = (turns host c d e ids w).countP (Turn.removed c)) ∧
    ((visitAll host c d e ids).run w).notices =
      (turns host c d e ids w).flatMap (Turn.told c d e) := by
  induction ids generalizing w with
  | nil => exact ⟨⟨[], rfl, rfl, rfl⟩, rfl⟩
  | cons id rest ih =>
    obtain ⟨⟨v, hv, hran, hrem⟩, htold⟩ :
      (∃ v, (turn host c d e w id).whole.result = some v ∧ _) ∧ _ := turn_whole hret
    obtain ⟨⟨vs, hvs, hrans, hrems⟩, htolds⟩ := @ih (turn host c d e w id).left
    rw [run_visitAll_cons hv hvs]
    refine ⟨⟨_, rfl, ?_, ?_⟩, ?_⟩
    · rw [turns, List.countP_cons, List.countP_cons, hrans, hran]
    · rw [turns, List.countP_cons, List.countP_cons, hrems, hrem]
    · rw [turns, List.flatMap_cons, ← htold, ← htolds]

end Act
end DeviceWatch
