import DeviceWatch.Bus
import DeviceWatch.Proofs.Law
import DeviceWatch.Registration
/-!
# Contexts of a world

What a world has of a context, what setting one of these parts leaves alone,
and what each primitive act does in these terms. Proofs about acts start from
the equations of the last section and unfold no primitive act.
-/

namespace DeviceWatch

variable {κ τ : Type}

namespace World

variable (w : World κ τ) (c : ContextId)

/-- The registry of a context. -/
def registry : Registry κ := (w.context c).registry

/-- The devices of a context. -/
def roster : Roster := (w.context c).roster

/-- The open handles of a context. -/
def opens : OpenList := (w.context c).opens

/-- What lies beneath a context. -/
def platform : Platform := (w.context c).platform

/-- The world with another registry in a context. -/
def setRegistry (r : Registry κ) : World κ τ :=
  w.modifyContext c fun x => { x with registry := r }

/-- The world with other devices in a context. -/
def setRoster (r : Roster) : World κ τ :=
  w.modifyContext c fun x => { x with roster := r }

/-- The world with other open handles in a context. -/
def setOpens (l : OpenList) : World κ τ :=
  w.modifyContext c fun x => { x with opens := l }

/-- The world with something else beneath a context. -/
def setPlatform (p : Platform) : World κ τ :=
  w.modifyContext c fun x => { x with platform := p }

/-! ## Reading a context after a change -/

variable {w c} {c' : ContextId} {r : Registry κ} {s : Roster} {l : OpenList} {p : Platform}

theorem context_modifyContext (f : Context κ → Context κ) :
    (w.modifyContext c f).context c' = if c' = c then f (w.context c) else w.context c' := by
  have hval : c'.val = c.val ↔ c' = c := by
    cases c
    cases c'
    simp
  simp only [context, modifyContext, Store.get_modify, hval]

theorem registry_setRegistry :
    (w.setRegistry c r).registry c' = if c' = c then r else w.registry c' := by
  rw [registry, setRegistry, context_modifyContext]
  split <;> rfl

theorem roster_setRoster :
    (w.setRoster c s).roster c' = if c' = c then s else w.roster c' := by
  rw [roster, setRoster, context_modifyContext]
  split <;> rfl

theorem opens_setOpens :
    (w.setOpens c l).opens c' = if c' = c then l else w.opens c' := by
  rw [opens, setOpens, context_modifyContext]
  split <;> rfl

theorem platform_setPlatform :
    (w.setPlatform c p).platform c' = if c' = c then p else w.platform c' := by
  rw [platform, setPlatform, context_modifyContext]
  split <;> rfl

/-- A change of contexts that keeps a part of each keeps that part of all. -/
theorem part_modifyContext {β : Type} (part : Context κ → β) {f : Context κ → Context κ}
    (h : ∀ x, part (f x) = part x) :
    part ((w.modifyContext c f).context c') = part (w.context c') := by
  rw [context_modifyContext]
  split
  next heq => rw [h, heq]
  next => rfl

@[simp] theorem roster_setRegistry : (w.setRegistry c r).roster c' = w.roster c' :=
  part_modifyContext Context.roster fun _ => rfl

@[simp] theorem opens_setRegistry : (w.setRegistry c r).opens c' = w.opens c' :=
  part_modifyContext Context.opens fun _ => rfl

@[simp] theorem platform_setRegistry : (w.setRegistry c r).platform c' = w.platform c' :=
  part_modifyContext Context.platform fun _ => rfl

@[simp] theorem registry_setRoster : (w.setRoster c s).registry c' = w.registry c' :=
  part_modifyContext Context.registry fun _ => rfl

@[simp] theorem opens_setRoster : (w.setRoster c s).opens c' = w.opens c' :=
  part_modifyContext Context.opens fun _ => rfl

@[simp] theorem platform_setRoster : (w.setRoster c s).platform c' = w.platform c' :=
  part_modifyContext Context.platform fun _ => rfl

@[simp] theorem registry_setOpens : (w.setOpens c l).registry c' = w.registry c' :=
  part_modifyContext Context.registry fun _ => rfl

@[simp] theorem roster_setOpens : (w.setOpens c l).roster c' = w.roster c' :=
  part_modifyContext Context.roster fun _ => rfl

@[simp] theorem platform_setOpens : (w.setOpens c l).platform c' = w.platform c' :=
  part_modifyContext Context.platform fun _ => rfl

@[simp] theorem registry_setPlatform : (w.setPlatform c p).registry c' = w.registry c' :=
  part_modifyContext Context.registry fun _ => rfl

@[simp] theorem roster_setPlatform : (w.setPlatform c p).roster c' = w.roster c' :=
  part_modifyContext Context.roster fun _ => rfl

@[simp] theorem opens_setPlatform : (w.setPlatform c p).opens c' = w.opens c' :=
  part_modifyContext Context.opens fun _ => rfl

/-- A disconnected handle is marked, and no other. -/
theorem isDisconnected_mark {i k : OpenId} :
    (World.setPlatform { w with disconnected := i :: w.disconnected } c p).isDisconnected k = true ↔
      w.isDisconnected k = true ∨ k = i := by
  have hcons : (World.setPlatform { w with disconnected := i :: w.disconnected } c
      p).isDisconnected k = (i :: w.disconnected).contains k := rfl
  rw [hcons, List.contains_cons, Bool.or_eq_true, beq_iff_eq, or_comm]
  rfl

end World

/-! ## The primitive acts -/

namespace Act

variable (w : World κ τ) (c : ContextId) (id : CallbackId) (d : Device) (e : Event)

theorem run_context : (context c : Act κ τ (Context κ)).run w =
    { result := some (w.context c), world := w } :=
  rfl

theorem run_decide : (decide c id d e).run w =
    { result := some ((w.registry c).decide id d e).1
      world := w.setRegistry c ((w.registry c).decide id d e).2
      notices := [.decided c id ((w.registry c).decide id d e).1.decision] } :=
  rfl

theorem run_commit (wish : Wish) : (commit c id wish).run w =
    { result := some ((w.registry c).releases id wish)
      world := w.setRegistry c ((w.registry c).commit id wish)
      notices := [.committed c id wish ((w.registry c).releases id wish)] } :=
  rfl

theorem run_markPending : (markPending c id).run w =
    { result := some ((w.registry c).contains id)
      world := w.setRegistry c ((w.registry c).markPending id)
      notices := if (w.registry c).contains id then [.marked c id] else [] } := by
  rcases h : (w.registry c).contains id with _ | _
  all_goals
    simp only [World.registry] at h
    simp only [markPending, run_bind, run_context, Effect.andThen_some, h]
    rfl

theorem run_insert (events : EventSet) (filter : Filter) (program : κ) :
    (insert c events filter program).run w =
      if (w.registry c).isFull then { result := some (.error .full), world := w }
      else
        { result := some (.ok ⟨w.nextCallback⟩)
          world := World.setRegistry { w with nextCallback := w.nextCallback + 1 } c
            ((w.registry c).insert
              ⟨⟨w.nextCallback⟩, c, events, filter, program, .active⟩)
          notices := [.inserted c ⟨w.nextCallback⟩] } := by
  rcases h : (w.registry c).isFull with _ | _
  all_goals
    simp only [World.registry] at h
    simp only [insert, run_bind, run_context, Effect.andThen_some, h]
    rfl

theorem run_teardown : (teardown c).run w =
    { result := some (w.registry c).size
      world := w.setRegistry c (w.registry c).clear
      notices := if 0 < (w.registry c).size then [.toreDown c (w.registry c).ids] else [] } := by
  by_cases h : 0 < (w.registry c).size
  · rw [if_pos h]
    simp only [World.registry] at h
    simp only [teardown, run_bind, run_context, Effect.andThen_some, gt_iff_lt, if_pos h]
    rfl
  · rw [if_neg h]
    simp only [World.registry] at h
    simp only [teardown, run_bind, run_context, Effect.andThen_some, gt_iff_lt, if_neg h]
    rfl

theorem run_attach : (attach c d).run w =
    { result := some ()
      world := w.setRoster c ((w.roster c).attach d)
      notices := [.attached c d] } :=
  rfl

theorem run_detach (i : DeviceId) : (detach c i).run w =
    match (w.roster c).detach? i with
    | none => { result := some none, world := w }
    | some (d, roster) =>
      { result := some (some d), world := w.setRoster c roster, notices := [.detached c d] } := by
  simp only [detach, run_bind, run_context, Effect.andThen_some, World.roster]
  rcases (w.context c).roster.detach? i with _ | ⟨d, roster⟩ <;> rfl

theorem run_openHandle : (openHandle c d).run w =
    { result := some ⟨⟨w.nextOpen⟩, d⟩
      world := World.setOpens { w with nextOpen := w.nextOpen + 1 } c
        ((w.opens c).push ⟨⟨w.nextOpen⟩, d⟩)
      notices := [.opened c ⟨⟨w.nextOpen⟩, d⟩] } :=
  rfl

theorem run_closeHandle (h : OpenHandle) : (closeHandle c h).run w =
    match (w.opens c).close? h.id with
    | none => { result := some false, world := w }
    | some opens =>
      { result := some true, world := w.setOpens c opens, notices := [.closed c h.id] } := by
  simp only [closeHandle, run_bind, run_context, Effect.andThen_some, World.opens]
  rcases (w.context c).opens.close? h.id with _ | opens <;> rfl

/-- The notices of a platform that was told to give up a handle. -/
def givenUp (c : ContextId) (h : OpenHandle) : Platform → List Notice
  | .bare => []
  | .simulated .. => [.disconnected c h]

theorem run_giveUp (h : OpenHandle) : (giveUp c h : Act κ τ Unit).run w =
    { result := some ()
      world := w.setPlatform c ((w.platform c).giveUp h)
      notices := givenUp c h (w.platform c) } := by
  have hset : (modifyContext c fun x => { x with platform := x.platform.giveUp h } :
      Act κ τ Unit).run w =
      { result := some (), world := w.setPlatform c ((w.platform c).giveUp h) } := rfl
  have hp : ((w.setPlatform c ((w.platform c).giveUp h)).context c).platform =
      (w.platform c).giveUp h :=
    World.platform_setPlatform.trans (if_pos rfl)
  rw [giveUp, run_bind, hset, Effect.andThen_some, run_bind, run_context, Effect.andThen_some, hp]
  rcases w.platform c with _ | ⟨b, l⟩ <;> rfl

theorem forall_mem_givenUp {c : ContextId} {h : OpenHandle} {p : Platform} {P : Notice → Prop}
    (hP : P (.disconnected c h)) : ∀ n ∈ givenUp c h p, P n := by
  cases p with
  | bare => exact List.forall_mem_nil P
  | simulated => exact List.forall_mem_singleton.2 hP

theorem run_disconnect (h : OpenHandle) : (disconnect c h).run w =
    if w.isDisconnected h.id then { result := some false, world := w }
    else
      { result := some true
        world := World.setPlatform { w with disconnected := h.id :: w.disconnected } c
          ((w.platform c).giveUp h)
        notices := givenUp c h (w.platform c) } := by
  rw [disconnect, run_bind, run_get, Effect.andThen_some]
  rcases w.isDisconnected h.id with _ | _
  · rw [if_neg Bool.false_ne_true, if_neg Bool.false_ne_true, run_bind, run_modify,
      Effect.andThen_some, run_bind, run_giveUp]
    simp only [Effect.andThen_some, run_pure, List.nil_append, List.append_nil]
    rfl
  · rfl

/-! ## None of them panics -/

variable {c id d e}

theorem returns_decide : (decide c id d e : Act κ τ (Verdict κ)).Returns :=
  fun _ => ⟨_, rfl⟩

theorem returns_commit {wish : Wish} : (commit c id wish : Act κ τ Bool).Returns :=
  fun _ => ⟨_, rfl⟩

theorem returns_markPending : (markPending c id : Act κ τ Bool).Returns :=
  fun w => ⟨_, by rw [run_markPending]⟩

theorem returns_insert {events : EventSet} {filter : Filter} {program : κ} :
    (insert c events filter program : Act κ τ _).Returns := by
  intro w
  rw [run_insert]
  split
  · exact ⟨_, rfl⟩
  · exact ⟨_, rfl⟩

theorem returns_teardown : (teardown c : Act κ τ Nat).Returns :=
  fun w => ⟨_, by rw [run_teardown]⟩

theorem returns_attach : (attach c d : Act κ τ Unit).Returns :=
  fun _ => ⟨_, rfl⟩

theorem returns_detach {i : DeviceId} : (detach c i : Act κ τ _).Returns := by
  intro w
  rw [run_detach]
  split
  · exact ⟨_, rfl⟩
  · exact ⟨_, rfl⟩

theorem returns_openHandle : (openHandle c d : Act κ τ OpenHandle).Returns :=
  fun _ => ⟨_, rfl⟩

theorem returns_closeHandle {h : OpenHandle} : (closeHandle c h : Act κ τ Bool).Returns := by
  intro w
  rw [run_closeHandle]
  split
  · exact ⟨_, rfl⟩
  · exact ⟨_, rfl⟩

theorem returns_disconnect {h : OpenHandle} : (disconnect c h : Act κ τ Bool).Returns := by
  intro w
  rw [run_disconnect]
  split
  · exact ⟨_, rfl⟩
  · exact ⟨_, rfl⟩

/-! ## Acts that may find nothing to do

Where there is nothing to do, nothing happens, and a law that composes holds of that. -/

/-- What a notice has, all notices have that are made in one case only. -/
theorem forall_mem_if {p : Prop} [Decidable p] {n : Notice} {P : Notice → Prop} (hP : P n) :
    ∀ m ∈ if p then [n] else [], P m := by
  split
  · exact List.forall_mem_singleton.2 hP
  · exact List.forall_mem_nil P

section Idle

variable {L : Law κ τ} [L.Composes] {i : DeviceId} {h : OpenHandle}

theorem obeys_insert {events : EventSet} {filter : Filter} {program : κ}
    (hinsert : ∀ w : World κ τ, (w.registry c).isFull = false →
      L w [.inserted c ⟨w.nextCallback⟩]
        (World.setRegistry { w with nextCallback := w.nextCallback + 1 } c
          ((w.registry c).insert ⟨⟨w.nextCallback⟩, c, events, filter, program, .active⟩))) :
    (insert c events filter program : Act κ τ _).Obeys L := by
  intro w
  rw [run_insert]
  split
  next => exact Law.Composes.refl w
  next hroom => exact hinsert w (Bool.eq_false_iff.2 hroom)

theorem obeys_detach (hdetach : ∀ w d rest, (w.roster c).detach? i = some (d, rest) →
    L w [.detached c d] (w.setRoster c rest)) : (detach c i : Act κ τ _).Obeys L := by
  intro w
  rw [run_detach]
  split
  next => exact Law.Composes.refl w
  next d rest hfound => exact hdetach w d rest hfound

theorem obeys_closeHandle (hclose : ∀ w rest, (w.opens c).close? h.id = some rest →
    L w [.closed c h.id] (w.setOpens c rest)) : (closeHandle c h : Act κ τ Bool).Obeys L := by
  intro w
  rw [run_closeHandle]
  split
  next => exact Law.Composes.refl w
  next rest hfound => exact hclose w rest hfound

theorem obeys_disconnect (hgive : ∀ w : World κ τ, w.isDisconnected h.id = false →
    L w (givenUp c h (w.platform c))
      (World.setPlatform { w with disconnected := h.id :: w.disconnected } c
        ((w.platform c).giveUp h))) : (disconnect c h : Act κ τ Bool).Obeys L := by
  intro w
  rw [run_disconnect]
  split
  next => exact Law.Composes.refl w
  next hmark => exact hgive w (Bool.eq_false_iff.2 hmark)

end Idle

end Act
end DeviceWatch
