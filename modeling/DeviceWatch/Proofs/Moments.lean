import DeviceWatch.Proofs.Lifecycle
/-!
# Moments of a run

A run is seen from outside by its effect alone. Callbacks see more: they run in
worlds that are neither its first nor its last, with passes and registrations
under way around them. `Comes` names all of these worlds. It takes an act apart
into the acts it was put together from, down to single steps on registries, and
what callbacks do is among the parts. A law that all parts obey relates the world
in which a run began to every world it comes through, with what was noted until
then (`Comes.obeys`).
-/

namespace DeviceWatch

variable {κ τ α β : Type}

/-! ## Single steps -/

/-- No registry is touched, no identity is drawn, and no settings are changed. -/
structure Neutral (w : World κ τ) (ns : List Notice) (w' : World κ τ) : Prop where
  registry (c : ContextId) : w'.registry c = w.registry c
  settings (c : ContextId) : (w'.context c).settings = (w.context c).settings
  nextCallback : w'.nextCallback = w.nextCallback
  silent : ∀ n ∈ ns, n.ofRecord = false

instance : Law.Composes (Neutral (κ := κ) (τ := τ)) where
  refl _ := ⟨fun _ => rfl, fun _ => rfl, rfl, List.forall_mem_nil _⟩
  trans h₁ h₂ :=
    ⟨fun c => (h₂.registry c).trans (h₁.registry c),
      fun c => (h₂.settings c).trans (h₁.settings c), h₂.nextCallback.trans h₁.nextCallback,
      List.forall_mem_append.2 ⟨h₁.silent, h₂.silent⟩⟩

/-- Makes a context. -/
def Act.create (platform : Platform) (settings : ContextSettings) : Act κ τ ContextId :=
  modifyGet fun w => ((w.addContext platform settings).2, (w.addContext platform settings).1)

namespace Repertoire

/-- Every operation on contexts and buses, panics, contexts made on the way, and
whatever has nothing to do with registries. -/
inductive Open (host : Host κ τ) : (α : Type) → Act κ τ α → Prop
  | any {α : Type} {x : Act κ τ α} : Any host α x → Open host α x
  | create (platform : Platform) (settings : ContextSettings) :
      Open host _ (Act.create platform settings)
  | neutral {α : Type} {x : Act κ τ α} : x.Obeys Neutral → Open host α x

/-- The single steps that all these operations are put together from. -/
inductive Single (_ : Host κ τ) : (α : Type) → Act κ τ α → Prop
  | insert (c : ContextId) (events : EventSet) (filter : Filter) (program : κ) :
      Single _ _ (Act.insert c events filter program)
  | decide (c : ContextId) (id : CallbackId) (d : Device) (e : Event) :
      Single _ _ (Act.decide c id d e)
  | commit (c : ContextId) (id : CallbackId) (wish : Wish) : Single _ _ (Act.commit c id wish)
  | markPending (c : ContextId) (id : CallbackId) : Single _ _ (Act.markPending c id)
  | teardown (c : ContextId) : Single _ _ (Act.teardown c)
  | create (platform : Platform) (settings : ContextSettings) :
      Single _ _ (Act.create platform settings)
  | neutral {α : Type} {x : Act κ τ α} : x.Obeys Neutral → Single _ _ x
  | panic {α : Type} : Single _ α Act.panic

end Repertoire

namespace Act

variable {c : ContextId} {id : CallbackId} {d : Device} {e : Event}

theorem neutral_note {n : Notice} (h : n.ofRecord = false) :
    (note n : Act κ τ Unit).Obeys Neutral := by
  intro w
  exact ⟨fun _ => rfl, fun _ => rfl, rfl, List.forall_mem_singleton.2 h⟩

theorem neutral_setRoster {w : World κ τ} {r : Roster} {ns : List Notice}
    (h : ∀ n ∈ ns, n.ofRecord = false) : Neutral w ns (w.setRoster c r) where
  registry _ := World.registry_setRoster
  settings _ := World.part_modifyContext Context.settings fun _ => rfl
  nextCallback := rfl
  silent := h

theorem neutral_attach : (attach c d : Act κ τ Unit).Obeys Neutral := by
  intro w
  rw [run_attach]
  exact neutral_setRoster (List.forall_mem_singleton.2 rfl)

theorem neutral_detach {i : DeviceId} : (detach c i : Act κ τ _).Obeys Neutral :=
  obeys_detach fun _ _ _ _ => neutral_setRoster (List.forall_mem_singleton.2 rfl)

theorem neutral_openHandle : (openHandle c d : Act κ τ OpenHandle).Obeys Neutral := by
  intro w
  rw [run_openHandle]
  refine ⟨fun _ => World.registry_setOpens, fun c' => ?_, rfl, List.forall_mem_singleton.2 rfl⟩
  exact World.part_modifyContext Context.settings fun _ => rfl

theorem neutral_closeHandle {h : OpenHandle} : (closeHandle c h : Act κ τ Bool).Obeys Neutral := by
  refine obeys_closeHandle fun w rest _ =>
    ⟨fun _ => World.registry_setOpens, fun c' => ?_, rfl, List.forall_mem_singleton.2 rfl⟩
  exact World.part_modifyContext Context.settings fun _ => rfl

theorem neutral_disconnect {h : OpenHandle} : (disconnect c h : Act κ τ Bool).Obeys Neutral := by
  refine obeys_disconnect fun w _ =>
    ⟨fun _ => World.registry_setPlatform, fun c' => ?_, rfl, forall_mem_givenUp rfl⟩
  exact World.part_modifyContext Context.settings fun _ => rfl

/-! ## Every run is put together from single steps -/

theorem within_single_of_neutral {x : Act κ τ α} (h : x.Obeys Neutral) :
    x.Within Repertoire.Single :=
  .op .idle Host.idle_within (.neutral h)

theorem parts_single : Parts fun _ (x : Act κ τ _) => x.Within Repertoire.Single where
  toClosed := closed_within
  decide := .op .idle Host.idle_within (.decide _ _ _ _)
  commit := .op .idle Host.idle_within (.commit _ _ _)
  markPending := .op .idle Host.idle_within (.markPending _ _)
  insert := .op .idle Host.idle_within (.insert _ _ _ _)
  teardown := .op .idle Host.idle_within (.teardown _)
  attach := within_single_of_neutral neutral_attach
  detach := within_single_of_neutral neutral_detach
  openHandle := within_single_of_neutral neutral_openHandle
  closeHandle := within_single_of_neutral neutral_closeHandle
  buses _ :=
    within_single_of_neutral fun _ => ⟨fun _ => rfl, fun _ => rfl, rfl, List.forall_mem_nil _⟩
  delivered := within_single_of_neutral (neutral_note rfl)
  registered := within_single_of_neutral (neutral_note rfl)
  plugged := within_single_of_neutral (neutral_note rfl)
  unplugged := within_single_of_neutral (neutral_note rfl)
  notify hv :=
    closed_within.notify (within_single_of_neutral (neutral_note rfl))
      (fun _ => within_single_of_neutral (neutral_note rfl))
      (closed_within.pass hv
        (closed_within.disconnectOn fun _ => within_single_of_neutral neutral_disconnect))

/-- **Every run is put together from single steps**, what its callbacks do included. -/
theorem Within.single {x : Act κ τ α} (hx : x.Within Repertoire.Open) :
    x.Within Repertoire.Single := by
  induction hx with
  | op host _ hR ih =>
    cases hR with
    | any hany =>
      cases hany with
      | calm hcalm => exact parts_single.calm ih hcalm
      | panic => exact .op .idle Host.idle_within .panic
    | create platform settings => exact .op .idle Host.idle_within (.create platform settings)
    | neutral h => exact within_single_of_neutral h
  | pure a => exact .pure a
  | get => exact .get
  | remember f => exact .remember f
  | bind _ _ ihx ihf => exact .bind ihx ihf
  | recover _ _ ihx ihy => exact .recover ihx ihy

/-! ## The worlds on the way -/

/-- **The worlds a run comes through**, with what was noted until then: the world in
which it begins, the world in which it ends, and all that its parts come through. -/
inductive Comes (R : Repertoire κ τ) :
    {α : Type} → Act κ τ α → World κ τ → List Notice → World κ τ → Prop
  | start {α : Type} (x : Act κ τ α) (w : World κ τ) : Comes R x w [] w
  | finish {α : Type} (x : Act κ τ α) (w : World κ τ) :
      Comes R x w (x.run w).notices (x.run w).world
  /-- While the first of two acts is under way. -/
  | first {α β : Type} {x : Act κ τ α} {f : α → Act κ τ β} {w v : World κ τ} {ns : List Notice} :
      x.Within R → Comes R x w ns v → Comes R (x >>= f) w ns v
  /-- While the second one is. -/
  | next {α β : Type} {x : Act κ τ α} {f : α → Act κ τ β} {a : α} {w v : World κ τ}
      {ns : List Notice} :
      x.Within R → (f a).Within R → (x.run w).result = some a →
        Comes R (f a) (x.run w).world ns v → Comes R (x >>= f) w ((x.run w).notices ++ ns) v
  /-- While no callback has panicked yet. -/
  | tried {α : Type} {x y : Act κ τ α} {w v : World κ τ} {ns : List Notice} :
      x.Within R → Comes R x w ns v → Comes R (x.recover y) w ns v
  /-- While it is gone on after a panic. -/
  | handled {α : Type} {x y : Act κ τ α} {w v : World κ τ} {ns : List Notice} :
      x.Within R → y.Within R → (x.run w).result = none →
        Comes R y (x.run w).world ns v → Comes R (x.recover y) w ((x.run w).notices ++ ns) v

namespace Comes

variable {R : Repertoire κ τ} {x : Act κ τ α} {w v : World κ τ} {ns : List Notice}

/-- **What every run obeys holds at every moment of a run.** -/
theorem obeys {L : Law κ τ} [L.Composes]
    (hR : ∀ {β : Type} {y : Act κ τ β}, y.Within R → y.Obeys L) (hx : x.Within R)
    (h : x.Comes R w ns v) : L w ns v := by
  induction h with
  | start x w => exact Law.Composes.refl w
  | finish x w => exact hR hx w
  | first hfirst _ ih => exact ih hfirst
  | next hfirst hnext _ _ ih => exact Law.Composes.trans (hR hfirst _) (ih hnext)
  | tried htried _ ih => exact ih htried
  | handled htried hhandler _ _ ih => exact Law.Composes.trans (hR htried _) (ih hhandler)

/-! A pass comes through all that the callbacks it runs come through. -/

variable {host : Host κ τ} {c : ContextId} {id : CallbackId} {d : Device} {e : Event}
variable {rest : List CallbackId}

theorem visit (hhost : host.Within Repertoire.Single) {program : κ}
    (hv : ((w.registry c).decide id d e).1 = .invoke program)
    (h : (host.react { context := c, callback := id, program, device := d, event := e }).Comes
      Repertoire.Single (w.setRegistry c ((w.registry c).decide id d e).2) ns v) :
    (Act.visit host c d e id).Comes Repertoire.Single w
      (.decided c id .invoke :: .delivered c id d e :: ns) v := by
  have hnote : (note (.delivered c id d e) : Act κ τ Unit).Within Repertoire.Single :=
    parts_single.delivered
  have hinvoke : (invoke host c id program d e).Comes Repertoire.Single
      (w.setRegistry c ((w.registry c).decide id d e).2) (.delivered c id d e :: ns) v :=
    .next hnote (hhost _) rfl h
  have hresult : ((Act.decide c id d e).run w).result = some (.invoke program) := by
    rw [run_decide, hv]
  have hnotices : ((Act.decide c id d e).run w).notices = [.decided c id .invoke] := by
    rw [run_decide, hv]
    rfl
  have hwithin : (invoke host c id program d e).Within Repertoire.Single :=
    closed_within.invoke hnote hhost
  have hrun : (Act.visit host c d e id).Comes Repertoire.Single w
      (((Act.decide c id d e).run w).notices ++ (.delivered c id d e :: ns)) v := by
    unfold Act.visit
    refine .next (a := .invoke program) parts_single.decide ?_ hresult (.first hwithin hinvoke)
    exact .bind hwithin fun _ => .bind parts_single.commit fun _ => .pure _
  rwa [hnotices] at hrun

theorem visitAll_cons (hhost : host.Within Repertoire.Single)
    (h : (Act.visit host c d e id).Comes Repertoire.Single w ns v) :
    (Act.visitAll host c d e (id :: rest)).Comes Repertoire.Single w ns v :=
  .first (parts_single.visit hhost) h

theorem notify (hhost : host.Within Repertoire.Single)
    (h : (Act.visitAll host c d e (host.order w (w.registry c).ids)).Comes
      Repertoire.Single w ns v) :
    (Act.notify host c d e).Comes Repertoire.Single w (.passBegan c d e :: ns) v := by
  have hvisit : ∀ id, (Act.visit host c d e id).Within Repertoire.Single :=
    fun _ => parts_single.visit hhost
  have hvisits : (Act.visitAll host c d e (host.order w (w.registry c).ids)).Within
      Repertoire.Single := closed_within.visitAll fun id _ => hvisit id
  have hfollow : (disconnectOn c d : Act κ τ _).Within Repertoire.Single :=
    closed_within.disconnectOn fun _ => within_single_of_neutral neutral_disconnect
  have hnote : ∀ {n : Notice}, n.ofRecord = false →
      (note n : Act κ τ Unit).Within Repertoire.Single :=
    fun h => within_single_of_neutral (neutral_note h)
  have hpass : (pass host c d e).Within Repertoire.Single := closed_within.pass hvisit hfollow
  have hcomes : (pass host c d e).Comes Repertoire.Single w ns v := by
    unfold pass
    refine .next (a := w) .get ?_ rfl (.first hvisits h)
    refine .bind hvisits fun visits => ?_
    by_cases he : e = .left
    · rw [if_pos he]
      exact .bind hfollow fun _ => .pure _
    · rw [if_neg he]
      exact .bind (.pure _) fun _ => .pure _
  refine .next (a := ()) (hnote rfl) ?_ rfl (.first hpass hcomes)
  exact .bind hpass fun p => .bind (hnote rfl) fun _ => .pure _

end Comes
end Act
end DeviceWatch
