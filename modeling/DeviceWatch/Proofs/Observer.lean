import DeviceWatch.Proofs.Account
import DeviceWatch.Proofs.Attending
import DeviceWatch.Proofs.Changes
import DeviceWatch.Proofs.Registration
/-!
# The delivery history of an observer

An observer that is not dismissed is told of the devices that were there when it
was registered, and then of every pass that begins over an event it listens for,
once each and in order. Which other callbacks there are, what they do, and in
which order passes visit them plays no part.
-/

namespace DeviceWatch

variable {κ τ α : Type}

namespace Act

variable {host : Host κ τ} {c c' : ContextId} {o : CallbackId} {d : Device} {e : Event}
variable {w : World κ τ}

/-! ## Registrations -/

/-- The observer's own registration owes it what is there. -/
theorem followed_enrol {f : Filter} {m : EventSet} {program : κ} (flags : Flags)
    (hw : w.Ready c ⟨w.nextCallback⟩) (hsound : (w.enrol c f m program).Sound) :
    Followed c ⟨w.nextCallback⟩ w
      [.inserted c ⟨w.nextCallback⟩,
        .registered c ⟨w.nextCallback⟩ f m flags (w.existing c flags)]
      (w.enrol c f m program) := by
  have hget : ((w.enrol c f m program).registry c).get? ⟨w.nextCallback⟩ =
      some ⟨⟨w.nextCallback⟩, c, m, f, program, .active⟩ := by
    rw [World.get?_enrol hw.sound, if_pos ⟨rfl, rfl⟩]
  refine ⟨⟨hsound, ?_⟩, Nat.le_succ _, ?_, ?_, fun _ => Nat.lt_succ_self _, ?_, ?_⟩
  · simp [Registry.status?, hget]
  · simp [Notice.registers]
  · exact fun h => absurd h (Nat.lt_irrefl _)
  · exact ⟨trivial, fun _ => rfl, trivial⟩
  · ext1
    · simp [World.outlook, Outlook.after, Outlook.next, Roster.follow]
    · simp [World.outlook, Outlook.after, Outlook.next, hget]

/-- A record made for another is heeded. -/
theorem heeded_enrol {q : Prop} {f : Filter} {m : EventSet} {program : κ} (flags : Flags)
    (hw : w.Ready c o) (hlife : Life w [.inserted c' ⟨w.nextCallback⟩] (w.enrol c' f m program))
    (hne : ¬(c' = c ∧ ⟨w.nextCallback⟩ = o)) :
    Heeded q c o w
      [.inserted c' ⟨w.nextCallback⟩,
        .registered c' ⟨w.nextCallback⟩ f m flags (w.existing c' flags)]
      (w.enrol c' f m program) := by
  have hget : ((w.enrol c' f m program).registry c).get? o = (w.registry c).get? o := by
    rw [World.get?_enrol hw.sound, if_neg fun h => hne ⟨h.1.symm, h.2.symm⟩]
  have hns : ∀ n ∈ [Notice.inserted c' ⟨w.nextCallback⟩,
      .registered c' ⟨w.nextCallback⟩ f m flags (w.existing c' flags)],
      n.concerns c o = false := by
    simpa [Notice.concerns] using hne
  refine .of_not_concerns hns (hw.of_get? (hlife.sound hw.sound) hget) hlife.drawn_le ?_
  exact World.outlook_eq hget World.roster_enrol hns

theorem heeds_register {q : Prop} {request : Request κ}
    (hr : ∀ inv, (host.react inv).Obeys (Heeds True c o))
    (hret : ∀ inv, (host.react inv).Returns) :
    (register host c' request).Obeys (Heeds q c o) := by
  intro w hw hno
  rcases run_register request hret with ⟨error, hrun⟩ | ⟨f, program, hroom, hrun⟩
  · rw [hrun]
    exact .refl hw
  rw [hrun] at hno ⊢
  simp only [List.forall_mem_cons] at hno
  have hlife : Life w _ (w.enrol c' f request.events program) := life_enrol hroom
  by_cases hself : c' = c ∧ ⟨w.nextCallback⟩ = o
  · -- The registration owes the observer what is there, and the enumeration pays it.
    obtain ⟨rfl, rfl⟩ := hself
    have howed := followed_enrol request.flags hw (hlife.sound hw.sound)
    have hears : ((w.enrol c' f request.events program).outlook c' ⟨w.nextCallback⟩).hears =
        some (f, request.events) := by
      simp [World.outlook, World.get?_enrol hw.sound]
    have hgreeted := attended_enumerate hr hret howed.ready hears hno.2.2
    refine Attended.settle howed (Nat.lt_succ_self _) rfl ?_ (fun _ => rfl) hgreeted
    simp [Outlook.tale, Outlook.told]
  · have hfirst := heeded_enrol (q := q) request.flags hw hlife hself
    exact hfirst.trans
      (heeds_enumerate (fun inv => (hr inv).of_heeds) hself _ hfirst.ready hno.2.2)

/-! ## Passes -/

theorem heeds_notify (hr : ∀ inv, (host.react inv).Obeys (Heeds True c o))
    (hret : ∀ inv, (host.react inv).Returns) :
    (notify host c' d e).Obeys (Heeds False c o) := by
  intro w hw hno
  obtain ⟨vs, hs, -, hrun⟩ := run_notify (c := c') (d := d) (e := e) (w := w) hret
  rw [hrun] at hno ⊢
  simp only [List.forall_mem_cons, List.forall_mem_append] at hno
  obtain ⟨-, ⟨hvisits, hfollow⟩, hend⟩ := hno
  have hperm := host.order_perm w (w.registry c').ids
  by_cases hmem : c' = c ∧ o ∈ (w.registry c').ids
  · -- The observer is among those visited, once: its visit pays what the pass owes it.
    obtain ⟨rfl, hmem⟩ := hmem
    obtain ⟨x, hx⟩ := Registry.mem_ids_iff.1 hmem
    have hears : (w.outlook c' o).hears = some (x.filter, x.events) := by
      simp [World.outlook, hx]
    have ho : o.val < w.nextCallback := hw.drawn hears
    have hvisited := attended_visitAll hr hret (hperm.nodup_iff.2 (hw.sound.nodup c'))
      (hperm.mem_iff.2 hmem) hw hears hvisits
    have hfollowed : Attended c' o [] _ _ _ :=
      .of_heeded (Nat.lt_of_lt_of_le ho hvisited.drawn) (heeds_followUp _ hvisited.ready hfollow)
    have hended : Attended c' o [] _ [.passEnded c' d e (Pass.tally ⟨vs, hs⟩)] _ :=
      ⟨.single hfollowed.ready rfl rfl, rfl, rfl⟩
    refine Attended.settle (.single (n := .passBegan c' d e) hw rfl rfl) ho rfl ?_ False.elim
      ((hvisited.trans hfollowed).trans hended)
    simp [Outlook.tale, Outlook.told, hears]
  · -- No observer listens yet in this context, and none that is registered meanwhile
    -- is visited by this pass.
    have hbegan : Heeded False c o w [.passBegan c' d e] w := by
      refine ⟨.single hw rfl rfl, ?_, False.elim⟩
      by_cases hc : c' = c
      · have hnone : (w.registry c).get? o = none :=
          Registry.get?_eq_none_iff.2 fun hlive => hmem ⟨hc, hc ▸ hlive⟩
        simp [deliveries, Outlook.tale, Outlook.told, World.outlook, hnone]
      · exact (Outlook.tale_of_passless rfl (by simp [passes, hc])).symm
    have hvisited : Heeded False c o w _ _ :=
      heeds_visitAll (fun inv => (hr inv).of_heeds)
        (fun hc hin => hmem ⟨hc, hperm.mem_iff.1 hin⟩) w hw hvisits
    have hfollowed : Heeded False c o _ _ _ := heeds_followUp _ hvisited.ready hfollow
    have hended : Heeded False c o _ [.passEnded c' d e (Pass.tally ⟨vs, hs⟩)] _ :=
      heeds_note rfl rfl rfl _ hfollowed.ready (List.forall_mem_singleton.2 rfl)
    exact hbegan.trans ((hvisited.trans hfollowed).trans hended)

end Act

/-! ## Runs -/

namespace Repertoire

/-- Everything but to begin a pass. -/
inductive Aside (host : Host κ τ) : (α : Type) → Act κ τ α → Prop
  | bystanding {α : Type} {x : Act κ τ α} : Bystanding host α x → Aside host α x
  | attach (c : ContextId) (d : Device) : Aside host _ (Act.attach c d)
  | detach (c : ContextId) (i : DeviceId) : Aside host _ (Act.detach c i)

/-- The same and passes, one after the other: no callback begins a pass. -/
inductive Paced (host : Host κ τ) : (α : Type) → Act κ τ α → Prop
  | aside {α : Type} {x : Act κ τ α} (h : host.Within Aside) : Aside host α x → Paced host α x
  | notify (h : host.Within Aside) (c : ContextId) (d : Device) (e : Event) :
      Paced host _ (Act.notify host c d e)
  | plug (h : host.Within Aside) (b : BusId) (s : DeviceSpec) : Paced host _ (Act.plug host b s)
  | unplug (h : host.Within Aside) (b : BusId) (i : DeviceId) : Paced host _ (Act.unplug host b i)
  | transferFailed (h : host.Within Aside) (b : BusId) (k : OpenHandle) :
      Paced host _ (Act.transferFailed host b k)

theorem Aside.calm {host : Host κ τ} {x : Act κ τ α} (h : Aside host α x) : Calm host α x := by
  cases h with
  | bystanding h => exact h.calm
  | attach => exact .attach _ _
  | detach => exact .detach _ _

end Repertoire

namespace Act

variable {host : Host κ τ} {c : ContextId} {o : CallbackId} {d : Device} {e : Event}
variable {w : World κ τ} {x : Act κ τ α} {f : Filter} {m : EventSet} {flags : Flags}

theorem heeds_remember {q : Prop} (g : τ → τ) :
    (remember g : Act κ τ Unit).Obeys (Heeds q c o) :=
  fun _ hw _ =>
    .of_registry hw (fun _ => rfl) rfl (List.forall_mem_nil _) (List.forall_mem_nil _) rfl

theorem heeds_bystanding {q : Prop} (hr : ∀ inv, (host.react inv).Obeys (Heeds True c o))
    (hret : ∀ inv, (host.react inv).Returns) (hx : Repertoire.Bystanding host α x) :
    x.Obeys (Heeds q c o) := by
  cases hx with
  | register => exact heeds_register hr hret
  | deregister => exact heeds_deregister
  | teardown => exact heeds_teardown
  | openHandle => exact heeds_openHandle
  | closeHandle => exact heeds_closeHandle
  | openDevice => exact heeds_openDevice
  | closeDevice => exact heeds_closeDevice

theorem heeds_aside {q : Prop} (hr : ∀ inv, (host.react inv).Obeys (Heeds True c o))
    (hret : ∀ inv, (host.react inv).Returns) (hx : Repertoire.Aside host α x) :
    x.Obeys (Heeds q c o) := by
  cases hx with
  | bystanding h => exact heeds_bystanding hr hret h
  | attach => exact heeds_attach
  | detach => exact heeds_detach

theorem Within.returns_of_aside (hx : x.Within Repertoire.Aside) : x.Returns :=
  (hx.mono fun _ _ _ => Repertoire.Aside.calm).returns_of_calm

/-- Callbacks that begin no pass may run in any pass. -/
theorem Within.paced (hx : x.Within Repertoire.Aside) : x.Within Repertoire.Paced := by
  induction hx with
  | op host hhost hR ih => exact .op host ih (.aside hhost hR)
  | pure a => exact .pure a
  | get => exact .get
  | remember f => exact .remember f
  | bind _ _ ihx ihf => exact .bind ihx ihf
  | recover _ _ ihx ihy => exact .recover ihx ihy

/-- Runs that begin no pass are heeded. -/
theorem Within.heeds_of_aside (hx : x.Within Repertoire.Aside) : x.Obeys (Heeds True c o) :=
  hx.obeys (fun w f => heeds_remember f w) fun hhost hr hop =>
    heeds_aside hr (fun inv => (hhost inv).returns_of_aside) hop

/-- Runs in which callbacks begin no passes are heeded. -/
theorem Within.heeds (hx : x.Within Repertoire.Paced) : x.Obeys (Heeds False c o) := by
  refine hx.obeys (fun w f => heeds_remember f w) fun {α host x} _ _ hop => ?_
  have hr (h : host.Within Repertoire.Aside) : ∀ inv, (host.react inv).Obeys (Heeds True c o) :=
    fun inv => (h inv).heeds_of_aside
  have hret (h : host.Within Repertoire.Aside) : ∀ inv, (host.react inv).Returns :=
    fun inv => (h inv).returns_of_aside
  cases hop with
  | aside h hx => exact heeds_aside (hr h) (hret h) hx
  | notify h => exact heeds_notify (hr h) (hret h)
  | plug h =>
    refine closed_obeys.plug (fun _ _ hw _ => ?_) (fun _ _ => heeds_attach)
      (fun _ => heeds_note rfl rfl rfl) fun _ _ => heeds_notify (hr h) (hret h)
    exact .of_registry hw (fun _ => rfl) rfl (List.forall_mem_nil _) (List.forall_mem_nil _) rfl
  | unplug h =>
    exact closed_obeys.unplug (fun _ => heeds_detach) (fun _ => heeds_note rfl rfl rfl)
      fun _ _ => heeds_notify (hr h) (hret h)
  | transferFailed h =>
    exact closed_obeys.transferFailed (fun _ => heeds_detach) fun _ =>
      heeds_notify (hr h) (hret h)

variable {before after : List Notice} {existing : List Device}

/-- **The delivery history of an observer** that is registered in the course of a
run and not dismissed: the devices that are there by then, if it asked for them,
and one delivery for each later pass over an event that it listens for. Where
devices come and go by acts on buses alone, the later passes are the later changes. -/
theorem Within.delivery_history (hx : x.Within Repertoire.Paced) (hw : w.Ready c o)
    (hns : (x.run w).notices = before ++ .registered c o f m flags existing :: after)
    (hkept : ∀ n ∈ (x.run w).notices, n.dismisses c o = false) :
    (existing = if flags.enumerate then ((w.roster c).followAll c before).toList else []) ∧
      deliveries c o (x.run w).notices =
        greeting f m existing ++ (passes c after).filter (fun (d, e) => f.hears m d e) ∧
      (x.Within Repertoire.Driven → announced c after = changes c after) := by
  have hheeded := hx.heeds w hw hkept
  have hself : (Notice.registered c o f m flags existing).registers c o = true := by
    simp [Notice.registers]
  have hcount : (x.run w).notices.countP (Notice.registers c o) =
      before.countP (Notice.registers c o) + (after.countP (Notice.registers c o) + 1) := by
    rw [hns, List.countP_append, List.countP_cons, if_pos hself]
  -- It is registered once, so it was not there before and is not registered again.
  have honce := hheeded.once
  have hnone : (w.registry c).get? o = none := by
    refine Registry.get?_eq_none_iff.2 fun hlive => ?_
    have hzero := hheeded.unregistered (hw.sound.below hlive)
    omega
  refine ⟨?_, ?_, fun hdriven => ?_⟩
  · have hfaithful := hheeded.faithful
    rw [hns, Outlook.faithfulAlong_append] at hfaithful
    have hnamed := hfaithful.2.1 ⟨rfl, rfl⟩
    rwa [Outlook.roster_after] at hnamed
  · have hbefore : (w.outlook c o).tale c o before = [] := by
      rw [Outlook.tale_of_unregistered (by omega), World.outlook, hnone]
      rfl
    rw [hheeded.deliveries, hns, Outlook.tale_append, hbefore, Outlook.tale,
      Outlook.tale_of_unregistered (by omega)]
    simp [Outlook.told, Outlook.next]
  · have hpaired : Paired c o (x.run w).notices := hdriven.pairs w
    rw [hns] at hpaired
    exact hpaired.changes_after hself

/-- Callbacks of which the one that its own program names registers another when a
device arrives, to be told of the devices that are there too. -/
def recruiting : Host CallbackId Unit where
  react inv := do
    if inv.program = inv.callback ∧ inv.event = .arrived then
      let _ ← register Host.idle inv.context
        { events := .all, flags := .existing, program := some ⟨1⟩ }
    return .rearm
  order _ ids := ids
  order_perm _ _ := .refl _

/-- A device arrives and leaves under a callback that registers others. -/
def recruit (c : ContextId) : Act CallbackId Unit Unit := do
  attach c default
  let _ ← register recruiting c { events := .all, program := some ⟨1⟩ }
  let _ ← notify recruiting c default .arrived
  let _ ← notify recruiting c default .left

theorem recruiting_within : recruiting.Within Repertoire.Aside := by
  intro inv
  by_cases h : inv.program = inv.callback ∧ inv.event = .arrived
  · simp only [recruiting, if_pos h]
    exact .bind (.op .idle Host.idle_within (.bystanding (.register _ _))) fun _ => .pure _
  · simp only [recruiting, if_neg h]
    exact .pure _

theorem recruit_within {c : ContextId} : (recruit c).Within Repertoire.Paced := by
  have hhost : recruiting.Within Repertoire.Paced := fun inv => (recruiting_within inv).paced
  refine .bind (.op .idle Host.idle_within (.aside Host.idle_within (.attach c _))) fun _ => ?_
  refine .bind (.op _ hhost (.aside recruiting_within (.bystanding (.register c _)))) fun _ => ?_
  refine .bind (.op _ hhost (.notify recruiting_within c _ _)) fun _ => ?_
  exact .bind (.op _ hhost (.notify recruiting_within c _ _)) fun _ => .pure _

/-- The pass over the arrival has begun when the second callback is registered, so
it is told of the device as one that is there, and of its departure later on. -/
theorem delivery_history_of_recruit :
    ∃ before after,
      ((recruit ⟨1⟩).run oneContext).notices =
        before ++ .registered ⟨1⟩ ⟨2⟩ .any .all .existing [default] :: after ∧
      .passBegan ⟨1⟩ default .arrived ∈ before ∧
      deliveries ⟨1⟩ ⟨2⟩ ((recruit ⟨1⟩).run oneContext).notices =
        [(default, .arrived), (default, .left)] := by
  have hns : ((recruit ⟨1⟩).run oneContext).notices =
      [.attached ⟨1⟩ default, .inserted ⟨1⟩ ⟨1⟩, .registered ⟨1⟩ ⟨1⟩ .any .all .none [],
          .passBegan ⟨1⟩ default .arrived, .decided ⟨1⟩ ⟨1⟩ .invoke,
          .delivered ⟨1⟩ ⟨1⟩ default .arrived, .inserted ⟨1⟩ ⟨2⟩] ++
        .registered ⟨1⟩ ⟨2⟩ .any .all .existing [default] ::
        [.decided ⟨1⟩ ⟨2⟩ .invoke, .delivered ⟨1⟩ ⟨2⟩ default .arrived,
          .committed ⟨1⟩ ⟨2⟩ .rearm false, .committed ⟨1⟩ ⟨1⟩ .rearm false,
          .passEnded ⟨1⟩ default .arrived ⟨1, 0, 0⟩, .passBegan ⟨1⟩ default .left,
          .decided ⟨1⟩ ⟨1⟩ .invoke, .delivered ⟨1⟩ ⟨1⟩ default .left,
          .committed ⟨1⟩ ⟨1⟩ .rearm false, .decided ⟨1⟩ ⟨2⟩ .invoke,
          .delivered ⟨1⟩ ⟨2⟩ default .left, .committed ⟨1⟩ ⟨2⟩ .rearm false,
          .passEnded ⟨1⟩ default .left ⟨2, 0, 0⟩] := rfl
  have hkept : ∀ n ∈ ((recruit ⟨1⟩).run oneContext).notices,
      n.dismisses ⟨1⟩ ⟨2⟩ = false := by
    rw [hns]
    decide
  obtain ⟨-, hdeliveries, -⟩ :=
    recruit_within.delivery_history ⟨oneContext_sound, by decide⟩ hns hkept
  exact ⟨_, _, hns, by simp, hdeliveries⟩

end Act
end DeviceWatch
