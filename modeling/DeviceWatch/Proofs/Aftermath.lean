import DeviceWatch.Proofs.Moments
import DeviceWatch.Proofs.Unwinding
/-!
# After a panic

A panic leaves a world like any other. The steps that had been completed lead to
it without a panic as well, so no later operation can tell that there was one. The
records of the invocations that were cut short wait in the registry as the completed
steps left them: the next pass removes the pending ones, and invokes the active ones
that hear of its event.
-/

namespace DeviceWatch

variable {κ τ α : Type}

/-! ## Reached without a panic -/

/-- Single steps, none of which panics. -/
inductive Repertoire.Steady (_ : Host κ τ) : (α : Type) → Act κ τ α → Prop
  | insert (c : ContextId) (events : EventSet) (filter : Filter) (program : κ) :
      Steady _ _ (Act.insert c events filter program)
  | decide (c : ContextId) (id : CallbackId) (d : Device) (e : Event) :
      Steady _ _ (Act.decide c id d e)
  | commit (c : ContextId) (id : CallbackId) (wish : Wish) : Steady _ _ (Act.commit c id wish)
  | markPending (c : ContextId) (id : CallbackId) : Steady _ _ (Act.markPending c id)
  | teardown (c : ContextId) : Steady _ _ (Act.teardown c)
  | neutral {α : Type} {x : Act κ τ α} : x.Obeys Neutral → x.Returns → Steady _ _ x

/-- Steps that do not panic lead from the first world to the second, with the same
notices. -/
def Calmly : Law κ τ :=
  fun w ns w' => ∃ y : Act κ τ Unit, y.Within Repertoire.Steady ∧
    y.run w = { result := some (), world := w', notices := ns }

instance : Law.Composes (Calmly (κ := κ) (τ := τ)) where
  refl w := ⟨pure (), .pure _, rfl⟩
  trans := by
    rintro w₁ w₂ w₃ ns ms ⟨y, hy, hrun⟩ ⟨z, hz, hrest⟩
    refine ⟨y >>= fun _ => z, .bind hy fun _ => hz, ?_⟩
    rw [Act.run_bind, hrun, Effect.andThen_some, hrest]

namespace Act

variable {x : Act κ τ α} {host : Host κ τ} {w : World κ τ}
variable {c : ContextId} {d : Device} {e : Event} {id : CallbackId}

theorem returns_of_steady (hx : Repertoire.Steady host α x) : x.Returns := by
  cases hx with
  | insert => exact returns_insert
  | decide => exact returns_decide
  | commit => exact returns_commit
  | markPending => exact returns_markPending
  | teardown => exact returns_teardown
  | neutral _ hret => exact hret

theorem calmly_of_steady (hx : Repertoire.Steady Host.idle α x) : x.Obeys Calmly := by
  intro w
  obtain ⟨a, ha⟩ := returns_of_steady hx w
  refine ⟨x >>= fun _ => pure (), .bind (.op .idle Host.idle_within hx) fun _ => .pure _, ?_⟩
  rw [run_bind_of_result ha, run_pure, List.append_nil]

theorem calmly_note {n : Notice} (h : n.ofRecord = false) :
    (note n : Act κ τ Unit).Obeys Calmly :=
  calmly_of_steady (.neutral (neutral_note h) (returns_note n))

theorem parts_calmly : Parts (κ := κ) (τ := τ) fun _ x => x.Obeys Calmly where
  toClosed := closed_obeys
  decide := calmly_of_steady (.decide _ _ _ _)
  commit := calmly_of_steady (.commit _ _ _)
  markPending := calmly_of_steady (.markPending _ _)
  insert := calmly_of_steady (.insert _ _ _ _)
  teardown := calmly_of_steady (.teardown _)
  attach := calmly_of_steady (.neutral neutral_attach returns_attach)
  detach := calmly_of_steady (.neutral neutral_detach returns_detach)
  openHandle := calmly_of_steady (.neutral neutral_openHandle returns_openHandle)
  closeHandle := calmly_of_steady (.neutral neutral_closeHandle returns_closeHandle)
  buses _ := by
    refine calmly_of_steady (.neutral (fun _ => ?_) (returns_modify _))
    exact ⟨fun _ => rfl, fun _ => rfl, rfl, List.forall_mem_nil _⟩
  delivered := calmly_note rfl
  registered := calmly_note rfl
  plugged := calmly_note rfl
  unplugged := calmly_note rfl
  notify hv := by
    have hfollow : ∀ {c d}, (disconnectOn c d : Act κ τ _).Obeys Calmly :=
      closed_obeys.disconnectOn fun _ =>
        calmly_of_steady (.neutral neutral_disconnect returns_disconnect)
    exact closed_obeys.notify (calmly_note rfl) (fun _ => calmly_note rfl)
      (closed_obeys.pass hv hfollow)

/-- **Whatever a run leaves can be reached without a panic**, by the steps that it
completed. -/
theorem Within.calmly (hx : x.Within Repertoire.Any) : x.Obeys Calmly :=
  hx.obeys_of_parts parts_calmly fun _ f => ⟨Act.remember f, .remember f, rfl⟩

theorem Within.returns_of_steady (hx : x.Within Repertoire.Steady) : x.Returns :=
  hx.returns fun _ hop => Act.returns_of_steady hop

/-- Does an act; if a callback panics under it, the panic ends there. -/
def caught (x : Act κ τ α) : Act κ τ Unit :=
  (x >>= fun _ => pure ()).recover (pure ())

theorem run_caught_of_panic (h : (x.run w).result = none) :
    x.caught.run w =
      { result := some ()
        world := (x.run w).world
        notices := (x.run w).notices } := by
  rw [caught, run_recover, run_bind_of_panic h, Effect.orElse_none, run_pure, List.append_nil]

/-! ## The next pass -/

/-- **What a pass does about the records that it finds**, given what it noted and the
world in which it ended. -/
structure Serves (c : ContextId) (d : Device) (e : Event) (w : World κ τ) (ns : List Notice)
    (w' : World κ τ) : Prop where
  /-- A pending record is not invoked, it goes, and that is noted once. -/
  released : ∀ u, (w.registry c).status? u = some .pending →
    (∀ c', .decided c' u .invoke ∉ ns) ∧ ns.countP (Notice.removes u) = 1 ∧ w'.Gone u
  /-- An active record that hears of the event is invoked, unless it retires in the
  pass before it has its turn. -/
  invoked : ∀ u x, (w.registry c).get? u = some x → x.status = .active → x.hears d e = true →
    ∃ before v after, ns = before ++ .decided c u v :: after ∧
      ((v = .invoke ∧ ∃ rest, after = .delivered c u d e :: rest) ∨
        ∃ n ∈ before, n.retires u = true)

/-- The visits of a pass that comes to its end all come to theirs. -/
theorem visits_of_notify {tally : Tally} (h : ((notify host c d e).run w).result = some tally) :
    ∃ vs, ((visitAll host c d e (host.order w (w.registry c).ids)).run w).result = some vs := by
  obtain ⟨_, -, hpass, -⟩ := of_run_bind h
  obtain ⟨p, hp, -⟩ := of_run_bind hpass
  rw [pass_eq] at hp
  obtain ⟨v, hget, hvisits, -⟩ := of_run_bind hp
  obtain rfl : w = v := Option.some.inj hget
  obtain ⟨vs, hvs, -⟩ := of_run_bind hvisits
  exact ⟨vs, hvs⟩

/-- Visits that come to their end come to each record, in a world on the way. -/
theorem visit_of_visitAll (hlife : ∀ inv, (host.react inv).Obeys Life) {ids : List CallbackId}
    {vs : List (CallbackId × Visit)} (h : ((visitAll host c d e ids).run w).result = some vs)
    (hmem : id ∈ ids) :
    ∃ before v after, Life w before v ∧
      Life ((visit host c d e id).run v).world after ((visitAll host c d e ids).run w).world ∧
      ((visitAll host c d e ids).run w).notices =
        before ++ (((visit host c d e id).run v).notices ++ after) := by
  induction ids generalizing w vs with
  | nil => cases hmem
  | cons i rest ih =>
    obtain ⟨a, ha, hrest, -⟩ := of_run_bind h
    obtain ⟨vs', hvs', -⟩ := of_run_bind hrest
    rw [run_visitAll_cons ha hvs']
    rcases List.mem_cons.1 hmem with rfl | hmem
    · exact ⟨[], w, _, .refl w, closed_obeys.visitAll (fun _ _ => life_visit hlife) _, rfl⟩
    · obtain ⟨before, v, after, hbefore, hafter, hnotices⟩ := ih hvs' hmem
      have hfirst : Life w ((visit host c d e i).run w).notices
          ((visit host c d e i).run w).world := life_visit hlife w
      refine ⟨_, v, after, hfirst.trans hbefore, hafter, ?_⟩
      rw [List.append_assoc, ← hnotices]
      rfl

/-- So does a pass that comes to its end, to every record that was live when it
began. -/
theorem visit_of_notify (hlife : ∀ inv, (host.react inv).Obeys Life) {tally : Tally}
    (h : ((notify host c d e).run w).result = some tally) (hlive : id ∈ (w.registry c).ids) :
    ∃ before v after, Life w before v ∧
      Life ((visit host c d e id).run v).world after ((notify host c d e).run w).world ∧
      ((notify host c d e).run w).notices =
        before ++ (((visit host c d e id).run v).notices ++ after) := by
  obtain ⟨vs, hvs⟩ := visits_of_notify h
  obtain ⟨hs, hhs⟩ : ∃ hs, ((followUp c d e).run
    ((visitAll host c d e (host.order w (w.registry c).ids)).run w).world).result = some hs :=
      returns_followUp _
  obtain ⟨before, v, after, hbefore, hafter, hnotices⟩ :=
    visit_of_visitAll hlife hvs ((host.order_perm w _).mem_iff.2 hlive)
  have hbegan : Life w [.passBegan c d e] w :=
    .quiet (fun _ => rfl) rfl (List.forall_mem_singleton.2 rfl)
  have hended : Life ((notify host c d e).run w).world
      [.passEnded c d e (Pass.tally ⟨vs, hs⟩)] ((notify host c d e).run w).world :=
    .quiet (fun _ => rfl) rfl (List.forall_mem_singleton.2 rfl)
  have hfollow := life_followUp (c := c) (d := d) (e := e)
    ((visitAll host c d e (host.order w (w.registry c).ids)).run w).world
  rw [run_notify_of hvs hhs] at hended ⊢
  refine ⟨_, v, _, hbegan.trans hbefore, hafter.trans (hfollow.trans hended), ?_⟩
  rw [hnotices]
  simp only [List.append_assoc, List.nil_append, List.cons_append]

/-- **A pass that comes to its end serves all records that it finds.** -/
theorem serves_of_notify (hhost : host.Within Repertoire.Any) (hw : w.Sound) {tally : Tally}
    (h : ((notify host c d e).run w).result = some tally) :
    Serves c d e w ((notify host c d e).run w).notices ((notify host c d e).run w).world := by
  have hlife : ∀ inv, (host.react inv).Obeys Life := fun inv => (hhost inv).life
  have hnotify : Life w _ ((notify host c d e).run w).world := life_notify hlife w
  refine ⟨fun u hu => ?released, fun u x hx hs hh => ?invoked⟩
  case released =>
    obtain ⟨x, hx, hs⟩ := Option.map_eq_some_iff.1 hu
    have hlive : u ∈ (w.registry c).ids := Registry.mem_ids_iff.2 ⟨x, hx⟩
    have hretired : w.Retired u := hw.retired_of_pending hu
    obtain ⟨before, v, after, hbefore, hafter, -⟩ := visit_of_notify hlife h hlive
    -- it is not active when its turn comes, so it does not outlive its turn
    have habsent : u ∉ (((visit host c d e u).run v).world.registry c).ids :=
      absent_of_inactive ((hbefore.retired hretired).inactive c)
    have hgone := (hbefore.trans (life_visit hlife v)).gone_of_absent hw hlive habsent
    have hgone' : ((notify host c d e).run w).world.Gone u := hafter.gone hgone
    refine ⟨fun c' => hnotify.not_invoked hretired, ?_, hgone'⟩
    obtain ⟨hstay, -⟩ | ⟨-, honce⟩ := hnotify.fate hw hlive
    · exact absurd hstay (hgone'.absent c)
    · exact honce
  case invoked =>
    have hlive : u ∈ (w.registry c).ids := Registry.mem_ids_iff.2 ⟨x, hx⟩
    obtain ⟨before, v, after, hbefore, -, hnotices⟩ := visit_of_notify hlife h hlive
    rw [hnotices]
    by_cases hretires : ∃ n ∈ before, n.retires u = true
    · obtain ⟨decision, rest, hrest⟩ : ∃ decision rest,
        ((visit host c d e u).run v).notices = .decided c u decision :: rest := notices_of_visit
      refine ⟨before, decision, rest ++ after, ?_, Or.inr hretires⟩
      rw [hrest]
      rfl
    · -- nothing has happened to it before its turn
      have hsame : (v.registry c).get? u = some x := by
        refine hbefore.get?_of_not_retires hx fun n hn => ?_
        exact Bool.eq_false_iff.2 fun hr => hretires ⟨n, hn, hr⟩
      have hruns : (call host c d e v u).isSome = true := call_isSome_iff.2 ⟨x, hsame, hs, hh⟩
      obtain ⟨run, hcall⟩ := Option.isSome_iff_exists.1 hruns
      obtain ⟨rest, hrest⟩ := notices_of_call hcall
      refine ⟨before, .invoke, .delivered c u d e :: (rest ++ after), ?_, Or.inl ⟨rfl, _, rfl⟩⟩
      rw [hrest]
      rfl

end Act

/-! ## What a panic leaves behind -/

/-- **What is left of an act after a panic** has unwound out of it. -/
structure Aftermath (x : Act κ τ α) (w : World κ τ) : Prop where
  /-- The panic was a callback's, and it unwound all invocations around it. -/
  stack : ∃ f fs, x.Unwinds w (f :: fs)
  /-- None of these was committed, and each left its record, and the records that its
  round had not visited, as completed steps made them. -/
  enclosing : ∀ fs, x.Unwinds w fs → ∀ f ∈ fs, f.Left (x.run w).notices (x.run w).world
  /-- What completed steps removed is gone. -/
  gone : ∀ n ∈ (x.run w).notices, ∀ id, n.removes id = true → (x.run w).world.Gone id
  sound : (x.run w).world.Sound
  /-- Some steps that do not panic, in place of the act and its panic, make no
  difference to anything that is done later. -/
  calm : ∃ y : Act κ τ Unit, y.Within Repertoire.Steady ∧ y.Returns ∧
    ∀ {β : Type} (z : Act κ τ β), (x.caught >>= fun _ => z).run w = (y >>= fun _ => z).run w
  /-- The next pass, in whatever context and whatever its callbacks do, serves all
  records if it comes to its end. -/
  next : ∀ (host : Host κ τ) c d e tally, host.Within Repertoire.Any →
    ((Act.notify host c d e).run (x.run w).world).result = some tally →
      Act.Serves c d e (x.run w).world ((Act.notify host c d e).run (x.run w).world).notices
        ((Act.notify host c d e).run (x.run w).world).world

namespace Act

variable {x : Act κ τ α} {host : Host κ τ} {w : World κ τ}

/-- **A callback that panics leaves consistent registries**, under whatever operation and
inside however many others, whatever all of them did before. -/
theorem aftermath_of_panic (hhost : host.Within Repertoire.Any) (hx : Repertoire.Calm host α x)
    (hw : w.Sound) (hnone : (x.run w).result = none) : Aftermath x w := by
  have hwithin : x.Within Repertoire.Any := .op host hhost (.calm hx)
  have hsound : (x.run w).world.Sound := hwithin.sound hw
  refine ⟨Within.unwinds_of_calm hhost hx hnone, ?enclosing, ?gone, hsound, ?calm, ?next⟩
  case enclosing =>
    intro fs hfs f hf
    exact (hfs.encloses.2 f hf).left hw
  case gone =>
    intro n hn id hr
    exact (hwithin.life w).gone_of_removes hw hn hr
  case calm =>
    obtain ⟨y, hy, hrun⟩ := hwithin.calmly w
    refine ⟨y, hy, hy.returns_of_steady, fun z => ?_⟩
    rw [run_bind, run_bind, run_caught_of_panic hnone, hrun]
  case next =>
    intro host' c d e tally hhost' htally
    exact serves_of_notify hhost' hsound htally

/-- Callbacks that panic. -/
def failing : Host CallbackId Unit where
  react _ := panic
  order _ ids := ids
  order_perm _ _ := .refl _

/-- Callbacks that deregister themselves and begin a pass under which callbacks
panic. -/
def rushing : Host CallbackId Unit where
  react inv := do
    deregister inv.context inv.callback
    let _ ← notify failing inv.context inv.device .left
    return .rearm
  order _ ids := ids
  order_perm _ _ := .refl _

theorem failing_within : failing.Within Repertoire.Any :=
  fun _ => .op .idle Host.idle_within .panic

theorem rushing_within : rushing.Within Repertoire.Any :=
  fun _ => .bind (.op .idle Host.idle_within (.calm (.deregister _ _))) fun _ =>
    .bind (.op _ failing_within (.calm (.notify _ _ _))) fun _ => .pure _

/-- The first of two callbacks deregisters itself. The pass that it begins releases its
record, and the second callback panics under both passes: it is the only one that is
left, and is still active. -/
theorem aftermath_of_rushing :
    Aftermath (notify rushing ⟨1⟩ default .arrived) ((registerTwo ⟨1⟩).run oneContext).world ∧
      ((((notify rushing ⟨1⟩ default .arrived).run
        ((registerTwo ⟨1⟩).run oneContext).world).world.registry ⟨1⟩).records.map fun x =>
          (x.id, x.status)) = [(⟨2⟩, .active)] := by
  have hw : ((registerTwo ⟨1⟩).run oneContext).world.Sound :=
    registerTwo_within.sound oneContext_sound
  exact ⟨aftermath_of_panic rushing_within (.notify _ _ _) hw rfl, rfl⟩

end Act
end DeviceWatch
