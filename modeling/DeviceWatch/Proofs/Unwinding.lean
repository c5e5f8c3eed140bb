import DeviceWatch.Proofs.Rounds
/-!
# Unwinding

A callback may panic while any number of passes and enumerations are under way
around it: it runs for a visit of a pass that another callback began, which runs
for a visit of a registration, and so on. The panic unwinds all of them at once.
`Unwinds` finds the panic in an act, and lists the invocations that it unwinds.
Each of them is left where its callback stopped: no commit follows, its round
makes no further visit, and of each record there is what the completed steps made
of it.
-/

namespace DeviceWatch

variable {κ τ α β : Type}

namespace Act

/-- **A panic under an act**, with the invocations that it unwinds, the outermost one
first. What was done before the panic is a path in the lives of records. -/
inductive Unwinds : {α : Type} → Act κ τ α → World κ τ → List (Unfinished κ τ) → Prop
  /-- The panic itself. -/
  | panic {α : Type} (w : World κ τ) : Unwinds (Act.panic : Act κ τ α) w []
  /-- Out of a callback, and so out of the round that invoked it. -/
  | round {α : Type} {x : Act κ τ α} {f : Unfinished κ τ} {fs : List (Unfinished κ τ)} :
      (∀ inv, (f.round.host.react inv).Obeys Life) → x.Makes f.round →
        (x.run f.round.began).result = none → f.Broken → f.before = [] →
        Unwinds f.act f.start fs →
        Unwinds x f.round.began (f :: fs.map fun g => g.since f.noted)
  /-- Out of the first of two acts. -/
  | first {α β : Type} {x : Act κ τ α} {k : α → Act κ τ β} {w : World κ τ}
      {fs : List (Unfinished κ τ)} : Unwinds x w fs → Unwinds (x >>= k) w fs
  /-- Out of the second one. -/
  | next {α β : Type} {x : Act κ τ α} {k : α → Act κ τ β} {a : α} {w : World κ τ}
      {fs : List (Unfinished κ τ)} :
      x.Obeys Life → (x.run w).result = some a → Unwinds (k a) (x.run w).world fs →
        Unwinds (x >>= k) w (fs.map fun g => g.since (x.run w).notices)
  /-- Out of what was done after an earlier panic. -/
  | handled {α : Type} {x y : Act κ τ α} {w : World κ τ} {fs : List (Unfinished κ τ)} :
      x.Obeys Life → (x.run w).result = none → Unwinds y (x.run w).world fs →
        Unwinds (x.recover y) w (fs.map fun g => g.since (x.run w).notices)

end Act

/-! ## Every invocation that was under way -/

/-- **The invocation was under way** when a panic ended what began in a world: what was
noted since then, and the world in which it ended. -/
structure Unfinished.Encloses (f : Unfinished κ τ) (w : World κ τ) (ns : List Notice)
    (w' : World κ τ) : Prop where
  life (inv : Invocation κ) : (f.round.host.react inv).Obeys Life
  broken : f.Broken
  came : Life w f.before f.round.began
  world : w' = f.run.world
  notices : ns = f.before ++ f.noted ++ f.run.notices

namespace Unfinished

variable {f : Unfinished κ τ} {w v w' : World κ τ} {ns ms : List Notice}

/-- More was done before. -/
theorem Encloses.since (h : f.Encloses v ns w') (hlife : Life w ms v) :
    (f.since ms).Encloses w (ms ++ ns) w' where
  life := h.life
  broken := ⟨h.broken.planned, h.broken.returned, h.broken.decided, h.broken.panicked⟩
  came := hlife.trans h.came
  world := h.world
  notices := by
    have hsame : (f.since ms).before ++ (f.since ms).noted ++ (f.since ms).run.notices =
        (ms ++ f.before) ++ f.noted ++ f.run.notices := rfl
    rw [hsame, h.notices]
    simp only [List.append_assoc]

end Unfinished

namespace Act

variable {x : Act κ τ α} {host : Host κ τ} {w : World κ τ} {fs : List (Unfinished κ τ)}
variable {c : ContextId} {d : Device} {e : Event} {id : CallbackId}

/-- **What a panic unwinds, it leaves at once.** The run has no result, and it ends where
the callback of each unwound invocation ended. -/
theorem Unwinds.encloses (h : x.Unwinds w fs) :
    (x.run w).result = none ∧
      ∀ f ∈ fs, f.Encloses w (x.run w).notices (x.run w).world := by
  induction h with
  | panic => exact ⟨rfl, List.forall_mem_nil _⟩
  | @round _ x f fs hlife hx hnone hf hbefore _ ih =>
    obtain ⟨hworld, hnotices⟩ := hf.run_round hx hnone
    refine ⟨hnone, List.forall_mem_cons.2 ⟨?_, ?_⟩⟩
    · refine ⟨hlife, hf, ?_, hworld, ?_⟩
      · rw [hbefore]
        exact .refl _
      · rw [hbefore, hnotices, List.nil_append]
    · rw [hworld, hnotices]
      exact List.forall_mem_map.2 fun g hg => (ih.2 g hg).since (hf.life_noted hlife)
  | first _ ih =>
    rw [run_bind_of_panic ih.1]
    exact ⟨rfl, ih.2⟩
  | next hlife ha _ ih =>
    rw [run_bind_of_result ha]
    exact ⟨ih.1, List.forall_mem_map.2 fun g hg => (ih.2 g hg).since (hlife _)⟩
  | handled hlife hnone _ ih =>
    rw [run_recover, Effect.orElse, hnone]
    exact ⟨ih.1, List.forall_mem_map.2 fun g hg => (ih.2 g hg).since (hlife _)⟩

/-! ## Every panic unwinds what was under way -/

/-- The act panics only if a callback panics under it. -/
structure Blameless (x : Act κ τ α) : Prop where
  life : x.Obeys Life
  unwinds (w : World κ τ) : (x.run w).result = none → ∃ f fs, x.Unwinds w (f :: fs)

theorem Blameless.of_returns (hlife : x.Obeys Life) (hret : x.Returns) : x.Blameless := by
  refine ⟨hlife, fun w hnone => ?_⟩
  obtain ⟨a, ha⟩ := hret w
  cases hnone.symm.trans ha

theorem closed_blameless : Closed (κ := κ) (τ := τ) fun _ x => x.Blameless where
  pure a := .of_returns (obeys_pure a) (returns_pure a)
  get := .of_returns obeys_get returns_get
  bind {_ _ x k} hx hk := by
    refine ⟨hx.life.bind fun a => (hk a).life, fun w hnone => ?_⟩
    rcases ha : (x.run w).result with _ | a
    · obtain ⟨f, fs, hfs⟩ := hx.unwinds w ha
      exact ⟨f, fs, .first hfs⟩
    · rw [run_bind_of_result ha] at hnone
      obtain ⟨f, fs, hfs⟩ := (hk a).unwinds _ hnone
      exact ⟨_, _, .next hx.life ha hfs⟩

section Blameless

variable (hlife : ∀ inv, (host.react inv).Obeys Life)
variable (hreact : ∀ inv w, ((host.react inv).run w).result = none →
  ∃ fs, (host.react inv).Unwinds w fs)

include hlife hreact

/-- A round panics only where a callback breaks it off. -/
theorem unwinds_of_makes {r : Round κ τ} (hr : r.host = host) (hx : x.Makes r)
    (hnone : (x.run r.began).result = none) : ∃ f fs, x.Unwinds r.began (f :: fs) := by
  subst hr
  obtain ⟨f, rfl, hbefore, hf⟩ := Unfinished.exists_broken hx hnone
  obtain ⟨fs, hfs⟩ := hreact _ _ hf.panicked
  exact ⟨f, _, .round hlife hx hnone hf hbefore hfs⟩

theorem blameless_pass : (pass host c d e).Blameless where
  life := closed_obeys.pass (fun _ => life_visit hlife) life_disconnectOn
  unwinds w hnone := unwinds_of_makes hlife hreact rfl (.pass host c d e w) hnone

theorem blameless_enumerate {devices : List Device} : (enumerate host c id devices).Blameless where
  life := closed_obeys.enumerate fun _ _ => life_visit hlife
  unwinds w hnone := unwinds_of_makes hlife hreact rfl (.enumerate host c id devices w) hnone

theorem blameless_notify : (notify host c d e).Blameless :=
  closed_blameless.notify (.of_returns (life_note rfl) (returns_note _))
    (fun _ => .of_returns (life_note rfl) (returns_note _)) (blameless_pass hlife hreact)

/-- **No operation panics by itself.** -/
theorem blameless_of_calm (hx : Repertoire.Calm host α x) : x.Blameless := by
  have hc := closed_blameless (κ := κ) (τ := τ)
  have hpass : ∀ {c d e}, (notify host c d e).Blameless := blameless_notify hlife hreact
  have hdetach : ∀ {c i}, (detach c i : Act κ τ _).Blameless :=
    .of_returns life_detach returns_detach
  have hmark : ∀ {c id}, (markPending c id : Act κ τ _).Blameless :=
    .of_returns life_markPending returns_markPending
  cases hx with
  | register =>
    exact hc.register (fun _ _ => .of_returns life_insert returns_insert)
      (fun _ _ _ => .of_returns (life_note rfl) (returns_note _))
      fun _ _ => blameless_enumerate hlife hreact
  | deregister => exact hc.deregister hmark
  | teardown => exact .of_returns life_teardown returns_teardown
  | notify => exact hpass
  | insert => exact .of_returns life_insert returns_insert
  | decide => exact .of_returns life_decide returns_decide
  | commit => exact .of_returns life_commit returns_commit
  | markPending => exact hmark
  | attach => exact .of_returns life_attach returns_attach
  | detach => exact hdetach
  | openHandle => exact .of_returns life_openHandle returns_openHandle
  | closeHandle => exact .of_returns life_closeHandle returns_closeHandle
  | plug =>
    exact hc.plug (fun _ => .of_returns (parts_life.buses _) (returns_modify _))
      (fun _ _ => .of_returns life_attach returns_attach)
      (fun _ => .of_returns (life_note rfl) (returns_note _)) fun _ _ => hpass
  | unplug =>
    exact hc.unplug (fun _ => hdetach)
      (fun _ => .of_returns (life_note rfl) (returns_note _)) fun _ _ => hpass
  | openDevice => exact hc.openDevice fun _ _ => .of_returns life_openHandle returns_openHandle
  | closeDevice => exact hc.closeDevice fun _ => .of_returns life_closeHandle returns_closeHandle
  | transferFailed => exact hc.transferFailed (fun _ => hdetach) fun _ => hpass

end Blameless

/-- **Every panic is found**, at whatever depth, with all invocations that it
unwinds. -/
theorem Within.unwinds (hx : x.Within Repertoire.Any) (hnone : (x.run w).result = none) :
    ∃ fs, x.Unwinds w fs := by
  induction hx generalizing w with
  | op host hhost hR ih =>
    cases hR with
    | calm hcalm =>
      have hlife : ∀ inv, (host.react inv).Obeys Life := fun inv => (hhost inv).life
      obtain ⟨f, fs, hfs⟩ :=
        (blameless_of_calm hlife (fun inv _ h => ih inv h) hcalm).unwinds w hnone
      exact ⟨f :: fs, hfs⟩
    | panic => exact ⟨[], .panic w⟩
  | pure => cases hnone
  | get => cases hnone
  | remember => cases hnone
  | @bind _ _ x k hx _ ihx ihk =>
    rcases ha : (x.run w).result with _ | a
    · obtain ⟨fs, hfs⟩ := ihx ha
      exact ⟨fs, .first hfs⟩
    · rw [run_bind_of_result ha] at hnone
      obtain ⟨fs, hfs⟩ := ihk a hnone
      exact ⟨_, .next hx.life ha hfs⟩
  | @recover _ x y hx _ _ ihy =>
    rcases ha : (x.run w).result with _ | a
    · rw [run_recover, Effect.orElse, ha] at hnone
      obtain ⟨fs, hfs⟩ := ihy hnone
      exact ⟨_, .handled hx.life ha hfs⟩
    · rw [run_recover, Effect.orElse, ha] at hnone
      cases ha.symm.trans hnone

/-- An operation panics only under invocations of callbacks. -/
theorem Within.unwinds_of_calm (hhost : host.Within Repertoire.Any)
    (hx : Repertoire.Calm host α x) (hnone : (x.run w).result = none) :
    ∃ f fs, x.Unwinds w (f :: fs) := by
  have hlife : ∀ inv, (host.react inv).Obeys Life := fun inv => (hhost inv).life
  exact (blameless_of_calm hlife (fun inv _ h => (hhost inv).unwinds h) hx).unwinds w hnone

end Act

/-! ## What a panic leaves of an invocation -/

namespace Unfinished

/-- **What is left of an invocation** that a panic unwound, given all that was noted and
the world that the panic left. -/
structure Left (f : Unfinished κ τ) (ns : List Notice) (w' : World κ τ) : Prop where
  /-- The run of its callback was the last thing that happened. So nothing was
  committed, and its round made no further visit. -/
  uncommitted : w' = f.run.world ∧ ns = f.before ++ f.noted ++ f.run.notices
  /-- The record was active and heard of the event. What the callback did in its run
  is all that has happened to it since. -/
  own : ∃ x, f.registry.get? f.callback = some x ∧ x.status = .active ∧
    x.hears f.device f.round.event = true ∧ x.program = f.program ∧
    (w'.registry f.round.context).get? f.callback = x.after f.run.notices
  /-- The round itself does nothing to a record that it does not visit. From any of
  its visits on, only what callbacks did has happened to such a record. -/
  unvisited : ∀ earlier later, f.made = earlier ++ later → ∀ c u x, u ∉ later.map Prod.snd →
    u ≠ f.callback →
    ((f.round.past earlier f.round.began).registry c).get? u = some x →
    (w'.registry c).get? u =
      x.after (f.round.reports later (f.round.past earlier f.round.began) ++ f.run.notices)

variable {f : Unfinished κ τ} {w w' : World κ τ} {ns : List Notice}

/-- **Of every record there is what the completed steps made of it.** -/
theorem Encloses.left (h : f.Encloses w ns w') (hw : w.Sound) : f.Left ns w' := by
  have hbegan : f.round.began.Sound := h.came.sound hw
  have hrun : Life f.start f.run.notices f.run.world := h.life _ f.start
  refine ⟨⟨h.world, h.notices⟩, ?own, ?unvisited⟩
  case own =>
    obtain ⟨x, hx, hs, hh, hprogram⟩ := Registry.of_decide_eq_invoke h.broken.decided
    have hpending : f.registry.status? f.callback ≠ some .pending := by
      rw [Registry.status?_eq_some hx hs]
      nofun
    have hstart : (f.start.registry f.round.context).get? f.callback = some x := by
      rw [start, World.registry_setRegistry, if_pos rfl, Registry.get?_decide hpending]
      exact hx
    have hsound : f.start.Sound := (h.broken.life_noted h.life).sound hbegan
    refine ⟨x, hx, hs, hh, hprogram, ?_⟩
    rw [h.world]
    exact hrun.get?_eq_after hsound hstart
  case unvisited =>
    intro earlier later hmade c u x hlater hcallback hx
    obtain rfl : x.id = u := by simpa using List.find?_some hx
    have hfound : f.found = f.round.past later (f.round.past earlier f.round.began) := by
      rw [found, hmade, Round.past_append]
    have hvisits : Life (f.round.past earlier f.round.began)
        (f.round.noted later (f.round.past earlier f.round.began)) f.found := by
      rw [hfound]
      exact Round.life_past h.life
    have hsound : (f.round.past earlier f.round.began).Sound :=
      (Round.life_past h.life).sound hbegan
    have hpath := hvisits.trans (h.broken.life_start.trans hrun)
    rw [h.world, hpath.get?_eq_after hsound hx]
    -- neither the visits nor the decision to run the callback tell of the record
    have hne : ∀ s ∈ later, s.2 ≠ x.id := by
      rintro s hs heq
      exact hlater (List.mem_map.2 ⟨s, hs, heq⟩)
    refine Record.after_congr ?_ ?_
    · rw [List.any_append, List.any_append, Round.any_noted]
      · simp [Notice.removes, Ne.symm hcallback]
      · exact fun _ _ _ _ => rfl
      · exact fun s hs v => by simp [Notice.removes, hne s hs]
      · exact fun s hs wish b => by simp [Notice.removes, hne s hs]
    · rw [List.any_append, List.any_append, Round.any_noted]
      · simp [Notice.retires, Notice.removes, Ne.symm hcallback]
      · exact fun _ _ _ _ => rfl
      · exact fun s hs v => by simp [Notice.retires, Notice.removes, hne s hs]
      · exact fun s hs wish b => by simp [Notice.retires, Notice.removes, hne s hs]

end Unfinished
end DeviceWatch
