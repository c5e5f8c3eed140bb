import DeviceWatch.Proofs.Order
/-!
# Registrations that are refused

A registration may fail for four reasons, and `Refuses` says when each of them
applies, in words that do not follow the checks: a request has at most one, as a
later reason applies only where no earlier one does. A registration fails exactly
for a reason that applies, and then it has done nothing. So the callback that was
to be registered is in no registry, and whatever a pass finds to run at any later
moment was registered before or has been registered since.
-/

namespace DeviceWatch

variable {κ τ α : Type}

/-! ## Numbers that fit -/

namespace Selector

/-- A number leaves its field open, or is one of its values, which are below a bound. -/
def Fits (bound : Nat) (n : Int32) : Prop :=
  n.toInt = -1 ∨ 0 ≤ n.toInt ∧ n.toInt < bound

/-- Vendor and product are numbers of 16 bits, the class is one of 8. -/
structure Fit (s : Selector) : Prop where
  vendor : Fits 0x10000 s.vendor
  product : Fits 0x10000 s.product
  deviceClass : Fits 0x100 s.deviceClass

/-- The first of the numbers that does not fit. -/
inductive Misfits (s : Selector) : Misfit → Prop
  | vendor : ¬ Fits 0x10000 s.vendor → Misfits s ⟨.vendor, s.vendor⟩
  | product : Fits 0x10000 s.vendor → ¬ Fits 0x10000 s.product →
      Misfits s ⟨.product, s.product⟩
  | deviceClass : Fits 0x10000 s.vendor → Fits 0x10000 s.product →
      ¬ Fits 0x100 s.deviceClass → Misfits s ⟨.deviceClass, s.deviceClass⟩

variable {s : Selector} {m : Misfit} {bound : Nat} {n : Int32}

theorem eq_wildcard_iff : n = wildcard ↔ n.toInt = -1 := by
  rw [← Int32.toInt_inj]
  rfl

theorem checkField_of_fits (field : Field) (h : Fits bound n) :
    ∃ value, checkField field bound n = .ok value := by
  rw [checkField]
  split
  · exact ⟨_, rfl⟩
  next hn =>
    rw [if_pos (h.resolve_left fun heq => hn (eq_wildcard_iff.2 heq))]
    exact ⟨_, rfl⟩

theorem checkField_of_not_fits (field : Field) (h : ¬ Fits bound n) :
    checkField field bound n = .error ⟨field, n⟩ := by
  rw [checkField, if_neg fun heq => h (Or.inl (eq_wildcard_iff.1 heq)),
    if_neg fun hin => h (Or.inr hin)]

theorem check_of_misfits (h : s.Misfits m) : s.check = .error m := by
  cases h with
  | vendor hv =>
    rw [check, UInt16.size, checkField_of_not_fits .vendor hv]
    rfl
  | product hv hp =>
    obtain ⟨v, hv⟩ := checkField_of_fits .vendor hv
    rw [check, UInt16.size, hv, checkField_of_not_fits .product hp]
    rfl
  | deviceClass hv hp hc =>
    obtain ⟨v, hv⟩ := checkField_of_fits .vendor hv
    obtain ⟨p, hp⟩ := checkField_of_fits .product hp
    rw [check, UInt16.size, UInt8.size, hv, hp, checkField_of_not_fits .deviceClass hc]
    rfl

theorem check_of_fit (h : s.Fit) : ∃ filter, s.check = .ok filter := by
  obtain ⟨v, hv⟩ := checkField_of_fits .vendor h.vendor
  obtain ⟨p, hp⟩ := checkField_of_fits .product h.product
  obtain ⟨c, hc⟩ := checkField_of_fits .deviceClass h.deviceClass
  rw [check, UInt16.size, UInt8.size, hv, hp, hc]
  exact ⟨_, rfl⟩

/-- All numbers fit, or one of them is the first that does not. -/
theorem fit_or_misfits (s : Selector) : s.Fit ∨ ∃ m, s.Misfits m := by
  by_cases hv : Fits 0x10000 s.vendor
  · by_cases hp : Fits 0x10000 s.product
    · by_cases hc : Fits 0x100 s.deviceClass
      · exact Or.inl ⟨hv, hp, hc⟩
      · exact Or.inr ⟨_, .deviceClass hv hp hc⟩
    · exact Or.inr ⟨_, .product hv hp⟩
  · exact Or.inr ⟨_, .vendor hv⟩

end Selector

/-! ## Reasons -/

/-- Registrations are offered: they are not switched off, and the platform tells of
devices that come and go. -/
def World.Offers (w : World κ τ) (c : ContextId) : Prop :=
  (w.context c).settings.hotplugEnabled = true ∧ (w.platform c).hasHotplug = true

/-- **Why a registration with a context is refused.** -/
inductive Refuses (w : World κ τ) (c : ContextId) (r : Request κ) : RegisterError → Prop
  | unsupported : ¬ w.Offers c → Refuses w c r .unsupported
  | misfit {m : Selector.Misfit} : w.Offers c → r.selector.Misfits m → Refuses w c r (.misfit m)
  | missingCallback : w.Offers c → r.selector.Fit → r.program = none →
      Refuses w c r .missingCallback
  /-- As many records as there may be are live, whether or not some of them are only
  waiting to be removed. -/
  | full {most : UInt64} : w.Offers c → r.selector.Fit → r.program ≠ none →
      (w.context c).settings.maxCallbacks = some most →
      most.toNat ≤ (w.registry c).records.length → Refuses w c r .full

namespace World

variable {w : World κ τ} {c : ContextId}

theorem offers_iff : w.Offers c ↔ (w.context c).hasHotplug = true := by
  rw [Offers, Context.hasHotplug, Bool.and_eq_true]
  rfl

/-- A registry is full by the settings of its context. -/
theorem InOrder.isFull_iff (hw : w.InOrder) : (w.registry c).isFull = true ↔
    ∃ most, (w.context c).settings.maxCallbacks = some most ∧
      most.toNat ≤ (w.registry c).records.length := by
  have hlimit := hw.limit c
  rcases hmost : (w.context c).settings.maxCallbacks with _ | most
  · rw [hmost] at hlimit
    simp [Registry.isFull, hlimit]
  · rw [hmost] at hlimit
    rw [Registry.isFull, hlimit]
    refine decide_eq_true_iff.trans ⟨fun hroom => ⟨most, rfl, hroom⟩, ?_⟩
    rintro ⟨_, ⟨⟩, hroom⟩
    exact hroom

end World

namespace Act

variable {host : Host κ τ} {w : World κ τ} {c : ContextId} {request : Request κ}
variable {error : RegisterError}

/-- A registration that is refused does nothing. -/
theorem run_register_of_refuses (hw : w.InOrder) (h : Refuses w c request error) :
    (register host c request).run w = { result := some (.error error), world := w } := by
  rw [register, run_bind, run_context, Effect.andThen_some]
  cases h with
  | unsupported hoff =>
    rw [if_pos]
    · rfl
    · simpa [World.offers_iff] using hoff
  | @misfit m hon hm =>
    have hcheck : request.check = .error (.misfit m) := by
      rw [Request.check, Selector.check_of_misfits hm]
    simp only [World.offers_iff.1 hon, Bool.not_true, Bool.false_eq_true, if_false, hcheck]
    rfl
  | missingCallback hon hfit hnone =>
    obtain ⟨f, hf⟩ := Selector.check_of_fit hfit
    have hcheck : request.check = .error .missingCallback := by
      rw [Request.check, hf, hnone]
    simp only [World.offers_iff.1 hon, Bool.not_true, Bool.false_eq_true, if_false, hcheck]
    rfl
  | full hon hfit hsome hmost hroom =>
    obtain ⟨f, hf⟩ := Selector.check_of_fit hfit
    obtain ⟨program, hprogram⟩ := Option.ne_none_iff_exists'.1 hsome
    have hcheck : request.check = .ok (f, program) := by
      rw [Request.check, hf, hprogram]
    have hfull : (w.registry c).isFull = true := hw.isFull_iff.2 ⟨_, hmost, hroom⟩
    simp only [World.offers_iff.1 hon, Bool.not_true, Bool.false_eq_true, if_false, hcheck,
      run_bind, run_insert, hfull]
    rfl

/-- Where there is no reason to refuse it, a registration passes all checks. -/
theorem passes_of_not_refuses (hw : w.InOrder) (h : ∀ error, ¬ Refuses w c request error) :
    ∃ f program, (w.context c).hasHotplug = true ∧ request.check = .ok (f, program) ∧
      (w.registry c).isFull = false := by
  have hon : w.Offers c := by
    by_contra hoff
    exact h _ (.unsupported hoff)
  rcases Selector.fit_or_misfits request.selector with hfit | ⟨m, hm⟩
  · obtain ⟨f, hf⟩ := Selector.check_of_fit hfit
    rcases hprogram : request.program with _ | program
    · exact absurd (.missingCallback hon hfit hprogram) (h _)
    refine ⟨f, program, World.offers_iff.1 hon, ?_, Bool.eq_false_iff.2 fun hfull => ?_⟩
    · rw [Request.check, hf, hprogram]
    · obtain ⟨most, hmost, hroom⟩ := hw.isFull_iff.1 hfull
      refine h _ (.full hon hfit ?_ hmost hroom)
      rw [hprogram]
      exact nofun
  · exact absurd (.misfit hon hm) (h _)

/-- A registration that passes all checks is not refused, also if a callback panics on
what is delivered to it. -/
theorem result_register_of_check {f : Filter} {program : κ}
    (hhot : (w.context c).hasHotplug = true) (hcheck : request.check = .ok (f, program))
    (hroom : (w.registry c).isFull = false) :
    ∀ error, ((register host c request).run w).result ≠ some (.error error) := by
  intro error
  rw [register, run_bind, run_context, Effect.andThen_some]
  simp only [hhot, Bool.not_true, Bool.false_eq_true, if_false, hcheck, run_bind, run_insert, hroom,
    run_context, run_note, Effect.andThen_some]
  rcases (enumerate host c ⟨w.nextCallback⟩ _).run _ with ⟨_ | vs, w', ns⟩
  · intro heq
    cases heq
  · intro heq
    cases heq

end Act

/-! ## Where callbacks come from -/

/-- Whatever is registered was registered before, to run the same, or was inserted since. -/
def Originates : Law κ τ :=
  fun w ns w' => ∀ c id x, (w'.registry c).get? id = some x →
    (∃ y, (w.registry c).get? id = some y ∧ y.program = x.program) ∨ .inserted c id ∈ ns

instance : Law.Composes (Originates (κ := κ) (τ := τ)) where
  refl _ _ _ x hx := Or.inl ⟨x, hx, rfl⟩
  trans h₁ h₂ c id x hx := by
    rcases h₂ c id x hx with ⟨y, hy, hyx⟩ | hins
    · rcases h₁ c id y hy with ⟨z, hz, hzy⟩ | hins
      · exact Or.inl ⟨z, hz, hzy.trans hyx⟩
      · exact Or.inr (List.mem_append_left _ hins)
    · exact Or.inr (List.mem_append_right _ hins)

/-- A record that only ages goes on running the same. -/
theorem Originates.of_ages {w w' : World κ τ} {ns : List Notice}
    (h : ∀ c, (w.registry c).Ages (w'.registry c)) : Originates w ns w' := by
  intro c id x hx
  obtain ⟨y, hy, -, -, -, -, hprogram, -⟩ := ((h c).aged id).of_some hx
  exact Or.inl ⟨y, hy, hprogram⟩

namespace Act

variable {x : Act κ τ α} {w v : World κ τ} {ns : List Notice}

theorem originates_single {host : Host κ τ} (h : Repertoire.Single host α x) :
    x.Obeys Originates := by
  intro w
  cases h with
  | insert c events filter program =>
    refine obeys_insert (fun w _ c' id y hy => ?_) w
    rw [World.registry_setRegistry] at hy
    split at hy
    next hc =>
      subst hc
      rw [Registry.get?_insert, Option.or_eq_some_iff] at hy
      rcases hy with hy | ⟨-, hy⟩
      · exact Or.inl ⟨y, hy, rfl⟩
      · split at hy
        next hid => exact Or.inr (List.mem_singleton.2 (hid ▸ rfl))
        next => cases hy
    next => exact Or.inl ⟨y, hy, rfl⟩
  | decide c id d e =>
    rw [run_decide]
    exact .of_ages (LifeStep.ages_set Registry.ages_decide)
  | commit c id wish =>
    rw [run_commit]
    exact .of_ages (LifeStep.ages_set Registry.ages_commit)
  | markPending c id =>
    rw [run_markPending]
    exact .of_ages (LifeStep.ages_set Registry.ages_markPending)
  | teardown c =>
    rw [run_teardown]
    exact .of_ages (LifeStep.ages_set Registry.ages_clear)
  | create platform settings =>
    intro c id y hy
    have hcontext : ((w.addContext platform settings).1.context c) =
        if c.val = w.nextContext then .create platform settings else w.context c :=
      Store.get_set _ _ _ _
    have hreg : ((w.addContext platform settings).1.registry c).get? id = some y := hy
    rw [World.registry, hcontext] at hreg
    split at hreg
    · cases hreg
    · exact Or.inl ⟨y, hreg, rfl⟩
  | neutral hx =>
    refine .of_ages fun c => ?_
    rw [(hx w).registry]
    exact .refl _
  | panic => exact Law.Composes.refl w

theorem Within.originates (hx : x.Within Repertoire.Single) : x.Obeys Originates := by
  refine hx.obeys (fun w f => ?_) fun _ _ hsingle => originates_single hsingle
  exact .of_ages fun _ => .refl _

end Act

/-! ## The account of a registration -/

/-- **When a registration is refused, and what comes of it**, in a world. -/
structure Refusal (host : Host κ τ) (c : ContextId) (request : Request κ)
    (w : World κ τ) : Prop where
  /-- It fails exactly for a reason that applies. -/
  refused (error : RegisterError) :
    ((Act.register host c request).run w).result = some (.error error) ↔
      Refuses w c request error
  /-- If there is none, it succeeds, under the next number, unless a callback panics on
  what is delivered to it. -/
  accepted : (∀ error, ¬ Refuses w c request error) → (∀ inv, (host.react inv).Returns) →
    ((Act.register host c request).run w).result = some (.ok ⟨w.nextCallback⟩)
  /-- A registration that is refused leaves the whole world as it was, and nothing
  happens under it: no device is delivered. -/
  unchanged (error : RegisterError) : Refuses w c request error →
    (Act.register host c request).run w = { result := some (.error error), world := w }
  /-- Whatever is run at any moment of any later run is the callback of a record that was
  there before the refusal, or of one inserted since. -/
  unheard (error : RegisterError) : Refuses w c request error →
    ∀ (β : Type) (y : Act κ τ β) (ms : List Notice) (u : World κ τ),
      y.Within Repertoire.Open →
      y.Comes Repertoire.Single ((Act.register host c request).run w).world ms u →
      ∀ c' id d e program, ((u.registry c').decide id d e).1 = .invoke program →
        (∃ z, (w.registry c').get? id = some z ∧ z.program = program) ∨ .inserted c' id ∈ ms

namespace Act

variable {x : Act κ τ α} {w v : World κ τ} {ns : List Notice}

/-- What a decision has run is the callback of the record. -/
theorem get?_of_invoke {r : Registry κ} {id : CallbackId} {d : Device} {e : Event} {program : κ}
    (h : (r.decide id d e).1 = .invoke program) :
    ∃ z, r.get? id = some z ∧ z.program = program := by
  have hinvoke : (r.decide id d e).1.decision = .invoke := by
    rw [h]
    rfl
  obtain ⟨z, hz, hactive, hhears⟩ := Registry.decide_eq_invoke_iff.1 hinvoke
  rw [Registry.decide_of_active hz hactive, if_pos hhears] at h
  exact ⟨z, hz, Verdict.invoke.inj h⟩

/-- **A registration fails exactly when there is a reason, and then changes nothing**, at
every moment of a run: whatever is under way, from within callbacks too. -/
theorem Within.refusal (hx : x.Within Repertoire.Open) (hw : w.InOrder)
    (hv : x.Comes Repertoire.Single w ns v) (host : Host κ τ) (c : ContextId)
    (request : Request κ) : Refusal host c request v := by
  obtain ⟨horder, -⟩ := hx.in_order hw hv
  refine ⟨fun error => ⟨fun hfails => ?_, fun h => ?_⟩, fun hnone hret => ?accepted,
    fun error h => run_register_of_refuses horder h, ?unheard⟩
  · -- Another reason cannot apply, and without a reason it does not fail.
    by_cases hnone : ∀ error, ¬ Refuses v c request error
    · obtain ⟨f, program, hhot, hcheck, hroom⟩ := passes_of_not_refuses horder hnone
      exact absurd hfails (result_register_of_check hhot hcheck hroom error)
    · obtain ⟨other, hother⟩ := not_forall_not.1 hnone
      rw [run_register_of_refuses horder hother] at hfails
      cases hfails
      exact hother
  · rw [run_register_of_refuses horder h]
  case accepted =>
    obtain ⟨f, program, hhot, hcheck, hroom⟩ := passes_of_not_refuses horder hnone
    rw [run_register_of_check hret hhot hcheck hroom]
  case unheard =>
    intro error h β y ms u hy hu c' id d e program hinvoke
    rw [run_register_of_refuses horder h] at hu
    obtain ⟨z, hz, rfl⟩ := get?_of_invoke hinvoke
    exact hu.obeys (fun hwithin => hwithin.originates) hy.single c' id z hz

/-- Callbacks that register another one with their own context. -/
def greedy : Host Unit Unit where
  react inv := do
    let _ ← register Host.idle inv.context { events := .all, program := some () }
    return .rearm
  order _ ids := ids
  order_perm _ _ := .refl _

/-- A context with room for one callback is made, and its callback hears of a departure. -/
def crowd : Act Unit Unit Tally := do
  let _ ← create (.simulated true []) { maxCallbacks := some 1 }
  let _ ← register greedy ⟨1⟩ { events := .all, program := some () }
  notify greedy ⟨1⟩ default .left

theorem greedy_within : greedy.Within Repertoire.Open := fun _ =>
  .bind (.op .idle Host.idle_within (.any (.calm (.register _ _)))) fun _ => .pure _

theorem crowd_within : crowd.Within Repertoire.Open := by
  refine .bind (.op .idle Host.idle_within (.create _ _)) fun _ => ?_
  refine .bind (.op _ greedy_within (.any (.calm (.register _ _)))) fun _ => ?_
  exact .op _ greedy_within (.any (.calm (.notify _ _ _)))

/-- When the callback of a pass is about to register another one there is no room for it,
and with a number that does not fit the registration fails for that. -/
theorem refusal_of_crowd :
    ∃ ns v, crowd.Comes Repertoire.Single { memory := () } ns v ∧
      .delivered ⟨1⟩ ⟨1⟩ default .left ∈ ns ∧
      Refusal Host.idle ⟨1⟩ { events := .all, program := some () } v ∧
      Refuses v ⟨1⟩ { events := .all, program := some () } .full ∧
      Refusal Host.idle ⟨1⟩ { events := .all, selector := ⟨-1, 0x10000, 0x100⟩ } v ∧
      Refuses v ⟨1⟩ { events := .all, selector := ⟨-1, 0x10000, 0x100⟩ }
        (.misfit ⟨.product, 0x10000⟩) := by
  have hgreedy : greedy.Within Repertoire.Single := fun inv => (greedy_within inv).single
  have hcreate : (create (.simulated true []) { maxCallbacks := some 1 } :
      Act Unit Unit _).Within Repertoire.Single :=
    .op .idle Host.idle_within (.create _ _)
  have hbegin : (register greedy ⟨1⟩ { events := .all, program := some () }).Within
      Repertoire.Single := parts_single.calm hgreedy (.register _ _)
  have hpass : (notify greedy ⟨1⟩ default .left).Within Repertoire.Single :=
    parts_single.calm hgreedy (.notify _ _ _)
  have hcall : ∀ w : World Unit Unit,
      (greedy.react ⟨⟨1⟩, ⟨1⟩, (), default, .left⟩).Comes Repertoire.Single w [] w :=
    fun w => .start _ w
  have hcomes : crowd.Comes Repertoire.Single { memory := () }
      [.inserted ⟨1⟩ ⟨1⟩, .registered ⟨1⟩ ⟨1⟩ .any .all .none [],
        .passBegan ⟨1⟩ default .left, .decided ⟨1⟩ ⟨1⟩ .invoke,
        .delivered ⟨1⟩ ⟨1⟩ default .left] _ :=
    .next hcreate (.bind hbegin fun _ => hpass) rfl
      (.next hbegin hpass rfl
        (.notify hgreedy (.visitAll_cons hgreedy (.visit hgreedy rfl (hcall _)))))
  refine ⟨_, _, hcomes, by simp, crowd_within.refusal (World.inOrder_bare ()) hcomes _ _ _, ?_,
    crowd_within.refusal (World.inOrder_bare ()) hcomes _ _ _, ?_⟩
  · have hfit : Selector.any.Fit := ⟨Or.inl rfl, Or.inl rfl, Or.inl rfl⟩
    exact .full ⟨rfl, rfl⟩ hfit nofun rfl (by decide)
  · refine .misfit ⟨rfl, rfl⟩ (.product (Or.inl rfl) ?_)
    unfold Selector.Fits
    decide

end Act
end DeviceWatch
