import DeviceWatch.Proofs.Identity
import DeviceWatch.Proofs.Repertoire
/-!
# Registrations as a whole

A registration that fails leaves the world as it was. One that succeeds makes a
record under the next number, announces it, and delivers to it what is there.
-/

namespace DeviceWatch

variable {κ τ : Type}

namespace World

/-- The world with a record made under the next number. -/
def enrol (w : World κ τ) (c : ContextId) (f : Filter) (m : EventSet) (program : κ) : World κ τ :=
  { w with nextCallback := w.nextCallback + 1 }.setRegistry c
    ((w.registry c).insert ⟨⟨w.nextCallback⟩, c, m, f, program, .active⟩)

/-- The devices that are delivered to a new record. -/
def existing (w : World κ τ) (c : ContextId) (flags : Flags) : List Device :=
  if flags.enumerate then (w.roster c).toList else []

variable {w : World κ τ} {c c' : ContextId} {f : Filter} {m : EventSet} {program : κ}
variable {id : CallbackId}

@[simp] theorem roster_enrol : (w.enrol c f m program).roster c' = w.roster c' :=
  roster_setRegistry

/-- The new record is found, and so are all others. -/
theorem get?_enrol (hw : w.Sound) :
    ((w.enrol c f m program).registry c').get? id =
      if c' = c ∧ id = ⟨w.nextCallback⟩ then
        some ⟨⟨w.nextCallback⟩, c, m, f, program, .active⟩
      else (w.registry c').get? id := by
  rw [enrol, registry_setRegistry]
  by_cases hc : c' = c
  · subst hc
    rw [if_pos rfl, Registry.get?_insert]
    by_cases hid : id = ⟨w.nextCallback⟩
    · have hnone : (w.registry c').get? id = none :=
        Registry.get?_eq_none_iff.2 fun hlive => by
          have hlt := hw.below hlive
          rw [hid] at hlt
          exact Nat.lt_irrefl _ hlt
      rw [hnone, if_pos hid.symm, if_pos ⟨rfl, hid⟩]
      rfl
    · rw [if_neg (Ne.symm hid), if_neg fun h => hid h.2, Option.or_none]
  · rw [if_neg hc, if_neg fun h => hc h.1]
    rfl

end World

namespace Act

variable {host : Host κ τ} {w : World κ τ} {c : ContextId} {id : CallbackId}

/-- A record is made where there is room. -/
theorem life_enrol {f : Filter} {m : EventSet} {program : κ} (h : (w.registry c).isFull = false) :
    Life w [.inserted c ⟨w.nextCallback⟩] (w.enrol c f m program) := by
  have hinsert : Life w _ ((insert c m f program).run w).world := life_insert w
  rwa [run_insert, if_neg (Bool.eq_false_iff.1 h)] at hinsert

/-- A registration that passes all checks makes a record and delivers to it what is
there. -/
theorem run_register_of_check {request : Request κ} {f : Filter} {program : κ}
    (hret : ∀ inv, (host.react inv).Returns) (hhot : (w.context c).hasHotplug = true)
    (hcheck : request.check = .ok (f, program)) (hroom : (w.registry c).isFull = false) :
    (register host c request).run w =
      { result := some (.ok ⟨w.nextCallback⟩)
        world := ((enumerate host c ⟨w.nextCallback⟩ (w.existing c request.flags)).run
          (w.enrol c f request.events program)).world
        notices := .inserted c ⟨w.nextCallback⟩ ::
          .registered c ⟨w.nextCallback⟩ f request.events request.flags
            (w.existing c request.flags) ::
          ((enumerate host c ⟨w.nextCallback⟩ (w.existing c request.flags)).run
            (w.enrol c f request.events program)).notices } := by
  rw [register, run_bind, run_context, Effect.andThen_some, hhot]
  simp only [Bool.not_true, Bool.false_eq_true, if_false, hcheck, run_bind, run_insert, hroom]
  -- The devices are read after the record was made, but the record changes none.
  have hroster : ((w.enrol c f request.events program).context c).roster = w.roster c :=
    World.roster_enrol
  have hreturns : (enumerate host c ⟨w.nextCallback⟩ (w.existing c request.flags)).Returns :=
    closed_returns.enumerate fun _ _ => returns_visit hret
  obtain ⟨vs, hvs⟩ := hreturns (w.enrol c f request.events program)
  simp only [World.enrol, World.existing] at hroster hvs ⊢
  simp only [run_bind, run_context, run_note, hroster, Effect.andThen, hvs, run_pure,
    List.append_nil, List.nil_append, List.cons_append]

/-- A registration fails and leaves the world as it was, or makes a record and
delivers to it what is there. -/
theorem run_register (request : Request κ) (hret : ∀ inv, (host.react inv).Returns) :
    (∃ error, (register host c request).run w = { result := some (.error error), world := w }) ∨
    ∃ f program,
      (w.registry c).isFull = false ∧
      (register host c request).run w =
        { result := some (.ok ⟨w.nextCallback⟩)
          world := ((enumerate host c ⟨w.nextCallback⟩ (w.existing c request.flags)).run
            (w.enrol c f request.events program)).world
          notices := .inserted c ⟨w.nextCallback⟩ ::
            .registered c ⟨w.nextCallback⟩ f request.events request.flags
              (w.existing c request.flags) ::
            ((enumerate host c ⟨w.nextCallback⟩ (w.existing c request.flags)).run
              (w.enrol c f request.events program)).notices } := by
  rcases hhot : (w.context c).hasHotplug with _ | _
  · rw [register, run_bind, run_context, Effect.andThen_some, hhot]
    exact .inl ⟨_, rfl⟩
  rcases hcheck : request.check with error | ⟨f, program⟩
  · rw [register, run_bind, run_context, Effect.andThen_some, hhot]
    simp only [Bool.not_true, Bool.false_eq_true, if_false, hcheck]
    exact .inl ⟨_, rfl⟩
  rcases hroom : (w.registry c).isFull with _ | _
  · exact .inr ⟨f, program, rfl, run_register_of_check hret hhot hcheck hroom⟩
  · rw [register, run_bind, run_context, Effect.andThen_some, hhot]
    simp only [Bool.not_true, Bool.false_eq_true, if_false, hcheck, run_bind, run_insert, hroom]
    exact .inl ⟨_, rfl⟩

end Act
end DeviceWatch
