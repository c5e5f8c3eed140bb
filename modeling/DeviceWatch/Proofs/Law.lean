import DeviceWatch.Act
/-!
# Laws of acts

A law relates the world before an act, what happened, and the world after.
An act obeys a law if its effect does from every world, whether or not a
callback panics under it. Laws that compose carry over from the parts of an
act to the whole, so a law of every run is proved once for each primitive
act and never again for the acts that are built from them.
-/

namespace DeviceWatch

variable {κ τ α β : Type}

/-- A relation of the world before an act, what happened, and the world after. -/
abbrev Law (κ τ : Type) : Type :=
  World κ τ → List Notice → World κ τ → Prop

/-- A law that holds of doing nothing, and of one thing after another if it
holds of both. -/
class Law.Composes (L : Law κ τ) : Prop where
  /-- Nothing happened. -/
  refl (w : World κ τ) : L w [] w
  /-- One thing happened after another. -/
  trans {w₁ w₂ w₃ : World κ τ} {ns ms : List Notice} :
    L w₁ ns w₂ → L w₂ ms w₃ → L w₁ (ns ++ ms) w₃

namespace Act

/-- The act keeps to the law from every world. -/
def Obeys (x : Act κ τ α) (L : Law κ τ) : Prop :=
  ∀ w, L w (x.run w).notices (x.run w).world

/-- No callback panics under the act, from whatever world. -/
def Returns (x : Act κ τ α) : Prop :=
  ∀ w, ∃ a, (x.run w).result = some a

/-! ## Obeying a law -/

section Obeys

variable {L : Law κ τ} [L.Composes] {x y : Act κ τ α} {f : α → Act κ τ β}

theorem obeys_pure (a : α) : (pure a : Act κ τ α).Obeys L :=
  fun w => Law.Composes.refl w

theorem obeys_get : (get : Act κ τ (World κ τ)).Obeys L :=
  fun w => Law.Composes.refl w

theorem obeys_panic : (panic : Act κ τ α).Obeys L :=
  fun w => Law.Composes.refl w

omit [L.Composes] in
theorem obeys_note {n : Notice} (h : ∀ w, L w [n] w) : (note n : Act κ τ Unit).Obeys L :=
  fun w => h w

omit [L.Composes] in
theorem obeys_modify {g : World κ τ → World κ τ} (h : ∀ w, L w [] (g w)) :
    (modify g : Act κ τ Unit).Obeys L :=
  fun w => h w

/-- One act after another obeys what both obey. A panic of the first leaves
nothing for the second. -/
theorem Obeys.bind (hx : x.Obeys L) (hf : ∀ a, (f a).Obeys L) : (x >>= f).Obeys L := by
  intro w
  have hw := hx w
  rw [run_bind]
  rcases h : x.run w with ⟨_ | a, w', ns⟩
  · rw [h] at hw
    exact hw
  · rw [h] at hw
    exact Law.Composes.trans hw (hf a w')

theorem Obeys.recover (hx : x.Obeys L) (hy : y.Obeys L) : (x.recover y).Obeys L := by
  intro w
  have hw := hx w
  rw [run_recover]
  rcases h : x.run w with ⟨_ | a, w', ns⟩
  · rw [h] at hw
    exact Law.Composes.trans hw (hy w')
  · rw [h] at hw
    exact hw

theorem obeys_context (c : ContextId) : (context c : Act κ τ (Context κ)).Obeys L :=
  obeys_get.bind fun _ => obeys_pure _

end Obeys

/-- An act that obeys one law obeys another that asks for less. -/
theorem Obeys.mono {L M : Law κ τ} {x : Act κ τ α} (hx : x.Obeys L)
    (h : ∀ w ns w', L w ns w' → M w ns w') : x.Obeys M :=
  fun w => h _ _ _ (hx w)

/-! ## Returning -/

section Returns

variable {x y : Act κ τ α} {f : α → Act κ τ β}

theorem returns_pure (a : α) : (pure a : Act κ τ α).Returns :=
  fun _ => ⟨a, rfl⟩

theorem returns_get : (get : Act κ τ (World κ τ)).Returns :=
  fun w => ⟨w, rfl⟩

theorem returns_note (n : Notice) : (note n : Act κ τ Unit).Returns :=
  fun _ => ⟨(), rfl⟩

theorem returns_modify (g : World κ τ → World κ τ) : (modify g : Act κ τ Unit).Returns :=
  fun _ => ⟨(), rfl⟩

theorem Returns.bind (hx : x.Returns) (hf : ∀ a, (f a).Returns) : (x >>= f).Returns := by
  intro w
  obtain ⟨a, ha⟩ := hx w
  obtain ⟨b, hb⟩ := hf a (x.run w).world
  refine ⟨b, ?_⟩
  rw [run_bind, Effect.andThen, ha]
  exact hb

theorem Returns.recover (hx : x.Returns) : (x.recover y).Returns := by
  intro w
  obtain ⟨a, ha⟩ := hx w
  refine ⟨a, ?_⟩
  rw [run_recover, Effect.orElse, ha]
  exact ha

/-- An act that returns hands its result and its world on. -/
theorem run_bind_of_result {a : α} {w : World κ τ} (h : (x.run w).result = some a) :
    (x >>= f).run w =
      { (f a).run (x.run w).world with
        notices := (x.run w).notices ++ ((f a).run (x.run w).world).notices } := by
  rw [run_bind, Effect.andThen, h]

/-- Nothing comes after an act under which a callback panics. -/
theorem run_bind_of_panic {w : World κ τ} (h : (x.run w).result = none) :
    (x >>= f).run w =
      { result := none
        world := (x.run w).world
        notices := (x.run w).notices } := by
  rw [run_bind, Effect.andThen, h]

/-- If one act after another returns, both do. -/
theorem of_run_bind {b : β} {w : World κ τ} (h : ((x >>= f).run w).result = some b) :
    ∃ a, (x.run w).result = some a ∧ ((f a).run (x.run w).world).result = some b ∧
      ((x >>= f).run w).world = ((f a).run (x.run w).world).world := by
  rcases hx : (x.run w).result with _ | a
  · rw [run_bind, Effect.andThen, hx] at h
    cases h
  · rw [run_bind_of_result hx] at h ⊢
    exact ⟨a, rfl, h, rfl⟩

end Returns

/-- What an act answers has no part in the world and the notices it leaves. -/
theorem run_bind_pure {x : Act κ τ α} (f : α → β) (w : World κ τ) :
    (x >>= fun a => pure (f a)).run w =
      { result := (x.run w).result.map f
        world := (x.run w).world
        notices := (x.run w).notices } := by
  rw [run_bind]
  rcases x.run w with ⟨_ | a, w', ns⟩
  · rfl
  · rw [Effect.andThen_some, run_pure, List.append_nil]
    rfl

end Act
end DeviceWatch
