import DeviceWatch.Notice
import DeviceWatch.World
/-!
# Acts

An act starts from a world and leaves its effect: the world afterwards, the
notices of what happened, in order, and a result. The result is missing if a
callback panicked; what was done until then stays done. An act reads the
world, but no act reads the notices, so what it does never depends on them.

Acts form a monad: `run_bind` says that one act after another starts from the
world that the first one left, and adds its notices to those of the first.
-/

namespace DeviceWatch

/-- What an act leaves behind. -/
@[ext] structure Effect (κ τ α : Type) where
  /-- The result; missing if a callback panicked. -/
  result : Option α
  world : World κ τ
  notices : List Notice := []

namespace Effect

variable {κ τ α β : Type}

/-- The effect of going on with an act on the result, if there is one. -/
def andThen (e : Effect κ τ α) (f : α → World κ τ → Effect κ τ β) : Effect κ τ β :=
  match e.result with
  | none => { result := none, world := e.world, notices := e.notices }
  | some a =>
    let next := f a e.world
    { next with notices := e.notices ++ next.notices }

/-- The effect of going on with another act in place of a missing result. -/
def orElse (e : Effect κ τ α) (f : World κ τ → Effect κ τ α) : Effect κ τ α :=
  match e.result with
  | some _ => e
  | none =>
    let next := f e.world
    { next with notices := e.notices ++ next.notices }

@[simp] theorem andThen_some (a : α) (w : World κ τ) (ns : List Notice)
    (f : α → World κ τ → Effect κ τ β) :
    (Effect.mk (some a) w ns).andThen f =
      { f a w with notices := ns ++ (f a w).notices } :=
  rfl

@[simp] theorem andThen_none (w : World κ τ) (ns : List Notice)
    (f : α → World κ τ → Effect κ τ β) :
    (Effect.mk none w ns).andThen f = Effect.mk none w ns :=
  rfl

@[simp] theorem orElse_some (a : α) (w : World κ τ) (ns : List Notice)
    (f : World κ τ → Effect κ τ α) :
    (Effect.mk (some a) w ns).orElse f = Effect.mk (some a) w ns :=
  rfl

@[simp] theorem orElse_none (w : World κ τ) (ns : List Notice) (f : World κ τ → Effect κ τ α) :
    (Effect.mk none w ns).orElse f = { f w with notices := ns ++ (f w).notices } :=
  rfl

end Effect

/-- A change of the world that leaves notices and a result. -/
def Act (κ τ α : Type) : Type :=
  World κ τ → Effect κ τ α

namespace Act

variable {κ τ α β : Type}

/-- The effect of an act on a world. -/
def run (x : Act κ τ α) (w : World κ τ) : Effect κ τ α :=
  x w

instance : Monad (Act κ τ) where
  pure a := fun w => { result := some a, world := w }
  bind x f := fun w => (x.run w).andThen fun a => (f a).run

instance : MonadStateOf (World κ τ) (Act κ τ) where
  get := fun w => { result := some w, world := w }
  set w := fun _ => { result := some (), world := w }
  modifyGet f := fun w => { result := some (f w).1, world := (f w).2 }

/-- Ends in a panic. -/
def panic : Act κ τ α :=
  fun w => { result := none, world := w }

/-- Does an act and, if a callback panics under it, another one after it. -/
def recover (x handler : Act κ τ α) : Act κ τ α :=
  fun w => (x.run w).orElse handler.run

/-- Notes something. -/
def note (n : Notice) : Act κ τ Unit :=
  fun w => { result := some (), world := w, notices := [n] }

/-- Does an act and, also if a callback panics under it, another one after it. -/
def ensuring (x : Act κ τ α) (after : Act κ τ Unit) : Act κ τ α := do
  let a ← x.recover do
    after
    panic
  after
  return a

/-! ## Running an act -/

@[ext] theorem ext {x y : Act κ τ α} (h : ∀ w, x.run w = y.run w) : x = y :=
  funext h

@[simp] theorem run_pure (a : α) (w : World κ τ) :
    (pure a : Act κ τ α).run w = { result := some a, world := w } :=
  rfl

@[simp] theorem run_bind (x : Act κ τ α) (f : α → Act κ τ β) (w : World κ τ) :
    (x >>= f).run w = (x.run w).andThen fun a => (f a).run :=
  rfl

@[simp] theorem run_map (f : α → β) (x : Act κ τ α) (w : World κ τ) :
    (f <$> x).run w = (x.run w).andThen fun a w => { result := some (f a), world := w } :=
  rfl

@[simp] theorem run_get (w : World κ τ) :
    (get : Act κ τ (World κ τ)).run w = { result := some w, world := w } :=
  rfl

@[simp] theorem run_modify (f : World κ τ → World κ τ) (w : World κ τ) :
    (modify f : Act κ τ Unit).run w = { result := some (), world := f w } :=
  rfl

@[simp] theorem run_modifyGet (f : World κ τ → α × World κ τ) (w : World κ τ) :
    (modifyGet f : Act κ τ α).run w = { result := some (f w).1, world := (f w).2 } :=
  rfl

@[simp] theorem run_panic (w : World κ τ) :
    (panic : Act κ τ α).run w = { result := none, world := w } :=
  rfl

@[simp] theorem run_recover (x handler : Act κ τ α) (w : World κ τ) :
    (x.recover handler).run w = (x.run w).orElse handler.run :=
  rfl

@[simp] theorem run_note (n : Notice) (w : World κ τ) :
    (note n : Act κ τ Unit).run w = { result := some (), world := w, notices := [n] } :=
  rfl

theorem bind_pure_eq (x : Act κ τ α) : (x >>= fun a => pure a) = x := by
  ext w : 1
  rcases h : x.run w with ⟨_ | a, world, notices⟩ <;> simp [h]

theorem pure_bind_eq (a : α) (f : α → Act κ τ β) : (pure a >>= f) = f a := by
  ext w : 1
  simp

theorem bind_assoc_eq {γ : Type} (x : Act κ τ α) (f : α → Act κ τ β) (g : β → Act κ τ γ) :
    (x >>= f >>= g) = (x >>= fun a => f a >>= g) := by
  ext w : 1
  rcases h : x.run w with ⟨_ | a, world, notices⟩
  · simp [h]
  · rcases h' : (f a).run world with ⟨_ | b, world', notices'⟩ <;> simp [h, h']

instance : LawfulMonad (Act κ τ) :=
  LawfulMonad.mk' _ bind_pure_eq pure_bind_eq bind_assoc_eq

/-! ## Reading and changing the world -/

/-- The context with an identity, as it is now. -/
def context (c : ContextId) : Act κ τ (Context κ) :=
  return (← get).context c

/-- Changes a context. -/
def modifyContext (c : ContextId) (f : Context κ → Context κ) : Act κ τ Unit :=
  modify fun w => w.modifyContext c f

/-- Changes a detector. -/
def modifyDetector (d : DetectorId) (f : Detector → Detector) : Act κ τ Unit :=
  modify fun w => w.modifyDetector d f

/-- Reads what callbacks remember. -/
def memory : Act κ τ τ :=
  return (← get).memory

/-- Changes what callbacks remember. -/
def remember (f : τ → τ) : Act κ τ Unit :=
  modify fun w => { w with memory := f w.memory }

end Act

/-! ## What callbacks do -/

/-- One run of a callback. -/
structure Invocation (κ : Type) where
  context : ContextId
  callback : CallbackId
  program : κ
  device : Device
  event : Event

/-- What callbacks do, and the order in which passes visit them. A host is a
parameter of every act that may run a callback, so the rules of those acts hold
whatever callbacks do, also if they act on the same world again. -/
structure Host (κ τ : Type) where
  /-- What a run of a callback does. -/
  react : Invocation κ → Act κ τ Wish
  /-- The order in which a pass visits the records that are live when it begins. -/
  order : World κ τ → List CallbackId → List CallbackId
  /-- A pass visits each of these records once. -/
  order_perm : ∀ w ids, (order w ids).Perm ids

end DeviceWatch
