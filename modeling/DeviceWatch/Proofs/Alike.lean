import DeviceWatch.Proofs.Repertoire
/-!
# Worlds alike

Worlds are alike if they differ at most in what their detectors hold: their queues and
mailboxes and the answers they gave, but not in which of them run. Acts on contexts and
buses do not look at detectors at all, so from alike worlds they give the same results and
leave alike worlds, as long as the callbacks under them do so too.
-/

namespace DeviceWatch

variable {κ τ α β : Type}

namespace World

section Detectors

variable {w : World κ τ} {d i : DetectorId} {f g : Detector → Detector}

theorem detector_modifyDetector :
    (w.modifyDetector d f).detector i = if i = d then f (w.detector d) else w.detector i := by
  have hval : i.val = d.val ↔ i = d := by
    cases i
    cases d
    simp
  simp only [detector, modifyDetector, Store.get_modify, hval]

@[simp] theorem detector_modifyDetector_self :
    (w.modifyDetector d f).detector d = f (w.detector d) :=
  detector_modifyDetector.trans (if_pos rfl)

/-- A detector changed twice is changed once by both. -/
theorem modifyDetector_modifyDetector :
    (w.modifyDetector d f).modifyDetector d g = w.modifyDetector d fun x => g (f x) := by
  simp only [modifyDetector, Store.modify, Store.get_set_self]
  simp [Store.set]

end Detectors

/-- The world without its detectors. -/
def apart (w : World κ τ) : World κ τ :=
  { w with detectors := { blank := { bus := ⟨0⟩, running := false } } }

/-- **Alike worlds** differ at most in what their detectors hold. -/
structure Alike (w w' : World κ τ) : Prop where
  apart : w.apart = w'.apart
  running : ∀ d, (w.detector d).running = (w'.detector d).running

namespace Alike

variable {w w' w'' : World κ τ}

theorem refl : w.Alike w :=
  ⟨rfl, fun _ => rfl⟩

theorem symm (h : w.Alike w') : w'.Alike w :=
  ⟨h.apart.symm, fun d => (h.running d).symm⟩

theorem trans (h : w.Alike w') (h' : w'.Alike w'') : w.Alike w'' :=
  ⟨h.apart.trans h'.apart, fun d => (h.running d).trans (h'.running d)⟩

/-- One of them is the other with the detectors exchanged. -/
theorem eq (h : w.Alike w') : w' = { w with detectors := w'.detectors } :=
  congrArg (fun v : World κ τ => { v with detectors := w'.detectors }) h.apart.symm

theorem context (h : w.Alike w') (c : ContextId) : w.context c = w'.context c := by
  have hcontext : w.apart.context c = w'.apart.context c := by rw [h.apart]
  exact hcontext

theorem bus (h : w.Alike w') (b : BusId) : w.bus b = w'.bus b := by
  have hbus : w.apart.bus b = w'.apart.bus b := by rw [h.apart]
  exact hbus

theorem contextOf (h : w.Alike w') (b : BusId) : w.contextOf b = w'.contextOf b :=
  congrArg Bus.context (h.bus b)

/-- A detector may be given something to hold. -/
theorem modifyDetector {d : DetectorId} {f : Detector → Detector} (h : w.Alike w')
    (hf : ∀ x, (f x).running = x.running) : (w.modifyDetector d f).Alike w' := by
  refine ⟨h.apart, fun i => ?_⟩
  rw [detector_modifyDetector]
  by_cases hi : i = d
  · rw [if_pos hi, hf, hi]
    exact h.running d
  · rw [if_neg hi]
    exact h.running i

end Alike
end World

namespace Act

/-- The acts do alike: from alike worlds they give the same result and leave alike
worlds. -/
def Alike (x y : Act κ τ α) : Prop :=
  ∀ w w', w.Alike w' →
    (x.run w).result = (y.run w').result ∧ (x.run w).world.Alike (y.run w').world

variable {x y : Act κ τ α} {f g : α → Act κ τ β}

namespace Alike

theorem pure (a : α) : Alike (pure a : Act κ τ α) (Pure.pure a) :=
  fun _ _ h => ⟨rfl, h⟩

theorem bind (hx : Alike x y) (hf : ∀ a, Alike (f a) (g a)) : Alike (x >>= f) (y >>= g) := by
  intro w w' h
  obtain ⟨hresult, hworld⟩ := hx w w' h
  rw [run_bind, run_bind]
  generalize x.run w = out at hresult hworld ⊢
  obtain ⟨result, v, ns⟩ := out
  generalize y.run w' = out' at hresult hworld ⊢
  obtain ⟨result', v', ms⟩ := out'
  obtain rfl : result = result' := hresult
  rcases result with _ | a
  · exact ⟨rfl, hworld⟩
  · exact hf a v v' hworld

/-- Acts that read the world do alike if they do so whatever detectors hold there. -/
theorem get_bind {f g : World κ τ → Act κ τ β} (h : ∀ w w', w.Alike w' → Alike (f w) (g w')) :
    Alike (get >>= f) (get >>= g) :=
  fun w w' hw => h w w' hw w w' hw

/-- An act that has no part in detectors does alike. -/
theorem of_apart (h : ∀ w D, x.run { w with detectors := D } =
    { x.run w with world := { (x.run w).world with detectors := D } }) : Alike x x := by
  intro w w' hw
  have hkept : (x.run w).world.detectors = w.detectors :=
    congrArg (fun out : Effect κ τ α => out.world.detectors) (h w w.detectors)
  have hrun := h w w'.detectors
  rw [← hw.eq] at hrun
  rw [hrun]
  refine ⟨rfl, rfl, fun d => ?_⟩
  rw [World.detector, hkept]
  exact hw.running d

end Alike

/-! ## The primitive acts -/

section Primitives

variable {c : ContextId} {id : CallbackId} {d : Device} {e : Event}

theorem alike_context : Alike (context c : Act κ τ (Context κ)) (context c) :=
  .get_bind fun _ _ h => h.context c ▸ .pure _

theorem alike_note {n : Notice} : Alike (note n : Act κ τ Unit) (note n) :=
  .of_apart fun _ _ => rfl

theorem alike_remember {f : τ → τ} : Alike (remember f : Act κ τ Unit) (remember f) :=
  .of_apart fun _ _ => rfl

theorem alike_decide : Alike (decide c id d e : Act κ τ (Verdict κ)) (decide c id d e) :=
  .of_apart fun _ _ => rfl

theorem alike_commit {wish : Wish} :
    Alike (commit c id wish : Act κ τ Bool) (commit c id wish) :=
  .of_apart fun _ _ => rfl

theorem alike_markPending : Alike (markPending c id : Act κ τ Bool) (markPending c id) := by
  refine .of_apart fun w D => ?_
  rw [run_markPending, run_markPending]
  rfl

theorem alike_insert {events : EventSet} {filter : Filter} {program : κ} :
    Alike (insert c events filter program : Act κ τ _) (insert c events filter program) := by
  refine .of_apart fun w D => ?_
  have hsame : World.registry { w with detectors := D } c = w.registry c := rfl
  rw [run_insert, run_insert, hsame]
  split <;> rfl

theorem alike_teardown : Alike (teardown c : Act κ τ Nat) (teardown c) := by
  refine .of_apart fun w D => ?_
  rw [run_teardown, run_teardown]
  rfl

theorem alike_attach : Alike (attach c d : Act κ τ Unit) (attach c d) :=
  .of_apart fun _ _ => rfl

theorem alike_detach {i : DeviceId} :
    Alike (detach c i : Act κ τ (Option Device)) (detach c i) := by
  refine .of_apart fun w D => ?_
  have hsame : World.roster { w with detectors := D } c = w.roster c := rfl
  rw [run_detach, run_detach, hsame]
  split <;> rfl

theorem alike_openHandle : Alike (openHandle c d : Act κ τ OpenHandle) (openHandle c d) :=
  .of_apart fun _ _ => rfl

theorem alike_closeHandle {h : OpenHandle} :
    Alike (closeHandle c h : Act κ τ Bool) (closeHandle c h) := by
  refine .of_apart fun w D => ?_
  have hsame : World.opens { w with detectors := D } c = w.opens c := rfl
  rw [run_closeHandle, run_closeHandle, hsame]
  split <;> rfl

theorem alike_disconnect {h : OpenHandle} :
    Alike (disconnect c h : Act κ τ Bool) (disconnect c h) := by
  refine .of_apart fun w D => ?_
  have hsame : World.isDisconnected { w with detectors := D } h.id = w.isDisconnected h.id := rfl
  rw [run_disconnect, run_disconnect, hsame]
  split <;> rfl

end Primitives

end Act

/-- The order of visits does not depend on what detectors hold. -/
def Host.Steady (host : Host κ τ) : Prop :=
  ∀ w w' ids, w.Alike w' → host.order w ids = host.order w' ids

namespace Act

/-! ## Acts on contexts and buses -/

section Composites

variable {host : Host κ τ} {b : BusId} {c : ContextId} {id : CallbackId} {d : Device} {e : Event}
variable (hr : ∀ inv, Alike (host.react inv) (host.react inv))
include hr

theorem alike_visit : Alike (visit host c d e id) (visit host c d e id) := by
  refine .bind alike_decide fun verdict => ?_
  cases verdict with
  | gone => exact .pure _
  | released => exact .pure _
  | skip => exact .pure _
  | invoke program =>
    refine .bind (.bind alike_note fun _ => hr _) fun wish => ?_
    exact .bind alike_commit fun _ => .pure _

theorem alike_visitAll {ids : List CallbackId} :
    Alike (visitAll host c d e ids) (visitAll host c d e ids) := by
  induction ids with
  | nil => exact .pure _
  | cons id rest ih => exact .bind (alike_visit hr) fun _ => .bind ih fun _ => .pure _

omit hr in
theorem alike_disconnectAll {hs : List OpenHandle} :
    Alike (disconnectAll c hs : Act κ τ (List OpenHandle)) (disconnectAll c hs) := by
  induction hs with
  | nil => exact .pure _
  | cons h rest ih => exact .bind alike_disconnect fun _ => .bind ih fun _ => .pure _

variable (ho : host.Steady)
include ho

theorem alike_notify : Alike (notify host c d e) (notify host c d e) := by
  have hpass : Alike (pass host c d e) (pass host c d e) := by
    refine .get_bind fun w w' h => ?_
    rw [ho w w' _ h, h.context c]
    refine .bind (alike_visitAll hr) fun visits => ?_
    by_cases he : e = .left
    · rw [if_pos he]
      exact .bind (.bind alike_context fun _ => alike_disconnectAll) fun _ => .pure _
    · rw [if_neg he]
      exact .bind (.pure _) fun _ => .pure _
  exact .bind alike_note fun _ => .bind hpass fun _ => .bind alike_note fun _ => .pure _

omit ho in
theorem alike_enumerate {devices : List Device} :
    Alike (enumerate host c id devices) (enumerate host c id devices) := by
  induction devices with
  | nil => exact .pure _
  | cons d rest ih =>
    refine .bind (alike_visit hr) fun v => ?_
    rcases v with _ | _ | _ | (_ | _)
    · exact .pure _
    · exact .pure _
    · exact .bind ih fun _ => .pure _
    · exact .bind ih fun _ => .pure _
    · exact .pure _

omit ho in
theorem alike_register {request : Request κ} :
    Alike (register host c request) (register host c request) := by
  refine .bind alike_context fun x => ?_
  by_cases hx : (!x.hasHotplug) = true
  · rw [if_pos hx]
    exact .pure _
  rw [if_neg hx]
  rcases request.check with error | ⟨filter, program⟩
  · exact .pure _
  refine .bind alike_insert fun result => ?_
  rcases result with error | id
  · exact .pure _
  refine .bind alike_context fun y => .bind alike_note fun _ => ?_
  exact .bind (alike_enumerate hr) fun _ => .pure _

theorem alike_plug {s : DeviceSpec} : Alike (plug host b s) (plug host b s) := by
  refine .get_bind fun w w' h => ?_
  rw [h.bus b]
  refine .bind (.of_apart fun _ _ => rfl) fun _ => .bind alike_attach fun _ => ?_
  exact .bind alike_note fun _ => .bind (alike_notify hr ho) fun _ => .pure _

theorem alike_unplug {i : DeviceId} : Alike (unplug host b i) (unplug host b i) := by
  refine .get_bind fun w w' h => ?_
  rw [h.contextOf b]
  refine .bind alike_detach fun found => ?_
  rcases found with _ | d
  · exact .pure _
  · exact .bind alike_note fun _ => .bind (alike_notify hr ho) fun _ => .pure _

theorem alike_transferFailed {h : OpenHandle} :
    Alike (transferFailed host b h) (transferFailed host b h) := by
  refine .get_bind fun w w' hw => ?_
  rw [hw.contextOf b]
  refine .bind alike_detach fun found => ?_
  rcases found with _ | d
  · exact .pure _
  · exact alike_notify hr ho

/-- **Calm acts do alike** if their callbacks do. -/
theorem alike_calm (hx : Repertoire.Calm host α x) : Alike x x := by
  cases hx with
  | register => exact alike_register hr
  | deregister =>
    refine .bind alike_context fun x => ?_
    by_cases hx : x.hasHotplug = true
    · rw [if_pos hx]
      exact .bind alike_markPending fun _ => .pure _
    · rw [if_neg hx]
      exact .pure _
  | teardown => exact alike_teardown
  | notify => exact alike_notify hr ho
  | insert => exact alike_insert
  | decide => exact alike_decide
  | commit => exact alike_commit
  | markPending => exact alike_markPending
  | attach => exact alike_attach
  | detach => exact alike_detach
  | openHandle => exact alike_openHandle
  | closeHandle => exact alike_closeHandle
  | plug => exact alike_plug hr ho
  | unplug => exact alike_unplug hr ho
  | openDevice b i =>
    refine .get_bind fun w w' h => ?_
    rw [h.contextOf b]
    refine .bind alike_context fun x => ?_
    rcases x.roster.get? i with _ | d
    · exact .pure _
    · exact .bind alike_openHandle fun _ => .pure _
  | closeDevice b k =>
    refine .get_bind fun w w' h => ?_
    rw [h.contextOf b]
    exact alike_closeHandle
  | transferFailed => exact alike_transferFailed hr ho

end Composites

end Act
end DeviceWatch
