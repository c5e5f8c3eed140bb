import DeviceWatch.Proofs.Composition
import DeviceWatch.Proofs.World
/-!
# Repertoires

What callbacks do is a parameter of every act, so a statement about every
behaviour of callbacks has to say what callbacks may do. A repertoire names
acts, given what the callbacks run by them do. An act is within a repertoire
if it is put together from acts of the repertoire, from reading the world and
from changing what callbacks remember, and if whatever callbacks do under it
is within the repertoire again. A run of a system, with callbacks that act on
it again to any depth, is an act within a repertoire.

`Calm` has all operations on contexts and buses and the single steps on a
registry; `Any` has panics besides. What holds of the primitive acts, and of a pass
whose visits have it, holds of all calm acts (`Parts.calm`): a law of runs comes
down to these parts.
-/

namespace DeviceWatch

variable {κ τ α : Type}

/-- Acts, given what the callbacks run by them do. -/
abbrev Repertoire (κ τ : Type) : Type 1 :=
  Host κ τ → (α : Type) → Act κ τ α → Prop

/-- The act, and what callbacks do under it to any depth, are put together
from acts of the repertoire. -/
inductive Act.Within (R : Repertoire κ τ) : {α : Type} → Act κ τ α → Prop
  /-- An act of the repertoire, under callbacks that are within it. -/
  | op {α : Type} {x : Act κ τ α} (host : Host κ τ) :
      (∀ inv, Act.Within R (host.react inv)) → R host α x → Act.Within R x
  | pure {α : Type} (a : α) : Act.Within R (pure a)
  | get : Act.Within R get
  | remember (f : τ → τ) : Act.Within R (Act.remember f)
  | bind {α β : Type} {x : Act κ τ α} {f : α → Act κ τ β} :
      Act.Within R x → (∀ a, Act.Within R (f a)) → Act.Within R (x >>= f)
  /-- An act, and another one if a callback panics under it. -/
  | recover {α : Type} {x y : Act κ τ α} :
      Act.Within R x → Act.Within R y → Act.Within R (x.recover y)

/-- Whatever the callbacks do is within the repertoire. -/
def Host.Within (R : Repertoire κ τ) (host : Host κ τ) : Prop :=
  ∀ inv, (host.react inv).Within R

/-- Callbacks that do nothing and wait for more. -/
def Host.idle : Host κ τ where
  react _ := pure .rearm
  order _ ids := ids
  order_perm _ _ := .refl _

theorem Host.idle_within {R : Repertoire κ τ} : Host.idle.Within R :=
  fun _ => .pure _

/-- They obey every law. -/
theorem Host.idle_obeys {L : Law κ τ} [L.Composes] (inv : Invocation κ) :
    (Host.idle.react inv : Act κ τ Wish).Obeys L :=
  Act.obeys_pure _

namespace Act

variable {R S : Repertoire κ τ} {x : Act κ τ α}

theorem closed_within {R : Repertoire κ τ} : Closed fun _ (x : Act κ τ _) => x.Within R where
  pure := .pure
  get := .get
  bind := .bind

/-- **A run obeys a law that its operations obey.** The operations may assume
that the callbacks they run obey it. -/
theorem Within.obeys {L : Law κ τ} [L.Composes]
    (hm : ∀ (w : World κ τ) (f : τ → τ), L w [] { w with memory := f w.memory })
    (hop : ∀ {α : Type} {host : Host κ τ} {x : Act κ τ α}, host.Within R →
      (∀ inv, (host.react inv).Obeys L) → R host α x → x.Obeys L)
    (hx : x.Within R) : x.Obeys L := by
  induction hx with
  | op _ hhost hR ih => exact hop hhost ih hR
  | pure a => exact obeys_pure a
  | get => exact obeys_get
  | remember f => exact obeys_modify fun w => hm w f
  | bind _ _ ihx ihf => exact ihx.bind ihf
  | recover _ _ ihx ihy => exact ihx.recover ihy

/-- A run returns if its operations do. -/
theorem Within.returns
    (hop : ∀ {α : Type} {host : Host κ τ} {x : Act κ τ α},
      (∀ inv, (host.react inv).Returns) → R host α x → x.Returns)
    (hx : x.Within R) : x.Returns := by
  induction hx with
  | op _ _ hR ih => exact hop ih hR
  | pure a => exact returns_pure a
  | get => exact returns_get
  | remember f => exact returns_modify _
  | bind _ _ ihx ihf => exact ihx.bind ihf
  | recover _ _ ihx _ => exact ihx.recover

/-- A larger repertoire allows more. -/
theorem Within.mono (h : ∀ host (α : Type) (x : Act κ τ α), R host α x → S host α x)
    (hx : x.Within R) : x.Within S := by
  induction hx with
  | op host _ hR ih => exact .op host ih (h _ _ _ hR)
  | pure a => exact .pure a
  | get => exact .get
  | remember f => exact .remember f
  | bind _ _ ihx ihf => exact .bind ihx ihf
  | recover _ _ ihx ihy => exact .recover ihx ihy

end Act

/-! ## The general repertoires -/

namespace Repertoire

/-- Every operation on contexts and buses, and every single step on a
registry. -/
inductive Calm (host : Host κ τ) : (α : Type) → Act κ τ α → Prop
  | register (c : ContextId) (request : Request κ) : Calm host _ (Act.register host c request)
  | deregister (c : ContextId) (id : CallbackId) : Calm host _ (Act.deregister c id)
  | teardown (c : ContextId) : Calm host _ (Act.teardown c)
  | notify (c : ContextId) (d : Device) (e : Event) : Calm host _ (Act.notify host c d e)
  | insert (c : ContextId) (events : EventSet) (filter : Filter) (program : κ) :
      Calm host _ (Act.insert c events filter program)
  | decide (c : ContextId) (id : CallbackId) (d : Device) (e : Event) :
      Calm host _ (Act.decide c id d e)
  | commit (c : ContextId) (id : CallbackId) (wish : Wish) : Calm host _ (Act.commit c id wish)
  | markPending (c : ContextId) (id : CallbackId) : Calm host _ (Act.markPending c id)
  | attach (c : ContextId) (d : Device) : Calm host _ (Act.attach c d)
  | detach (c : ContextId) (i : DeviceId) : Calm host _ (Act.detach c i)
  | openHandle (c : ContextId) (d : Device) : Calm host _ (Act.openHandle c d)
  | closeHandle (c : ContextId) (h : OpenHandle) : Calm host _ (Act.closeHandle c h)
  | plug (b : BusId) (s : DeviceSpec) : Calm host _ (Act.plug host b s)
  | unplug (b : BusId) (i : DeviceId) : Calm host _ (Act.unplug host b i)
  | openDevice (b : BusId) (i : DeviceId) : Calm host _ (Act.openDevice b i)
  | closeDevice (b : BusId) (h : OpenHandle) : Calm host _ (Act.closeDevice b h)
  | transferFailed (b : BusId) (h : OpenHandle) : Calm host _ (Act.transferFailed host b h)

/-- The same, and panics. -/
inductive Any (host : Host κ τ) : (α : Type) → Act κ τ α → Prop
  | calm {α : Type} {x : Act κ τ α} : Calm host α x → Any host α x
  | panic {α : Type} : Any host α Act.panic

end Repertoire

/-- **What calm acts come down to.** A closed property of acts that the primitive acts
have, and passes if their visits do, is one of all calm acts whose callbacks have
it. -/
structure Act.Parts (P : (α : Type) → Act κ τ α → Prop) : Prop extends Act.Closed P where
  decide {c : ContextId} {id : CallbackId} {d : Device} {e : Event} : P _ (Act.decide c id d e)
  commit {c : ContextId} {id : CallbackId} {wish : Wish} : P _ (Act.commit c id wish)
  markPending {c : ContextId} {id : CallbackId} : P _ (Act.markPending c id)
  insert {c : ContextId} {events : EventSet} {filter : Filter} {program : κ} :
    P _ (Act.insert c events filter program)
  teardown {c : ContextId} : P _ (Act.teardown c)
  attach {c : ContextId} {d : Device} : P _ (Act.attach c d)
  detach {c : ContextId} {i : DeviceId} : P _ (Act.detach c i)
  openHandle {c : ContextId} {d : Device} : P _ (Act.openHandle c d)
  closeHandle {c : ContextId} {h : OpenHandle} : P _ (Act.closeHandle c h)
  buses (f : World κ τ → Store Bus) :
    P _ (modify fun w => { w with buses := f w } : Act κ τ Unit)
  delivered {c : ContextId} {id : CallbackId} {d : Device} {e : Event} :
    P _ (note (.delivered c id d e))
  registered {c : ContextId} {id : CallbackId} {filter : Filter} {events : EventSet}
    {flags : Flags} {existing : List Device} :
    P _ (note (.registered c id filter events flags existing))
  plugged {d : Device} {label : String} : P _ (note (.plugged d label))
  unplugged {d : Device} : P _ (note (.unplugged d))
  notify {host : Host κ τ} {c : ContextId} {d : Device} {e : Event} :
    (∀ id, P _ (Act.visit host c d e id)) → P _ (Act.notify host c d e)

namespace Act.Parts

variable {P : (α : Type) → Act κ τ α → Prop} {host : Host κ τ} {c : ContextId} {d : Device}
variable {e : Event} {id : CallbackId} {x : Act κ τ α}

theorem visit (hP : Parts P) (hr : ∀ inv, P _ (host.react inv)) :
    P _ (Act.visit host c d e id) :=
  hP.toClosed.visit hP.decide (fun _ => hP.toClosed.invoke hP.delivered hr) fun _ => hP.commit

/-- A calm act has the property if its callbacks do. -/
theorem calm (hP : Parts P) (hr : ∀ inv, P _ (host.react inv))
    (hx : Repertoire.Calm host α x) : P α x := by
  have hc := hP.toClosed
  have hpass : ∀ {c d e}, P _ (Act.notify host c d e) := hP.notify fun _ => hP.visit hr
  cases hx with
  | register =>
    exact hc.register (fun _ _ => hP.insert) (fun _ _ _ => hP.registered)
      fun _ _ => hc.enumerate fun _ _ => hP.visit hr
  | deregister => exact hc.deregister hP.markPending
  | teardown => exact hP.teardown
  | notify => exact hpass
  | insert => exact hP.insert
  | decide => exact hP.decide
  | commit => exact hP.commit
  | markPending => exact hP.markPending
  | attach => exact hP.attach
  | detach => exact hP.detach
  | openHandle => exact hP.openHandle
  | closeHandle => exact hP.closeHandle
  | plug => exact hc.plug hP.buses (fun _ _ => hP.attach) (fun _ => hP.plugged) fun _ _ => hpass
  | unplug => exact hc.unplug (fun _ => hP.detach) (fun _ => hP.unplugged) fun _ _ => hpass
  | openDevice => exact hc.openDevice fun _ _ => hP.openHandle
  | closeDevice => exact hc.closeDevice fun _ => hP.closeHandle
  | transferFailed => exact hc.transferFailed (fun _ => hP.detach) fun _ => hpass

end Act.Parts

/-- **Every run obeys a law that its parts obey**, whatever its callbacks do and
whether or not they panic. -/
theorem Act.Within.obeys_of_parts {L : Law κ τ} [L.Composes] {x : Act κ τ α}
    (hL : Act.Parts fun _ (y : Act κ τ _) => y.Obeys L)
    (hm : ∀ (w : World κ τ) (f : τ → τ), L w [] { w with memory := f w.memory })
    (hx : x.Within Repertoire.Any) : x.Obeys L := by
  refine hx.obeys hm fun {β host y} _ hr hop => ?_
  cases hop with
  | calm hcalm => exact hL.calm hr hcalm
  | panic => exact obeys_panic

namespace Act

variable {host : Host κ τ} {c : ContextId} {id : CallbackId} {d : Device} {e : Event}

theorem returns_disconnectOn : (disconnectOn c d : Act κ τ (List OpenHandle)).Returns :=
  closed_returns.disconnectOn fun _ => returns_disconnect

theorem parts_returns : Parts (κ := κ) (τ := τ) fun _ x => x.Returns where
  toClosed := closed_returns
  decide := returns_decide
  commit := returns_commit
  markPending := returns_markPending
  insert := returns_insert
  teardown := returns_teardown
  attach := returns_attach
  detach := returns_detach
  openHandle := returns_openHandle
  closeHandle := returns_closeHandle
  buses _ := returns_modify _
  delivered := returns_note _
  registered := returns_note _
  plugged := returns_note _
  unplugged := returns_note _
  notify hv :=
    closed_returns.notify (returns_note _) (fun _ => returns_note _)
      (closed_returns.pass hv returns_disconnectOn)

/-- A visit returns if the callback does. -/
theorem returns_visit (hr : ∀ inv, (host.react inv).Returns) : (visit host c d e id).Returns :=
  parts_returns.visit hr

theorem returns_plug {b : BusId} {s : DeviceSpec} (hr : ∀ inv, (host.react inv).Returns) :
    (plug host b s).Returns :=
  parts_returns.calm hr (.plug b s)

theorem returns_unplug {b : BusId} {i : DeviceId} (hr : ∀ inv, (host.react inv).Returns) :
    (unplug host b i).Returns :=
  parts_returns.calm hr (.unplug b i)

/-- **A calm run returns**: with no panic among the operations there is none
at all. -/
theorem Within.returns_of_calm {x : Act κ τ α} (hx : x.Within Repertoire.Calm) : x.Returns :=
  hx.returns fun hr hop => parts_returns.calm hr hop

end Act
end DeviceWatch
