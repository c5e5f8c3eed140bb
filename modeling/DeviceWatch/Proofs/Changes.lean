import DeviceWatch.Proofs.Bus
import DeviceWatch.Proofs.Outlook
import DeviceWatch.Proofs.Roster
/-!
# Changes and their passes

Where devices come and go by acts on buses alone, every change has its pass: the
pass begins after the change and before any callback runs. So the passes of a
run tell of the changes, each once and in order, and the passes that have begun
when a callback is registered tell of the changes made by then.
-/

namespace DeviceWatch

variable {κ τ α : Type}

/-- The changes of a context's devices. -/
def changes (c : ContextId) (ns : List Notice) : List (DeviceId × Event) :=
  ns.filterMap fun
    | .attached c' d => if c' = c then some (d.id, .arrived) else none
    | .detached c' d => if c' = c then some (d.id, .left) else none
    | _ => none

/-- The changes that passes over a context's callbacks tell of. -/
def announced (c : ContextId) (ns : List Notice) : List (DeviceId × Event) :=
  (passes c ns).map fun (d, e) => (d.id, e)

/-- Whether the notice is of a change of devices or of a pass that begins. -/
def Notice.moves : Notice → Bool
  | .attached .. | .detached .. | .passBegan .. => true
  | _ => false

theorem changes_append {c : ContextId} {ns ms : List Notice} :
    changes c (ns ++ ms) = changes c ns ++ changes c ms :=
  List.filterMap_append

theorem announced_append {c : ContextId} {ns ms : List Notice} :
    announced c (ns ++ ms) = announced c ns ++ announced c ms := by
  rw [announced, passes_append, List.map_append]
  rfl

theorem changes_of_idle {c : ContextId} {ns : List Notice} (h : ∀ n ∈ ns, n.moves = false) :
    changes c ns = [] := by
  refine List.filterMap_eq_nil_iff.2 fun n hn => ?_
  have hno := h n hn
  cases n <;> first | rfl | cases hno

theorem announced_of_idle {c : ContextId} {ns : List Notice} (h : ∀ n ∈ ns, n.moves = false) :
    announced c ns = [] := by
  have hpasses : passes c ns = [] := by
    refine List.filterMap_eq_nil_iff.2 fun n hn => ?_
    have hno := h n hn
    cases n <;> first | rfl | cases hno
  rw [announced, hpasses]
  rfl

/-- **Every change has its pass**, also if one stops at a registration. -/
structure Paired (c : ContextId) (o : CallbackId) (ns : List Notice) : Prop where
  whole : changes c ns = announced c ns
  registered {before after : List Notice} {n : Notice} : ns = before ++ n :: after →
    n.registers c o = true → changes c before = announced c before

namespace Paired

variable {c : ContextId} {o : CallbackId} {ns ms before after : List Notice} {n : Notice}

theorem of_idle (h : ∀ n ∈ ns, n.moves = false) : Paired c o ns where
  whole := by rw [changes_of_idle h, announced_of_idle h]
  registered hns _ := by
    rw [hns, List.forall_mem_append] at h
    rw [changes_of_idle h.1, announced_of_idle h.1]

/-- A change and the beginning of its pass, without a registration in between. -/
theorem of_unregistered (h : changes c ns = announced c ns)
    (hno : ∀ n ∈ ns, n.registers c o = false) : Paired c o ns where
  whole := h
  registered hns hr := by
    rw [hno _ (hns ▸ List.mem_append_right _ List.mem_cons_self)] at hr
    cases hr

theorem append (h₁ : Paired c o ns) (h₂ : Paired c o ms) : Paired c o (ns ++ ms) where
  whole := by rw [changes_append, announced_append, h₁.whole, h₂.whole]
  registered hcut hr := by
    -- The registration lies in the second part, or it begins it, or it lies in the first.
    rcases List.append_eq_append_iff.1 hcut with ⟨l, rfl, hl⟩ | ⟨l, hl, hms⟩
    · rw [changes_append, announced_append, h₁.whole, h₂.registered hl hr]
    · rcases l with _ | ⟨m, l⟩
      · rw [List.append_nil] at hl
        rw [← hl]
        exact h₁.whole
      · obtain ⟨rfl, -⟩ := List.cons.inj hms
        exact h₁.registered hl hr

/-- After a registration the passes tell of the changes still to come. -/
theorem changes_after (h : Paired c o (before ++ n :: after)) (hr : n.registers c o = true) :
    announced c after = changes c after := by
  have hnone : changes c [n] = announced c [n] := by
    cases n <;> first | rfl | cases hr
  have hwhole := h.whole
  rw [List.append_cons, changes_append, announced_append, changes_append, announced_append,
    h.registered rfl hr, hnone] at hwhole
  exact (List.append_cancel_left hwhole).symm

end Paired

/-- The law of changes and their passes. -/
def Pairs (c : ContextId) (o : CallbackId) : Law κ τ :=
  fun _ ns _ => Paired c o ns

instance {c : ContextId} {o : CallbackId} : Law.Composes (Pairs (κ := κ) (τ := τ) c o) where
  refl _ := .of_idle (List.forall_mem_nil _)
  trans := .append

/-! ## Runs -/

namespace Repertoire

/-- The operations under which no device comes or goes and no pass begins. -/
inductive Bystanding (host : Host κ τ) : (α : Type) → Act κ τ α → Prop
  | register (c : ContextId) (request : Request κ) : Bystanding host _ (Act.register host c request)
  | deregister (c : ContextId) (id : CallbackId) : Bystanding host _ (Act.deregister c id)
  | teardown (c : ContextId) : Bystanding host _ (Act.teardown c)
  | openHandle (c : ContextId) (d : Device) : Bystanding host _ (Act.openHandle c d)
  | closeHandle (c : ContextId) (h : OpenHandle) : Bystanding host _ (Act.closeHandle c h)
  | openDevice (b : BusId) (i : DeviceId) : Bystanding host _ (Act.openDevice b i)
  | closeDevice (b : BusId) (h : OpenHandle) : Bystanding host _ (Act.closeDevice b h)

/-- These, and the acts on buses under which devices come and go. -/
inductive Driven (host : Host κ τ) : (α : Type) → Act κ τ α → Prop
  | bystanding {α : Type} {x : Act κ τ α} (h : host.Within Bystanding) :
      Bystanding host α x → Driven host α x
  | plug (h : host.Within Bystanding) (b : BusId) (s : DeviceSpec) :
      Driven host _ (Act.plug host b s)
  | unplug (h : host.Within Bystanding) (b : BusId) (i : DeviceId) :
      Driven host _ (Act.unplug host b i)
  | transferFailed (h : host.Within Bystanding) (b : BusId) (k : OpenHandle) :
      Driven host _ (Act.transferFailed host b k)

theorem Bystanding.calm {host : Host κ τ} {x : Act κ τ α} (h : Bystanding host α x) :
    Calm host α x := by
  cases h with
  | register => exact .register _ _
  | deregister => exact .deregister _ _
  | teardown => exact .teardown _
  | openHandle => exact .openHandle _ _
  | closeHandle => exact .closeHandle _ _
  | openDevice => exact .openDevice _ _
  | closeDevice => exact .closeDevice _ _

end Repertoire

/-- No device comes or goes, and no pass begins. -/
abbrev Idle : Law κ τ :=
  Notes fun n => n.moves = false

namespace Act

variable {host : Host κ τ} {b : BusId} {c c' : ContextId} {o id : CallbackId} {d : Device}
variable {e : Event} {w : World κ τ} {x : Act κ τ α}

theorem idle_visit (hr : ∀ inv, (host.react inv).Obeys Idle) :
    (visit host c d e id).Obeys Idle :=
  notes_visit (fun _ => rfl) rfl (fun _ _ => rfl) hr

theorem Within.idle (hx : x.Within Repertoire.Bystanding) : x.Obeys Idle := by
  refine hx.obeys (fun _ _ => List.forall_mem_nil _) fun {α host x} _ hr hop => ?_
  cases hop with
  | register =>
    exact closed_obeys.register (fun _ _ => notes_insert fun _ => rfl)
      (fun _ _ _ => notes_note rfl) fun _ _ => closed_obeys.enumerate fun _ _ => idle_visit hr
  | deregister => exact closed_obeys.deregister (notes_markPending rfl)
  | teardown => exact notes_teardown fun _ => rfl
  | openHandle => exact notes_openHandle fun _ => rfl
  | closeHandle => exact notes_closeHandle rfl
  | openDevice => exact closed_obeys.openDevice fun _ _ => notes_openHandle fun _ => rfl
  | closeDevice => exact closed_obeys.closeDevice fun _ => notes_closeHandle rfl

/-- Once a pass has begun, no device comes or goes and no other pass begins. -/
theorem notices_notify (h : host.Within Repertoire.Bystanding) :
    ∃ rest, ((notify host c d e).run w).notices = .passBegan c d e :: rest ∧
      ∀ n ∈ rest, n.moves = false := by
  have hr : ∀ inv, (host.react inv).Obeys Idle := fun inv => (h inv).idle
  have hret : ∀ inv, (host.react inv).Returns := fun inv =>
    ((h inv).mono fun _ _ _ => Repertoire.Bystanding.calm).returns_of_calm
  obtain ⟨vs, hs, -, hrun⟩ := run_notify (c := c) (d := d) (e := e) (w := w) hret
  refine ⟨_, by rw [hrun], ?_⟩
  simp only [List.forall_mem_append, List.forall_mem_singleton]
  exact ⟨⟨closed_obeys.visitAll (fun _ _ => idle_visit hr) w, notes_followUp (fun _ => rfl) _⟩, rfl⟩

/-- A change is paired with the pass over it. -/
theorem paired_pass (h : host.Within Repertoire.Bystanding) (ns : List Notice)
    (hns : changes c (ns ++ [.passBegan c' d e]) = announced c (ns ++ [.passBegan c' d e]))
    (hno : ∀ n ∈ ns, n.registers c o = false) :
    Paired c o (ns ++ ((notify host c' d e).run w).notices) := by
  obtain ⟨rest, hrest, hidle⟩ := notices_notify (c := c') (d := d) (e := e) (w := w) h
  rw [hrest, List.append_cons]
  refine Paired.append (.of_unregistered hns ?_) (.of_idle hidle)
  exact List.forall_mem_append.2 ⟨hno, List.forall_mem_singleton.2 rfl⟩

theorem pairs_plug (h : host.Within Repertoire.Bystanding) {s : DeviceSpec} :
    (plug host b s).Obeys (Pairs c o) := by
  intro w
  rw [run_plug]
  refine paired_pass h [.attached _ _, .plugged _ _] ?_ ?_
  · by_cases hc : w.contextOf b = c <;> simp [changes, announced, passes, hc]
  · simp [Notice.registers]

theorem pairs_unplug (h : host.Within Repertoire.Bystanding) {i : DeviceId} :
    (unplug host b i).Obeys (Pairs c o) := by
  intro w
  rw [run_unplug]
  rcases (w.roster (w.contextOf b)).detach? i with _ | ⟨d, roster⟩
  · exact .of_idle (List.forall_mem_nil _)
  · refine paired_pass h [.detached _ d, .unplugged d] ?_ ?_
    · by_cases hc : w.contextOf b = c <;> simp [changes, announced, passes, hc]
    · simp [Notice.registers]

theorem pairs_transferFailed (h : host.Within Repertoire.Bystanding) {k : OpenHandle} :
    (transferFailed host b k).Obeys (Pairs c o) := by
  intro w
  rw [run_transferFailed]
  rcases hdetach : (w.roster (w.contextOf b)).detach? k.device.id with _ | ⟨d, roster⟩
  · exact .of_idle (List.forall_mem_nil _)
  · -- The device that leaves is the handle's device, by its identity.
    obtain ⟨hid, -⟩ := Roster.detach?_eq_some hdetach
    refine paired_pass h [.detached _ d] ?_ ?_
    · by_cases hc : w.contextOf b = c <;> simp [changes, announced, passes, hc, hid]
    · simp [Notice.registers]

/-- **The passes tell of the changes**, where devices come and go by acts on buses
alone. -/
theorem Within.pairs (hx : x.Within Repertoire.Driven) : x.Obeys (Pairs c o) := by
  refine hx.obeys (fun _ _ => .of_idle (List.forall_mem_nil _)) fun {α host x} _ _ hop => ?_
  cases hop with
  | bystanding h hx =>
    have hidle : x.Obeys Idle := Within.idle (.op _ h hx)
    exact hidle.mono fun _ _ _ hns => .of_idle hns
  | plug h => exact pairs_plug h
  | unplug h => exact pairs_unplug h
  | transferFailed h => exact pairs_transferFailed h

end Act
end DeviceWatch
