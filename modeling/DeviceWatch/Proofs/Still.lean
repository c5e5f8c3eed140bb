import DeviceWatch.Proofs.Account
/-!
# Acts that leave buses alone

Most of what happens in a system of contexts concerns registries: devices and
open handles stay what they are. A law of buses holds of all of that for one
reason, which is stated here once; what is left to prove of such a law are the
acts that attach, detach, open, close and disconnect.
-/

namespace DeviceWatch

variable {κ τ α : Type}

/-- Whether the notice tells of devices attached and detached, or of handles
opened, closed and disconnected. -/
def Notice.ofBus : Notice → Bool
  | .attached .. | .detached .. | .opened .. | .closed .. | .disconnected .. => true
  | _ => false

/-- **Devices and handles stay what they are.** -/
structure Still (w : World κ τ) (ns : List Notice) (w' : World κ τ) : Prop where
  roster (c : ContextId) : w'.roster c = w.roster c
  opens (c : ContextId) : w'.opens c = w.opens c
  platform (c : ContextId) : w'.platform c = w.platform c
  buses : w'.buses = w.buses
  nextOpen : w'.nextOpen = w.nextOpen
  disconnected : w'.disconnected = w.disconnected
  silent : ∀ n ∈ ns, n.ofBus = false

/-- A law of devices and handles, which holds wherever these stay what they
are. -/
class Law.OfBuses (L : Law κ τ) : Prop extends L.Composes where
  still {w w' : World κ τ} {ns : List Notice} : Still w ns w' → L w ns w'

instance : Law.OfBuses (Still (κ := κ) (τ := τ)) where
  refl _ := ⟨fun _ => rfl, fun _ => rfl, fun _ => rfl, rfl, rfl, rfl, List.forall_mem_nil _⟩
  trans h₁ h₂ :=
    ⟨fun c => (h₂.roster c).trans (h₁.roster c), fun c => (h₂.opens c).trans (h₁.opens c),
      fun c => (h₂.platform c).trans (h₁.platform c), h₂.buses.trans h₁.buses,
      h₂.nextOpen.trans h₁.nextOpen, h₂.disconnected.trans h₁.disconnected,
      List.forall_mem_append.2 ⟨h₁.silent, h₂.silent⟩⟩
  still := id

theorem still_setRegistry {w : World κ τ} {c : ContextId} {r : Registry κ} {ns : List Notice}
    (h : ∀ n ∈ ns, n.ofBus = false) : Still w ns (w.setRegistry c r) where
  roster _ := World.roster_setRegistry
  opens _ := World.opens_setRegistry
  platform _ := World.platform_setRegistry
  buses := rfl
  nextOpen := rfl
  disconnected := rfl
  silent := h

namespace Act

variable {L : Law κ τ} [L.OfBuses] {host : Host κ τ} {c : ContextId} {id : CallbackId}
variable {d : Device} {e : Event} {ids : List CallbackId}

theorem still_note {n : Notice} (h : n.ofBus = false) : (note n : Act κ τ Unit).Obeys L :=
  obeys_note fun _ => Law.OfBuses.still
    ⟨fun _ => rfl, fun _ => rfl, fun _ => rfl, rfl, rfl, rfl, List.forall_mem_singleton.2 h⟩

theorem still_remember (f : τ → τ) (w : World κ τ) : L w [] { w with memory := f w.memory } :=
  Law.OfBuses.still ⟨fun _ => rfl, fun _ => rfl, fun _ => rfl, rfl, rfl, rfl, List.forall_mem_nil _⟩

theorem still_decide : (decide c id d e : Act κ τ (Verdict κ)).Obeys L :=
  fun _ => Law.OfBuses.still (still_setRegistry (List.forall_mem_singleton.2 rfl))

theorem still_commit {wish : Wish} : (commit c id wish : Act κ τ Bool).Obeys L :=
  fun _ => Law.OfBuses.still (still_setRegistry (List.forall_mem_singleton.2 rfl))

theorem still_markPending : (markPending c id : Act κ τ Bool).Obeys L := by
  intro w
  rw [run_markPending]
  exact Law.OfBuses.still (still_setRegistry (forall_mem_if rfl))

theorem still_insert {events : EventSet} {filter : Filter} {program : κ} :
    (insert c events filter program : Act κ τ _).Obeys L := by
  refine obeys_insert fun w _ => Law.OfBuses.still ?_
  exact ⟨fun _ => World.roster_setRegistry, fun _ => World.opens_setRegistry,
    fun _ => World.platform_setRegistry, rfl, rfl, rfl, List.forall_mem_singleton.2 rfl⟩

theorem still_teardown : (teardown c : Act κ τ Nat).Obeys L := by
  intro w
  rw [run_teardown]
  exact Law.OfBuses.still (still_setRegistry (forall_mem_if rfl))

/-! ## With callbacks -/

theorem still_visit (hr : ∀ inv, (host.react inv).Obeys L) : (visit host c d e id).Obeys L :=
  closed_obeys.visit still_decide (fun _ => closed_obeys.invoke (still_note rfl) hr)
    fun _ => still_commit

theorem still_visitAll (hr : ∀ inv, (host.react inv).Obeys L) :
    (visitAll host c d e ids).Obeys L :=
  closed_obeys.visitAll fun _ _ => still_visit hr

theorem still_register {request : Request κ} (hr : ∀ inv, (host.react inv).Obeys L) :
    (register host c request).Obeys L :=
  closed_obeys.register (fun _ _ => still_insert) (fun _ _ _ => still_note rfl)
    fun _ _ => closed_obeys.enumerate fun _ _ => still_visit hr

theorem still_deregister : (deregister c id : Act κ τ Unit).Obeys L :=
  closed_obeys.deregister still_markPending

/-- A pass obeys a law of buses if the follow-up of departures does. -/
theorem still_notify (hr : ∀ inv, (host.react inv).Obeys L)
    (hd : (disconnectOn c d : Act κ τ _).Obeys L) : (notify host c d e).Obeys L :=
  closed_obeys.notify (still_note rfl) (fun _ => still_note rfl)
    (closed_obeys.pass (fun _ => still_visit hr) hd)

/-- **What is left to prove of a law of buses** for it to hold of every run. -/
theorem still_parts (hbuses : ∀ (w : World κ τ) (buses : Store Bus), L w [] { w with buses })
    (hattach : ∀ c d, (attach c d : Act κ τ Unit).Obeys L)
    (hdetach : ∀ c i, (detach c i : Act κ τ _).Obeys L)
    (hopen : ∀ c d, (openHandle c d : Act κ τ OpenHandle).Obeys L)
    (hclose : ∀ c h, (closeHandle c h : Act κ τ Bool).Obeys L)
    (hdisconnect : ∀ c d, (disconnectOn c d : Act κ τ _).Obeys L) :
    Parts fun _ (x : Act κ τ _) => x.Obeys L where
  toClosed := closed_obeys
  decide := still_decide
  commit := still_commit
  markPending := still_markPending
  insert := still_insert
  teardown := still_teardown
  attach := hattach _ _
  detach := hdetach _ _
  openHandle := hopen _ _
  closeHandle := hclose _ _
  buses f := obeys_modify fun w => hbuses w (f w)
  delivered := still_note rfl
  registered := still_note rfl
  plugged := still_note rfl
  unplugged := still_note rfl
  notify hv :=
    closed_obeys.notify (still_note rfl) (fun _ => still_note rfl)
      (closed_obeys.pass hv (hdisconnect _ _))

end Act
end DeviceWatch
