import DeviceWatch.Proofs.Closing
/-!
# Disconnected handles

On a bus that nothing else interferes with, a handle in the list of open ones is
disconnected exactly if its device is not attached, whenever no act on the bus
is in progress. Callbacks may act on the bus themselves, to any depth. A handle
that was closed keeps its mark as it was.
-/

namespace DeviceWatch

variable {κ τ α : Type}

/-- The acts on a bus, and registrations in any context. -/
inductive Repertoire.OnBus (b : BusId) (host : Host κ τ) : (α : Type) → Act κ τ α → Prop
  | plug (s : DeviceSpec) : OnBus b host _ (Act.plug host b s)
  | unplug (i : DeviceId) : OnBus b host _ (Act.unplug host b i)
  | openDevice (i : DeviceId) : OnBus b host _ (Act.openDevice b i)
  | closeDevice (h : OpenHandle) : OnBus b host _ (Act.closeDevice b h)
  | transferFailed (h : OpenHandle) : OnBus b host _ (Act.transferFailed host b h)
  | register (c : ContextId) (request : Request κ) : OnBus b host _ (Act.register host c request)
  | deregister (c : ContextId) (id : CallbackId) : OnBus b host _ (Act.deregister c id)
  | teardown (c : ContextId) : OnBus b host _ (Act.teardown c)

theorem Repertoire.OnBus.calm {b : BusId} {host : Host κ τ} {x : Act κ τ α}
    (hx : OnBus b host α x) : Calm host α x := by
  cases hx with
  | plug s => exact .plug b s
  | unplug i => exact .unplug b i
  | openDevice i => exact .openDevice b i
  | closeDevice h => exact .closeDevice b h
  | transferFailed h => exact .transferFailed b h
  | register c request => exact .register c request
  | deregister c id => exact .deregister c id
  | teardown c => exact .teardown c

/-- A bus without devices, whose context has no open handles and a platform that
keeps a record of disconnected ones. -/
structure World.FreshBus (w : World κ τ) (b : BusId) : Prop where
  devices : (w.roster (w.contextOf b)).toList = []
  handles : (w.opens (w.contextOf b)).toList = []
  simulated : ∃ hotplug ds, w.platform (w.contextOf b) = .simulated hotplug ds
  /-- No handle is disconnected before it is opened. -/
  flag_lt : ∀ k, w.isDisconnected k = true → k.val < w.nextOpen

/-- A new bus on a new context is fresh. -/
theorem World.freshBus_addBus (w : World κ τ) (settings : ContextSettings) (hotplug : Bool)
    (ds : List Disconnect) (hw : ∀ k, w.isDisconnected k = true → k.val < w.nextOpen) :
    ((w.addContext (.simulated hotplug ds) settings).1.addBus
      (w.addContext (.simulated hotplug ds) settings).2).1.FreshBus ⟨w.nextBus⟩ := by
  refine ⟨?_, ?_, ⟨hotplug, ds, ?_⟩, hw⟩
  all_goals
    simp [contextOf, bus, addBus, addContext, roster, opens, platform, context, Context.create]

namespace World.FreshBus

variable {w : World κ τ} {b : BusId}

/-- Handles keep track of the devices of a fresh bus, as there are none. -/
theorem tracks (hw : w.FreshBus b) :
    (w.holding b (w.contextOf b)).Tracks fun _ => False := by
  refine ⟨?_, ?_, ?_, ?_, ?_, ?_, hw.flag_lt, ?_, ?_⟩
  all_goals simp [holding, hw.devices, hw.handles]

theorem listed (hw : w.FreshBus b) : w.Listed (w.contextOf b) := by
  refine ⟨?_, ?_, hw.simulated⟩
  all_goals simp [hw.handles]

end World.FreshBus

namespace Act

variable {b : BusId} {c : ContextId} {w : World κ τ} {x : Act κ τ α}

theorem Within.returns_onBus (hx : x.Within (Repertoire.OnBus b)) : x.Returns :=
  Within.returns_of_calm (hx.mono fun _ _ _ => Repertoire.OnBus.calm)

theorem Within.keepsTrack (hx : x.Within (Repertoire.OnBus b)) : x.Obeys (KeepsTrack b c) := by
  refine hx.obeys (fun w f => still_remember f w) fun {β host x} hhost hr hop => ?_
  have hret : ∀ inv, (host.react inv).Returns := fun inv => (hhost inv).returns_onBus
  cases hop with
  | plug => exact keepsTrack_plug hr hret
  | unplug => exact keepsTrack_unplug hr hret
  | openDevice => exact keepsTrack_openDevice
  | closeDevice => exact keepsTrack_closeDevice
  | transferFailed => exact keepsTrack_transferFailed hr hret
  | register => exact still_register hr
  | deregister => exact still_deregister
  | teardown => exact still_teardown

theorem Within.tells (hx : x.Within (Repertoire.OnBus b)) : x.Obeys (TellsOf b c) := by
  refine hx.obeys (fun w f => still_remember f w) fun {β host x} _ hr hop => ?_
  cases hop with
  | plug => exact tells_plug hr
  | unplug => exact tells_unplug hr
  | openDevice => exact tells_openDevice
  | closeDevice => exact tells_closeDevice
  | transferFailed => exact tells_transferFailed hr
  | register => exact still_register hr
  | deregister => exact still_deregister
  | teardown => exact still_teardown

/-- **Open handles tell exactly whether their device is gone**, after every run
on a fresh bus. From the moment a handle is closed it is not disconnected any
more: it is so in the end exactly if it was before. -/
theorem Within.disconnected_iff (hx : x.Within (Repertoire.OnBus b)) (hw : w.FreshBus b)
    (hc : w.contextOf b = c) :
    (∃ a, (x.run w).result = some a) ∧
    (∀ h ∈ ((x.run w).world.opens c).toList,
      (x.run w).world.isDisconnected h.id = true ↔
        h.device ∉ ((x.run w).world.roster c).toList) ∧
    ∀ k before after, (x.run w).notices = before ++ .closed c k :: after →
      k ∉ disconnects c after ∧
      ((x.run w).world.isDisconnected k = true ↔
        w.isDisconnected k = true ∨ k ∈ disconnects c before) := by
  subst hc
  obtain ⟨-, htracks, -⟩ := hx.keepsTrack w rfl _ hw.tracks
  obtain ⟨-, htells⟩ := hx.tells w rfl hw.listed
  refine ⟨hx.returns_onBus w, fun h hh => htracks.exact hh, fun k before after hns => ?_⟩
  obtain ⟨-, hafter⟩ := htells.closed k before after hns
  refine ⟨hafter, ?_⟩
  have hcons : disconnects (w.contextOf b) (.closed (w.contextOf b) k :: after) =
      disconnects (w.contextOf b) after := rfl
  rw [htells.flag, hns, disconnects_append, hcons, List.mem_append, or_iff_left hafter]

/-- Callbacks that close the first handle when a device leaves. -/
def closing (b : BusId) : Host Unit Unit where
  react inv :=
    if inv.event = .left then do
      let _ ← closeDevice b ⟨⟨1⟩, inv.device⟩
      return .rearm
    else return .rearm
  order _ ids := ids
  order_perm _ _ := .refl _

/-- A device with two open handles is unplugged, and a callback closes the first
of them before they are disconnected. -/
def unplugOpen (b : BusId) (c : ContextId) : Act Unit Unit Unit := do
  let _ ← register (closing b) c { events := .all, program := some () }
  let _ ← plug (closing b) b { vendor := 1, product := 1 }
  let _ ← openDevice b ⟨1⟩
  let _ ← openDevice b ⟨1⟩
  let _ ← unplug (closing b) b ⟨1⟩

theorem closing_within {b : BusId} : (closing b).Within (Repertoire.OnBus b) := by
  intro inv
  by_cases he : inv.event = .left
  · simp only [closing, if_pos he]
    exact .bind (.op .idle Host.idle_within (.closeDevice _)) fun _ => .pure _
  · simp only [closing, if_neg he]
    exact .pure _

theorem unplugOpen_within {b : BusId} {c : ContextId} :
    (unplugOpen b c).Within (Repertoire.OnBus b) := by
  refine .bind (.op _ closing_within (.register c _)) fun _ => ?_
  refine .bind (.op _ closing_within (.plug _)) fun _ => ?_
  refine .bind (.op .idle Host.idle_within (.openDevice _)) fun _ => ?_
  refine .bind (.op .idle Host.idle_within (.openDevice _)) fun _ => ?_
  exact .bind (.op _ closing_within (.unplug _)) fun _ => .pure _

/-- A world with one bus. -/
def oneBus : World Unit Unit :=
  ((World.addContext { memory := () } (.simulated true []) {}).1.addBus ⟨1⟩).1

theorem oneBus_fresh : oneBus.FreshBus ⟨1⟩ :=
  World.freshBus_addBus { memory := () } {} true [] nofun

/-- The handle that stayed open is disconnected, as its device is gone. -/
theorem disconnected_iff_after_unplug :
    ∃ h, ((unplugOpen ⟨1⟩ ⟨1⟩).run oneBus).world.opens ⟨1⟩ = ⟨[h]⟩ ∧
      h.device ∉ (((unplugOpen ⟨1⟩ ⟨1⟩).run oneBus).world.roster ⟨1⟩).toList ∧
      ((unplugOpen ⟨1⟩ ⟨1⟩).run oneBus).world.isDisconnected h.id = true := by
  have hopens : ((unplugOpen ⟨1⟩ ⟨1⟩).run oneBus).world.opens ⟨1⟩ =
      ⟨[⟨⟨2⟩, ⟨⟨1⟩, 1, 2, ⟨1, 1, 0⟩⟩⟩]⟩ := rfl
  have hroster : ((unplugOpen ⟨1⟩ ⟨1⟩).run oneBus).world.roster ⟨1⟩ = ⟨[]⟩ := rfl
  have hgone : (⟨⟨1⟩, 1, 2, ⟨1, 1, 0⟩⟩ : Device) ∉
      (((unplugOpen ⟨1⟩ ⟨1⟩).run oneBus).world.roster ⟨1⟩).toList := by
    rw [hroster]
    exact List.not_mem_nil
  have hx : (unplugOpen ⟨1⟩ ⟨1⟩).Within (Repertoire.OnBus ⟨1⟩) := unplugOpen_within
  have hc : oneBus.contextOf ⟨1⟩ = ⟨1⟩ := rfl
  obtain ⟨-, hiff, -⟩ := hx.disconnected_iff oneBus_fresh hc
  refine ⟨_, hopens, hgone, (hiff _ ?_).2 hgone⟩
  rw [hopens]
  exact List.mem_singleton_self _

end Act
end DeviceWatch
