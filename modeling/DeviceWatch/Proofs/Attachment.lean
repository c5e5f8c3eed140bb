import DeviceWatch.Proofs.Bus
import DeviceWatch.Proofs.Repertoire
import DeviceWatch.Proofs.Roster
import DeviceWatch.Proofs.Still
/-!
# Buses that callbacks leave alone

Where callbacks neither attach nor detach devices, an act on a bus changes the
bus's devices before its pass begins, and the pass leaves them as they are then.
So what the act makes of the devices does not depend on who listens: a device
plugged in comes last under the next number, one unplugged is off the roster.
-/

namespace DeviceWatch

variable {κ τ : Type}

/-- The devices attached to a bus's context. -/
def World.devices (w : World κ τ) (b : BusId) : Roster :=
  w.roster (w.contextOf b)

/-- **The devices of a bus stay what they are**, and so does the number of the next
one. -/
structure SameDevices (b : BusId) (w : World κ τ) (ns : List Notice) (w' : World κ τ) : Prop where
  bus : w'.bus b = w.bus b
  devices : w'.devices b = w.devices b

/-- A bus that has attached a new device goes on to the next number. -/
theorem World.bus_withNew {w : World κ τ} {b : BusId} {s : DeviceSpec} :
    (w.withNew b s).bus b = { w.bus b with nextDevice := (w.bus b).nextDevice + 1 } :=
  Store.get_set_self ..

theorem World.bus_withNew_of_ne {w : World κ τ} {b b' : BusId} {s : DeviceSpec} (h : b' ≠ b) :
    (w.withNew b s).bus b' = w.bus b' := by
  refine Store.get_set_of_ne _ (fun heq => h ?_) _
  cases b
  cases b'
  exact congrArg BusId.mk heq

/-- Every bus stays on its context. -/
theorem World.contextOf_withNew {w : World κ τ} {b b' : BusId} {s : DeviceSpec} :
    (w.withNew b s).contextOf b' = w.contextOf b' := by
  by_cases h : b' = b
  · rw [h, contextOf, bus_withNew]
    rfl
  · rw [contextOf, bus_withNew_of_ne h]
    rfl

/-- The new device is among the bus's devices. -/
theorem World.devices_withNew {w : World κ τ} {b : BusId} {s : DeviceSpec} :
    (w.withNew b s).devices b = (w.devices b).attach (Bus.device (w.bus b).nextDevice s) := by
  rw [devices, contextOf_withNew, withNew, roster_setRoster, if_pos rfl]
  rfl

theorem World.roster_withNew {w : World κ τ} {b : BusId} {c : ContextId} {s : DeviceSpec}
    (hb : w.contextOf b = c) :
    (w.withNew b s).roster c = (w.roster c).attach (Bus.device (w.bus b).nextDevice s) := by
  obtain rfl := hb
  have hdevices : (w.withNew b s).devices b = _ := devices_withNew
  rw [devices, contextOf_withNew] at hdevices
  exact hdevices

/-- The bus's devices are the roster that its context was given. -/
theorem World.devices_setRoster {w : World κ τ} {b : BusId} {r : Roster} :
    (w.setRoster (w.contextOf b) r).devices b = r :=
  World.roster_setRoster.trans (if_pos rfl)

namespace SameDevices

variable {b : BusId} {w w' : World κ τ} {ns : List Notice}

theorem of_roster (hbuses : w'.buses = w.buses) (hroster : ∀ c, w'.roster c = w.roster c) :
    SameDevices b w ns w' where
  bus := by rw [World.bus, World.bus, hbuses]
  devices := by rw [World.devices, World.contextOf, World.bus, hbuses, hroster]; rfl

end SameDevices

instance {b : BusId} : Law.OfBuses (SameDevices (κ := κ) (τ := τ) b) where
  refl _ := ⟨rfl, rfl⟩
  trans h₁ h₂ := ⟨h₂.bus.trans h₁.bus, h₂.devices.trans h₁.devices⟩
  still h := .of_roster h.buses h.roster

namespace Act

variable {host : Host κ τ} {b : BusId} {c : ContextId} {d : Device} {e : Event} {h : OpenHandle}
variable {i : DeviceId} {s : DeviceSpec} {w : World κ τ}

/-! ## Acts on handles -/

theorem sameDevices_openHandle : (openHandle c d : Act κ τ OpenHandle).Obeys (SameDevices b) :=
  fun _ => .of_roster rfl fun _ => World.roster_setOpens

theorem sameDevices_closeHandle : (closeHandle c h : Act κ τ Bool).Obeys (SameDevices b) :=
  obeys_closeHandle fun _ _ _ => .of_roster rfl fun _ => World.roster_setOpens

theorem sameDevices_disconnect : (disconnect c h : Act κ τ Bool).Obeys (SameDevices b) :=
  obeys_disconnect fun _ _ => .of_roster rfl fun _ => World.roster_setPlatform

theorem sameDevices_openDevice : (openDevice b i : Act κ τ _).Obeys (SameDevices b) :=
  closed_obeys.openDevice fun _ _ => sameDevices_openHandle

/-- A handle is opened on an attached device. -/
theorem openDevice_answer (hok : ((openDevice b i).run w).result = some (.ok h)) :
    (w.devices b).get? i = some h.device := by
  rw [run_openDevice] at hok
  rcases hget : (w.roster (w.contextOf b)).get? i with _ | d
  · rw [hget] at hok
    cases hok
  · rw [hget] at hok
    cases hok
    exact hget

theorem sameDevices_closeDevice : (closeDevice b h : Act κ τ Bool).Obeys (SameDevices b) :=
  closed_obeys.closeDevice fun _ => sameDevices_closeHandle

/-! ## Acts on devices -/

section Callbacks

variable (hr : ∀ inv, (host.react inv).Obeys (SameDevices b))
include hr

theorem sameDevices_notify : (notify host c d e).Obeys (SameDevices b) :=
  still_notify hr (closed_obeys.disconnectOn fun _ => sameDevices_disconnect)

/-- A device plugged in comes last, under the next number. -/
theorem plug_attaches :
    ((plug host b s).run w).world.bus b =
        { w.bus b with nextDevice := (w.bus b).nextDevice + 1 } ∧
      ((plug host b s).run w).world.devices b =
        (w.devices b).attach (Bus.device (w.bus b).nextDevice s) ∧
      ∀ d tally, ((plug host b s).run w).result = some (d, tally) →
        d = Bus.device (w.bus b).nextDevice s := by
  rw [run_plug]
  have hpass : (notify host (w.contextOf b) (Bus.device (w.bus b).nextDevice s) .arrived).Obeys
    (SameDevices b) := sameDevices_notify hr
  obtain ⟨hbus, hdevices⟩ := hpass (w.withNew b s)
  refine ⟨hbus.trans World.bus_withNew, hdevices.trans World.devices_withNew,
    fun d tally hresult => ?_⟩
  obtain ⟨t, -, heq⟩ := Option.map_eq_some_iff.1 hresult
  exact (Prod.mk.inj heq).1.symm

/-- A device unplugged is off the roster. -/
theorem unplug_detaches {rest : Roster} (hd : (w.devices b).detach? i = some (d, rest)) :
    ((unplug host b i).run w).world.bus b = w.bus b ∧
      ((unplug host b i).run w).world.devices b = rest ∧
      ∀ a, ((unplug host b i).run w).result = some a → ∃ tally, a = .ok (d, tally) := by
  have hpass : (notify host (w.contextOf b) d .left).Obeys (SameDevices b) := sameDevices_notify hr
  obtain ⟨hbus, hdevices⟩ := hpass (w.setRoster (w.contextOf b) rest)
  rw [run_unplug, show (w.roster (w.contextOf b)).detach? i = _ from hd]
  refine ⟨hbus, hdevices.trans World.devices_setRoster, fun a hresult => ?_⟩
  obtain ⟨tally, -, heq⟩ := Option.map_eq_some_iff.1 hresult
  exact ⟨tally, heq.symm⟩

/-- So is the device of a handle on which a transfer failed. -/
theorem transferFailed_detaches {rest : Roster}
    (hd : (w.devices b).detach? h.device.id = some (d, rest)) :
    ((transferFailed host b h).run w).world.bus b = w.bus b ∧
      ((transferFailed host b h).run w).world.devices b = rest := by
  have hpass : (notify host (w.contextOf b) h.device .left).Obeys (SameDevices b) :=
    sameDevices_notify hr
  obtain ⟨hbus, hdevices⟩ := hpass (w.setRoster (w.contextOf b) rest)
  rw [run_transferFailed, show (w.roster (w.contextOf b)).detach? h.device.id = _ from hd]
  exact ⟨hbus, hdevices.trans World.devices_setRoster⟩

end Callbacks

/-- What is not there cannot be unplugged. -/
theorem run_unplug_of_none (hd : (w.devices b).detach? i = none) :
    (unplug host b i).run w = { result := some (.error (.unknownDevice i)), world := w } := by
  rw [run_unplug, show (w.roster (w.contextOf b)).detach? i = none from hd]

/-- A transfer that fails on a device that has left changes nothing. -/
theorem run_transferFailed_of_none (hd : (w.devices b).detach? h.device.id = none) :
    (transferFailed host b h).run w = { result := some {}, world := w } := by
  rw [run_transferFailed, show (w.roster (w.contextOf b)).detach? h.device.id = none from hd]

end Act
end DeviceWatch
