import DeviceWatch.Proofs.World
/-!
# Acts on a bus as a whole

An act on a bus changes the devices or the open handles of the bus's context
first, and hands over to a pass in the world that this leaves, if at all.
-/

namespace DeviceWatch

variable {κ τ : Type}

/-- The world in which a bus has attached a new device. -/
def World.withNew (w : World κ τ) (b : BusId) (s : DeviceSpec) : World κ τ :=
  World.setRoster
    { w with buses := w.buses.set b.val { w.bus b with nextDevice := (w.bus b).nextDevice + 1 } }
    (w.contextOf b) ((w.roster (w.contextOf b)).attach (Bus.device (w.bus b).nextDevice s))

namespace Act

variable (host : Host κ τ) (w : World κ τ) (b : BusId)

theorem run_plug (s : DeviceSpec) :
    (plug host b s).run w =
      let d := Bus.device (w.bus b).nextDevice s
      let pass := (notify host (w.contextOf b) d .arrived).run (w.withNew b s)
      { result := pass.result.map fun tally => (d, tally)
        world := pass.world
        notices := .attached (w.contextOf b) d :: .plugged d s.label :: pass.notices } := by
  rw [plug, run_bind, run_get, Effect.andThen_some, run_bind, run_modify, Effect.andThen_some,
    run_bind, run_attach, Effect.andThen_some, run_bind, run_note, Effect.andThen_some,
    run_bind_pure]
  rfl

theorem run_unplug (i : DeviceId) :
    (unplug host b i).run w =
      match (w.roster (w.contextOf b)).detach? i with
      | none => { result := some (.error (.unknownDevice i)), world := w }
      | some (d, roster) =>
        let pass := (notify host (w.contextOf b) d .left).run (w.setRoster (w.contextOf b) roster)
        { result := pass.result.map fun tally => .ok (d, tally)
          world := pass.world
          notices := .detached (w.contextOf b) d :: .unplugged d :: pass.notices } := by
  simp only [unplug, run_bind, run_get, Effect.andThen_some, run_detach]
  rcases (w.roster (w.contextOf b)).detach? i with _ | ⟨d, roster⟩
  · rfl
  · rw [Effect.andThen_some, run_bind, run_note, Effect.andThen_some, run_bind_pure]
    rfl

theorem run_transferFailed (h : OpenHandle) :
    (transferFailed host b h).run w =
      match (w.roster (w.contextOf b)).detach? h.device.id with
      | none => { result := some {}, world := w }
      | some (d, roster) =>
        let pass :=
          (notify host (w.contextOf b) h.device .left).run (w.setRoster (w.contextOf b) roster)
        { pass with notices := .detached (w.contextOf b) d :: pass.notices } := by
  simp only [transferFailed, run_bind, run_get, Effect.andThen_some, run_detach]
  rcases (w.roster (w.contextOf b)).detach? h.device.id with _ | ⟨d, roster⟩ <;> rfl

theorem run_openDevice (i : DeviceId) :
    (openDevice b i : Act κ τ _).run w =
      match (w.roster (w.contextOf b)).get? i with
      | none => { result := some (.error (.unknownDevice i)), world := w }
      | some d =>
        let opened := (openHandle (w.contextOf b) d).run w
        { result := opened.result.map .ok, world := opened.world, notices := opened.notices } := by
  simp only [openDevice, run_bind, run_get, run_context, Effect.andThen_some, World.roster]
  rcases (w.context (w.contextOf b)).roster.get? i with _ | d <;> rfl

theorem run_closeDevice (h : OpenHandle) :
    (closeDevice b h).run w = (closeHandle (w.contextOf b) h).run w :=
  rfl

end Act
end DeviceWatch
