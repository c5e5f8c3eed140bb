import DeviceWatch.Proofs.Recounting
/-!
# Failed transfers

An unplugging finds the device on the roster; a failed transfer has it from the handle,
which may be of a device long gone. On a bus that nothing else interferes with the two
are one: no identity is given twice, so a device under the identity of a handle's
device is the handle's device. Whoever reports a departure first, the device leaves
once, and it arrived once.
-/

namespace DeviceWatch

variable {κ τ α : Type}

/-- **A failed transfer on the handle is an unplugging of its device**, if the device is
there; if not, it is nothing. -/
structure FailsAsUnplugged (host : Host κ τ) (b : BusId) (c : ContextId) (h : OpenHandle)
    (w : World κ τ) : Prop where
  /-- Both take the device off and begin the same pass over its departure. The unplugging
  notes that it was one, and answers with the device besides the tally. -/
  there : h.device ∈ (w.roster c).toList →
    ∃ rest pass, (w.roster c).detach? h.device.id = some (h.device, rest) ∧
      pass = (Act.notify host c h.device .left).run (w.setRoster c rest) ∧
      (Act.unplug host b h.device.id).run w =
        { result := pass.result.map fun tally => .ok (h.device, tally)
          world := pass.world
          notices := .detached c h.device :: .unplugged h.device :: pass.notices } ∧
      (Act.transferFailed host b h).run w =
        { pass with notices := .detached c h.device :: pass.notices } ∧
      ((∀ inv, (host.react inv).Returns) → ∃ tally, pass.result = some tally)
  /-- There is nothing to take off, and nobody is told. -/
  away : h.device ∉ (w.roster c).toList →
    (Act.transferFailed host b h).run w = { result := some {}, world := w }

namespace World.Past

variable {w : World κ τ} {b : BusId} {c : ContextId} {first : Nat} {ns : List Notice}
variable {h : OpenHandle} {host : Host κ τ}

/-- Under the identity of a handle's device there is no other device. -/
theorem eq_device {d : Device} (hw : w.Past b c first ns) (hh : h ∈ opened c ns)
    (hd : d ∈ (w.roster c).toList) (hid : d.id = h.device.id) : d = h.device := by
  rw [hw.roster] at hd
  exact hw.chronicle.eq_opened hh hd hid

theorem failsAsUnplugged (hw : w.Past b c first ns) (hh : h ∈ opened c ns) :
    FailsAsUnplugged host b c h w where
  there hthere := by
    obtain rfl := hw.context
    rcases hdetach : (w.roster (w.contextOf b)).detach? h.device.id with _ | ⟨d, rest⟩
    · exact absurd (List.mem_map_of_mem hthere) (Roster.detach?_eq_none_iff.1 hdetach)
    obtain ⟨hid, hperm⟩ := Roster.detach?_eq_some hdetach
    obtain rfl : d = h.device := hw.eq_device hh (hperm.mem_iff.2 List.mem_cons_self) hid
    refine ⟨rest, _, rfl, rfl, ?unplug, ?fail, fun hr => ?returns⟩
    case unplug => rw [Act.run_unplug, hdetach]
    case fail => rw [Act.run_transferFailed, hdetach]
    case returns => exact Act.parts_returns.calm hr (.notify _ _ _) _
  away haway := by
    obtain rfl := hw.context
    refine Act.run_transferFailed_of_none (Roster.detach?_eq_none_iff.2 fun hid => haway ?_)
    obtain ⟨d, hd, heq⟩ := List.mem_map.1 hid
    rwa [← hw.eq_device hh hd heq]

end World.Past

namespace Act

/-- **A failed transfer on any handle ever opened is an unplugging of its device, or
nothing**, after every run on a fresh bus and wherever it is cut short. Over the run every
device that was plugged in had one pass over its arrival, and had one over its departure
unless it is still there; no other identity had any. -/
theorem Within.fails_as_unplugged {b : BusId} {c : ContextId} {w : World κ τ} {x : Act κ τ α}
    (hx : x.Within (Repertoire.Cut (Repertoire.OnBus b))) (hw : w.FreshBus b)
    (hc : w.contextOf b = c) :
    (∀ host, ∀ h ∈ opened c (x.run w).notices, FailsAsUnplugged host b c h (x.run w).world) ∧
    ∀ i : DeviceId,
      (announced c (x.run w).notices).count (i, .arrived) =
        (if (w.bus b).nextDevice ≤ i.val ∧ i.val < ((x.run w).world.bus b).nextDevice then 1
          else 0) ∧
      (announced c (x.run w).notices).count (i, .left) +
          (if i ∈ ((x.run w).world.roster c).ids then 1 else 0) =
        (announced c (x.run w).notices).count (i, .arrived) := by
  have hpast := hx.past hw hc
  refine ⟨fun host h hh => hpast.failsAsUnplugged hh, fun i => ?_⟩
  rw [hpast.announced, hpast.roster]
  exact ⟨hpast.arrived i, hpast.chronicle.balance i⟩

/-- Callbacks that report a failed transfer on the second handle when a device leaves. -/
def reporting (b : BusId) : Host Unit Unit where
  react inv :=
    if inv.event = .left then do
      let _ ← transferFailed .idle b ⟨⟨2⟩, inv.device⟩
      return .rearm
    else return .rearm
  order _ ids := ids
  order_perm _ _ := .refl _

/-- A transfer fails on one of two handles of a device, and under the pass over its
departure on the other. Then a second device is plugged in and opened. -/
def failTwice (b : BusId) (c : ContextId) : Act Unit Unit Unit := do
  let _ ← register (reporting b) c { events := .all, program := some () }
  let (d, _) ← plug (reporting b) b { vendor := 1, product := 1 }
  let _ ← openDevice b d.id
  let _ ← openDevice b d.id
  let _ ← transferFailed (reporting b) b ⟨⟨1⟩, d⟩
  let (d', _) ← plug (reporting b) b { vendor := 1, product := 1 }
  let _ ← openDevice b d'.id

theorem reporting_within {b : BusId} : (reporting b).Within (Repertoire.OnBus b) := by
  intro inv
  by_cases he : inv.event = .left
  · simp only [reporting, if_pos he]
    exact .bind (.op .idle Host.idle_within (.transferFailed _)) fun _ => .pure _
  · simp only [reporting, if_neg he]
    exact .pure _

theorem failTwice_within {b : BusId} {c : ContextId} :
    (failTwice b c).Within (Repertoire.OnBus b) := by
  refine .bind (.op _ reporting_within (.register c _)) fun _ => ?_
  refine .bind (.op _ reporting_within (.plug _)) fun (d, _) => ?_
  refine .bind (.op .idle Host.idle_within (.openDevice _)) fun _ => ?_
  refine .bind (.op .idle Host.idle_within (.openDevice _)) fun _ => ?_
  refine .bind (.op _ reporting_within (.transferFailed _)) fun _ => ?_
  refine .bind (.op _ reporting_within (.plug _)) fun (d', _) => ?_
  exact .bind (.op .idle Host.idle_within (.openDevice _)) fun _ => .pure _

/-- The world that this leaves. -/
def failedTwice : World Unit Unit :=
  ((failTwice ⟨1⟩ ⟨1⟩).run oneBus).world

/-- The first device left once, though two failed transfers were reported. A failed
transfer on its handle is nothing any more, and one on the handle of the second device
is an unplugging of that. -/
theorem fails_as_unplugged_after_failTwice :
    (transferFailed (reporting ⟨1⟩) ⟨1⟩ ⟨⟨1⟩, Bus.device 1 { vendor := 1, product := 1 }⟩).run
        failedTwice = { result := some {}, world := failedTwice } ∧
      ((transferFailed (reporting ⟨1⟩) ⟨1⟩ ⟨⟨3⟩, Bus.device 2 { vendor := 1, product := 1 }⟩).run
        failedTwice).world = ((unplug (reporting ⟨1⟩) ⟨1⟩ ⟨2⟩).run failedTwice).world ∧
      (announced ⟨1⟩ ((failTwice ⟨1⟩ ⟨1⟩).run oneBus).notices).count (⟨1⟩, .left) = 1 := by
  have hx : (failTwice ⟨1⟩ ⟨1⟩).Within (Repertoire.Cut (Repertoire.OnBus ⟨1⟩)) :=
    failTwice_within.mono fun _ _ _ => .op
  have hc : oneBus.contextOf ⟨1⟩ = ⟨1⟩ := rfl
  have hopened : opened ⟨1⟩ ((failTwice ⟨1⟩ ⟨1⟩).run oneBus).notices =
      [⟨⟨1⟩, Bus.device 1 { vendor := 1, product := 1 }⟩,
        ⟨⟨2⟩, Bus.device 1 { vendor := 1, product := 1 }⟩,
        ⟨⟨3⟩, Bus.device 2 { vendor := 1, product := 1 }⟩] := rfl
  have hroster : failedTwice.roster ⟨1⟩ = ⟨[Bus.device 2 { vendor := 1, product := 1 }]⟩ := rfl
  have haway : Bus.device 1 { vendor := 1, product := 1 } ∉ (failedTwice.roster ⟨1⟩).toList := by
    rw [hroster]
    decide
  have hthere : Bus.device 2 { vendor := 1, product := 1 } ∈ (failedTwice.roster ⟨1⟩).toList := by
    rw [hroster]
    exact List.mem_singleton_self _
  obtain ⟨hfails, hcounts⟩ := hx.fails_as_unplugged oneBus_fresh hc
  rw [hopened] at hfails
  refine ⟨?first, ?second, ?once⟩
  case first => exact (hfails (reporting ⟨1⟩) _ List.mem_cons_self).away haway
  case second =>
    have hthird := hfails (reporting ⟨1⟩) ⟨⟨3⟩, Bus.device 2 { vendor := 1, product := 1 }⟩
      (by simp)
    obtain ⟨rest, pass, -, -, hunplug, hfailed, -⟩ := hthird.there hthere
    exact (congrArg Effect.world hfailed).trans (congrArg Effect.world hunplug).symm
  case once =>
    obtain ⟨harrived, hleft⟩ := hcounts ⟨1⟩
    rw [harrived] at hleft
    exact hleft

end Act
end DeviceWatch
