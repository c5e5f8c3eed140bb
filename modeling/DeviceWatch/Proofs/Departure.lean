import DeviceWatch.Proofs.Bus
import DeviceWatch.Proofs.Tracking
/-!
# Departures

What the acts on a bus make of the devices and handles of its context. Between
its parts an act may hand over to callbacks, which act on the bus again; by the
time that an act on a bus is over, so are all departures that began under it.
-/

namespace DeviceWatch

variable {κ τ α β : Type}

/-- The devices and open handles of a bus's context. -/
def World.holding (w : World κ τ) (b : BusId) (c : ContextId) : Holding where
  devices := (w.roster c).toList
  handles := (w.opens c).toList
  nextDevice := (w.bus b).nextDevice
  nextOpen := w.nextOpen
  gone k := w.isDisconnected k = true

namespace World

variable {w : World κ τ} {b : BusId} {c : ContextId}

theorem holding_setRoster {r : Roster} :
    (w.setRoster c r).holding b c = { w.holding b c with devices := r.toList } := by
  simp only [holding, opens_setRoster, roster_setRoster, if_pos]
  rfl

theorem holding_setOpens {l : OpenList} :
    (w.setOpens c l).holding b c = { w.holding b c with handles := l.toList } := by
  simp only [holding, roster_setOpens, opens_setOpens, if_pos]
  rfl

theorem holding_withNew {s : DeviceSpec} (hc : w.contextOf b = c)
    (hnew : (Bus.device (w.bus b).nextDevice s).id ∉ (w.roster c).ids) :
    (w.withNew b s).contextOf b = c ∧
    (w.withNew b s).holding b c =
      { w.holding b c with
        devices := (w.holding b c).devices ++ [Bus.device (w.bus b).nextDevice s]
        nextDevice := (w.holding b c).nextDevice + 1 } := by
  subst hc
  have hbus : (w.withNew b s).bus b =
      { w.bus b with nextDevice := (w.bus b).nextDevice + 1 } := Store.get_set_self ..
  refine ⟨by rw [contextOf, hbus]; rfl, ?_⟩
  have hnext : (w.withNew b s).holding b (w.contextOf b) =
      { w.holding b (w.contextOf b) with
        devices := ((w.roster (w.contextOf b)).attach (Bus.device (w.bus b).nextDevice s)).toList
        nextDevice := ((w.withNew b s).bus b).nextDevice } := by
    rw [withNew, holding_setRoster]
    rfl
  rw [hnext, hbus, Roster.attach_of_not_mem hnew]
  rfl

end World

/-- Handles keep track of devices, whatever departures are under way, and what
departed stays away. -/
def KeepsTrack (b : BusId) (c : ContextId) : Law κ τ :=
  fun w _ w' => w.contextOf b = c → ∀ under, (w.holding b c).Tracks under →
    w'.contextOf b = c ∧ (w'.holding b c).Tracks under ∧
      ∀ i, (w.holding b c).Departed i → (w'.holding b c).Departed i

theorem keepsTrack_of_eq {b : BusId} {c : ContextId} {w w' : World κ τ} {ns : List Notice}
    (hbus : w'.buses = w.buses) (h : w'.holding b c = w.holding b c) : KeepsTrack b c w ns w' := by
  intro hc under hw
  have hc' : w'.contextOf b = c := by
    rw [World.contextOf, World.bus, hbus]
    exact hc
  rw [h]
  exact ⟨hc', hw, fun _ => id⟩

theorem Still.holding {b : BusId} {c : ContextId} {w w' : World κ τ} {ns : List Notice}
    (h : Still w ns w') : w'.holding b c = w.holding b c := by
  simp only [World.holding, World.bus, World.isDisconnected, h.roster, h.opens, h.buses,
    h.nextOpen, h.disconnected]

instance {b : BusId} {c : ContextId} : Law.OfBuses (KeepsTrack (κ := κ) (τ := τ) b c) where
  refl _ hc _ hw := ⟨hc, hw, fun _ => id⟩
  trans h₁ h₂ hc under hw := by
    obtain ⟨hc₁, hw₁, hd₁⟩ := h₁ hc under hw
    obtain ⟨hc₂, hw₂, hd₂⟩ := h₂ hc₁ under hw₁
    exact ⟨hc₂, hw₂, fun i hi => hd₂ i (hd₁ i hi)⟩
  still h := keepsTrack_of_eq h.buses h.holding

namespace Act

variable {host : Host κ τ} {b : BusId} {c : ContextId} {d : Device} {i : DeviceId}
variable {w : World κ τ} {h : OpenHandle} {hs : List OpenHandle} {under : DeviceId → Prop}

/-! ## Disconnecting -/

/-- A handle is disconnected, if it was not before; nothing else changes. -/
theorem holding_disconnect :
    ((disconnect c h).run w).world.buses = w.buses ∧
      ((disconnect c h).run w).world.holding b c = (w.holding b c).lose [h] := by
  rw [run_disconnect]
  split
  next hgone => exact ⟨rfl, (Holding.lose_of_gone hgone).symm⟩
  next =>
    refine ⟨rfl, ?_⟩
    simp only [World.holding, World.roster_setPlatform, World.opens_setPlatform, Holding.lose]
    congr 1
    funext k
    simp only [World.isDisconnected_mark, List.mem_singleton, exists_eq_left]
    rw [eq_comm (a := k)]

/-- Handles are disconnected one after the other. -/
theorem run_disconnectAll_cons :
    ((disconnectAll c (h :: hs)).run w).world =
        ((disconnectAll c hs).run ((disconnect c h).run w).world).world ∧
      ((disconnectAll c (h :: hs)).run w).notices =
        ((disconnect c h).run w).notices ++
          ((disconnectAll c hs).run ((disconnect c h).run w).world).notices := by
  obtain ⟨new, hnew⟩ : ∃ new, ((disconnect c h).run w).result = some new := returns_disconnect w
  rw [disconnectAll, run_bind_of_result hnew, run_bind_pure]
  exact ⟨rfl, rfl⟩

theorem holding_disconnectAll :
    ((disconnectAll c hs).run w).world.buses = w.buses ∧
      ((disconnectAll c hs).run w).world.holding b c = (w.holding b c).lose hs := by
  induction hs generalizing w with
  | nil => exact ⟨rfl, Holding.lose_nil.symm⟩
  | cons h rest ih =>
    obtain ⟨hworld, -⟩ : ((disconnectAll c (h :: rest)).run w).world = _ ∧ _ :=
      run_disconnectAll_cons
    obtain ⟨hbus, hhold⟩ := @ih ((disconnect c h).run w).world
    obtain ⟨hbus', hhold'⟩ : _ ∧ ((disconnect c h).run w).world.holding b c = _ :=
      holding_disconnect
    rw [hworld, hbus, hbus', hhold, hhold', Holding.lose_lose]
    exact ⟨rfl, rfl⟩

/-! ## Keeping track -/

theorem keepsTrack_openDevice : (openDevice b i : Act κ τ _).Obeys (KeepsTrack b c) := by
  intro w hc under hw
  rw [run_openDevice, hc]
  rcases hget : (w.roster c).get? i with _ | d
  · exact ⟨hc, hw, fun _ => id⟩
  · simp only
    have hhold : ((openHandle c d).run w).world.holding b c =
        { w.holding b c with
          handles := (w.holding b c).handles ++ [⟨⟨(w.holding b c).nextOpen⟩, d⟩]
          nextOpen := (w.holding b c).nextOpen + 1 } := by
      rw [run_openHandle, World.holding_setOpens]
      rfl
    refine ⟨hc, ?_, fun i hi => ?_⟩
    · rw [hhold]
      exact hw.open (Roster.mem_of_get? hget)
    · rw [hhold]
      exact ⟨hi.lt, hi.absent⟩

theorem keepsTrack_closeDevice : (closeDevice b h : Act κ τ _).Obeys (KeepsTrack b c) := by
  intro w hc under hw
  rw [run_closeDevice, hc, run_closeHandle]
  rcases hclose : (w.opens c).close? h.id with _ | l
  · exact ⟨hc, hw, fun _ => id⟩
  · obtain ⟨o, -, hperm⟩ := OpenList.close?_eq_some hclose
    refine ⟨hc, ?_, fun i hi => ?_⟩
    · simp only [World.holding_setOpens]
      exact hw.close hperm
    · simp only [World.holding_setOpens]
      exact ⟨hi.lt, hi.absent⟩

/-- A pass over an arrival keeps track, if its callbacks do. -/
theorem keepsTrack_arrival (hr : ∀ inv, (host.react inv).Obeys (KeepsTrack b c))
    (hret : ∀ inv, (host.react inv).Returns) :
    (notify host c d .arrived).Obeys (KeepsTrack b c) := by
  intro w
  obtain ⟨vs, hs, -, hrun⟩ := run_notify (c := c) (d := d) (e := .arrived) (w := w) hret
  rw [hrun]
  exact still_visitAll hr w

/-- **A pass over a departure ends it**, if the callbacks keep track: the device
stays away while they run, and then the handles on it are disconnected. -/
theorem ends_departure (hr : ∀ inv, (host.react inv).Obeys (KeepsTrack b c))
    (hret : ∀ inv, (host.react inv).Returns) (hc : w.contextOf b = c)
    (hw : (w.holding b c).Tracks fun j => j = d.id ∨ under j)
    (hd : (w.holding b c).Departed d.id) :
    ((notify host c d .left).run w).world.contextOf b = c ∧
      (((notify host c d .left).run w).world.holding b c).Tracks under ∧
      ∀ i, (w.holding b c).Departed i →
        (((notify host c d .left).run w).world.holding b c).Departed i := by
  obtain ⟨vs, hs, -, hrun⟩ := run_notify (c := c) (d := d) (e := .left) (w := w) hret
  have hvisits : (visitAll host c d .left (host.order w (w.registry c).ids)).Obeys
    (KeepsTrack b c) := still_visitAll hr
  have hv := hvisits w hc _ hw
  generalize ((visitAll host c d .left (host.order w (w.registry c).ids)).run w).world = v at hrun hv
  -- The device is still away when the callbacks are done, whatever they did.
  obtain ⟨hc', hw', hd'⟩ := hv
  obtain ⟨hbus, hhold⟩ : ((disconnectAll c ((v.opens c).on d.id)).run v).world.buses = _ ∧
    ((disconnectAll c ((v.opens c).on d.id)).run v).world.holding b c = _ := holding_disconnectAll
  have hworld : ((notify host c d .left).run w).world =
      ((disconnectAll c ((v.opens c).on d.id)).run v).world := by
    rw [hrun]
    rfl
  rw [hworld, World.contextOf, World.bus, hbus, hhold]
  refine ⟨hc', hw'.disconnect (hd' _ hd).absent fun h => OpenList.mem_on, fun i hi => ?_⟩
  exact ⟨(hd' i hi).lt, (hd' i hi).absent⟩

theorem keepsTrack_plug (hr : ∀ inv, (host.react inv).Obeys (KeepsTrack b c))
    (hret : ∀ inv, (host.react inv).Returns) {s : DeviceSpec} :
    (plug host b s).Obeys (KeepsTrack b c) := by
  intro w hc under hw
  -- Devices that are attached have lower numbers.
  have hnew : (Bus.device (w.bus b).nextDevice s).id ∉ (w.roster c).ids := by
    intro hmem
    obtain ⟨x, hx, heq⟩ := List.mem_map.1 hmem
    have hlt := hw.attached_lt x hx
    rw [heq] at hlt
    exact Nat.lt_irrefl _ hlt
  obtain ⟨hc', hhold⟩ := World.holding_withNew hc hnew
  have hattach : ((w.withNew b s).holding b c).Tracks under := by
    rw [hhold]
    exact hw.attach rfl
  have hdeparted : ∀ i, (w.holding b c).Departed i → ((w.withNew b s).holding b c).Departed i := by
    intro i hi
    rw [hhold]
    exact hi.attach rfl
  rw [run_plug, hc]
  obtain ⟨hc₂, hw₂, hd₂⟩ := keepsTrack_arrival hr hret _ hc' under hattach
  exact ⟨hc₂, hw₂, fun i hi => hd₂ i (hdeparted i hi)⟩

/-- A detachment and the pass over the departure that it begins. -/
theorem keepsTrack_detached (hr : ∀ inv, (host.react inv).Obeys (KeepsTrack b c))
    (hret : ∀ inv, (host.react inv).Returns) {x : Device} {roster : Roster}
    (hdetach : (w.roster c).detach? d.id = some (x, roster)) (hc : w.contextOf b = c)
    (hw : (w.holding b c).Tracks under) :
    ((notify host c d .left).run (w.setRoster c roster)).world.contextOf b = c ∧
      (((notify host c d .left).run (w.setRoster c roster)).world.holding b c).Tracks under ∧
      ∀ i, (w.holding b c).Departed i →
        (((notify host c d .left).run (w.setRoster c roster)).world.holding b c).Departed i := by
  -- The detachment puts the departure under way, and the pass ends it.
  obtain ⟨hid, hperm⟩ := Roster.detach?_eq_some hdetach
  have htracks : ((w.setRoster c roster).holding b c).Tracks fun j => j = d.id ∨ under j := by
    rw [World.holding_setRoster, ← hid]
    exact hw.detach hperm
  have hdeparted : ((w.setRoster c roster).holding b c).Departed d.id := by
    rw [World.holding_setRoster, ← hid]
    exact hw.departed hperm
  have hctx : (w.setRoster c roster).contextOf b = c := hc
  obtain ⟨hc', hw', hd'⟩ := ends_departure hr hret hctx htracks hdeparted
  refine ⟨hc', hw', fun i hi => hd' i ?_⟩
  rw [World.holding_setRoster]
  exact hi.detach hperm

theorem keepsTrack_unplug (hr : ∀ inv, (host.react inv).Obeys (KeepsTrack b c))
    (hret : ∀ inv, (host.react inv).Returns) : (unplug host b i).Obeys (KeepsTrack b c) := by
  intro w hc under hw
  rw [run_unplug, hc]
  rcases hdetach : (w.roster c).detach? i with _ | ⟨d, roster⟩
  · exact ⟨hc, hw, fun _ => id⟩
  · obtain ⟨rfl, -⟩ := Roster.detach?_eq_some hdetach
    exact keepsTrack_detached hr hret hdetach hc hw

theorem keepsTrack_transferFailed (hr : ∀ inv, (host.react inv).Obeys (KeepsTrack b c))
    (hret : ∀ inv, (host.react inv).Returns) :
    (transferFailed host b h).Obeys (KeepsTrack b c) := by
  intro w hc under hw
  rw [run_transferFailed, hc]
  rcases hdetach : (w.roster c).detach? h.device.id with _ | ⟨d, roster⟩
  · exact ⟨hc, hw, fun _ => id⟩
  · exact keepsTrack_detached hr hret hdetach hc hw

end Act
end DeviceWatch
