import DeviceWatch.Proofs.Listening
import DeviceWatch.Proofs.Replay
/-!
# Rehearsals

What the steps of a scenario do to names, handles and devices depends on nobody who
listens, as long as those who listen do no more than that. A rehearsal goes through the
steps without a world and tells whether they succeed, and which devices come and go. A
replay before one record goes as rehearsed: it fails where the rehearsal does, and its
report counts the changes that the record listens for.
-/

namespace DeviceWatch

variable {κ τ α : Type}

/-- What the steps of a scenario go by. -/
structure Rehearsal where
  /-- The names and the handles; nothing is reported. -/
  replay : Replay := {}
  /-- The devices that are attached. -/
  devices : Roster := {}
  /-- The number of the next device. -/
  nextDevice : Nat := 1
  /-- The number of the next handle. -/
  nextOpen : Nat := 1

namespace Rehearsal

/-- Takes a step, if it succeeds, and tells which device comes or goes: one comes with a
plug step, one goes with an unplug step, and one goes with a failed transfer unless it has
gone before. -/
def take? (s : Rehearsal) : Step → Option (Rehearsal × List (Device × Event))
  | .plug name vendor product deviceClass =>
    match s.replay.device? name with
    | some _ => none
    | none =>
      let d := Bus.device s.nextDevice { label := name, vendor, product, deviceClass }
      some ({ s with
          replay := s.replay.addName name d.id
          devices := s.devices.attach d
          nextDevice := s.nextDevice + 1 }, [(d, .arrived)])
  | .unplug name => do
    let id ← s.replay.device? name
    let (d, devices) ← s.devices.detach? id
    return ({ s with replay := s.replay.dropName name, devices }, [(d, .left)])
  | .openHandle name => do
    let id ← s.replay.device? name
    let d ← s.devices.get? id
    return ({ s with
        replay := s.replay.addHandle name ⟨⟨s.nextOpen⟩, d⟩
        nextOpen := s.nextOpen + 1 }, [])
  | .closeHandle name => do
    let (_, replay) ← s.replay.takeHandle? name
    return ({ s with replay }, [])
  | .transferFailed name => do
    let (h, replay) ← s.replay.takeHandle? name
    match s.devices.detach? h.device.id with
    | none => return ({ s with replay := replay.dropName name }, [])
    | some (_, devices) =>
      return ({ s with replay := replay.dropName name, devices }, [(h.device, .left)])
  | .sleep _ => some (s, [])

/-- **The devices that come and go** with the steps, if all of them succeed. -/
def changes? (s : Rehearsal) : List Step → Option (List (Device × Event))
  | [] => some []
  | step :: rest => do
    let (next, changes) ← s.take? step
    return changes ++ (← next.changes? rest)

end Rehearsal

/-- The replay without its report. -/
def Replay.bare (r : Replay) : Replay :=
  { r with report := {} }

/-- What a replay goes by in a world. -/
def World.rehearsal (w : World κ τ) (b : BusId) (r : Replay) : Rehearsal where
  replay := r.bare
  devices := w.devices b
  nextDevice := (w.bus b).nextDevice
  nextOpen := w.nextOpen

/-- **What a report gains** by so many steps, with changes that passes were made over
before a sole record. -/
structure ReplayReport.Gains (x : Record κ) (c : ContextId) (n : Nat)
    (changes : List (Device × Event)) (r r' : ReplayReport) (ns : List Notice) : Prop where
  steps : r'.steps = r.steps + n
  heard : heard ns = changes.filter fun (d, e) => x.hears d e
  invoked : r'.invoked = r.invoked + (DeviceWatch.heard ns).length
  disconnected : r'.disconnected = r.disconnected + tallied c ns

namespace ReplayReport.Gains

variable {x : Record κ} {c : ContextId} {n m : Nat} {changes later : List (Device × Event)}
variable {r r₁ r₂ : ReplayReport} {ns ms : List Notice} {t : Tally}

theorem refl : Gains x c 0 [] r r [] :=
  ⟨rfl, rfl, rfl, rfl⟩

theorem trans (h₁ : Gains x c n changes r r₁ ns) (h₂ : Gains x c m later r₁ r₂ ms) :
    Gains x c (n + m) (changes ++ later) r r₂ (ns ++ ms) where
  steps := by rw [h₂.steps, h₁.steps, Nat.add_assoc]
  heard := by rw [heard_append, h₁.heard, h₂.heard, List.filter_append]
  invoked := by
    rw [h₂.invoked, h₁.invoked, heard_append, List.length_append, Nat.add_assoc]
  disconnected := by rw [h₂.disconnected, h₁.disconnected, tallied_append, Nat.add_assoc]

/-- A step that led to a pass. -/
theorem of_told (h : Told x c changes t ns) : Gains x c 1 changes r (r.record t) ns where
  steps := rfl
  heard := h.heard
  invoked := congrArg _ h.invoked
  disconnected := congrArg _ h.disconnected

/-- A step that led to none. -/
theorem of_quiet (h : ∀ n ∈ ns, n.counts = false) : Gains x c 1 [] r r.count ns where
  steps := rfl
  heard := heard_of_quiet h
  invoked := by
    rw [heard_of_quiet h]
    rfl
  disconnected := by
    rw [tallied_of_quiet h]
    rfl

end ReplayReport.Gains

namespace Replay

variable {host : Host κ τ} {b : BusId} {c : ContextId} {w w' : World κ τ} {x : Record κ}
variable {r : Replay}

theorem takeHandle?_bare (r : Replay) (name : String) :
    r.bare.takeHandle? name = (r.takeHandle? name).map fun (h, rest) => (h, rest.bare) := by
  rcases hfind : r.handles.find? (fun entry => entry.1 == name) with _ | entry <;>
    simp [takeHandle?, bare, hfind]

theorem rehearsal_eq {bus : Bus} {devices : Roster} {n : Nat} (hbus : w'.bus b = bus)
    (hdevices : w'.devices b = devices) (hnext : w'.nextOpen = n) :
    w'.rehearsal b r = ⟨r.bare, devices, bus.nextDevice, n⟩ := by
  rw [World.rehearsal, hbus, hdevices, hnext]

/-- A replay before a sole record: what it goes by, and its report so far. -/
structure Staged (x : Record κ) (b : BusId) (c : ContextId) (s : Rehearsal) (w : World κ τ)
    (r : Replay) : Prop where
  rehearsal : w.rehearsal b r = s
  sole : w.Sole c x
  context : w.contextOf b = c

theorem Staged.of_unmoved {v : World κ τ} {ns : List Notice} {s : Rehearsal}
    (h : Unmoved v ns w') (hs : v.rehearsal b r = s) (hv : v.Sole c x) (hc : v.contextOf b = c) :
    Staged x b c s w' r := by
  have hbus : w'.bus b = v.bus b := congrArg (Store.get · b.val) h.buses
  have hcontext : w'.contextOf b = v.contextOf b := congrArg Bus.context hbus
  refine ⟨?_, hv.of_registry (h.registry c), hcontext.trans hc⟩
  rw [← hs, World.rehearsal, World.rehearsal, hbus, h.nextOpen, World.devices, World.devices,
    hcontext, h.roster]

/-- **The effect of a step agrees with the rehearsal**: both fail, or the replay goes on
where the rehearsal does, and its report gains the changes. -/
inductive AsRehearsed (x : Record κ) (b : BusId) (c : ContextId) (r : Replay) :
    Option (Rehearsal × List (Device × Event)) → Effect κ τ (Except StepError Replay) → Prop
  | fails (error : StepError) (w : World κ τ) (ns : List Notice) :
      AsRehearsed x b c r none { result := some (.error error), world := w, notices := ns }
  | goes {s : Rehearsal} {changes : List (Device × Event)} {r' : Replay} {w : World κ τ}
      {ns : List Notice} : Staged x b c s w r' → r.report.Gains x c 1 changes r'.report ns →
      AsRehearsed x b c r (some (s, changes))
        { result := some (.ok r'), world := w, notices := ns }

section Steps

variable (hl : host.Listens) (hw : w.Sole (w.contextOf b) x)
include hl hw

theorem plug_rehearsed {name : String} {vendor product : UInt16} {deviceClass : UInt8} :
    AsRehearsed x b (w.contextOf b) r
      ((w.rehearsal b r).take? (.plug name vendor product deviceClass))
      ((apply host b r (.plug name vendor product deviceClass)).run w) := by
  have hfree : r.bare.device? name = r.device? name := rfl
  rcases hname : r.device? name with _ | i
  · simp only [Rehearsal.take?, World.rehearsal, hfree, hname, apply, Option.isSome_none,
      Bool.false_eq_true, if_false]
    obtain ⟨tally, hresult, hmoved, htold⟩ :=
      Act.plug_told (s := ⟨name, vendor, product, deviceClass⟩) hl hw
    rw [Act.run_bind_of_result hresult, Act.run_pure, List.append_nil]
    refine .goes (.of_unmoved hmoved ?_ ?_ World.contextOf_withNew) (.of_told htold)
    · exact rehearsal_eq World.bus_withNew World.devices_withNew rfl
    · exact hw.of_registry World.registry_setRoster
  · simp only [Rehearsal.take?, World.rehearsal, hfree, hname, apply, Option.isSome_some, if_true]
    exact .fails _ _ _

theorem unplug_rehearsed {name : String} :
    AsRehearsed x b (w.contextOf b) r ((w.rehearsal b r).take? (.unplug name))
      ((apply host b r (.unplug name)).run w) := by
  have hfree : r.bare.device? name = r.device? name := rfl
  rcases hname : r.device? name with _ | i
  · simp only [Rehearsal.take?, World.rehearsal, hfree, hname, apply, Option.bind_eq_bind,
      Option.bind_none]
    exact .fails _ _ _
  rcases hdetach : (w.devices b).detach? i with _ | ⟨d, rest⟩
  · simp only [Rehearsal.take?, World.rehearsal, hfree, hname, hdetach, apply,
      Option.bind_eq_bind, Option.bind_some, Option.bind_none, Act.run_bind,
      Act.run_unplug_of_none hdetach]
    exact .fails _ _ _
  · simp only [Rehearsal.take?, World.rehearsal, hfree, hname, hdetach, apply,
      Option.bind_eq_bind, Option.bind_some]
    obtain ⟨tally, hresult, hmoved, htold⟩ := Act.unplug_told hl hw hdetach
    rw [Act.run_bind_of_result hresult, Act.run_pure, List.append_nil]
    refine .goes (.of_unmoved hmoved ?_ ?_ rfl) (.of_told htold)
    · exact rehearsal_eq rfl World.devices_setRoster rfl
    · exact hw.of_registry World.registry_setRoster

omit hl in
theorem openHandle_rehearsed {name : String} :
    AsRehearsed x b (w.contextOf b) r ((w.rehearsal b r).take? (.openHandle name))
      ((apply host b r (.openHandle name)).run w) := by
  have hfree : r.bare.device? name = r.device? name := rfl
  rcases hname : r.device? name with _ | i
  · simp only [Rehearsal.take?, World.rehearsal, hfree, hname, apply, Option.bind_eq_bind,
      Option.bind_none]
    exact .fails _ _ _
  have hopen := Act.run_openDevice (κ := κ) (τ := τ) w b i
  rcases hget : (w.devices b).get? i with _ | d
  · simp only [show (w.roster (w.contextOf b)).get? i = none from hget] at hopen
    simp only [Rehearsal.take?, World.rehearsal, hfree, hname, hget, apply, Option.bind_eq_bind,
      Option.bind_some, Option.bind_none, Act.run_bind, hopen]
    exact .fails _ _ _
  · simp only [show (w.roster (w.contextOf b)).get? i = some d from hget,
      Act.run_openHandle] at hopen
    simp only [Rehearsal.take?, World.rehearsal, hfree, hname, hget, apply, Option.bind_eq_bind,
      Option.bind_some, Act.run_bind, hopen]
    refine .goes ⟨?_, ?_, rfl⟩ (.of_quiet (List.forall_mem_singleton.2 rfl))
    · exact rehearsal_eq rfl World.roster_setOpens rfl
    · exact hw.of_registry World.registry_setOpens

omit hl in
theorem closeHandle_rehearsed {name : String} :
    AsRehearsed x b (w.contextOf b) r ((w.rehearsal b r).take? (.closeHandle name))
      ((apply host b r (.closeHandle name)).run w) := by
  have htake := takeHandle?_bare r name
  rcases hhandle : r.takeHandle? name with _ | ⟨h, rest⟩
  · simp only [Rehearsal.take?, World.rehearsal, htake, hhandle, apply, Option.bind_eq_bind,
      Option.map_none, Option.bind_none]
    exact .fails _ _ _
  · simp only [Rehearsal.take?, World.rehearsal, htake, hhandle, apply, Option.bind_eq_bind,
      Option.map_some, Option.bind_some]
    have hmoved : (Act.closeDevice b h : Act κ τ Bool).Obeys Unmoved :=
      Act.closed_obeys.closeDevice fun _ => Act.unmoved_closeHandle
    have hquiet : (Act.closeDevice b h : Act κ τ Bool).Obeys (Notes fun n => n.counts = false) :=
      Act.closed_obeys.closeDevice fun _ => Act.notes_closeHandle rfl
    have hreturns : (Act.closeDevice b h : Act κ τ Bool).Returns :=
      Act.closed_returns.closeDevice fun _ => Act.returns_closeHandle
    obtain ⟨closed, hclosed⟩ := hreturns w
    rw [Act.run_bind_of_result hclosed, Act.run_pure, List.append_nil]
    refine .goes (.of_unmoved (hmoved w) rfl hw rfl) ?_
    rw [← report_of_takeHandle? hhandle]
    exact .of_quiet (hquiet w)

theorem transferFailed_rehearsed {name : String} :
    AsRehearsed x b (w.contextOf b) r ((w.rehearsal b r).take? (.transferFailed name))
      ((apply host b r (.transferFailed name)).run w) := by
  have htake := takeHandle?_bare r name
  rcases hhandle : r.takeHandle? name with _ | ⟨h, rest⟩
  · simp only [Rehearsal.take?, World.rehearsal, htake, hhandle, apply, Option.bind_eq_bind,
      Option.map_none, Option.bind_none]
    exact .fails _ _ _
  have hreport := report_of_takeHandle? hhandle
  rcases hdetach : (w.devices b).detach? h.device.id with _ | ⟨d, left⟩
  · simp only [Rehearsal.take?, World.rehearsal, htake, hhandle, hdetach, apply,
      Option.bind_eq_bind, Option.map_some, Option.bind_some, Act.run_bind,
      Act.run_transferFailed_of_none hdetach]
    refine .goes ⟨rfl, hw, rfl⟩ (hreport ▸ ?_)
    exact .of_quiet (List.forall_mem_nil _)
  · simp only [Rehearsal.take?, World.rehearsal, htake, hhandle, hdetach, apply,
      Option.bind_eq_bind, Option.map_some, Option.bind_some]
    obtain ⟨tally, hresult, hmoved, htold⟩ := Act.transferFailed_told hl hw hdetach
    rw [Act.run_bind_of_result hresult, Act.run_pure, List.append_nil]
    refine .goes (.of_unmoved hmoved ?_ ?_ rfl) (hreport ▸ .of_told htold)
    · exact rehearsal_eq rfl World.devices_setRoster rfl
    · exact hw.of_registry World.registry_setRoster

end Steps

/-- **A step goes as rehearsed** before a sole record. -/
theorem apply_rehearsed {s : Rehearsal} (step : Step) (hl : host.Listens)
    (hw : Staged x b c s w r) :
    AsRehearsed x b c r (s.take? step) ((apply host b r step).run w) := by
  obtain ⟨rfl, hw, rfl⟩ := hw
  cases step with
  | plug => exact plug_rehearsed hl hw
  | unplug => exact unplug_rehearsed hl hw
  | openHandle => exact openHandle_rehearsed hw
  | closeHandle => exact closeHandle_rehearsed hw
  | transferFailed => exact transferFailed_rehearsed hl hw
  | sleep => exact .goes ⟨rfl, hw, rfl⟩ (.of_quiet (List.forall_mem_nil _))

/-- **A replay goes as rehearsed** before a sole record: it fails where the rehearsal does,
and else its report gains all that came and went. -/
theorem runFrom_rehearsed {s : Rehearsal} (place : Nat) (steps : List Step) (hl : host.Listens)
    (hw : Staged x b c s w r) :
    match s.changes? steps with
    | none => ∃ error, ((runFrom host b place steps r).run w).result = some (.error error)
    | some changes => ∃ report,
        ((runFrom host b place steps r).run w).result = some (.ok report) ∧
        ((runFrom host b place steps r).run w).world.Sole c x ∧
        r.report.Gains x c steps.length changes report
          ((runFrom host b place steps r).run w).notices := by
  induction steps generalizing place s w r with
  | nil => exact ⟨_, rfl, hw.sole, .refl⟩
  | cons step rest ih =>
    have hstep := apply_rehearsed step hl hw
    rw [Rehearsal.changes?, runFrom_cons, Act.run_bind]
    generalize (apply host b r step).run w = out at hstep ⊢
    generalize s.take? step = taken at hstep ⊢
    cases hstep with
    | fails error w' ns => exact ⟨_, rfl⟩
    | @goes next changes r' w' ns hw' hgains =>
      have hrest := ih (place + 1) hw'
      simp only [Option.bind_eq_bind, Option.bind_some, Effect.andThen_some]
      generalize (runFrom host b (place + 1) rest r').run w' = last at hrest ⊢
      generalize next.changes? rest = later at hrest ⊢
      rcases later with _ | later
      · exact hrest
      · obtain ⟨report, hresult, hsole, hmore⟩ := hrest
        refine ⟨report, hresult, hsole, ?_⟩
        rw [List.length_cons, Nat.add_comm]
        exact hgains.trans hmore

end Replay
end DeviceWatch
