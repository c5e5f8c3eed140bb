import DeviceWatch.Proofs.Demands
/-!
# A driven detector

Between two steps of a detector anybody may ask it for something, and a callback that runs
under a step may do so as well; what others ask for at the same time is among what these
callbacks ask for, in the order in which it is queued. A list of moves is any way in which
demands and steps come after one another. Whatever the moves, the commands that were taken
off the queue are the first of those that were queued, in order, up to the one that stops
the detector; the world is the one that the same commands leave when they are given to the
bus directly, one after the other; and what the detector publishes is what the bus answers
to them.
-/

namespace DeviceWatch

variable {κ τ α : Type}

/-- What happens to a detector: somebody asks it for something, or it takes its next
step. -/
inductive Move where
  | demand (x : Demand)
  | step
  deriving DecidableEq

namespace Act

/-- Makes a move. Only who made a demand learns whether it was refused. -/
def move (host : Host κ τ) (d : DetectorId) : Move → Act κ τ Unit
  | .demand x => do
    let _ ← demand d x
  | .step => step host d

/-- Makes moves one after the other. -/
def moves (host : Host κ τ) (d : DetectorId) : List Move → Act κ τ Unit
  | [] => return ()
  | m :: rest => do
    move host d m
    moves host d rest

/-- Does to a bus directly what a command asks for, and tells the change of the bus, if
there is one. -/
def direct (host : Host κ τ) (b : BusId) : Command → Act κ τ (Option BusChange)
  | .plug spec => do
    let (device, tally) ← plug host b spec
    return some ⟨device, .arrived, tally⟩
  | .unplug id => do
    match ← unplug host b id with
    | .ok (device, tally) => return some ⟨device, .left, tally⟩
    | .error _ => return none
  | .sync _ => return none
  | .shutdown => return none

/-- Does so for commands one after the other. -/
def directAll (host : Host κ τ) (b : BusId) : List Command → Act κ τ (List BusChange)
  | [] => return []
  | command :: rest => do
    let change ← direct host b command
    return change.toList ++ (← directAll host b rest)

/-- Publishes a change of the bus, if there is one. -/
def report (d : DetectorId) : Option BusChange → Act κ τ Unit
  | some change => publish d change
  | none => return ()

/-- What a detector does about a command by itself: it answers, or it stops. -/
def heed (d : DetectorId) : Command → Act κ τ Unit
  | .sync token => modifyDetector d fun x => { x with answered := token :: x.answered }
  | .shutdown => modifyDetector d Detector.stop
  | _ => return ()

end Act

/-- Mailboxes after changes were put into each of them, one after the other. -/
def Mailbox.fill (boxes : List Mailbox) (changes : List BusChange) : List Mailbox :=
  changes.foldl (fun boxes change => boxes.map (·.push change)) boxes

theorem Mailbox.fill_append {boxes : List Mailbox} {changes more : List BusChange} :
    fill boxes (changes ++ more) = fill (fill boxes changes) more :=
  List.foldl_append

namespace Detector

/-- The detector after it published a change of the bus, if there is one. -/
def reported (x : Detector) (change : Option BusChange) : Detector :=
  { x with mailboxes := Mailbox.fill x.mailboxes change.toList }

/-- The detector after it did its part about a command. -/
def heeded (x : Detector) : Command → Detector
  | .sync token => { x with answered := token :: x.answered }
  | .shutdown => x.stop
  | _ => x

variable {x : Detector} {command : Command}

theorem heeded_bus : (x.heeded command).bus = x.bus := by
  cases command <;> rfl

theorem heeded_syncs : (x.heeded command).syncs = x.syncs := by
  cases command <;> rfl

theorem heeded_mailboxes : (x.heeded command).mailboxes = x.mailboxes := by
  cases command <;> rfl

theorem heeded_answered :
    (x.heeded command).answered = (tokens [command]).reverse ++ x.answered := by
  cases command <;> rfl

/-- Only one command stops a detector. -/
theorem heeded_of_ne (h : command ≠ .shutdown) :
    (x.heeded command).running = x.running ∧ (x.heeded command).queue = x.queue := by
  cases command with
  | shutdown => exact absurd rfl h
  | _ => exact ⟨rfl, rfl⟩

end Detector

namespace Act

section Direct

variable {host : Host κ τ} {d : DetectorId} {b : BusId} {command : Command}

/-- A detector does what the bus would do, publishes it, and does its own part. -/
theorem apply_eq : apply host d b command =
    direct host b command >>= fun change => report d change >>= fun _ => heed d command := by
  cases command with
  | plug spec => simp [apply, direct, report, heed]
  | unplug id =>
    simp only [apply, direct, heed, bind_assoc, bind_pure_unit]
    refine bind_congr fun answer => ?_
    rcases answer with e | ⟨device, tally⟩
    · rfl
    · rfl
  | sync token => rfl
  | shutdown => rfl

/-- To drive a bus directly is one of the things that callbacks may do. -/
theorem direct_aloof (hhost : host.Aloof) : (direct host b command).Aloof := by
  cases command with
  | plug spec =>
    exact .bind (.op host hhost.react hhost.steady (.plug b spec)) fun _ => .pure _
  | unplug id =>
    refine .bind (.op host hhost.react hhost.steady (.unplug b id)) fun answer => ?_
    rcases answer with e | ⟨device, tally⟩
    · exact .pure _
    · exact .pure _
  | sync token => exact .pure _
  | shutdown => exact .pure _

theorem directAll_concat (commands : List Command) :
    directAll host b (commands ++ [command]) = do
      let changes ← directAll host b commands
      let change ← direct host b command
      return changes ++ change.toList := by
  induction commands with
  | nil => simp [directAll]
  | cons first rest ih => simp [directAll, ih]

/-- One more command is done after the others. -/
theorem run_directAll_concat {w : World κ τ} {commands : List Command} {changes : List BusChange}
    {change : Option BusChange} (hall : ((directAll host b commands).run w).result = some changes)
    (hone : ((direct host b command).run ((directAll host b commands).run w).world).result =
      some change) :
    ((directAll host b (commands ++ [command])).run w).result = some (changes ++ change.toList) ∧
      ((directAll host b (commands ++ [command])).run w).world =
        ((direct host b command).run ((directAll host b commands).run w).world).world := by
  rw [directAll_concat, run_bind_of_result hall, run_bind_of_result hone, run_pure]
  exact ⟨rfl, rfl⟩

theorem of_reports (d : DetectorId) (change : Option BusChange) :
    queued d (change.toList.map (.published d)) = [] ∧
      taken d (change.toList.map (.published d)) = [] ∧
      published d (change.toList.map (.published d)) = change.toList := by
  cases change with
  | none => exact ⟨rfl, rfl, rfl⟩
  | some change => exact ⟨rfl, rfl, by simp [published]⟩

/-- What a detector does besides driving its bus concerns nobody else. -/
theorem run_report_heed (d : DetectorId) (command : Command) (v : World κ τ)
    (change : Option BusChange) :
    ∃ v', (report d change >>= fun _ => heed d command : Act κ τ Unit).run v =
        { result := some (), world := v', notices := change.toList.map (.published d) } ∧
      v'.apart = v.apart ∧ v'.detector d = ((v.detector d).reported change).heeded command ∧
      (command ≠ .shutdown → v'.Alike v) := by
  have hreport : ∃ v', (report d change : Act κ τ Unit).run v =
        { result := some (), world := v', notices := change.toList.map (.published d) } ∧
      v'.apart = v.apart ∧ v'.detector d = (v.detector d).reported change ∧ v'.Alike v := by
    cases change with
    | none => exact ⟨v, rfl, rfl, rfl, .refl⟩
    | some change =>
      refine ⟨v.modifyDetector d (·.publish change), rfl, rfl, ?_, ?_⟩
      · exact World.detector_modifyDetector_self
      · exact .modifyDetector .refl fun _ => rfl
  obtain ⟨v₁, hrun, happart, hdetector, halike⟩ := hreport
  rw [run_bind, hrun, Effect.andThen_some, ← hdetector]
  cases command with
  | plug | unplug => exact ⟨v₁, by simp [heed], happart, rfl, fun _ => halike⟩
  | sync token =>
    refine ⟨v₁.modifyDetector d fun x => { x with answered := token :: x.answered }, ?_,
      happart, World.detector_modifyDetector_self, fun _ => halike.modifyDetector fun _ => rfl⟩
    rw [heed, modifyDetector, run_modify, List.append_nil]
  | shutdown =>
    refine ⟨v₁.modifyDetector d Detector.stop, ?_, happart, World.detector_modifyDetector_self,
      fun h => absurd rfl h⟩
    rw [heed, modifyDetector, run_modify, List.append_nil]

theorem run_step_nil {v : World κ τ} (hqueue : (v.detector d).queue = []) :
    (step host d).run v = { result := some (), world := v } := by
  simp only [step, run_bind, run_get, Effect.andThen_some, hqueue]
  rfl

/-- A step takes the oldest command, drives the bus, and does the detector's own part. -/
theorem run_step_cons {v v' : World κ τ} {rest : List Command} {change : Option BusChange}
    {out : Effect κ τ (Option BusChange)} (hbus : (v.detector d).bus = b)
    (hqueue : (v.detector d).queue = command :: rest)
    (hout : (direct host b command).run (v.modifyDetector d fun x => { x with queue := rest }) =
      out)
    (hresult : out.result = some change)
    (hheed : (report d change >>= fun _ => heed d command : Act κ τ Unit).run out.world =
      { result := some (), world := v', notices := change.toList.map (.published d) }) :
    (step host d).run v =
      { result := some ()
        world := v'
        notices := .taken d command :: (out.notices ++ change.toList.map (.published d)) } := by
  have happly : (apply host d b command).run
      (v.modifyDetector d fun x => { x with queue := rest }) =
      { result := some ()
        world := v'
        notices := out.notices ++ change.toList.map (.published d) } := by
    rw [apply_eq, run_bind, hout, Effect.andThen, hresult]
    simp only [hheed]
  simp only [step, run_bind, run_get, Effect.andThen_some, hqueue, hbus, run_note,
    modifyDetector, run_modify, run_recover, happly, Effect.orElse_some]
  rfl

end Direct

end Act

/-! ## Where the commands are -/

/-- **Where the commands are** that were queued: as long as a detector runs, those that it
did not take are in its queue, and none that it took stops it. It stops with the first that
does, and drops all others. -/
inductive Phase (queued taken : List Command) (x : Detector) : Prop
  | runs : x.running = true → queued = taken ++ x.queue → .shutdown ∉ taken → Phase queued taken x
  | stopped (before : List Command) : x.running = false → x.queue = [] →
      taken = before ++ [.shutdown] → .shutdown ∉ before → taken <+: queued → Phase queued taken x

/-- What a detector did since a world, told from what the bus does if it is given the same
commands directly. -/
structure Driven (host : Host κ τ) (d : DetectorId) (b : BusId) (w : World κ τ)
    (ns : List Notice) (v : World κ τ) : Prop where
  bus : (v.detector d).bus = b
  phase : Phase (queued d ns) (taken d ns) (v.detector d)
  published : ((Act.directAll host b (taken d ns)).run w).result = some (published d ns)
  apart : v.apart = ((Act.directAll host b (taken d ns)).run w).world.apart
  alike : (v.detector d).running = true →
    v.Alike ((Act.directAll host b (taken d ns)).run w).world
  mailboxes : (v.detector d).mailboxes =
    Mailbox.fill (w.detector d).mailboxes (DeviceWatch.published d ns)
  answered : (v.detector d).answered = (tokens (taken d ns)).reverse
  drawn : Drawn (w.detector d).syncs (v.detector d).syncs (tokens (queued d ns))

/-- A detector that runs, and of which nothing was asked yet. -/
structure World.Started (w : World κ τ) (d : DetectorId) (b : BusId) : Prop where
  bus : (w.detector d).bus = b
  running : (w.detector d).running = true
  queue : (w.detector d).queue = []
  answered : (w.detector d).answered = []

namespace Driven

variable {host : Host κ τ} {d : DetectorId} {b : BusId} {w v v' : World κ τ}
variable {ns ms : List Notice}

theorem start (hw : w.Started d b) : Driven host d b w [] w where
  bus := hw.bus
  phase := .runs hw.running (by rw [hw.queue]; rfl) List.not_mem_nil
  published := rfl
  apart := rfl
  alike _ := .refl
  mailboxes := rfl
  answered := hw.answered
  drawn := .refl

/-- To ask a detector for more changes nothing but its queue. -/
theorem queues (h : Driven host d b w ns v) (hq : Queues d v ms v') (hv : v'.Alike v) :
    Driven host d b w (ns ++ ms) v' := by
  have htaken : taken d (ns ++ ms) = taken d ns := by
    rw [taken_append, hq.taken, List.append_nil]
  have hpublished : DeviceWatch.published d (ns ++ ms) = DeviceWatch.published d ns := by
    rw [published_append, hq.published, List.append_nil]
  have hrunning := hv.running d
  refine ⟨?_, ?_, ?_, ?_, fun hruns => ?_, ?_, ?_, ?_⟩
  · rw [hq.detector]
    exact h.bus
  · rw [htaken, queued_append]
    cases h.phase with
    | runs hruns hqueued hnot =>
      refine .runs (hrunning.trans hruns) ?_ hnot
      rw [hq.detector, hqueued, List.append_assoc]
    | stopped before hstops hqueue hlast hnot hfirst =>
      refine .stopped before (hrunning.trans hstops) ?_ hlast hnot ?_
      · rw [hq.detector, hqueue, hq.refused hstops]
        rfl
      · exact hfirst.trans (List.prefix_append _ _)
  · rw [htaken, hpublished]
    exact h.published
  · rw [htaken]
    exact hv.apart.trans h.apart
  · rw [htaken]
    exact hv.trans (h.alike (hrunning.symm.trans hruns))
  · rw [hpublished, hq.detector]
    exact h.mailboxes
  · rw [htaken, hq.detector]
    exact h.answered
  · rw [queued_append, tokens_append]
    exact h.drawn.trans hq.drawn

theorem demand (h : Driven host d b w ns v) (x : Demand) :
    Driven host d b w (ns ++ ((Act.demand d x).run v).notices) ((Act.demand d x).run v).world := by
  refine h.queues (Act.queues_demand v) ?_
  rw [Act.run_demand]
  split
  · exact .modifyDetector .refl fun _ => rfl
  · exact .modifyDetector .refl fun _ => rfl

/-- The detector takes the oldest command, and does what the bus would do. -/
theorem serve (h : Driven host d b w ns v) {command : Command} {rest : List Command}
    (hruns : (v.detector d).running = true) (hqueue : (v.detector d).queue = command :: rest)
    {change : Option BusChange}
    (hresult : ((Act.direct host b command).run
      ((Act.directAll host b (taken d ns)).run w).world).result = some change)
    (hapart : v'.apart = ((Act.direct host b command).run
      ((Act.directAll host b (taken d ns)).run w).world).world.apart)
    (halike : command ≠ .shutdown → v'.Alike ((Act.direct host b command).run
      ((Act.directAll host b (taken d ns)).run w).world).world)
    (hdetector : v'.detector d = (({ v.detector d with
      queue := rest ++ queued d ms
      syncs := (v'.detector d).syncs } : Detector).reported change).heeded command)
    (hdrawn : Drawn (v.detector d).syncs (v'.detector d).syncs (tokens (queued d ms)))
    (htaken : taken d ms = [command]) (hpublished : DeviceWatch.published d ms = change.toList) :
    Driven host d b w (ns ++ ms) v' := by
  obtain ⟨hchanges, hworld⟩ := Act.run_directAll_concat h.published hresult
  have hall : taken d (ns ++ ms) = taken d ns ++ [command] := by rw [taken_append, htaken]
  have hqueued : queued d ns = taken d ns ++ command :: rest ∧ .shutdown ∉ taken d ns := by
    cases h.phase with
    | runs _ hqueued hnot => exact ⟨hqueue ▸ hqueued, hnot⟩
    | stopped _ hstops =>
      rw [hruns] at hstops
      cases hstops
  obtain ⟨hqueued, hnot⟩ := hqueued
  refine ⟨?_, ?_, ?_, ?_, fun hruns' => ?_, ?_, ?_, ?_⟩
  · rw [hdetector, Detector.heeded_bus]
    exact h.bus
  · rw [hall, queued_append, hqueued]
    by_cases hcommand : command = .shutdown
    · subst hcommand
      refine .stopped (taken d ns) ?_ ?_ rfl hnot ⟨rest ++ queued d ms, by simp⟩
      · rw [hdetector]
        rfl
      · rw [hdetector]
        rfl
    · obtain ⟨hrunning, hleft⟩ := Detector.heeded_of_ne hcommand
      refine .runs ?_ ?_ ?_
      · rw [hdetector, hrunning]
        exact hruns
      · rw [hdetector, hleft]
        simp [Detector.reported]
      · rw [List.mem_append, List.mem_singleton]
        exact not_or.2 ⟨hnot, Ne.symm hcommand⟩
  · rw [hall, published_append, hpublished]
    exact hchanges
  · rw [hall, hworld]
    exact hapart
  · rw [hall, hworld]
    refine halike fun hcommand => ?_
    rw [hdetector, hcommand] at hruns'
    cases hruns'
  · rw [published_append, hpublished, Mailbox.fill_append, ← h.mailboxes, hdetector,
      Detector.heeded_mailboxes]
    rfl
  · rw [hall, tokens_append, List.reverse_append, ← h.answered, hdetector,
      Detector.heeded_answered]
    rfl
  · rw [queued_append, tokens_append]
    exact h.drawn.trans hdrawn

/-- **A step keeps the account**, whatever the callbacks under it do. -/
theorem step (h : Driven host d b w ns v) (hhost : host.Aloof) :
    ((Act.step host d).run v).result = some () ∧
      taken d ((Act.step host d).run v).notices = (v.detector d).queue.take 1 ∧
      Driven host d b w (ns ++ ((Act.step host d).run v).notices)
        ((Act.step host d).run v).world := by
  rcases hqueue : (v.detector d).queue with _ | ⟨command, rest⟩
  · rw [Act.run_step_nil hqueue, List.append_nil]
    exact ⟨rfl, rfl, h⟩
  have hruns : (v.detector d).running = true := by
    cases h.phase with
    | runs hruns => exact hruns
    | stopped _ _ hempty =>
      rw [hqueue] at hempty
      cases hempty
  -- From the world without the command, and from that of the bus alone, the bus does alike.
  have haloof : (Act.direct host b command).Aloof := Act.direct_aloof hhost
  have htook : (v.modifyDetector d fun x => { x with queue := rest }).Alike
      ((Act.directAll host b (taken d ns)).run w).world :=
    (h.alike hruns).modifyDetector fun _ => rfl
  obtain ⟨hsame, hworlds⟩ := haloof.alike _ _ htook
  obtain ⟨change, hresult⟩ :=
    haloof.returns (v.modifyDetector d fun x => { x with queue := rest })
  have hqueues : Queues d _ _ _ :=
    haloof.queues (v.modifyDetector d fun x => { x with queue := rest })
  rw [hresult] at hsame
  generalize hout : (Act.direct host b command).run
    (v.modifyDetector d fun x => { x with queue := rest }) = out at hsame hworlds hresult hqueues
  obtain ⟨v', hheed, happart, hdetector, halike⟩ :=
    Act.run_report_heed d command out.world change
  rw [Act.run_step_cons h.bus hqueue hout hresult hheed]
  obtain ⟨hnoqueue, hnotake, hpublish⟩ := Act.of_reports d change
  have hqueued : queued d (.taken d command :: (out.notices ++
      change.toList.map (.published d))) = queued d out.notices := by
    rw [← List.singleton_append, queued_append, queued_append, hnoqueue, List.append_nil]
    rfl
  have hsyncs : (v'.detector d).syncs = (out.world.detector d).syncs := by
    rw [hdetector, Detector.heeded_syncs]
    rfl
  have hdriven : out.world.detector d = { v.detector d with
      queue := rest ++ queued d out.notices
      syncs := (v'.detector d).syncs } := by
    rw [hsyncs]
    exact hqueues.detector.trans (by rw [World.detector_modifyDetector_self])
  have hdrawn := hqueues.drawn
  rw [World.detector_modifyDetector_self, ← hsyncs] at hdrawn
  have htaken : taken d (.taken d command :: (out.notices ++
      change.toList.map (.published d))) = [command] := by
    rw [← List.singleton_append, taken_append, taken_append, hqueues.taken, hnotake]
    simp [taken]
  refine ⟨rfl, htaken, h.serve hruns hqueue hsame.symm (happart.trans hworlds.apart)
    (fun hcommand => (halike hcommand).trans hworlds) ?_ ?_ htaken ?_⟩
  · rw [hqueued, ← hdriven]
    exact hdetector
  · rw [hqueued]
    exact hdrawn
  · rw [← List.singleton_append, published_append, published_append, hqueues.published, hpublish]
    rfl

end Driven
end DeviceWatch
