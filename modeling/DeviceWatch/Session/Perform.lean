import DeviceWatch.Codec.Files
import DeviceWatch.Describe
import DeviceWatch.Detection
import DeviceWatch.Session.Memory
/-!
# Operations

What each operation of a session does. Callbacks perform operations, too;
`stage` says what they do, to a depth of nesting that is given in advance. No
callback performs an operation twice, so the number of operations in a session
bounds the nesting of its callbacks.
-/

namespace DeviceWatch.Session

open Deed

/-- The answer to a registration, which is told under a name if it succeeds. -/
def registered (name : String) (result : Except RegisterError CallbackId) : Deed Answer := do
  match result with
  | .error e => return .refused e
  | .ok id =>
    Act.remember (·.learn name id)
    return .registered id

/-- The answer with an open handle, which is told. -/
def opened (h : OpenHandle) : Deed Answer := do
  Act.remember (·.learnOpen h)
  return .number h.id.val

/-! ## Callbacks -/

/-- Registers a callback. Where it has to be given together with the numbers, a
missing script does nothing. -/
def doRegister (stage : Stage) (c : ContextId) (name : String) (form : Form)
    (script : Option (Script Operation)) : Deed Answer := do
  let given := if form.via = .together then some (script.getD {}) else script
  let request : Request Program := form.request
  registered name
    (← Act.register stage c { request with program := given.map fun script => { name, script } })

/-- Adds a record without asking whether the context offers registrations. A
missing script does nothing. -/
def doInsert (c : ContextId) (name : String) (events : EventSet) (selector : Selector)
    (script : Option (Script Operation)) : Deed Answer := do
  match selector.check with
  | .error m => return .refused (.misfit m)
  | .ok filter =>
    registered name (← Act.insert c events filter { name, script := script.getD {} })

/-- Decides about a record, and runs its callback if asked to. -/
def doDecide (stage : Stage) (c : ContextId) (id : CallbackId) (d : Device) (e : Event)
    (call : Bool) : Deed Answer := do
  let verdict ← Act.decide c id d e
  match verdict, call with
  | .invoke program, true =>
    return .called (← stage.react { context := c, callback := id, program, device := d, event := e })
  | _, _ => return .decided verdict.decision

/-! ## Buses and detectors

A detector works apart from those who use it: what runs under it is no part of
a replay, even if it is a replay that waits for it to end. -/

/-- Plugs in a number of devices alike; answers with the last. -/
def plugMany (stage : Stage) (b : BusId) (spec : DeviceSpec) : Nat → Answer → Deed Answer
  | 0, answer => return answer
  | n + 1, _ => do
    let (d, tally) ← Act.plug stage b spec
    plugMany stage b spec n (.change d tally)

/-- Stops a detector after all that is queued, and gives it up. -/
def retire (stage : Stage) (d : DetectorId) : Deed Unit :=
  during false (Act.retire stage d)

/-- Waits until the detector of a context has done what is queued. To wait for
a detector that runs panics during a replay, and the context loses it. -/
def wait (stage : Stage) (c : ContextId) (d : DetectorId) :
    Deed (Except DetectorError Unit) := do
  if (← Act.memory).replaying && ((← get).detector d).running then
    retire stage d
    setDetector c .none
    Act.panic
  else
    during false (Act.sync stage d)

/-- Starts a detector, in place of an older one. -/
def doStartDetector (stage : Stage) (c : ContextId) (b : BusId) : Deed Answer := do
  match (← Act.memory).detectors.get c.val with
  | .busy _ => return .noReference
  | slot =>
    if let .some old := slot then retire stage old
    setDetector c (.some (← Act.startDetector b))
    return .done

/-- Sends commands, and waits until they are done. -/
def doDetect (stage : Stage) (c : ContextId) (d : DetectorId) (commands : List Command) :
    Deed Answer := do
  setDetector c (.busy d)
  let sent ← Act.sendAll d commands
  let synced ← wait stage c d
  setDetector c (.some d)
  return .results (sent ++ [synced])

/-- Stops a detector, and waits until it is done. -/
def doStopDetector (stage : Stage) (c : ContextId) (d : DetectorId) : Deed Answer := do
  setDetector c (.busy d)
  let _ ← Act.send d .shutdown
  let synced ← wait stage c d
  setDetector c (.some d)
  return .results [synced]

/-! ## Scenarios -/

/-- Takes steps one after the other, going on after those that fail. -/
def replayAll (stage : Stage) (c : ContextId) (b : BusId) :
    List Step → Replay → Deed (List StepAnswer)
  | [], _ => return []
  | step :: rest, r => do
    let result ← r.apply stage b step
    let x ← Act.context c
    let answer (error : Option StepError) : StepAnswer :=
      { error
        devices := x.roster.ids
        opens := x.opens.size
        disconnects := x.platform.disconnects.length }
    match result with
    | .error e => return answer (some e) :: (← replayAll stage c b rest r)
    | .ok r => return answer none :: (← replayAll stage c b rest r)

/-- Replays the scenario that a text stands for. To begin a replay during
another one panics. -/
def doScenario (stage : Stage) (b : BusId) (text : String) : Deed Answer := do
  match Scenario.parse? text with
  | none => return .failed DocumentKind.scenario.parseChain
  | some scenario =>
    if (← Act.memory).replaying then Act.panic
    match ← during true (Replay.run stage b scenario) with
    | .error e => return .failed e.chain
    | .ok report => return .replayed report

/-! ## Ports -/

/-- Polls the ports with the watcher of a slot; it is out of its slot meanwhile.
The departures are told by number. -/
def doPoll (stage : Stage) (b : BusId) (slot : Nat) (w : Watcher) (listing : Listing) :
    Deed Answer := do
  Act.remember fun m => { m with watchers := emptySlot m.watchers slot }
  let (w, result) ← w.poll stage b listing
  Act.remember fun m => { m with watchers := putSlot m.watchers slot w }
  match result with
  | .error e => return .failed e.chain
  | .ok changes =>
    let left := changes.left.mergeSort fun x y => x.val ≤ y.val
    return .polled { changes with left } w.attached.length

/-! ## All operations -/

/-- Does what a verb says in a context. -/
def perform (stage : Stage) (c : ContextId) (b : BusId) (verb : Verb Operation) : Deed Answer := do
  match verb with
  | .register name form script => doRegister stage c name form script
  | .deregister ref =>
    following (← callback? c ref) fun id => do
      Act.deregister c id
      return .nothing
  | .teardown => return .number (← Act.teardown c)
  | .notify ref e =>
    following (← device? c ref) fun d => return .tally (← Act.notify stage c d e)
  | .hasHotplug => return .flag (← Act.context c).hasHotplug
  | .setHotplug on =>
    Act.modifyContext c fun x => { x with platform := x.platform.setHotplug on }
    let x ← Act.context c
    return .support x.platform.hasHotplug x.hasHotplug
  | .contextId => return .text c.text
  | .settings => return .text (← Act.context c).settings.toJson.render
  | .describeContext => return .text (Describe.context c (← Act.context c))
  | .insert name events selector script => doInsert c name events selector script
  | .decide ref device e call =>
    following (← callback? c ref) fun id => do
      following (← device? c device) fun d => doDecide stage c id d e call
  | .commit ref wish =>
    following (← callback? c ref) fun id => return .flag (← Act.commit c id wish)
  | .mark ref => following (← callback? c ref) fun id => return .flag (← Act.markPending c id)
  | .status ref =>
    following (← callback? c ref) fun id => return .status ((← Act.context c).registry.status? id)
  | .registrySize => return .size (← Act.context c).registry.size
  | .cursor slot =>
    let ids := (← Act.context c).registry.ids
    Act.remember fun m => { m with cursors := putSlot m.cursors slot ids }
    return .remaining ids.length
  | .cursorNext slot =>
    following ((← Act.memory).cursors.lookup slot) fun ids => do
      Act.remember fun m => { m with cursors := putSlot m.cursors slot (ids.drop 1) }
      return .advanced (!ids.isEmpty) (ids.length - 1)
  | .cursorDrain slot =>
    following ((← Act.memory).cursors.lookup slot) fun ids => do
      Act.remember fun m => { m with cursors := emptySlot m.cursors slot }
      return .callbacks ids
  | .describeRegistry => return .text (Describe.registry (← Act.context c).registry)
  | .attach ref =>
    following (← device? c ref) fun d => do
      Act.attach c d
      return .nothing
  | .detach id => return .device (← Act.detach c id)
  | .device id => return .device ((← Act.context c).roster.get? id)
  | .devices => return .devices (← Act.context c).roster.toList
  | .rosterSize => return .size (← Act.context c).roster.size
  | .openHandle ref =>
    following (← device? c ref) fun d => do opened (← Act.openHandle c d)
  | .closeHandle n => following (← open? n) fun h => return .flag (← Act.closeHandle c h)
  | .handlesOn id =>
    let hs := (← Act.context c).opens.on id
    Act.remember fun m => hs.foldl Memory.learnOpen m
    let w ← get
    return .handles (hs.map fun h => (h.id, w.isDisconnected h.id))
  | .openSize => return .size (← Act.context c).opens.size
  | .handleInfo n =>
    following (← open? n) fun h => return .handle h.device ((← get).isDisconnected h.id)
  | .disconnects =>
    match (← Act.context c).platform with
    | .bare => return .disconnects none
    | .simulated _ ds => return .disconnects (some ds)
  | .disconnectCount n =>
    following (← open? n) fun h => do
      let ds := (← Act.context c).platform.disconnects
      return .number (ds.countP fun d => d.handle == h.id)
  | .giveUp n =>
    following (← open? n) fun h => do
      Act.giveUp c h
      return .nothing
  | .plug spec count => plugMany stage b spec count .nothing
  | .unplug id =>
    match ← Act.unplug stage b id with
    | .error e => return .busError e
    | .ok (d, tally) => return .change d tally
  | .openDevice id =>
    match ← Act.openDevice b id with
    | .error e => return .busError e
    | .ok h => opened h
  | .closeDevice n => following (← open? n) fun h => return .flag (← Act.closeDevice b h)
  | .transferFailed n =>
    following (← open? n) fun h => return .tally (← Act.transferFailed stage b h)
  | .startDetector => doStartDetector stage c b
  | .detect commands => following (← detector? c) fun d => doDetect stage c d commands
  | .stopDetector => following (← detector? c) fun d => doStopDetector stage c d
  | .retireDetector =>
    following (← detector? c) fun d => do
      retire stage d
      setDetector c .none
      return .done
  | .subscribe slot =>
    following (← detector? c) fun d => do
      let place ← Act.subscribe d
      Act.remember fun m => { m with mailboxes := putSlot m.mailboxes slot (d, place) }
      return .done
  | .receive slot =>
    following ((← Act.memory).mailboxes.lookup slot) fun (d, place) => do
      let (mailbox, more) ← Act.receive d place
      return .received mailbox more
  | .watcher slot skipPatterns =>
    Act.remember fun m => { m with watchers := putSlot m.watchers slot { skipPatterns } }
    return .nothing
  | .poll slot listing =>
    following ((← Act.memory).watchers.lookup slot) fun w => doPoll stage b slot w listing
  | .ports slot listing =>
    following ((← Act.memory).watchers.lookup slot) fun w =>
      match listing with
      | .error e => return .failed e.chain
      | .ok listed => return .ports (w.choose listed)
  | .scenario text => doScenario stage b text
  | .replay steps => return .steps (← replayAll stage c b steps {})

/-- The log of an operation in a fixed order. -/
def Operation.sortLog (op : Operation) (log : List Entry) : List Entry :=
  match op.verb with
  | .poll .. => sortDepartures log
  | _ => Session.sortLog log

/-- Performs an operation; it names its context or acts on the one at hand. -/
def performOn (stage : Stage) (atHand : ContextId) (op : Operation) : Deed Answer := do
  let number := match op.context with
    | none => atHand.val
    | some place => place + 1
  if number < (← get).nextContext then
    perform stage ⟨number⟩ ⟨number⟩ op.verb
  else
    return .noReference

/-- Performs operations one after the other, each with a log of its own. -/
def performAll (stage : Stage) (atHand : ContextId) :
    List Operation → Deed (List (Answer × List Entry))
  | [] => return []
  | op :: rest => do
    let (answer, log) ← logged (performOn stage atHand op)
    return (answer, op.sortLog log) :: (← performAll stage atHand rest)

/-- Runs a callback: performs its operations, enters the run into the log,
and replies. -/
def runCallback (stage : Stage) (inv : Invocation Program) : Deed Wish := do
  let script := inv.program.script
  let n := (← Act.memory).runsOf inv.callback
  Act.remember (·.countRun inv.callback)
  let performed ← performAll stage inv.context (script.action n)
  let entry := Entry.ran inv.program.name inv.device inv.event n performed
  Act.remember fun m => { m with log := m.log ++ [entry] }
  match script.reply n with
  | .rearm => return .rearm
  | .deregister => return .deregister
  | .panic => Act.panic

/-- What callbacks do whose runs are nested at most so deep. A run that lies
deeper does nothing. -/
def stage : Nat → Stage
  | 0 => { react := fun _ => return .rearm, order := fun _ ids => ids, order_perm := fun _ _ => .refl _ }
  | n + 1 => { stage n with react := runCallback (stage n) }

end DeviceWatch.Session
