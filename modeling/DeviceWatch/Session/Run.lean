import DeviceWatch.Session.Perform
/-!
# Sessions

A session has a number of contexts, each with a bus of its own, and performs a
list of operations on them. After each operation it tells the answer, the
callbacks that ran, and where the operation's context stands. A panic ends the
operation that it happens in; the session goes on.
-/

namespace DeviceWatch.Session

/-- What a session starts with and does. -/
structure Input where
  contexts : List (Platform × ContextSettings)
  operations : List Operation

/-- Where a context stands. -/
structure Standing where
  records : List (CallbackId × Status)
  devices : List DeviceId
  opens : Nat
  /-- The number of handles its platform gave up. -/
  disconnects : Nat

/-- What an operation leaves behind. -/
structure Outcome where
  answer : Answer
  log : List Entry
  standing : Standing

/-- Where a context stands. -/
def standing (w : State) (c : ContextId) : Standing :=
  let x := w.context c
  { records := x.registry.records.map fun r => (r.id, r.status)
    devices := x.roster.ids.mergeSort fun a b => a.val ≤ b.val
    opens := x.opens.size
    disconnects := x.platform.disconnects.length }

/-- The world with contexts, each with a bus. -/
def start (contexts : List (Platform × ContextSettings)) : State :=
  contexts.foldl
    (fun w (platform, settings) =>
      let (w, c) := w.addContext platform settings
      (w.addBus c).1)
    { memory := {} }

/-- Performs an operation of a session. -/
def performTop (stage : Stage) (op : Operation) (w : State) : Outcome × State :=
  let c : ContextId := ⟨op.context.getD 0 + 1⟩
  let effect := (performOn stage c op).run { w with memory := { w.memory with log := [] } }
  let outcome : Outcome :=
    { answer := effect.result.getD .panicked
      log := op.sortLog effect.world.memory.log
      standing := standing effect.world c }
  (outcome, effect.world)

/-- Performs operations of a session one after the other. -/
def performTops (stage : Stage) : List Operation → State → List Outcome
  | [], _ => []
  | op :: rest, w =>
    let (outcome, w) := performTop stage op w
    outcome :: performTops stage rest w

/-- Runs a session. -/
def run (input : Input) : List Outcome :=
  performTops (stage (listCount input.operations)) input.operations (start input.contexts)

end DeviceWatch.Session
