import EntitySearch.Session.Basic

/-!
# Whose turn it is

Tasks have turns, one after the other, and in its turn a task goes as far as it can without waiting.
A task that can go on stands in a line; those whose moment has come join it in the order in which
they began to wait. The caller does not stand in the line: it goes first when its own moment has
come, and otherwise when the line is empty. When nobody can go on, the clock moves to the next
moment for which somebody waits, but only while the task of the caller is unfinished.

* `Session.advance`: one task, as far as it can go.
* `Session.turn`: the turn of a task.
* `Session.settle`: all turns that take no time.
* `Session.run`: the task of the caller to its end.
* `Session.letPass`: time passes.
-/

namespace EntitySearch

/-- Whether a task has come to an end. -/
def Task.isOver {α : Type} : Task α → Bool
  | .finished _ | .broken => true
  | .waiting _ | .blocked _ => false

namespace Session

/-- Counts a request as carried out. -/
def serving (session : Session) : Session := { session with served := session.served + 1 }

/-- Runs a procedure as far as it can go without waiting. -/
def advance {α : Type} (name : TaskName) (session : Session) :
    Procedure System α → Session × Task α
  | .done result => (session, .finished result)
  | .ask (.sleep delay) next =>
    if delay = .zero then advance name session (next ())
    else (session.setAlarm (session.clock + delay.limited) name, Task.waiting (next ()))
  | .ask .abandon _ => (session, .broken)
  | .ask request next =>
    match session.serve? request with
    | some (reply, session) => advance name session.serving (next reply)
    | none => (session, .blocked (.ask request next))

/-- Goes on with a task as far as it can go without waiting. -/
def resume {α : Type} (name : TaskName) (session : Session) : Task α → Session × Task α
  | .waiting rest => advance name session.serving rest
  | .blocked rest => advance name session rest
  | task => (session, task)

/-! ## Tasks that the caller has started -/

/-- Starts a task. Its number is that of tasks before. -/
def start (session : Session) (procedure : Procedure System (Except BridgeError Unit)) : Session :=
  { session with started := session.started ++ [Task.waiting procedure] }.summon
    (.started session.started.length)

/-- Carries out the request of a blocked task, if that is possible now; the task joins the line. -/
def unblock (session : Session) (number : Nat) : Session :=
  match session.started[number]? with
  | some (.blocked (.ask request next)) =>
    match session.serve? request with
    | some (reply, session) =>
      { session with started := session.started.set number (.waiting (next reply)) }.summon
        (.started number)
    | none => session
  | _ => session

/-- The turn of a task that the caller has started. Whoever was waiting for it, the longest first,
has what it asked for at once. -/
def turnStarted (session : Session) (number : Nat) : Session :=
  match session.started[number]? with
  | none => session
  | some task =>
    let (session, task) := session.resume (.started number) task
    let session := { session with started := session.started.set number task }
    (List.range session.started.length).foldl unblock session

/-! ## Writers -/

/-- Starts the next job of a queue, if its writer is free. -/
def startJob (session : Session) (number : Nat) (host : HostedQueue) : Option Session :=
  match host.job, host.queue.startNext with
  | none, some (job, queue) =>
    let procedure := host.writer.write (session.resolver host.schema) job.items
    let task := Task.waiting (procedure.expand (System.writing host.route number))
    some (session.modifyQueue number fun host => { host with queue, job := some task })
  | _, _ => none

/-- Goes on with the current job of a queue. A writer that is broken off breaks its queue down. -/
def continueJob (session : Session) (number : Nat) (task : Task (Except BridgeError Unit)) :
    Session :=
  let (session, task) := session.resume (.writer number) task
  session.modifyQueue number fun host =>
    match task with
    | .finished outcome => { host with queue := host.queue.finish outcome, job := none }
    | .broken => { host with queue := host.queue.breakDown, job := none }
    | task => { host with job := some task }

/-- The turn of a writer: up to `fuel` jobs, as far as they go without waiting. -/
def turnWriter (number : Nat) : Nat → Session → Session
  | 0, session => session
  | fuel + 1, session =>
    match session.queues[number]? with
    | none => session
    | some host =>
      match host.job with
      | some task =>
        let session := session.continueJob number task
        match (session.queues[number]?).bind (·.job) with
        | some _ => session
        | none => turnWriter number fuel session
      | none =>
        match session.startJob number host with
        | some session => turnWriter number fuel session
        | none => session

/-! ## Timers -/

/-- How long it takes from one tick of a queue's timer to the next: four ticks while an item waits
for a batch, but not more than one in every millisecond. -/
def tickLength (limits : BatchLimits) : Duration :=
  max ⟨limits.interval.nanos / 4⟩ (.ofMillis 1)

/-- Sets the timer of a queue to a moment. -/
def setTimer (session : Session) (number : Nat) (moment : Duration) : Session :=
  (session.modifyQueue number fun host => { host with timer := .running moment }).setAlarm moment
    (.timer number)

/-- The turn of a timer. It ticks until the queue takes no more jobs. -/
def turnTimer (session : Session) (number : Nat) : Session :=
  match session.queues[number]? with
  | none => session
  | some host =>
    let length := tickLength host.queue.pending.limits
    match host.timer with
    | .fresh => session.setTimer number (session.clock + length)
    | .running tick =>
      match session.perform number .tick with
      | (.ok _, session) => session.setTimer number (tick + length)
      | (.error _, session) =>
        session.modifyQueue number fun host => { host with timer := .ended }
    | .ended => session

/-! ## Turns -/

/-- The turn of a task in the line. -/
def turn (session : Session) : TaskName → Session
  | .caller => session
  | .started number => session.turnStarted number
  | .writer number =>
    let jobs := ((session.queues[number]?).map (·.queue.waiting.length)).getD 0
    turnWriter number (2 * jobs + 3) session
  | .timer number => session.turnTimer number

/-- Up to `fuel` turns of the line. -/
def settleWithin : Nat → Session → Session
  | 0, session => session
  | fuel + 1, session =>
    match session.line with
    | [] => session
    | task :: line => settleWithin fuel ({ session with line }.turn task)

/-- More turns, and more moments, than any run needs. -/
def enough : Nat := 1000000000

/-- All turns that take no time. -/
def settle (session : Session) : Session := settleWithin enough session

/-! ## Time -/

/-- The next moment for which a task waits. -/
def nextMoment? (session : Session) : Option Duration :=
  session.alarms.foldl
    (fun found alarm =>
      match found with
      | some moment => some (min moment alarm.moment)
      | none => some alarm.moment) none

/-- Moves the clock to a moment. The tasks whose moment has come join the line, except for the
caller. -/
def moveTo (session : Session) (moment : Duration) : Session :=
  let due := session.alarms.filter fun alarm => alarm.moment ≤ moment
  let session :=
    { session with
      clock := max session.clock moment
      alarms := session.alarms.filter fun alarm => !(alarm.moment ≤ moment : Bool) }
  (due.filter fun alarm => alarm.task ≠ .caller).foldl
    (fun session alarm => session.summon alarm.task) session

/-- Whether the caller waits for a moment. -/
def callerSleeps (session : Session) : Bool :=
  session.alarms.any fun alarm => alarm.task = .caller

/-- Runs the task of the caller to its end, through at most `fuel` rounds. -/
def runWithin {α : Type} : Nat → Session → Task α → Session × Task α
  | 0, session, task => (session, task)
  | fuel + 1, session, task =>
    let before := session.served
    let (session, task) :=
      if session.callerSleeps then (session, task) else session.resume .caller task
    let session := session.settle
    if task.isOver then (session, task)
    else if before < session.served then runWithin fuel session task
    else
      match session.nextMoment? with
      | some moment => runWithin fuel (session.moveTo moment) task
      | none => (session, task)

/-- Runs a procedure of the caller to its end. One that is broken off, or waits for something that
never happens, has no result. -/
def run {α : Type} (session : Session) (procedure : Procedure System α) : Session × Option α :=
  match runWithin enough session (.blocked procedure) with
  | (session, .finished result) => (session, some result)
  | (session, _) => (session, none)

/-- Lets time pass. Batches age beforehand, so that those old enough are cut at the next tick. -/
def letPass (session : Session) (time : Duration) : Session :=
  let session := { session with batchClock := session.batchClock + time }
  (session.run (System.ask (.sleep time))).1

end Session

end EntitySearch
