import AsterCtrl.Native.Interface

/-!
# The executor of the Linux runtime

`ThreadExecutor` of `platform/linux/runtime_services.hpp`.  Every definition here is what is done
in one section under the executor's mutex, so a run of the executor is a sequence of them in any
order.  The work items are of an arbitrary type `ω`.

The workers themselves are not part of the executor: `take` is the part of the loop of `Run` from
one `lock` to the next `unlock` or wait.  The clock is an argument, and so is whether the threads
could be started in `Prepare`.

Left out: `Start`, which is `Prepare` and `Activate`, and the condition variable, which only says
when it is worth looking at the queue again.
-/

namespace AsterCtrl.Linux

inductive ThreadExecutorState where
  | constructed
  | prepared
  | running
  | quiescing
  | stopped
  | failed
deriving DecidableEq, Repr

/-- `ThreadExecutor::Entry`, a slot of the queue; it is free if it has no work. -/
structure Entry (ω : Type) where
  timestampNs : UInt64 := 0
  sequence : UInt64 := 0
  work : Option ω := none
  armed : Bool := false
deriving DecidableEq, Repr

structure ThreadExecutor (ω : Type) where
  name : String
  queue : List (Entry ω)
  threadCount : Nat := 1
  size : Nat := 0
  nextSequence : UInt64 := 0
  state : ThreadExecutorState := .constructed
deriving DecidableEq, Repr

variable {ω : Type}

/-- The comparison of `NextIndex`. -/
def Entry.precedes (left right : Entry ω) : Bool :=
  left.timestampNs < right.timestampNs ∨
    (left.timestampNs = right.timestampNs ∧ left.sequence < right.sequence)

/-- The slot may be chosen by `NextIndex`. -/
def Entry.ready (entry : Entry ω) : Bool := entry.work.isSome ∧ entry.armed

/-- `entry.work && entry.sequence == ticket`. -/
def Entry.holds (entry : Entry ω) (ticket : UInt64) : Bool :=
  entry.work.isSome ∧ entry.sequence = ticket

namespace ThreadExecutor

/-- The constructor. -/
def construct (name : String) (queueDepth threads : Nat) : ThreadExecutor ω where
  name := name
  queue := List.replicate queueDepth {}
  threadCount := threads

variable (e : ThreadExecutor ω)

/-- `state_` is `kPrepared` or `kRunning`. -/
def accepting : Bool := e.state = .prepared ∨ e.state = .running

/-! ## Lifecycle -/

/-- `ThreadExecutor::Prepare`. -/
def prepare (threadsStarted : Bool) : Status × ThreadExecutor ω :=
  if e.state ≠ .constructed ∨ e.name = "" then (.invalidState, e)
  else if e.queue.length = 0 ∨ e.threadCount = 0 then (.invalidArgument, e)
  else if threadsStarted then (.ok, { e with state := .prepared })
  else (.unavailable, { e with state := .failed })

/-- `ThreadExecutor::Activate`. -/
def activate : Status × ThreadExecutor ω :=
  if e.state ≠ .prepared then (.invalidState, e) else (.ok, { e with state := .running })

/-- The first section of `Shutdown`, before it waits for the workers.  The slots keep their
    entries. -/
def quiesce : ThreadExecutor ω :=
  match e.state with
  | .stopped | .quiescing | .failed => e
  | .constructed => { e with state := .stopped }
  | .prepared | .running => { e with state := .quiescing, size := 0 }

/-- The last section of `Shutdown`, after all workers have returned. -/
def joined : ThreadExecutor ω :=
  if e.state = .quiescing then { e with state := .stopped } else e

/-! ## The queue -/

/-- `ThreadExecutor::Enqueue`; the ticket is `none` if the item is not stored. -/
def enqueue (work : Option ω) (timestampNs : UInt64) (armed : Bool) :
    Status × Option UInt64 × ThreadExecutor ω :=
  if work.isNone then (.invalidArgument, none, e)
  else if e.accepting = false then (.invalidState, none, e)
  else if e.size = e.queue.length then (.capacityExceeded, none, e)
  else
    match e.queue.findIdx? fun entry => entry.work.isNone with
    | none => (.ok, none, e)
    | some index =>
      (.ok, some e.nextSequence, { e with
        queue := e.queue.set index ⟨timestampNs, e.nextSequence, work, armed⟩
        size := e.size + 1
        nextSequence := e.nextSequence + 1 })

/-- `ThreadExecutor::TryPostAt`. -/
def tryPostAt (timestampNs : UInt64) (work : Option ω) (interrupt : Bool) :
    Status × ThreadExecutor ω :=
  if work.isNone ∨ interrupt then (.invalidArgument, e)
  else
    let enqueued := e.enqueue work timestampNs true
    (enqueued.1, enqueued.2.2)

/-- `ThreadExecutor::TryPost`, with the time that it reads from the clock. -/
def tryPost (nowNs : UInt64) (work : Option ω) (interrupt : Bool) : Status × ThreadExecutor ω :=
  e.tryPostAt nowNs work interrupt

/-- `ThreadExecutor::Reserve`. -/
def reserve (work : Option ω) : Status × Option UInt64 × ThreadExecutor ω :=
  e.enqueue work 0 false

/-- `ThreadExecutor::ScheduleReserved`. -/
def scheduleReserved (ticket timestampNs : UInt64) : Status × ThreadExecutor ω :=
  if e.accepting = false then (.invalidState, e)
  else
    match e.queue.findIdx? fun entry => entry.holds ticket with
    | none => (.notFound, e)
    | some index =>
      (.ok, { e with
        queue := e.queue.modify index fun entry =>
          { entry with timestampNs := timestampNs, armed := true } })

/-- `ThreadExecutor::CancelReserved`. -/
def cancelReserved (ticket : UInt64) : Status × ThreadExecutor ω :=
  if e.accepting = false then (.invalidState, e)
  else
    match e.queue.findIdx? fun entry => entry.holds ticket with
    | none => (.notFound, e)
    | some index => (.ok, { e with queue := e.queue.set index {}, size := e.size - 1 })

/-- The local variable `result` of `NextIndex` after it has looked at the first `count` slots. -/
def nextIndexUpTo (queue : List (Entry ω)) : (count : Nat) → Nat
  | 0 => queue.length
  | index + 1 =>
    let result := nextIndexUpTo queue index
    match queue[index]? with
    | none => result
    | some entry =>
      if entry.ready = false then result
      else
        match queue[result]? with
        | none => index
        | some best => if entry.precedes best then index else result

/-- `ThreadExecutor::NextIndex`. -/
def nextIndex (queue : List (Entry ω)) : Nat := nextIndexUpTo queue queue.length

/-- One round of the loop of `Run`: the entry a worker takes and the executor it leaves, or `none`
    if the worker waits or returns. -/
def take (nowNs : UInt64) : Option (Entry ω × ThreadExecutor ω) :=
  if e.state ≠ .running then none
  else
    let index := nextIndex e.queue
    match e.queue[index]? with
    | none => none
    | some entry =>
      if entry.timestampNs > nowNs then none
      else some (entry, { e with queue := e.queue.set index {}, size := e.size - 1 })

end ThreadExecutor

end AsterCtrl.Linux
