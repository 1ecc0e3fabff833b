import AsterCtrl.Native.Interface

/-!
# The executor of the Zephyr runtime

`ThreadExecutor` of `platform/zephyr/runtime_services.hpp`.  The message queue is a bounded FIFO,
the semaphores have a limit of one, and a `k_sem_take` with a delay waits until that time.

The thread of the executor is part of its state: `workerStep` is what it does up to the next point
at which another thread can see or change something.  The calls that `Shutdown` makes after it has
changed the state are separate definitions for the same reason.

Left out: `TryPost`, which is `TryPostAt` with a time read from the clock before, the checks of
`Shutdown` for being called in an interrupt or from the thread itself, which end the program, and
the execution scope.
-/

namespace AsterCtrl.Zephyr

/-- `ThreadExecutor::State`. -/
inductive ThreadExecutorState where
  | constructed
  | prepared
  | running
  | quiescing
  | stopped
  | failed
deriving DecidableEq, Repr

/-- `ThreadExecutor::Entry`; one without work tells the thread to return. -/
structure Entry (ω : Type) where
  timestampNs : UInt64 := 0
  work : Option ω := none
deriving DecidableEq, Repr

/-- Where the thread is in `Run`. -/
inductive Worker (ω : Type) where
  /-- The thread has not been created. -/
  | absent
  /-- In `k_sem_take` of `run_gate_`. -/
  | gated
  /-- In `k_msgq_get`. -/
  | idle
  /-- It has got an entry. -/
  | got (entry : Entry ω)
  /-- The entry has work and the executor was running. -/
  | checked (entry : Entry ω)
  /-- In `k_sem_take` of `delay_gate_`. -/
  | waiting (entry : Entry ω)
  /-- The time of the entry has come. -/
  | due (entry : Entry ω)
  /-- In the work of the entry. -/
  | running (entry : Entry ω)
  | returned
deriving DecidableEq, Repr

structure ThreadExecutor (ω : Type) where
  name : String
  /-- `stack_ != nullptr && stack_size_ != 0`. -/
  hasStack : Bool := true
  capacity : Nat
  queue : List (Entry ω) := []
  runGate : Bool := false
  delayGate : Bool := false
  state : ThreadExecutorState := .constructed
  worker : Worker ω := .absent
deriving DecidableEq, Repr

namespace ThreadExecutor

variable {ω : Type} (e : ThreadExecutor ω)

/-- `ThreadExecutor::Prepare`. -/
def prepare (threadCreated : Bool) : Status × ThreadExecutor ω :=
  if e.name = "" ∨ e.hasStack = false then (.invalidState, e)
  else if e.state ≠ .constructed then (.invalidState, e)
  else if threadCreated then (.ok, { e with state := .prepared, worker := .gated })
  else (.unavailable, { e with state := .failed })

/-- `ThreadExecutor::Activate`. -/
def activate : Status × ThreadExecutor ω :=
  if e.state ≠ .prepared then (.invalidState, e)
  else (.ok, { e with state := .running, runGate := true })

/-- `ThreadExecutor::TryPostAt`. -/
def tryPostAt (timestampNs : UInt64) (work : Option ω) : Status × ThreadExecutor ω :=
  if work.isNone then (.invalidArgument, e)
  else if e.state ≠ .prepared ∧ e.state ≠ .running then (.invalidState, e)
  else if e.queue.length < e.capacity then
    (.ok, { e with queue := e.queue ++ [⟨timestampNs, work⟩] })
  else (.capacityExceeded, e)

/-- What the thread does next; `nowNs` is the time. -/
def workerStep (nowNs : UInt64) : ThreadExecutor ω :=
  match e.worker with
  | .absent | .returned => e
  | .gated => if e.runGate then { e with runGate := false, worker := .idle } else e
  | .idle =>
    match e.queue with
    | [] => e
    | entry :: queue => { e with queue := queue, worker := .got entry }
  | .got entry =>
    if entry.work.isNone ∨ e.state ≠ .running then { e with worker := .returned }
    else { e with worker := .checked entry }
  | .checked entry =>
    if entry.timestampNs > nowNs then { e with worker := .waiting entry }
    else { e with worker := .due entry }
  | .waiting entry =>
    if e.delayGate then { e with delayGate := false, worker := .returned }
    else if nowNs < entry.timestampNs then e
    else if e.state ≠ .running then { e with worker := .returned }
    else { e with worker := .due entry }
  | .due entry =>
    if e.state ≠ .running then { e with worker := .returned }
    else { e with worker := .running entry }
  | .running _ => { e with worker := .idle }

/-! ## Shutdown -/

/-- The first section of `Shutdown`. -/
def quiesce : ThreadExecutor ω :=
  match e.state with
  | .stopped | .failed | .quiescing => e
  | .constructed => { e with state := .stopped }
  | .prepared | .running => { e with state := .quiescing }

/-- `k_msgq_purge`. -/
def purge : ThreadExecutor ω := { e with queue := [] }

/-- `k_msgq_put` of the entry without work. -/
def putStop : ThreadExecutor ω :=
  if e.queue.length < e.capacity then { e with queue := e.queue ++ [{}] } else e

/-- `k_sem_give` of `run_gate_`. -/
def giveRunGate : ThreadExecutor ω := { e with runGate := true }

/-- `k_sem_give` of `delay_gate_`. -/
def giveDelayGate : ThreadExecutor ω := { e with delayGate := true }

/-- The last section of `Shutdown`, after the thread has returned. -/
def joined : ThreadExecutor ω :=
  if e.state = .quiescing then { e with state := .stopped } else e

end ThreadExecutor

end AsterCtrl.Zephyr
