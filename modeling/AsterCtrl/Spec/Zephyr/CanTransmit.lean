import AsterCtrl.ForStd.List
import AsterCtrl.Spec.Zephyr.CanSystem
import AsterCtrl.Spec.Zephyr.TransmitQueue

/-!
# The transmit queue of a CAN device

The threads that call a CAN device and the callbacks of its driver use its transmit queue as a
`TransmitQueue`, so frames go to the controller in order and one at a time, and none is lost from
the counters.  The counters of a frame whose completion is being handled lag behind, as
`TransmitComplete` clears `tx_in_flight_` before it counts the frame and does not hold the control
mutex.

## Key results

- `step_transmit`: the actions of the system are steps of a `TransmitQueue`
- `transmits_run`: order, one frame in the controller at a time, and the sum of the counters
- `counters_differ_in_callback`: a callback between its two atomic operations
-/

namespace AsterCtrl.Zephyr

open Can (CanFrame)

/-- The offer that the holder of the control mutex has made to the driver. -/
def Control.offer {τ : Type} : Control τ → Offer NativeFrame
  | .sending frame _ => .offered frame
  | .sent frame _ => .accepted frame
  | _ => .idle

variable {τ : Type}

@[simp] theorem AfterPump.offer_control (after : AfterPump τ) : after.control.offer = .idle := by
  cases after <;> rfl

theorem AfterPump.control_ne (after : AfterPump τ) (status : Status) :
    after.control ≠ .startWaiting status := by
  cases after <;> exact nofun

theorem PollRound.control_ne (round : PollRound τ) (status : Status) :
    round.control ≠ .startWaiting status := by
  cases round <;> exact nofun

@[simp] theorem PollRound.offer_control (round : PollRound τ) : round.control.offer = .idle := by
  cases round <;> rfl

/-- The frames whose fate the counters tell. -/
def CanDeviceStats.settled (stats : CanDeviceStats) : UInt32 :=
  stats.txCompletions + stats.txFailures + stats.txAborted

namespace CanDeviceAdapter

variable {τ : Type}

def life (a : CanDeviceAdapter τ) : QueueLife :=
  match a.state with
  | .stopped => if a.retired then .closed else .fresh
  | .starting => .fresh
  | .running => .running
  | .stopping | .stopFailed => .closing

/-- A transmit queue with the fields that the adapter holds. -/
def put (a : CanDeviceAdapter τ) (q : TransmitQueue NativeFrame) : TransmitQueue NativeFrame :=
  { q with
    life := a.life
    queue := a.transmitQueue
    inFlight := a.txInFlight
    frames := a.stats.txFrames
    settled := a.stats.settled }

open TransmitQueue (Step)

variable (stats : CanDeviceStats) (error : DriverResult)

theorem settled_countRefused : (countRefused stats error).settled = stats.settled + 1 := by
  unfold countRefused CanDeviceStats.settled
  split_ifs <;> grind

theorem settled_countCompleted : (countCompleted stats error).settled = stats.settled + 1 := by
  unfold countCompleted
  split_ifs
  · unfold CanDeviceStats.settled
    grind
  · exact settled_countRefused stats error

@[simp] theorem txFrames_countRefused : (countRefused stats error).txFrames = stats.txFrames := by
  unfold countRefused
  split_ifs <;> rfl

@[simp] theorem txFrames_countCompleted :
    (countCompleted stats error).txFrames = stats.txFrames := by
  unfold countCompleted
  split_ifs
  · rfl
  · exact txFrames_countRefused stats error

variable (a : CanDeviceAdapter τ) (q : TransmitQueue NativeFrame)

theorem start_put (valid interrupt deviceReady : Bool) (filterResult startResult : DriverResult) :
    Step (a.put q) ((a.start valid interrupt deviceReady filterResult startResult).2.put q) := by
  unfold start
  dsimp only
  split_ifs with hvalid hstate hretired hready hfilter hstart
  · exact .stay _
  · exact .stay _
  · exact .stay _
  · exact .stay _
  all_goals
    rw [not_not] at hstate
    have hretired : a.retired = false := by simp_all
    have hfresh : (a.put q).life = .fresh := by simp [put, life, hstate, hretired]
  · refine .of_eq (.start _ .fresh hfresh (.inl rfl)) ?_
    simp [put, life, detachCallbacks, CanDeviceStats.settled, hretired]
  · exact .start _ .fresh hfresh (.inl rfl)
  · exact .start _ .running hfresh (.inr rfl)

theorem send_put (hidle : q.offer = .idle) (frame : CanFrame) (interrupt : Bool) :
    match (a.send frame interrupt).1 with
    | .ok _ => Step (a.put q) ((a.send frame interrupt).2.put
        { q with admitted := q.admitted ++ [.ofCanFrame frame] })
    | .error _ => Step (a.put q) ((a.send frame interrupt).2.put q) := by
  unfold send
  split_ifs with hvalid hstate hroom
  · exact .stay _
  · exact .stay _
  · rw [not_not] at hstate
    have hrunning : (a.put q).life = .running := by simp [put, life, hstate]
    exact .admitFrame _ (.ofCanFrame frame) hrunning hidle
  · exact .stay _

theorem stop_put [DecidableEq τ] (hidle : q.offer = .idle) (thread : τ) (interrupt : Bool)
    (stopResult : DriverResult) :
    Step (a.put q) ((a.stop thread interrupt stopResult).2.put q) := by
  unfold stop
  dsimp only
  split_ifs with hvalid hstopped hstate hstop
  · exact .stay _
  · exact .stay _
  · exact .stay _
  all_goals
    have hlife : (a.put q).life = .running ∨ (a.put q).life = .closing := by
      simp only [put, life]
      grind
    refine .of_eq (.discard _ hlife hidle) ?_
    simp [put, life, abortQueuedTransmits, detachCallbacks, CanDeviceStats.settled, UInt32.add_assoc]

/-- The frame that goes to the driver is the first one. -/
theorem pumpTransmit_put (hidle : q.offer = .idle) :
    match a.pumpTransmit with
    | (some frame, a') => Step (a.put q) (a'.put { q with offer := .offered frame })
    | (none, a') => a' = a := by
  unfold pumpTransmit
  split_ifs with hready
  · obtain ⟨hstate, hflight⟩ := hready
    cases hqueue : a.transmitQueue with
    | nil => rfl
    | cons frame rest =>
      have hrunning : (a.put q).life = .running := by simp [put, life, hstate]
      refine .of_eq (.offer _ frame rest hrunning hidle hqueue hflight) ?_
      simp [put, life, CanDeviceStats.settled, hqueue]
  · rfl

theorem sendRefused_put (frame : NativeFrame) (hoffer : q.offer = .offered frame)
    (error : DriverResult) :
    Step (a.put q) ((a.sendRefused error).put { q with offer := .idle }) := by
  unfold sendRefused
  dsimp only
  split_ifs with hfull
  · exact .postpone _ frame hoffer
  · refine .of_eq (.refuse _ frame hoffer) ?_
    simp [put, life, settled_countRefused]

/-- `Poll` does not touch the transmit queue between the calls of `PumpTransmitLocked`. -/
theorem pollRound_put (call : PollCall τ) : (a.pollRound call).2.put q = a.put q := by
  unfold pollRound
  split_ifs
  · split
    · rfl
    · dsimp only
      split_ifs <;> rfl
  · rfl

theorem pollAccepted_put (call : PollCall τ) (status : Status) :
    (a.pollAccepted call status).2.put q = a.put q := by
  unfold pollAccepted
  dsimp only
  split_ifs <;> rfl

theorem stopFinished_put (hidle : q.offer = .idle) : Step (a.put q) (a.stopFinished.put q) := by
  refine .of_eq (.close _ hidle) ?_
  cases hflight : a.txInFlight <;> simp [put, life, stopFinished, CanDeviceStats.settled, hflight, UInt32.add_assoc]

end CanDeviceAdapter

/-- `TransmitComplete` may still clear `tx_in_flight_`. -/
def Callback.isCompleting : Callback → Bool
  | .completeEntered _ | .completeAttached _ => true
  | _ => false

/-- `TransmitComplete` has cleared `tx_in_flight_` and not counted the frame. -/
def Callback.isCounting : Callback → Bool
  | .completeCleared _ => true
  | _ => false

namespace CanDeviceAdapter

/-- If `Start` has to wait for the callbacks, the device is neither stopped nor retired. -/
theorem starting_of_start_ok {τ : Type} (a : CanDeviceAdapter τ)
    {valid interrupt deviceReady : Bool} {filterResult startResult : DriverResult}
    {status : Status}
    (h : (a.start valid interrupt deviceReady filterResult startResult).1 = .ok status) :
    let started := (a.start valid interrupt deviceReady filterResult startResult).2
    started.state = .starting ∧ started.retired = false := by
  unfold start at h ⊢
  dsimp only at h ⊢
  split_ifs at h ⊢ with hvalid hstate hretired
  simp_all [detachCallbacks]

@[simp] theorem state_callback {τ : Type} (a : CanDeviceAdapter τ) (nowNs : UInt64)
    (callback : Callback) : (a.callback nowNs callback).2.state = a.state := by
  cases callback <;> simp only [CanDeviceAdapter.callback] <;> split_ifs <;> rfl

@[simp] theorem retired_callback {τ : Type} (a : CanDeviceAdapter τ) (nowNs : UInt64)
    (callback : Callback) : (a.callback nowNs callback).2.retired = a.retired := by
  cases callback <;> simp only [CanDeviceAdapter.callback] <;> split_ifs <;> rfl

end CanDeviceAdapter

/-- The operations of `Receive`, and the last one of a callback, do not touch the transmit queue. -/
theorem CanDeviceAdapter.callback_put_of_other (a : CanDeviceAdapter τ)
    (q : TransmitQueue NativeFrame) (nowNs : UInt64) {callback : Callback}
    (hcompleting : callback.isCompleting = false) (hcounting : callback.isCounting = false) :
    (a.callback nowNs callback).2.put q = a.put q ∧
      ∀ new, (a.callback nowNs callback).1 = some new →
        new.isCompleting = false ∧ new.isCounting = false := by
  cases callback with
  | completeEntered error => cases hcompleting
  | completeAttached error => cases hcompleting
  | completeCleared error => cases hcounting
  | receiveEntered frame =>
    refine ⟨rfl, fun new hnew => ?_⟩
    cases hnew
    split_ifs <;> exact ⟨rfl, rfl⟩
  | receiveAttached frame =>
    refine ⟨rfl, fun new hnew => ?_⟩
    cases hnew
    split_ifs <;> exact ⟨rfl, rfl⟩
  | receiveRunning frame =>
    simp only [callback]
    split_ifs <;> exact ⟨rfl, fun new hnew => by cases hnew; exact ⟨rfl, rfl⟩⟩
  | receiveOffered queued =>
    cases queued <;> exact ⟨rfl, fun new hnew => by cases hnew; exact ⟨rfl, rfl⟩⟩
  | leaving => exact ⟨rfl, by exact nofun⟩

namespace CanSystem

variable {τ : Type}

/-- What the transmit queue of the device is to its threads and to the driver. -/
def transmit (s : CanSystem τ) : TransmitQueue NativeFrame where
  life := s.adapter.life
  queue := s.adapter.transmitQueue
  inFlight := s.adapter.txInFlight
  offer := s.control.offer
  controller := s.controller
  completing := s.callbacks.countP Callback.isCompleting
  counting := s.callbacks.countP Callback.isCounting
  frames := s.adapter.stats.txFrames
  settled := s.adapter.stats.settled
  admitted := s.admitted
  accepted := s.accepted

open TransmitQueue (Step)

variable (s : CanSystem τ)

/-- What a thread does beside the transmit queue. -/
theorem transmit_of_put {adapter : CanDeviceAdapter τ} {control : Control τ}
    (polls : List (PollCall τ)) (stops : List τ) (hput : adapter.put s.transmit = s.transmit)
    (hoffer : control.offer = s.control.offer) :
    ({ s with
      adapter := adapter, control := control, polls := polls, stops := stops } :
      CanSystem τ).transmit = s.transmit := by
  calc _ = { adapter.put s.transmit with offer := control.offer } := rfl
    _ = s.transmit := by
      rw [hput, hoffer]
      rfl

/-- While `Start` waits for the callbacks, the device has not been started. -/
def Waiting (s : CanSystem τ) : Prop :=
  ∀ status, s.control = .startWaiting status →
    s.adapter.state = .starting ∧ s.adapter.retired = false

variable [DecidableEq τ]

/-- `Receive` performs an operation, or a callback returns. -/
theorem callback_transmit_of_other {index : Nat} (nowNs : UInt64) {callback : Callback}
    (hcallback : s.callbacks[index]? = some callback) (hcompleting : callback.isCompleting = false)
    (hcounting : callback.isCounting = false) :
    (s.step (.callback index nowNs)).transmit = s.transmit := by
  obtain ⟨hput, hnew⟩ :=
    s.adapter.callback_put_of_other s.transmit nowNs hcompleting hcounting
  simp only [step, hcallback]
  -- The counts do not change, neither if the callback goes on nor if it returns.
  have hset (p : Callback → Bool) (new : Callback) :=
    List.countP_set_add_ite p new hcallback
  have herase (p : Callback → Bool) := List.countP_eraseIdx_add_ite p hcallback
  cases hresult : (s.adapter.callback nowNs callback).1 with
  | none =>
    have hfirst := herase Callback.isCompleting
    have hsecond := herase Callback.isCounting
    rw [hcompleting, if_neg Bool.false_ne_true, Nat.add_zero] at hfirst
    rw [hcounting, if_neg Bool.false_ne_true, Nat.add_zero] at hsecond
    calc _ = { (s.adapter.callback nowNs callback).2.put s.transmit with
              completing := (s.callbacks.eraseIdx index).countP Callback.isCompleting
              counting := (s.callbacks.eraseIdx index).countP Callback.isCounting } := rfl
      _ = s.transmit := by
        rw [hput, hfirst, hsecond]
        rfl
  | some new =>
    obtain ⟨hcompleting', hcounting'⟩ := hnew new hresult
    have hfirst := hset Callback.isCompleting new
    have hsecond := hset Callback.isCounting new
    rw [hcompleting, hcompleting', Nat.add_right_cancel_iff] at hfirst
    rw [hcounting, hcounting', Nat.add_right_cancel_iff] at hsecond
    calc _ = { (s.adapter.callback nowNs callback).2.put s.transmit with
              completing := (s.callbacks.set index new).countP Callback.isCompleting
              counting := (s.callbacks.set index new).countP Callback.isCounting } := rfl
      _ = s.transmit := by
        rw [hput, hfirst, hsecond]
        rfl

/-- A callback performs an operation. -/
theorem callback_transmit (index : Nat) (nowNs : UInt64) :
    Step s.transmit (s.step (.callback index nowNs)).transmit := by
  cases hcallback : s.callbacks[index]? with
  | none =>
    simp only [step, hcallback]
    exact .stay _
  | some callback =>
    have hcompleting (new : Callback) :=
      List.countP_set_add_ite Callback.isCompleting new hcallback
    have hcounting (new : Callback) :=
      List.countP_set_add_ite Callback.isCounting new hcallback
    cases callback with
    | completeEntered error =>
      cases howner : s.adapter.isOwner with
      | true =>
        refine .of_eq (.stay _) ?_
        specialize hcompleting (.completeAttached error)
        specialize hcounting (.completeAttached error)
        simp_all [step, transmit, CanDeviceAdapter.callback, Callback.isCompleting, Callback.isCounting]
      | false =>
        specialize hcompleting .leaving
        specialize hcounting .leaving
        simp only [Callback.isCompleting, Callback.isCounting, if_true, if_false,
          Bool.false_eq_true, Nat.add_zero] at hcompleting hcounting
        refine .of_eq (.leave _ _ hcompleting.symm) ?_
        simp [step, hcallback, transmit, CanDeviceAdapter.callback, howner, hcounting]
    | completeAttached error =>
      cases hflight : s.adapter.txInFlight with
      | true =>
        specialize hcompleting (.completeCleared error)
        specialize hcounting (.completeCleared error)
        simp only [Callback.isCompleting, Callback.isCounting, if_true, if_false,
          Bool.false_eq_true, Nat.add_zero] at hcompleting hcounting
        refine .of_eq (.clear _ _ hcompleting.symm hflight) ?_
        simp [step, hcallback, transmit, CanDeviceAdapter.callback, CanDeviceAdapter.life, hflight, hcounting]
      | false =>
        specialize hcompleting .leaving
        specialize hcounting .leaving
        simp only [Callback.isCompleting, Callback.isCounting, if_true, if_false,
          Bool.false_eq_true, Nat.add_zero] at hcompleting hcounting
        refine .of_eq (.leave _ _ hcompleting.symm) ?_
        simp [step, hcallback, transmit, CanDeviceAdapter.callback, hflight, hcounting]
    | completeCleared error =>
      specialize hcompleting .leaving
      specialize hcounting .leaving
      simp only [Callback.isCompleting, Callback.isCounting, if_true, if_false,
        Bool.false_eq_true, Nat.add_zero] at hcompleting hcounting
      refine .of_eq (.settle _ _ hcounting.symm) ?_
      simp only [step, hcallback, transmit, CanDeviceAdapter.callback, hcompleting,
        CanDeviceAdapter.settled_countCompleted, CanDeviceAdapter.txFrames_countCompleted]
      rfl
    | _ => exact .of_eq (.stay _) (s.callback_transmit_of_other nowNs hcallback rfl rfl)

/-- The actions of threads, of the driver and of callbacks are steps of a transmit queue. -/
theorem step_transmit (hwaiting : s.Waiting) (action : CanAction τ) :
    Step s.transmit (s.step action).transmit := by
  cases action with
  | start thread valid interrupt deviceReady filterResult startResult =>
    simp only [step]
    split_ifs with hcall
    · have hfree : s.control = .free := by simp_all [mayCall]
      refine .of_eq (s.adapter.start_put s.transmit valid interrupt deviceReady filterResult
        startResult) ?_
      simp only [transmit, CanDeviceAdapter.put, hfree]
      congr 1
      split <;> rfl
    · exact .stay _
  | send thread frame interrupt =>
    simp only [step]
    split_ifs with hcall
    · have hfree : s.control = .free := by simp_all [mayCall]
      have hidle : s.transmit.offer = .idle := by simp [transmit, hfree, Control.offer]
      have hsend := s.adapter.send_put s.transmit hidle frame interrupt
      cases hresult : (s.adapter.send frame interrupt).1 with
      | ok _ =>
        rw [hresult] at hsend
        refine .of_eq hsend ?_
        simp [transmit, CanDeviceAdapter.put, hfree, Control.offer]
      | error _ =>
        rw [hresult] at hsend
        exact hsend
    · exact .stay _
  | poll thread interrupt =>
    simp only [step]
    split_ifs with hcall
    · have hfree : s.control = .free := by simp_all [mayCall]
      split
      · refine .of_eq (.stay _) (s.transmit_of_put _ _ rfl ?_)
        rw [hfree]
        rfl
      · exact .stay _
    · exact .stay _
  | stop thread interrupt stopResult =>
    simp only [step]
    split_ifs with hcall
    · have hfree : s.control = .free := by simp_all [mayCall]
      have hidle : s.transmit.offer = .idle := by simp [transmit, hfree, Control.offer]
      have hstop := s.adapter.stop_put s.transmit hidle thread interrupt stopResult
      split
      · refine .of_eq hstop ?_
        simp [transmit, CanDeviceAdapter.put, hfree, Control.offer]
      · exact hstop
      · exact hstop
    · exact .stay _
  | pump =>
    simp only [step]
    split
    · rename_i after hcontrol
      have hidle : s.transmit.offer = .idle := by simp [transmit, hcontrol, Control.offer]
      have hpump := s.adapter.pumpTransmit_put s.transmit hidle
      split
      · rename_i frame adapter hresult
        rw [hresult] at hpump
        exact hpump
      · rename_i adapter hresult
        rw [hresult] at hpump
        obtain rfl : adapter = s.adapter := hpump
        refine .of_eq (.stay _) (s.transmit_of_put _ _ rfl ?_)
        rw [hcontrol, AfterPump.offer_control]
        rfl
    · exact .stay _
  | accept =>
    simp only [step]
    split
    · rename_i frame after hcontrol
      exact .accept _ frame (by simp [transmit, hcontrol, Control.offer])
    · exact .stay _
  | refuse error =>
    simp only [step]
    split
    · rename_i frame after hcontrol
      split_ifs
      · exact .stay _
      · have hoffer : s.transmit.offer = .offered frame := by
          simp [transmit, hcontrol, Control.offer]
        refine .of_eq (s.adapter.sendRefused_put s.transmit frame hoffer error) ?_
        simp [transmit, CanDeviceAdapter.put]
    · exact .stay _
  | sent =>
    simp only [step]
    split
    · rename_i frame after hcontrol
      exact .take _ frame (by simp [transmit, hcontrol, Control.offer])
    · exact .stay _
  | pollRound =>
    simp only [step]
    split
    · rename_i call hcontrol
      have hround := s.adapter.pollRound_put s.transmit call
      refine .of_eq (.stay _) (s.transmit_of_put _ _ hround ?_)
      rw [hcontrol, PollRound.offer_control]
      rfl
    · exact .stay _
  | returned thread status =>
    simp only [step]
    split
    · rename_i call polls hpolls
      split_ifs with hcall
      · have hfree : s.control = .free := by simp_all [mayCall]
        have haccepted := s.adapter.pollAccepted_put s.transmit call status
        refine .of_eq (.stay _) (s.transmit_of_put _ _ haccepted ?_)
        rw [hfree, PollRound.offer_control]
        rfl
      · exact .stay _
    · exact .stay _
  | relock thread =>
    simp only [step]
    split_ifs with hcall
    · refine .of_eq (.stay _) (s.transmit_of_put _ _ rfl ?_)
      rw [hcall.1]
      rfl
    · exact .stay _
  | waited =>
    simp only [step]
    split_ifs with hactive
    · split
      · rename_i status hcontrol
        obtain ⟨hstate, hretired⟩ := hwaiting status hcontrol
        refine .of_eq (.stay _) ?_
        simp [transmit, CanDeviceAdapter.startFailed, CanDeviceAdapter.life, hstate, hretired,
          hcontrol, Control.offer]
      · rename_i hcontrol
        have hidle : s.transmit.offer = .idle := by simp [transmit, hcontrol, Control.offer]
        refine .of_eq (s.adapter.stopFinished_put s.transmit hidle) ?_
        simp [transmit, CanDeviceAdapter.put, hcontrol, Control.offer]
      · exact .stay _
    · exact .stay _
  | complete index error =>
    simp only [step]
    split_ifs with hindex
    · refine .of_eq (.complete _ index hindex) ?_
      simp only [transmit, List.countP_append, List.countP_singleton]
      rfl
    · exact .stay _
  | receive frame =>
    refine .of_eq (.stay _) ?_
    simp only [step, transmit, List.countP_append, List.countP_singleton]
    rfl
  | callback index nowNs => exact s.callback_transmit index nowNs

/-- Only `Start` goes on to wait before the device runs. -/
theorem waiting_step {s : CanSystem τ} (h : s.Waiting) (action : CanAction τ) :
    (s.step action).Waiting := by
  intro status hcontrol
  cases action with
  | start thread valid interrupt deviceReady filterResult startResult =>
    simp only [step] at hcontrol ⊢
    split_ifs at hcontrol ⊢ with hcall
    · dsimp only at hcontrol
      split at hcontrol
      · rename_i status hresult
        exact s.adapter.starting_of_start_ok hresult
      · cases hcontrol
    · exact h status hcontrol
  | callback index nowNs =>
    simp only [step] at hcontrol ⊢
    split at hcontrol
    · exact h status hcontrol
    · simp only [CanDeviceAdapter.state_callback, CanDeviceAdapter.retired_callback]
      exact h status hcontrol
  | receive frame => exact h status hcontrol
  | _ =>
    -- The mutex is free before the action, or its holder does not go on to wait.
    simp only [step, Waiting] at h hcontrol ⊢
    grind [mayCall, AfterPump.control_ne, PollRound.control_ne, CanDeviceAdapter.enter]

/-! ## Runs -/

/-- What holds of the transmit queue: the driver has accepted a subsequence of the frames that
    `Send` admitted, at most one frame is in the controller, and while the control mutex is free
    every frame is in the queue, in flight or counted, except those whose completion has been
    handled up to the counting. -/
structure Transmits (s : CanSystem τ) : Prop where
  order : s.accepted.Sublist s.admitted
  controller_le : s.controller.length ≤ 1
  counted : s.control = .free →
    s.adapter.stats.txFrames =
      s.adapter.stats.txCompletions + s.adapter.stats.txFailures + s.adapter.stats.txAborted +
        UInt32.ofNat s.adapter.transmitQueue.length + (if s.adapter.txInFlight then 1 else 0) +
        UInt32.ofNat (s.callbacks.countP Callback.isCounting)

omit [DecidableEq τ] in
theorem transmits_of_inv {s : CanSystem τ} (h : s.transmit.Inv) : s.Transmits where
  order := (List.sublist_append_left _ _).trans h.order
  controller_le := (Nat.le_add_right _ _).trans h.flight.outstanding_le
  counted hfree := by
    have hconserved := h.conserved
    have hsurplus : s.transmit.surplus = 0 := by
      simp [TransmitQueue.surplus, transmit, hfree, Control.offer]
    rwa [hsurplus, UInt32.add_zero] at hconserved

omit [DecidableEq τ] in
theorem inv_construct (receiveQueueDepth transmitQueueDepth : Nat) (callbackFenceBound : Bool) :
    (construct receiveQueueDepth transmitQueueDepth callbackFenceBound :
      CanSystem τ).transmit.Inv where
  flight := by
    constructor <;> simp [transmit, construct, TransmitQueue.outstanding, Control.offer]
  conserved := rfl
  order := .slnil

/-- Frames go to the controller in order and one at a time, and the counters account for all of
    them, in every run of threads, driver and callbacks. -/
theorem transmits_run (receiveQueueDepth transmitQueueDepth : Nat) (callbackFenceBound : Bool)
    (actions : List (CanAction τ)) :
    (Machine.run step (construct receiveQueueDepth transmitQueueDepth callbackFenceBound)
      actions).Transmits := by
  have hinv := Machine.run_invariant step (I := fun s : CanSystem τ => s.Waiting ∧ s.transmit.Inv)
    (fun s action h => ⟨waiting_step h.1 action, h.2.step (s.step_transmit h.1 action)⟩)
    ⟨by exact nofun, inv_construct receiveQueueDepth transmitQueueDepth callbackFenceBound⟩
    actions
  exact transmits_of_inv hinv.2

/-- A thread sends a frame and the driver completes it.  Between the two operations of the
    callback the frame is not in flight any more and has not been counted, and the control mutex
    is free. -/
theorem counters_differ_in_callback :
    let s : CanSystem Unit := Machine.run step (construct 16 16 true)
      [.start () true false true .success .success, .send () {} false, .pump, .accept, .sent, .pump,
        .complete 0 .success, .callback 0 0, .callback 0 0]
    s.control = .free ∧ s.adapter.stats.txFrames = 1 ∧
      s.adapter.stats.txCompletions + s.adapter.stats.txFailures + s.adapter.stats.txAborted +
        UInt32.ofNat s.adapter.transmitQueue.length +
        (if s.adapter.txInFlight then 1 else 0) = 0 := by
  decide

end CanSystem

end AsterCtrl.Zephyr
