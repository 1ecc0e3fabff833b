import AsterCtrl.ForStd.List
import AsterCtrl.Native.Can.RpcLink
import AsterCtrl.Spec.Can.RpcClientSteps

/-!
# Every accepted call is completed once

A sealed `CanRpcClient` on its own, under any order of `CallAsync`, `Accept`, `Poll` and
`ResetPeer`: the frames are arbitrary, so nothing is assumed about the server or the bus.  The
completion of a call may make further calls.  Since the completion is the last thing that the
three other operations do, its calls are made on the client they leave behind.

Every `CallAsync` gets its position in the history as completion handle, so the handles tell
the calls apart even when the request ids wrap around.

## Key results

- `completedOnce_run`: accepted calls are completed exactly once or pending, rejected calls
  never, and a response completes only the call with its request id and sequence
-/

namespace AsterCtrl.Can

/-- The arguments of `CallAsync`, with the clock and the writer it finds. -/
structure CallArguments where
  descriptor : ServiceDescriptor
  request : List UInt8
  deadlineNs : UInt64
  /-- Whether the completion pointer is null. -/
  nullCompletion : Bool := false
  clock : ClockReading
  outcome : Nat → Status

/-- A call that was made: what `CallAsync` returned, and the request id and sequence that the
    client then had. -/
structure MadeCall where
  status : Status
  requestId : UInt32
  sequence : UInt8
deriving DecidableEq, Repr

/-- Which operation invoked a completion. -/
inductive CompletionSource where
  | response (received : ReceiveResult)
  | timeout
  | peerReset

/-- A client with the calls made on it and the completions it invoked. -/
structure RpcClientHistory (service : RpcService) where
  client : CanRpcClient service Nat
  calls : List MadeCall := []
  completions : List (CompletionSource × RpcCompletion Nat) := []

inductive RpcClientAction where
  | callAsync (arguments : CallArguments)
  | accept (frame : CanFrame) (outcome : Nat → Status) (nested : List CallArguments)
  | poll (nowNs : UInt64) (outcome : Nat → Status) (nested : List CallArguments)
  | resetPeer (nested : List CallArguments)

namespace RpcClientHistory

variable {service : RpcService} (s : RpcClientHistory service)

/-- `CallAsync` with the number of the call as its completion. -/
def callAsync (arguments : CallArguments) : RpcClientHistory service :=
  let completion := if arguments.nullCompletion then none else some s.calls.length
  let called := s.client.callAsync arguments.descriptor arguments.request arguments.deadlineNs
    completion arguments.clock ⟨arguments.outcome, []⟩
  { s with
    client := called.2.1
    calls := s.calls ++ [⟨called.1, called.2.1.callInfo.requestId, called.2.1.sequence⟩] }

/-- The end of an operation: the completion is invoked and makes its calls. -/
def finish (client : CanRpcClient service Nat) (source : CompletionSource)
    (completed : Option (RpcCompletion Nat)) (nested : List CallArguments) :
    RpcClientHistory service :=
  match completed with
  | none => { s with client := client }
  | some completion =>
    nested.foldl callAsync
      { s with client := client, completions := s.completions ++ [(source, completion)] }

def step : RpcClientAction → RpcClientHistory service
  | .callAsync arguments => s.callAsync arguments
  | .accept frame outcome nested =>
    let accepted := s.client.accept frame ⟨outcome, []⟩
    s.finish accepted.client (.response (s.client.responseReceiver.accept frame).1)
      accepted.completed nested
  | .poll nowNs outcome nested =>
    let polled := s.client.poll nowNs ⟨outcome, []⟩
    s.finish polled.client .timeout polled.completed nested
  | .resetPeer nested =>
    let reset := s.client.resetPeer
    s.finish reset.1 .peerReset reset.2 nested

/-- A sealed client on which no call has been made. -/
def init (config : RpcLink.Config) : RpcClientHistory service where
  client := (RpcLink.init config).client

/-- How often the completion of call `i` was invoked. -/
def completed (i : Nat) : Nat :=
  s.completions.countP fun e => e.2.completion = i

/-- The pending call. -/
def pendingCall : Option Nat :=
  if s.client.pending then s.client.completion else none

/-- The completion tells what the operation that invoked it found out about the call. -/
def Explains (call : MadeCall) (completion : RpcCompletion Nat) : CompletionSource → Prop
  | .response received =>
    received.status = .ok ∧ received.message.sequence = call.sequence ∧
      readU32 (received.message.payload.drop 1) = call.requestId ∧
      decodeStatus (received.message.payload.headD 0) = some completion.status ∧
      completion.response = received.message.payload.drop kResponseHeaderSize
  | .timeout => completion.status = .timeout ∧ completion.response = []
  | .peerReset => completion.status = .unavailable ∧ completion.response = []

/-- Call `i` was accepted and its completion has not been invoked. -/
def Open (i : Nat) : Prop :=
  ∃ call, s.calls[i]? = some call ∧ call.status = .ok ∧ s.completed i = 0

structure CompletedOnce (s : RpcClientHistory service) : Prop where
  /-- An accepted call was completed once, or it is the pending call. -/
  accepted : ∀ i call, s.calls[i]? = some call → call.status = .ok →
    (s.completed i = 1 ∧ s.pendingCall ≠ some i) ∨ (s.completed i = 0 ∧ s.pendingCall = some i)
  rejected : ∀ i call, s.calls[i]? = some call → call.status ≠ .ok →
    s.completed i = 0 ∧ s.pendingCall ≠ some i
  onePending : ∀ i j, s.Open i → s.Open j → i = j
  /-- A completion belongs to an accepted call and says what happened to it. -/
  completions : ∀ e ∈ s.completions, ∃ call, s.calls[e.2.completion]? = some call ∧
    call.status = .ok ∧ e.2.info.requestId = call.requestId ∧ Explains call e.2 e.1

/-! ## The invariant -/

/-- `CompletedOnce` with what the client remembers of the pending call. -/
structure ClientInv (s : RpcClientHistory service) : Prop where
  accepted : ∀ i call, s.calls[i]? = some call → call.status = .ok →
    (s.completed i = 1 ∧ s.pendingCall ≠ some i) ∨ (s.completed i = 0 ∧ s.pendingCall = some i)
  rejected : ∀ i call, s.calls[i]? = some call → call.status ≠ .ok →
    s.completed i = 0 ∧ s.pendingCall ≠ some i
  completions : ∀ e ∈ s.completions, ∃ call, s.calls[e.2.completion]? = some call ∧
    call.status = .ok ∧ e.2.info.requestId = call.requestId ∧ Explains call e.2 e.1
  pending : s.client.pending = true → ∃ i call, s.client.completion = some i ∧
    s.calls[i]? = some call ∧ call.status = .ok ∧ s.client.callInfo.requestId = call.requestId ∧
    s.client.sequence = call.sequence

variable {s : RpcClientHistory service}

theorem ClientInv.completedOnce (h : ClientInv s) : CompletedOnce s := by
  refine ⟨h.accepted, h.rejected, ?_, h.completions⟩
  have hopen : ∀ i, s.Open i → s.pendingCall = some i := by
    rintro i ⟨call, hcall, hok, hzero⟩
    rcases h.accepted i call hcall hok with ⟨hone, -⟩ | ⟨-, hpending⟩
    · cases hone.symm.trans hzero
    · exact hpending
  intro i j hi hj
  exact Option.some.inj ((hopen i hi).symm.trans (hopen j hj))

theorem clientInv_init (config : RpcLink.Config) :
    ClientInv (init config : RpcClientHistory service) where
  accepted _ _ hcall := nomatch hcall
  rejected _ _ hcall := nomatch hcall
  completions _ he := nomatch he
  pending hpending := nomatch hpending

/-- Nothing was completed or is pending under a number that has not been given out. -/
private theorem ClientInv.unused (h : ClientInv s) :
    s.completed s.calls.length = 0 ∧ s.pendingCall ≠ some s.calls.length := by
  have hlast : s.calls[s.calls.length]? = none := List.getElem?_eq_none (Nat.le_refl _)
  constructor
  · refine List.countP_eq_zero.mpr fun e he hnum => ?_
    obtain ⟨call, hcall, -⟩ := h.completions e he
    rw [of_decide_eq_true hnum, hlast] at hcall
    cases hcall
  · intro hpend
    unfold pendingCall at hpend
    split at hpend
    · rename_i hp
      obtain ⟨i, call, hi, hcall, -⟩ := h.pending hp
      rw [hpend] at hi
      rw [← Option.some.inj hi, hlast] at hcall
      cases hcall
    · cases hpend

/-- The two clients have the same pending call. -/
structure SamePending (c c' : CanRpcClient service Nat) : Prop where
  pending : c'.pending = c.pending
  completion : c.pending = true → c'.completion = c.completion
  callInfo : c.pending = true → c'.callInfo = c.callInfo
  sequence : c.pending = true → c'.sequence = c.sequence

variable {c' : CanRpcClient service Nat}

private theorem SamePending.of_idle {c : CanRpcClient service Nat} (hc : c.pending = false)
    (hc' : c'.pending = false) : SamePending c c' where
  pending := hc'.trans hc.symm
  completion hp := nomatch hc.symm.trans hp
  callInfo hp := nomatch hc.symm.trans hp
  sequence hp := nomatch hc.symm.trans hp

private theorem pendingCall_of_same (hs : SamePending s.client c') :
    (if c'.pending = true then c'.completion else none) = s.pendingCall := by
  rw [pendingCall, hs.pending]
  split
  · rename_i hp
    exact hs.completion hp
  · rfl

/-- An operation that neither starts nor completes a call. -/
private theorem ClientInv.with_client (h : ClientInv s) (hs : SamePending s.client c') :
    ClientInv { s with client := c' } := by
  have hp := pendingCall_of_same hs
  refine ⟨fun i call hcall hok => ?_, fun i call hcall hne => ?_, h.completions, fun hpend => ?_⟩
  · rw [pendingCall, hp]
    exact h.accepted i call hcall hok
  · rw [pendingCall, hp]
    exact h.rejected i call hcall hne
  · have hpend : s.client.pending = true := hs.pending ▸ hpend
    dsimp only
    rw [hs.completion hpend, hs.callInfo hpend, hs.sequence hpend]
    exact h.pending hpend

/-- A call that is rejected. -/
private theorem ClientInv.with_rejected (h : ClientInv s) (hs : SamePending s.client c')
    {made : MadeCall} (hmade : made.status ≠ .ok) :
    ClientInv { s with client := c', calls := s.calls ++ [made] } := by
  have hp := pendingCall_of_same hs
  have hold : ∀ {i call}, s.calls[i]? = some call → (s.calls ++ [made])[i]? = some call :=
    fun hcall => List.getElem?_append_left (List.getElem?_eq_some_iff.mp hcall).1 ▸ hcall
  refine ⟨fun i call hcall hok => ?_, fun i call hcall hne => ?_, fun e he => ?_, fun hpend => ?_⟩
  · rw [pendingCall, hp]
    rcases List.getElem?_concat_cases hcall with hcall | ⟨-, rfl⟩
    · exact h.accepted i call hcall hok
    · exact absurd hok hmade
  · rw [pendingCall, hp]
    rcases List.getElem?_concat_cases hcall with hcall | ⟨rfl, -⟩
    · exact h.rejected i call hcall hne
    · exact h.unused
  · obtain ⟨call, hcall, hrest⟩ := h.completions e he
    exact ⟨call, hold hcall, hrest⟩
  · obtain ⟨i, call, hi, hcall, hrest⟩ := (h.with_client hs).pending hpend
    exact ⟨i, call, hi, hold hcall, hrest⟩

/-- A call that is accepted while no call is pending. -/
private theorem ClientInv.with_accepted (h : ClientInv s) (hidle : s.client.pending = false)
    (hpend : c'.pending = true) (hcompletion : c'.completion = some s.calls.length) :
    ClientInv { s with client := c',
                       calls := s.calls ++ [⟨.ok, c'.callInfo.requestId, c'.sequence⟩] } := by
  have hnone : s.pendingCall = none := by rw [pendingCall, hidle]; rfl
  have hnew : (if c'.pending = true then c'.completion else none) = some s.calls.length := by
    rw [if_pos hpend, hcompletion]
  have hother : ∀ {i call}, s.calls[i]? = some call → s.calls.length ≠ i :=
    fun hcall heq => absurd (List.getElem?_eq_some_iff.mp hcall).1 (by omega)
  refine ⟨fun i call hcall hok => ?_, fun i call hcall hne => ?_, fun e he => ?_, fun _ => ?_⟩
  · rw [pendingCall, hnew]
    rcases List.getElem?_concat_cases hcall with hcall | ⟨rfl, -⟩
    · rcases h.accepted i call hcall hok with ⟨hone, -⟩ | ⟨-, hpending⟩
      · exact .inl ⟨hone, fun heq => hother hcall (Option.some.inj heq)⟩
      · cases hnone.symm.trans hpending
    · exact .inr ⟨h.unused.1, rfl⟩
  · rw [pendingCall, hnew]
    rcases List.getElem?_concat_cases hcall with hcall | ⟨-, rfl⟩
    · exact ⟨(h.rejected i call hcall hne).1, fun heq => hother hcall (Option.some.inj heq)⟩
    · exact absurd rfl hne
  · obtain ⟨call, hcall, hrest⟩ := h.completions e he
    exact ⟨call, List.getElem?_append_left (List.getElem?_eq_some_iff.mp hcall).1 ▸ hcall, hrest⟩
  · exact ⟨_, _, hcompletion, List.getElem?_concat_length, rfl, rfl, rfl⟩

/-- An operation that completes the pending call. -/
private theorem ClientInv.with_completion (h : ClientInv s) (hpend : s.client.pending = true)
    (hdone : c'.pending = false) {source : CompletionSource} {completion : RpcCompletion Nat}
    (hcompletion : s.client.completion = some completion.completion)
    (hinfo : completion.info = s.client.callInfo)
    (hexplains : ∀ call : MadeCall, s.client.callInfo.requestId = call.requestId → s.client.sequence
      = call.sequence → Explains call completion source) :
    ClientInv { s with client := c', completions := s.completions ++ [(source, completion)] } := by
  obtain ⟨n, made, hn, hmade, hok, hid, hseq⟩ := h.pending hpend
  obtain rfl : completion.completion = n := Option.some.inj (hcompletion.symm.trans hn)
  have hold : s.pendingCall = some completion.completion := by
    rw [pendingCall, if_pos hpend, hcompletion]
  have hnew : (if c'.pending = true then c'.completion else none) = none := by
    rw [hdone]; rfl
  have hcount : ∀ i, (s.completions ++ [(source, completion)]).countP
      (fun e => e.2.completion = i) =
      s.completed i + if completion.completion = i then 1 else 0 := by
    intro i
    rw [List.countP_append, List.countP_singleton, completed]
    simp only [decide_eq_true_eq]
  refine ⟨fun i call hcall hok' => .inl ?_, fun i call hcall hne => ?_, fun e he => ?_,
    fun hp => nomatch hdone.symm.trans hp⟩
  · rw [pendingCall, hnew, completed, hcount]
    refine ⟨?_, nofun⟩
    rcases h.accepted i call hcall hok' with ⟨hone, hother⟩ | ⟨hzero, hpending⟩
    · have hne : completion.completion ≠ i := fun heq => hother (heq ▸ hold)
      rw [if_neg hne, hone]
    · rw [if_pos (Option.some.inj (hold.symm.trans hpending)), hzero]
  · rw [pendingCall, hnew, completed, hcount]
    obtain ⟨hzero, hother⟩ := h.rejected i call hcall hne
    have hne : completion.completion ≠ i := fun heq => hother (heq ▸ hold)
    exact ⟨by rw [if_neg hne, hzero], nofun⟩
  · rcases List.mem_append.mp he with he | he
    · exact h.completions e he
    · rw [List.mem_singleton.mp he]
      exact ⟨made, hmade, hok, by rw [hinfo]; exact hid, hexplains made hid hseq⟩

/-! ## All runs -/

theorem clientInv_callAsync (h : ClientInv s) (arguments : CallArguments) :
    ClientInv (s.callAsync arguments) := by
  unfold callAsync
  dsimp only
  rcases CanRpcClient.callAsync_cases s.client arguments.descriptor arguments.request
      arguments.deadlineNs (if arguments.nullCompletion then none else some s.calls.length)
      arguments.clock ⟨arguments.outcome, []⟩ with
    ⟨status, stats, hne, -, heq⟩ | ⟨-, hchecked, hstarted⟩
  · rw [heq]
    refine h.with_rejected ?_ ?_
    · exact ⟨rfl, fun _ => rfl, fun _ => rfl, fun _ => rfl⟩
    · exact hne
  · have hidle := hchecked.pending
    cases hstarted with
    | refused _ _ status client _ =>
      rw [client]
      exact h.with_rejected (.of_idle hidle rfl) status
    | cut _ _ _ status _ _ client _ _ =>
      rw [client]
      exact h.with_rejected (.of_idle hidle rfl) status
    | sent _ _ _ status _ client _ _ _ _ =>
      have hcompletion : (if arguments.nullCompletion = true then none else
          some s.calls.length) = some s.calls.length := by
        cases hnull : arguments.nullCompletion with
        | false => rfl
        | true =>
          have := hchecked.completion
          rw [hnull] at this
          cases this
      rw [status, client]
      exact h.with_accepted hidle rfl hcompletion

private theorem clientInv_nested (h : ClientInv s) (nested : List CallArguments) :
    ClientInv (nested.foldl callAsync s) :=
  Machine.run_invariant callAsync (I := ClientInv)
    (fun _ arguments h => clientInv_callAsync h arguments) h nested

/-- An operation that leaves the pending call alone or completes it. -/
private theorem ClientInv.with_finish (h : ClientInv s) {source : CompletionSource}
    {completed : Option (RpcCompletion Nat)} (nested : List CallArguments)
    (hop : (SamePending s.client c' ∧ completed = none) ∨ (s.client.pending = true ∧ c'.pending =
      false ∧ ∃ status response, completed = s.client.complete status response ∧ ∀ completion :
      RpcCompletion Nat, completion.status = status → completion.response = response → ∀ call :
      MadeCall, s.client.callInfo.requestId = call.requestId → s.client.sequence = call.sequence →
      Explains call completion source)) : ClientInv (s.finish c' source completed nested) := by
  rcases hop with ⟨hsame, rfl⟩ | ⟨hpend, hdone, status, response, rfl, hexplains⟩
  · exact h.with_client hsame
  · obtain ⟨n, -, hn, -⟩ := h.pending hpend
    rw [CanRpcClient.complete, hn]
    exact clientInv_nested (h.with_completion hpend hdone hn rfl (hexplains _ rfl rfl)) nested

private theorem clientInv_accept (h : ClientInv s) (frame : CanFrame) (outcome : Nat → Status)
    (nested : List CallArguments) : ClientInv (s.step (.accept frame outcome nested)) := by
  refine h.with_finish nested ?_
  cases CanRpcClient.accept_cases s.client frame ⟨outcome, []⟩ with
  | ignored _ client _ completed =>
    rw [client]
    exact .inl ⟨⟨rfl, fun _ => rfl, fun _ => rfl, fun _ => rfl⟩, completed⟩
  | ack _ _ client _ completed =>
    rw [client]
    exact .inl ⟨⟨rfl, fun _ => rfl, fun _ => rfl, fun _ => rfl⟩, completed⟩
  | unacknowledged _ _ _ _ _ client _ completed =>
    rw [client]
    exact .inl ⟨⟨rfl, fun _ => rfl, fun _ => rfl, fun _ => rfl⟩, completed⟩
  | taken _ _ _ taken =>
    cases taken with
    | ignored _ _ client completed =>
      dsimp only at client completed
      rw [client]
      exact .inl ⟨⟨rfl, fun _ => rfl, fun _ => rfl, fun _ => rfl⟩, completed⟩
    | undecoded _ _ _ client completed =>
      dsimp only at client completed
      rw [client]
      exact .inl ⟨⟨rfl, fun _ => rfl, fun _ => rfl, fun _ => rfl⟩, completed⟩
    | matched status complete pending sequence _ requestId decoded _ client completed =>
      dsimp only at client completed
      rw [client]
      refine .inr ⟨pending, rfl, status, _, completed, ?_⟩
      intro completion hst hr call hid hseq
      exact ⟨complete, sequence.trans hseq, requestId.trans hid, hst ▸ decoded, hr⟩

private theorem clientInv_poll (h : ClientInv s) (nowNs : UInt64) (outcome : Nat → Status)
    (nested : List CallArguments) : ClientInv (s.step (.poll nowNs outcome nested)) := by
  refine h.with_finish nested ?_
  cases CanRpcClient.poll_cases s.client nowNs ⟨outcome, []⟩ with
  | quiet _ client _ completed =>
    rw [client]
    exact .inl ⟨⟨rfl, fun _ => rfl, fun _ => rfl, fun _ => rfl⟩, completed⟩
  | timedOut stats pending client _ completed =>
    rw [client]
    exact .inr ⟨pending, rfl, .timeout, [], completed, fun _ hst hr _ _ _ => ⟨hst, hr⟩⟩
  | resent stats _ _ _ client _ completed =>
    rw [client]
    exact .inl ⟨⟨rfl, fun _ => rfl, fun _ => rfl, fun _ => rfl⟩, completed⟩

private theorem clientInv_resetPeer (h : ClientInv s) (nested : List CallArguments) :
    ClientInv (s.step (.resetPeer nested)) := by
  refine h.with_finish nested ?_
  obtain ⟨stats, client, completed⟩ := s.client.resetPeer_cases
  rw [client, completed]
  cases hp : s.client.pending with
  | false => exact .inl ⟨.of_idle hp rfl, rfl⟩
  | true =>
    exact .inr ⟨rfl, rfl, .unavailable, [], rfl, fun _ hst hr _ _ _ => ⟨hst, hr⟩⟩

/-- On a sealed client, after any operations with any frames, times and outcomes, every call
    that `CallAsync` accepted was completed exactly once or is the pending call, no rejected
    call was completed, at most one call is pending, and a response completes only the call
    with its request id and sequence. -/
theorem completedOnce_run (config : RpcLink.Config) (actions : List RpcClientAction) :
    CompletedOnce (Machine.run step (init config : RpcClientHistory service) actions) := by
  refine (Machine.run_invariant step (I := ClientInv) (fun s action h => ?_)
    (clientInv_init config) actions).completedOnce
  cases action with
  | callAsync arguments => exact clientInv_callAsync h arguments
  | accept frame outcome nested => exact clientInv_accept h frame outcome nested
  | poll nowNs outcome nested => exact clientInv_poll h nowNs outcome nested
  | resetPeer nested => exact clientInv_resetPeer h nested

end RpcClientHistory

end AsterCtrl.Can
