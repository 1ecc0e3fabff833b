import AsterCtrl.ForStd.List
import AsterCtrl.ForStd.Run
import AsterCtrl.Spec.LocalCallLedger
import AsterCtrl.Spec.LocalRegistries

/-!
# Calls of services inside a node

The slot of a frame holds the call of that frame (`Held`): nobody else changes it while the frame is
there, since every frame has a slot of its own.  So what is passed to the handler and, after the slot
has been released, to the completion is the call's own, whatever calls the handler or others make in
the meantime.

## Key results

- `LocalCalls.prepared_of_prepare`: what `CallAsync` leaves in the slot
- `LocalSystem.Inv.step`: what every step keeps
- `local_rpc_calls`: every run
-/

namespace AsterCtrl

open LocalCalls

variable {η κ σ : Type} {maxServices maxRequest maxResponse maxPending : Nat}

/-! ## Services -/

namespace LocalRpc

/-- The requests of every service fit into the buffer of a slot. -/
def RequestsFit (rpc : LocalRpc η maxServices maxRequest maxResponse) : Prop :=
  ∀ service ∈ rpc.services, service.descriptor.requestType.maxSerializedSize ≤ maxRequest

/-- The services after registrations one after the other. -/
def registerAll (registrations : List (Registration η)) :
    LocalRpc η maxServices maxRequest maxResponse :=
  registrations.foldl (fun rpc registration => (rpc.register registration).2) {}

variable {rpc rpc' : LocalRpc η maxServices maxRequest maxResponse}

theorem RequestsFit.setService (h : rpc.RequestsFit) (index : Fin rpc.services.length)
    {service : LocalService η}
    (hservice : service.descriptor = (rpc.services.get index).descriptor) :
    (rpc.setService index service).RequestsFit := by
  intro other hother
  rcases List.mem_or_eq_of_mem_set hother with hmem | rfl
  · exact h other hmem
  · rw [hservice]
    exact h _ (List.get_mem _ _)

theorem RequestsFit.findOrAdd (h : rpc.RequestsFit) {descriptor : ServiceDescriptor}
    {index : Fin rpc'.services.length} (hfound : rpc.findOrAdd descriptor = .ok ⟨rpc', index⟩) :
    rpc'.RequestsFit := by
  unfold LocalRpc.findOrAdd at hfound
  split at hfound
  · cases hfound
  rename_i hvalid
  split at hfound
  · split at hfound
    · obtain ⟨rfl, -⟩ := Sigma.mk.inj (Except.ok.inj hfound)
      exact h
    · cases hfound
  · split at hfound
    · cases hfound
    · obtain ⟨rfl, -⟩ := Sigma.mk.inj (Except.ok.inj hfound)
      intro service hservice
      rcases List.mem_append.mp hservice with hmem | hmem
      · exact h service hmem
      · obtain rfl := List.mem_singleton.mp hmem
        simp only [validService, Bool.not_eq_false, Bool.not_eq_true', decide_eq_false_iff_not,
          not_or, Nat.not_lt] at hvalid
        exact hvalid.2.2.2.2.2.1

theorem RequestsFit.register (h : rpc.RequestsFit) (registration : Registration η) :
    (rpc.register registration).2.RequestsFit := by
  cases registration with
  | client descriptor =>
    rw [LocalRpc.register, registerClient]
    split
    · exact h
    · split
      · exact h
      · rename_i hfound
        have hfit := h.findOrAdd hfound
        dsimp only
        split
        · exact hfit
        · exact hfit.setService _ rfl
  | server descriptor handler =>
    rw [LocalRpc.register, registerServer]
    split
    · exact h
    · rw [if_neg (by simp)]
      split
      · exact h
      · rename_i hfound
        have hfit := h.findOrAdd hfound
        dsimp only
        split
        · exact hfit
        · exact hfit.setService _ rfl

theorem requestsFit_registerAll (registrations : List (Registration η)) :
    (registerAll registrations : LocalRpc η maxServices maxRequest maxResponse).RequestsFit := by
  have hstart : ({} : LocalRpc η maxServices maxRequest maxResponse).RequestsFit :=
    fun service hservice => nomatch hservice
  exact Machine.run_invariant _ (fun _ registration h => h.register registration) hstart
    registrations

theorem RequestsFit.seal (h : rpc.RequestsFit) {executor : Bool}
    (hseal : rpc.seal executor = (.ok, rpc')) : rpc'.RequestsFit := by
  unfold LocalRpc.seal at hseal
  split_ifs at hseal
  · cases hseal
  · cases hseal
  · cases hseal
  · obtain ⟨-, rfl⟩ := Prod.mk.inj hseal
    exact h

end LocalRpc

/-! ## What a slot holds -/

/-- The slot of a frame holds the call of the frame: `arguments` to the handler of `service`. -/
structure HeldAs (services : List (LocalService η))
    (history : List (CallEvent η κ σ maxResponse))
    (pending : PendingCall κ σ maxRequest maxResponse)
    (frame : CallFrame maxResponse maxPending) (arguments : CallArguments κ σ)
    (service : LocalService η) (handler : η) (callback : κ) : Prop where
  admitted : .admitted frame.call arguments pending.info ∈ history
  completion : pending.completion = some callback
  own_completion : arguments.completion = some callback
  completionState : pending.completionState = arguments.completionState
  request : pending.request.toList.take pending.requestSize = arguments.request
  own_service : (pending.service.bind fun index => services[index]?) = some service
  descriptor : service.descriptor = arguments.descriptor
  own_handler : service.handler = some handler
  /-- The handler that is running is the one of the call, and its buffer is the one of the slot. -/
  running : ∀ produced, frame.phase = .running produced → pending.response = produced ∧
    .invoked frame.call handler arguments.request pending.info ∈ history

variable (services : List (LocalService η))

/-- The slot of a frame holds the call of the frame. -/
def Held (history : List (CallEvent η κ σ maxResponse))
    (pending : PendingCall κ σ maxRequest maxResponse) (frame : CallFrame maxResponse maxPending) :
    Prop :=
  ∃ arguments service handler callback,
    HeldAs services history pending frame arguments service handler callback

/-- The completion is called with what belongs to its call: nothing if the deadline had passed, and
    otherwise what the handler of its service left in its buffer. -/
def Answered (history : List (CallEvent η κ σ maxResponse)) (call : Nat)
    (completion : Completion κ σ) : Prop :=
  ∃ arguments, .admitted call arguments completion.info ∈ history ∧
    arguments.completion = some completion.completion ∧
    arguments.completionState = completion.completionState ∧
    (.expired call ∈ history ∧ completion.status = .timeout ∧ completion.response = [] ∨
      ∃ service ∈ services, ∃ handler status responseSize produced,
        service.descriptor = arguments.descriptor ∧ service.handler = some handler ∧
        .invoked call handler arguments.request completion.info ∈ history ∧
        .returned call status responseSize produced ∈ history ∧
        completion.status =
          (if responseSize ≤ maxResponse ∧
            responseSize ≤ arguments.descriptor.responseType.maxSerializedSize then status
          else .internal) ∧
        completion.response =
          if completion.status = .ok then produced.toList.take responseSize else [])

/-- What is in the history is as it should be. -/
def Justified (history : List (CallEvent η κ σ maxResponse)) : CallEvent η κ σ maxResponse → Prop
  | .completed call completion => Answered services history call completion
  | .fault _ => False
  | _ => True

section

variable {services : List (LocalService η)}
  {history history' : List (CallEvent η κ σ maxResponse)}

theorem Held.mono {pending : PendingCall κ σ maxRequest maxResponse}
    {frame : CallFrame maxResponse maxPending}
    (h : Held services history pending frame) (hle : history ⊆ history') :
    Held services history' pending frame := by
  obtain ⟨arguments, service, handler, callback, h⟩ := h
  exact ⟨arguments, service, handler, callback, { h with
    admitted := hle h.admitted
    running := fun produced hphase =>
      ⟨(h.running produced hphase).1, hle (h.running produced hphase).2⟩ }⟩

theorem Answered.mono {call : Nat} {completion : Completion κ σ}
    (h : Answered services history call completion) (hle : history ⊆ history') :
    Answered services history' call completion := by
  obtain ⟨arguments, hadmitted, hcompletion, hstate, hresult⟩ := h
  refine ⟨arguments, hle hadmitted, hcompletion, hstate, hresult.imp ?_ ?_⟩
  · exact fun ⟨hexpired, hrest⟩ => ⟨hle hexpired, hrest⟩
  · rintro ⟨service, hmem, handler, status, size, produced, hdescriptor, hhandler, hinvoked,
      hreturned, hrest⟩
    exact ⟨service, hmem, handler, status, size, produced, hdescriptor, hhandler, hle hinvoked,
      hle hreturned, hrest⟩

theorem Justified.mono {event : CallEvent η κ σ maxResponse}
    (h : Justified services history event) (hle : history ⊆ history') :
    Justified services history' event := by
  cases event with
  | completed call completion => exact Answered.mono h hle
  | fault call => exact h
  | _ => trivial

end

/-! ## What `CallAsync` leaves in a slot -/

namespace LocalCalls

variable {rpc rpc' : LocalCalls η κ σ maxServices maxRequest maxResponse maxPending}
  {slot : Fin maxPending}

theorem take_copyFront {n : Nat} {bytes : List UInt8} (h : bytes.length ≤ n)
    (array : Vector UInt8 n) : (copyFront bytes array).toList.take bytes.length = bytes := by
  refine List.ext_getElem ?_ fun index hindex hlt => ?_
  · rw [List.length_take, Vector.length_toList, Nat.min_eq_left h]
  · rw [List.getElem_take, Vector.getElem_toList]
    simp only [copyFront, Vector.getElem_ofFn]
    rw [List.getD_eq_getElem?_getD, List.getElem?_eq_getElem hlt, Option.getD_some]

/-- A call has been given the free slot `slot`. -/
structure Prepared
    (rpc rpc' : LocalCalls η κ σ maxServices maxRequest maxResponse maxPending)
    (slot : Fin maxPending) (arguments : CallArguments κ σ) : Prop where
  free : (rpc.pending slot).inUse = false
  inUse : (rpc'.pending slot).inUse = true
  count : rpc'.pendingCount = rpc.pendingCount + 1
  services : rpc'.services = rpc.services
  other : ∀ other, other ≠ slot → rpc'.pending other = rpc.pending other
  held : ∀ (history : List (CallEvent η κ σ maxResponse))
    (frame : CallFrame maxResponse maxPending), frame.phase = .posting →
    .admitted frame.call arguments (rpc'.pending slot).info ∈ history →
    Held rpc.services history (rpc'.pending slot) frame

theorem prepared_of_prepare (hfit : rpc.RequestsFit) {arguments : CallArguments κ σ} {now : UInt64}
    (h : rpc.prepare arguments now = (.ok slot, rpc')) : Prepared rpc rpc' slot arguments := by
  unfold prepare at h
  split at h
  · cases h
  split at h
  · cases h
  rename_i hcompletion
  split at h
  · cases h
  rename_i index hfind
  dsimp only at h
  split at h
  · cases h
  rename_i hsame
  split at h
  · cases h
  split at h
  · cases h
  rename_i hhandler
  split at h
  · cases h
  rename_i free hfree
  obtain ⟨heq, rfl⟩ := Prod.mk.inj h
  obtain rfl := Except.ok.inj heq
  rw [Option.isNone_iff_eq_none] at hcompletion hhandler
  obtain ⟨callback, hcallback⟩ := Option.ne_none_iff_exists'.mp hcompletion
  obtain ⟨handler, hhandler⟩ := Option.ne_none_iff_exists'.mp hhandler
  obtain ⟨hsame, hsize⟩ := not_or.mp hsame
  rw [Bool.not_eq_false] at hsame
  have hdescriptor := LocalRpc.descriptor_eq_iff.mpr hsame
  have hrequest : arguments.request.length ≤ maxRequest := by
    have := hfit _ (List.get_mem rpc.services index)
    rw [hdescriptor] at this
    omega
  -- the slot after it has been reserved and filled
  let filled : PendingCall κ σ maxRequest maxResponse :=
    { (rpc.reserve free).pending free with
      request := copyFront arguments.request ((rpc.reserve free).pending free).request
      requestSize := arguments.request.length
      service := some index
      completion := arguments.completion
      completionState := arguments.completionState
      info := ⟨(rpc.reserve free).nextRequestId, arguments.deadlineNs⟩ }
  have hreserved : ((rpc.reserve free).pending free).inUse = true :=
    congrArg PendingCall.inUse (Function.update_self free _ rpc.pending)
  have hfilled : ((rpc.reserve free).setPending free filled).pending free = filled :=
    pending_setPending_self filled
  refine ⟨freeSlot_eq_some hfree, ?_, rfl, rfl, fun other hother => ?_,
    fun history frame hphase hadmitted => ?_⟩
  · exact (congrArg PendingCall.inUse hfilled).trans hreserved
  · exact (pending_setPending_of_ne filled hother).trans (pending_setPending_of_ne _ hother)
  · change Held rpc.services history (((rpc.reserve free).setPending free filled).pending free) frame
    rw [hfilled]
    change .admitted frame.call arguments
      (((rpc.reserve free).setPending free filled).pending free).info ∈ history at hadmitted
    rw [hfilled] at hadmitted
    exact ⟨arguments, rpc.services.get index, handler, callback, hadmitted, hcallback, hcallback, rfl,
      take_copyFront hrequest _, List.getElem?_eq_getElem index.isLt, hdescriptor, hhandler,
      fun produced hrunning => nomatch hphase.symm.trans hrunning⟩

theorem eq_reject_of_prepare {arguments : CallArguments κ σ} {now : UInt64} {status : Status}
    (h : rpc.prepare arguments now = (.error status, rpc')) : rpc' = rpc.reject := by
  unfold prepare at h
  dsimp only at h
  repeat' split at h
  all_goals first
    | exact (Prod.mk.inj h).2.symm
    | cases h

end LocalCalls

/-! ## Steps -/

namespace LocalSystem

variable {s : LocalSystem η κ σ maxServices maxRequest maxResponse maxPending}
  {services : List (LocalService η)}
  {front back : List (CallFrame maxResponse maxPending)}
  {frame : CallFrame maxResponse maxPending} {number : Nat} {slot : Fin maxPending}

open List

structure Inv (services : List (LocalService η))
    (s : LocalSystem η κ σ maxServices maxRequest maxResponse maxPending) :
    Prop where
  services_eq : s.rpc.services = services
  slots : s.rpc.Slots s.frames
  ledger : Ledger s.frames s.history s.calls
  held : ∀ frame ∈ s.frames, Held services s.history (s.rpc.pending frame.slot) frame
  justified : ∀ event ∈ s.history, Justified services s.history event

theorem justified_append {history events : List (CallEvent η κ σ maxResponse)}
    (h : ∀ event ∈ history, Justified services history event)
    (hevents : ∀ event ∈ events, Justified services (history ++ events) event) :
    ∀ event ∈ history ++ events, Justified services (history ++ events) event := by
  intro event hevent
  rcases mem_append.mp hevent with hold | hnew
  · exact (h event hold).mono (subset_append_left _ _)
  · exact hevents event hnew

/-- What happens to the slot of one frame leaves the others alone. -/
theorem Inv.held_others (h : s.Inv services) (hframes : s.frames = front ++ frame :: back)
    {rpc : LocalCalls η κ σ maxServices maxRequest maxResponse maxPending}
    (hother : ∀ other, other ≠ frame.slot → rpc.pending other = s.rpc.pending other)
    {history : List (CallEvent η κ σ maxResponse)} (hle : s.history ⊆ history) :
    ∀ other ∈ front ++ back, Held services history (rpc.pending other.slot) other := by
  intro other hmem
  have hslots := h.slots
  rw [hframes] at hslots
  have hne : other.slot ≠ frame.slot := fun heq =>
    hslots.slot_notMem (heq ▸ mem_map_of_mem hmem)
  rw [hother _ hne]
  refine (h.held other ?_).mono hle
  rw [hframes]
  rcases mem_append.mp hmem with hfront | hback
  · exact mem_append_left _ hfront
  · exact mem_append_right _ (mem_cons_of_mem _ hback)

/-- A frame that stays, next to the others. -/
theorem forall_mem_middle {P : CallFrame maxResponse maxPending → Prop} (hframe : P frame)
    (hothers : ∀ other ∈ front ++ back, P other) : ∀ other ∈ front ++ frame :: back, P other := by
  intro other hmem
  rcases mem_append.mp hmem with hfront | hmem
  · exact hothers other (mem_append_left _ hfront)
  · rcases mem_cons.mp hmem with rfl | hback
    · exact hframe
    · exact hothers other (mem_append_right _ hback)

theorem Inv.call (h : s.Inv services)
    (hfit : ∀ service ∈ services,
      service.descriptor.requestType.maxSerializedSize ≤ maxRequest)
    (arguments : CallArguments κ σ) (now : UInt64) : (s.call arguments now).Inv services := by
  unfold LocalSystem.call
  rcases hprepare : s.rpc.prepare arguments now with ⟨status | slot, rpc⟩
  · obtain rfl := eq_reject_of_prepare hprepare
    refine ⟨h.services_eq, h.slots.keep (fun _ => rfl) rfl rfl, h.ledger.refuse status,
      fun frame hframe => (h.held frame hframe).mono (subset_append_left _ _),
      justified_append h.justified ?_⟩
    intro event hevent
    obtain rfl := mem_singleton.mp hevent
    trivial
  · have hrpcFit : s.rpc.RequestsFit := fun service hservice => hfit service (h.services_eq ▸ hservice)
    have hprepared := prepared_of_prepare hrpcFit hprepare
    have hnot : slot ∉ s.frames.map CallFrame.slot := by
      rw [← h.slots.inUse_iff, hprepared.free]
      exact Bool.false_ne_true
    refine ⟨hprepared.services.trans h.services_eq, ?_, h.ledger.admitCall arguments _, ?_,
      justified_append h.justified ?_⟩
    · refine h.slots.add hnot (fun other => ?_) hprepared.count
      by_cases hother : other = slot
      · subst hother
        exact ⟨fun _ => .inl rfl, fun _ => hprepared.inUse⟩
      · rw [hprepared.other other hother]
        exact ⟨.inr, fun hor => hor.resolve_left hother⟩
    · intro frame hframe
      rcases mem_append.mp hframe with hold | hnew
      · have hne : frame.slot ≠ slot := fun heq => hnot (heq ▸ mem_map_of_mem hold)
        dsimp only
        rw [hprepared.other _ hne]
        exact (h.held frame hold).mono (subset_append_left _ _)
      · obtain rfl := mem_singleton.mp hnew
        rw [← h.services_eq]
        exact hprepared.held _ _ rfl (mem_append_right _ (mem_singleton_self _))
    · intro event hevent
      obtain rfl := mem_singleton.mp hevent
      trivial

theorem Inv.post (h : s.Inv services)
    (hframes : s.frames = front ++ ⟨number, slot, .posting⟩ :: back) (status : Status) :
    (s.post front.length ⟨number, slot, .posting⟩ status).Inv services := by
  have hslots := h.slots
  have hledger := h.ledger
  rw [hframes] at hslots hledger
  unfold LocalSystem.post afterPost
  dsimp only
  by_cases hstatus : status ≠ .ok
  · rw [if_pos hstatus, if_pos hstatus, hframes, eraseIdx_append_of_length_le (Nat.le_refl _),
      Nat.sub_self, eraseIdx_cons_zero]
    refine ⟨h.services_eq, hslots.release rfl rfl, hledger.reject status,
      h.held_others hframes (fun other hother => pending_release_of_ne hother)
        (subset_append_left _ _), justified_append h.justified ?_⟩
    intro event hevent
    obtain rfl := mem_singleton.mp hevent
    trivial
  · rw [if_neg hstatus, if_neg hstatus, hframes, set_append_right _ _ (Nat.le_refl _),
      Nat.sub_self, set_cons_zero]
    have hheld := h.held ⟨number, slot, .posting⟩ (by rw [hframes]; simp)
    refine ⟨h.services_eq, hslots.keep (fun _ => rfl) rfl (by simp), hledger.accept,
      forall_mem_middle ?_ (h.held_others hframes (fun _ _ => rfl) (subset_append_left _ _)),
      justified_append h.justified ?_⟩
    · obtain ⟨arguments, service, handler, callback, hheld⟩ := hheld.mono
        (subset_append_left s.history [.accepted number])
      exact ⟨arguments, service, handler, callback, { hheld with running := nofun }⟩
    · intro event hevent
      obtain rfl := mem_singleton.mp hevent
      trivial

/-- The end of `Complete` gives the slot back and calls the completion of the call. -/
theorem Inv.complete (h : s.Inv services) (hframes : s.frames = front ++ frame :: back)
    (hphase : frame.phase ≠ .posting) {status : Status} {responseSize : Nat}
    {event : CallEvent η κ σ maxResponse}
    (hevent : ∀ call, event.isAccepted call = false ∧ event.isRejected call = false ∧
      event.isCompleted call = false)
    (hjustified : ∀ history, Justified services history event)
    (hanswered : ∀ arguments service handler callback, HeldAs services s.history
      (s.rpc.pending frame.slot) frame arguments service handler callback →
      ∀ history, s.history ⊆ history → event ∈ history → Answered services history frame.call
        ⟨callback, (s.rpc.pending frame.slot).completionState, status,
          (s.rpc.pending frame.slot).response.toList.take responseSize,
          (s.rpc.pending frame.slot).info⟩) :
    (s.complete front.length frame status responseSize event).Inv services := by
  have hslots := h.slots
  have hledger := h.ledger
  obtain ⟨arguments, service, handler, callback, hheld⟩ := h.held frame (by rw [hframes]; simp)
  rw [hframes] at hslots hledger
  unfold LocalSystem.complete finish
  dsimp only
  rw [hheld.completion, Option.map_some, hframes,
    eraseIdx_append_of_length_le (Nat.le_refl _), Nat.sub_self, eraseIdx_cons_zero]
  refine ⟨h.services_eq, hslots.release rfl rfl, ?_,
    h.held_others hframes (fun other hother => pending_release_of_ne hother)
      (subset_append_left _ _), justified_append h.justified ?_⟩
  · rw [← singleton_append, ← append_assoc]
    refine (hledger.advance hphase hphase ?_).complete hphase _
    intro other hother
    obtain rfl := mem_singleton.mp hother
    exact hevent
  · intro other hother
    rcases mem_cons.mp hother with rfl | hother
    · exact hjustified _
    · obtain rfl := mem_singleton.mp hother
      exact hanswered arguments service handler callback hheld _ (subset_append_left _ _)
        (mem_append_right _ mem_cons_self)

theorem Inv.dispatch (h : s.Inv services)
    (hframes : s.frames = front ++ ⟨number, slot, .posted⟩ :: back) (now : UInt64) :
    (s.dispatch front.length ⟨number, slot, .posted⟩ now).Inv services := by
  unfold LocalSystem.dispatch
  split
  · -- the deadline has passed
    have htimeout : LocalSystem.Inv services { s with rpc := s.rpc.addTimeout } :=
      ⟨h.services_eq, h.slots.keep (fun _ => rfl) rfl rfl, h.ledger, h.held, h.justified⟩
    refine htimeout.complete hframes nofun (fun _ => ⟨rfl, rfl, rfl⟩) (fun _ => trivial) ?_
    intro arguments service handler callback hheld history hle hevent
    exact ⟨arguments, hle hheld.admitted, hheld.own_completion, hheld.completionState.symm,
      .inl ⟨hevent, rfl, rfl⟩⟩
  · have hslots := h.slots
    have hledger := h.ledger
    obtain ⟨arguments, service, handler, callback, hheld⟩ :=
      h.held ⟨number, slot, .posted⟩ (by rw [hframes]; simp)
    have hhandler : s.rpc.handlerOf slot = some handler := by
      rw [handlerOf, serviceOf, h.services_eq, hheld.own_service]
      exact hheld.own_handler
    rw [hframes] at hslots hledger
    dsimp only
    rw [hframes, set_append_right _ _ (Nat.le_refl _), Nat.sub_self, set_cons_zero, hhandler]
    refine ⟨h.services_eq, hslots.keep (fun _ => rfl) rfl (by simp), ?_, forall_mem_middle ?_
      (h.held_others hframes (fun _ _ => rfl) (subset_append_left _ _)),
      justified_append h.justified ?_⟩
    · refine hledger.advance ?_ ?_ fun event hevent => ?_
      · exact nofun
      · exact nofun
      · obtain rfl := mem_singleton.mp hevent
        exact fun _ => ⟨rfl, rfl, rfl⟩
    · refine ⟨arguments, service, handler, callback, { hheld with
        admitted := mem_append_left _ hheld.admitted
        running := ?_ }⟩
      intro produced hproduced
      obtain rfl := CallPhase.running.inj hproduced
      refine ⟨rfl, mem_append_right _ ?_⟩
      rw [requestOf, hheld.request]
      exact mem_singleton_self _
    · intro event hevent
      obtain rfl := mem_singleton.mp hevent
      trivial

theorem Inv.write (h : s.Inv services) {produced}
    (hframes : s.frames = front ++ ⟨number, slot, .running produced⟩ :: back)
    (offset : Fin maxResponse) (value : UInt8) :
    (s.write front.length ⟨number, slot, .running produced⟩ produced offset value).Inv services := by
  have hslots := h.slots
  have hledger := h.ledger
  obtain ⟨arguments, service, handler, callback, hheld⟩ :=
    h.held ⟨number, slot, .running produced⟩ (by rw [hframes]; simp)
  obtain ⟨hresponse, hinvoked⟩ := hheld.running produced rfl
  rw [hframes] at hslots hledger
  have hother : ∀ other, other ≠ slot →
      (s.rpc.writeResponse slot offset value).pending other = s.rpc.pending other :=
    fun other hne => pending_setPending_of_ne _ hne
  have hself : (s.rpc.writeResponse slot offset value).pending slot =
      { s.rpc.pending slot with response := (s.rpc.pending slot).response.set offset value } :=
    pending_setPending_self _
  unfold LocalSystem.write
  dsimp only
  rw [hframes, set_append_right _ _ (Nat.le_refl _), Nat.sub_self, set_cons_zero]
  refine ⟨h.services_eq, hslots.keep (fun other => ?_) rfl (by simp), ?_,
    forall_mem_middle ?_ (h.held_others hframes hother (List.Subset.refl _)), h.justified⟩
  · by_cases hne : other = slot
    · rw [hne, hself]
    · rw [hother other hne]
  · rw [← append_nil s.history]
    refine hledger.advance ?_ ?_ fun event hevent => ?_
    · rintro ⟨⟩
    · rintro ⟨⟩
    · cases hevent
  · dsimp only
    rw [hself]
    refine ⟨arguments, service, handler, callback, { hheld with running := ?_ }⟩
    intro produced' hproduced
    obtain rfl := CallPhase.running.inj hproduced
    exact ⟨by rw [hresponse], hinvoked⟩

theorem Inv.leave (h : s.Inv services) {produced}
    (hframes : s.frames = front ++ ⟨number, slot, .running produced⟩ :: back) (status : Status)
    (responseSize : Nat) :
    (s.leave front.length ⟨number, slot, .running produced⟩ produced status responseSize).Inv
      services := by
  obtain ⟨_, service, _, _, hheld⟩ := h.held ⟨number, slot, .running produced⟩
    (by rw [hframes]; simp)
  have hservice : s.rpc.serviceOf slot = some service := by
    rw [serviceOf, h.services_eq, hheld.own_service]
  unfold LocalSystem.leave
  rw [hservice]
  refine h.complete hframes nofun (fun _ => ⟨rfl, rfl, rfl⟩) (fun _ => trivial) ?_
  intro arguments service' handler callback hheld' history hle hevent
  obtain ⟨hresponse, hinvoked⟩ := hheld'.running produced rfl
  obtain rfl : service = service' :=
    Option.some.inj (hheld.own_service.symm.trans hheld'.own_service)
  have hmem : service ∈ services := by
    obtain ⟨index, -, hindex⟩ := Option.bind_eq_some_iff.mp hheld'.own_service
    exact mem_of_getElem? hindex
  refine ⟨arguments, hle hheld'.admitted, hheld'.own_completion, hheld'.completionState.symm,
    .inr ⟨service, hmem, handler, status, responseSize, produced, hheld'.descriptor,
      hheld'.own_handler, hle hinvoked, hevent, ?_⟩⟩
  rw [← hheld'.descriptor]
  dsimp only
  rw [hresponse]
  unfold checkResponse
  by_cases hfits : responseSize ≤ maxResponse ∧
      responseSize ≤ service.descriptor.responseType.maxSerializedSize
  · rw [if_pos hfits, if_neg (by omega)]
    by_cases hok : status = .ok
    · subst hok
      exact ⟨rfl, rfl⟩
    · rw [if_pos hok, if_neg hok]
      exact ⟨rfl, rfl⟩
  · rw [if_neg hfits, if_pos (by omega)]
    exact ⟨rfl, rfl⟩

/-- Every step keeps the invariant. -/
theorem Inv.step (h : s.Inv services)
    (hfit : ∀ service ∈ services,
      service.descriptor.requestType.maxSerializedSize ≤ maxRequest)
    (action : CallAction κ σ maxResponse) : (s.step action).Inv services := by
  have hsplit : ∀ {index frame}, s.frames[index]? = some frame →
      s.frames = s.frames.take index ++ frame :: s.frames.drop (index + 1) ∧
        (s.frames.take index).length = index := by
    intro index frame hframe
    have hlt := (List.getElem?_eq_some_iff.mp hframe).1
    exact ⟨eq_take_append_cons_drop hframe, by rw [length_take]; omega⟩
  cases action with
  | call arguments now => exact h.call hfit arguments now
  | post index status =>
    rw [LocalSystem.step]
    split
    · rename_i hframe
      obtain ⟨hframes, hindex⟩ := hsplit hframe
      exact hindex ▸ h.post hframes status
    · exact h
  | dispatch index now =>
    rw [LocalSystem.step]
    split
    · rename_i hframe
      obtain ⟨hframes, hindex⟩ := hsplit hframe
      exact hindex ▸ h.dispatch hframes now
    · exact h
  | write index offset value =>
    rw [LocalSystem.step]
    split
    · rename_i hframe
      obtain ⟨hframes, hindex⟩ := hsplit hframe
      exact hindex ▸ h.write hframes offset value
    · exact h
  | leave index status responseSize =>
    rw [LocalSystem.step]
    split
    · rename_i hframe
      obtain ⟨hframes, hindex⟩ := hsplit hframe
      exact hindex ▸ h.leave hframes status responseSize
    · exact h

theorem inv_start {rpc : LocalRpc η maxServices maxRequest maxResponse} :
    (start rpc :
      LocalSystem η κ σ maxServices maxRequest maxResponse maxPending).Inv
        rpc.services where
  services_eq := rfl
  slots := ⟨nodup_nil, fun _ => ⟨nofun, nofun⟩, rfl⟩
  ledger := ⟨fun call => by simp [start], fun call => by simp [start]⟩
  held := nofun
  justified := nofun

end LocalSystem

end AsterCtrl
