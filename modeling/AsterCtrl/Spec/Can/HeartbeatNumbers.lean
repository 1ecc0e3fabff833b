import AsterCtrl.ForStd.List
import AsterCtrl.Spec.Can.HeartbeatSession

/-!
# The numbers of the heartbeats on the bus

`Poll` takes the next number for a heartbeat before it offers the frame to the writer.  When the
writer rejects the frame, the number is used up, and the next heartbeat on the bus leaves a gap
that the monitor of the peer takes for a lost heartbeat.

The heartbeats that a plane offers are numbered without gaps, so the accepted ones are exactly when the rejections between two of
them come in multiples of 256.

## Key results

- `poll_attempts`: `Poll` offers no heartbeat, or one with the next number
- `numbered_run`: the heartbeats that were offered, whatever became of them
- `keepsOnline_of_isChain`: the peer that receives consecutive heartbeats
- `accepted_consecutive_iff`: when the accepted heartbeats are consecutive
-/

namespace AsterCtrl.Can

open List

/-! ## Heartbeat frames -/

namespace ControlFrameCodec

/-- Every heartbeat of a node is encoded, and read back. -/
theorem exists_encodeHeartbeat {heartbeat : Heartbeat} (h : heartbeat.nodeId ≠ 0) :
    ∃ frame, encodeHeartbeat heartbeat = .ok frame ∧ decodeHeartbeat frame = .ok heartbeat := by
  have hid : CanArbitrationId.decode (CanArbitrationId.encode .critical kHeartbeatRouteId).2 =
      some ⟨.critical, kHeartbeatRouteId⟩ := by decide
  refine ⟨_, by rw [encodeHeartbeat, if_neg h, if_neg (by decide)], ?_⟩
  have huptime : (frameData (0xc0 :: heartbeat.nodeId :: heartbeat.sequence ::
      heartbeat.stateFlags :: writeLE 4 heartbeat.uptimeMs.toNat)).toList.drop 4 =
      writeLE 4 heartbeat.uptimeMs.toNat ++ [] := by
    rw [toList_frameData _ (by simp)]
    simp
  have hnode : ¬ (frameData (0xc0 :: heartbeat.nodeId :: heartbeat.sequence ::
      heartbeat.stateFlags :: writeLE 4 heartbeat.uptimeMs.toNat))[1] = 0 := h
  rw [decodeHeartbeat, if_neg (by simp [isControlFrame, hid])]
  dsimp only
  rw [if_neg hnode]
  rw [huptime, readLE_writeLE 4 _ [] heartbeat.uptimeMs.toNat_lt, UInt32.ofNat_toNat]
  rfl

end ControlFrameCodec

namespace CanLinkControlPlane

/-! ## The number of a heartbeat -/

/-- No heartbeat was offered, or one with the next number, which is then used. -/
inductive Numbers (s : CanLinkControlPlane) (w : CanFrameWriter) (s' : CanLinkControlPlane)
    (w' : CanFrameWriter) : Prop where
  | nothing (keeps : KeepsNumber s w s' w')
  | one (attempt : HeartbeatAttempt) (config : s'.config = s.config)
      (sequence : s'.heartbeatSequence = s.heartbeatSequence + 1)
      (number : attempt.heartbeat.sequence = s.heartbeatSequence)
      (attempts : w'.heartbeatAttempts = w.heartbeatAttempts ++ [attempt])

variable {s' s'' : CanLinkControlPlane} {w' w'' : CanFrameWriter} {s : CanLinkControlPlane}

theorem KeepsNumber.numbers {w : CanFrameWriter} (h : KeepsNumber s w s' w')
    (h' : Numbers s' w' s'' w'') : Numbers s w s'' w'' := by
  cases h' with
  | nothing keeps => exact .nothing (h.trans keeps)
  | one attempt config sequence number attempts =>
    exact .one attempt (config.trans h.config) (h.sequence ▸ sequence) (h.sequence ▸ number)
      (h.attempts ▸ attempts)

theorem Numbers.keeps {w : CanFrameWriter} (h : Numbers s w s' w') (h' : KeepsNumber s' w' s'' w'') :
    Numbers s w s'' w'' := by
  cases h with
  | nothing keeps => exact .nothing (keeps.trans h')
  | one attempt config sequence number attempts =>
    exact .one attempt (h'.config.trans config) (h'.sequence.trans sequence) number
      (h'.attempts.trans attempts)

theorem numbers_sendHeartbeat (hnode : s.config.localHandshake.nodeId ≠ 0) (nowNs : UInt64)
    (w : CanFrameWriter) :
    Numbers s w (s.sendHeartbeat nowNs w).2.1 (s.sendHeartbeat nowNs w).2.2 := by
  unfold sendHeartbeat
  split
  · let heartbeat : Heartbeat := ⟨s.config.localHandshake.nodeId, s.heartbeatSequence,
      s.stateFlags, (nowNs / 1000000).toUInt32⟩
    have hnode' : heartbeat.nodeId ≠ 0 := hnode
    obtain ⟨frame, hencode, hdecode⟩ := ControlFrameCodec.exists_encodeHeartbeat hnode'
    have hsend := w.heartbeatAttempts_send frame
    rw [hdecode] at hsend
    dsimp only
    rw [hencode]
    -- the number is used up whatever the writer answers
    dsimp only
    split
    · exact .one _ rfl rfl rfl hsend
    · exact .one _ rfl rfl rfl hsend
  · exact .nothing ⟨rfl, rfl, rfl⟩

/-- `Poll` offers no heartbeat, or one with the next number. -/
theorem poll_attempts (hnode : s.config.localHandshake.nodeId ≠ 0) (nowNs : UInt64)
    (interrupt : Bool) (w : CanFrameWriter) :
    Numbers s w (s.poll nowNs interrupt w).2.1 (s.poll nowNs interrupt w).2.2 := by
  cases hpoll : s.pollRejected nowNs interrupt with
  | true =>
    rw [poll_rejected hpoll]
    exact .nothing ⟨rfl, rfl, rfl⟩
  | false =>
    rw [poll_eq hpoll]
    have hpart := (pollPart_pollHandshake (s.noticePoll nowNs) nowNs w).toKeepsNumber
    have hkeeps : KeepsNumber s w _ _ := ⟨hpart.config, hpart.sequence, hpart.attempts⟩
    refine andThen_induct (andThen_induct hkeeps (fun _ _ => .nothing) fun s' w' h => ?_)
      (fun _ _ => id) fun s' w' h => ?_
    · exact h.numbers (numbers_sendHeartbeat (h.config ▸ hnode) nowNs w')
    · exact h.keeps (pollPart_sendTimeSync s' nowNs w').toKeepsNumber

/-! ## Accept and WriteApplication -/

variable (s : CanLinkControlPlane) (w : CanFrameWriter) (frame : CanFrame)

theorem heartbeatSequence_accept (localNs : UInt64) :
    (s.accept frame localNs w).plane.heartbeatSequence = s.heartbeatSequence := by
  unfold accept
  split
  · rfl
  split
  · rfl
  split_ifs
  · rfl
  · show (s.acceptHandshake frame localNs w).plane.heartbeatSequence = _
    unfold acceptHandshake takeHandshake
    dsimp only
    repeat' split
    all_goals rfl
  · show (s.acceptHeartbeat frame localNs w).plane.heartbeatSequence = _
    unfold acceptHeartbeat
    repeat' split
    all_goals rfl
  · show (s.acceptTimeSync frame localNs w).plane.heartbeatSequence = _
    unfold acceptTimeSync
    repeat' split
    all_goals rfl
  · rfl

/-- `Accept` offers nothing but acknowledgements. -/
theorem keepsNumber_accept (localNs : UInt64) :
    KeepsNumber s w (s.accept frame localNs w).plane (s.accept frame localNs w).writer := by
  have hsequence := heartbeatSequence_accept s w frame localNs
  have hack := heartbeatAttempts_acknowledge w
    (s.handshakeReceiver.kind_acknowledgement frame (some localNs))
  cases s.accept_cases frame localNs w with
  | refused _ plane _ _ _ writer | ignored _ plane _ _ _ writer
  | restart _ _ _ _ _ plane _ _ _ writer | heartbeat _ _ _ _ _ plane _ _ _ writer
  | timeSync _ _ _ _ plane _ _ _ writer =>
    exact ⟨congrArg PeerSide.config plane, hsequence, by rw [writer]⟩
  | handshakePart _ _ plane _ _ _ writer | handshake _ _ _ _ _ plane _ _ _ writer =>
    exact ⟨congrArg PeerSide.config plane, hsequence, by rw [writer]; exact hack⟩

theorem keepsNumber_writeApplication :
    KeepsNumber s w (s.writeApplication frame w).2.1 (s.writeApplication frame w).2.2 := by
  unfold writeApplication
  split
  · exact ⟨rfl, rfl, rfl⟩
  rename_i id hid
  split
  · exact ⟨rfl, rfl, rfl⟩
  rename_i hroute
  split
  · exact ⟨rfl, rfl, rfl⟩
  · refine ⟨rfl, rfl, CanFrameWriter.heartbeatAttempts_send_of_none ?_ w⟩
    refine ControlFrameCodec.decodeHeartbeat_eq_none fun id' hid' hheartbeat _ => hroute ?_
    rw [Option.some.inj (hid.symm.trans hid'), hheartbeat]
    decide

/-- The heartbeats that the call offers to the writer. -/
def attemptsBy (s : CanLinkControlPlane) : LinkAction → List HeartbeatAttempt
  | .poll nowNs interrupt outcome =>
    (s.poll nowNs interrupt { outcome := outcome }).2.2.heartbeatAttempts
  | .accept frame localNs outcome =>
    (s.accept frame localNs { outcome := outcome }).writer.heartbeatAttempts
  | .writeApplication frame outcome =>
    (s.writeApplication frame { outcome := outcome }).2.2.heartbeatAttempts

end CanLinkControlPlane

namespace LinkHistory

open CanLinkControlPlane

/-! ## The heartbeats that were offered -/

/-- The heartbeats that a run of calls offers to the writer, in their order. -/
def attempts (h : LinkHistory) (actions : List LinkAction) : List HeartbeatAttempt :=
  (Machine.outputs step (fun h action => h.plane.attemptsBy action) h actions).flatten

/-- The heartbeats that the writer accepted. -/
def acceptedHeartbeats (h : LinkHistory) (actions : List LinkAction) : List Heartbeat :=
  ((h.attempts actions).filter HeartbeatAttempt.accepted).map HeartbeatAttempt.heartbeat

/-- The heartbeats that were offered are numbered from 0 on, and the next number is the plane's. -/
structure Numbered (h : LinkHistory) (offered : List HeartbeatAttempt) : Prop where
  node : h.plane.config.localHandshake.nodeId ≠ 0
  next : h.plane.heartbeatSequence = UInt8.ofNat offered.length
  numbers : ∀ i attempt, offered[i]? = some attempt → attempt.heartbeat.sequence = UInt8.ofNat i

variable {offered : List HeartbeatAttempt} {h : LinkHistory}

theorem numbered_step (hnumbered : Numbered h offered) (action : LinkAction) :
    Numbered (h.step action) (offered ++ h.plane.attemptsBy action) := by
  have hcall : ∃ w, w.heartbeatAttempts = [] ∧ ∃ w', w'.heartbeatAttempts =
      h.plane.attemptsBy action ∧ Numbers h.plane w (h.step action).plane w' := by
    cases action with
    | poll nowNs interrupt outcome =>
      exact ⟨_, rfl, _, rfl, poll_attempts hnumbered.node nowNs interrupt { outcome := outcome }⟩
    | accept frame localNs outcome =>
      exact ⟨_, rfl, _, rfl,
        .nothing (keepsNumber_accept h.plane { outcome := outcome } frame localNs)⟩
    | writeApplication frame outcome =>
      exact ⟨_, rfl, _, rfl,
        .nothing (keepsNumber_writeApplication h.plane { outcome := outcome } frame)⟩
  obtain ⟨w, hw, w', hw', hcall⟩ := hcall
  cases hcall with
  | nothing keeps =>
    rw [← hw', keeps.attempts, hw, append_nil]
    exact ⟨keeps.config ▸ hnumbered.node, keeps.sequence.trans hnumbered.next, hnumbered.numbers⟩
  | one attempt config sequence number attempts =>
    rw [← hw', attempts, hw, nil_append]
    refine ⟨config ▸ hnumbered.node, ?_, fun i a hi => ?_⟩
    · rw [sequence, hnumbered.next, length_append, UInt8.ofNat_add]
      rfl
    · rcases List.getElem?_concat_cases hi with hi | ⟨rfl, rfl⟩
      · exact hnumbered.numbers i a hi
      · rw [number, hnumbered.next]

theorem numbered_run (hnumbered : Numbered h offered) (actions : List LinkAction) :
    Numbered (Machine.run step h actions) (offered ++ h.attempts actions) := by
  induction actions generalizing h offered with
  | nil =>
    rw [attempts, Machine.outputs_nil, flatten_nil, append_nil]
    exact hnumbered
  | cons action actions ih =>
    rw [attempts, Machine.outputs_cons, flatten_cons, ← append_assoc]
    exact ih (numbered_step hnumbered action)

/-- Between two accepted heartbeats with no accepted one in between, the number of rejected ones
    is a multiple of 256. -/
def RejectedInRounds (offered : List HeartbeatAttempt) : Prop :=
  ∀ l₁ a rejected b l₂, offered = l₁ ++ a :: (rejected ++ b :: l₂) → a.accepted = true →
    b.accepted = true → (∀ attempt ∈ rejected, ¬ attempt.accepted = true) → 256 ∣ rejected.length

theorem isChain_accepted_iff (hnumbered : Numbered h offered) :
    ((offered.filter HeartbeatAttempt.accepted).map HeartbeatAttempt.heartbeat).IsChain
        (fun earlier later => later.sequence = earlier.sequence + 1) ↔
      RejectedInRounds offered := by
  rw [isChain_map, isChain_filter_iff]
  -- two heartbeats with `rejected` between them: the difference of their numbers
  have hstep : ∀ l₁ a (rejected : List HeartbeatAttempt) b l₂,
      offered = l₁ ++ a :: (rejected ++ b :: l₂) →
      (b.heartbeat.sequence = a.heartbeat.sequence + 1 ↔ 256 ∣ rejected.length) := by
    rintro l₁ a rejected b l₂ rfl
    have ha := hnumbered.numbers l₁.length a (by simp)
    have hb := hnumbered.numbers (l₁.length + 1 + rejected.length) b (by
      rw [List.getElem?_append_right (by omega), show l₁.length + 1 + rejected.length -
        l₁.length = rejected.length + 1 by omega, List.getElem?_cons_succ,
        List.getElem?_append_right (Nat.le_refl _), Nat.sub_self]
      rfl)
    rw [ha, hb, ← UInt8.toNat_inj, UInt8.toNat_add]
    simp only [UInt8.toNat_ofNat', UInt8.reduceToNat]
    omega
  constructor
  · intro hchain l₁ a rejected b l₂ hl ha hb hrejected
    exact (hstep l₁ a rejected b l₂ hl).mp (hchain l₁ a rejected b l₂ hl ha hb hrejected)
  · intro hrounds l₁ a rejected b l₂ hl ha hb hrejected
    exact (hstep l₁ a rejected b l₂ hl).mpr (hrounds l₁ a rejected b l₂ hl ha hb hrejected)

/-! ## The peer -/

/-- The peer has polled before a heartbeat arrives whose uptime is half the range of the counter
    or more after the one before: the link is not Online any more. -/
def PolledBefore (config : CanLinkControlConfig) (h : LinkHistory) (action : LinkAction) : Prop :=
  ∀ heartbeat ∈ peerHeartbeat config action, h.plane.hasPeerHeartbeat = true →
    heartbeat.uptimeMs - h.plane.peerUptimeMs > 0x7fffffff → h.plane.heartbeat.state ≠ .online

instance (config : CanLinkControlConfig) (h : LinkHistory) (action : LinkAction) :
    Decidable (PolledBefore config h action) :=
  inferInstanceAs (Decidable (∀ heartbeat ∈ peerHeartbeat config action, _ → _ → _))

/-- The call does not take the link from Online back to Recovering. -/
def KeepsOnline (h : LinkHistory) (action : LinkAction) : Prop :=
  h.plane.heartbeat.state = .online → (h.step action).plane.heartbeat.state ≠ .recovering

instance (h : LinkHistory) (action : LinkAction) : Decidable (h.KeepsOnline action) :=
  inferInstanceAs (Decidable (_ → _))

/-- The monitor agrees with the last heartbeat, and its state with its count. -/
structure Watches (config : CanLinkControlConfig) (s : CanLinkControlPlane)
    (last : Option Heartbeat) : Prop where
  valid : s.valid = true
  config_eq : s.config = config
  fresh : last = none → s.hasPeerHeartbeat = false ∧ s.heartbeat.state ≠ .online
  remembers : ∀ heartbeat ∈ last, s.Remembers heartbeat ∧ s.heartbeat.hasObservation = true ∧
    s.heartbeat.lastSequence = heartbeat.sequence
  online : s.heartbeat.state = .online →
    s.heartbeat.recoverySamples ≤ s.heartbeat.consecutiveSamples

variable {config : CanLinkControlConfig} {last : Option Heartbeat}

theorem Watches.quiet (hwatches : Watches config h.plane last) {action : LinkAction}
    (hquiet : peerHeartbeat config action = none) :
    Watches config (h.step action).plane last ∧ h.KeepsOnline action := by
  obtain ⟨hsame, hmonitor⟩ := sameHeartbeat_step (hwatches.config_eq.symm ▸ hquiet)
  -- without a heartbeat the monitor stays or is lost
  have hcases : (h.step action).plane.heartbeat = h.plane.heartbeat ∨
      (h.step action).plane.heartbeat =
        { h.plane.heartbeat with state := .lost, consecutiveSamples := 0 } := by
    rw [hmonitor]
    cases action with
    | poll nowNs interrupt outcome =>
      dsimp only [monitorAfter, HeartbeatMonitor.poll]
      split
      · exact .inl rfl
      · split
        · exact .inr rfl
        · exact .inl rfl
    | accept | writeApplication => exact .inl rfl
  have hremembers : ∀ heartbeat ∈ last, (h.step action).plane.Remembers heartbeat :=
    fun heartbeat hlast =>
      have hr := (hwatches.remembers heartbeat hlast).1
      ⟨hsame.has.trans hr.has, hsame.sequence.trans hr.sequence, hsame.uptimeMs.trans hr.uptimeMs⟩
  unfold KeepsOnline
  rcases hcases with hcase | hcase
  · refine ⟨⟨hsame.valid.trans hwatches.valid, hsame.config.trans hwatches.config_eq,
      fun hnone => ⟨hsame.has.trans (hwatches.fresh hnone).1, ?_⟩, fun heartbeat hlast =>
        ⟨hremembers heartbeat hlast, ?_⟩, ?_⟩, fun honline => ?_⟩
    · rw [hcase]
      exact (hwatches.fresh hnone).2
    · rw [hcase]
      exact (hwatches.remembers heartbeat hlast).2
    · rw [hcase]
      exact hwatches.online
    · rw [hcase, honline]
      exact nofun
  · refine ⟨⟨hsame.valid.trans hwatches.valid, hsame.config.trans hwatches.config_eq,
      fun hnone => ⟨hsame.has.trans (hwatches.fresh hnone).1, ?_⟩, fun heartbeat hlast =>
        ⟨hremembers heartbeat hlast, ?_⟩, ?_⟩, fun _ => ?_⟩ <;> rw [hcase]
    · exact nofun
    · exact (hwatches.remembers heartbeat hlast).2
    · exact nofun
    · exact nofun

/-- An Online monitor stays so when the next number comes. -/
theorem observe_online {m : HeartbeatMonitor} (hhas : m.hasObservation = true)
    (honline : m.state = .online) (hcount : m.recoverySamples ≤ m.consecutiveSamples)
    {sequence : UInt8} (hnext : sequence = m.lastSequence + 1) (nowNs : UInt64) :
    (m.observe sequence nowNs).state = .online := by
  have hgoes : ¬ (m.hasObservation = false ∨ m.state = .lost ∨ sequence ≠ m.lastSequence + 1) := by
    simp [hhas, honline, hnext]
  dsimp only [HeartbeatMonitor.observe]
  rw [if_neg hgoes, if_neg (UInt8.not_lt.mpr hcount), if_pos hcount]

theorem Watches.delivery (hwatches : Watches config h.plane last) {action : LinkAction}
    {heartbeat : Heartbeat} (hpeer : peerHeartbeat config action = some heartbeat)
    (hnext : ∀ earlier ∈ last, heartbeat.sequence = earlier.sequence + 1)
    (hpolled : PolledBefore config h action) :
    Watches config (h.step action).plane (some heartbeat) ∧ h.KeepsOnline action := by
  obtain ⟨frame, localNs, outcome, rfl, hdecode, hnode⟩ := peerHeartbeat_eq_some hpeer
  have hside := accept_heartbeat hwatches.valid hdecode (hwatches.config_eq.symm ▸ hnode)
    localNs { outcome := outcome }
  have hfar := hpolled heartbeat hpeer
  change Watches config (h.plane.accept frame localNs
      { outcome := outcome }).plane _ ∧ (h.plane.heartbeat.state = .online →
        (h.plane.accept frame localNs
          { outcome := outcome }).plane.heartbeat.state ≠ .recovering)
  generalize (h.plane.accept frame localNs { outcome := outcome }).plane = s' at hside ⊢
  -- the heartbeat is observed, by the monitor as it was or by a new one
  have htaken : ∀ s₀ : CanLinkControlPlane, s₀.valid = true → s₀.config = config →
      s'.peerSide = (s₀.observeHeartbeat heartbeat
        localNs).refreshApplicationGate.peerSide →
      Watches config s' (some heartbeat) := by
    intro s₀ hvalid hconfig hside
    have hheartbeat : s'.heartbeat = s₀.heartbeat.observe heartbeat.sequence localNs :=
      congrArg PeerSide.heartbeat hside
    refine ⟨(congrArg PeerSide.valid hside).trans hvalid,
      (congrArg PeerSide.config hside).trans hconfig, nofun, ?_, fun honline => ?_⟩
    · rintro _ ⟨⟩
      rw [hheartbeat]
      exact ⟨⟨congrArg PeerSide.hasPeerHeartbeat hside,
        congrArg PeerSide.peerHeartbeatSequence hside, congrArg PeerSide.peerUptimeMs hside⟩,
        rfl, rfl⟩
    · rw [hheartbeat] at honline ⊢
      by_contra hless
      have hrecovering : (s₀.heartbeat.observe heartbeat.sequence localNs).state =
          .recovering := if_neg hless
      cases hrecovering.symm.trans honline
  cases last with
  | none =>
    obtain ⟨hhas, hnot⟩ := hwatches.fresh rfl
    have hverdict : h.plane.judgeHeartbeat heartbeat = .fresh := if_pos hhas
    rw [hverdict] at hside
    exact ⟨htaken h.plane hwatches.valid hwatches.config_eq hside,
      fun honline => absurd honline hnot⟩
  | some earlier =>
    obtain ⟨hremembers, hobserved, hlast⟩ := hwatches.remembers earlier rfl
    have hdistance : heartbeat.sequence - h.plane.peerHeartbeatSequence = 1 := by
      rw [hnext earlier rfl, hremembers.sequence]
      rw [UInt8.add_comm, UInt8.add_sub_cancel]
    by_cases hback : heartbeat.uptimeMs - h.plane.peerUptimeMs > 0x7fffffff
    · have hverdict : h.plane.judgeHeartbeat heartbeat = .restart := by
        unfold judgeHeartbeat
        dsimp only
        rw [if_neg (by simp [hremembers.has]), hdistance, if_pos ⟨hback, .inl (by decide)⟩]
      rw [hverdict] at hside
      exact ⟨htaken h.plane.handlePeerRestart hwatches.valid hwatches.config_eq hside,
        fun honline => absurd honline (hfar hremembers.has hback)⟩
    · have hverdict : h.plane.judgeHeartbeat heartbeat = .fresh := by
        unfold judgeHeartbeat
        dsimp only
        rw [if_neg (by simp [hremembers.has]), hdistance, if_neg fun hb => hback hb.1,
          if_neg hback, if_neg fun hsame => absurd hsame.2 (by decide),
          if_neg fun hlate => absurd hlate.2 (by decide)]
      rw [hverdict] at hside
      refine ⟨htaken h.plane hwatches.valid hwatches.config_eq hside, fun honline => ?_⟩
      have hheartbeat := congrArg PeerSide.heartbeat hside
      have hstays := observe_online hobserved honline (hwatches.online honline)
        (hlast ▸ hnext earlier rfl) localNs
      rw [show s'.heartbeat = h.plane.heartbeat.observe heartbeat.sequence localNs from
        hheartbeat, hstays]
      exact nofun

/-- A peer that receives consecutive heartbeats stays Online. -/
theorem keepsOnline_of_isChain (hwatches : Watches config h.plane last) {actions : List LinkAction}
    {received : List Heartbeat} (hactions : actions.filterMap (peerHeartbeat config) = received)
    (hreceived : Machine.Along (fun _ heartbeat => some heartbeat) (fun last heartbeat => ∀ earlier
      ∈ last, heartbeat.sequence = earlier.sequence + 1) last received)
    (hpolled : Machine.Along step (PolledBefore config) h actions) :
    Machine.Along step KeepsOnline h actions := by
  induction actions generalizing h last received with
  | nil => trivial
  | cons action actions ih =>
    cases hpeer : peerHeartbeat config action with
    | none =>
      rw [filterMap_cons_none hpeer] at hactions
      obtain ⟨hnext, hkeeps⟩ := hwatches.quiet hpeer
      exact ⟨hkeeps, ih hnext hactions hreceived hpolled.2⟩
    | some heartbeat =>
      rw [filterMap_cons_some hpeer] at hactions
      subst hactions
      obtain ⟨hnext, hkeeps⟩ := hwatches.delivery hpeer hreceived.1 hpolled.1
      exact ⟨hkeeps, ih hnext rfl hreceived.2 hpolled.2⟩

theorem watches_init (hconfig : config.isValid true true = true) :
    Watches config (init config true true).plane none := by
  obtain ⟨valid, hside⟩ := peerSide_construct config true true
  have hheartbeat := congrArg PeerSide.heartbeat hside
  refine ⟨(memoryInv_init hconfig).valid, congrArg PeerSide.config hside, fun _ =>
    ⟨congrArg PeerSide.hasPeerHeartbeat hside, fun honline => ?_⟩, nofun, fun honline => ?_⟩ <;>
    exact nomatch (congrArg HeartbeatMonitor.state hheartbeat).symm.trans honline

theorem numbered_init (hconfig : config.isValid true true = true) :
    Numbered (init config true true) [] := by
  have hnode : config.localHandshake.nodeId ≠ 0 := by
    simp only [CanLinkControlConfig.isValid, decide_eq_true_eq] at hconfig
    exact hconfig.2.1
  refine ⟨(memoryInv_init hconfig).config_eq.symm ▸ hnode, ?_, fun _ _ hnone => by cases hnone⟩
  rw [init, construct]
  split
  · rfl
  · split <;> rfl

/-- The accepted heartbeats are consecutive, and a peer that receives all of them and polls in time
    never falls back from Online to Recovering, if and only if between two accepted heartbeats the
    writer rejects a multiple of 256. -/
theorem accepted_consecutive_iff (config : CanLinkControlConfig)
    (hconfig : config.isValid true true = true) (actions : List LinkAction) :
    (((init config true true).acceptedHeartbeats actions).IsChain
        (fun earlier later => later.sequence = earlier.sequence + 1) ∧
      ∀ peerConfig : CanLinkControlConfig, peerConfig.isValid true true = true →
        ∀ peerActions, peerActions.filterMap (peerHeartbeat peerConfig) =
          (init config true true).acceptedHeartbeats actions →
        Machine.Along step (PolledBefore peerConfig) (init peerConfig true true) peerActions →
        Machine.Along step KeepsOnline (init peerConfig true true) peerActions) ↔
    RejectedInRounds ((init config true true).attempts actions) := by
  have hnumbered := numbered_run (numbered_init hconfig) actions
  rw [List.nil_append] at hnumbered
  rw [← isChain_accepted_iff hnumbered]
  refine ⟨And.left, fun hchain => ⟨hchain, ?_⟩⟩
  intro peerConfig hpeerConfig peerActions hactions hpolled
  refine keepsOnline_of_isChain (watches_init hpeerConfig) hactions ?_ hpolled
  exact Machine.along_of_isChain (fun earlier later hnext => by simpa using hnext) nofun hchain

/-- Polls every 100 ms; the writer takes everything but the only frame of the fourth one. -/
def rejectedOnce : List LinkAction :=
  [.poll 0 false fun _ => .ok, .poll 100000000 false fun _ => .ok,
    .poll 200000000 false fun _ => .ok, .poll 300000000 false fun _ => .unavailable,
    .poll 310000000 false fun _ => .ok]

/-- The peer of `restartConfig`. -/
def receiverConfig : CanLinkControlConfig where
  localHandshake := { protocolVersion := 1, nodeId := 2 }
  peerNodeId := 1

/-- The heartbeats arrive at a peer. -/
def arrivalsOf (heartbeats : List Heartbeat) : List LinkAction :=
  heartbeats.map fun heartbeat =>
    .accept ((ControlFrameCodec.encodeHeartbeat heartbeat).toOption.getD {}) 0 fun _ => .ok

/-- One rejected heartbeat leaves a gap, and the peer that receives all others falls back from
    Online to Recovering. -/
theorem rejected_heartbeat_leaves_gap :
    let accepted := (init restartConfig true true).acceptedHeartbeats rejectedOnce
    accepted.map Heartbeat.sequence = [0, 1, 2, 4] ∧
      (arrivalsOf accepted).filterMap (peerHeartbeat receiverConfig) = accepted ∧
      Machine.Along step (PolledBefore receiverConfig) (init receiverConfig true true)
        (arrivalsOf accepted) ∧
      ¬ Machine.Along step KeepsOnline (init receiverConfig true true) (arrivalsOf accepted) := by
  decide +kernel

/-- Without a rejection the numbers are consecutive, and the peer stays Online. -/
theorem accepted_consecutive_undisturbed :
    ((init restartConfig true true).acceptedHeartbeats (rejectedOnce.take 3)).length = 3 ∧
      ((init restartConfig true true).acceptedHeartbeats (rejectedOnce.take 3)).IsChain
        (fun earlier later => later.sequence = earlier.sequence + 1) := by
  have hall : ∀ attempt ∈ (init restartConfig true true).attempts (rejectedOnce.take 3),
      attempt.accepted = true := by decide +kernel
  refine ⟨by decide +kernel, ((accepted_consecutive_iff restartConfig (by decide) _).mpr ?_).1⟩
  intro l₁ a rejected b l₂ hl _ _ hrejected
  have hnone : rejected = [] := List.eq_nil_iff_forall_not_mem.mpr fun attempt hmem =>
    hrejected attempt hmem (hall attempt (by rw [hl]; simp [hmem]))
  rw [hnone]
  exact Nat.dvd_zero _

end LinkHistory

end AsterCtrl.Can
