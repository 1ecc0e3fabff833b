import AsterCtrl.Spec.Can.PeerRestart

/-!
# The heartbeats of one session

A peer numbers the heartbeats of a session modulo 256 and stamps them with its uptime modulo
2^32 ms.  They are delivered in order, some of them never and some more than once.  As long as two
successive deliveries are not too far apart, the comparison of `AcceptHeartbeat` recovers their
order from the two wrapped counters: a repetition is a duplicate, anything else is new, and nothing
looks like a restart.  The monitor then counts what really follows each other.

## Key results

- `judgeHeartbeat_of_follows`: the verdict on the next heartbeat of the session
- `run_deliveries`: how to prove something about all deliveries of a session
- `no_restart_and_online`: no restart is counted, and when the monitor is Online
-/

namespace AsterCtrl.Can

/-- Heartbeat `j` of the session may be delivered next after heartbeat `i`. -/
structure PeerSession.Follows (session : PeerSession) (i j : ℕ) : Prop where
  le : i ≤ j
  near : session.uptimeMs j < session.uptimeMs i + 2 ^ 31
  numbered : session.uptimeMs j = session.uptimeMs i → j ≤ i + 127

/-- The heartbeats numbered from `first` on, `samples` of them and none delivered before, arrive
    one after another, and each may be repeated before the next one comes. -/
structure ArriveInRow (samples first : ℕ) (before arrivals : List ℕ) : Prop where
  new : ∀ i ∈ before, i ∉ arrivals
  head : arrivals.head? = some first
  step : arrivals.IsChain fun i j => j = i ∨ j = i + 1
  last : arrivals.getLast?.map (· + 1) = some (first + samples)

namespace CanLinkControlPlane

/-- The call is a `Poll` that finds the heartbeats of the peer overdue. -/
def SeesTimeout (s : CanLinkControlPlane) : LinkAction → Prop
  | .poll nowNs interrupt _ =>
    s.pollRejected nowNs interrupt = false ∧ s.heartbeat.timedOut nowNs = true
  | _ => False

/-! ## The verdict -/

/-- Within a session a repeated heartbeat is a duplicate and every other one is new. -/
theorem judgeHeartbeat_of_follows {s : CanLinkControlPlane} {session : PeerSession}
    {nodeId : UInt8} {i j : ℕ} (h : s.Remembers (session.heartbeat nodeId i))
    (hfollows : session.Follows i j) :
    s.judgeHeartbeat (session.heartbeat nodeId j) = if j = i then .duplicate else .fresh := by
  obtain ⟨hle, hnear, hnumbered⟩ := hfollows
  have hmono := session.monotone hle
  have huptime : ((session.heartbeat nodeId j).uptimeMs - s.peerUptimeMs).toNat =
      session.uptimeMs j - session.uptimeMs i := by
    rw [h.uptimeMs, UInt32.toNat_sub]
    simp only [PeerSession.heartbeat, UInt32.toNat_ofNat']
    omega
  have hsequence : ((session.heartbeat nodeId j).sequence - s.peerHeartbeatSequence).toNat =
      (j - i) % 256 := by
    rw [h.sequence, UInt8.toNat_sub]
    simp only [PeerSession.heartbeat, UInt8.toNat_ofNat']
    omega
  have hforward : ¬ (session.heartbeat nodeId j).uptimeMs - s.peerUptimeMs > 0x7fffffff := by
    rw [gt_iff_lt, UInt32.lt_iff_toNat_lt, huptime]
    have : (0x7fffffff : UInt32).toNat = 2 ^ 31 - 1 := rfl
    omega
  have hsame : (session.heartbeat nodeId j).uptimeMs - s.peerUptimeMs = 0 ↔
      session.uptimeMs j = session.uptimeMs i := by
    rw [← UInt32.toNat_inj, huptime]
    simp only [UInt32.reduceToNat]
    omega
  have hduplicate : session.uptimeMs j = session.uptimeMs i ∧
      (session.heartbeat nodeId j).sequence - s.peerHeartbeatSequence = 0 ↔ j = i := by
    rw [← UInt8.toNat_inj, hsequence]
    simp only [UInt8.reduceToNat]
    refine ⟨fun hboth => ?_, fun heq => by subst heq; exact ⟨rfl, by omega⟩⟩
    have := hnumbered hboth.1
    omega
  have hlate : ¬ (session.uptimeMs j = session.uptimeMs i ∧
      (session.heartbeat nodeId j).sequence - s.peerHeartbeatSequence > 127) := by
    rintro ⟨heq, hgt⟩
    have := hnumbered heq
    rw [gt_iff_lt, UInt8.lt_iff_toNat_lt, hsequence] at hgt
    simp only [UInt8.reduceToNat] at hgt
    omega
  unfold judgeHeartbeat
  dsimp only
  rw [if_neg (by simp [h.has]), if_neg fun hback => hforward hback.1, if_neg hforward]
  simp only [hsame, hduplicate, if_neg hlate]

/-- The heartbeats of the peer that the plane has seen are those of the session up to `last`. -/
structure Knows (config : CanLinkControlConfig) (session : PeerSession) (s : CanLinkControlPlane)
    (last : Option ℕ) : Prop where
  valid : s.valid = true
  config_eq : s.config = config
  restarts : s.stats.peerRestarts = 0
  samples : s.heartbeat.recoverySamples = config.recoverySamples
  fresh : last = none → s.hasPeerHeartbeat = false
  remembers : ∀ i ∈ last, s.Remembers (session.heartbeat config.peerNodeId i)

variable {config : CanLinkControlConfig} {session : PeerSession} {s s' : CanLinkControlPlane}
  {last : Option ℕ}

theorem Knows.same (h : Knows config session s last) (hsame : SameHeartbeat s s')
    (hsamples : s'.heartbeat.recoverySamples = s.heartbeat.recoverySamples) :
    Knows config session s' last where
  valid := hsame.valid.trans h.valid
  config_eq := hsame.config.trans h.config_eq
  restarts := hsame.restarts.trans h.restarts
  samples := hsamples.trans h.samples
  fresh hnone := hsame.has.trans (h.fresh hnone)
  remembers i hi :=
    have hr := h.remembers i hi
    ⟨hsame.has.trans hr.has, hsame.sequence.trans hr.sequence, hsame.uptimeMs.trans hr.uptimeMs⟩

theorem monitorAfter_recoverySamples (s : CanLinkControlPlane) (action : LinkAction) :
    (s.monitorAfter action).recoverySamples = s.heartbeat.recoverySamples := by
  cases action with
  | poll nowNs interrupt outcome =>
    rw [monitorAfter]
    split
    · rfl
    · exact poll_recoverySamples _ _
  | accept | writeApplication => rfl

theorem monitorAfter_of_not_seesTimeout {action : LinkAction} (h : ¬ s.SeesTimeout action) :
    s.monitorAfter action = s.heartbeat := by
  cases action with
  | poll nowNs interrupt outcome =>
    rw [monitorAfter]
    split
    · rfl
    · rename_i hrejected
      have hnot : ¬ s.heartbeat.timedOut nowNs = true := fun ht =>
        h ⟨Bool.not_eq_true _ ▸ hrejected, ht⟩
      rw [HeartbeatMonitor.poll, if_neg hnot]
  | accept | writeApplication => rfl

end CanLinkControlPlane

namespace LinkHistory

open CanLinkControlPlane

variable {config : CanLinkControlConfig} {session : PeerSession} {h : LinkHistory}
  {last : Option ℕ} {action : LinkAction}

theorem knows_quiet (hknows : Knows config session h.plane last)
    (hquiet : peerHeartbeat config action = none) :
    Knows config session (h.step action).plane last ∧
      (h.step action).plane.heartbeat = h.plane.monitorAfter action := by
  obtain ⟨hsame, hmonitor⟩ := sameHeartbeat_step (hknows.config_eq.symm ▸ hquiet)
  refine ⟨hknows.same hsame ?_, hmonitor⟩
  rw [hmonitor]
  exact monitorAfter_recoverySamples _ _

/-- A heartbeat of the session is a repetition of the last one, or it is observed. -/
theorem knows_delivery (hknows : Knows config session h.plane last) {j : ℕ}
    (hpeer : peerHeartbeat config action = some (session.heartbeat config.peerNodeId j))
    (hfollows : ∀ i ∈ last, session.Follows i j) :
    Knows config session (h.step action).plane (some j) ∧
      if last = some j then (h.step action).plane.heartbeat = h.plane.heartbeat
      else ∃ nowNs, (h.step action).plane.heartbeat =
        h.plane.heartbeat.observe (UInt8.ofNat j) nowNs := by
  obtain ⟨frame, localNs, outcome, rfl, hdecode, -⟩ := peerHeartbeat_eq_some hpeer
  have hside := accept_heartbeat hknows.valid hdecode
    (show config.peerNodeId = h.plane.config.peerNodeId by rw [hknows.config_eq])
    localNs { outcome := outcome }
  have hverdict : h.plane.judgeHeartbeat (session.heartbeat config.peerNodeId j) =
      if last = some j then .duplicate else .fresh := by
    cases last with
    | none => exact if_pos (hknows.fresh rfl)
    | some i =>
      rw [judgeHeartbeat_of_follows (hknows.remembers i rfl) (hfollows i rfl)]
      simp only [Option.some.injEq, eq_comm]
  change Knows config session (h.plane.accept frame localNs
    { outcome := outcome }).plane _ ∧ if last = some j then (h.plane.accept frame
      localNs { outcome := outcome }).plane.heartbeat = _ else ∃ nowNs,
        (h.plane.accept frame localNs { outcome := outcome }).plane.heartbeat = _
  generalize (h.plane.accept frame localNs { outcome := outcome }).plane = s' at hside ⊢
  rw [hverdict] at hside
  by_cases hlast : last = some j
  · rw [if_pos hlast] at hside ⊢
    have hsame := (sameHeartbeat_refreshApplicationGate h.plane).of_peerSide hside
    have hheartbeat := congrArg PeerSide.heartbeat hside
    exact ⟨hlast ▸ hknows.same hsame (congrArg HeartbeatMonitor.recoverySamples hheartbeat),
      hheartbeat⟩
  · rw [if_neg hlast] at hside ⊢
    have hheartbeat := congrArg PeerSide.heartbeat hside
    refine ⟨⟨(congrArg PeerSide.valid hside).trans hknows.valid,
      (congrArg PeerSide.config hside).trans hknows.config_eq,
      (congrArg PeerSide.peerRestarts hside).trans hknows.restarts,
      (congrArg HeartbeatMonitor.recoverySamples hheartbeat).trans hknows.samples, nofun, ?_⟩,
      localNs, hheartbeat⟩
    rintro _ ⟨⟩
    exact ⟨congrArg PeerSide.hasPeerHeartbeat hside,
      congrArg PeerSide.peerHeartbeatSequence hside, congrArg PeerSide.peerUptimeMs hside⟩

variable {actions : List LinkAction} {indices : List ℕ}

/-- What every call without a heartbeat of the peer keeps, and every delivery that `R` allows
    after the last one, holds after every run in which `R` allows all deliveries. -/
theorem run_deliveries {I : LinkHistory → Option ℕ → Prop} {R : Option ℕ → ℕ → Prop}
    {C : LinkHistory → LinkAction → Prop}
    (hquiet : ∀ h last action, I h last → peerHeartbeat config action = none → C h action → I
      (h.step action) last)
    (hdelivery : ∀ h last action j, I h last → peerHeartbeat config action = some (session.heartbeat
      config.peerNodeId j) → R last j → C h action → I (h.step action) (some j)) (hstart : I h last)
    (hactions : actions.filterMap (peerHeartbeat config) = indices.map (session.heartbeat
      config.peerNodeId)) (hindices : Machine.Along (fun _ j => some j) R last indices)
    (hcalls : Machine.Along step C h actions) :
    I (Machine.run step h actions) (indices.getLast?.or last) := by
  induction actions generalizing h last indices with
  | nil =>
    cases indices with
    | nil => exact hstart
    | cons j indices => cases hactions
  | cons action actions ih =>
    cases hpeer : peerHeartbeat config action with
    | none =>
      rw [List.filterMap_cons_none hpeer] at hactions
      exact ih (hquiet h last action hstart hpeer hcalls.1) hactions hindices hcalls.2
    | some heartbeat =>
      rw [List.filterMap_cons_some hpeer] at hactions
      cases indices with
      | nil => cases hactions
      | cons j indices =>
        obtain ⟨hj, hactions⟩ := List.cons.inj hactions
        have hnext := ih (hdelivery h last action j hstart (hj ▸ hpeer) hindices.1 hcalls.1)
          hactions hindices.2 hcalls.2
        rw [List.getLast?_cons]
        cases hlast : indices.getLast? with
        | none => simpa [hlast] using hnext
        | some k => simpa [hlast] using hnext

theorem knows_init (hconfig : config.isValid true true = true) (session : PeerSession) :
    Knows config session (init config true true).plane none := by
  obtain ⟨valid, hside⟩ := peerSide_construct config true true
  exact ⟨(memoryInv_init hconfig).valid, congrArg PeerSide.config hside,
    congrArg PeerSide.peerRestarts hside,
    congrArg (fun side => side.heartbeat.recoverySamples) hside,
    fun _ => congrArg PeerSide.hasPeerHeartbeat hside, nofun⟩

/-! ## Counting -/

/-- The monitor has counted `count` heartbeats in a row, as far as it counts, up to the one
    numbered `last`. -/
structure Counted (m : HeartbeatMonitor) (last count : ℕ) : Prop where
  has : m.hasObservation = true
  sequence : m.lastSequence = UInt8.ofNat last
  state : m.state = if m.consecutiveSamples ≥ m.recoverySamples then .online else .recovering
  count : min count m.recoverySamples.toNat ≤ m.consecutiveSamples.toNat

theorem counted_first {m : HeartbeatMonitor} (hsamples : m.recoverySamples ≠ 0) (j : ℕ)
    (nowNs : UInt64) : Counted (m.observe (UInt8.ofNat j) nowNs) j 1 where
  has := rfl
  sequence := rfl
  state := rfl
  count := by
    have hpos : 0 < m.recoverySamples.toNat :=
      Nat.pos_of_ne_zero fun h0 => hsamples (UInt8.toNat_inj.mp h0)
    have hlt := m.recoverySamples.toNat_lt
    dsimp only [HeartbeatMonitor.observe]
    split
    · exact Nat.min_le_left _ _
    · split
      · rename_i hless
        have := UInt8.lt_iff_toNat_lt.mp hless
        rw [UInt8.toNat_add]
        simp only [UInt8.reduceToNat]
        omega
      · rename_i hless
        have := UInt8.le_iff_toNat_le.mp (UInt8.not_lt.mp hless)
        omega

theorem Counted.next {m : HeartbeatMonitor} {i count : ℕ} (h : Counted m i count)
    (nowNs : UInt64) : Counted (m.observe (UInt8.ofNat (i + 1)) nowNs) (i + 1) (count + 1) where
  has := rfl
  sequence := rfl
  state := rfl
  count := by
    have hnext : UInt8.ofNat (i + 1) = m.lastSequence + 1 := by
      rw [h.sequence, UInt8.ofNat_add]
      rfl
    have hlost : m.state ≠ .lost := by
      rw [h.state]
      split <;> exact nofun
    have hcount := h.count
    have hlt := m.recoverySamples.toNat_lt
    have hgoes : ¬ (m.hasObservation = false ∨ m.state = .lost ∨
        UInt8.ofNat (i + 1) ≠ m.lastSequence + 1) := by
      simp [h.has, hlost, hnext]
    dsimp only [HeartbeatMonitor.observe]
    rw [if_neg hgoes]
    split
    · rename_i hless
      have := UInt8.lt_iff_toNat_lt.mp hless
      rw [UInt8.toNat_add]
      simp only [UInt8.reduceToNat]
      omega
    · rename_i hless
      have := UInt8.le_iff_toNat_le.mp (UInt8.not_lt.mp hless)
      omega

/-- The monitor has counted the heartbeats from `first` on, if the last one is among them. -/
def CountsFrom (m : HeartbeatMonitor) (first : ℕ) (last : Option ℕ) : Prop :=
  ∀ l ∈ last, first ≤ l → Counted m l (l - first + 1)

/-- Heartbeat `j` may come next in a session when those from `first` on come without gaps. -/
structure InRow (session : PeerSession) (first : ℕ) (last : Option ℕ) (j : ℕ) : Prop where
  follows : ∀ i ∈ last, session.Follows i j
  le_succ : ∀ i ∈ last, j ≤ max first (i + 1)
  le_first : last = none → j ≤ first

theorem countsFrom_delivery (hsamples : config.recoverySamples ≠ 0) {first j : ℕ}
    (hknows : Knows config session h.plane last)
    (hcounts : CountsFrom h.plane.heartbeat first last)
    (hpeer : peerHeartbeat config action = some (session.heartbeat config.peerNodeId j))
    (hrow : InRow session first last j) :
    CountsFrom (h.step action).plane.heartbeat first (some j) := by
  obtain ⟨-, hmonitor⟩ := knows_delivery hknows hpeer hrow.follows
  by_cases hlast : last = some j
  · rw [if_pos hlast] at hmonitor
    rw [hmonitor, ← hlast]
    exact hcounts
  · rw [if_neg hlast] at hmonitor
    obtain ⟨nowNs, hmonitor⟩ := hmonitor
    rw [hmonitor]
    rintro _ ⟨⟩ hfirst
    have hrecovery : h.plane.heartbeat.recoverySamples ≠ 0 := hknows.samples ▸ hsamples
    cases last with
    | none =>
      obtain rfl : j = first := Nat.le_antisymm (hrow.le_first rfl) hfirst
      rw [Nat.sub_self]
      exact counted_first hrecovery j nowNs
    | some i =>
      have hle := (hrow.follows i rfl).le
      have hne : i ≠ j := fun heq => hlast (congrArg some heq)
      have hsucc := hrow.le_succ i rfl
      by_cases hi : first ≤ i
      · obtain rfl : j = i + 1 := by omega
        have hnext := (hcounts i rfl hi).next nowNs
        rwa [show i - first + 1 = i + 1 - first by omega] at hnext
      · obtain rfl : j = first := by omega
        rw [Nat.sub_self]
        exact counted_first hrecovery j nowNs

/-! ## All deliveries -/

theorem knows_run (hknows : Knows config session h.plane last)
    (hactions : actions.filterMap (peerHeartbeat config) = indices.map (session.heartbeat
      config.peerNodeId))
    (hindices : Machine.Along (fun _ j => some j) (fun last j => ∀ i ∈ last, session.Follows i j)
      last indices) :
    Knows config session (Machine.run step h actions).plane (indices.getLast?.or last) := by
  refine run_deliveries (I := fun h last => Knows config session h.plane last)
    (C := fun _ _ => True) ?_ ?_ hknows hactions hindices ?_
  · exact fun h last action hknows hquiet _ => (knows_quiet hknows hquiet).1
  · exact fun h last action j hknows hpeer hfollows _ => (knows_delivery hknows hpeer hfollows).1
  · exact Machine.along_of_forall step (fun _ _ => trivial) h actions

/-- While no `Poll` finds the heartbeats overdue, the monitor counts those that come in a row. -/
theorem countsFrom_run (hsamples : config.recoverySamples ≠ 0) {first : ℕ}
    (hknows : Knows config session h.plane last) (hcounts : CountsFrom h.plane.heartbeat first last)
    (hactions : actions.filterMap (peerHeartbeat config) = indices.map (session.heartbeat
      config.peerNodeId))
    (hindices : Machine.Along (fun _ j => some j) (InRow session first) last indices)
    (hcalls : Machine.Along step (fun h action => ¬ h.plane.SeesTimeout action) h actions) :
    CountsFrom (Machine.run step h actions).plane.heartbeat first (indices.getLast?.or last) := by
  refine (run_deliveries (I := fun h last => Knows config session h.plane last ∧
    CountsFrom h.plane.heartbeat first last) ?_ ?_ ⟨hknows, hcounts⟩ hactions hindices hcalls).2
  · rintro h last action ⟨hknows, hcounts⟩ hquiet hcall
    obtain ⟨hknows', hmonitor⟩ := knows_quiet hknows hquiet
    rw [monitorAfter_of_not_seesTimeout hcall] at hmonitor
    exact ⟨hknows', hmonitor ▸ hcounts⟩
  · rintro h last action j ⟨hknows, hcounts⟩ hpeer hrow -
    exact ⟨(knows_delivery hknows hpeer hrow.follows).1,
      countsFrom_delivery hsamples hknows hcounts hpeer hrow⟩

/-- Heartbeats of one session in order, with losses and repetitions: no restart is counted, and
    when as many consecutive ones as `recoverySamples` have arrived for the first time, without a
    `Poll` in between that finds them overdue, the monitor is Online. -/
theorem no_restart_and_online (config : CanLinkControlConfig)
    (hconfig : config.isValid true true = true) (session : PeerSession)
    (earlier later : List LinkAction) (before arrivals : List ℕ)
    (hearlier : earlier.filterMap (peerHeartbeat config) =
      before.map (session.heartbeat config.peerNodeId))
    (hlater : later.filterMap (peerHeartbeat config) =
      arrivals.map (session.heartbeat config.peerNodeId))
    (horder : (before ++ arrivals).IsChain session.Follows) :
    (Machine.run step (init config true true) (earlier ++ later)).plane.stats.peerRestarts = 0 ∧
      ∀ first, ArriveInRow config.recoverySamples.toNat first before arrivals →
        Machine.Along step (fun h action => ¬ h.plane.SeesTimeout action)
          (Machine.run step (init config true true) earlier) later →
        (Machine.run step (init config true true) (earlier ++ later)).plane.heartbeat.state =
          .online := by
  obtain ⟨hbefore, harrivals, hlink⟩ := List.isChain_append.mp horder
  have hafter := knows_run (knows_init hconfig session) hearlier
    (Machine.along_of_isChain (R := session.Follows) (fun i j hij => by simpa using hij) (fun _ _ i hi => by cases hi)
      hbefore)
  rw [Option.or_none] at hafter
  rw [Machine.run_append]
  generalize Machine.run step (init config true true) earlier = h at hafter ⊢
  refine ⟨(knows_run hafter hlater (Machine.along_of_isChain (R := session.Follows)
    (fun i j hij => by simpa using hij) (fun j hj i hi => hlink i hi j hj) harrivals)).restarts, ?_⟩
  intro first harrive hcalls
  have hsamples : config.recoverySamples ≠ 0 := by
    simp only [CanLinkControlConfig.isValid, decide_eq_true_eq] at hconfig
    exact hconfig.2.2.2.2.2.2.2.2.1
  have hmem : first ∈ arrivals := List.mem_of_head? harrive.head
  -- what was delivered before comes before the first of them
  have hcounts : CountsFrom h.plane.heartbeat first before.getLast? := by
    intro l hl hfirst
    have hle := (hlink l hl first harrive.head).le
    obtain rfl : l = first := Nat.le_antisymm hle hfirst
    exact absurd hmem (harrive.new l (List.mem_of_getLast? hl))
  have hrow : Machine.Along (fun _ j => some j) (InRow session first) before.getLast? arrivals := by
    refine Machine.along_of_isChain (R := fun i j => session.Follows i j ∧ (j = i ∨ j = i + 1))
      ?_ ?_ ?_
    · rintro i j ⟨hfollows, hstep⟩
      refine ⟨by simpa using hfollows, ?_, fun hnone => by cases hnone⟩
      rintro _ ⟨⟩
      omega
    · intro j hj
      obtain rfl : first = j := Option.some.inj (harrive.head.symm.trans hj)
      exact ⟨fun i hi => hlink i hi first hj, fun i hi => Nat.le_max_left _ _,
        fun _ => Nat.le_refl _⟩
    · rw [List.isChain_iff_getElem]
      intro i hi
      exact ⟨harrivals.getElem i hi, harrive.step.getElem i hi⟩
  have hcounted := countsFrom_run hsamples hafter hcounts hlater hrow hcalls
  have hknows := knows_run hafter hlater (Machine.along_of_isChain (R := session.Follows)
    (fun i j hij => by simpa using hij) (fun j hj i hi => hlink i hi j hj) harrivals)
  obtain ⟨l, hl, hlast⟩ := Option.map_eq_some_iff.mp harrive.last
  rw [hl, Option.some_or] at hcounted hknows
  have hpos : 0 < config.recoverySamples.toNat :=
    Nat.pos_of_ne_zero fun h0 => hsamples (UInt8.toNat_inj.mp h0)
  have hdone := hcounted l rfl (by omega)
  have hcount := hdone.count
  rw [hknows.samples] at hcount
  rw [hdone.state, if_pos]
  rw [hknows.samples, ge_iff_le, UInt8.le_iff_toNat_le]
  omega

/-- Heartbeat 5, then 7, 8 and 9 with a repetition and a `Poll` in between: no restart, and three
    in a row. -/
theorem no_restart_and_online_steady :
    (Machine.run step (init restartConfig true true)
      ([.accept (steadyFrame 5) 0 fun _ => .ok] ++
        [.accept (steadyFrame 7) 0 fun _ => .ok, .poll 5 false fun _ => .ok,
          .accept (steadyFrame 7) 6 fun _ => .ok, .accept (steadyFrame 8) 7 fun _ => .ok,
          .accept (steadyFrame 9) 8 fun _ => .ok])).plane.heartbeat.state = .online := by
  have hfollows : ∀ i j, i ≤ j → j < i + 100 → steadySession.Follows i j := by
    intro i j hle hlt
    exact ⟨hle, by dsimp only [steadySession]; omega, fun _ => by omega⟩
  refine (no_restart_and_online restartConfig (by decide) steadySession _ _ [5] [7, 7, 8, 9]
    (by decide +kernel) (by decide +kernel) ?_).2 7 ⟨by decide, rfl, by decide, rfl⟩ ?_
  · simp [hfollows]
  · refine ⟨id, ?_, id, id, id, trivial⟩
    rintro ⟨-, htimeout⟩
    exact absurd htimeout (by decide +kernel)

end LinkHistory

end AsterCtrl.Can
