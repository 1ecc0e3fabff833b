import AsterCtrl.ForStd.Run
import AsterCtrl.ForStd.Smoothing
import AsterCtrl.Native.Can.LinkControl

/-!
# Time synchronisation

The offset of a follower is a smoothed difference between the time of the master and its own.  As
long as the times stay in their ranges, no signed operation overflows, so the offset is what the
filter computes with integers: it lies between the samples, and a constant sample is reached up to
seven nanoseconds.

## Key results

- `TimeSyncFollower.observe_spec`: one observation, without an overflow
- `timeObservation_of_decodeTimeSync`: the times in control frames are in the range
- `time_sync_converges`: all observations
-/

namespace AsterCtrl.Can

/-- The times that `Observe` gets. -/
structure TimeObservation where
  masterTimeNs : UInt64
  localTimeNs : UInt64
deriving DecidableEq, Repr

namespace TimeObservation

/-- The time of the master in whole microseconds of 48 bits, and a time of the follower. -/
def Valid (o : TimeObservation) : Prop :=
  1000 ∣ o.masterTimeNs.toNat ∧ o.masterTimeNs.toNat < 1000 * 2 ^ 48 ∧ o.localTimeNs.toNat < 2 ^ 62

instance (o : TimeObservation) : Decidable o.Valid := inferInstanceAs (Decidable (_ ∧ _ ∧ _))

/-- The difference of the times. -/
def sample (o : TimeObservation) : Int := (o.masterTimeNs.toNat : Int) - o.localTimeNs.toNat

theorem Valid.sample_bounds {o : TimeObservation} (h : o.Valid) :
    -2 ^ 62 < o.sample ∧ o.sample < 1000 * 2 ^ 48 := by
  obtain ⟨-, hmaster, hlocal⟩ := h
  unfold sample
  omega

end TimeObservation

/-- A result of a signed operation on 64 bits. -/
def InInt64 (x : Int) : Prop := -2 ^ 63 ≤ x ∧ x < 2 ^ 63

theorem bmod_eq_of_inInt64 {x : Int} (h : InInt64 x) : x.bmod (2 ^ 64) = x := by
  obtain ⟨hlow, hhigh⟩ := h
  apply Int.bmod_eq_of_le <;> omega

theorem toInt_toInt64 {x : UInt64} (h : x.toNat < 2 ^ 63) : x.toInt64.toInt = x.toNat := by
  have hlt : 2 * x.toBitVec.toNat < 2 ^ 64 := by
    rw [UInt64.toNat_toBitVec]
    omega
  exact BitVec.toInt_eq_toNat_of_lt hlt

namespace TimeSyncFollower

/-- The offset as an integer. -/
def offset (f : TimeSyncFollower) : Int := f.offsetNs.toInt

/-- `Observe` with the times in one argument. -/
def take (f : TimeSyncFollower) (o : TimeObservation) : TimeSyncFollower :=
  f.observe o.masterTimeNs o.localTimeNs

/-- No signed operation of `Observe` overflows: the conversions, the sample, and for a follower
    that has an offset the distance to it and the sum. -/
structure Exact (f : TimeSyncFollower) (o : TimeObservation) : Prop where
  masterTime : InInt64 o.masterTimeNs.toNat
  localTime : InInt64 o.localTimeNs.toNat
  sample : InInt64 o.sample
  distance : f.synchronized → InInt64 (o.sample - f.offset)
  sum : f.synchronized → InInt64 (f.offset + (o.sample - f.offset).tdiv 8)

variable {f : TimeSyncFollower} {o : TimeObservation}

/-- The offset lies where samples can be. -/
def Bounded (f : TimeSyncFollower) : Prop := -2 ^ 62 < f.offset ∧ f.offset < 1000 * 2 ^ 48

theorem exact_of_bounded (hf : f.Bounded) (ho : o.Valid) : f.Exact o := by
  obtain ⟨hlow, hhigh⟩ := hf
  obtain ⟨hsample, hsample'⟩ := ho.sample_bounds
  obtain ⟨-, hmaster, hlocal⟩ := ho
  have hsum : -2 ^ 62 ≤ smooth 8 f.offset o.sample ∧ smooth 8 f.offset o.sample ≤ 1000 * 2 ^ 48 :=
    smooth_between 8 ⟨by omega, by omega⟩ ⟨by omega, by omega⟩
  change -2 ^ 62 ≤ f.offset + (o.sample - f.offset).tdiv 8 ∧
    f.offset + (o.sample - f.offset).tdiv 8 ≤ 1000 * 2 ^ 48 at hsum
  refine ⟨?_, ?_, ?_, fun _ => ?_, fun _ => ?_⟩ <;> unfold InInt64 <;> omega

/-- One observation: the first sample is the offset, and later ones move it. -/
theorem observe_spec (h : f.Exact o) :
    (f.take o).offset = (if f.synchronized then smooth 8 f.offset o.sample else o.sample) ∧
      (f.take o).synchronized = true := by
  have hsample : (o.masterTimeNs.toInt64 - o.localTimeNs.toInt64).toInt = o.sample := by
    rw [Int64.toInt_sub, toInt_toInt64 (by have := h.masterTime.2; omega),
      toInt_toInt64 (by have := h.localTime.2; omega)]
    exact bmod_eq_of_inInt64 h.sample
  unfold take observe
  cases hsync : f.synchronized with
  | false => exact ⟨hsample, rfl⟩
  | true =>
    refine ⟨?_, rfl⟩
    change (f.offsetNs + (o.masterTimeNs.toInt64 - o.localTimeNs.toInt64 - f.offsetNs) / 8).toInt =
      smooth 8 f.offset o.sample
    have hdistance : (o.masterTimeNs.toInt64 - o.localTimeNs.toInt64 - f.offsetNs).toInt =
        o.sample - f.offset := by
      rw [Int64.toInt_sub, hsample]
      exact bmod_eq_of_inInt64 (h.distance hsync)
    have hquotient : InInt64 ((o.sample - f.offset).tdiv 8) := by
      have hle : ((o.sample - f.offset).tdiv 8).natAbs = (o.sample - f.offset).natAbs / 8 :=
        Int.natAbs_tdiv _ _
      have hrange := h.distance hsync
      unfold InInt64 at hrange ⊢
      omega
    have height : (8 : Int64).toInt = 8 := rfl
    rw [Int64.toInt_add, Int64.toInt_div, hdistance, height, bmod_eq_of_inInt64 hquotient]
    exact bmod_eq_of_inInt64 (h.sum hsync)

theorem bounded_take (hf : f.Bounded) (ho : o.Valid) : (f.take o).Bounded := by
  unfold Bounded
  rw [(observe_spec (exact_of_bounded hf ho)).1]
  obtain ⟨hsample, hsample'⟩ := ho.sample_bounds
  split_ifs
  · obtain ⟨hlow, hhigh⟩ := hf
    have hbetween : -2 ^ 62 + 1 ≤ smooth 8 f.offset o.sample ∧
        smooth 8 f.offset o.sample ≤ 1000 * 2 ^ 48 - 1 :=
      smooth_between 8 ⟨by omega, by omega⟩ ⟨by omega, by omega⟩
    omega
  · exact ⟨hsample, hsample'⟩

/-! ## Constant samples -/

section Constant

variable {c : Int}

/-- A sample brings the offset nearer to it, unless it is near already. -/
theorem take_near (hf : f.Bounded) (ho : o.Valid) (hc : o.sample = c) :
    ((f.take o).offset - c).natAbs ≤ (f.offset - c).natAbs ∧
      (8 ≤ (f.offset - c).natAbs → ((f.take o).offset - c).natAbs < (f.offset - c).natAbs) ∧
      (f.synchronized → (f.offset - c).natAbs ≤ 7 → (f.take o).offset = f.offset) := by
  rw [(observe_spec (exact_of_bounded hf ho)).1, hc]
  split_ifs with hsync
  · exact ⟨natAbs_smooth_sub_le 8 f.offset c, natAbs_smooth_sub_lt (by decide), fun _ hnear =>
      smooth_eq_of_lt (by omega)⟩
  · exact ⟨by omega, by omega, fun h => absurd h hsync⟩

/-- A constant sample, again and again. -/
def Constantly (c : Int) (observations : List TimeObservation) : Prop :=
  ∀ o ∈ observations, o.Valid ∧ o.sample = c

variable {more : List TimeObservation}

theorem run_le (hf : f.Bounded) (hmore : Constantly c more) :
    ((Machine.run take f more).offset - c).natAbs ≤ (f.offset - c).natAbs := by
  induction more generalizing f with
  | nil => exact le_rfl
  | cons o more ih =>
    obtain ⟨⟨ho, hc⟩, hmore⟩ := List.forall_mem_cons.mp hmore
    exact (ih (bounded_take hf ho) hmore).trans (take_near hf ho hc).1

theorem run_near (hf : f.Bounded) (hsync : f.synchronized) (hmore : Constantly c more)
    (hnear : (f.offset - c).natAbs ≤ 7) : (Machine.run take f more).offset = f.offset := by
  induction more generalizing f with
  | nil => rfl
  | cons o more ih =>
    obtain ⟨⟨ho, hc⟩, hmore⟩ := List.forall_mem_cons.mp hmore
    have hfixed := (take_near hf ho hc).2.2 hsync hnear
    rw [Machine.run_cons, ih (bounded_take hf ho) (observe_spec (exact_of_bounded hf ho)).2 hmore
      (hfixed ▸ hnear), hfixed]

/-- After as many samples as the distance the offset is near. -/
theorem run_reaches (hf : f.Bounded) (hmore : Constantly c more)
    (hlength : (f.offset - c).natAbs ≤ more.length) :
    ((Machine.run take f more).offset - c).natAbs ≤ 7 := by
  induction more generalizing f with
  | nil => exact hlength.trans (Nat.zero_le _)
  | cons o more ih =>
    by_cases hfar : 8 ≤ (f.offset - c).natAbs
    · obtain ⟨⟨ho, hc⟩, hmore⟩ := List.forall_mem_cons.mp hmore
      have hlt := (take_near hf ho hc).2.1 hfar
      rw [List.length_cons] at hlength
      exact ih (bounded_take hf ho) hmore (by omega)
    · exact (run_le hf hmore).trans (by omega)

end Constant

/-! ## Runs -/

/-- What the observations have made of a follower. -/
structure Follows (f : TimeSyncFollower) (observations : List TimeObservation) : Prop where
  bounded : f.Bounded
  synchronized_iff : f.synchronized ↔ observations ≠ []
  between : observations ≠ [] → ∃ low ∈ observations, ∃ high ∈ observations,
    low.sample ≤ f.offset ∧ f.offset ≤ high.sample

theorem Follows.take {observations : List TimeObservation} (h : f.Follows observations)
    (ho : o.Valid) : (f.take o).Follows (observations ++ [o]) := by
  obtain ⟨hoffset, hsync⟩ := observe_spec (exact_of_bounded h.bounded ho)
  refine ⟨bounded_take h.bounded ho, ⟨fun _ => by simp, fun _ => hsync⟩, fun _ => ?_⟩
  rw [hoffset]
  split_ifs with hsynced
  · obtain ⟨low, hlow, high, hhigh, hle, hge⟩ := h.between (h.synchronized_iff.mp hsynced)
    -- the new sample may be a new smallest or largest one
    obtain ⟨low', hlow', hlow_le⟩ : ∃ low' ∈ observations ++ [o],
        low'.sample ≤ low.sample ∧ low'.sample ≤ o.sample := by
      obtain hcase | hcase := Int.le_total low.sample o.sample
      · exact ⟨low, by simp [hlow], Int.le_refl _, hcase⟩
      · exact ⟨o, by simp, hcase, Int.le_refl _⟩
    obtain ⟨high', hhigh', hle_high⟩ : ∃ high' ∈ observations ++ [o],
        high.sample ≤ high'.sample ∧ o.sample ≤ high'.sample := by
      obtain hcase | hcase := Int.le_total high.sample o.sample
      · exact ⟨o, by simp, hcase, Int.le_refl _⟩
      · exact ⟨high, by simp [hhigh], Int.le_refl _, hcase⟩
    exact ⟨low', hlow', high', hhigh', smooth_between 8
      ⟨Int.le_trans hlow_le.1 hle, Int.le_trans hge hle_high.1⟩ ⟨hlow_le.2, hle_high.2⟩⟩
  · exact ⟨o, by simp, o, by simp, Int.le_refl _, Int.le_refl _⟩

theorem follows_run {observations : List TimeObservation} (hvalid : ∀ o ∈ observations, o.Valid) :
    (Machine.run TimeSyncFollower.take {} observations).Follows observations := by
  induction observations using List.reverseRecOn with
  | nil => exact ⟨⟨by decide, by decide⟩, by simp, fun h => absurd rfl h⟩
  | append_singleton observations o ih =>
    rw [Machine.run_append]
    exact (ih fun o' ho' => hvalid o' (by simp [ho'])).take (hvalid o (by simp))

/-- Without an overflow the conversion adds the offset, down to zero. -/
theorem toNat_toNetworkTime (hf : f.Bounded) {t : UInt64} (ht : t.toNat < 2 ^ 62) :
    (f.toNetworkTime t).toNat =
      if f.synchronized then ((t.toNat : Int) + f.offset).toNat else t.toNat := by
  obtain ⟨hlow, hhigh⟩ := hf
  have hconverted : (t.toInt64 + f.offsetNs).toInt = t.toNat + f.offset := by
    rw [Int64.toInt_add, toInt_toInt64 (by omega)]
    exact bmod_eq_of_inInt64 (by unfold InInt64 offset at *; omega)
  unfold toNetworkTime
  cases f.synchronized with
  | false => rfl
  | true =>
    rw [if_neg (by decide), if_pos rfl]
    dsimp only
    generalize t.toInt64 + f.offsetNs = converted at hconverted
    split_ifs with hneg
    · have hle : converted.toInt ≤ 0 := Int64.le_iff_toInt_le.mp hneg
      have hzero : (0 : UInt64).toNat = 0 := rfl
      omega
    · have hlt : ¬ converted.toInt ≤ 0 := fun h => hneg (Int64.le_iff_toInt_le.mpr h)
      have hcond := BitVec.toInt_eq_toNat_cond converted.toBitVec
      change converted.toInt = if 2 * converted.toUInt64.toNat < 2 ^ 64
        then (converted.toUInt64.toNat : Int) else converted.toUInt64.toNat - (2 ^ 64 : Nat) at hcond
      have hrange := converted.toUInt64.toNat_lt
      split_ifs at hcond <;> omega

/-- Without an overflow the conversion is monotone. -/
theorem toNetworkTime_mono (hf : f.Bounded) {t t' : UInt64} (hle : t ≤ t')
    (hlt : t'.toNat < 2 ^ 62) : f.toNetworkTime t ≤ f.toNetworkTime t' := by
  have hle' : t.toNat ≤ t'.toNat := UInt64.le_iff_toNat_le.mp hle
  rw [UInt64.le_iff_toNat_le, toNat_toNetworkTime hf hlt,
    toNat_toNetworkTime hf (hle'.trans_lt hlt)]
  split_ifs <;> omega

end TimeSyncFollower

/-! ## Control frames -/

/-- The master time in a control frame has 48 bits, so it is in the range as nanoseconds. -/
theorem timeObservation_of_decodeTimeSync {frame : CanFrame} {sync : TimeSync} {t : UInt64}
    (h : ControlFrameCodec.decodeTimeSync frame = .ok sync) (ht : t.toNat < 2 ^ 62) :
    (TimeObservation.mk (sync.masterTimeUs * 1000) t).Valid := by
  unfold ControlFrameCodec.decodeTimeSync at h
  split_ifs at h
  cases h
  have hlt := readLE_lt 6 (frame.data.toList.drop 2)
  have hmaster : (UInt64.ofNat (readLE 6 (frame.data.toList.drop 2)) * 1000).toNat =
      readLE 6 (frame.data.toList.drop 2) * 1000 := by
    rw [UInt64.toNat_mul, UInt64.toNat_ofNat']
    have hthousand : (1000 : UInt64).toNat = 1000 := rfl
    rw [hthousand]
    omega
  refine ⟨?_, ?_, ht⟩
  · rw [hmaster]
    exact Dvd.intro_left _ rfl
  · rw [hmaster]
    omega

/-! ## All observations -/

open TimeSyncFollower in
/-- No observation makes a signed operation overflow; the offset lies between the samples; samples
    that are constantly the same bring it near to them, where it stays; and the conversion is
    monotone. -/
theorem time_sync_converges (observations : List TimeObservation)
    (hvalid : ∀ o ∈ observations, o.Valid) :
    let f := Machine.run take {} observations
    (∀ o : TimeObservation, o.Valid → f.Exact o) ∧
      (observations ≠ [] → ∃ low ∈ observations, ∃ high ∈ observations,
        low.sample ≤ f.offset ∧ f.offset ≤ high.sample) ∧
      (∀ c : Int,
        (∀ o : TimeObservation, o.Valid → o.sample = c →
          ((f.take o).offset - c).natAbs ≤ (f.offset - c).natAbs ∧
            (8 ≤ (f.offset - c).natAbs → ((f.take o).offset - c).natAbs < (f.offset - c).natAbs) ∧
            (observations ≠ [] → (f.offset - c).natAbs ≤ 7 → (f.take o).offset = f.offset)) ∧
          ∃ n, ∀ more, n ≤ more.length → Constantly c more →
            ((Machine.run take f more).offset - c).natAbs ≤ 7 ∧
              ∀ later, Constantly c later →
                (Machine.run take f (more ++ later)).offset = (Machine.run take f more).offset) ∧
      ∀ t t' : UInt64, t ≤ t' → t'.toNat < 2 ^ 62 →
        InInt64 (t'.toNat + f.offset) ∧ f.toNetworkTime t ≤ f.toNetworkTime t' := by
  intro f
  have hf : f.Follows observations := follows_run hvalid
  refine ⟨fun o ho => exact_of_bounded hf.bounded ho, hf.between, fun c => ⟨fun o ho hc => ?_, ?_⟩,
    fun t t' hle hlt => ⟨?_, toNetworkTime_mono hf.bounded hle hlt⟩⟩
  · obtain ⟨hnear, hshrinks, hfixed⟩ := take_near hf.bounded ho hc
    exact ⟨hnear, hshrinks, fun hne => hfixed (hf.synchronized_iff.mpr hne)⟩
  · refine ⟨(f.offset - c).natAbs + 1, fun more hlength hmore => ?_⟩
    have hnear := run_reaches hf.bounded hmore (by omega)
    refine ⟨hnear, fun later hlater => ?_⟩
    -- the follower after these observations is one after all of them
    have hmore' : (Machine.run take f more).Follows (observations ++ more) := by
      have hall : ∀ o ∈ observations ++ more, o.Valid := fun o ho =>
        (List.mem_append.mp ho).elim (hvalid o) fun h => (hmore o h).1
      have hrun := follows_run hall
      rwa [Machine.run_append] at hrun
    have hne : observations ++ more ≠ [] := by
      intro hnil
      rw [(List.append_eq_nil_iff.mp hnil).2] at hlength
      exact absurd hlength (by simp)
    rw [Machine.run_append]
    exact run_near hmore'.bounded (hmore'.synchronized_iff.mpr hne) hlater hnear
  · obtain ⟨hlow, hhigh⟩ := hf.bounded
    unfold InInt64
    omega

/-- A follower that is one microsecond off comes nearer. -/
theorem time_sync_converges_microsecond :
    let observations : List TimeObservation := [⟨1000, 0⟩]
    (∀ o ∈ observations, o.Valid) ∧
      ∃ n, ∀ more, n ≤ more.length → TimeSyncFollower.Constantly 0 more →
        ((Machine.run TimeSyncFollower.take
          (Machine.run TimeSyncFollower.take {} observations) more).offset - 0).natAbs ≤ 7 := by
  have hvalid : ∀ o ∈ [TimeObservation.mk 1000 0], o.Valid := by decide
  obtain ⟨-, -, hconstant, -⟩ := time_sync_converges [⟨1000, 0⟩] hvalid
  obtain ⟨n, hn⟩ := (hconstant 0).2
  exact ⟨hvalid, n, fun more hlength hmore => (hn more hlength hmore).1⟩

end AsterCtrl.Can
