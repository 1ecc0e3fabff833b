import Mathlib.Data.Nat.Bitwise
import Mathlib.Data.List.Basic

/-!
# Little-endian byte strings

Writing a number as `n` bytes, low byte first, and reading it back.  Both directions are
the loops one finds in codecs: `writeLE` shifts the value right by eight bits for every
byte, `readLE` ORs every byte into place.
-/

/-- The `n` low bytes of `v`, low byte first. -/
def writeLE (n v : Nat) : List UInt8 :=
  (List.range n).map fun index => UInt8.ofNat (v >>> (index * 8))

/-- The number whose `n` low bytes are the first bytes of `bytes`, low byte first. -/
def readLE (n : Nat) (bytes : List UInt8) : Nat :=
  (List.range n).foldl
    (fun value index => value ||| ((bytes.getD index 0).toNat <<< (index * 8))) 0

@[simp] theorem length_writeLE (n v : Nat) : (writeLE n v).length = n := by
  simp [writeLE]

/-- One more byte of `v` below bit `8 * (k + 1)`. -/
private theorem mod_or_byte_shift (v k : Nat) :
    v % 2 ^ (k * 8) ||| ((v >>> (k * 8)) % 2 ^ 8) <<< (k * 8) = v % 2 ^ ((k + 1) * 8) := by
  apply Nat.eq_of_testBit_eq
  intro i
  simp only [Nat.testBit_or, Nat.testBit_mod_two_pow, Nat.testBit_shiftLeft, Nat.testBit_shiftRight]
  by_cases hlow : i < k * 8
  · simp [hlow, show ¬ k * 8 ≤ i by omega, show i < (k + 1) * 8 by omega]
  · have hge : k * 8 ≤ i := by omega
    by_cases hin : i < (k + 1) * 8
    · simp [hlow, hge, hin, show i - k * 8 < 8 by omega, show k * 8 + (i - k * 8) = i by omega]
    · simp [hlow, hin, show ¬ i - k * 8 < 8 by omega]

/-- Reading the first `k` of the bytes of `v` gives `v` modulo `2 ^ (8 * k)`. -/
private theorem readLE_append_writeLE (n v : Nat) (rest : List UInt8) (k : Nat) (hk : k ≤ n) :
    readLE k (writeLE n v ++ rest) = v % 2 ^ (k * 8) := by
  induction k with
  | zero => simp [readLE, Nat.mod_one]
  | succ k ih =>
    have hbyte : ((writeLE n v ++ rest).getD k 0).toNat = (v >>> (k * 8)) % 2 ^ 8 := by
      rw [List.getD_append _ _ _ _ (by rw [length_writeLE]; omega)]
      simp [writeLE, List.getD_eq_getElem?_getD, List.getElem?_range (show k < n by omega)]
    have hfirst := ih (by omega)
    unfold readLE at hfirst ⊢
    rw [List.range_succ, List.foldl_append, hfirst, List.foldl_cons, List.foldl_nil, hbyte,
      mod_or_byte_shift]

/-- Reading `n` bytes back from a string that starts with the `n` bytes of `v`. -/
theorem readLE_writeLE (n v : Nat) (rest : List UInt8) (hv : v < 2 ^ (n * 8)) :
    readLE n (writeLE n v ++ rest) = v := by
  rw [readLE_append_writeLE n v rest n (Nat.le_refl n), Nat.mod_eq_of_lt hv]

/-- Only the first `n` bytes are read. -/
theorem readLE_append {n : Nat} {bytes : List UInt8} (h : n ≤ bytes.length) (rest : List UInt8) :
    readLE n (bytes ++ rest) = readLE n bytes := by
  unfold readLE
  refine List.foldl_ext _ _ _ fun value index hindex => ?_
  rw [List.getD_append _ _ _ _ (Nat.lt_of_lt_of_le (List.mem_range.mp hindex) h)]

/-- A number of `n` bytes. -/
theorem readLE_lt (n : Nat) (bytes : List UInt8) : readLE n bytes < 2 ^ (n * 8) := by
  induction n with
  | zero => exact Nat.one_pos
  | succ n ih =>
    have hbyte : (bytes.getD n 0).toNat <<< (n * 8) < 2 ^ ((n + 1) * 8) := by
      rw [Nat.shiftLeft_eq, Nat.succ_mul, Nat.add_comm, Nat.pow_add]
      exact Nat.mul_lt_mul_of_pos_right (UInt8.toNat_lt _) (Nat.two_pow_pos _)
    unfold readLE at ih ⊢
    rw [List.range_succ, List.foldl_append, List.foldl_cons, List.foldl_nil]
    exact Nat.or_lt_two_pow (Nat.lt_of_lt_of_le ih (Nat.pow_le_pow_right Nat.two_pos (by omega)))
      hbyte

/-- The last byte stands above the others. -/
theorem readLE_succ (n : Nat) (bytes : List UInt8) :
    readLE (n + 1) bytes = 2 ^ (n * 8) * (bytes.getD n 0).toNat + readLE n bytes := by
  have hlt := readLE_lt n bytes
  unfold readLE at hlt ⊢
  rw [List.range_succ, List.foldl_append, List.foldl_cons, List.foldl_nil, Nat.or_comm,
    ← Nat.shiftLeft_add_eq_or_of_lt hlt, Nat.shiftLeft_eq, Nat.mul_comm]

/-- A number gives its bytes. -/
theorem getD_eq_of_readLE_eq {n : Nat} {bytes bytes' : List UInt8}
    (h : readLE n bytes = readLE n bytes') {index : Nat} (hindex : index < n) :
    bytes.getD index 0 = bytes'.getD index 0 := by
  induction n with
  | zero => exact absurd hindex (Nat.not_lt_zero _)
  | succ n ih =>
    rw [readLE_succ, readLE_succ] at h
    have hlow := congrArg (· % 2 ^ (n * 8)) h
    have hhigh := congrArg (· / 2 ^ (n * 8)) h
    simp only [Nat.mul_add_mod, Nat.mod_eq_of_lt (readLE_lt _ _)] at hlow
    simp only [Nat.mul_add_div (Nat.two_pow_pos _), Nat.div_eq_of_lt (readLE_lt _ _),
      Nat.add_zero] at hhigh
    rcases Nat.lt_succ_iff_lt_or_eq.mp hindex with hlt | rfl
    · exact ih hlow hlt
    · exact UInt8.toNat_inj.mp hhigh
