import Mathlib.Data.List.Basic

/-!
# Consistent overhead byte stuffing

A byte string is cut into blocks of at most 254 bytes that are not zero: at every zero, which is
left out, and after every 254 bytes.  A block is coded as one more than its length, followed by
its bytes, so the code has no zero either and a zero can mark its end.

`encodeFrom` and `decodeFrom` work through the string from left to right with the block that is
open as their state.

## Key results

- `decode_encode`: decoding gives the string back
- `ne_zero_of_mem_encode`: the code has no zero
- `length_encode_le`, `length_le_of_decode`: the code of `n` bytes has at most `n + n / 254 + 1`
-/

namespace Cobs

open List

/-- A block behind its code byte. -/
def frame (block : List UInt8) : List UInt8 := UInt8.ofNat (block.length + 1) :: block

/-- Encode the rest of the string behind the block that is open. -/
def encodeFrom (block : List UInt8) : List UInt8 → List UInt8
  | [] => frame block
  | b :: input =>
    if b = 0 then frame block ++ encodeFrom [] input
    else if block.length + 1 = 254 then frame (block ++ [b]) ++ encodeFrom [] input
    else encodeFrom (block ++ [b]) input

def encode (input : List UInt8) : List UInt8 := encodeFrom [] input

/-- Decode the rest of the code, of which the first `left` bytes belong to the block that is
    open.  Behind a block stands a zero unless the block is `full` or it is the last one. -/
def decodeFrom (left : Nat) (full : Bool) : List UInt8 → Option (List UInt8)
  | [] => if left = 0 then some [] else none
  | b :: input =>
    if b = 0 then none
    else if left = 0 then
      (decodeFrom (b.toNat - 1) (b = 255) input).map fun output =>
        if full then output else 0 :: output
    else (decodeFrom (left - 1) full input).map (b :: ·)

/-- The empty string codes nothing. -/
def decode (input : List UInt8) : Option (List UInt8) :=
  if input = [] then none else decodeFrom 0 true input

/-! ## Encoding -/

@[simp] theorem length_frame (block : List UInt8) : (frame block).length = block.length + 1 := rfl

variable {block : List UInt8}

theorem ne_zero_of_mem_frame (hblock : ∀ b ∈ block, b ≠ 0) (hlen : block.length ≤ 254) :
    ∀ b ∈ frame block, b ≠ 0 := by
  intro b hb
  rcases mem_cons.mp hb with rfl | hb
  · intro hzero
    have := congrArg UInt8.toNat hzero
    simp only [UInt8.toNat_ofNat', UInt8.toNat_zero] at this
    omega
  · exact hblock b hb

theorem ne_zero_of_mem_encodeFrom (hblock : ∀ b ∈ block, b ≠ 0) (hlen : block.length < 254)
    (input : List UInt8) : ∀ b ∈ encodeFrom block input, b ≠ 0 := by
  induction input generalizing block with
  | nil => exact ne_zero_of_mem_frame hblock (Nat.le_of_lt hlen)
  | cons b input ih =>
    have hempty : ∀ c ∈ encodeFrom [] input, c ≠ 0 := ih (by simp) (by simp)
    unfold encodeFrom
    split
    · exact forall_mem_append.mpr ⟨ne_zero_of_mem_frame hblock (Nat.le_of_lt hlen), hempty⟩
    · rename_i hb
      have hsnoc : ∀ c ∈ block ++ [b], c ≠ 0 :=
        forall_mem_append.mpr ⟨hblock, by simpa using hb⟩
      split
      · rename_i hfull
        refine forall_mem_append.mpr ⟨ne_zero_of_mem_frame hsnoc ?_, hempty⟩
        rw [length_append, length_singleton]
        omega
      · rename_i hfull
        refine ih hsnoc ?_
        rw [length_append, length_singleton]
        omega

variable (input : List UInt8)

theorem ne_zero_of_mem_encode : ∀ b ∈ encode input, b ≠ 0 :=
  ne_zero_of_mem_encodeFrom (by simp) (by simp) input

theorem length_encodeFrom_le (hlen : block.length < 254) (input : List UInt8) :
    (encodeFrom block input).length ≤
      block.length + input.length + (block.length + input.length) / 254 + 1 := by
  induction input generalizing block with
  | nil => simp [encodeFrom]
  | cons b input ih =>
    have hempty := ih (show ([] : List UInt8).length < 254 by simp)
    simp only [length_nil, Nat.zero_add] at hempty
    unfold encodeFrom
    split
    · simp only [length_append, length_frame, length_cons]
      omega
    · split
      · simp only [length_append, length_frame, length_cons, length_nil]
        omega
      · have hsnoc := ih (show (block ++ [b]).length < 254 by
          rw [length_append, length_singleton]; omega)
        simp only [length_append, length_cons, length_nil] at hsnoc ⊢
        omega

theorem length_encode_le : (encode input).length ≤ input.length + input.length / 254 + 1 := by
  have := length_encodeFrom_le (show ([] : List UInt8).length < 254 by simp) input
  simpa [encode] using this

/-- The code is longer than the string. -/
theorem lt_length_encodeFrom (block input : List UInt8) :
    block.length + input.length < (encodeFrom block input).length := by
  induction input generalizing block with
  | nil => simp [encodeFrom]
  | cons b input ih =>
    have hempty := ih []
    unfold encodeFrom
    split
    · simp only [length_append, length_frame, length_cons, length_nil] at hempty ⊢
      omega
    · split
      · simp only [length_append, length_frame, length_cons, length_nil] at hempty ⊢
        omega
      · have hsnoc := ih (block ++ [b])
        simp only [length_append, length_cons, length_nil] at hsnoc ⊢
        omega

theorem encodeFrom_ne_nil (block input : List UInt8) : encodeFrom block input ≠ [] :=
  ne_nil_of_length_pos (Nat.lt_of_le_of_lt (Nat.zero_le _) (lt_length_encodeFrom block input))

/-! ## Decoding -/

/-- The bytes of the open block are copied. -/
theorem decodeFrom_append (block : List UInt8) (hblock : ∀ b ∈ block, b ≠ 0) (left : Nat)
    (full : Bool) (input : List UInt8) :
    decodeFrom (block.length + left) full (block ++ input) =
      (decodeFrom left full input).map (block ++ ·) := by
  induction block with
  | nil => simp
  | cons b block ih =>
    have hb : b ≠ 0 := hblock b (by simp)
    have hleft : (b :: block).length + left ≠ 0 := by rw [length_cons]; omega
    have hrest : (b :: block).length + left - 1 = block.length + left := by
      rw [length_cons]; omega
    rw [cons_append, decodeFrom, if_neg hb, if_neg hleft, hrest,
      ih fun c hc => hblock c (mem_cons_of_mem _ hc), Option.map_map]
    rfl

theorem decodeFrom_frame (hblock : ∀ b ∈ block, b ≠ 0) (hlen : block.length ≤ 254) (full : Bool)
    (input : List UInt8) :
    decodeFrom 0 full (frame block ++ input) =
      (decodeFrom 0 (block.length = 254) input).map fun output =>
        (if full then [] else [0]) ++ (block ++ output) := by
  have hcode : (UInt8.ofNat (block.length + 1)).toNat = block.length + 1 := by
    rw [UInt8.toNat_ofNat']
    omega
  have hne : UInt8.ofNat (block.length + 1) ≠ 0 := by
    intro hzero
    have := congrArg UInt8.toNat hzero
    rw [hcode, UInt8.toNat_zero] at this
    omega
  have hfull : decide (UInt8.ofNat (block.length + 1) = 255) = decide (block.length = 254) := by
    have : UInt8.ofNat (block.length + 1) = 255 ↔ block.length = 254 := by
      rw [← UInt8.toNat_inj, hcode]
      show block.length + 1 = 255 ↔ _
      omega
    simp only [this]
  have hcopy := decodeFrom_append block hblock 0 (block.length = 254) input
  rw [Nat.add_zero] at hcopy
  rw [frame, cons_append, decodeFrom, if_neg hne, if_pos rfl, hcode, Nat.add_sub_cancel,
    hfull, hcopy, Option.map_map]
  cases full <;> rfl

theorem decodeFrom_encodeFrom (hblock : ∀ b ∈ block, b ≠ 0) (hlen : block.length < 254)
    (full : Bool) (input : List UInt8) :
    decodeFrom 0 full (encodeFrom block input) =
      some ((if full then [] else [0]) ++ (block ++ input)) := by
  induction input generalizing block full with
  | nil =>
    have := decodeFrom_frame hblock (Nat.le_of_lt hlen) full []
    rw [append_nil] at this
    simp [encodeFrom, this, decodeFrom]
  | cons b input ih =>
    unfold encodeFrom
    split
    · rename_i hb
      -- The zero that is left out comes back because the block is not full.
      rw [decodeFrom_frame hblock (Nat.le_of_lt hlen), ih (by simp) (by simp),
        show decide (block.length = 254) = false by simp; omega, hb]
      simp
    · rename_i hb
      have hsnoc : ∀ c ∈ block ++ [b], c ≠ 0 :=
        forall_mem_append.mpr ⟨hblock, by simpa using hb⟩
      split
      · rename_i hfull
        have hlength : (block ++ [b]).length = 254 := by simpa using hfull
        rw [decodeFrom_frame hsnoc (Nat.le_of_eq hlength), ih (by simp) (by simp)]
        simp [hlength]
      · rename_i hfull
        rw [ih hsnoc (by rw [length_append, length_singleton]; omega)]
        simp

/-- Decoding the code of a string gives the string back. -/
theorem decode_encode : decode (encode input) = some input := by
  rw [decode, encode, if_neg (encodeFrom_ne_nil [] input),
    decodeFrom_encodeFrom (by simp) (by simp) true input]
  rfl

variable {left : Nat} {full : Bool}

/-- A code has no zero. -/
theorem decodeFrom_of_zero_mem {input : List UInt8} (h : 0 ∈ input) :
    decodeFrom left full input = none := by
  induction input generalizing left full with
  | nil => cases h
  | cons b input ih =>
    unfold decodeFrom
    split
    · rfl
    · rename_i hb
      have hrest : 0 ∈ input := (mem_cons.mp h).resolve_left fun heq => hb heq.symm
      rw [ih hrest, ih hrest]
      split <;> rfl

/-- The open block must be complete. -/
theorem decodeFrom_of_length_lt {input : List UInt8} (h : input.length < left) :
    decodeFrom left full input = none := by
  induction input generalizing left with
  | nil =>
    rw [decodeFrom, if_neg]
    rw [length_nil] at h
    omega
  | cons b input ih =>
    rw [length_cons] at h
    rw [decodeFrom, if_neg (show left ≠ 0 by omega), ih (by omega)]
    split <;> rfl

/-- Behind a block that is not full a zero is put in front of the next one. -/
theorem decodeFrom_false {input : List UInt8} (h : input ≠ []) :
    decodeFrom 0 false input = (decodeFrom 0 true input).map (0 :: ·) := by
  obtain ⟨b, input, rfl⟩ := exists_cons_of_ne_nil h
  unfold decodeFrom
  split
  · rfl
  · simp only [if_true, Bool.false_eq_true, if_false, Option.map_map]
    rfl

variable {output : List UInt8}

theorem left_le_of_decodeFrom {input : List UInt8} (h : decodeFrom left full input = some output) :
    left ≤ output.length := by
  induction input generalizing left output with
  | nil =>
    unfold decodeFrom at h
    split at h
    · omega
    · cases h
  | cons b input ih =>
    unfold decodeFrom at h
    split at h
    · cases h
    split at h
    · omega
    · obtain ⟨rest, hrest, rfl⟩ := Option.map_eq_some_iff.mp h
      have := ih hrest
      rw [length_cons]
      omega

/-- What is decoded is longer than the code, except for one byte for each full block: those bytes
    of the output that do not belong to the open block make room for it. -/
theorem length_le_of_decodeFrom {input : List UInt8} (h : decodeFrom left full input = some output) :
    input.length ≤ output.length + full.toNat + (output.length - left) / 254 := by
  induction input generalizing left full output with
  | nil => simp
  | cons b input ih =>
    unfold decodeFrom at h
    split at h
    · cases h
    split at h
    · rename_i hleft
      obtain ⟨rest, hrest, rfl⟩ := Option.map_eq_some_iff.mp h
      have hlen := ih hrest
      have hblock := left_le_of_decodeFrom hrest
      have houtput : (if full = true then rest else 0 :: rest).length + full.toNat =
          rest.length + 1 := by cases full <;> rfl
      have hmono : rest.length / 254 ≤ (if full = true then rest else 0 :: rest).length / 254 :=
        Nat.div_le_div_right (by cases full <;> simp)
      rw [length_cons, hleft, Nat.sub_zero]
      by_cases hb : b = 255
      · subst hb
        have : (255 : UInt8).toNat = 255 := rfl
        simp only [this, decide_true, Bool.toNat_true] at hlen hblock
        omega
      · simp only [hb, decide_false, Bool.toNat_false] at hlen
        have : (rest.length - (b.toNat - 1)) / 254 ≤ rest.length / 254 :=
          Nat.div_le_div_right (by omega)
        omega
    · obtain ⟨rest, hrest, rfl⟩ := Option.map_eq_some_iff.mp h
      have hlen := ih hrest
      have hcount : rest.length + 1 - left = rest.length - (left - 1) := by omega
      rw [length_cons, length_cons, hcount]
      omega

/-- A string that decodes to `n` bytes has at most `n + n / 254 + 1`. -/
theorem length_le_of_decode {input : List UInt8} (h : decode input = some output) :
    input.length ≤ output.length + output.length / 254 + 1 := by
  unfold decode at h
  split at h
  · cases h
  · have := length_le_of_decodeFrom h
    rw [Bool.toNat_true, Nat.sub_zero] at this
    omega

end Cobs
