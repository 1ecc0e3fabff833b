import AsterCtrl.ForStd.Except
import AsterCtrl.Native.Usb.CobsIndices
import AsterCtrl.Spec.Usb.FramingCorrect

/-!
# Stuffing there and back

`CobsEncode` has room for its code in a buffer of `n + n / 254 + 1` bytes, and `CobsDecode` gives
the input back.  On any other string `CobsDecode` may fail, but it stays inside of its two spans:
run with the indices of the source it never traps and does what the model on lists does.

## Key results

- `CobsCursor.follows_decodeBlocks`: the loop by index follows the loop on lists
- `CobsDecoder.Fills.decodeBlocks`: nothing behind `written` is touched
- `cobs_round_trip`
-/

namespace AsterCtrl.Usb

open List

/-! ## Indices -/

namespace CobsCursor

/-- The cursor stands where `rest` is left of the input, with the buffer of the decoder. -/
structure Follows (input : List UInt8) (c : CobsCursor) (d : CobsDecoder) (rest : List UInt8) :
    Prop where
  written : c.written = d.written
  output : c.output = d.output
  rest : input.drop c.inputIndex = rest

variable {input rest : List UInt8} {c : CobsCursor} {d : CobsDecoder}

theorem Follows.lt_iff (h : Follows input c d rest) : c.inputIndex < input.length ↔ rest ≠ [] := by
  rw [← h.rest, Ne, drop_eq_nil_iff, Nat.not_le]

/-- What is read next is in the input. -/
theorem Follows.readAt {value : UInt8} (h : Follows input c d (value :: rest)) :
    readAt input c.inputIndex = .ok value := by
  have hlt : c.inputIndex < input.length := h.lt_iff.mpr (cons_ne_nil _ _)
  have hrest := h.rest
  rw [drop_eq_getElem_cons hlt] at hrest
  rw [Usb.readAt, dif_pos hlt, (List.cons.inj hrest).1]

theorem Follows.next {value : UInt8} (h : Follows input c d (value :: rest)) :
    Follows input { c with inputIndex := c.inputIndex + 1 } d rest :=
  ⟨h.written, h.output, by rw [← drop_drop, h.rest, drop_one, tail_cons]⟩

/-- There is room for one more byte unless the decoder is full. -/
theorem Follows.push (h : Follows input c d rest) (value : UInt8)
    (hroom : d.written ≠ d.output.length) :
    ∃ c', c.push value = .ok c' ∧ Follows input c' (d.push value hroom) rest := by
  have hlt : c.written < c.output.length := by
    rw [h.written, h.output]
    exact Nat.lt_of_le_of_ne d.written_le hroom
  refine ⟨{ c with output := c.output.set c.written value, written := c.written + 1 }, ?_, ?_, ?_,
    h.rest⟩
  · rw [CobsCursor.push, writeAt, if_pos hlt]
    rfl
  · exact congrArg (· + 1) h.written
  · show c.output.set c.written value = d.output.set d.written value
    rw [h.output, h.written]

/-- The inner loop does the same on indices. -/
theorem follows_copyBlock (h : Follows input c d rest) (count : Nat) (hcount : count ≤ rest.length) :
    ∃ c', c.copyBlock input count = .ok ((d.copyBlock count rest hcount).1, c') ∧
      Follows input c' (d.copyBlock count rest hcount).2.1 (d.copyBlock count rest hcount).2.2 := by
  induction count generalizing c d rest with
  | zero => exact ⟨c, by rw [copyBlock, CobsDecoder.copyBlock], by rwa [CobsDecoder.copyBlock]⟩
  | succ count ih =>
    cases rest with
    | nil => exact absurd hcount (Nat.not_succ_le_zero count)
    | cons value rest =>
      unfold copyBlock CobsDecoder.copyBlock
      rw [h.written, h.output, h.readAt]
      by_cases hfull : d.written = d.output.length
      · rw [if_pos hfull, dif_pos hfull]
        exact ⟨c, rfl, h⟩
      rw [if_neg hfull, dif_neg hfull]
      by_cases hzero : value = 0
      · rw [if_pos hzero]
        exact ⟨c, by rw [Except.ok_bind, if_pos hzero]; rfl, h⟩
      rw [if_neg hzero]
      obtain ⟨c', hpush, hfollows⟩ := h.push value hfull
      rw [Except.ok_bind, if_neg hzero, hpush, Except.ok_bind]
      exact ih hfollows.next _

/-- The outer loop does the same on indices, and it does not run out of fuel. -/
theorem follows_decodeBlocks (h : Follows input c d rest) (fuel : Nat) (hfuel : rest.length ≤ fuel) :
    ∃ c', c.decodeBlocks input fuel = .ok ((d.decodeBlocks fuel rest hfuel).1, c') ∧
      c'.written = (d.decodeBlocks fuel rest hfuel).2.written ∧
      c'.output = (d.decodeBlocks fuel rest hfuel).2.output := by
  induction fuel generalizing c d rest with
  | zero =>
    obtain rfl := length_eq_zero_iff.mp (Nat.le_zero.mp hfuel)
    have hend : ¬ c.inputIndex < input.length := fun hlt => h.lt_iff.mp hlt rfl
    exact ⟨c, by rw [decodeBlocks, if_neg hend]; rfl, h.written, h.output⟩
  | succ fuel ih =>
    cases rest with
    | nil =>
      have hend : ¬ c.inputIndex < input.length := fun hlt => h.lt_iff.mp hlt rfl
      exact ⟨c, by rw [decodeBlocks, if_neg hend]; rfl, h.written, h.output⟩
    | cons code rest =>
      have hlt : c.inputIndex < input.length := h.lt_iff.mpr (cons_ne_nil _ _)
      have hnext := h.next
      have hlength : rest.length = input.length - (c.inputIndex + 1) := by
        rw [← hnext.rest, length_drop]
      unfold decodeBlocks CobsDecoder.decodeBlocks
      rw [if_pos hlt, h.readAt, Except.ok_bind]
      dsimp only
      -- the two forms of the bound on the block
      have hcode : (code = 0 ∨ c.inputIndex + 1 + code.toNat - 1 > input.length) ↔
          (code = 0 ∨ code.toNat - 1 > rest.length) := by
        refine or_congr_right' fun hzero => ?_
        have : code.toNat ≠ 0 := fun h0 => hzero (UInt8.toNat_inj.mp h0)
        omega
      simp only [hcode]
      by_cases hbad : code = 0 ∨ code.toNat - 1 > rest.length
      · rw [if_pos hbad, dif_pos hbad]
        exact ⟨_, rfl, h.written, h.output⟩
      rw [if_neg hbad, dif_neg hbad]
      have hcount : code.toNat - 1 ≤ rest.length := Nat.not_lt.mp (not_or.mp hbad).2
      obtain ⟨c', hcopy, hfollows⟩ := follows_copyBlock hnext (code.toNat - 1) hcount
      rw [hcopy, Except.ok_bind]
      dsimp only
      set copied := d.copyBlock (code.toNat - 1) rest hcount
      by_cases hstatus : copied.1 ≠ .ok
      · rw [if_pos hstatus, if_pos hstatus]
        exact ⟨c', rfl, hfollows.written, hfollows.output⟩
      rw [if_neg hstatus, if_neg hstatus]
      simp only [hfollows.lt_iff]
      by_cases hmore : code ≠ 0xff ∧ copied.2.2 ≠ []
      · rw [if_pos hmore, if_pos hmore]
        simp only [hfollows.written, hfollows.output]
        by_cases hfull : copied.2.1.written = copied.2.1.output.length
        · rw [if_pos hfull, dif_pos hfull]
          exact ⟨c', rfl, hfollows.written, hfollows.output⟩
        rw [if_neg hfull, dif_neg hfull]
        obtain ⟨c'', hpush, hpushed⟩ := hfollows.push 0 hfull
        rw [hpush, Except.ok_bind]
        exact ih hpushed _
      · rw [if_neg hmore, if_neg hmore]
        exact ih hfollows _

end CobsCursor

/-- `CobsDecode` by index ends without a trap, with the status and the buffer of the model on
    lists. -/
theorem cobsDecodeAt_eq (input output : List UInt8) :
    ∃ c, cobsDecodeAt input output = .ok ((cobsDecode input output).1, c) ∧
      c.written = (cobsDecode input output).2.written ∧
      c.output = (cobsDecode input output).2.output := by
  unfold cobsDecodeAt cobsDecode
  dsimp only
  split
  · exact ⟨_, rfl, rfl, rfl⟩
  · exact CobsCursor.follows_decodeBlocks ⟨rfl, rfl, drop_zero⟩ _ (Nat.le_refl _)

/-! ## What is written -/

namespace CobsDecoder

/-- The decoder has written the front of the buffer, and the rest of it is as it was. -/
def Fills (output : List UInt8) (d : CobsDecoder) : Prop :=
  ∃ done, done.length ≤ output.length ∧ d.Holds done (output.drop done.length)

variable {output : List UInt8} {d : CobsDecoder}

theorem Fills.push (h : Fills output d) (value : UInt8) (hroom : d.written ≠ d.output.length) :
    Fills output (d.push value hroom) := by
  obtain ⟨done, hle, hholds⟩ := h
  have hmore : output.drop done.length ≠ [] := fun hnil => hroom (hholds.isFull_iff.mpr hnil)
  rw [Ne, drop_eq_nil_iff, Nat.not_le] at hmore
  refine ⟨done ++ [value], ?_, ?_⟩
  · rwa [length_append, length_singleton]
  · rw [length_append, length_singleton, ← drop_drop]
    exact hholds.push value hroom

theorem Fills.copyBlock (h : Fills output d) (count : Nat) (input : List UInt8)
    (hcount : count ≤ input.length) : Fills output (d.copyBlock count input hcount).2.1 := by
  induction count generalizing d input with
  | zero => rwa [CobsDecoder.copyBlock]
  | succ count ih =>
    cases input with
    | nil => exact absurd hcount (Nat.not_succ_le_zero count)
    | cons value input =>
      unfold CobsDecoder.copyBlock
      split
      · exact h
      · split
        · exact h
        · exact ih (h.push value _) input _

theorem Fills.decodeBlocks (h : Fills output d) (fuel : Nat) (input : List UInt8)
    (hfuel : input.length ≤ fuel) : Fills output (d.decodeBlocks fuel input hfuel).2 := by
  induction fuel generalizing d input with
  | zero =>
    obtain rfl := length_eq_zero_iff.mp (Nat.le_zero.mp hfuel)
    exact h
  | succ fuel ih =>
    cases input with
    | nil => exact h
    | cons code input =>
      unfold CobsDecoder.decodeBlocks
      dsimp only
      split
      · exact h
      · have hcopied := h.copyBlock (code.toNat - 1) input (by omega)
        split_ifs
        · exact hcopied
        · exact hcopied
        · exact ih (hcopied.push 0 _) _ _
        · exact ih hcopied _ _

end CobsDecoder

theorem fills_cobsDecode (input output : List UInt8) :
    (cobsDecode input output).2.Fills output := by
  have hstart : CobsDecoder.Fills output { output := output, written_le := Nat.zero_le _ } :=
    ⟨[], Nat.zero_le _, CobsDecoder.holds_start output⟩
  unfold cobsDecode
  dsimp only
  split
  · exact hstart
  · exact hstart.decodeBlocks _ input _

/-- The buffer after `CobsDecode`: what was written, and behind it the old bytes. -/
theorem output_cobsDecode (input output : List UInt8) :
    (cobsDecode input output).2.output.length = output.length ∧
      (cobsDecode input output).2.written ≤ output.length ∧
      (cobsDecode input output).2.output.drop (cobsDecode input output).2.written =
        output.drop (cobsDecode input output).2.written := by
  obtain ⟨done, hle, hholds⟩ := fills_cobsDecode input output
  rw [hholds.written, hholds.output, length_append, length_drop]
  exact ⟨Nat.add_sub_cancel' hle, hle, drop_left⟩

/-! ## There and back -/

/-- `CobsDecode` of a code into a buffer with room for the input. -/
theorem cobsDecode_encode {input buffer : List UInt8} (h : input.length ≤ buffer.length) :
    (cobsDecode (Cobs.encode input) buffer).1 = .ok ∧
      (cobsDecode (Cobs.encode input) buffer).2.output.take
        (cobsDecode (Cobs.encode input) buffer).2.written = input := by
  obtain ⟨hok, hholds⟩ := cobsDecode_eq_ok (Cobs.decode_encode input) h
  exact ⟨hok, by rw [hholds.output, hholds.written, take_left]⟩

/-- Whatever is encoded comes back, from a code of bounded length without zeros; and on any input
    at all `CobsDecode`, run by index, ends without leaving its spans and touches nothing behind
    the bytes that it counts as written. -/
theorem cobs_round_trip :
    (∀ input output : List UInt8, input.length + input.length / 254 + 1 ≤ output.length →
      ∃ encoded, cobsEncode input output = .ok encoded ∧
        encoded.length ≤ input.length + input.length / 254 + 1 ∧ 0 ∉ encoded ∧
        ∀ buffer : List UInt8, input.length ≤ buffer.length →
          (cobsDecode encoded buffer).1 = .ok ∧
            (cobsDecode encoded buffer).2.output.take (cobsDecode encoded buffer).2.written =
              input) ∧
    ∀ input output : List UInt8,
      (∃ c, cobsDecodeAt input output = .ok ((cobsDecode input output).1, c) ∧
        c.written = (cobsDecode input output).2.written ∧
        c.output = (cobsDecode input output).2.output ∧ c.output.length = output.length ∧
        c.written ≤ output.length ∧ c.output.drop c.written = output.drop c.written) := by
  constructor
  · intro input output hroom
    have hle := Cobs.length_encode_le input
    refine ⟨Cobs.encode input, ?_, hle, ?_, fun buffer => cobsDecode_encode⟩
    · rw [cobsEncode_eq, if_pos (hle.trans hroom)]
    · exact fun hzero => Cobs.ne_zero_of_mem_encode input 0 hzero rfl
  · intro input output
    obtain ⟨c, hc, hwritten, hbuffer⟩ := cobsDecodeAt_eq input output
    obtain ⟨hlength, hle, hdrop⟩ := output_cobsDecode input output
    rw [← hwritten, ← hbuffer] at *
    exact ⟨c, hc, hwritten, hbuffer, hlength, hle, hdrop⟩

end AsterCtrl.Usb
