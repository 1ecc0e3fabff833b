import AsterCtrl.Spec.Usb.PacketRoundTrip
import Mathlib.Data.Nat.Digits.Defs

/-!
# Burst errors

The checksum of the USB packets sees every burst of 32 bits.  The register is linear in exclusive
or (`crcBit_xor`), so the registers of two inputs differ by what the register makes of the
differing bits, starting from zero (`foldl_crcShift_xor`).  Before the burst nothing differs and
behind it nothing can cancel, because a step is injective.  What remains is the burst itself,
which is followed backwards: a register that ends at zero after at most 32 bits started as the
number with exactly these bits (`toNat_of_foldl_crcShift_eq_zero`).

## Key results

* `crcBit_xor`: one step of the register is linear.
* `toNat_of_foldl_crcShift_eq_zero`: the only way for a register to end at zero.
* `crc32c_burst_ne`: bursts of up to 32 bits change the checksum.
-/

namespace AsterCtrl.Usb

open List

/-- Bit `i` of the input, counted from the least significant one of the first byte on. -/
def inputBit (input : List UInt8) (i : Nat) : Bool :=
  (input.getD (i / 8) 0).toNat.testBit (i % 8)

/-- The register takes one bit of the input. -/
def crcShift (crc : UInt32) (bit : Bool) : UInt32 := crcBit (crc ^^^ bif bit then 1 else 0)

/-! ## The register is linear -/

theorem crcBit_xor (x y : UInt32) : crcBit (x ^^^ y) = crcBit x ^^^ crcBit y := by
  have hparity : (x ^^^ y).toNat % 2 = (x.toNat % 2 + y.toNat % 2) % 2 := by
    rw [UInt32.toNat_xor, Nat.xor_mod_two_eq, Nat.add_mod]
  have hcancel (p : UInt32) : x >>> 1 ^^^ y >>> 1 = x >>> 1 ^^^ p ^^^ (y >>> 1 ^^^ p) := by
    rw [UInt32.xor_comm (y >>> 1) p, UInt32.xor_assoc, ← UInt32.xor_assoc p, UInt32.xor_self,
      UInt32.zero_xor]
  rw [crcBit_eq, crcBit_eq x, crcBit_eq y, UInt32.shiftRight_xor, hparity]
  -- The polynomial enters once for each odd register, and twice is not at all.
  rcases Nat.mod_two_eq_zero_or_one x.toNat with hx | hx <;>
    rcases Nat.mod_two_eq_zero_or_one y.toNat with hy | hy <;>
    rw [hx, hy]
  · rfl
  · exact UInt32.xor_assoc ..
  · change x >>> 1 ^^^ y >>> 1 ^^^ _ = x >>> 1 ^^^ _ ^^^ y >>> 1
    ac_rfl
  · exact hcancel _

theorem crcBit_eq_zero {x : UInt32} : crcBit x = 0 ↔ x = 0 := by
  have hzero : crcBit 0 = 0 := by decide
  exact ⟨fun h => crcBit_injective (h.trans hzero.symm), fun h => h ▸ hzero⟩

theorem crcShift_xor (x y : UInt32) (b c : Bool) :
    crcShift (x ^^^ y) (b ^^ c) = crcShift x b ^^^ crcShift y c := by
  have hbit : (bif b ^^ c then 1 else 0 : UInt32) =
      (bif b then 1 else 0) ^^^ (bif c then 1 else 0) := by
    cases b <;> cases c <;> rfl
  rw [crcShift, crcShift, crcShift, ← crcBit_xor, hbit]
  congr 1
  ac_rfl

theorem foldl_crcShift_xor {ι : Type*} (f g : ι → Bool) (l : List ι) (x y : UInt32) :
    (l.map fun i => f i ^^ g i).foldl crcShift (x ^^^ y) =
      (l.map f).foldl crcShift x ^^^ (l.map g).foldl crcShift y := by
  induction l generalizing x y with
  | nil => rfl
  | cons i l ih => simp only [map_cons, foldl_cons, crcShift_xor, ih]

/-! ## Bytes as bits -/

/-- The bits of one byte from a register of zero. -/
theorem crcByte_zero (value : UInt8) :
    crcByte 0 value = ((List.range 8).map value.toNat.testBit).foldl crcShift 0 := by
  have hbytes : ∀ n : Fin 256, crcByte 0 (UInt8.ofNat n) =
      ((List.range 8).map (UInt8.ofNat n).toNat.testBit).foldl crcShift 0 := by
    decide +kernel
  simpa using hbytes ⟨value.toNat, value.toNat_lt⟩

theorem crcByte_eq_foldl (crc : UInt32) (value : UInt8) :
    crcByte crc value = ((List.range 8).map value.toNat.testBit).foldl crcShift crc := by
  have hsplit := foldl_crcShift_xor (fun _ => false) value.toNat.testBit (List.range 8) crc 0
  simp only [Bool.false_xor, UInt32.xor_zero, ← crcByte_zero] at hsplit
  rw [hsplit]
  simp only [crcByte, List.range, List.range.loop, foldl_cons, foldl_nil, map_cons,
    map_nil, crcShift, cond_false, UInt32.xor_zero, UInt32.zero_xor, crcBit_xor]

theorem foldl_crcByte (input : List UInt8) (crc : UInt32) :
    input.foldl crcByte crc =
      ((List.range (8 * input.length)).map (inputBit input)).foldl crcShift crc := by
  induction input generalizing crc with
  | nil => rfl
  | cons value input ih =>
    have hfirst : (List.range 8).map (inputBit (value :: input)) =
        (List.range 8).map value.toNat.testBit := rfl
    have hrest (i : Nat) : inputBit (value :: input) (8 + i) = inputBit input i := by
      rw [inputBit, inputBit, Nat.add_div_left i (by decide), Nat.add_mod_left]
      rfl
    rw [foldl_cons, ih, crcByte_eq_foldl, length_cons, Nat.mul_succ, Nat.add_comm,
      range_add, map_append, foldl_append, hfirst, map_map]
    congr 2
    exact funext fun i => (hrest i).symm

theorem eq_of_inputBit_eq {a b : List UInt8} (hlength : a.length = b.length)
    (h : ∀ i < 8 * a.length, inputBit a i = inputBit b i) : a = b := by
  refine ext_getElem hlength fun k ha hb => UInt8.toNat_inj.mp ?_
  refine Nat.eq_of_testBit_eq fun j => ?_
  by_cases hj : j < 8
  · -- Bit `j` of byte `k` is bit `8 * k + j` of the input.
    have hbit := h (8 * k + j) (by omega)
    have hdiv : (8 * k + j) / 8 = k := by omega
    have hmod : (8 * k + j) % 8 = j := by omega
    rwa [inputBit, inputBit, hdiv, hmod, getD_eq_getElem _ _ ha, getD_eq_getElem _ _ hb] at hbit
  · have hhigh (v : UInt8) : v.toNat.testBit j = false :=
      Nat.testBit_lt_two_pow
        (v.toNat_lt.trans_le (Nat.pow_le_pow_right (by decide) (Nat.not_lt.mp hj)))
    rw [hhigh, hhigh]

/-! ## A burst -/

/-- The number whose bits are `bits`, least significant first. -/
def bitsValue (bits : List Bool) : Nat := Nat.ofDigits 2 (bits.map Bool.toNat)

theorem bitsValue_cons (bit : Bool) (bits : List Bool) :
    bitsValue (bit :: bits) = bit.toNat + 2 * bitsValue bits := Nat.ofDigits_cons ..

theorem bitsValue_lt (bits : List Bool) : bitsValue bits < 2 ^ bits.length := by
  have h := Nat.ofDigits_lt_base_pow_length' (b := 0) (l := bits.map Bool.toNat) (by
    rintro x hx
    obtain ⟨bit, -, rfl⟩ := mem_map.mp hx
    exact bit.toNat_lt)
  rwa [length_map] at h

variable {bits : List Bool}

theorem bitsValue_eq_zero (h : bitsValue bits = 0) : true ∉ bits := by
  induction bits with
  | nil => exact not_mem_nil
  | cons bit bits ih =>
    rw [bitsValue_cons] at h
    have hbit : bit = false := by
      cases bit
      · rfl
      · rw [Bool.toNat_true] at h
        omega
    rw [mem_cons, not_or]
    exact ⟨by rw [hbit]; decide, ih (by omega)⟩

/-- A step that leaves the top bit clear has only shifted. -/
theorem toNat_of_crcBit_lt {x : UInt32} (h : (crcBit x).toNat < 2 ^ 31) :
    x.toNat = 2 * (crcBit x).toNat := by
  have heven : ¬x.toNat % 2 = 1 := by
    rw [← decide_eq_false_iff_not, ← testBit_crcBit]
    exact Nat.testBit_lt_two_pow h
  rw [crcBit_eq, if_neg heven, UInt32.toNat_shiftRight]
  simp only [UInt32.toNat_one, Nat.reduceMod, Nat.shiftRight_one]
  omega

/-- A register that ends at zero after at most 32 bits was the number with these bits. -/
theorem toNat_of_foldl_crcShift_eq_zero (hlength : bits.length ≤ 32) {crc : UInt32}
    (h : bits.foldl crcShift crc = 0) : crc.toNat = bitsValue bits := by
  induction bits generalizing crc with
  | nil => exact congrArg UInt32.toNat h
  | cons bit bits ih =>
    rw [length_cons] at hlength
    rw [foldl_cons] at h
    have hnext : (crcShift crc bit).toNat = bitsValue bits := ih (by omega) h
    have hlt : (crcShift crc bit).toNat < 2 ^ 31 := by
      rw [hnext]
      exact (bitsValue_lt bits).trans_le (Nat.pow_le_pow_right (by decide) (by omega))
    -- The step before was a shift, so the register was twice the rest with the bit put in.
    have hshift : (crc ^^^ bif bit then 1 else 0).toNat = 2 * bitsValue bits :=
      hnext ▸ toNat_of_crcBit_lt hlt
    rw [bitsValue_cons]
    cases bit with
    | false => simpa using hshift
    | true =>
      have hcrc : crc.toNat = 2 * bitsValue bits ^^^ 1 := by
        rw [← hshift, UInt32.toNat_xor]
        exact (Nat.xor_xor_cancel_right _ _).symm
      rw [hcrc, Nat.xor_one_of_even (even_two_mul _), Bool.toNat_true, Nat.add_comm]

/-- Bits that are all clear keep zero, and zero comes from nothing else. -/
theorem foldl_crcShift_eq_zero_iff (h : true ∉ bits) {crc : UInt32} :
    bits.foldl crcShift crc = 0 ↔ crc = 0 := by
  induction bits generalizing crc with
  | nil => rfl
  | cons bit bits ih =>
    obtain ⟨hbit, hbits⟩ := not_or.mp (mem_cons.not.mp h)
    rw [foldl_cons, ih hbits, Bool.eq_false_iff.mpr (Ne.symm hbit), crcShift, crcBit_eq_zero]
    exact Eq.congr_left UInt32.xor_zero

/-- Bits that are clear outside of a window of 32 and take the register from zero to zero are
    clear inside of it too. -/
theorem clear_of_foldl_crcShift (start : Nat)
    (hwindow : ∀ i, bits[i]? = some true → start ≤ i ∧ i < start + 32)
    (h : bits.foldl crcShift 0 = 0) : true ∉ bits := by
  have hbefore : true ∉ bits.take start := by
    intro hmem
    obtain ⟨i, hi⟩ := mem_iff_getElem?.mp hmem
    rw [List.getElem?_take] at hi
    split at hi
    · have := hwindow i hi
      omega
    · cases hi
  have hbehind : true ∉ (bits.drop start).drop 32 := by
    intro hmem
    obtain ⟨i, hi⟩ := mem_iff_getElem?.mp hmem
    rw [List.getElem?_drop, List.getElem?_drop] at hi
    have := hwindow _ hi
    omega
  have hcut : bits =
      bits.take start ++ ((bits.drop start).take 32 ++ (bits.drop start).drop 32) := by
    rw [take_append_drop, take_append_drop]
  rw [hcut, foldl_append, foldl_append, foldl_crcShift_eq_zero_iff hbehind,
    (foldl_crcShift_eq_zero_iff hbefore).mpr rfl] at h
  have hinside := toNat_of_foldl_crcShift_eq_zero (length_take_le ..) h
  rw [hcut, mem_append, mem_append, not_or, not_or]
  exact ⟨hbefore, bitsValue_eq_zero hinside.symm, hbehind⟩

/-- Two inputs of one length that differ, but only in a window of 32 bits, have different
    checksums. -/
theorem crc32c_burst_ne {a b : List UInt8} (hlength : a.length = b.length) (hne : a ≠ b)
    (start : Nat) (hwindow : ∀ i, inputBit a i ≠ inputBit b i → start ≤ i ∧ i < start + 32) :
    crc32c a ≠ crc32c b := by
  intro heq
  have hregister := UInt32.not_inj.mp heq
  rw [foldl_crcByte, foldl_crcByte, ← hlength, ← UInt32.xor_eq_zero_iff, ← foldl_crcShift_xor,
    UInt32.xor_self] at hregister
  have hclear := clear_of_foldl_crcShift start (fun i hi => ?_) hregister
  · refine hne (eq_of_inputBit_eq hlength fun i hi => ?_)
    by_contra hdiff
    refine hclear (List.mem_map.mpr ⟨i, List.mem_range.mpr hi, ?_⟩)
    simpa using hdiff
  · rw [List.getElem?_map, Option.map_eq_some_iff] at hi
    obtain ⟨k, hk, hdiff⟩ := hi
    obtain ⟨hlt, hget⟩ := List.getElem?_eq_some_iff.mp hk
    rw [List.getElem_range] at hget
    subst hget
    exact hwindow i (by simpa using hdiff)

/-- A flip of the last bit of one byte and the first bit of the next. -/
theorem crc32c_burst_across_bytes : crc32c [0x80, 0x00, 0x11] ≠ crc32c [0x00, 0x01, 0x11] := by
  refine crc32c_burst_ne rfl (by decide) 7 fun i hi => ?_
  have hbits : ∀ i < 24, inputBit [0x80, 0x00, 0x11] i ≠ inputBit [0x00, 0x01, 0x11] i →
      7 ≤ i ∧ i < 7 + 32 := by
    decide
  by_cases hend : i < 24
  · exact hbits i hend hi
  · have hpast : 3 ≤ i / 8 := by omega
    exact absurd (by simp [inputBit, hpast]) hi

end AsterCtrl.Usb
