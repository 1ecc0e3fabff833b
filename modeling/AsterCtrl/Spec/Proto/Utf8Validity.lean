import AsterCtrl.Native.Proto.Utf8
import Mathlib

/-!
# What the UTF-8 check accepts

The check of the generated codecs against the encoding of Unicode scalar values, which is
`String.utf8EncodeChar` of the standard library.  A round of the loop passes over the bytes of one
character, whose form is described byte by byte (`WellFormed`), and the forms are exactly the
encodings: the ranges of the second byte leave out the longer forms, the surrogates and what lies
behind U+10FFFF.

## Key results

* `WellFormed.exists_char`, `wellFormed_utf8EncodeChar`: the byte ranges of the check describe
  the encodings of scalar values.
* `scanCharacter_cases`: a round of the loop never reads outside and passes over one character.
* `validUtf8_iff`: the check accepts the concatenations of encodings and nothing else.
-/

namespace AsterCtrl.Proto

open List

/-- A byte that continues a character. -/
def Continues (byte : UInt8) : Prop := 0x80 ≤ byte.toNat ∧ byte.toNat ≤ 0xbf

/-- The bytes over which a round of the loop passes. -/
inductive WellFormed : List UInt8 → Prop
  | one {first : UInt8} (h : first.toNat ≤ 0x7f) : WellFormed [first]
  | more {first second : UInt8} {rest : List UInt8} {lead : LeadByte}
      (hlead : leadByte first = some lead) (hlength : rest.length + 1 = lead.continuation)
      (hmin : lead.secondMin.toNat ≤ second.toNat) (hmax : second.toNat ≤ lead.secondMax.toNat)
      (hrest : ∀ byte ∈ rest, Continues byte) : WellFormed (first :: second :: rest)

/-! ## The forms are the encodings -/

variable {first : UInt8} {lead : LeadByte}

theorem leadByte_cases (h : leadByte first = some lead) :
    (lead.continuation = 1 ∧ 0xc2 ≤ first.toNat ∧ first.toNat ≤ 0xdf ∧
      lead.secondMin.toNat = 0x80 ∧ lead.secondMax.toNat = 0xbf) ∨
    (lead.continuation = 2 ∧ 0xe0 ≤ first.toNat ∧ first.toNat ≤ 0xef ∧
      (first.toNat = 0xe0 ∧ lead.secondMin.toNat = 0xa0 ∨
        first.toNat ≠ 0xe0 ∧ lead.secondMin.toNat = 0x80) ∧
      (first.toNat = 0xed ∧ lead.secondMax.toNat = 0x9f ∨
        first.toNat ≠ 0xed ∧ lead.secondMax.toNat = 0xbf)) ∨
    (lead.continuation = 3 ∧ 0xf0 ≤ first.toNat ∧ first.toNat ≤ 0xf4 ∧
      (first.toNat = 0xf0 ∧ lead.secondMin.toNat = 0x90 ∨
        first.toNat ≠ 0xf0 ∧ lead.secondMin.toNat = 0x80) ∧
      (first.toNat = 0xf4 ∧ lead.secondMax.toNat = 0x8f ∨
        first.toNat ≠ 0xf4 ∧ lead.secondMax.toNat = 0xbf)) := by
  have heq (n : UInt8) : first = n ↔ first.toNat = n.toNat := UInt8.toNat_inj.symm
  simp only [leadByte, ge_iff_le, UInt8.le_iff_toNat_le, heq] at h
  split_ifs at h <;> cases h <;> simp_all

theorem exists_leadByte (first : UInt8) (hmin : 0xc2 ≤ first.toNat) (hmax : first.toNat ≤ 0xf4) :
    ∃ lead, leadByte first = some lead := by
  cases h : leadByte first with
  | some lead => exact ⟨lead, rfl⟩
  | none =>
    simp only [leadByte, ge_iff_le, UInt8.le_iff_toNat_le, UInt8.reduceToNat] at h
    split_ifs at h
    omega

theorem exists_char_of_isValidChar {v : Nat} (h : v.isValidChar) : ∃ c : Char, c.val.toNat = v :=
  ⟨Char.ofNatAux v h, rfl⟩

theorem ofNat_eq {n : Nat} (byte : UInt8) (h : n = byte.toNat) : UInt8.ofNat n = byte := by
  rw [h, UInt8.ofNat_toNat]

variable {bytes : List UInt8}

/-- What a round passes over is the encoding of the scalar value that its bytes give. -/
theorem WellFormed.exists_char (h : WellFormed bytes) : ∃ c, bytes = String.utf8EncodeChar c := by
  cases h with
  | @one first h =>
    obtain ⟨c, hc⟩ := exists_char_of_isValidChar (v := first.toNat) (.inl (by omega))
    refine ⟨c, ?_⟩
    rw [String.utf8EncodeChar, hc, if_pos h, ofNat_eq first rfl]
  | @more first second rest lead hlead hlength hmin hmax hrest =>
    -- In each case the range of the second byte keeps the value inside of the form's own range,
    -- away from the surrogates and below the last scalar value.
    rcases leadByte_cases hlead with hcase | hcase | hcase
    · obtain rfl := length_eq_zero_iff.mp (by omega : rest.length = 0)
      obtain ⟨c, hc⟩ := exists_char_of_isValidChar
        (v := (first.toNat - 0xc0) * 64 + (second.toNat - 0x80)) (.inl (by omega))
      refine ⟨c, ?_⟩
      rw [String.utf8EncodeChar, hc, if_neg (by omega), if_pos (by omega),
        ofNat_eq first (by omega), ofNat_eq second (by omega)]
    · obtain ⟨third, rfl⟩ := length_eq_one_iff.mp (by omega : rest.length = 1)
      have hthird := hrest third (by simp)
      unfold Continues at hthird
      obtain ⟨c, hc⟩ := exists_char_of_isValidChar
        (v := (first.toNat - 0xe0) * 4096 + (second.toNat - 0x80) * 64 + (third.toNat - 0x80))
        (by unfold Nat.isValidChar; omega)
      refine ⟨c, ?_⟩
      rw [String.utf8EncodeChar, hc, if_neg (by omega), if_neg (by omega), if_pos (by omega),
        ofNat_eq first (by omega), ofNat_eq second (by omega), ofNat_eq third (by omega)]
    · obtain ⟨third, fourth, rfl⟩ := length_eq_two.mp (by omega : rest.length = 2)
      have hthird := hrest third (by simp)
      have hfourth := hrest fourth (by simp)
      unfold Continues at hthird hfourth
      obtain ⟨c, hc⟩ := exists_char_of_isValidChar
        (v := (first.toNat - 0xf0) * 262144 + (second.toNat - 0x80) * 4096 +
          (third.toNat - 0x80) * 64 + (fourth.toNat - 0x80))
        (by unfold Nat.isValidChar; omega)
      refine ⟨c, ?_⟩
      rw [String.utf8EncodeChar, hc, if_neg (by omega), if_neg (by omega), if_neg (by omega),
        ofNat_eq first (by omega), ofNat_eq second (by omega), ofNat_eq third (by omega),
        ofNat_eq fourth (by omega)]

theorem toNat_ofNat_of_lt {n : Nat} (h : n < 256) : (UInt8.ofNat n).toNat = n := by
  rw [UInt8.toNat_ofNat', Nat.mod_eq_of_lt h]

theorem continues_ofNat (n : Nat) : Continues (UInt8.ofNat (n % 64 + 128)) := by
  rw [Continues, toNat_ofNat_of_lt (by omega)]
  omega

variable {rest : List UInt8}

/-- A character of several bytes, with what its first byte asks of the others. -/
theorem wellFormed_cons_cons {first second : Nat} (hfirst : 0xc2 ≤ first) (hfirst' : first ≤ 0xf4)
    (hsecond : second < 256)
    (hlength : ∀ lead, leadByte (UInt8.ofNat first) = some lead → rest.length + 1 =
      lead.continuation ∧ lead.secondMin.toNat ≤ second ∧ second ≤ lead.secondMax.toNat)
    (hrest : ∀ byte ∈ rest, Continues byte) :
    WellFormed (UInt8.ofNat first :: UInt8.ofNat second :: rest) := by
  have hbyte := toNat_ofNat_of_lt (n := first) (by omega)
  obtain ⟨lead, hlead⟩ := exists_leadByte (UInt8.ofNat first) (by omega) (by omega)
  obtain ⟨hcount, hmin, hmax⟩ := hlength lead hlead
  rw [← toNat_ofNat_of_lt hsecond] at hmin hmax
  exact .more hlead hcount hmin hmax hrest

/-- The encoding of a scalar value has the form that a round of the loop passes over. -/
theorem wellFormed_utf8EncodeChar (c : Char) : WellFormed (String.utf8EncodeChar c) := by
  have hvalid : c.val.toNat.isValidChar := c.valid
  unfold Nat.isValidChar at hvalid
  unfold String.utf8EncodeChar
  generalize c.val.toNat = v at hvalid
  dsimp only
  split_ifs with h₁ h₂ h₃
  · exact .one (by rw [toNat_ofNat_of_lt (by omega)]; exact h₁)
  · refine wellFormed_cons_cons (by omega) (by omega) (by omega) (fun lead hlead => ?_) nofun
    have hcases := leadByte_cases hlead
    rw [toNat_ofNat_of_lt (by omega)] at hcases
    change 0 + 1 = _ ∧ _
    omega
  · refine wellFormed_cons_cons (by omega) (by omega) (by omega) (fun lead hlead => ?_) ?_
    · have hcases := leadByte_cases hlead
      rw [toNat_ofNat_of_lt (by omega)] at hcases
      change 1 + 1 = _ ∧ _
      omega
    · simp only [forall_mem_singleton, continues_ofNat]
  · refine wellFormed_cons_cons (by omega) (by omega) (by omega) (fun lead hlead => ?_) ?_
    · have hcases := leadByte_cases hlead
      rw [toNat_ofNat_of_lt (by omega)] at hcases
      change 2 + 1 = _ ∧ _
      omega
    · exact forall_mem_cons.mpr
        ⟨continues_ofNat _, forall_mem_singleton.mpr (continues_ofNat _)⟩

/-! ## One character -/

instance : DecidablePred Continues := fun _ => inferInstanceAs (Decidable (_ ∧ _))

theorem not_continues_iff {byte : UInt8} : byte < 0x80 ∨ byte > 0xbf ↔ ¬Continues byte := by
  rw [Continues, gt_iff_lt, UInt8.lt_iff_toNat_lt, UInt8.lt_iff_toNat_lt]
  simp only [UInt8.reduceToNat]
  omega

variable {input : List UInt8} {index : Nat}

theorem getElem?_of_drop {byte : UInt8} (h : input.drop index = byte :: rest) :
    input[index]? = some byte ∧ input.drop (index + 1) = rest := by
  constructor
  · rw [← List.head?_drop, h, List.head?_cons]
  · rw [← tail_drop, h, tail_cons]

theorem scanRemaining_eq {remaining : Nat} (h : index + remaining ≤ input.length) :
    scanRemaining input remaining index =
      if ∀ byte ∈ (input.drop index).take remaining, Continues byte then
        some (.next (index + remaining))
      else some .invalid := by
  induction remaining generalizing index with
  | zero => simp [scanRemaining]
  | succ remaining ih =>
    have hdrop := drop_eq_getElem_cons (show index < input.length by omega)
    rw [scanRemaining, (getElem?_of_drop hdrop).1, Option.bind_eq_bind, Option.bind_some,
      ih (by omega), hdrop, take_succ_cons]
    simp only [not_continues_iff, forall_mem_cons, Nat.add_right_comm index 1 remaining]
    by_cases hbyte : Continues input[index]
    · simp only [hbyte, not_true, if_false, true_and]
      rfl
    · simp only [hbyte, not_false_eq_true, if_true, false_and, if_false]

theorem wellFormed_iff_of_leadByte {second : UInt8} (hlead : leadByte first = some lead) :
    WellFormed (first :: second :: rest) ↔ rest.length + 1 = lead.continuation ∧
      ¬(second < lead.secondMin ∨ second > lead.secondMax) ∧
      ∀ byte ∈ rest, Continues byte := by
  rw [not_or, gt_iff_lt, UInt8.not_lt, UInt8.not_lt, UInt8.le_iff_toNat_le, UInt8.le_iff_toNat_le]
  constructor
  · intro h
    cases h with
    | more hlead' hlength hmin hmax hrest =>
      obtain rfl := Option.some.inj (hlead.symm.trans hlead')
      exact ⟨hlength, ⟨hmin, hmax⟩, hrest⟩
  · rintro ⟨hlength, ⟨hmin, hmax⟩, hrest⟩
    exact .more hlead hlength hmin hmax hrest

open Classical in
/-- A round at a byte that begins a character of several bytes. -/
theorem scanCharacter_of_leadByte {tail : List UInt8} (hdrop : input.drop index = first :: tail)
    (hlead : leadByte first = some lead) :
    scanCharacter input index =
      if lead.continuation ≤ tail.length ∧ WellFormed (first :: tail.take lead.continuation) then
        some (.next (index + (1 + lead.continuation)))
      else some .invalid := by
  have hcases := leadByte_cases hlead
  obtain ⟨hfirst, htail⟩ := getElem?_of_drop hdrop
  have hlength : input.length - (index + 1) = tail.length := by rw [← htail, length_drop]
  have hlow : ¬first ≤ 0x7f := by
    rw [UInt8.le_iff_toNat_le]
    simp only [UInt8.reduceToNat]
    omega
  rw [scanCharacter, hfirst, Option.bind_eq_bind, Option.bind_some, if_neg hlow, hlead, hlength]
  dsimp only
  by_cases hshort : tail.length < lead.continuation
  · rw [if_pos hshort, if_neg (fun h => by omega)]
  · -- There is a second byte, and the rest of the character lies inside of the input.
    obtain ⟨second, rest, rfl⟩ := exists_cons_of_length_pos (l := tail) (by omega)
    obtain ⟨count, hcount⟩ := Nat.exists_eq_succ_of_ne_zero (n := lead.continuation) (by omega)
    obtain ⟨hsecond, hrest⟩ := getElem?_of_drop htail
    rw [length_cons] at hlength hshort ⊢
    have htake : (rest.take count).length = count := length_take_of_le (by omega)
    rw [if_neg hshort, hsecond, Option.bind_some, hcount, take_succ_cons, wellFormed_iff_of_leadByte
      hlead, htake, hcount, Nat.succ_sub_one, scanRemaining_eq (by omega), hrest]
    by_cases hrange : second < lead.secondMin ∨ second > lead.secondMax
    · rw [if_pos hrange, if_neg (fun h => h.2.2.1 hrange)]
    · rw [if_neg hrange]
      by_cases hall : ∀ byte ∈ rest.take count, Continues byte
      · rw [if_pos hall, if_pos ⟨by omega, rfl, hrange, hall⟩]
        congr 2
        omega
      · rw [if_neg hall, if_neg (fun h => hall h.2.2.2)]

/-- A round passes over a character that begins at its index. -/
theorem scanCharacter_of_wellFormed (h : WellFormed bytes)
    (hdrop : input.drop index = bytes ++ rest) :
    scanCharacter input index = some (.next (index + bytes.length)) := by
  cases h with
  | @one first hfirst =>
    rw [scanCharacter, (getElem?_of_drop hdrop).1, Option.bind_eq_bind, Option.bind_some,
      if_pos (UInt8.le_iff_toNat_le.mpr hfirst)]
    rfl
  | @more first second more lead hlead hcount hmin hmax hmore =>
    have htake : (second :: more ++ rest).take lead.continuation = second :: more := by
      rw [← hcount, ← length_cons (a := second), take_left]
    have hdrop : input.drop index = first :: (second :: more ++ rest) := hdrop
    rw [scanCharacter_of_leadByte hdrop hlead, if_pos, ← hcount]
    · simp only [length_cons]
      congr 2
      omega
    · rw [htake]
      exact ⟨by simp only [length_append, length_cons]; omega,
        .more hlead hcount hmin hmax hmore⟩

/-- Otherwise the round ends the function; it reads no byte behind the end of the input. -/
theorem scanCharacter_cases (h : index < input.length) :
    scanCharacter input index = some .invalid ∨
      ∃ bytes rest, WellFormed bytes ∧ input.drop index = bytes ++ rest ∧
        scanCharacter input index = some (.next (index + bytes.length)) := by
  have hdrop := drop_eq_getElem_cons h
  obtain ⟨hfirst, -⟩ := getElem?_of_drop hdrop
  generalize input[index] = first at hdrop hfirst
  by_cases hlow : first ≤ 0x7f
  · refine .inr ⟨[first], _, .one (UInt8.le_iff_toNat_le.mp hlow), hdrop, ?_⟩
    rw [scanCharacter, hfirst, Option.bind_eq_bind, Option.bind_some, if_pos hlow]
    rfl
  · cases hlead : leadByte first with
    | none =>
      refine .inl ?_
      rw [scanCharacter, hfirst, Option.bind_eq_bind, Option.bind_some, if_neg hlow, hlead]
    | some lead =>
      rw [scanCharacter_of_leadByte hdrop hlead]
      split
      · rename_i hform
        refine .inr ⟨_, (input.drop (index + 1)).drop lead.continuation, hform.2, ?_, ?_⟩
        · rw [cons_append, take_append_drop, hdrop]
        · rw [length_cons, length_take_of_le hform.1, Nat.add_comm 1]
      · exact .inl rfl

/-! ## The whole input -/

theorem drop_add_length (hdrop : input.drop index = bytes ++ rest) :
    input.drop (index + bytes.length) = rest := by
  rw [← drop_drop, hdrop, drop_left]

/-- An input with something left is a concatenation of encodings exactly if a round passes over
    one of them and the rest is again a concatenation. -/
theorem exists_chars_iff (h : index < input.length) :
    (∃ chars : List Char, input.drop index = chars.flatMap String.utf8EncodeChar) ↔
      ∃ next, scanCharacter input index = some (.next next) ∧
        ∃ chars : List Char, input.drop next = chars.flatMap String.utf8EncodeChar := by
  constructor
  · rintro ⟨chars, hchars⟩
    cases chars with
    | nil => exact absurd (drop_eq_nil_iff.mp hchars) (Nat.not_le.mpr h)
    | cons c chars =>
      rw [flatMap_cons] at hchars
      exact ⟨_, scanCharacter_of_wellFormed (wellFormed_utf8EncodeChar c) hchars, chars,
        drop_add_length hchars⟩
  · rintro ⟨next, hscan, chars, hchars⟩
    rcases scanCharacter_cases h with hinvalid | ⟨bytes, rest, hform, hdrop, hnext⟩
    · rw [hinvalid] at hscan
      cases hscan
    · obtain ⟨c, rfl⟩ := hform.exists_char
      rw [hnext] at hscan
      cases hscan
      exact ⟨c :: chars, by rw [flatMap_cons, ← hchars, drop_add_length hdrop, hdrop]⟩

/-- Each round moves the index on, so the loop ends in time. -/
theorem validUtf8Loop_iff {rounds : Nat} (hindex : index ≤ input.length)
    (hrounds : input.length < rounds + index) :
    ∃ valid, validUtf8Loop input rounds index = some valid ∧ (valid = true ↔
      ∃ chars : List Char, input.drop index = chars.flatMap String.utf8EncodeChar) := by
  induction rounds generalizing index with
  | zero => omega
  | succ rounds ih =>
    rw [validUtf8Loop]
    by_cases hend : index < input.length
    · rw [if_pos hend, exists_chars_iff hend]
      rcases scanCharacter_cases hend with hinvalid | ⟨bytes, rest, hform, hdrop, hnext⟩
      · rw [hinvalid]
        exact ⟨false, rfl, by simp⟩
      · have hlength := congrArg List.length hdrop
        rw [length_drop, length_append] at hlength
        have hpos : 0 < bytes.length := by cases hform <;> exact Nat.succ_pos _
        obtain ⟨valid, hloop, hvalid⟩ := @ih (index + bytes.length) (by omega) (by omega)
        rw [hnext]
        refine ⟨valid, hloop, hvalid.trans ⟨fun hchars => ⟨_, rfl, hchars⟩, ?_⟩⟩
        rintro ⟨next, ⟨⟩, hchars⟩
        exact hchars
    · rw [if_neg hend, drop_eq_nil_of_le (Nat.not_lt.mp hend)]
      exact ⟨true, rfl, fun _ => ⟨[], rfl⟩, fun _ => rfl⟩

/-- For every input the check returns, so it never reads outside, and it returns true exactly for
    the concatenations of encodings of scalar values. -/
theorem validUtf8_iff (input : List UInt8) :
    ∃ valid, validUtf8 input = some valid ∧ (valid = true ↔
      ∃ chars : List Char, input = chars.flatMap String.utf8EncodeChar) :=
  validUtf8Loop_iff (Nat.zero_le _) (Nat.lt_succ_self _)

-- A surrogate, and the longer form of a slash.
example : validUtf8 [0xed, 0xa0, 0x80] = some false ∧ validUtf8 [0xc0, 0xaf] = some false := by
  decide

end AsterCtrl.Proto
