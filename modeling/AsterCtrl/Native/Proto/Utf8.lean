import Mathlib.Tactic.TypeStar

/-!
# The UTF-8 check of the generated codecs

`ValidUtf8`, which `protobuf.py` writes into every generated header.  The input is read through an
index that each read moves on.  A read outside of the input gives `none`; so does a loop that has
not ended after as many rounds as there are bytes.
-/

namespace AsterCtrl.Proto

/-- What `ValidUtf8` expects after the first byte of a character. -/
structure LeadByte where
  continuation : Nat
  secondMin : UInt8 := 0x80
  secondMax : UInt8 := 0xbf
deriving DecidableEq, Repr

/-- `none` stands for a byte that begins no character. -/
def leadByte (first : UInt8) : Option LeadByte :=
  if first ≥ 0xc2 ∧ first ≤ 0xdf then
    some { continuation := 1 }
  else if first ≥ 0xe0 ∧ first ≤ 0xef then
    some
      { continuation := 2
        secondMin := if first = 0xe0 then 0xa0 else 0x80
        secondMax := if first = 0xed then 0x9f else 0xbf }
  else if first ≥ 0xf0 ∧ first ≤ 0xf4 then
    some
      { continuation := 3
        secondMin := if first = 0xf0 then 0x90 else 0x80
        secondMax := if first = 0xf4 then 0x8f else 0xbf }
  else none

/-- How a part of the function ends: it returns `false`, or the loop goes on at an index. -/
inductive Scan where
  | invalid
  | next (index : Nat)
deriving DecidableEq, Repr

/-- The loop over the `remaining` bytes of a character behind the second one. -/
def scanRemaining (input : List UInt8) : (remaining index : Nat) → Option Scan
  | 0, index => some (.next index)
  | remaining + 1, index => do
    let byte ← input[index]?
    if byte < 0x80 ∨ byte > 0xbf then some .invalid
    else scanRemaining input remaining (index + 1)

/-- One round of the outer loop. -/
def scanCharacter (input : List UInt8) (index : Nat) : Option Scan := do
  let first ← input[index]?
  if first ≤ 0x7f then some (.next (index + 1))
  else
    match leadByte first with
    | none => some .invalid
    | some lead =>
      if input.length - (index + 1) < lead.continuation then some .invalid
      else
        let second ← input[index + 1]?
        if second < lead.secondMin ∨ second > lead.secondMax then some .invalid
        else scanRemaining input (lead.continuation - 1) (index + 2)

/-- The outer loop, for at most `rounds` rounds. -/
def validUtf8Loop (input : List UInt8) : (rounds index : Nat) → Option Bool
  | 0, _ => none
  | rounds + 1, index =>
    if index < input.length then
      match scanCharacter input index with
      | none => none
      | some .invalid => some false
      | some (.next index) => validUtf8Loop input rounds index
    else some true

def validUtf8 (input : List UInt8) : Option Bool := validUtf8Loop input (input.length + 1) 0

end AsterCtrl.Proto
