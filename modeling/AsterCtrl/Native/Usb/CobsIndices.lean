import AsterCtrl.Native.Usb.Framing

/-!
# `CobsDecode` by index

`cobsDecode` takes its input apart as a list, so that it could not read outside of it.  Here is
the same function with the indices of `cobs.hpp`: every access to one of the two spans goes through
`readAt` or `writeAt`, and one outside of the span is a trap.  The loop over the input runs on
`fuel`, and to run out of it is a trap as well.
-/

namespace AsterCtrl.Usb

/-- What an execution of `CobsDecode` could run into. -/
inductive Trap where
  | readOutside
  | writeOutside
  | outOfFuel
deriving DecidableEq, Repr

/-- `input[index]` of a span. -/
def readAt (input : List UInt8) (index : Nat) : Except Trap UInt8 :=
  if h : index < input.length then .ok input[index] else .error .readOutside

/-- `output[index] = value` of a span. -/
def writeAt (output : List UInt8) (index : Nat) (value : UInt8) : Except Trap (List UInt8) :=
  if index < output.length then .ok (output.set index value) else .error .writeOutside

/-- The variables of `CobsDecode`. -/
structure CobsCursor where
  inputIndex : Nat := 0
  written : Nat := 0
  output : List UInt8
deriving DecidableEq, Repr

namespace CobsCursor

/-- `output[written++] = value`. -/
def push (c : CobsCursor) (value : UInt8) : Except Trap CobsCursor := do
  let output ← writeAt c.output c.written value
  return { c with output := output, written := c.written + 1 }

/-- The rounds of the inner loop of `CobsDecode` that are left. -/
def copyBlock (input : List UInt8) (c : CobsCursor) :
    (count : Nat) → Except Trap (Status × CobsCursor)
  | 0 => .ok (.ok, c)
  | count + 1 =>
    if c.written = c.output.length then .ok (.capacityExceeded, c)
    else do
      let value ← readAt input c.inputIndex
      if value = 0 then return (.protocolError, c)
      else do
        let c ← c.push value
        copyBlock input { c with inputIndex := c.inputIndex + 1 } count

/-- The outer loop of `CobsDecode`. -/
def decodeBlocks (input : List UInt8) (c : CobsCursor) :
    (fuel : Nat) → Except Trap (Status × CobsCursor)
  | 0 => if c.inputIndex < input.length then .error .outOfFuel else .ok (.ok, c)
  | fuel + 1 =>
    if c.inputIndex < input.length then do
      let code ← readAt input c.inputIndex
      let c := { c with inputIndex := c.inputIndex + 1 }
      if code = 0 ∨ c.inputIndex + code.toNat - 1 > input.length then
        return (.protocolError, c)
      else do
        let (status, c) ← c.copyBlock input (code.toNat - 1)
        if status ≠ .ok then return (status, c)
        else if code ≠ 0xff ∧ c.inputIndex < input.length then
          if c.written = c.output.length then return (.capacityExceeded, c)
          else do
            let c ← c.push 0
            decodeBlocks input c fuel
        else decodeBlocks input c fuel
    else .ok (.ok, c)

end CobsCursor

/-- `CobsDecode` with the indices of the source, in at most as many rounds of its outer loop as
    the input has bytes. -/
def cobsDecodeAt (input output : List UInt8) : Except Trap (Status × CobsCursor) :=
  let c : CobsCursor := { output := output }
  if input = [] then .ok (.protocolError, c)
  else c.decodeBlocks input input.length

end AsterCtrl.Usb
