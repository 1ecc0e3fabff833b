import AsterCtrl.ForStd.Run

/-!
# The arena of the Zephyr runtime

`FixedArenaAllocator` of `runtime_services.hpp`: memory is handed out from the front of one array
and comes back only when the whole arena is reset.  Sizes are machine words of any width `w`, and
the arithmetic wraps as that of `std::size_t` does.  An address is a number.

Left out: the bytes of the array, which the allocator never touches, and `Deallocate`, which does
nothing.
-/

namespace AsterCtrl.Zephyr

structure FixedArenaAllocator (w : Nat) where
  /-- The address of `storage_`. -/
  storage : Nat
  /-- `storage_.size()`. -/
  capacity : BitVec w
  /-- `alignof(std::max_align_t)`. -/
  maxAlign : BitVec w
  offset : BitVec w := 0
deriving DecidableEq, Repr

/-- The arguments of `Allocate`. -/
structure AllocationRequest (w : Nat) where
  size : BitVec w
  alignment : BitVec w
deriving DecidableEq, Repr

namespace FixedArenaAllocator

variable {w : Nat} (a : FixedArenaAllocator w)

/-- `(offset_ + alignment - 1U) & ~(alignment - 1U)`. -/
def aligned (alignment : BitVec w) : BitVec w :=
  (a.offset + alignment - 1) &&& ~~~(alignment - 1)

/-- The address that `Allocate` returns, `none` for the null pointer. -/
def allocate (r : AllocationRequest w) : FixedArenaAllocator w × Option Nat :=
  if r.size = 0 ∨ r.alignment = 0 ∨ a.maxAlign < r.alignment ∨
      r.alignment &&& (r.alignment - 1) ≠ 0 then
    (a, none)
  else if a.capacity < a.aligned r.alignment ∨
      a.capacity - a.aligned r.alignment < r.size then
    (a, none)
  else
    ({ a with offset := a.aligned r.alignment + r.size },
      some (a.storage + (a.aligned r.alignment).toNat))

def reset : FixedArenaAllocator w := { a with offset := 0 }

def used : BitVec w := a.offset

/-- The arena after the calls `requests`. -/
def allocateAll (requests : List (AllocationRequest w)) : FixedArenaAllocator w :=
  Machine.run (fun a r => (a.allocate r).1) a requests

end FixedArenaAllocator

end AsterCtrl.Zephyr
