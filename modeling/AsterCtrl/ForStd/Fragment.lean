import Mathlib.Data.Nat.Bitwise
import Mathlib.Data.List.Basic
import Mathlib.Algebra.BigOperators.Group.List.Basic

/-!
# Splitting a message into fragments and putting it together again

A message is a list `p`.  With fragment width `w` its fragment `i` is the window
`[i * w, i * w + w)` of `p`, so only the last fragment can be shorter than `w`.

`FragmentBuffer` is the reassembly side: a fixed buffer of `capacity` elements, the length
of every fragment stored so far, and a bit mask of the fragments stored so far.  The
predicate `FragmentBuffer.Holds b w p` says that whatever the mask marks as stored is the
matching piece of `p`; it is kept by storing any fragment of `p`, and once the mask is full
the buffer reads back as exactly `p`.
-/

/-! ## Fragments of a list -/

/-- Number of fragments of width `w` that a list of `n` elements is cut into. -/
def fragmentsOf (w n : Nat) : Nat := (n + (w - 1)) / w

/-- Fragment `i` of `p`: at most `w` elements from position `i * w` on. -/
def fragmentAt {α : Type*} (w : Nat) (p : List α) (i : Nat) : List α := (p.drop (i * w)).take w

section Fragments

variable {α : Type*} {w : Nat} {p : List α} {i k n : Nat}

theorem length_fragmentAt : (fragmentAt w p i).length = min w (p.length - i * w) := by
  simp [fragmentAt]

theorem fragmentsOf_pos (hw : 0 < w) (hn : 0 < n) : 0 < fragmentsOf w n :=
  Nat.div_pos (by omega) hw

/-- Fragment `i` is one of the fragments of `n` elements iff it starts inside them. -/
theorem lt_fragmentsOf_iff (hw : 0 < w) : i < fragmentsOf w n ↔ i * w < n := by
  rw [fragmentsOf, Nat.lt_iff_add_one_le, Nat.le_div_iff_mul_le hw, Nat.add_mul]
  omega

theorem length_fragmentAt_pos (hw : 0 < w) (hi : i < fragmentsOf w p.length) :
    0 < (fragmentAt w p i).length := by
  have := (lt_fragmentsOf_iff hw).mp hi
  rw [length_fragmentAt]
  omega

theorem length_fragmentAt_le : (fragmentAt w p i).length ≤ w := by
  rw [length_fragmentAt]
  exact Nat.min_le_left _ _

/-- Every fragment but the last one is full. -/
theorem length_fragmentAt_of_lt (hw : 0 < w) (hi : i + 1 < fragmentsOf w p.length) :
    (fragmentAt w p i).length = w := by
  have := (lt_fragmentsOf_iff hw).mp hi
  rw [Nat.add_mul] at this
  rw [length_fragmentAt]
  omega

/-- No fragment reaches beyond the end of the list. -/
theorem fragmentAt_end_le (hw : 0 < w) (hi : i < fragmentsOf w p.length) :
    i * w + (fragmentAt w p i).length ≤ p.length := by
  have := (lt_fragmentsOf_iff hw).mp hi
  rw [length_fragmentAt]
  omega

/-- Element `k` of fragment `i` is element `i * w + k` of the list. -/
theorem getElem?_fragmentAt (hk : k < w) : (fragmentAt w p i)[k]? = p[i * w + k]? := by
  simp [fragmentAt, hk, List.getElem?_drop]

/-- The fragment lengths of a list add up to its length. -/
theorem sum_length_fragmentAt (hw : 0 < w) (p : List α) :
    ((List.range (fragmentsOf w p.length)).map fun i => (fragmentAt w p i).length).sum =
      p.length := by
  -- the first `c` fragments cover the first `c * w` elements
  have hfirst : ∀ c, ((List.range c).map fun i => (fragmentAt w p i).length).sum =
      min (c * w) p.length := by
    intro c
    induction c with
    | zero => simp
    | succ c ih =>
      rw [List.range_succ, List.map_append, List.sum_append, ih, List.map_singleton,
        List.sum_singleton, length_fragmentAt, Nat.add_mul]
      omega
  rw [hfirst]
  have hcover : ¬ fragmentsOf w p.length * w < p.length := by
    rw [← lt_fragmentsOf_iff hw]
    exact Nat.lt_irrefl _
  omega

end Fragments

/-! ## The reassembly buffer -/

/-- Reassembly state: the elements received so far at their final positions, the length of
    every fragment received so far, and the set of these fragments as a bit mask. -/
structure FragmentBuffer (α : Type*) (capacity slots : Nat) where
  bytes : Vector α capacity
  lengths : Vector Nat slots
  mask : Nat
deriving DecidableEq

namespace FragmentBuffer

variable {α : Type*} {capacity slots : Nat}

/-- A buffer that holds nothing, filled with `fill`. -/
def empty (fill : α) : FragmentBuffer α capacity slots :=
  ⟨Vector.replicate capacity fill, Vector.replicate slots 0, 0⟩

variable (b : FragmentBuffer α capacity slots)

/-- Forget which fragments were stored; the elements stay where they are. -/
def clearMask : FragmentBuffer α capacity slots :=
  { b with mask := 0 }

/-- Forget which fragments were stored and their lengths. -/
def clear : FragmentBuffer α capacity slots :=
  { b with lengths := Vector.replicate slots 0, mask := 0 }

/-- Is the bit of fragment `i` set in the mask? -/
def has (i : Nat) : Bool := (b.mask &&& (1 <<< i)) != 0

/-- Copy `xs` to position `off` of the vector. -/
def copyAt (v : Vector α capacity) (off : Nat) (xs : List α) (h : off + xs.length ≤ capacity) :
    Vector α capacity :=
  ⟨(v.toList.take off ++ xs ++ v.toList.drop (off + xs.length)).toArray, by
    simp only [List.size_toArray, List.length_append, List.length_take, List.length_drop,
      Vector.length_toList]
    omega⟩

/-- Store `xs` as fragment `i` of a message cut into fragments of width `w`. -/
def store (w i : Nat) (xs : List α) (h : i * w + xs.length ≤ capacity) :
    FragmentBuffer α capacity slots where
  bytes := copyAt b.bytes (i * w) xs h
  lengths := b.lengths.setIfInBounds i xs.length
  mask := b.mask ||| (1 <<< i)

/-- Are exactly the first `count` fragments stored? -/
def isFull (count : Nat) : Bool :=
  b.mask == (1 <<< count) - 1

/-- Sum of the lengths of the first `count` fragments. -/
def total (count : Nat) : Nat :=
  (List.range count).foldl (fun total index => total + b.lengths.toList.getD index 0) 0

/-- The first `total` elements of the buffer. -/
def contents (count : Nat) : List α :=
  b.bytes.toList.take (b.total count)

/-! ### Basic facts -/

theorem has_eq_testBit (b : FragmentBuffer α capacity slots) (i : Nat) :
    b.has i = b.mask.testBit i := by
  rw [has, Nat.one_shiftLeft, Nat.and_two_pow]
  cases b.mask.testBit i <;> simp

@[simp] theorem has_clear (b : FragmentBuffer α capacity slots) (i : Nat) :
    b.clear.has i = false := by
  simp [has, clear]

variable {b : FragmentBuffer α capacity slots}

theorem has_of_mask_eq_zero (h : b.mask = 0) (i : Nat) : b.has i = false := by
  simp [has, h]

theorem has_store (b : FragmentBuffer α capacity slots) (w i : Nat) (xs : List α)
    (h : i * w + xs.length ≤ capacity) (j : Nat) :
    (b.store w i xs h).has j = (b.has j || decide (i = j)) := by
  simp only [has_eq_testBit, store, Nat.testBit_or, Nat.one_shiftLeft, Nat.testBit_two_pow]

variable {count : Nat}

theorem isFull_iff : b.isFull count = true ↔ ∀ i, b.has i = decide (i < count) := by
  simp only [isFull, Nat.one_shiftLeft, beq_iff_eq, has_eq_testBit]
  constructor
  · intro h i
    rw [h, Nat.testBit_two_pow_sub_one]
  · intro h
    apply Nat.eq_of_testBit_eq
    intro i
    rw [h, Nat.testBit_two_pow_sub_one]

section

variable (v : Vector α capacity)

theorem toList_copyAt (off : Nat) (xs : List α) (h : off + xs.length ≤ capacity) :
    (copyAt v off xs h).toList =
      v.toList.take off ++ xs ++ v.toList.drop (off + xs.length) := by
  simp [copyAt, Vector.toList]

/-- A copied element is read back at its position. -/
theorem getElem?_copyAt_of_mem (off : Nat) (xs : List α) (h : off + xs.length ≤ capacity) {k : Nat}
    (hk : k < xs.length) : (copyAt v off xs h).toList[off + k]? = xs[k]? := by
  have hoff : (v.toList.take off).length = off := by
    rw [List.length_take, Vector.length_toList]
    omega
  rw [toList_copyAt, List.append_assoc, List.getElem?_append_right (by omega), hoff,
    Nat.add_sub_cancel_left, List.getElem?_append_left hk]

/-- Elements outside the copied range are unchanged. -/
theorem getElem?_copyAt_of_not_mem (off : Nat) (xs : List α) (h : off + xs.length ≤ capacity)
    {k : Nat} (hk : k < off ∨ off + xs.length ≤ k) :
    (copyAt v off xs h).toList[k]? = v.toList[k]? := by
  have hoff : (v.toList.take off).length = off := by
    rw [List.length_take, Vector.length_toList]
    omega
  rw [toList_copyAt]
  rcases hk with hlt | hge
  · rw [List.append_assoc, List.getElem?_append_left (by omega), List.getElem?_take, if_pos hlt]
  · rw [List.getElem?_append_right (by rw [List.length_append, hoff]; exact hge),
      List.getElem?_drop, List.length_append, hoff]
    congr 1
    omega

end

open List

theorem getD_lengths_store (b : FragmentBuffer α capacity slots) (w i : Nat) (xs : List α)
    (h : i * w + xs.length ≤ capacity) (hi : i < slots) (j : Nat) :
    (b.store w i xs h).lengths.toList.getD j 0 =
      if i = j then xs.length else b.lengths.toList.getD j 0 := by
  simp only [store, Vector.toList_setIfInBounds, getD_eq_getElem?_getD, List.getElem?_set,
    Vector.length_toList]
  split
  · rename_i hij
    subst hij
    simp
  · rfl

/-! ### The reassembly relation -/

/-- Everything the mask marks as stored is the matching piece of the message `p`. -/
structure Holds (b : FragmentBuffer α capacity slots) (w : Nat) (p : List α) : Prop where
  /-- Only fragments of `p` are stored. -/
  index : ∀ i, b.has i = true → i < fragmentsOf w p.length
  /-- A stored fragment has the length of the fragment of `p`. -/
  length : ∀ i, b.has i = true → b.lengths.toList.getD i 0 = (fragmentAt w p i).length
  /-- An element of a stored fragment is the element of `p` at its position. -/
  elem : ∀ k, k < p.length → b.has (k / w) = true → b.bytes.toList[k]? = p[k]?

/-- A buffer that stores nothing holds a part of every message. -/
theorem holds_of_mask_eq_zero (h : b.mask = 0) (w : Nat) (p : List α) : b.Holds w p where
  index i hi := by rw [has_of_mask_eq_zero h] at hi; cases hi
  length i hi := by rw [has_of_mask_eq_zero h] at hi; cases hi
  elem k _ hk := by rw [has_of_mask_eq_zero h] at hk; cases hk

variable {w : Nat}

/-- A position that is not in fragment `i` is outside the bytes of that fragment. -/
theorem outside_of_div_ne {i k n : Nat} (hw : 0 < w) (hn : n ≤ w) (hik : i ≠ k / w) :
    k < i * w ∨ i * w + n ≤ k := by
  have hdiv := Nat.div_add_mod' k w
  have hmod := Nat.mod_lt k hw
  rcases Nat.lt_or_gt_of_ne hik with hlt | hgt
  · right
    have : (i + 1) * w ≤ k / w * w := Nat.mul_le_mul_right w hlt
    rw [Nat.add_mul] at this
    omega
  · left
    have : (k / w + 1) * w ≤ i * w := Nat.mul_le_mul_right w hgt
    rw [Nat.add_mul] at this
    omega

/-- Storing a fragment of `p` keeps a buffer that holds a part of `p`. -/
theorem Holds.store {p xs : List α} (hb : b.Holds w p) (hw : 0 < w) {i index : Nat}
    (hi : i < fragmentsOf w p.length) (his : i < slots) (hindex : index = i)
    (hxs : xs = fragmentAt w p i) (h : index * w + xs.length ≤ capacity) :
    (b.store w index xs h).Holds w p := by
  subst hindex hxs
  refine ⟨fun j hj => ?_, fun j hj => ?_, fun k hk hhas => ?_⟩
  · rw [has_store, Bool.or_eq_true, decide_eq_true_eq] at hj
    rcases hj with hj | rfl
    · exact hb.index j hj
    · exact hi
  · rw [getD_lengths_store _ _ _ _ _ his]
    split
    · rename_i hij; rw [hij]
    · rename_i hij
      rw [has_store, Bool.or_eq_true, decide_eq_true_eq] at hj
      exact hb.length j (hj.resolve_right hij)
  · have hdiv := Nat.div_add_mod' k w
    have hmod := Nat.mod_lt k hw
    by_cases hik : index = k / w
    · -- `k` lies in the fragment that was just stored
      have hlen : k % w < (fragmentAt w p index).length := by
        rw [length_fragmentAt, hik]
        omega
      have hk' : index * w + k % w = k := by rw [hik]; exact hdiv
      have := getElem?_copyAt_of_mem b.bytes (index * w) (fragmentAt w p index) h hlen
      rw [getElem?_fragmentAt hmod, hk'] at this
      exact this
    · -- another stored fragment, outside the copied range
      rw [has_store, Bool.or_eq_true, decide_eq_true_eq] at hhas
      have hrange := outside_of_div_ne hw (length_fragmentAt_le (p := p) (i := index)) hik
      have := getElem?_copyAt_of_not_mem b.bytes (index * w) (fragmentAt w p index) h hrange
      rw [FragmentBuffer.store, this]
      exact hb.elem k hk (hhas.resolve_right hik)

private theorem foldl_add_eq_sum (f : Nat → Nat) (l : List Nat) (init : Nat) :
    l.foldl (fun total index => total + f index) init = init + (l.map f).sum := by
  induction l generalizing init with
  | nil => simp
  | cons x xs ih => rw [foldl_cons, ih, map_cons, sum_cons]; omega

/-- Once all fragments of `p` are stored, the buffer reads back as `p`. -/
theorem Holds.contents_eq {p : List α} (hb : b.Holds w p) (hw : 0 < w)
    (hfull : b.isFull (fragmentsOf w p.length) = true) :
    b.contents (fragmentsOf w p.length) = p := by
  have hhas := isFull_iff.mp hfull
  have htotal : b.total (fragmentsOf w p.length) = p.length := by
    have hlengths : (List.range (fragmentsOf w p.length)).map (fun i => b.lengths.toList.getD i 0) =
        (List.range (fragmentsOf w p.length)).map fun i => (fragmentAt w p i).length := by
      apply map_congr_left
      intro i hi
      exact hb.length i (by rw [hhas, decide_eq_true (mem_range.mp hi)])
    rw [total, foldl_add_eq_sum, Nat.zero_add, hlengths, sum_length_fragmentAt hw]
  rw [contents, htotal]
  apply ext_getElem?
  intro k
  rw [List.getElem?_take]
  by_cases hk : k < p.length
  · have hstored : b.has (k / w) = true := by
      rw [hhas, decide_eq_true_eq, lt_fragmentsOf_iff hw]
      exact Nat.lt_of_le_of_lt (Nat.div_mul_le_self k w) hk
    rw [if_pos hk, hb.elem k hk hstored]
  · rw [if_neg hk, List.getElem?_eq_none (by omega)]

/-! ### Two buffers with the same fragments -/

/-- The same fragments are stored in both buffers; what else is in them does not matter. -/
structure Agree (b b' : FragmentBuffer α capacity slots) (w : Nat) : Prop where
  mask : b.mask = b'.mask
  lengths : b.lengths = b'.lengths
  /-- An element of a stored fragment is the same in both buffers. -/
  elem : ∀ k, b.has (k / w) = true → k % w < b.lengths.toList.getD (k / w) 0 →
    b.bytes.toList[k]? = b'.bytes.toList[k]?

/-- The stored fragments of a message of `count` fragments are full, up to the last one. -/
structure Packed (b : FragmentBuffer α capacity slots) (w count : Nat) : Prop where
  full : ∀ i, b.has i = true → i + 1 < count → b.lengths.toList.getD i 0 = w
  le : ∀ i, b.has i = true → b.lengths.toList.getD i 0 ≤ w

theorem agree_refl (b : FragmentBuffer α capacity slots) (w : Nat) : b.Agree b w :=
  ⟨rfl, rfl, fun _ _ _ => rfl⟩

theorem agree_clear (b b' : FragmentBuffer α capacity slots) (w : Nat) :
    b.clear.Agree b'.clear w :=
  ⟨rfl, rfl, fun k hk => by rw [has_clear] at hk; exact nomatch hk⟩

theorem packed_clear (b : FragmentBuffer α capacity slots) (w count : Nat) :
    b.clear.Packed w count where
  full i hi := by rw [has_clear] at hi; cases hi
  le i hi := by rw [has_clear] at hi; cases hi

variable {b' : FragmentBuffer α capacity slots}

theorem Agree.has_eq (h : b.Agree b' w) (i : Nat) : b.has i = b'.has i := by
  rw [has, has, h.mask]

theorem Agree.store (h : b.Agree b' w) (hw : 0 < w) {i : Nat} {xs : List α} (hi : i < slots)
    (hxs : xs.length ≤ w) (fit : i * w + xs.length ≤ capacity) :
    (b.store w i xs fit).Agree (b'.store w i xs fit) w where
  mask := by simp only [FragmentBuffer.store, h.mask]
  lengths := by simp only [FragmentBuffer.store, h.lengths]
  elem k hk hlt := by
    have hdiv := Nat.div_add_mod' k w
    have hmod := Nat.mod_lt k hw
    rw [getD_lengths_store _ _ _ _ _ hi] at hlt
    by_cases hik : i = k / w
    · -- `k` lies in the fragment that was just stored
      rw [if_pos hik] at hlt
      have hpos : i * w + k % w = k := by rw [hik]; exact hdiv
      rw [FragmentBuffer.store, FragmentBuffer.store, ← hpos, getElem?_copyAt_of_mem b.bytes (i * w)
        xs fit hlt, getElem?_copyAt_of_mem b'.bytes (i * w) xs fit hlt]
    · rw [if_neg hik] at hlt
      rw [has_store, Bool.or_eq_true, decide_eq_true_eq] at hk
      have hrange := outside_of_div_ne hw hxs hik
      rw [FragmentBuffer.store, FragmentBuffer.store, getElem?_copyAt_of_not_mem b.bytes (i * w) xs
        fit hrange, getElem?_copyAt_of_not_mem b'.bytes (i * w) xs fit hrange]
      exact h.elem k (hk.resolve_right hik) hlt

theorem Packed.store (h : b.Packed w count) {i : Nat} {xs : List α} (hi : i < slots)
    (hfull : i + 1 < count → xs.length = w) (hle : xs.length ≤ w)
    (fit : i * w + xs.length ≤ capacity) : (b.store w i xs fit).Packed w count where
  full j hj hlt := by
    rw [getD_lengths_store _ _ _ _ _ hi]
    rw [has_store, Bool.or_eq_true, decide_eq_true_eq] at hj
    split
    · rename_i hij
      exact hfull (hij ▸ hlt)
    · rename_i hij
      exact h.full j (hj.resolve_right hij) hlt
  le j hj := by
    rw [getD_lengths_store _ _ _ _ _ hi]
    rw [has_store, Bool.or_eq_true, decide_eq_true_eq] at hj
    split
    · exact hle
    · rename_i hij
      exact h.le j (hj.resolve_right hij)

/-- The fragments of a full buffer are one after the other. -/
theorem Packed.total_eq (h : b.Packed w (count + 1)) (hfull : b.isFull (count + 1) = true) :
    b.total (count + 1) = count * w + b.lengths.toList.getD count 0 := by
  have hhas := isFull_iff.mp hfull
  have hfirst : ((List.range count).map fun i => b.lengths.toList.getD i 0).sum = count * w := by
    rw [map_congr_left (g := fun _ => w), map_const', length_range, sum_replicate_nat]
    intro i hi
    have hlt := mem_range.mp hi
    exact h.full i (by rw [hhas, decide_eq_true_eq]; omega) (by omega)
  rw [total, foldl_add_eq_sum, Nat.zero_add, range_succ, map_append, sum_append,
    hfirst, map_singleton, sum_singleton]

/-- Full buffers with the same fragments read back as the same message. -/
theorem Agree.contents_eq (h : b.Agree b' w) (hw : 0 < w) (hpacked : b.Packed w count)
    (hfull : b.isFull count = true) : b.contents count = b'.contents count := by
  have htotal : b.total count = b'.total count := by rw [total, total, h.lengths]
  cases count with
  | zero => rfl
  | succ count =>
    have hhas := isFull_iff.mp hfull
    have hsum := hpacked.total_eq hfull
    have hlast := hpacked.le count (by rw [hhas, decide_eq_true_eq]; omega)
    rw [contents, contents, ← htotal]
    apply ext_getElem?
    intro k
    rw [List.getElem?_take, List.getElem?_take]
    split
    · rename_i hk
      have hdiv := Nat.div_add_mod' k w
      have hmod := Nat.mod_lt k hw
      have hindex : k / w < count + 1 := by
        rw [Nat.div_lt_iff_lt_mul hw, Nat.add_mul]
        omega
      refine h.elem k (by rw [hhas, decide_eq_true_eq]; exact hindex) ?_
      rcases Nat.lt_succ_iff_lt_or_eq.mp hindex with hlt | heq
      · rw [hpacked.full _ (by rw [hhas, decide_eq_true_eq]; exact hindex) (by omega)]
        exact hmod
      · rw [heq] at hdiv ⊢
        omega
    · rfl

end FragmentBuffer
