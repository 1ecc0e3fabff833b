import AsterCtrl.Native.Zephyr.RuntimeServices
import Mathlib

/-!
# Regions of the arena

What the arena of the Zephyr runtime hands out between two resets.  The masks of `Allocate` are
read as arithmetic first (`toNat_aligned`); then each call takes the region after what is used so
far, and everything handed out earlier ends before it (`regions_bounds`).

## Key results

* `and_sub_one_eq_zero_iff`: the test of `Allocate` on the alignment accepts the powers of two.
* `FixedArenaAllocator.toNat_aligned`: the masks round the used amount up.
* `FixedArenaAllocator.allocate_eq`: when a call is refused, and the region it takes if not.
* `FixedArenaAllocator.regions_inside_and_disjoint`: the regions between two resets.
-/

namespace AsterCtrl.Zephyr

/-- The least multiple of `alignment` from `n` on. -/
def roundUp (n alignment : Nat) : Nat := (n + alignment - 1) / alignment * alignment

theorem le_roundUp {n alignment : Nat} (h : 0 < alignment) : n ≤ roundUp n alignment := by
  have hdiv := Nat.div_add_mod' (n + alignment - 1) alignment
  have hmod := Nat.mod_lt (n + alignment - 1) h
  simp only [roundUp]
  omega

/-! ## The masks -/

section Masks

variable {w : Nat} {n x : BitVec w}

theorem toNat_pos (h : x ≠ 0) : 0 < x.toNat :=
  Nat.pos_of_ne_zero fun h0 => h (BitVec.eq_of_toNat_eq (by simpa using h0))

theorem toNat_sub_one (h : 0 < x.toNat) : (x - 1).toNat = x.toNat - 1 := by
  have hw : 1 < 2 ^ w := by have := x.isLt; omega
  have hone : (1 : BitVec w).toNat = 1 := by simp [Nat.mod_eq_of_lt hw]
  rw [BitVec.toNat_sub_of_le (BitVec.le_def.mpr (by omega)), hone]

/-- The test of `Allocate` on an alignment that is not zero. -/
theorem and_sub_one_eq_zero_iff (h : x ≠ 0) : x &&& (x - 1) = 0 ↔ ∃ k, x.toNat = 2 ^ k := by
  have hpos := toNat_pos h
  rw [← BitVec.toNat_inj, BitVec.toNat_and, toNat_sub_one hpos]
  exact Nat.and_sub_one_eq_zero_iff_isPowerOfTwo hpos.ne'

/-- Clearing the bits below a power of two rounds down. -/
theorem toNat_and_not_sub_one {k : Nat} (hx : x.toNat = 2 ^ k) :
    (n &&& ~~~(x - 1)).toNat = n.toNat / x.toNat * x.toNat := by
  have hmask (i : Nat) : (x - 1).getLsbD i = decide (i < k) := by
    rw [← BitVec.testBit_toNat, toNat_sub_one (hx ▸ Nat.two_pow_pos k), hx,
      Nat.testBit_two_pow_sub_one]
  refine Nat.eq_of_testBit_eq fun i => ?_
  rw [hx, Nat.testBit_mul_two_pow, Nat.testBit_div_two_pow, BitVec.testBit_toNat,
    BitVec.testBit_toNat, BitVec.getLsbD_and, BitVec.getLsbD_not, hmask]
  -- Above the power of two both sides are the bit of `n`, below it they are clear.
  by_cases hi : i < k
  · simp [hi, Nat.not_le.mpr hi]
  · rw [Nat.sub_add_cancel (Nat.not_lt.mp hi)]
    by_cases hw : i < w
    · simp [hi, hw, Nat.not_lt.mp hi]
    · simp [hw, BitVec.getLsbD_of_ge n i (Nat.not_lt.mp hw)]

end Masks

/-! ## One call -/

/-- The bytes from an address on that a call returned. -/
structure ArenaRegion where
  address : Nat
  size : Nat
deriving DecidableEq, Repr

def ArenaRegion.bytes (q : ArenaRegion) : Set Nat := Set.Ico q.address (q.address + q.size)

namespace FixedArenaAllocator

variable {w : Nat} {a : FixedArenaAllocator w} {r : AllocationRequest w}

/-- Where the arena lies: `alignas(std::max_align_t)` holds, and the capacity stays away from the
    largest `std::size_t` by the largest alignment. -/
structure Placed (a : FixedArenaAllocator w) : Prop where
  powerOfTwo : ∃ k, a.maxAlign.toNat = 2 ^ k
  storage : a.maxAlign.toNat ∣ a.storage
  capacity : a.capacity.toNat + a.maxAlign.toNat ≤ 2 ^ w - 1

/-- The alignments a request may have: the powers of two up to that of `std::max_align_t`. -/
def ValidAlignment (a : FixedArenaAllocator w) (alignment : BitVec w) : Prop :=
  (∃ k, alignment.toNat = 2 ^ k) ∧ alignment ≤ a.maxAlign

theorem validAlignment_iff {alignment : BitVec w} :
    a.ValidAlignment alignment ↔
      ¬(alignment = 0 ∨ a.maxAlign < alignment ∨ alignment &&& (alignment - 1) ≠ 0) := by
  by_cases h0 : alignment = 0
  · have hno : ∀ k, 0 ≠ 2 ^ k := fun k => (Nat.two_pow_pos k).ne
    simp [ValidAlignment, h0, hno]
  · rw [ValidAlignment, ← and_sub_one_eq_zero_iff h0]
    simp only [h0, not_or, ne_eq, not_not, BitVec.not_lt, not_false_eq_true, true_and]
    exact and_comm

/-- In an arena that is used up to its capacity at most, the masks round up without a carry. -/
theorem toNat_aligned (ha : a.Placed) (hused : a.offset ≤ a.capacity) {alignment : BitVec w}
    (h : a.ValidAlignment alignment) :
    (a.aligned alignment).toNat = roundUp a.offset.toNat alignment.toNat := by
  obtain ⟨⟨k, hk⟩, hmax⟩ := h
  have hpos : 0 < alignment.toNat := hk ▸ Nat.two_pow_pos k
  have hcapacity := ha.capacity
  rw [BitVec.le_def] at hused hmax
  have hsum : (a.offset + alignment).toNat = a.offset.toNat + alignment.toNat :=
    BitVec.toNat_add_of_lt (by omega)
  rw [aligned, toNat_and_not_sub_one hk, toNat_sub_one (by omega), hsum, roundUp]

/-- A request that the arena can serve. -/
structure Fits (a : FixedArenaAllocator w) (r : AllocationRequest w) : Prop where
  size : r.size ≠ 0
  alignment : a.ValidAlignment r.alignment
  room : roundUp a.used.toNat r.alignment.toNat + r.size.toNat ≤ a.capacity.toNat

/-- A request that fits takes the bytes after what is used, rounded up. -/
theorem allocate_of_fits (ha : a.Placed) (hused : a.used ≤ a.capacity) (h : a.Fits r) :
    ∃ offset : BitVec w,
      offset.toNat = roundUp a.used.toNat r.alignment.toNat + r.size.toNat ∧
      a.allocate r = ({ a with offset := offset },
        some (a.storage + roundUp a.used.toNat r.alignment.toNat)) := by
  have haligned : (a.aligned r.alignment).toNat = roundUp a.used.toNat r.alignment.toNat :=
    toNat_aligned ha hused h.alignment
  have hroom := h.room
  have hsum : (a.aligned r.alignment + r.size).toNat =
      (a.aligned r.alignment).toNat + r.size.toNat :=
    BitVec.toNat_add_of_lt (by have := a.capacity.isLt; omega)
  have hle : a.aligned r.alignment ≤ a.capacity := BitVec.le_def.mpr (by omega)
  have hsize : ¬a.capacity - a.aligned r.alignment < r.size := by
    rw [BitVec.lt_def, BitVec.toNat_sub_of_le hle]
    omega
  refine ⟨a.aligned r.alignment + r.size, by omega, ?_⟩
  have hvalid := validAlignment_iff.mp h.alignment
  rw [allocate, if_neg (not_or.mpr ⟨h.size, hvalid⟩),
    if_neg (not_or.mpr ⟨BitVec.not_lt.mpr hle, hsize⟩), haligned]

/-- Any other request is refused. -/
theorem allocate_of_not_fits (ha : a.Placed) (hused : a.used ≤ a.capacity) (h : ¬a.Fits r) :
    a.allocate r = (a, none) := by
  unfold allocate
  split
  case isTrue => rfl
  case isFalse hvalid =>
    obtain ⟨hsize, halignment⟩ := not_or.mp hvalid
    have hvalid := validAlignment_iff.mpr halignment
    have haligned : (a.aligned r.alignment).toNat = roundUp a.used.toNat r.alignment.toNat :=
      toNat_aligned ha hused hvalid
    refine if_pos ?_
    by_contra hroom
    obtain ⟨hle, hfits⟩ := not_or.mp hroom
    rw [BitVec.not_lt] at hle
    rw [BitVec.lt_def, BitVec.toNat_sub_of_le hle] at hfits
    rw [BitVec.le_def] at hle
    exact h ⟨hsize, hvalid, by omega⟩

/-! ## Between two resets -/

/-- The region that a call returned, if any. -/
def region (a : FixedArenaAllocator w) (r : AllocationRequest w) : Option ArenaRegion :=
  (a.allocate r).2.map fun address => ⟨address, r.size.toNat⟩

/-- The regions that the calls `requests` returned. -/
def regions (a : FixedArenaAllocator w) : List (AllocationRequest w) → List ArenaRegion
  | [] => []
  | r :: requests => (a.region r).toList ++ (a.allocate r).1.regions requests

/-- An arena of one place and size that is used up to its capacity at most. -/
structure ArenaInv (base a : FixedArenaAllocator w) : Prop where
  storage : a.storage = base.storage
  capacity : a.capacity = base.capacity
  maxAlign : a.maxAlign = base.maxAlign
  used : a.used ≤ a.capacity

variable {base : FixedArenaAllocator w}

theorem ArenaInv.placed (h : ArenaInv base a) (hbase : base.Placed) : a.Placed := by
  obtain ⟨hpower, hstorage, hcapacity⟩ := hbase
  constructor
  · rwa [h.maxAlign]
  · rwa [h.maxAlign, h.storage]
  · rwa [h.maxAlign, h.capacity]

theorem arenaInv_reset (base : FixedArenaAllocator w) : ArenaInv base base.reset :=
  ⟨rfl, rfl, rfl, BitVec.le_def.mpr (Nat.zero_le _)⟩

/-- A call never gives back what is used, and the region it returns lies between what was used
    before and what is used after. -/
theorem ArenaInv.allocate (h : ArenaInv base a) (hbase : base.Placed) (r : AllocationRequest w) :
    ArenaInv base (a.allocate r).1 ∧ a.used.toNat ≤ (a.allocate r).1.used.toNat ∧
      ∀ q ∈ a.region r, base.storage + a.used.toNat ≤ q.address ∧
        q.address + q.size = base.storage + (a.allocate r).1.used.toNat ∧
        r.alignment.toNat ∣ q.address := by
  have ha := h.placed hbase
  by_cases hfits : a.Fits r
  · obtain ⟨offset, hoffset, hcall⟩ := allocate_of_fits ha h.used hfits
    obtain ⟨⟨k, hk⟩, hmax⟩ := hfits.alignment
    have hle := le_roundUp (n := a.used.toNat) (hk ▸ Nat.two_pow_pos k)
    have hroom := hfits.room
    rw [region, hcall]
    refine ⟨⟨h.storage, h.capacity, h.maxAlign, BitVec.le_def.mpr ?_⟩, ?_, ?_⟩
    · change offset.toNat ≤ a.capacity.toNat
      omega
    · change a.used.toNat ≤ offset.toNat
      omega
    · rintro q ⟨⟩
      rw [← h.storage]
      refine ⟨Nat.add_le_add_left hle _, ?_, Nat.dvd_add ?_ (Nat.dvd_mul_left ..)⟩
      · change a.storage + _ + r.size.toNat = a.storage + offset.toNat
        omega
      · -- A smaller power of two divides the alignment of the storage.
        obtain ⟨j, hj⟩ := ha.powerOfTwo
        rw [BitVec.le_def, hk, hj, Nat.pow_le_pow_iff_right (by decide)] at hmax
        have hdvd := ha.storage
        rw [hj] at hdvd
        exact hk ▸ Nat.dvd_trans (Nat.pow_dvd_pow 2 hmax) hdvd
  · rw [region, allocate_of_not_fits ha h.used hfits]
    exact ⟨h, le_rfl, nofun⟩

/-- The regions of a run lie between what was used before it and what is used after it. -/
theorem ArenaInv.regions_bounds (h : ArenaInv base a) (hbase : base.Placed)
    (requests : List (AllocationRequest w)) :
    ArenaInv base (a.allocateAll requests) ∧
      a.used.toNat ≤ (a.allocateAll requests).used.toNat ∧
      ∀ q ∈ a.regions requests, base.storage + a.used.toNat ≤ q.address ∧
        q.address + q.size ≤ base.storage + (a.allocateAll requests).used.toNat := by
  induction requests generalizing a with
  | nil => exact ⟨h, le_rfl, nofun⟩
  | cons r requests ih =>
    obtain ⟨hcall, hused, hregion⟩ := h.allocate hbase r
    obtain ⟨hrun, hlater, hregions⟩ := ih hcall
    refine ⟨hrun, hused.trans hlater, fun q hq => ?_⟩
    rw [regions, List.mem_append, Option.mem_toList] at hq
    rcases hq with hq | hq
    · obtain ⟨hfrom, hto, -⟩ := hregion q hq
      exact ⟨hfrom, hto.trans_le (Nat.add_le_add_left hlater _)⟩
    · obtain ⟨hfrom, hto⟩ := hregions q hq
      exact ⟨(Nat.add_le_add_left hused _).trans hfrom, hto⟩

/-- Every sequence of calls from a reset on, for every width of `std::size_t`: a pointer that is
    returned begins a region of the storage that has the requested size and alignment and shares
    no byte with an earlier one; a null pointer leaves the used amount as it was; and a request of
    a valid alignment and a size is refused only for lack of room after the rounded used amount. -/
theorem regions_inside_and_disjoint (base : FixedArenaAllocator w) (hbase : base.Placed)
    (earlier : List (AllocationRequest w)) (r : AllocationRequest w) :
    (∀ q ∈ (base.reset.allocateAll earlier).region r,
      q.size = r.size.toNat ∧
      q.bytes ⊆ Set.Ico base.storage (base.storage + base.capacity.toNat) ∧
      r.alignment.toNat ∣ q.address ∧
      ∀ p ∈ base.reset.regions earlier, Disjoint p.bytes q.bytes) ∧
    (((base.reset.allocateAll earlier).allocate r).2 = none →
      ((base.reset.allocateAll earlier).allocate r).1.used =
        (base.reset.allocateAll earlier).used) ∧
    (r.size ≠ 0 → base.ValidAlignment r.alignment →
      ((base.reset.allocateAll earlier).allocate r).2 = none →
      base.capacity.toNat <
        roundUp (base.reset.allocateAll earlier).used.toNat r.alignment.toNat +
          r.size.toNat) := by
  obtain ⟨hinv, -, hearlier⟩ := (arenaInv_reset base).regions_bounds hbase earlier
  generalize base.reset.allocateAll earlier = a at hinv hearlier ⊢
  obtain ⟨hafter, -, hregion⟩ := hinv.allocate hbase r
  refine ⟨fun q hq => ?_, fun hnull => ?_, fun hsize halignment hnull => ?_⟩
  · obtain ⟨hfrom, hto, hdvd⟩ := hregion q hq
    have hcapacity := BitVec.le_def.mp hafter.used
    rw [hafter.capacity] at hcapacity
    refine ⟨?_, Set.Ico_subset_Ico (by omega) (by omega), hdvd, fun p hp => ?_⟩
    · obtain ⟨address, -, rfl⟩ := Option.map_eq_some_iff.mp hq
      rfl
    · obtain ⟨-, hend⟩ := hearlier p hp
      exact Set.Ico_disjoint_Ico_same.mono_right (Set.Ico_subset_Ico_left (hend.trans hfrom))
  · by_cases hfits : a.Fits r
    · obtain ⟨offset, -, hcall⟩ := allocate_of_fits (hinv.placed hbase) hinv.used hfits
      rw [hcall] at hnull
      cases hnull
    · rw [allocate_of_not_fits (hinv.placed hbase) hinv.used hfits]
  · by_contra hroom
    rw [not_lt, ← hinv.capacity] at hroom
    have hvalid : a.ValidAlignment r.alignment := by
      rwa [ValidAlignment, hinv.maxAlign]
    obtain ⟨offset, -, hcall⟩ :=
      allocate_of_fits (hinv.placed hbase) hinv.used ⟨hsize, hvalid, hroom⟩
    rw [hcall] at hnull
    cases hnull

/-- An arena of 64 bytes on a machine with 32-bit sizes. -/
def smallArena : FixedArenaAllocator 32 := { storage := 0x1000, capacity := 64, maxAlign := 8 }

theorem smallArena_placed : smallArena.Placed := ⟨⟨3, rfl⟩, by decide, by decide⟩

/-- A word after a single byte skips to the next multiple of four. -/
theorem smallArena_word_after_byte :
    (smallArena.reset.allocateAll [⟨1, 1⟩]).region ⟨4, 4⟩ = some ⟨0x1004, 4⟩ ∧
      Disjoint (ArenaRegion.mk 0x1000 1).bytes (ArenaRegion.mk 0x1004 4).bytes := by
  have hregion : (smallArena.reset.allocateAll [⟨1, 1⟩]).region ⟨4, 4⟩ = some ⟨0x1004, 4⟩ := by
    decide
  obtain ⟨hdisjoint, -, -⟩ :=
    regions_inside_and_disjoint smallArena smallArena_placed [⟨1, 1⟩] ⟨4, 4⟩
  exact ⟨hregion, (hdisjoint _ hregion).2.2.2 _ (by decide)⟩

end FixedArenaAllocator

end AsterCtrl.Zephyr
