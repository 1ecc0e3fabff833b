import AsterCtrl.Spec.Cli.Identifiers
import Mathlib.Data.Nat.Nth

/-!
# The numbering of named values

What `_assign_ids` returns for values with different names, as a function of the names and of the
identifiers that are given: a given identifier is kept, and the others are the identifiers that
are free, from the first automatic one upwards and in the order of the names.

The candidate of the loop only moves up, and it leaves no free identifier behind.  So the number of
free identifiers below the candidate is the number of those that have been handed out, and the next
one is the `Nat.nth` of the free ones with that index.

## Key results

- `assignLoop_nth`: the automatic identifiers of the loop
- `assignIds_eq_of_perm`: the order of the values does not matter
- `numbering`: all of it, for `_assign_ids`
-/

namespace AsterCtrl.Cli

open List Except

/-! ## The next free identifier -/

variable {used : List Nat}

/-- The loop passes over no identifier that is free. -/
theorem mem_of_lt_nextFree {fuel candidate id : Nat} (hle : candidate ≤ id)
    (hlt : id < nextFree used fuel candidate) : id ∈ used := by
  induction fuel generalizing candidate with
  | zero => exact absurd hlt (Nat.not_lt.mpr hle)
  | succ fuel ih =>
    unfold nextFree at hlt
    split_ifs at hlt with hused
    · rcases Nat.eq_or_lt_of_le hle with rfl | hle
      · exact hused
      · exact ih hle hlt
    · exact absurd hlt (Nat.not_lt.mpr hle)

theorem nextFree_congr {used' : List Nat} (h : ∀ id, id ∈ used ↔ id ∈ used') (fuel candidate : Nat) :
    nextFree used fuel candidate = nextFree used' fuel candidate := by
  induction fuel generalizing candidate with
  | zero => rfl
  | succ fuel ih => simp only [nextFree, h, ih]

/-- An identifier that the loop of `_assign_ids` may hand out. -/
def Free (explicit : List Nat) (first id : Nat) : Prop := first ≤ id ∧ id ∉ explicit

instance (explicit : List Nat) (first : Nat) : DecidablePred (Free explicit first) :=
  fun _ => inferInstanceAs (Decidable (_ ∧ _))

section Loop

variable {explicit used : List Nat} {first candidate : Nat}

/-- The next free identifier, if those that are used and not given are below the candidate. -/
theorem nextFree_free (hfirst : first ≤ candidate)
    (hused : ∀ id, candidate ≤ id → (id ∈ used ↔ id ∈ explicit)) :
    Free explicit first (nextFree used (used.length + 1) candidate) := by
  have hle := le_nextFree used (used.length + 1) candidate
  exact ⟨hfirst.trans hle, fun hmem =>
    nextFree_length_not_mem used candidate ((hused _ hle).mpr hmem)⟩

/-- No free identifier is between the candidate and the next free one. -/
theorem count_nextFree (first : Nat)
    (hused : ∀ id, candidate ≤ id → (id ∈ used ↔ id ∈ explicit)) :
    Nat.count (Free explicit first) (nextFree used (used.length + 1) candidate) =
      Nat.count (Free explicit first) candidate := by
  obtain ⟨n, hn⟩ := Nat.exists_eq_add_of_le (le_nextFree used (used.length + 1) candidate)
  rw [hn, Nat.count_add, Nat.add_eq_left, Nat.count_iff_forall_not.mpr]
  intro i hi hfree
  have hlt : candidate + i < nextFree used (used.length + 1) candidate := by omega
  have hle := Nat.le_add_right candidate i
  exact hfree.2 ((hused _ hle).mp (mem_of_lt_nextFree hle hlt))

/-- The names that have no identifier, in the order of the values. -/
def automaticNames (values : List (String × Option Nat)) : List String :=
  (values.filter fun value => value.2 = none).map Prod.fst

/-- The automatic identifiers of the loop are the free ones from the candidate upwards. -/
theorem assignLoop_nth {values : List (String × Option Nat)} (hfirst : first ≤ candidate)
    (hused : ∀ id, candidate ≤ id → (id ∈ used ↔ id ∈ explicit)) {i : Nat} {name : String}
    (hname : (automaticNames values)[i]? = some name) :
    (name, Nat.nth (Free explicit first) (Nat.count (Free explicit first) candidate + i)) ∈
      assignLoop values used candidate := by
  induction values generalizing used candidate i with
  | nil => cases hname
  | cons value values ih =>
    obtain ⟨valueName, _ | id⟩ := value
    · have hle := le_nextFree used (used.length + 1) candidate
      have hfree := nextFree_free hfirst hused
      have hcount := count_nextFree first hused
      rw [assignLoop]
      generalize nextFree used (used.length + 1) candidate = id at *
      cases i with
      | zero =>
        obtain rfl : valueName = name := by simpa [automaticNames] using hname
        have hnth := Nat.nth_count hfree
        rw [hcount] at hnth
        simp [hnth]
      | succ i =>
        -- The identifier that has been handed out is below the new candidate.
        have hused' : ∀ other, id + 1 ≤ other → (other ∈ id :: used ↔ other ∈ explicit) := by
          intro other hother
          rw [mem_cons, hused other (by omega)]
          exact or_iff_right (by omega)
        have hmem := ih (by omega) hused' (i := i) (by simpa [automaticNames] using hname)
        rw [Nat.count_succ, if_pos hfree, hcount] at hmem
        rw [show ∀ n, n + (i + 1) = n + 1 + i by omega]
        exact mem_cons_of_mem _ hmem
    · rw [assignLoop]
      exact mem_cons_of_mem _ (ih hfirst hused (by simpa [automaticNames] using hname))

end Loop

/-! ## What the loop keeps -/

theorem map_fst_assignLoop (values : List (String × Option Nat)) (used : List Nat)
    (candidate : Nat) : (assignLoop values used candidate).map Prod.fst = values.map Prod.fst := by
  induction values generalizing used candidate with
  | nil => rfl
  | cons value values ih => obtain ⟨name, _ | id⟩ := value <;> simp [assignLoop, ih]

variable {values : List (String × Option Nat)}

theorem mem_assignLoop_of_given {candidate : Nat} {name : String} {id : Nat}
    (h : (name, some id) ∈ values) : (name, id) ∈ assignLoop values used candidate := by
  induction values generalizing used candidate with
  | nil => cases h
  | cons value values ih =>
    rcases mem_cons.mp h with rfl | hmem
    · exact mem_cons_self
    · obtain ⟨_, _ | _⟩ := value <;> exact mem_cons_of_mem _ (ih hmem)

/-- The loop only asks which identifiers are used, and how many there are. -/
theorem assignLoop_eq_of_perm {used' : List Nat} (h : used.Perm used')
    (values : List (String × Option Nat)) (candidate : Nat) :
    assignLoop values used candidate = assignLoop values used' candidate := by
  induction values generalizing used used' candidate with
  | nil => rfl
  | cons value values ih =>
    obtain ⟨name, _ | id⟩ := value
    · simp only [assignLoop, h.length_eq, nextFree_congr fun _ => h.mem_iff]
      rw [ih (h.cons _)]
    · simp only [assignLoop, ih h]

/-! ## The order of the values -/

theorem unique_eq_of_perm {items items' : List String} (h : items.Perm items')
    (location : String) : unique items location = unique items' location := by
  refine refuseAny_congr (fun item => ?_) _
  simp only [mem_filter, h.mem_iff, h.count_eq]

theorem pairwise_insertionSort_fst {α : Type} (values : List (String × α)) :
    (values.insertionSort fun a b => a.1 ≤ b.1).Pairwise fun a b => a.1 ≤ b.1 := by
  have : Std.Total fun a b : String × α => a.1 ≤ b.1 := ⟨fun a b => le_total a.1 b.1⟩
  have : IsTrans (String × α) fun a b => a.1 ≤ b.1 := ⟨fun _ _ _ => le_trans⟩
  exact pairwise_insertionSort _ values

/-- Values with different names have one order. -/
theorem insertionSort_eq_of_perm {α : Type} {values values' : List (String × α)}
    (hnames : (values.map Prod.fst).Nodup) (h : values.Perm values') :
    (values.insertionSort fun a b => a.1 ≤ b.1) =
      values'.insertionSort fun a b => a.1 ≤ b.1 := by
  have hperm := (perm_insertionSort (fun a b : String × α => a.1 ≤ b.1) values).trans
    (h.trans (perm_insertionSort (fun a b : String × α => a.1 ≤ b.1) values').symm)
  refine hperm.eq_of_pairwise (fun a b ha hb hab hba => ?_)
    (pairwise_insertionSort_fst values) (pairwise_insertionSort_fst values')
  refine inj_on_of_nodup_map hnames ((mem_insertionSort _).mp ha)
    (h.mem_iff.mpr ((mem_insertionSort _).mp hb)) (le_antisymm hab hba)

/-- The result, or the text of the error, does not depend on the order of the values. -/
theorem assignIds_eq_of_perm {values' : List (String × Option Nat)}
    (hnames : (values.map Prod.fst).Nodup) (h : values.Perm values') (location : String)
    (first : Nat) : assignIds values location first = assignIds values' location first := by
  have hexplicit := h.filterMap Prod.snd
  rw [assignIds, assignIds, unique_eq_of_perm (hexplicit.map toString),
    insertionSort_eq_of_perm hnames h, assignLoop_eq_of_perm hexplicit]

/-! ## The numbering -/

/-- Numbers are told apart by their digits. -/
theorem toString_injective : Function.Injective (toString : Nat → String) := by
  intro a b h
  have hdigits : Nat.toDigits 10 a = Nat.toDigits 10 b := by
    refine String.ofList_injective ?_
    simpa [Nat.toString_eq_repr, Nat.repr_eq_ofList_toDigits] using h
  rw [← Nat.ofDigitChars_ten_toDigits (n := a), hdigits, Nat.ofDigitChars_ten_toDigits]

theorem assignIds_eq_ok {location : String} {first : Nat} {ids : List (String × Nat)} :
    assignIds values location first = .ok ids ↔
      (values.filterMap Prod.snd).Nodup ∧
        assignLoop (values.insertionSort fun a b => a.1 ≤ b.1) (values.filterMap Prod.snd) first =
          ids := by
  rw [assignIds, seq_eq_ok, unique_eq_ok, pure_eq_ok, nodup_map_iff toString_injective]

/-- `_assign_ids` fails only if two given identifiers are the same.  Otherwise it keeps those that
    are given and repeats none, and the values without one get the smallest that are free in the
    order of their names.  The order of the values does not matter. -/
theorem numbering (values : List (String × Option Nat)) (location : String) (first : Nat)
    (hnames : (values.map Prod.fst).Nodup) :
    ((∃ failure, assignIds values location first = .error failure) ↔
        ¬ (values.filterMap Prod.snd).Nodup) ∧
      (∀ ids, assignIds values location first = .ok ids →
        (ids.map Prod.fst).Perm (values.map Prod.fst) ∧
        (∀ name id, (name, some id) ∈ values → (name, id) ∈ ids) ∧
        (ids.map Prod.snd).Nodup ∧
        (∀ i name,
          (automaticNames (values.insertionSort fun a b => a.1 ≤ b.1))[i]? = some name →
            (name, Nat.nth (Free (values.filterMap Prod.snd) first) i) ∈ ids)) ∧
      ∀ values', values.Perm values' →
        assignIds values' location first = assignIds values location first := by
  refine ⟨?_, fun ids hids => ?_, fun values' h => (assignIds_eq_of_perm hnames h ..).symm⟩
  · cases hids : assignIds values location first with
    | error failure =>
      refine iff_of_true ⟨failure, rfl⟩ fun hnodup => ?_
      exact nomatch hids.symm.trans (assignIds_eq_ok.mpr ⟨hnodup, rfl⟩)
    | ok ids =>
      refine iff_of_false (fun ⟨_, h⟩ => nomatch h) ?_
      exact not_not_intro (assignIds_eq_ok.mp hids).1
  · have hsort := List.perm_insertionSort (fun a b => a.1 ≤ b.1) values
    have hassigned := assigned_of_assignIds hids
    obtain ⟨-, rfl⟩ := assignIds_eq_ok.mp hids
    refine ⟨?_, fun name id h => mem_assignLoop_of_given (hsort.mem_iff.mpr h),
      hassigned.distinct, fun i name hname => ?_⟩
    · rw [map_fst_assignLoop]
      exact hsort.map Prod.fst
    · have hbelow : Nat.count (Free (values.filterMap Prod.snd) first) first = 0 :=
        Nat.count_iff_forall_not.mpr fun id hid hfree => absurd hfree.1 (Nat.not_le.mpr hid)
      have hloop := assignLoop_nth (Nat.le_refl first)
        (fun id _ => (Iff.rfl : id ∈ values.filterMap Prod.snd ↔ _)) hname
      rwa [hbelow, Nat.zero_add] at hloop

/-- A given identifier in the middle of the automatic ones: `b` has 2, so that `a` gets 1 and `c`
    gets 3. -/
theorem numbering_gap :
    assignIds [("c", none), ("b", some 2), ("a", none)] "node" 1 =
        .ok [("a", 1), ("b", 2), ("c", 3)] ∧
      assignIds [("a", none), ("b", some 2), ("c", none)] "node" 1 =
        assignIds [("c", none), ("b", some 2), ("a", none)] "node" 1 :=
  ⟨by decide +kernel,
    (numbering [("c", none), ("b", some 2), ("a", none)] "node" 1 (by decide)).2.2 _
      (by decide)⟩

end AsterCtrl.Cli
