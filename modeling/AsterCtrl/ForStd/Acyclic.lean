import Mathlib.Data.Set.Finite.List
import Mathlib.Order.WellFoundedSet

/-!
# Relations without cycles

What an ordering by dependencies needs of a relation: among finitely many elements one is related
to none of the others, unless there is a cycle, and there is no cycle if a rank goes down along
the relation.
-/

namespace Relation

variable {α : Type*} {r : α → α → Prop}

/-- A relation without cycles has a last element in every finite set. -/
theorem exists_mem_forall_not (hacyclic : ∀ a, ¬TransGen r a a) {l : List α} (hne : l ≠ []) :
    ∃ a ∈ l, ∀ b ∈ l, ¬r a b := by
  have : IsStrictOrder α fun a b => TransGen r b a :=
    { irrefl := hacyclic
      trans := fun _ _ _ hab hbc => hbc.trans hab }
  have hwf := l.finite_toSet.wellFoundedOn (r := fun a b => TransGen r b a)
  obtain ⟨a, ha⟩ := List.exists_mem_of_ne_nil l hne
  obtain ⟨⟨a, ha⟩, -, hmin⟩ := hwf.has_min Set.univ ⟨⟨a, ha⟩, trivial⟩
  exact ⟨a, ha, fun b hb hab => hmin ⟨b, hb⟩ trivial (.single hab)⟩

/-- A rank that goes down along a relation goes down along its paths. -/
theorem TransGen.rank_lt {rank : α → Nat} (hrank : ∀ a b, r a b → rank b < rank a) {a b : α}
    (h : TransGen r a b) : rank b < rank a := by
  induction h with
  | single hab => exact hrank _ _ hab
  | tail _ hbc ih => exact (hrank _ _ hbc).trans ih

end Relation
