import Mathlib.Data.List.Perm.Basic
import Mathlib.Data.Multiset.AddSub
import Mathlib.Data.Multiset.MapFold

/-!
# Arrays of slots

A fixed array of slots, some of which are occupied.  What the array stores is the multiset of its
occupied slots; where they are does not matter.  The lemmas say what filling, clearing and
replacing a slot does to it.
-/

namespace Slots

variable {α : Type*} {occupied : α → Bool}

/-- The contents of the occupied slots. -/
def stored (occupied : α → Bool) (slots : List α) : Multiset α := slots.filter occupied

variable {slots : List α}

@[simp] theorem mem_stored {a : α} : a ∈ stored occupied slots ↔ a ∈ slots ∧ occupied a = true := by
  rw [stored, Multiset.mem_coe, List.mem_filter]

variable {i : Nat} {old : α}

/-- What replacing the contents of one slot does. -/
theorem stored_set (occupied : α → Bool) (h : slots[i]? = some old) (new : α) :
    stored occupied [old] + stored occupied (slots.set i new) =
      stored occupied [new] + stored occupied slots := by
  have hperm := (List.getD_set_perm_cons slots i new).filter occupied
  rw [h, Option.getD_some] at hperm
  simp only [stored]
  rw [Multiset.coe_add, Multiset.coe_add, Multiset.coe_eq_coe, ← List.filter_append,
    ← List.filter_append]
  exact hperm

theorem stored_singleton_of_occupied {a : α} (h : occupied a = true) :
    stored occupied [a] = {a} := by
  rw [stored, List.filter_cons_of_pos h]
  rfl

theorem stored_singleton_of_free {a : α} (h : occupied a = false) : stored occupied [a] = 0 := by
  rw [stored, List.filter_cons_of_neg (by simp [h])]
  rfl

/-- A free slot is filled. -/
theorem stored_fill {new : α} (h : slots[i]? = some old) (hold : occupied old = false)
    (hnew : occupied new = true) :
    stored occupied (slots.set i new) = new ::ₘ stored occupied slots := by
  have := stored_set occupied h new
  rwa [stored_singleton_of_free hold, stored_singleton_of_occupied hnew, Multiset.zero_add,
    Multiset.singleton_add] at this

/-- An occupied slot is cleared. -/
theorem stored_clear {new : α} (h : slots[i]? = some old) (hold : occupied old = true)
    (hnew : occupied new = false) :
    stored occupied slots = old ::ₘ stored occupied (slots.set i new) := by
  have := stored_set occupied h new
  rw [stored_singleton_of_occupied hold, stored_singleton_of_free hnew, Multiset.zero_add,
    Multiset.singleton_add] at this
  exact this.symm

/-- The contents of an occupied slot change. -/
theorem stored_replace (occupied : α → Bool) (new free : α) (h : slots[i]? = some old)
    (hold : occupied old = true) (hnew : occupied new = true) (hfree : occupied free = false) :
    ∃ rest, stored occupied slots = old ::ₘ rest ∧
      stored occupied (slots.set i new) = new ::ₘ rest := by
  -- Clear the slot first, then fill it.
  refine ⟨stored occupied (slots.set i free), stored_clear h hold hfree, ?_⟩
  have hi : i < slots.length := (List.getElem?_eq_some_iff.mp h).1
  rw [← stored_fill (List.getElem?_set_self hi) hfree hnew, List.set_set]

/-- An array that stores less than it has slots has a free slot. -/
theorem exists_free (h : Multiset.card (stored occupied slots) ≠ slots.length) :
    ∃ i old, slots.findIdx? (fun a => !occupied a) = some i ∧ slots[i]? = some old ∧
      occupied old = false := by
  cases hfind : slots.findIdx? (fun a => !occupied a) with
  | none =>
    refine absurd ?_ h
    have hall : ∀ a ∈ slots, occupied a = true := by
      simpa using List.findIdx?_eq_none_iff.mp hfind
    rw [stored, List.filter_eq_self.mpr hall, Multiset.coe_card]
  | some i =>
    obtain ⟨hi, hfree, -⟩ := List.findIdx?_eq_some_iff_getElem.mp hfind
    exact ⟨i, slots[i], rfl, List.getElem?_eq_getElem hi, by simpa using hfree⟩

end Slots
