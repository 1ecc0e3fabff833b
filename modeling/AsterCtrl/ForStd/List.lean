import Mathlib.Data.List.Chain
import Mathlib.Data.List.Induction

/-!
# Lists of indexed elements

A list of pairs `(i, x)` with increasing indices, where `x` is element `i` of another list,
lists that grow at the end, what two partial functions pick from a list, a list written over the
front of another, the number of elements with a property when one element changes, lists in which
elements are found by a key, what is kept of a list as a chain, folds that lose nothing, and lists
that are joined with a separator.
-/

namespace List

variable {α : Type*}

/-- Elements picked at increasing indices form a sublist. -/
theorem map_snd_sublist {l : List (Nat × α)} {xs : List α} (hlt : (l.map Prod.fst).Pairwise (· < ·))
    (hget : ∀ e ∈ l, xs[e.1]? = some e.2) : (l.map Prod.snd).Sublist xs := by
  -- from the right: what is picked before index `i` is picked from the first `i` elements
  induction l using List.reverseRecOn generalizing xs with
  | nil => exact nil_sublist _
  | append_singleton l e ih =>
    rw [map_append, pairwise_append] at hlt
    have hbefore : ∀ a ∈ l, a.1 < e.1 := fun a ha =>
      hlt.2.2 a.1 (mem_map_of_mem ha) e.1 (by simp)
    have hinit : (l.map Prod.snd).Sublist (xs.take e.1) := ih hlt.1 fun a ha => by
      rw [List.getElem?_take_of_lt (hbefore a ha)]
      exact hget a (mem_append_left _ ha)
    have hlast : [e.2].Sublist (xs.drop e.1) := by
      rw [singleton_sublist]
      refine mem_of_getElem? (i := 0) ?_
      rw [List.getElem?_drop, Nat.add_zero]
      exact hget e (by simp)
    have := hinit.append hlast
    rwa [take_append_drop, ← map_singleton (f := Prod.snd), ← map_append] at this

variable {l : List α} {a : α} {i : Nat}

/-- An element of a list with one more element is an old one or the new one. -/
theorem getElem?_concat_cases {b : α} (h : (l ++ [a])[i]? = some b) :
    l[i]? = some b ∨ i = l.length ∧ a = b := by
  rcases Nat.lt_or_ge i l.length with hi | hi
  · exact .inl (List.getElem?_append_left hi ▸ h)
  · rw [List.getElem?_append_right hi, List.getElem?_singleton] at h
    split at h
    · exact .inr ⟨by omega, Option.some.inj h⟩
    · cases h

variable {β : Type*} {f : α → Option β}

/-- Nothing is picked from a new last element. -/
theorem filterMap_concat_none (h : f a = none) : (l ++ [a]).filterMap f = l.filterMap f := by
  rw [filterMap_append, filterMap_cons_none h, filterMap_nil, append_nil]

/-- What one function picks from a list is a sublist of what another picks that agrees with it. -/
theorem filterMap_sublist_filterMap {g : α → Option β} (h : ∀ a ∈ l, g a = none ∨ f a = g a) :
    (l.filterMap g).Sublist (l.filterMap f) := by
  induction l with
  | nil => exact .slnil
  | cons a l ih =>
    have htail := ih fun b hb => h b (mem_cons_of_mem _ hb)
    rw [filterMap_cons, filterMap_cons]
    rcases h a (by simp) with hnone | heq
    · rw [hnone]
      cases f a with
      | none => exact htail
      | some b => exact htail.trans (sublist_cons_self _ _)
    · rw [heq]
      cases g a with
      | none => exact htail
      | some b => exact htail.cons_cons b

/-- Then both pick the same if and only if the other one picks nothing more. -/
theorem filterMap_eq_filterMap_iff {g : α → Option β} (h : ∀ a ∈ l, g a = none ∨ f a = g a) :
    l.filterMap f = l.filterMap g ↔ ∀ a ∈ l, g a = none → f a = none := by
  induction l with
  | nil => simp
  | cons a l ih =>
    have hl : ∀ b ∈ l, g b = none ∨ f b = g b := fun b hb => h b (mem_cons_of_mem _ hb)
    rw [forall_mem_cons, ← ih hl]
    cases hg : g a with
    | some b =>
      have hf : f a = some b := by
        rcases h a (by simp) with hnone | hsame
        · cases hg.symm.trans hnone
        · exact hsame.trans hg
      simp [hf, hg]
    | none =>
      cases hf : f a with
      | none => simp [hf, hg]
      | some b =>
        -- One element more than the other list can have.
        have hle := (filterMap_sublist_filterMap hl).length_le
        have hne : b :: l.filterMap f ≠ l.filterMap g := by
          intro heq
          have := congrArg List.length heq
          rw [length_cons] at this
          omega
        simp [hf, hg, hne]

/-- Writing a list over the front of another leaves the first `n` elements as they are exactly if
    what is written there is there already. -/
theorem take_append_drop_eq_take_iff {new old : List α} (h : new.length ≤ old.length) (n : Nat) :
    (new ++ old.drop new.length).take n = old.take n ↔ new.take n <+: old.take n := by
  have hsplit : (new ++ old.drop new.length).take n =
      new.take n ++ (old.drop new.length).take (n - new.length) := take_append
  have hlength : ((new ++ old.drop new.length).take n).length = (old.take n).length := by
    simp only [length_take, length_append, length_drop]
    omega
  constructor
  · intro heq
    rw [← heq, hsplit]
    exact prefix_append _ _
  · rintro ⟨rest, hrest⟩
    -- Behind what is written both lists go on with the same elements.
    refine ext_getElem? fun i => ?_
    rcases Nat.lt_or_ge i (new.take n).length with hi | hi
    · rw [hsplit, ← hrest, List.getElem?_append_left hi, List.getElem?_append_left hi]
    · rw [List.getElem?_take, List.getElem?_take]
      split_ifs with hn
      · rw [length_take] at hi
        rw [List.getElem?_append_right (by omega), List.getElem?_drop]
        congr 1
        omega
      · rfl

/-! ## Counting when one element changes -/

/-- An element at an index splits the list. -/
theorem eq_take_append_cons_drop (h : l[i]? = some a) : l = l.take i ++ a :: l.drop (i + 1) := by
  obtain ⟨hi, rfl⟩ := List.getElem?_eq_some_iff.mp h
  rw [← drop_eq_getElem_cons hi, take_append_drop]

theorem countP_set_add_ite (p : α → Bool) {old : α} (new : α) (h : l[i]? = some old) :
    (l.set i new).countP p + (if p old then 1 else 0) =
      l.countP p + (if p new then 1 else 0) := by
  obtain ⟨hi, -⟩ := List.getElem?_eq_some_iff.mp h
  rw [set_eq_take_append_cons_drop, if_pos hi]
  conv_rhs => rw [eq_take_append_cons_drop h]
  simp only [countP_append, countP_cons]
  omega

theorem countP_eraseIdx_add_ite (p : α → Bool) {old : α} (h : l[i]? = some old) :
    (l.eraseIdx i).countP p + (if p old then 1 else 0) = l.countP p := by
  rw [eraseIdx_eq_take_drop_succ]
  conv_rhs => rw [eq_take_append_cons_drop h]
  simp only [countP_append, countP_cons]
  omega

/-! ## Elements found by a key -/

/-- A change of the first element with a key, which keeps its key, is all that is found anew. -/
theorem find?_set_of_findFinIdx? {κ : Type*} [DecidableEq κ] {f : α → κ} {k : κ} {i : Fin l.length}
    (hi : l.findFinIdx? (fun a => f a = k) = some i) (ha : f a = k) (k' : κ) :
    (l.set i a).find? (fun b => f b = k') =
      if k' = k then some a else l.find? fun b => f b = k' := by
  induction l with
  | nil => exact i.elim0
  | cons b l ih =>
    rw [List.findFinIdx?_cons] at hi
    split_ifs at hi with hb
    · cases hi
      by_cases hk : k' = k
      · simp [hk, ha]
      · have hb' : f b = k := of_decide_eq_true hb
        simp [ha, hb', hk, Ne.symm hk]
    · obtain ⟨j, hj, rfl⟩ := Option.map_eq_some_iff.mp hi
      have hb' : f b ≠ k := fun h => hb (decide_eq_true h)
      have htail := ih hj
      by_cases hk : f b = k'
      · have hne : k' ≠ k := fun h => hb' (hk.trans h)
        simp [hk, hne]
      · simp [hk, htail]

/-- A new element at the end is found by its key, if no other has that key. -/
theorem find?_concat_of_find?_eq_none {κ : Type*} [DecidableEq κ] {f : α → κ}
    (h : l.find? (fun b => f b = f a) = none) (k : κ) :
    (l ++ [a]).find? (fun b => f b = k) =
      if k = f a then some a else l.find? fun b => f b = k := by
  rw [List.find?_append]
  by_cases hk : k = f a
  · rw [if_pos hk, hk, h]
    simp
  · have hnone : [a].find? (fun b => f b = k) = none := by simpa using Ne.symm hk
    rw [if_neg hk, hnone, Option.or_none]

variable {p : α → Bool}

theorem find?_of_findFinIdx? {i : Fin l.length} (hi : l.findFinIdx? p = some i) :
    l.find? p = some (l.get i) := by
  obtain ⟨hp, hbefore⟩ := List.findFinIdx?_eq_some_iff.mp hi
  rw [List.find?_eq_some_iff_getElem]
  exact ⟨hp, i, i.isLt, rfl, fun j hj => by
    simpa using hbefore ⟨j, Nat.lt_trans hj i.isLt⟩ hj⟩

theorem length_lt_concat (l : List α) (a : α) : l.length < (l ++ [a]).length := by
  rw [length_append]
  exact Nat.lt_succ_self _

/-- A new element at the end is the first with a property that no other has. -/
theorem findFinIdx?_concat (h : l.findFinIdx? p = none) (ha : p a = true) :
    (l ++ [a]).findFinIdx? p = some ⟨l.length, length_lt_concat l a⟩ := by
  refine List.findFinIdx?_eq_some_iff.mpr ⟨by simpa using ha, fun j hj => ?_⟩
  have hj : j.val < l.length := hj
  have hold := List.findFinIdx?_eq_none_iff.mp h _ (getElem_mem hj)
  simpa [getElem_append_left hj] using hold

theorem find?_of_findFinIdx?_eq_none (h : l.findFinIdx? p = none) :
    l.find? p = none :=
  List.find?_eq_none.mpr (List.findFinIdx?_eq_none_iff.mp h)

/-- The kept elements of a list are a chain when the relation holds between any two of them with
    nothing kept in between. -/
theorem isChain_filter_iff {R : α → α → Prop} :
    (l.filter p).IsChain R ↔ ∀ l₁ a between b l₂, l = l₁ ++ a :: (between ++ b :: l₂) →
      p a = true → p b = true → (∀ x ∈ between, ¬ p x = true) → R a b := by
  rw [isChain_iff_forall_rel_of_append_cons_cons]
  constructor
  · rintro h l₁ a between b l₂ rfl ha hb hbetween
    refine @h a b (l₁.filter p) (l₂.filter p) ?_
    rw [filter_append, filter_cons_of_pos ha, filter_append,
      filter_eq_nil_iff.mpr hbetween, nil_append, filter_cons_of_pos hb]
  · intro h a b kept₁ kept₂ hl
    obtain ⟨l₁, rest, rfl, -, hrest⟩ := filter_eq_append_iff.mp hl
    obtain ⟨before, rest, rfl, -, ha, hrest⟩ := filter_eq_cons_iff.mp hrest
    obtain ⟨between, l₂, rfl, hbetween, hb, -⟩ := filter_eq_cons_iff.mp hrest
    exact h (l₁ ++ before) a between b l₂ (append_assoc _ _ _).symm ha hb hbetween

/-- A fold in which no step loses anything tells apart lists that differ in one element. -/
theorem foldl_set_ne {f : β → α → β} (hstate : ∀ a, Function.Injective (f · a))
    (helement : ∀ b, Function.Injective (f b)) {old new : α} (hold : l[i]? = some old)
    (hne : new ≠ old) (start : β) : (l.set i new).foldl f start ≠ l.foldl f start := by
  -- the rest of the list is the same for both, and it keeps different states apart
  have hrest : ∀ l : List α, Function.Injective fun b => l.foldl f b := by
    intro l
    induction l with
    | nil => exact Function.injective_id
    | cons a l ih => exact fun b b' h => hstate a (ih h)
  induction l generalizing i start with
  | nil => cases hold
  | cons a l ih =>
    cases i with
    | zero =>
      obtain rfl := Option.some.inj hold
      exact fun h => hne (helement start (hrest l h))
    | succ i => exact ih hold (f start a)

/-- Joining the parts of two lists of parts. -/
theorem intercalate_append {separator : List α} {front back : List (List α)} (hfront : front ≠ [])
    (hback : back ≠ []) :
    separator.intercalate (front ++ back) =
      separator.intercalate front ++ separator ++ separator.intercalate back := by
  induction front with
  | nil => exact absurd rfl hfront
  | cons part front ih =>
    cases front with
    | nil =>
      obtain ⟨next, back, rfl⟩ := exists_cons_of_ne_nil hback
      rw [singleton_append, intercalate_cons_cons, intercalate_singleton]
    | cons next front =>
      rw [cons_append, cons_append, intercalate_cons_cons, ← cons_append,
        ih (cons_ne_nil _ _), intercalate_cons_cons]
      simp only [append_assoc]

end List
