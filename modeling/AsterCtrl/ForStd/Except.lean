import Mathlib.Data.List.Forall2
import Mathlib.Tactic.Common

/-!
# Computations that may fail

A program that checks its input is a sequence of requirements and of computations over lists, each
of which may fail.  The lemmas say what it means that such a sequence succeeds, so that a proof
about accepted inputs takes a program apart from the front.
-/

namespace Except

open List

variable {ε α β : Type}

/-- Fails with an error unless a condition holds. -/
def require (p : Prop) [Decidable p] (error : ε) : Except ε Unit :=
  if p then .ok () else .error error

@[simp] theorem require_eq_ok {p : Prop} [Decidable p] {error : ε} {u : Unit} :
    require p error = .ok u ↔ p := by
  unfold require
  split_ifs with h
  · exact ⟨fun _ => h, fun _ => rfl⟩
  · exact ⟨nofun, fun hp => absurd hp h⟩

variable {f : α → Except ε β}

theorem bind_eq_ok {x : Except ε α} {b : β} : (x >>= f) = .ok b ↔ ∃ a, x = .ok a ∧ f a = .ok b := by
  cases x with
  | error e => exact ⟨nofun, by rintro ⟨a, h, -⟩; exact nomatch h⟩
  | ok a => exact ⟨fun h => ⟨a, rfl, h⟩, by rintro ⟨_, h, hf⟩; cases h; exact hf⟩

@[simp] theorem ok_bind (a : α) (f : α → Except ε β) : (Except.ok a >>= f) = f a := rfl

theorem mem_toOption {x : Except ε α} {a : α} : a ∈ x.toOption ↔ x = .ok a := by
  cases x with
  | error e => exact ⟨nofun, nofun⟩
  | ok b =>
    rw [Except.ok.injEq]
    exact Option.some_inj

theorem pure_eq_ok {a b : α} : (pure a : Except ε α) = .ok b ↔ a = b :=
  ⟨fun h => by cases h; rfl, fun h => by rw [h]; rfl⟩

/-- The first part of a sequence succeeds with a value that does not matter. -/
theorem seq_eq_ok {x : Except ε Unit} {y : Except ε β} {b : β} :
    (x >>= fun _ => y) = .ok b ↔ x = .ok () ∧ y = .ok b := by
  rw [bind_eq_ok]
  exact ⟨fun ⟨_, h, hy⟩ => ⟨h, hy⟩, fun ⟨h, hy⟩ => ⟨(), h, hy⟩⟩

variable {l : List α}

theorem forM_eq_ok {f : α → Except ε Unit} {u : Unit} :
    l.forM f = .ok u ↔ ∀ a ∈ l, f a = .ok () := by
  induction l with
  | nil => exact ⟨fun _ => by simp, fun _ => rfl⟩
  | cons a l ih =>
    rw [forall_mem_cons, ← ih]
    exact seq_eq_ok

variable {r : List β}

theorem mapM_eq_ok : l.mapM f = .ok r ↔ List.Forall₂ (fun a b => f a = .ok b) l r := by
  induction l generalizing r with
  | nil =>
    rw [mapM_nil, pure_eq_ok, List.forall₂_nil_left_iff]
    exact eq_comm
  | cons a l ih =>
    rw [mapM_cons, bind_eq_ok, List.forall₂_cons_left_iff]
    constructor
    · rintro ⟨b, hb, h⟩
      obtain ⟨bs, hbs, h⟩ := bind_eq_ok.mp h
      exact ⟨b, bs, hb, ih.mp hbs, (pure_eq_ok.mp h).symm⟩
    · rintro ⟨b, bs, hb, hbs, rfl⟩
      exact ⟨b, hb, bind_eq_ok.mpr ⟨bs, ih.mpr hbs, rfl⟩⟩

/-- A map of checks that each return what they were given in another form. -/
theorem mapM_eq_ok_iff_map {p : α → Prop} {g : α → β} (h : ∀ a b, f a = .ok b ↔ p a ∧ b = g a) :
    l.mapM f = .ok r ↔ (∀ a ∈ l, p a) ∧ r = l.map g := by
  rw [mapM_eq_ok]
  simp only [h]
  induction l generalizing r with
  | nil => simp
  | cons a l ih =>
    rw [List.forall₂_cons_left_iff, forall_mem_cons, map_cons]
    constructor
    · rintro ⟨b, r, ⟨ha, rfl⟩, hr, rfl⟩
      obtain ⟨hl, rfl⟩ := ih.mp hr
      exact ⟨⟨ha, hl⟩, rfl⟩
    · rintro ⟨⟨ha, hl⟩, rfl⟩
      exact ⟨_, _, ⟨ha, rfl⟩, ih.mpr ⟨hl, rfl⟩, rfl⟩

theorem mapM_congr {g : α → Except ε β} (h : ∀ a ∈ l, f a = g a) : l.mapM f = l.mapM g := by
  induction l with
  | nil => rfl
  | cons a l ih =>
    rw [mapM_cons, mapM_cons, h a mem_cons_self, ih fun b hb => h b (mem_cons_of_mem a hb)]

/-- A map succeeds if every application does. -/
theorem exists_mapM_eq_ok (h : ∀ a ∈ l, ∃ b, f a = .ok b) : ∃ r, l.mapM f = .ok r := by
  induction l with
  | nil => exact ⟨[], rfl⟩
  | cons a l ih =>
    obtain ⟨b, hb⟩ := h a mem_cons_self
    obtain ⟨r, hr⟩ := ih fun c hc => h c (mem_cons_of_mem a hc)
    exact ⟨b :: r, by rw [mapM_cons, hb, ok_bind, hr]; rfl⟩

/-- What every application keeps, the whole map keeps. -/
theorem map_eq_of_mapM {γ : Type*} (h : l.mapM f = .ok r) {g : α → γ} {k : β → γ}
    (hkeeps : ∀ a b, f a = .ok b → g a = k b) : l.map g = r.map k := by
  have hmapped := mapM_eq_ok.mp h
  clear h
  induction hmapped with
  | nil => rfl
  | cons hfirst _ ih => rw [map_cons, map_cons, hkeeps _ _ hfirst, ih]

/-- Every result of a successful `mapM` comes from an element of the list. -/
theorem exists_of_mem_mapM (h : l.mapM f = .ok r) {b : β} (hb : b ∈ r) : ∃ a ∈ l, f a = .ok b := by
  obtain ⟨i, hi, rfl⟩ := getElem_of_mem hb
  have hmapped := mapM_eq_ok.mp h
  have hlength := hmapped.length_eq
  exact ⟨_, getElem_mem (by omega), hmapped.get (by omega) hi⟩

/-- Every element of the list of a successful `mapM` has a result. -/
theorem exists_of_mem_of_mapM (h : l.mapM f = .ok r) {a : α} (ha : a ∈ l) :
    ∃ b ∈ r, f a = .ok b := by
  obtain ⟨i, hi, rfl⟩ := getElem_of_mem ha
  have hmapped := mapM_eq_ok.mp h
  have hlength := hmapped.length_eq
  exact ⟨_, getElem_mem (by omega), hmapped.get hi (by omega)⟩

/-! ## Errors -/

/-- Every error of a computation has a property. -/
def OnlyThrows (p : ε → Prop) (x : Except ε α) : Prop := ∀ error, x = .error error → p error

section Throws

variable {p : ε → Prop} {x : Except ε α} {f : α → Except ε β} {l : List α}

theorem onlyThrows_ok (a : α) : OnlyThrows p (.ok a : Except ε α) := nofun

theorem onlyThrows_pure (a : α) : OnlyThrows p (pure a : Except ε α) := nofun

theorem onlyThrows_error {error : ε} (h : p error) : OnlyThrows p (.error error : Except ε α) := by
  rintro _ ⟨⟩
  exact h

/-- The rule for a sequence: the second part is asked for if the first one succeeds. -/
theorem OnlyThrows.bind (hx : OnlyThrows p x) (hf : ∀ a, x = .ok a → OnlyThrows p (f a)) :
    OnlyThrows p (x >>= f) := by
  cases x with
  | error error => exact onlyThrows_error (hx error rfl)
  | ok a => exact hf a rfl

theorem onlyThrows_require {c : Prop} [Decidable c] {error : ε} (h : p error) :
    OnlyThrows p (require c error) := by
  unfold require
  split_ifs
  · exact onlyThrows_ok ()
  · exact onlyThrows_error h

theorem onlyThrows_forM {f : α → Except ε Unit} (h : ∀ a ∈ l, OnlyThrows p (f a)) :
    OnlyThrows p (l.forM f) := by
  induction l with
  | nil => exact onlyThrows_pure ()
  | cons a l ih =>
    exact (h a mem_cons_self).bind fun _ _ => ih fun b hb => h b (mem_cons_of_mem a hb)

theorem onlyThrows_mapM (h : ∀ a ∈ l, OnlyThrows p (f a)) : OnlyThrows p (l.mapM f) := by
  induction l with
  | nil => exact onlyThrows_pure []
  | cons a l ih =>
    rw [mapM_cons]
    refine (h a mem_cons_self).bind fun b _ => ?_
    exact (ih fun c hc => h c (mem_cons_of_mem a hc)).bind fun _ _ => onlyThrows_pure _

end Throws

end Except
