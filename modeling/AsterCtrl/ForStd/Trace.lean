import Mathlib.Tactic.Common

/-!
# Conditions on the events of a trace

What may happen often depends on what has happened before: this only once, that only after
something else, nothing after the end.  `Each P t` says that every event of the trace `t` meets
the condition `P` with respect to the events before it.  A trace grows at its end, so the rules
are about appending.
-/

namespace Trace

variable {α : Type*} {P Q : List α → α → Prop} {t : List α}

/-- Every event meets the condition, given the events before it. -/
def Each (P : List α → α → Prop) (t : List α) : Prop :=
  ∀ past e future, t = past ++ e :: future → P past e

@[simp] theorem each_nil : Each P [] := by
  intro past e future h
  simp at h

@[simp] theorem each_concat {e : α} : Each P (t ++ [e]) ↔ Each P t ∧ P t e := by
  constructor
  · intro h
    refine ⟨fun past e' future heq => h past e' (future ++ [e]) (by simp [heq]), ?_⟩
    exact h t e [] rfl
  · rintro ⟨h, he⟩ past e' future heq
    rcases List.eq_nil_or_concat future with rfl | ⟨future, last, rfl⟩
    · obtain ⟨rfl, hlast⟩ := List.append_inj' heq rfl
      rwa [← List.singleton_inj.mp hlast]
    · refine h past e' future ?_
      rw [List.concat_eq_append, ← List.cons_append, ← List.append_assoc] at heq
      exact (List.append_inj' heq rfl).1

/-- The next event is looked at with one more event behind it. -/
theorem each_append_cons {e : α} {u : List α} : Each P (t ++ e :: u) ↔ Each P (t ++ [e] ++ u) := by
  rw [List.append_assoc, List.singleton_append]

theorem Each.mono (h : Each P t) (hPQ : ∀ past e, P past e → Q past e) : Each Q t :=
  fun past e future heq => hPQ past e (h past e future heq)

theorem Each.and (hP : Each P t) (hQ : Each Q t) : Each (fun past e => P past e ∧ Q past e) t :=
  fun past e future heq => ⟨hP past e future heq, hQ past e future heq⟩

end Trace
