import Mathlib.Data.List.Chain
import Mathlib.Tactic.Common

/-!
# Runs of deterministic machines

A machine is a total step function `σ → α → σ`: the action carries everything that is
decided outside the machine (inputs, times, outcomes of writes), so a run is a `foldl`
over a list of actions and an endless run is a sequence of actions.  This file packages
the two inductions that every safety proof over runs needs: an invariant that each step
keeps, and an invariant that each step keeps as long as the step meets a side condition.
-/

namespace Machine

variable {σ α : Type*} (step : σ → α → σ)

/-- The state reached from `s` by performing the actions `as` in order. -/
def run (s : σ) (as : List α) : σ := as.foldl step s

variable (s : σ)

@[simp] theorem run_nil : run step s [] = s := rfl

@[simp] theorem run_cons (a : α) (as : List α) :
    run step s (a :: as) = run step (step s a) as := rfl

theorem run_append (as bs : List α) : run step s (as ++ bs) = run step (run step s as) bs := by
  simp only [run, List.foldl_append]

/-- A property that every step keeps holds after every run. -/
theorem run_invariant {I : σ → Prop} (hstep : ∀ s a, I s → I (step s a))
    {s : σ} (h : I s) (as : List α) : I (run step s as) := by
  induction as generalizing s with
  | nil => exact h
  | cons a as ih => exact ih (hstep s a h)

/-- Every action of the run meets the condition `P` in the state it is performed in. -/
def Along (P : σ → α → Prop) : σ → List α → Prop
  | _, [] => True
  | s, a :: as => P s a ∧ Along P (step s a) as

@[simp] theorem along_nil (P : σ → α → Prop) (s : σ) : Along step P s [] := trivial

@[simp] theorem along_cons (P : σ → α → Prop) (s : σ) (a : α) (as : List α) :
    Along step P s (a :: as) ↔ P s a ∧ Along step P (step s a) as := Iff.rfl

theorem along_of_forall {P : σ → α → Prop} (h : ∀ s a, P s a) (s : σ) (as : List α) :
    Along step P s as := by
  induction as generalizing s with
  | nil => trivial
  | cons a as ih => exact ⟨h s a, ih (step s a)⟩

/-- A condition on an element and the one before it, along a list that is a chain. -/
theorem along_of_isChain {R : α → α → Prop} {P : Option α → α → Prop}
    (hP : ∀ a b, R a b → P (some a) b) {last : Option α} {as : List α}
    (hhead : ∀ a ∈ as.head?, P last a) (hchain : as.IsChain R) :
    Along (fun _ a => some a) P last as := by
  induction as generalizing last with
  | nil => trivial
  | cons a as ih =>
    obtain ⟨hnext, hchain⟩ := List.isChain_cons.mp hchain
    exact ⟨hhead a rfl, ih (fun b hb => hP a b (hnext b hb)) hchain⟩

/-- The condition may be checked on the two halves of a run separately. -/
theorem along_append (P : σ → α → Prop) (s : σ) (as bs : List α) :
    Along step P s (as ++ bs) ↔ Along step P s as ∧ Along step P (run step s as) bs := by
  induction as generalizing s with
  | nil => simp
  | cons a as ih => simp only [List.cons_append, along_cons, ih, run_cons, and_assoc]

instance {P : σ → α → Prop} [∀ s a, Decidable (P s a)] (s : σ) (as : List α) :
    Decidable (Along step P s as) :=
  match as with
  | [] => isTrue trivial
  | a :: as =>
    haveI := instDecidableAlong (P := P) (step s a) as
    inferInstanceAs (Decidable (P s a ∧ Along step P (step s a) as))

/-- A property that every step meeting the condition keeps holds after every run whose
    steps all meet the condition. -/
theorem run_invariant_along {I : σ → Prop} {P : σ → α → Prop}
    (hstep : ∀ s a, I s → P s a → I (step s a))
    {s : σ} (h : I s) {as : List α} (hal : Along step P s as) : I (run step s as) := by
  induction as generalizing s with
  | nil => exact h
  | cons a as ih => exact ih (hstep s a h hal.1) hal.2

/-- If every step meeting one condition keeps an invariant and meets another condition, the
    first condition along a run gives the second. -/
theorem along_of_invariant {I : σ → Prop} {P Q : σ → α → Prop}
    (hstep : ∀ s a, I s → P s a → Q s a ∧ I (step s a))
    {s : σ} (h : I s) {as : List α} (hal : Along step P s as) : Along step Q s as := by
  induction as generalizing s with
  | nil => trivial
  | cons a as ih =>
    obtain ⟨hq, hinv⟩ := hstep s a h hal.1
    exact ⟨hq, ih hinv hal.2⟩

/-- What the calls of a run return, in their order; `out` is what one call returns. -/
def outputs {ω : Type*} (out : σ → α → ω) : σ → List α → List ω
  | _, [] => []
  | s, a :: as => out s a :: outputs out (step s a) as

variable {ω : Type*} (out : σ → α → ω)

@[simp] theorem outputs_nil (out : σ → α → ω) (s : σ) :
    outputs step out s [] = [] := rfl

@[simp] theorem outputs_cons (out : σ → α → ω) (s : σ) (a : α) (as : List α) :
    outputs step out s (a :: as) = out s a :: outputs step out (step s a) as := rfl

theorem outputs_append (out : σ → α → ω) (s : σ) (as bs : List α) :
    outputs step out s (as ++ bs) =
      outputs step out s as ++ outputs step out (run step s as) bs := by
  induction as generalizing s with
  | nil => rfl
  | cons a as ih => rw [List.cons_append, outputs_cons, outputs_cons, ih, run_cons, List.cons_append]

/-- States that a simulation relates cannot be told apart by calls. -/
theorem outputs_eq_of_simulation {out : σ → α → ω} {R : σ → σ → Prop}
    (hout : ∀ s t a, R s t → out s a = out t a) (hstep : ∀ s t a, R s t → R (step s a) (step t a))
    {s t : σ} (h : R s t) (as : List α) : outputs step out s as = outputs step out t as := by
  induction as generalizing s t with
  | nil => rfl
  | cons a as ih => rw [outputs_cons, outputs_cons, hout s t a h, ih (hstep s t a h)]

/-- The states of the endless run that performs `acts 0`, `acts 1`, ... -/
def trace (s : σ) (acts : ℕ → α) : ℕ → σ
  | 0 => s
  | t + 1 => step (trace s acts t) (acts t)

@[simp] theorem trace_zero (acts : ℕ → α) : trace step s acts 0 = s := rfl

@[simp] theorem trace_succ (acts : ℕ → α) (t : ℕ) :
    trace step s acts (t + 1) = step (trace step s acts t) (acts t) := rfl

/-- The endless run that performs the actions `as` and then an action without effect. -/
theorem trace_getD {skip : α} (hskip : ∀ s, step s skip = s) (s : σ) (as : List α) (t : ℕ) :
    trace step s (fun t => as.getD t skip) t = run step s (as.take t) := by
  induction t with
  | zero => simp
  | succ t ih =>
    rw [trace_succ, ih, List.take_add_one, run_append, List.getD_eq_getElem?_getD]
    cases as[t]? with
    | none => simpa using hskip _
    | some a => simp

variable {acts : ℕ → α}

/-- A property that every step of this run keeps holds in every state of the run. -/
theorem trace_invariant {I : σ → Prop} {s : σ} (h : I s)
    (hstep : ∀ t, I (trace step s acts t) → I (step (trace step s acts t) (acts t))) (t : ℕ) :
    I (trace step s acts t) := by
  induction t with
  | zero => exact h
  | succ t ih => exact hstep t ih

/-- A transitive relation between successive states relates any two states of the run. -/
theorem trace_mono {R : σ → σ → Prop} (hrefl : ∀ s, R s s) (htrans : ∀ a b c, R a b → R b c → R a c)
    {s : σ} (hstep : ∀ t, R (trace step s acts t) (step (trace step s acts t) (acts t))) {t u : ℕ}
    (htu : t ≤ u) : R (trace step s acts t) (trace step s acts u) := by
  induction htu with
  | refl => exact hrefl _
  | step _ ih => exact htrans _ _ _ ih (hstep _)

/-- While every step up to `u` leaves the state as it is, the run stays where it is. -/
theorem trace_eq_of_idle {s : σ} {t u : ℕ} (htu : t ≤ u)
    (hidle : ∀ v, t ≤ v → v < u → trace step s acts (v + 1) = trace step s acts v) :
    trace step s acts u = trace step s acts t := by
  induction htu with
  | refl => rfl
  | step hle ih =>
    exact (hidle _ hle (Nat.lt_succ_self _)).trans
      (ih fun v hv hlt => hidle v hv (Nat.lt_succ_of_lt hlt))

/-- Once no action of the run has an effect any more, the run stays where it is. -/
theorem trace_eq_of_fixed {s : σ} {n : ℕ}
    (hfix : ∀ u, step (trace step s acts n) (acts u) = trace step s acts n) {t : ℕ} (ht : n ≤ t) :
    trace step s acts t = trace step s acts n := by
  induction ht with
  | refl => rfl
  | step _ ih => rw [trace_succ, ih, hfix]

/-- Progress: if a step that does anything lowers the measure, and unless the goal is reached
    some action that does something in the present state is performed later, the run reaches
    the goal. -/
theorem trace_reaches {Done : σ → Prop} (μ : σ → ℕ) {s : σ}
    (hdown : ∀ t, trace step s acts (t + 1) = trace step s acts t ∨ μ (trace step s acts (t + 1)) <
      μ (trace step s acts t))
    (hfair : ∀ t, ¬ Done (trace step s acts t) → ∃ u ≥ t, step (trace step s acts t) (acts u) ≠
      trace step s acts t) : ∃ t, Done (trace step s acts t) := by
  by_contra hnot
  have hmono : ∀ t u, t ≤ u → μ (trace step s acts u) ≤ μ (trace step s acts t) := fun t u htu =>
    trace_mono step (R := fun a b => μ b ≤ μ a) (fun _ => Nat.le_refl _)
      (fun _ _ _ hab hbc => Nat.le_trans hbc hab)
      (fun t => (hdown t).elim (fun h => Nat.le_of_eq (congrArg μ h)) Nat.le_of_lt) htu
  -- As long as the goal is not reached the measure can be lowered once more.
  have hlower : ∀ t, ∃ v, μ (trace step s acts v) < μ (trace step s acts t) := by
    intro t
    obtain ⟨u, hu, hne⟩ := hfair t fun hd => hnot ⟨t, hd⟩
    by_contra hstuck
    have hidle : ∀ v, t ≤ v → trace step s acts (v + 1) = trace step s acts v := fun v hv =>
      (hdown v).resolve_right fun hlt => hstuck ⟨v + 1, Nat.lt_of_lt_of_le hlt (hmono t v hv)⟩
    have hstay := trace_eq_of_idle step hu fun v hv _ => hidle v hv
    refine hne ?_
    rw [← hstay]
    exact hidle u hu
  suffices h : ∀ n t, μ (trace step s acts t) ≠ n from h _ 0 rfl
  intro n
  induction n using Nat.strongRecOn with
  | ind n ih =>
    intro t ht
    obtain ⟨v, hv⟩ := hlower t
    exact ih _ (ht ▸ hv) v rfl

end Machine
