import AsterCtrl.ForStd.Run

/-!
# Machines that read in chunks

A machine reads a stream of symbols, which is handed over in chunks.  A step may fail; the symbol
counts as read, but the rest of the chunk is dropped.

## Key results

- `feed_eq_run`: when nothing is dropped, how the stream is cut makes no difference
- `feed_of_clean`: neither does it up to the first failure
-/

namespace Chunks

variable {σ α : Type*} (step : σ → α → σ × Bool)

/-- The state after a symbol, whether or not the step fails. -/
def next (s : σ) (a : α) : σ := (step s a).1

/-- Read one chunk: the state at its end, and what was dropped. -/
def readChunk (s : σ) : List α → σ × List α
  | [] => (s, [])
  | a :: as => if (step s a).2 then (next step s a, as) else readChunk (next step s a) as

/-- Read chunk after chunk. -/
def feed (s : σ) (chunks : List (List α)) : σ :=
  Machine.run (fun s chunk => (readChunk step s chunk).1) s chunks

/-- No chunk is read only in part. -/
def NothingDropped (s : σ) (chunks : List (List α)) : Prop :=
  Machine.Along (fun s chunk => (readChunk step s chunk).1)
    (fun s chunk => (readChunk step s chunk).2 = []) s chunks

/-- No step fails. -/
def Clean (s : σ) (as : List α) : Prop :=
  Machine.Along (next step) (fun s a => (step s a).2 = false) s as

variable {step}

/-- A property that every step keeps is kept by reading a chunk. -/
theorem readChunk_invariant {I : σ → Prop} (hstep : ∀ s a, I s → I (next step s a)) {s : σ}
    (h : I s) (as : List α) : I (readChunk step s as).1 := by
  induction as generalizing s with
  | nil => exact h
  | cons a as ih =>
    rw [readChunk]
    split
    · exact hstep s a h
    · exact ih (hstep s a h)

theorem readChunk_append_of_clean {s : σ} {as : List α} (h : Clean step s as) (bs : List α) :
    readChunk step s (as ++ bs) = readChunk step (Machine.run (next step) s as) bs := by
  induction as generalizing s with
  | nil => rfl
  | cons a as ih =>
    rw [List.cons_append, readChunk, if_neg (by rw [h.1]; exact Bool.false_ne_true)]
    exact ih h.2

theorem readChunk_of_dropped_nil {s : σ} {as : List α} (h : (readChunk step s as).2 = []) :
    (readChunk step s as).1 = Machine.run (next step) s as := by
  induction as generalizing s with
  | nil => rfl
  | cons a as ih =>
    rw [readChunk] at h ⊢
    split at h
    · -- The failing step is the last one of the chunk.
      rename_i hfails
      obtain rfl : as = [] := h
      rw [if_pos hfails]
      rfl
    · rename_i hgoes
      rw [if_neg hgoes]
      exact ih h

/-- When nothing is dropped, reading the chunks is reading the stream. -/
theorem feed_eq_run {s : σ} {chunks : List (List α)} (h : NothingDropped step s chunks) :
    feed step s chunks = Machine.run (next step) s chunks.flatten := by
  induction chunks generalizing s with
  | nil => rfl
  | cons chunk chunks ih =>
    rw [List.flatten_cons, Machine.run_append, ← readChunk_of_dropped_nil h.1]
    exact ih h.2

/-- However the stream is cut, the symbols before the first failure are read, and what follows
    them is read in chunks. -/
theorem feed_of_clean {s : σ} {as bs : List α} (h : Clean step s as) {chunks : List (List α)}
    (hstream : chunks.flatten = as ++ bs) :
    ∃ chunks', chunks'.flatten = bs ∧
      feed step s chunks = feed step (Machine.run (next step) s as) chunks' := by
  induction chunks generalizing s as with
  | nil =>
    obtain ⟨rfl, rfl⟩ := List.append_eq_nil_iff.mp hstream.symm
    exact ⟨[], rfl, rfl⟩
  | cons chunk chunks ih =>
    rw [List.flatten_cons] at hstream
    rcases List.append_eq_append_iff.mp hstream with ⟨as', rfl, hrest⟩ | ⟨bs', rfl, rfl⟩
    · -- The chunk ends before the clean part does.
      have hclean := (Machine.along_append _ _ _ _ _).mp h
      have hchunk : (readChunk step s chunk).1 = Machine.run (next step) s chunk := by
        have := readChunk_append_of_clean hclean.1 []
        rw [List.append_nil] at this
        rw [this]
        rfl
      obtain ⟨chunks', hflatten, hfeed⟩ := ih hclean.2 hrest
      refine ⟨chunks', hflatten, ?_⟩
      rw [Machine.run_append, ← hfeed, ← hchunk]
      rfl
    · refine ⟨bs' :: chunks, rfl, ?_⟩
      show feed step (readChunk step s (as ++ bs')).1 chunks = _
      rw [readChunk_append_of_clean h]
      rfl

end Chunks
