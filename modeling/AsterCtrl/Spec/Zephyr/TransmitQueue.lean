import Mathlib.Tactic.Common

/-!
# A queue in front of a controller

What the transmit queue of a CAN device is for: frames are admitted to a queue, and the first one
is offered to the controller when none is in flight.  The controller may accept it at once, and may
even complete it before the offer is over, so the frame leaves the queue only then.  A completion
takes place in two steps: the frame is no longer in flight, and it is counted.

The counters wrap around.  A frame that was admitted is counted when its fate is known: it was
completed, refused, or discarded when the queue was closed.

## Key results

- `Flight.step`: at most one frame is in the controller or about to be taken out of flight
- `conserved_step`: every frame is in the queue, in flight or counted, or about to be counted
- `order_step`: what the controller accepts is a subsequence of what was admitted
-/

namespace AsterCtrl.Zephyr

open List

/-- The life of the queue. -/
inductive QueueLife where
  /-- Nothing has been admitted. -/
  | fresh
  | running
  /-- Nothing is admitted any more. -/
  | closing
  | closed
deriving DecidableEq, Repr

/-- What the owner of the queue is doing with its first frame. -/
inductive Offer (φ : Type) where
  | idle
  /-- The controller has not answered. -/
  | offered (frame : φ)
  /-- The controller has accepted the frame, which is still in the queue. -/
  | accepted (frame : φ)
deriving DecidableEq, Repr

structure TransmitQueue (φ : Type) where
  life : QueueLife
  queue : List φ
  inFlight : Bool
  offer : Offer φ
  /-- The frames that the controller has accepted and not begun to complete. -/
  controller : List φ
  /-- The completions that have begun, and those that have taken a frame out of flight. -/
  completing : Nat
  counting : Nat
  /-- The number of frames that were admitted and of those whose fate is known. -/
  frames : UInt32
  settled : UInt32
  /-- All frames that were ever admitted to the queue and accepted by the controller. -/
  admitted : List φ
  accepted : List φ

namespace TransmitQueue

variable {φ : Type}

/-- What can happen to the queue. -/
inductive Step : TransmitQueue φ → TransmitQueue φ → Prop
  | stay (q) : Step q q
  | start (q) (life : QueueLife) (hfresh : q.life = .fresh)
      (hlife : life = .fresh ∨ life = .running) :
      Step q { q with life := life, queue := [], inFlight := false }
  | admitFrame (q) (frame : φ) (hrunning : q.life = .running) (hidle : q.offer = .idle) :
      Step q { q with
        queue := q.queue ++ [frame], frames := q.frames + 1, admitted := q.admitted ++ [frame] }
  | offer (q) (frame : φ) (rest : List φ) (hrunning : q.life = .running) (hidle : q.offer = .idle)
      (hqueue : q.queue = frame :: rest) (hflight : q.inFlight = false) :
      Step q { q with inFlight := true, offer := .offered frame }
  | accept (q) (frame : φ) (hoffer : q.offer = .offered frame) :
      Step q { q with
        offer := .accepted frame
        controller := q.controller ++ [frame], accepted := q.accepted ++ [frame] }
  | take (q) (frame : φ) (hoffer : q.offer = .accepted frame) :
      Step q { q with queue := q.queue.tail, offer := .idle }
  | postpone (q) (frame : φ) (hoffer : q.offer = .offered frame) :
      Step q { q with inFlight := false, offer := .idle }
  | refuse (q) (frame : φ) (hoffer : q.offer = .offered frame) :
      Step q { q with
        queue := q.queue.tail, inFlight := false, offer := .idle, settled := q.settled + 1 }
  | discard (q) (hlife : q.life = .running ∨ q.life = .closing) (hidle : q.offer = .idle) :
      Step q { q with
        life := .closing, queue := [], settled := q.settled + UInt32.ofNat q.queue.length }
  | close (q) (hidle : q.offer = .idle) :
      Step q { q with
        life := .closed, inFlight := false
        settled := if q.inFlight then q.settled + 1 else q.settled }
  | complete (q) (index : Nat) (hindex : index < q.controller.length) :
      Step q { q with controller := q.controller.eraseIdx index, completing := q.completing + 1 }
  /-- A completion that does not take a frame out of flight. -/
  | leave (q) (count : Nat) (hcount : q.completing = count + 1) :
      Step q { q with completing := count }
  | clear (q) (count : Nat) (hcount : q.completing = count + 1) (hflight : q.inFlight = true) :
      Step q { q with completing := count, inFlight := false, counting := q.counting + 1 }
  | settle (q) (count : Nat) (hcount : q.counting = count + 1) :
      Step q { q with counting := count, settled := q.settled + 1 }

variable {q q' : TransmitQueue φ}

theorem Step.of_eq {q'' : TransmitQueue φ} (h : Step q q') (heq : q'' = q') : Step q q'' :=
  heq ▸ h

/-- The frames of the queue that the controller has not accepted. -/
def waiting (q : TransmitQueue φ) : List φ :=
  match q.offer with
  | .accepted _ => q.queue.tail
  | _ => q.queue

/-- The frames in the queue, in flight and counted, and those that are about to be counted. -/
def total (q : TransmitQueue φ) : UInt32 :=
  q.settled + UInt32.ofNat q.queue.length + (if q.inFlight then 1 else 0) + UInt32.ofNat q.counting

/-- The first frame counts twice while it is both in the queue and in flight. -/
def surplus (q : TransmitQueue φ) : UInt32 :=
  match q.offer with
  | .idle => 0
  | _ => 1

/-- The frames whose completion may still take a frame out of flight. -/
def outstanding (q : TransmitQueue φ) : Nat := q.controller.length + q.completing

/-- How the frames in the controller, the flag and the offer go together. -/
structure Flight (q : TransmitQueue φ) : Prop where
  outstanding_le : q.outstanding ≤ 1
  grounded : q.life ≠ .closed → q.inFlight = false → q.outstanding = 0
  fresh : q.life = .fresh → q.queue = [] ∧ q.inFlight = false ∧ q.offer = .idle
  offered : ∀ frame, q.offer = .offered frame →
    q.life = .running ∧ q.inFlight = true ∧ q.outstanding = 0 ∧ ∃ rest, q.queue = frame :: rest
  accepted : ∀ frame, q.offer = .accepted frame →
    q.life = .running ∧ ∃ rest, q.queue = frame :: rest

structure Inv (q : TransmitQueue φ) : Prop where
  flight : q.Flight
  conserved : q.frames + q.surplus = q.total
  order : (q.accepted ++ q.waiting).Sublist q.admitted

theorem Flight.step (h : Flight q) (hstep : Step q q') : Flight q' := by
  obtain ⟨hle, hgrounded, hfresh, hoffered, haccepted⟩ := h
  cases hstep with
  | stay | settle => exact ⟨hle, hgrounded, hfresh, hoffered, haccepted⟩
  | start life hf hlife =>
    obtain ⟨-, hdown, hidle⟩ := hfresh hf
    have hlife : q.life ≠ .closed := by simp [hf]
    exact ⟨hle, fun _ _ => hgrounded hlife hdown, fun _ => ⟨rfl, rfl, hidle⟩, by simp [hidle],
      by simp [hidle]⟩
  | admitFrame frame hrunning hidle =>
    exact ⟨hle, hgrounded, by simp [hrunning], by simp [hidle], by simp [hidle]⟩
  | offer frame rest hrunning hidle hqueue hdown =>
    have hnone := hgrounded (by simp [hrunning]) hdown
    refine ⟨hle, by simp, by simp [hrunning], ?_, by simp⟩
    rintro _ ⟨⟩
    exact ⟨hrunning, rfl, hnone, rest, hqueue⟩
  | accept frame hoffer =>
    obtain ⟨hrunning, hup, hnone, rest, hqueue⟩ := hoffered frame hoffer
    simp only [outstanding] at hnone
    refine ⟨?_, by simp [hup], by simp [hrunning], by simp, ?_⟩
    · simp only [outstanding, length_append, length_singleton]
      omega
    · rintro _ ⟨⟩
      exact ⟨hrunning, rest, hqueue⟩
  | take frame hoffer =>
    obtain ⟨hrunning, -⟩ := haccepted frame hoffer
    exact ⟨hle, hgrounded, by simp [hrunning], by simp, by simp⟩
  | postpone frame hoffer | refuse frame hoffer =>
    obtain ⟨hrunning, -, hnone, -⟩ := hoffered frame hoffer
    exact ⟨hle, fun _ _ => hnone, by simp [hrunning], by simp, by simp⟩
  | discard hlife hidle =>
    have hlife : q.life ≠ .closed := by rcases hlife with h | h <;> simp [h]
    exact ⟨hle, fun _ => hgrounded hlife, by simp, by simp [hidle], by simp [hidle]⟩
  | close hidle => exact ⟨hle, by simp, by simp, by simp [hidle], by simp [hidle]⟩
  | complete index hindex =>
    -- The frame goes from the controller to the completions.
    have hsame : (q.controller.eraseIdx index).length + (q.completing + 1) = q.outstanding := by
      rw [length_eraseIdx_of_lt hindex, outstanding]
      omega
    refine ⟨Nat.le_trans (Nat.le_of_eq hsame) hle,
      fun hlife hdown => hsame.trans (hgrounded hlife hdown), hfresh, fun frame hoffer => ?_,
      haccepted⟩
    obtain ⟨hrunning, hup, hnone, hqueue⟩ := hoffered frame hoffer
    exact ⟨hrunning, hup, hsame.trans hnone, hqueue⟩
  | leave count hcount =>
    -- Something is outstanding, so the frame is in flight and not offered.
    have hsome : q.outstanding ≠ 0 := by
      rw [outstanding, hcount]
      omega
    refine ⟨?_, fun hlife hdown => absurd (hgrounded hlife hdown) hsome, hfresh,
      fun frame hoffer => absurd (hoffered frame hoffer).2.2.1 hsome, haccepted⟩
    simp only [outstanding] at hle ⊢
    omega
  | clear count hcount hup =>
    have hnone : q.controller.length + count = 0 := by
      simp only [outstanding] at hle
      omega
    have hsome : q.outstanding ≠ 0 := by
      rw [outstanding, hcount]
      omega
    refine ⟨Nat.le_succ_of_le (Nat.le_of_eq hnone), fun _ _ => hnone, ?_,
      fun frame hoffer => absurd (hoffered frame hoffer).2.2.1 hsome, haccepted⟩
    exact fun hlife => ⟨(hfresh hlife).1, rfl, (hfresh hlife).2.2⟩

/-- A frame that was admitted is counted once. -/
theorem conserved_step (hflight : Flight q) (h : q.frames + q.surplus = q.total) (hstep : Step q q') :
    q'.frames + q'.surplus = q'.total := by
  have hsucc (n : Nat) : UInt32.ofNat (n + 1) = UInt32.ofNat n + 1 := UInt32.ofNat_add n 1
  have hzero : UInt32.ofNat 0 = 0 := rfl
  cases hstep with
  | stay => exact h
  | start life hf hlife =>
    obtain ⟨hqueue, hdown, hidle⟩ := hflight.fresh hf
    simpa [total, surplus, hqueue, hdown, hidle] using h
  | admitFrame frame hrunning hidle =>
    simp only [total, surplus, hidle, length_append, length_singleton, hsucc] at h ⊢
    grind
  | offer frame rest hrunning hidle hqueue hdown =>
    simp only [total, surplus, hidle, hdown, Bool.false_eq_true, if_false, if_true] at h ⊢
    grind
  | accept frame hoffer =>
    simpa only [total, surplus, hoffer] using h
  | take frame hoffer =>
    obtain ⟨-, rest, hqueue⟩ := hflight.accepted frame hoffer
    simp only [total, surplus, hoffer, hqueue, length_cons, tail_cons, hsucc] at h ⊢
    grind
  | postpone frame hoffer =>
    obtain ⟨-, hup, -, -⟩ := hflight.offered frame hoffer
    simp only [total, surplus, hoffer, hup, Bool.false_eq_true, if_false, if_true] at h ⊢
    grind
  | refuse frame hoffer =>
    obtain ⟨-, hup, -, rest, hqueue⟩ := hflight.offered frame hoffer
    simp only [total, surplus, hoffer, hup, hqueue, length_cons, tail_cons, hsucc,
      Bool.false_eq_true, if_false, if_true] at h ⊢
    grind
  | discard hlife hidle =>
    simp only [total, surplus, hidle, length_nil, hzero] at h ⊢
    grind
  | close hidle =>
    cases hup : q.inFlight <;> simp only [total, surplus, hidle, hup, Bool.false_eq_true, if_false,
      if_true] at h ⊢ <;> grind
  | complete index hindex => exact h
  | leave count hcount => exact h
  | clear count hcount hup =>
    simp only [total, surplus, hup, hsucc, Bool.false_eq_true, if_false, if_true] at h ⊢
    grind
  | settle count hcount =>
    simp only [total, surplus, hcount, hsucc] at h ⊢
    grind

/-- The controller gets the frames in the order in which they were admitted. -/
theorem order_step (hflight : Flight q) (h : (q.accepted ++ q.waiting).Sublist q.admitted)
    (hstep : Step q q') : (q'.accepted ++ q'.waiting).Sublist q'.admitted := by
  cases hstep with
  | stay | complete | leave | clear | settle | close => exact h
  | start life hf hlife =>
    obtain ⟨hqueue, -, hidle⟩ := hflight.fresh hf
    simpa [waiting, hqueue, hidle] using h
  | admitFrame frame hrunning hidle =>
    simp only [waiting, hidle, ← append_assoc] at h ⊢
    exact h.append_right _
  | offer frame rest hrunning hidle hqueue hdown =>
    simpa only [waiting, hidle] using h
  | accept frame hoffer =>
    obtain ⟨-, -, -, rest, hqueue⟩ := hflight.offered frame hoffer
    simpa [waiting, hoffer, hqueue] using h
  | take frame hoffer =>
    simpa only [waiting, hoffer] using h
  | postpone frame hoffer =>
    simpa only [waiting, hoffer] using h
  | refuse frame hoffer =>
    simp only [waiting, hoffer] at h ⊢
    exact ((tail_sublist _).append_left _).trans h
  | discard hlife hidle =>
    simp only [waiting, hidle, append_nil] at h ⊢
    exact (sublist_append_left _ _).trans h

/-- The steps keep the invariant. -/
theorem Inv.step (h : Inv q) (hstep : Step q q') : Inv q' :=
  ⟨h.flight.step hstep, conserved_step h.flight h.conserved hstep,
    order_step h.flight h.order hstep⟩

end TransmitQueue

end AsterCtrl.Zephyr
