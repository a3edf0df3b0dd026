import Nlboot.Lib.Guards

/-!
# Computations that are killed

A process can be killed between any two of its events, and the next one starts from what it left.
What is said of events is untouched by that: a killed computation logs the beginning of its log.

* `runKilled`: the state after computations, each killed after a number of its events.

Results:
* **`invariant_runKilled`**: what guarded events keep, such a run keeps.
* **`exists_occurs_of_changed_killed`**: what holds after such a run and did not before came about
  at an event of one of its computations.
-/

namespace Nlboot.Lib.Act

variable {σ ε err α : Type} [Replay σ ε] {G : σ → ε → Prop} {I : σ → Prop} {s : σ}
  {x : Act σ err α}

/-! ## Guards of a part -/

@[simp] theorem guarded_ignore : GuardedFrom G s (ignore x) ↔ GuardedFrom G s x := Iff.rfl

theorem GuardedFrom.and {G' : σ → ε → Prop} (h : GuardedFrom G s x) (h' : GuardedFrom G' s x) :
    GuardedFrom (fun s e => G s e ∧ G' s e) s x :=
  fun before e hoccurs => ⟨h before e hoccurs, h' before e hoccurs⟩

/-- What guarded events keep holds before each of them if it holds in the beginning. -/
theorem GuardedFrom.before (h : GuardedFrom G s x)
    (hkeeps : ∀ s e, G s e → I s → I (Replay.apply s e)) {before : List ε} {e : ε}
    (hoccurs : x.Occurs s before e) (hI : I s) : I (replay s before) := by
  obtain ⟨after, hlog⟩ := hoccurs
  refine invariant_replay hkeeps (fun before' e' after' hsplit => ?_) hI
  exact h before' e' ⟨after' ++ e :: after, by rw [hlog, hsplit]; simp⟩

/-- It holds after any beginning of the log. -/
theorem GuardedFrom.killed (h : GuardedFrom G s x)
    (hkeeps : ∀ s e, G s e → I s → I (Replay.apply s e)) (n : Nat) (hI : I s) :
    I (replay s ((x s).2.take n)) := by
  refine invariant_replay hkeeps (fun before e after hsplit => ?_) hI
  refine h before e ⟨after ++ (x s).2.drop n, ?_⟩
  rw [← List.cons_append, ← List.append_assoc, ← hsplit, List.take_append_drop]

/-! ## Runs -/

/-- The state after the computations, each killed after that many of its events. -/
def runKilled (s : σ) (xs : List (Act σ err α × Nat)) : σ :=
  xs.foldl (fun s x => replay s ((x.1 s).2.take x.2)) s

@[simp] theorem runKilled_nil : runKilled s ([] : List (Act σ err α × Nat)) = s := rfl

@[simp] theorem runKilled_cons {n : Nat} {xs : List (Act σ err α × Nat)} :
    runKilled s ((x, n) :: xs) = runKilled (replay s ((x s).2.take n)) xs := rfl

/-- **What guarded events keep**, a run keeps, wherever its computations are killed. -/
theorem invariant_runKilled (hkeeps : ∀ s e, G s e → I s → I (Replay.apply s e)) :
    ∀ {xs : List (Act σ err α × Nat)} {s : σ}, (∀ x ∈ xs, ∀ s, I s → GuardedFrom G s x.1) → I s →
      I (runKilled s xs)
  | [], _, _, hI => hI
  | x :: xs, s, hxs, hI => by
    have hstep := (hxs x List.mem_cons_self s hI).killed hkeeps x.2 hI
    have hrest : ∀ y ∈ xs, ∀ s, I s → GuardedFrom G s y.1 :=
      fun y hy => hxs y (List.mem_cons_of_mem x hy)
    have hrun := invariant_runKilled hkeeps hrest hstep
    exact hrun

/-- **What holds after a run and did not before** came about at an event of one of its
computations, wherever they are killed. -/
theorem exists_occurs_of_changed_killed {P : σ → Prop} {xs : List (Act σ err α × Nat)} (h₀ : ¬ P s)
    (h : P (runKilled s xs)) :
    ∃ earlier x later before e, xs = earlier ++ x :: later ∧
      Occurs x.1 (runKilled s earlier) before e ∧
      ¬ P (replay (runKilled s earlier) before) ∧
      P (Replay.apply (replay (runKilled s earlier) before) e) := by
  induction xs generalizing s with
  | nil => exact absurd h h₀
  | cons x xs ih =>
    by_cases hx : P (replay s ((x.1 s).2.take x.2))
    · obtain ⟨before, e, after, hlog, hb, he⟩ := exists_event_of_changed h₀ hx
      refine ⟨[], x, xs, before, e, rfl, ⟨after ++ (x.1 s).2.drop x.2, ?_⟩, hb, he⟩
      rw [← List.cons_append, ← List.append_assoc, ← hlog, runKilled_nil, List.take_append_drop]
    · obtain ⟨earlier, y, later, before, e, rfl, hoccurs, hb, he⟩ := ih hx h
      exact ⟨x :: earlier, y, later, before, e, rfl, hoccurs, hb, he⟩

end Nlboot.Lib.Act
