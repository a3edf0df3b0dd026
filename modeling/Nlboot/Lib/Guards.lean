import Nlboot.Lib.Act

/-!
# Guarded events

What a computation checks before it acts, said of its events: `GuardedFrom G s x` if every event
that `x` logs from `s` on comes in a state that `G` allows it in. A guard is what an invariant needs
to know of a computation, and unlike a triple it can be asked for from the middle of a run on.

* `GuardedFrom G s x`: the judgement.
* `guarded_bind`, `guarded_except_bind`, `guarded_emit`, …: one rule for each way to build a
  computation.
* **`GuardedFrom.after`**: what guarded events keep, and one event of the run established, holds in
  the end.
-/

namespace Nlboot.Lib.Act

variable {σ ε err α β : Type} [Replay σ ε] {G : σ → ε → Prop} {s : σ} {x : Act σ err α}
  {f : α → Act σ err β}

/-- Every event the computation logs from `s` on comes where it is allowed. -/
def GuardedFrom (G : σ → ε → Prop) (s : σ) (x : Act σ err α) : Prop :=
  ∀ before e, x.Occurs s before e → G (replay s before) e

theorem guarded_pure {a : α} : GuardedFrom G s (pure a : Act σ err α) :=
  fun _ _ h => absurd h not_occurs_pure

theorem guarded_fail {e : err} : GuardedFrom G s (fail e : Act σ err α) :=
  fun _ _ h => absurd h not_occurs_fail

theorem guarded_emit {e : ε} (h : G s e) : GuardedFrom G s (emit e : Act σ err Unit) := by
  intro before e' hoccurs
  obtain ⟨rfl, rfl⟩ := occurs_emit.mp hoccurs
  exact h

theorem guarded_get_bind {f : σ → Act σ err β} (h : GuardedFrom G s (f s)) :
    GuardedFrom G s (get >>= f) :=
  fun before e hoccurs => h before e (occurs_get_bind.mp hoccurs)

theorem guarded_except_bind {y : Except err α} (h : ∀ a, y = .ok a → GuardedFrom G s (f a)) :
    GuardedFrom G s (except y >>= f) := by
  intro before e hoccurs
  obtain ⟨a, ha, hrest⟩ := occurs_except_bind.mp hoccurs
  exact h a ha before e hrest

/-- **A sequence** is guarded if its first part is, and the rest from where the first part ends. -/
theorem guarded_bind (hx : GuardedFrom G s x)
    (hf : ∀ a log, x s = (.ok a, log) → GuardedFrom G (replay s log) (f a)) :
    GuardedFrom G s (x >>= f) := by
  intro before e hoccurs
  rcases occurs_bind.mp hoccurs with hfirst | ⟨a, log, rest, hlog, rfl, hrest⟩
  · exact hx before e hfirst
  · rw [replay_append]
    exact hf a log hlog rest e hrest

/-! ## Invariants -/

variable {I : σ → Prop}

/-- What each event of a log keeps, the log keeps. -/
theorem invariant_replay (hkeeps : ∀ s e, G s e → I s → I (Replay.apply s e)) :
    ∀ {log : List ε} {s : σ},
      (∀ before e after, log = before ++ e :: after → G (replay s before) e) → I s →
        I (replay s log)
  | [], _, _, hI => hI
  | e :: log, s, hlog, hI => by
    refine invariant_replay hkeeps (s := Replay.apply s e) (fun before e' after hsplit => ?_)
      (hkeeps s e (hlog [] e log rfl) hI)
    exact hlog (e :: before) e' after (by rw [hsplit, List.cons_append])

/-- What guarded events keep holds after the computation if it holds before it. -/
theorem GuardedFrom.invariant (h : GuardedFrom G s x)
    (hkeeps : ∀ s e, G s e → I s → I (Replay.apply s e)) (hI : I s) : I (x.stateAfter s) :=
  invariant_replay hkeeps (fun before e after hsplit => h before e ⟨after, hsplit⟩) hI

/-- **From an event on**: what guarded events keep holds after the computation if it holds once one
of its events happened. -/
theorem GuardedFrom.after (h : GuardedFrom G s x)
    (hkeeps : ∀ s e, G s e → I s → I (Replay.apply s e)) {before : List ε} {e : ε}
    (hoccurs : x.Occurs s before e) (hI : I (Replay.apply (replay s before) e)) :
    I (x.stateAfter s) := by
  obtain ⟨rest, hlog⟩ := hoccurs
  rw [stateAfter, hlog, replay_append, replay_cons]
  refine invariant_replay hkeeps (fun before' e' after hsplit => ?_) hI
  have hguard := h (before ++ e :: before') e' ⟨after, by rw [hlog, hsplit]; simp⟩
  rwa [replay_append, replay_cons] at hguard

end Nlboot.Lib.Act
