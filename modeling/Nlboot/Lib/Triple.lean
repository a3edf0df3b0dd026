import Nlboot.Lib.Act

/-!
# Preconditions and postconditions

What a computation that logs events leaves, said in one judgement: begun where `P` holds, it ends
where `Q` holds of its value, or fails where `R` holds. A failure has a postcondition of its own,
since what was done before it stays done.

* `Triple P x Q R`: the judgement.
* `triple_bind`, `triple_except_bind`, `triple_emit`, …: one rule for each way to build a
  computation.
-/

namespace Nlboot.Lib.Act

variable {σ ε err α β : Type} [Replay σ ε] {P : σ → Prop} {R : σ → Prop} {x : Act σ err α}
  {f : α → Act σ err β}

/-- From a state of `P`, the computation ends in a state of `Q` or fails in a state of `R`. -/
def Triple (P : σ → Prop) (x : Act σ err α) (Q : α → σ → Prop) (R : σ → Prop) : Prop :=
  ∀ s, P s → (∀ a, (x s).1 = .ok a → Q a (x.stateAfter s)) ∧
    ∀ e, (x s).1 = .error e → R (x.stateAfter s)

theorem triple_pure {Q : α → σ → Prop} {a : α} (h : ∀ s, P s → Q a s) :
    Triple P (pure a : Act σ err α) Q R := by
  refine fun s hs => ⟨fun a' ha => ?_, fun e he => absurd he (by simp)⟩
  obtain rfl := Except.ok.inj ha
  exact h s hs

theorem triple_fail {Q : α → σ → Prop} {e : err} (h : ∀ s, P s → R s) :
    Triple P (fail e : Act σ err α) Q R :=
  fun s hs => ⟨fun _ ha => absurd ha (by simp [fail]), fun _ _ => h s hs⟩

theorem triple_emit {Q : Unit → σ → Prop} {e : ε} (h : ∀ s, P s → Q () (Replay.apply s e)) :
    Triple P (emit e : Act σ err Unit) Q R :=
  fun s hs => ⟨fun _ _ => h s hs, fun _ he => absurd he (by simp [emit])⟩

theorem triple_get_bind {Q : β → σ → Prop} {f : σ → Act σ err β}
    (h : ∀ s, Triple P (f s) Q R) : Triple P (get >>= f) Q R :=
  fun s hs => h s s hs

theorem triple_except_bind {Q : β → σ → Prop} {y : Except err α} (hfails : ∀ s, P s → R s)
    (h : ∀ a, y = .ok a → Triple P (f a) Q R) : Triple P (except y >>= f) Q R := by
  cases hy : y with
  | ok a => exact h a hy
  | error e => exact triple_fail hfails

/-- **A sequence**: what the first part establishes is what the rest begins with. -/
theorem triple_bind {Q : α → σ → Prop} {Q' : β → σ → Prop} (hx : Triple P x Q R)
    (hf : ∀ a, Triple (Q a) (f a) Q' R) : Triple P (x >>= f) Q' R := by
  intro s hs
  obtain ⟨hok, herror⟩ := hx s hs
  rcases hresult : x s with ⟨e | a, log⟩
  · rw [stateAfter, hresult] at herror
    rw [stateAfter, bind_apply_error hresult]
    exact ⟨fun _ ha => absurd ha (by simp), fun _ _ => herror e rfl⟩
  · rw [stateAfter, hresult] at hok
    rw [stateAfter, bind_apply_ok hresult]
    simp only [replay_append]
    exact hf a (replay s log) (hok a rfl)

end Nlboot.Lib.Act
