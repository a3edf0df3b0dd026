import Mathlib.Data.List.Forall2
import Nlboot.Lib.Act

/-!
# Two runs in lockstep

Two computations that log events, begun in related states: they end alike, with the same value or
the same error, and their logs are related event by event. Where related events take related states
to related states, the rules follow the way a computation is built.

* `Compatible S R`: events of `R` keep states in `S`.
* `Lockstep S R x y`: the judgement.
* **`lockstep_bind`**, `lockstep_get_bind`, `lockstep_except_bind`, `lockstep_emit`, …: one rule for
  each way to build a computation.
-/

namespace Nlboot.Lib.Act

variable {σ ε err α β : Type} [Replay σ ε]

/-- Related events keep states related. -/
def Compatible (S : σ → σ → Prop) (R : ε → ε → Prop) : Prop :=
  ∀ s s' e e', S s s' → R e e' → S (Replay.apply s e) (Replay.apply s' e')

/-- From related states, the computations end alike and log related events. -/
def Lockstep (S : σ → σ → Prop) (R : ε → ε → Prop) (x y : Act σ err α) : Prop :=
  ∀ s s', S s s' → (x s).1 = (y s').1 ∧ List.Forall₂ R (x s).2 (y s').2

variable {S : σ → σ → Prop} {R : ε → ε → Prop} {x y : Act σ err α}

/-- Related logs keep states related. -/
theorem replay_related (hcompat : Compatible S R) {log log' : List ε}
    (hlogs : List.Forall₂ R log log') :
    ∀ {s s' : σ}, S s s' → S (replay s log) (replay s' log') := by
  induction hlogs with
  | nil => exact fun h => h
  | cons he _ ih => exact fun h => ih (hcompat _ _ _ _ h he)

theorem lockstep_pure (a : α) : Lockstep S R (pure a : Act σ err α) (pure a) :=
  fun _ _ _ => ⟨rfl, .nil⟩

theorem lockstep_fail (e : err) : Lockstep S R (fail e : Act σ err α) (fail e) :=
  fun _ _ _ => ⟨rfl, .nil⟩

theorem lockstep_emit {e e' : ε} (h : R e e') :
    Lockstep S R (emit e : Act σ err Unit) (emit e') :=
  fun _ _ _ => ⟨rfl, .cons h .nil⟩

theorem lockstep_ignore (h : Lockstep S R x y) : Lockstep S R (ignore x) (ignore y) :=
  fun s s' hs => ⟨rfl, (h s s' hs).2⟩

theorem lockstep_get_bind {f g : σ → Act σ err β}
    (h : ∀ s s', S s s' → Lockstep S R (f s) (g s')) : Lockstep S R (get >>= f) (get >>= g) :=
  fun s s' hs => h s s' hs s s' hs

theorem lockstep_except_bind {r : Except err α} {f g : α → Act σ err β}
    (h : ∀ a, r = .ok a → Lockstep S R (f a) (g a)) :
    Lockstep S R (except r >>= f) (except r >>= g) := by
  cases hr : r with
  | ok a => exact h a hr
  | error e => exact lockstep_fail e

/-- **A sequence**: the rest begins in related states with the same value. -/
theorem lockstep_bind (hcompat : Compatible S R) {f g : α → Act σ err β} (hx : Lockstep S R x y)
    (hf : ∀ a, Lockstep S R (f a) (g a)) : Lockstep S R (x >>= f) (y >>= g) := by
  intro s s' hs
  obtain ⟨hresult, hlogs⟩ := hx s s' hs
  rcases hx' : x s with ⟨e | a, log⟩
  · rcases hy' : y s' with ⟨e' | a', log'⟩
    · rw [hx', hy'] at hresult hlogs
      rw [bind_apply_error hx', bind_apply_error hy']
      exact ⟨congrArg Except.error (Except.error.inj hresult), hlogs⟩
    · rw [hx', hy'] at hresult
      exact absurd hresult (by simp)
  · rcases hy' : y s' with ⟨e' | a', log'⟩
    · rw [hx', hy'] at hresult
      exact absurd hresult (by simp)
    · rw [hx', hy'] at hresult hlogs
      obtain rfl := Except.ok.inj hresult
      rw [bind_apply_ok hx', bind_apply_ok hy']
      obtain ⟨hrest, hrestLogs⟩ := hf a _ _ (replay_related hcompat hlogs hs)
      exact ⟨hrest, List.rel_append hlogs hrestLogs⟩

end Nlboot.Lib.Act
