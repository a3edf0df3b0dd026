import Nlboot.Lib.Except

/-!
# Effects that are all or nothing

Computations on a state that can fail, where a failure keeps what was written before it, as an
exception does in a program that updates a shared table. `AllOrNothing` says that a failure leaves
the state as it was. The rules decide it from the order of the effects: reading and checking first
is free, a write must not be followed by a step that can fail.

A step that neither reads nor writes the state is a `liftExcept`.

* `allOrNothing_get_bind`, `allOrNothing_liftExcept_bind`: steps before a write.
* `allOrNothing_modify_pure`: a write at the end.
* **`allOrNothing_modify_bind`**: a write and then a step that can fail.
-/

namespace Nlboot.Lib

variable {ε σ α β : Type}

/-- A failure leaves the state as it was. -/
def AllOrNothing (x : EStateM ε σ α) (s : σ) : Prop := ∀ e s', x s = .error e s' → s' = s

/-- A step before anything is written: only what follows its success matters. -/
theorem allOrNothing_liftExcept_bind {x : Except ε α} {f : α → EStateM ε σ β} {s : σ} :
    AllOrNothing (liftExcept x >>= f) s ↔ ∀ a, x = .ok a → AllOrNothing (f a) s := by
  cases x with
  | ok a =>
    constructor
    · rintro h _ ⟨⟩
      exact h
    · exact fun h => h a rfl
  | error e =>
    constructor
    · rintro - _ ⟨⟩
    · rintro - _ _ ⟨⟩
      rfl

theorem allOrNothing_get_bind {f : σ → EStateM ε σ β} {s : σ} :
    AllOrNothing (get >>= f) s ↔ AllOrNothing (f s) s :=
  Iff.rfl

/-- A write at the end cannot be followed by a failure. -/
theorem allOrNothing_modify_pure {put : σ → σ} {a : α} {s : σ} :
    AllOrNothing (do modify put; pure a : EStateM ε σ α) s := by
  rintro _ _ ⟨⟩

/-- **A write and then a step that can fail** are all or nothing iff the step succeeds or the
write changes nothing. -/
theorem allOrNothing_modify_bind {put : σ → σ} {x : Except ε α} {g : α → β} {s : σ} :
    AllOrNothing (do modify put; let a ← liftExcept x; pure (g a) : EStateM ε σ β) s ↔
      (∃ a, x = .ok a) ∨ put s = s := by
  cases x with
  | ok a =>
    constructor
    · exact fun _ => .inl ⟨a, rfl⟩
    · rintro - _ _ ⟨⟩
  | error e =>
    constructor
    · exact fun h => .inr (h e (put s) rfl)
    · rintro (⟨_, ⟨⟩⟩ | hput) _ _ ⟨⟩
      exact hput

end Nlboot.Lib
