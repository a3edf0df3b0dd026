import Nlboot.Lib.Except

/-!
# Computations that log what they do

A computation reads a state, may fail, and changes the state only by the events it logs. The log
is part of the result of a failure too, so nothing that was done is forgotten, and no computation
can take an event back: what holds of a state can only change at an event, which is what lets a
history be read backwards.

* `Act`: such computations, a monad; `replay`: the state after a log.
* `Occurs x s before e`: run from `s`, `x` logs `before` and then `e`.
* `occurs_bind`, `occurs_except_bind`, `occurs_emit`, …: where an event can come from, one rule for
  each way to build a computation.
* `length_filter_le_one`: when there is at most one event of a kind.
* **`exists_occurs_of_changed`**: what holds after a run of several computations and did not before
  came about at an event of one of them.
-/

namespace Nlboot.Lib

/-- A state that events change. -/
class Replay (σ : Type) (ε : outParam Type) where
  apply : σ → ε → σ

/-- A computation on a state of type `σ` that logs events of type `ε`. -/
def Act (σ : Type) {ε : Type} [Replay σ ε] (err α : Type) := σ → Except err α × List ε

section

variable {σ ε err α β : Type} [Replay σ ε]

/-- The state after a log. -/
def replay (s : σ) (log : List ε) : σ := log.foldl Replay.apply s

@[simp] theorem replay_nil (s : σ) : replay s [] = s := rfl

@[simp] theorem replay_cons (s : σ) (e : ε) (log : List ε) :
    replay s (e :: log) = replay (Replay.apply s e) log := rfl

@[simp] theorem replay_append (s : σ) (log log' : List ε) :
    replay s (log ++ log') = replay (replay s log) log' :=
  List.foldl_append

/-- What does not hold before a log and holds after it came about at one of its events. -/
theorem exists_event_of_changed {P : σ → Prop} {s : σ} {log : List ε} (h₀ : ¬ P s)
    (h : P (replay s log)) :
    ∃ before e after, log = before ++ e :: after ∧ ¬ P (replay s before) ∧
      P (Replay.apply (replay s before) e) := by
  induction log generalizing s with
  | nil => exact absurd h h₀
  | cons e log ih =>
    by_cases he : P (Replay.apply s e)
    · exact ⟨[], e, log, rfl, h₀, he⟩
    · obtain ⟨before, e', after, rfl, hb, he'⟩ := ih he h
      exact ⟨e :: before, e', after, rfl, hb, he'⟩

namespace Act

instance : Monad (Act σ err) where
  pure a := fun _ => (.ok a, [])
  bind x f := fun s =>
    match x s with
    | (.ok a, log) => ((f a (replay s log)).1, log ++ (f a (replay s log)).2)
    | (.error e, log) => (.error e, log)

/-- Fail, and do nothing. -/
def fail (e : err) : Act σ err α := fun _ => (.error e, [])

/-- The state. -/
def get : Act σ err σ := fun s => (.ok s, [])

/-- A step that neither reads nor changes the state. -/
def except (x : Except err α) : Act σ err α := fun _ => (x, [])

/-- Log an event. -/
def emit (e : ε) : Act σ err Unit := fun _ => (.ok (), [e])

/-- Do the same and forget a failure. -/
def ignore (x : Act σ err α) : Act σ err Unit := fun s => (.ok (), (x s).2)

/-- Run from `s`, the computation logs `before` and then `e`. -/
def Occurs (x : Act σ err α) (s : σ) (before : List ε) (e : ε) : Prop :=
  ∃ after, (x s).2 = before ++ e :: after

/-- The state after the computation, whether it fails or not. -/
def stateAfter (x : Act σ err α) (s : σ) : σ := replay s (x s).2

/-! ## Results -/

variable {x : Act σ err α} {f : α → Act σ err β} {s : σ}

@[simp] theorem pure_apply (a : α) : (pure a : Act σ err α) s = (.ok a, []) := rfl

theorem bind_apply_ok {a : α} {log : List ε} (h : x s = (.ok a, log)) :
    (x >>= f) s = ((f a (replay s log)).1, log ++ (f a (replay s log)).2) := by
  show (match x s with
    | (.ok a, log) => ((f a (replay s log)).1, log ++ (f a (replay s log)).2)
    | (.error e, log) => (Except.error e, log)) = _
  rw [h]

theorem bind_apply_error {e : err} {log : List ε} (h : x s = (.error e, log)) :
    (x >>= f) s = (.error e, log) := by
  show (match x s with
    | (.ok a, log) => ((f a (replay s log)).1, log ++ (f a (replay s log)).2)
    | (.error e, log) => (Except.error e, log)) = _
  rw [h]

/-- After a part that did nothing, the rest is all there is. -/
theorem bind_apply_nil {a : α} (h : x s = (.ok a, [])) : (x >>= f) s = f a s := by
  rw [bind_apply_ok h, replay_nil, List.nil_append]

/-- A sequence succeeds iff both parts do. -/
theorem bind_eq_ok {b : β} {log : List ε} :
    (x >>= f) s = (.ok b, log) ↔ ∃ a log₁ log₂, x s = (.ok a, log₁) ∧
      f a (replay s log₁) = (.ok b, log₂) ∧ log = log₁ ++ log₂ := by
  rcases hx : x s with ⟨_ | a, log₁⟩
  · rw [bind_apply_error hx]
    simp
  · rw [bind_apply_ok hx]
    constructor
    · intro h
      obtain ⟨hr, rfl⟩ := Prod.mk.inj h
      exact ⟨a, log₁, _, rfl, Prod.ext hr rfl, rfl⟩
    · rintro ⟨_, _, log₂, heq, hf, rfl⟩
      obtain ⟨ha, rfl⟩ := Prod.mk.inj heq
      obtain rfl := Except.ok.inj ha
      rw [hf]

/-- A sequence fails where its first part does, or where the rest does. -/
theorem bind_eq_error {e : err} {log : List ε} :
    (x >>= f) s = (.error e, log) ↔ x s = (.error e, log) ∨ ∃ a log₁ log₂, x s = (.ok a, log₁) ∧
      f a (replay s log₁) = (.error e, log₂) ∧ log = log₁ ++ log₂ := by
  rcases hx : x s with ⟨_ | a, log₁⟩
  · rw [bind_apply_error hx]
    simp
  · rw [bind_apply_ok hx]
    constructor
    · intro h
      obtain ⟨hr, rfl⟩ := Prod.mk.inj h
      exact .inr ⟨a, log₁, _, rfl, Prod.ext hr rfl, rfl⟩
    · rintro (h | ⟨_, _, log₂, heq, hf, rfl⟩)
      · exact absurd (Prod.mk.inj h).1 (by simp)
      · obtain ⟨ha, rfl⟩ := Prod.mk.inj heq
        obtain rfl := Except.ok.inj ha
        rw [hf]

theorem fail_ne_ok {e : err} {a : α} {log : List ε} :
    (fail e : Act σ err α) s ≠ (.ok a, log) := by
  simp [fail]

@[simp] theorem pure_bind_apply {a : α} : ((pure a : Act σ err α) >>= f) s = f a s := rfl

@[simp] theorem get_bind_apply {f : σ → Act σ err β} : (get >>= f) s = f s s := rfl

@[simp] theorem except_ok_bind_apply {a : α} : (except (.ok a) >>= f) s = f a s := rfl

@[simp] theorem except_error_bind_apply {e : err} :
    (except (.error e) >>= f) s = (.error e, []) := rfl

theorem except_bind_eq_ok {y : Except err α} {b : β} {log : List ε} :
    (except y >>= f) s = (.ok b, log) ↔ ∃ a, y = .ok a ∧ f a s = (.ok b, log) := by
  cases y <;> simp

theorem except_bind_eq_error {y : Except err α} {e : err} {log : List ε} :
    (except y >>= f) s = (.error e, log) ↔
      y = .error e ∧ log = [] ∨ ∃ a, y = .ok a ∧ f a s = (.error e, log) := by
  cases y with
  | ok a => simp
  | error e' =>
    simp only [except_error_bind_apply, Prod.mk.injEq, Except.error.injEq, reduceCtorEq, false_and,
      exists_false, or_false]
    exact and_congr_right fun _ => eq_comm

/-! ## Where an event comes from -/

variable {before : List ε} {e : ε}

@[simp] theorem not_occurs_pure {a : α} : ¬ Occurs (pure a : Act σ err α) s before e := by
  rintro ⟨after, h⟩
  simp at h

@[simp] theorem not_occurs_fail {e' : err} : ¬ Occurs (fail e' : Act σ err α) s before e := by
  rintro ⟨after, h⟩
  simp [fail] at h

@[simp] theorem occurs_ignore : Occurs (ignore x) s before e ↔ Occurs x s before e := Iff.rfl

@[simp] theorem occurs_emit {e' : ε} :
    Occurs (emit e' : Act σ err Unit) s before e ↔ before = [] ∧ e = e' := by
  constructor
  · rintro ⟨after, h⟩
    cases before with
    | nil => exact ⟨rfl, (List.cons.inj h).1.symm⟩
    | cons _ _ => simp [emit] at h
  · rintro ⟨rfl, rfl⟩
    exact ⟨[], rfl⟩

@[simp] theorem occurs_get_bind {f : σ → Act σ err β} :
    Occurs (get >>= f) s before e ↔ Occurs (f s) s before e := Iff.rfl

/-- After a step that does nothing, only what follows its success matters. -/
@[simp] theorem occurs_except_bind {y : Except err α} :
    Occurs (except y >>= f) s before e ↔ ∃ a, y = .ok a ∧ Occurs (f a) s before e := by
  cases y with
  | ok a =>
    constructor
    · exact fun h => ⟨a, rfl, h⟩
    · rintro ⟨_, ⟨⟩, h⟩
      exact h
  | error e' =>
    constructor
    · rintro ⟨after, h⟩
      simp at h
    · rintro ⟨_, ⟨⟩, -⟩

/-- **An event of a sequence** is one of its first part, or one of what follows its success. -/
theorem occurs_bind : Occurs (x >>= f) s before e ↔ Occurs x s before e ∨
    ∃ a log before', x s = (.ok a, log) ∧ before = log ++ before' ∧
      Occurs (f a) (replay s log) before' e := by
  unfold Occurs
  rcases hx : x s with ⟨_ | a, log⟩
  · rw [bind_apply_error hx]
    simp
  · rw [bind_apply_ok hx]
    constructor
    · rintro ⟨after, h⟩
      obtain ⟨rest, hlog, hf⟩ | ⟨rest, hbefore, hf⟩ := List.append_eq_append_iff.mp h
      · exact .inr ⟨a, log, rest, rfl, hlog, after, hf⟩
      · cases rest with
        | nil => exact .inr ⟨a, log, [], rfl, by simpa using hbefore.symm, after, hf.symm⟩
        | cons e' rest =>
          obtain ⟨rfl, -⟩ := List.cons.inj hf
          exact .inl ⟨rest, hbefore⟩
    · rintro (⟨after, rfl⟩ | ⟨_, _, before', heq, rfl, after, hf⟩)
      · exact ⟨after ++ _, by rw [List.append_assoc, List.cons_append]⟩
      · obtain ⟨ha, rfl⟩ := Prod.mk.inj heq
        obtain rfl := Except.ok.inj ha
        exact ⟨after, by rw [hf, List.append_assoc]⟩

/-- If no event of a kind follows another one of it, there is one at most. -/
theorem length_filter_le_one {kind : ε → Bool}
    (h : ∀ before e, Occurs x s before e → kind e = true → ∀ e' ∈ before, kind e' = false) :
    ((x s).2.filter kind).length ≤ 1 := by
  cases hf : (x s).2.filter kind with
  | nil => simp
  | cons first rest =>
    cases rest with
    | nil => simp
    | cons second rest =>
      obtain ⟨skipped, tail, hlog, -, hfirst, htail⟩ := List.filter_eq_cons_iff.mp hf
      obtain ⟨skipped', tail', rfl, -, hsecond, -⟩ := List.filter_eq_cons_iff.mp htail
      have hno := h (skipped ++ first :: skipped') second ⟨tail', by rw [hlog]; simp⟩ hsecond first
        (by simp)
      rw [hfirst] at hno
      exact absurd hno (by simp)

theorem occurs_of_mem {e : ε} (h : e ∈ (x s).2) : ∃ before, Occurs x s before e := by
  obtain ⟨before, after, hlog⟩ := List.append_of_mem h
  exact ⟨before, after, hlog⟩

theorem occurs_of_mem_log {r : Except err α} {log : List ε} {e : ε} (h : x s = (r, log))
    (he : e ∈ log) : ∃ before, Occurs x s before e := by
  refine occurs_of_mem ?_
  rw [h]
  exact he

theorem mem_of_occurs (h : Occurs x s before e) : e ∈ (x s).2 := by
  obtain ⟨after, hlog⟩ := h
  rw [hlog]
  simp

/-! ## Runs of several computations -/

/-- The state after the computations, each run whether the one before it failed or not. -/
def run (s : σ) (xs : List (Act σ err α)) : σ := xs.foldl (fun s x => stateAfter x s) s

@[simp] theorem run_nil : run s ([] : List (Act σ err α)) = s := rfl

@[simp] theorem run_cons {xs : List (Act σ err α)} :
    run s (x :: xs) = run (stateAfter x s) xs := rfl

@[simp] theorem run_append {xs ys : List (Act σ err α)} : run s (xs ++ ys) = run (run s xs) ys :=
  List.foldl_append

/-- **What holds after a run and did not before** came about at an event of one of its
computations. -/
theorem exists_occurs_of_changed {P : σ → Prop} {xs : List (Act σ err α)} (h₀ : ¬ P s)
    (h : P (run s xs)) :
    ∃ earlier x later before e, xs = earlier ++ x :: later ∧ Occurs x (run s earlier) before e ∧
      ¬ P (replay (run s earlier) before) ∧
      P (Replay.apply (replay (run s earlier) before) e) := by
  induction xs generalizing s with
  | nil => exact absurd h h₀
  | cons x xs ih =>
    by_cases hx : P (stateAfter x s)
    · obtain ⟨before, e, after, hlog, hb, he⟩ := exists_event_of_changed h₀ hx
      exact ⟨[], x, xs, before, e, rfl, ⟨after, hlog⟩, hb, he⟩
    · obtain ⟨earlier, y, later, before, e, rfl, hoccurs, hb, he⟩ := ih hx h
      exact ⟨x :: earlier, y, later, before, e, rfl, hoccurs, hb, he⟩

end Act

end

end Nlboot.Lib
