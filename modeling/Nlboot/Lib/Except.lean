import Mathlib.Data.List.Forall2

/-!
# What a successful validator establishes

A validator is a sequence of checks in `Except`. These lemmas read a success backwards: a sequence
succeeds iff every step does, a check iff its condition holds. They are the simp set every
acceptance theorem is proved with, so no proof splits a validator's branches by hand.

* `check`, `orThrow`: raise unless a condition holds, or a value exists.
* `mapM_eq_ok`, `exists_mapM_of_forall₂`: a loop that collects results. `forM_check_eq_ok`: a loop
  of checks.
* `foldlM_isOk`: a loop over a list succeeds iff its step does on every element. `foldlM_congr`:
  loops that come to the same.
* `Strays`: an error other than a validator's own leaves it, with one rule for each way to build a
  validator.
* `exists_mem_of_forall₂`, `exists_mem_right_of_forall₂`, `exists_forall₂`: the elements and the
  results of such a loop.
-/

namespace Nlboot.Lib

variable {ε α β : Type}

/-- Raise `e` unless `c` holds. -/
def check (c : Prop) [Decidable c] (e : ε) : Except ε Unit := if c then .ok () else .error e

@[simp] theorem check_eq_ok {c : Prop} [Decidable c] {e : ε} {u : Unit} :
    check c e = .ok u ↔ c := by
  unfold check
  split_ifs with h <;> simp [h]

@[simp] theorem check_eq_error {c : Prop} [Decidable c] {e e' : ε} :
    check c e = .error e' ↔ ¬ c ∧ e = e' := by
  unfold check
  split_ifs with h <;> simp [h]

/-- Raise `e` where there is no value. -/
def orThrow (e : ε) : Option α → Except ε α
  | some a => .ok a
  | none => .error e

@[simp] theorem orThrow_eq_ok {e : ε} {o : Option α} {a : α} :
    orThrow e o = .ok a ↔ o = some a := by
  cases o <;> simp [orThrow]

@[simp] theorem bind_eq_ok {x : Except ε α} {f : α → Except ε β} {b : β} :
    (x >>= f) = .ok b ↔ ∃ a, x = .ok a ∧ f a = .ok b := by
  cases x <;> simp [bind, Except.bind]

/-- A sequence fails where its first step does, or where the rest does. -/
theorem bind_eq_error {x : Except ε α} {f : α → Except ε β} {e : ε} :
    (x >>= f) = .error e ↔ x = .error e ∨ ∃ a, x = .ok a ∧ f a = .error e := by
  cases x <;> simp [bind, Except.bind]

@[simp] theorem map_eq_ok {x : Except ε α} {f : α → β} {b : β} :
    (f <$> x) = .ok b ↔ ∃ a, x = .ok a ∧ f a = b := by
  cases x <;> simp [Functor.map, Except.map]

@[simp] theorem pure_eq_ok {a b : α} : (pure a : Except ε α) = .ok b ↔ a = b := by
  simp [pure, Except.pure]

@[simp] theorem throw_ne_ok {e : ε} {a : α} : (throw e : Except ε α) ≠ .ok a := by
  simp [throw, throwThe, MonadExceptOf.throw]

/-- A loop that collects results succeeds iff its step does on every element. -/
theorem mapM_eq_ok {f : α → Except ε β} {l : List α} {bs : List β} :
    l.mapM f = .ok bs ↔ List.Forall₂ (fun a b => f a = .ok b) l bs := by
  induction l generalizing bs with
  | nil =>
    rw [List.mapM_nil, pure_eq_ok, List.forall₂_nil_left_iff]
    exact eq_comm
  | cons a l ih =>
    rw [List.mapM_cons, List.forall₂_cons_left_iff]
    simp only [bind_eq_ok, pure_eq_ok, ih]
    constructor
    · rintro ⟨b, hb, bs, hbs, rfl⟩
      exact ⟨b, bs, hb, hbs, rfl⟩
    · rintro ⟨b, bs, hb, hbs, rfl⟩
      exact ⟨b, hb, bs, hbs, rfl⟩

/-- A loop succeeds if its step does on all it goes over, and its results are related as those of
the steps. -/
theorem exists_mapM_of_forall₂ {γ : Type} {f : α → Except ε β} {R : α → γ → Prop} {S : γ → β → Prop}
    (hf : ∀ {a c}, R a c → ∃ b, f a = .ok b ∧ S c b) {l : List α} {cs : List γ}
    (h : List.Forall₂ R l cs) : ∃ bs, l.mapM f = .ok bs ∧ List.Forall₂ S cs bs := by
  induction h with
  | nil => exact ⟨[], mapM_eq_ok.mpr .nil, .nil⟩
  | cons ha _ ih =>
    obtain ⟨b, hb, hS⟩ := hf ha
    obtain ⟨bs, hbs, hrest⟩ := ih
    exact ⟨b :: bs, mapM_eq_ok.mpr (.cons hb (mapM_eq_ok.mp hbs)), .cons hS hrest⟩

/-- A loop of checks passes iff every check does. -/
theorem forM_check_eq_ok {P : α → Prop} [DecidablePred P] {e : α → ε} {l : List α} {u : Unit} :
    (l.forM fun a => check (P a) (e a)) = .ok u ↔ ∀ a ∈ l, P a := by
  induction l with
  | nil => exact iff_of_true rfl (List.forall_mem_nil P)
  | cons a l ih =>
    show (check (P a) (e a) >>= fun _ => l.forM fun a => check (P a) (e a)) = .ok u ↔ _
    rw [bind_eq_ok, List.forall_mem_cons, ih]
    simp only [check_eq_ok, exists_const]

/-- Anything but a success is an error. -/
theorem exists_error_of_ne_ok {x : Except ε α} (h : ∀ a, x ≠ .ok a) : ∃ e, x = .error e := by
  cases x with
  | ok a => exact absurd rfl (h a)
  | error e => exact ⟨e, rfl⟩

/-- A loop that folds a fallible step succeeds with some value iff the step succeeds on every
element, when the step's success does not depend on the accumulator. -/
theorem foldlM_isOk {γ : Type} {f : β → α → Except ε β} (step : α → Except ε γ) (put : β → γ → β)
    (hf : ∀ acc x, f acc x = (put acc <$> step x)) :
    ∀ (l : List α) (acc r : β), l.foldlM f acc = .ok r ↔
      ∃ ys, List.Forall₂ (fun x y => step x = .ok y) l ys ∧ ys.foldl put acc = r
  | [], acc, r => by
    simp only [List.foldlM_nil, pure_eq_ok, List.forall₂_nil_left_iff, exists_eq_left,
      List.foldl_nil]
  | x :: l, acc, r => by
    simp only [List.foldlM_cons, bind_eq_ok, hf, map_eq_ok, List.forall₂_cons_left_iff]
    constructor
    · rintro ⟨_, ⟨y, hy, rfl⟩, hr⟩
      obtain ⟨ys, hys, rfl⟩ := (foldlM_isOk step put hf l _ r).mp hr
      exact ⟨y :: ys, ⟨y, ys, hy, hys, rfl⟩, rfl⟩
    · rintro ⟨_, ⟨y, ys, hy, hys, rfl⟩, hr⟩
      exact ⟨_, ⟨y, hy, rfl⟩, (foldlM_isOk step put hf l _ r).mpr ⟨ys, hys, hr⟩⟩

/-- Loops whose steps take their elements alike come to the same result. -/
theorem foldlM_congr {σ : Type} {step : σ → α → Except ε σ} {step' : σ → β → Except ε σ}
    {xs : List α} {ys : List β} (h : List.Forall₂ (fun x y => ∀ s, step s x = step' s y) xs ys) :
    ∀ s, xs.foldlM step s = ys.foldlM step' s := by
  induction h with
  | nil => exact fun _ => rfl
  | cons hhead _ ih =>
    intro s
    rw [List.foldlM_cons, List.foldlM_cons, hhead]
    exact bind_congr ih

/-! ## Errors that are not a validator's own -/

section

variable {own : ε → Prop}

/-- An error that is not the validator's own leaves it. -/
def Strays (own : ε → Prop) (x : Except ε α) : Prop := ∃ e, x = .error e ∧ ¬ own e

theorem not_strays_iff {x : Except ε α} : ¬ Strays own x ↔ ∀ e, x = .error e → own e := by
  simp only [Strays, not_exists, not_and, not_not]

@[simp] theorem strays_ok {a : α} : ¬ Strays own (.ok a : Except ε α) := by
  rintro ⟨_, h, -⟩
  exact absurd h (by simp)

@[simp] theorem strays_pure {a : α} : ¬ Strays own (pure a : Except ε α) := strays_ok

@[simp] theorem strays_error {e : ε} : Strays own (.error e : Except ε α) ↔ ¬ own e := by
  simp [Strays]

@[simp] theorem strays_throw {e : ε} : Strays own (throw e : Except ε α) ↔ ¬ own e := strays_error

@[simp] theorem strays_check {c : Prop} [Decidable c] {e : ε} :
    Strays own (check c e) ↔ ¬ c ∧ ¬ own e := by
  simp [Strays, and_assoc]

/-- A sequence lets through what its first part does, or what the rest does after it. -/
@[simp] theorem strays_bind {x : Except ε α} {f : α → Except ε β} :
    Strays own (x >>= f) ↔ Strays own x ∨ ∃ a, x = .ok a ∧ Strays own (f a) := by
  cases x <;> simp [bind, Except.bind]

@[simp] theorem strays_map {x : Except ε α} {f : α → β} :
    Strays own (f <$> x) ↔ Strays own x := by
  cases x <;> simp [Functor.map, Except.map]

/-- A loop lets through what its step does on the first element it does not accept. -/
theorem strays_foldlM {γ : Type} {f : β → α → Except ε β} (step : α → Except ε γ) (put : β → γ → β)
    (hf : ∀ acc x, f acc x = (put acc <$> step x)) :
    ∀ (l : List α) (acc : β), Strays own (l.foldlM f acc) ↔
      ∃ before x after, l = before ++ x :: after ∧ (∀ y ∈ before, ∃ r, step y = .ok r) ∧
        Strays own (step x)
  | [], acc => by simp
  | x :: l, acc => by
    simp only [List.foldlM_cons, strays_bind, hf, strays_map, map_eq_ok,
      strays_foldlM step put hf l]
    constructor
    · rintro (hx | ⟨_, ⟨r, hr, -⟩, before, x', after, rfl, hbefore, hx'⟩)
      · exact ⟨[], x, l, rfl, by simp, hx⟩
      · exact ⟨x :: before, x', after, rfl, List.forall_mem_cons.mpr ⟨⟨r, hr⟩, hbefore⟩, hx'⟩
    · rintro ⟨before, x', after, hsplit, hbefore, hx'⟩
      cases before with
      | nil =>
        obtain ⟨rfl, -⟩ := List.cons.inj hsplit
        exact .inl hx'
      | cons y before =>
        obtain ⟨rfl, rfl⟩ := List.cons.inj hsplit
        obtain ⟨⟨r, hr⟩, hbefore⟩ := List.forall_mem_cons.mp hbefore
        exact .inr ⟨_, ⟨r, hr, rfl⟩, before, x', after, rfl, hbefore, hx'⟩

end

/-- Every result of an element-wise relation comes from an element. -/
theorem exists_mem_of_forall₂ {R : α → β → Prop} :
    ∀ {l : List α} {r : List β}, List.Forall₂ R l r → ∀ y ∈ r, ∃ x ∈ l, R x y
  | _, _, .nil, _, hy => absurd hy List.not_mem_nil
  | _, _, .cons h rest, y, hy => by
    rcases List.mem_cons.mp hy with rfl | hy
    · exact ⟨_, List.mem_cons_self, h⟩
    · obtain ⟨x, hx, hR⟩ := exists_mem_of_forall₂ rest y hy
      exact ⟨x, List.mem_cons_of_mem _ hx, hR⟩

/-- Every element has its result in an element-wise relation. -/
theorem exists_getElem?_of_forall₂ {R : α → β → Prop} :
    ∀ {l : List α} {r : List β}, List.Forall₂ R l r → ∀ {i : Nat} {y : β}, r[i]? = some y →
      ∃ x, l[i]? = some x ∧ R x y
  | _, _, .nil, _, _, hy => absurd hy (by simp)
  | _, _, .cons h _, 0, _, hy => ⟨_, rfl, Option.some.inj hy ▸ h⟩
  | _, _, .cons _ rest, i + 1, _, hy => exists_getElem?_of_forall₂ (i := i) rest hy

/-- Lists with one image are related item by item, if items with one image are. -/
theorem forall₂_of_map_eq {γ : Type} {f : α → γ} {R : α → α → Prop} :
    ∀ {l l' : List α}, l.map f = l'.map f →
      (∀ x ∈ l, ∀ y ∈ l', f x = f y → R x y) → List.Forall₂ R l l'
  | [], [], _, _ => .nil
  | x :: l, y :: l', h, hR => by
    obtain ⟨hxy, hrest⟩ := List.cons.inj h
    refine .cons (hR x List.mem_cons_self y List.mem_cons_self hxy) ?_
    exact forall₂_of_map_eq hrest fun x hx y hy =>
      hR x (List.mem_cons_of_mem _ hx) y (List.mem_cons_of_mem _ hy)

/-- Lists that are related item by item have one image, if related items have. -/
theorem map_eq_of_forall₂ {γ : Type} {f : α → γ} {R : α → α → Prop} {l l' : List α}
    (h : List.Forall₂ R l l') :
    (∀ x ∈ l, ∀ y ∈ l', R x y → f x = f y) → l.map f = l'.map f := by
  induction h with
  | nil => exact fun _ => rfl
  | cons hxy _ ih =>
    intro hR
    rw [List.map_cons, List.map_cons, hR _ List.mem_cons_self _ List.mem_cons_self hxy,
      ih fun x hx y hy => hR x (List.mem_cons_of_mem _ hx) y (List.mem_cons_of_mem _ hy)]

theorem exists_mem_right_of_forall₂ {R : α → β → Prop} {l : List α} {r : List β}
    (h : List.Forall₂ R l r) : ∀ x ∈ l, ∃ y ∈ r, R x y := by
  have hflip : List.Forall₂ (flip R) r l := List.Forall₂.flip h
  exact exists_mem_of_forall₂ hflip

/-- Results for every element make a list of results. -/
theorem exists_forall₂ {R : α → β → Prop} :
    ∀ {l : List α}, (∀ x ∈ l, ∃ y, R x y) → ∃ r, List.Forall₂ R l r
  | [], _ => ⟨[], .nil⟩
  | x :: l, h => by
    obtain ⟨y, hy⟩ := h x List.mem_cons_self
    obtain ⟨r, hr⟩ := exists_forall₂ fun x' hx' => h x' (List.mem_cons_of_mem x hx')
    exact ⟨y :: r, .cons hy hr⟩

end Nlboot.Lib
