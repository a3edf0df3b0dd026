import Mathlib.Data.List.Basic
import Mathlib.Data.Nat.Notation

/-!
# Where a text is cut

A text made of parts can be read in more than one way if a part can go on into the next one.

* `Stops`: what follows a part does not go on as the part does. `exists_append_stops`: every text
  begins with a part of one kind.
* **`append_inj_of_stops`**: then the part can be told from what follows it. `toDigits_append_inj`:
  so can a decimal number.
* **`append_cons_eq_iff`**: the ways two texts with one separator are one text.
-/

namespace Nlboot.Lib

variable {α β : Type}

/-- The first of what follows, if any, is not of the kind. -/
def Stops (p : α → Prop) (rest : List α) : Prop := ∀ c ∈ rest.head?, ¬ p c

theorem stops_nil (p : α → Prop) : Stops p [] := fun _ h => absurd h (by simp)

theorem stops_cons {p : α → Prop} {c : α} (h : ¬ p c) (rest : List α) : Stops p (c :: rest) := by
  intro d hd
  obtain rfl := Option.some.inj hd
  exact h

/-- **A part of one kind** can be told from what follows, if that is not of the kind. -/
theorem append_inj_of_stops {p : α → Prop} : ∀ {xs ys r r' : List α}, (∀ x ∈ xs, p x) →
    (∀ y ∈ ys, p y) → Stops p r → Stops p r' → xs ++ r = ys ++ r' → xs = ys ∧ r = r'
  | [], [], _, _, _, _, _, _, h => ⟨rfl, h⟩
  | [], y :: ys, r, r', _, hys, hr, _, h => by
    obtain rfl : r = y :: (ys ++ r') := h
    exact absurd (hys y List.mem_cons_self) (hr y rfl)
  | x :: xs, [], r, r', hxs, _, _, hr', h => by
    obtain rfl : x :: (xs ++ r) = r' := h
    exact absurd (hxs x List.mem_cons_self) (hr' x rfl)
  | x :: xs, y :: ys, _, _, hxs, hys, hr, hr', h => by
    obtain ⟨rfl, hrest⟩ := List.cons.inj h
    obtain ⟨rfl, hends⟩ := append_inj_of_stops (fun z hz => hxs z (List.mem_cons_of_mem _ hz))
      (fun z hz => hys z (List.mem_cons_of_mem _ hz)) hr hr' hrest
    exact ⟨rfl, hends⟩

/-- Every list begins with a part of one kind that does not go on. -/
theorem exists_append_stops (p : α → Prop) :
    ∀ l : List α, ∃ xs r, l = xs ++ r ∧ (∀ x ∈ xs, p x) ∧ Stops p r
  | [] => ⟨[], [], rfl, fun _ h => absurd h List.not_mem_nil, stops_nil p⟩
  | x :: l => by
    by_cases hx : p x
    · obtain ⟨xs, r, rfl, hxs, hr⟩ := exists_append_stops p l
      exact ⟨x :: xs, r, rfl, List.forall_mem_cons.mpr ⟨hx, hxs⟩, hr⟩
    · exact ⟨[], x :: l, rfl, fun _ h => absurd h List.not_mem_nil, stops_cons hx l⟩

/-- What is taken of the kind ends where the part does. -/
theorem takeWhile_append_of_stops {p : α → Prop} [DecidablePred p] {xs r : List α}
    (hxs : ∀ x ∈ xs, p x) (hr : Stops p r) :
    (xs ++ r).takeWhile (fun x => decide (p x)) = xs := by
  rw [List.takeWhile_append_of_pos fun x hx => decide_eq_true (hxs x hx)]
  cases r with
  | nil => rw [List.takeWhile_nil, List.append_nil]
  | cons c r =>
    have hc : ¬ p c := hr c rfl
    simp only [List.takeWhile_cons, hc, decide_false, Bool.false_eq_true, if_false,
      List.append_nil]

theorem toDigits_injective {m n : ℕ} (h : Nat.toDigits 10 m = Nat.toDigits 10 n) : m = n := by
  rw [← Nat.ofDigitChars_ten_toDigits (n := m), h, Nat.ofDigitChars_ten_toDigits]

theorem isDigit_of_mem {n : ℕ} {c : Char} (h : c ∈ Nat.toDigits 10 n) : c.isDigit = true :=
  Nat.isDigit_of_mem_toDigits (by omega) (by omega) h

/-- A decimal number can be told from what follows, if that is no digit. -/
theorem toDigits_append_inj {m n : ℕ} {r r' : List Char}
    (hr : Stops (fun c => c.isDigit = true) r) (hr' : Stops (fun c => c.isDigit = true) r')
    (h : Nat.toDigits 10 m ++ r = Nat.toDigits 10 n ++ r') : m = n ∧ r = r' := by
  obtain ⟨hdigits, hrest⟩ :=
    append_inj_of_stops (fun _ => isDigit_of_mem) (fun _ => isDigit_of_mem) hr hr' h
  exact ⟨toDigits_injective hdigits, hrest⟩

/-- **The readings of a text at a separator**: two pairs of texts are the same with a separator in
between iff they are the same pairs, or the first part of one goes on into the second part of the
other. -/
theorem append_cons_eq_iff {c : α} {xs ys r r' : List α} :
    xs ++ c :: r = ys ++ c :: r' ↔ (xs = ys ∧ r = r') ∨
      (∃ middle, ys = xs ++ c :: middle ∧ r = middle ++ c :: r') ∨
      ∃ middle, xs = ys ++ c :: middle ∧ r' = middle ++ c :: r := by
  constructor
  · intro h
    rcases List.append_eq_append_iff.mp h with ⟨as, hys, hr⟩ | ⟨bs, hxs, hr⟩
    · cases as with
      | nil => exact .inl ⟨by simpa using hys.symm, List.tail_eq_of_cons_eq hr⟩
      | cons a middle =>
        obtain ⟨rfl, hmiddle⟩ := List.cons.inj hr
        exact .inr (.inl ⟨middle, hys, hmiddle⟩)
    · cases bs with
      | nil => exact .inl ⟨by simpa using hxs, (List.tail_eq_of_cons_eq hr).symm⟩
      | cons b middle =>
        obtain ⟨rfl, hmiddle⟩ := List.cons.inj hr
        exact .inr (.inr ⟨middle, hxs, hmiddle⟩)
  · rintro (⟨rfl, rfl⟩ | ⟨middle, rfl, rfl⟩ | ⟨middle, rfl, rfl⟩)
    · rfl
    · simp
    · simp

/-- A rewritten text that goes on behind a separator is that of a text that does. -/
theorem exists_suffix_of_map {f : α → β} {xs : List α} {ys middle : List β} {c : β}
    (h : xs.map f = ys ++ c :: middle) : ∃ suffix : List α, suffix.map f = middle := by
  obtain ⟨_, back, -, -, hback⟩ := List.map_eq_append_iff.mp h
  obtain ⟨_, suffix, -, -, hsuffix⟩ := List.map_eq_cons_iff.mp hback
  exact ⟨suffix, hsuffix⟩

end Nlboot.Lib
