import Mathlib.Data.List.Sort
import Mathlib.Data.List.Nodup

/-!
# Lexicographic comparison and sorting by a key

Two encoders that sort the members of an object need not compare names the same way: one compares
code points, the other the bytes of an encoding. This file says when that makes no difference.

* `lexLe`: the lexicographic `≤` on lists of numbers, executable.
* `Before x y`: `x` and `y` share a prefix and then `x` has the smaller number. It survives any
  two tails (`lexLe_of_before`, `not_lexLe_of_before`), which is what makes a code prefix-free.
* **`lexLe_flatMap`**: an encoding that puts `Before` between the codes of any two symbols in
  order preserves lexicographic comparison, in both directions.
* `sortByKey`: the stable sort of an association list by its keys. `pairwise_sortByKey`: it sorts.
  **`sortByKey_eq_of_perm`**: it forgets the order, if the keys are distinct.
  `forall₂_sortByKey`: lists with the same keys are sorted in step.
-/

namespace Nlboot.Lib

/-! ## Lexicographic comparison -/

/-- Lexicographic `≤` on lists of numbers. -/
def lexLe : List Nat → List Nat → Bool
  | [], _ => true
  | _ :: _, [] => false
  | a :: as, b :: bs => if a < b then true else if a = b then lexLe as bs else false

/-- `x` and `y` agree on a prefix and then `x` continues with the smaller number. -/
def Before : List Nat → List Nat → Prop
  | a :: as, b :: bs => a < b ∨ (a = b ∧ Before as bs)
  | _, _ => False

theorem lexLe_append_left (p x y : List Nat) : lexLe (p ++ x) (p ++ y) = lexLe x y := by
  induction p with
  | nil => rfl
  | cons a p ih => simp only [List.cons_append, lexLe, lt_irrefl, if_false, if_true, ih]

theorem lexLe_of_before : ∀ {x y : List Nat}, Before x y → ∀ s t, lexLe (x ++ s) (y ++ t) = true
  | a :: as, b :: bs, h, s, t => by
    simp only [List.cons_append, lexLe]
    rcases h with h | ⟨rfl, h⟩
    · rw [if_pos h]
    · rw [if_neg (lt_irrefl a), if_pos rfl]
      exact lexLe_of_before h s t

theorem not_lexLe_of_before :
    ∀ {x y : List Nat}, Before x y → ∀ s t, lexLe (y ++ t) (x ++ s) = false
  | a :: as, b :: bs, h, s, t => by
    simp only [List.cons_append, lexLe]
    rcases h with h | ⟨rfl, h⟩
    · rw [if_neg (by omega), if_neg (by omega)]
    · rw [if_neg (lt_irrefl a), if_pos rfl]
      exact not_lexLe_of_before h s t

theorem lexLe_total : ∀ x y : List Nat, lexLe x y = true ∨ lexLe y x = true
  | [], _ => .inl rfl
  | _ :: _, [] => .inr rfl
  | a :: x, b :: y => by
    simp only [lexLe]
    rcases lt_trichotomy a b with h | rfl | h
    · exact .inl (if_pos h)
    · simpa using lexLe_total x y
    · exact .inr (if_pos h)

theorem lexLe_antisymm : ∀ {x y : List Nat}, lexLe x y = true → lexLe y x = true → x = y
  | [], [], _, _ => rfl
  | [], _ :: _, _, h' => absurd h' (by simp [lexLe])
  | _ :: _, [], h, _ => absurd h (by simp [lexLe])
  | a :: x, b :: y, h, h' => by
    simp only [lexLe] at h h'
    rcases lt_trichotomy a b with hab | rfl | hab
    · rw [if_neg (by omega), if_neg (by omega)] at h'
      exact absurd h' (by simp)
    · rw [if_neg (lt_irrefl a), if_pos rfl] at h h'
      rw [lexLe_antisymm h h']
    · rw [if_neg (by omega), if_neg (by omega)] at h
      exact absurd h (by simp)

theorem lexLe_trans : ∀ {x y z : List Nat}, lexLe x y = true → lexLe y z = true → lexLe x z = true
  | [], _, _, _, _ => rfl
  | _ :: _, [], _, h, _ => absurd h (by simp [lexLe])
  | _ :: _, _ :: _, [], _, h => absurd h (by simp [lexLe])
  | a :: x, b :: y, c :: z, h, h' => by
    simp only [lexLe] at h h' ⊢
    split_ifs at h with hab hab
    · split_ifs at h' with hbc hbc
      · rw [if_pos (hab.trans hbc)]
      · rw [if_pos (hbc ▸ hab)]
    · subst hab
      split_ifs at h' with hbc hbc
      · rw [if_pos hbc]
      · subst hbc
        rw [if_neg (lt_irrefl a), if_pos rfl]
        exact lexLe_trans h h'

section Encoding

variable {α : Type} {rank : α → Nat} {enc : α → List Nat}

/-- **An order-preserving code preserves lexicographic comparison.** If no two symbols have one
rank and symbols in order have codes in the `Before` relation, then comparing the encodings of
two words is comparing the words. -/
theorem lexLe_flatMap (hinj : ∀ a b, rank a = rank b → a = b) (hne : ∀ a, enc a ≠ [])
    (henc : ∀ a b, rank a < rank b → Before (enc a) (enc b)) :
    ∀ x y : List α, lexLe (x.flatMap enc) (y.flatMap enc) = lexLe (x.map rank) (y.map rank)
  | [], _ => by simp [lexLe]
  | a :: x, [] => by
    obtain ⟨n, ns, hn⟩ := List.exists_cons_of_ne_nil (hne a)
    simp [lexLe, hn]
  | a :: x, b :: y => by
    simp only [List.flatMap_cons, List.map_cons, lexLe]
    rcases lt_trichotomy (rank a) (rank b) with h | h | h
    · rw [if_pos h, lexLe_of_before (henc a b h)]
    · obtain rfl := hinj a b h
      rw [if_neg (lt_irrefl _), if_pos rfl, lexLe_append_left]
      exact lexLe_flatMap hinj hne henc x y
    · rw [if_neg (by omega), if_neg (by omega), not_lexLe_of_before (henc b a h)]

end Encoding

/-! ## Sorting an association list -/

section Sorting

variable {κ α β : Type}

/-- The stable sort of an association list by its keys. -/
def sortByKey (le : κ → κ → Bool) (l : List (κ × α)) : List (κ × α) :=
  l.insertionSort fun x y => le x.1 y.1 = true

theorem sortByKey_perm (le : κ → κ → Bool) (l : List (κ × α)) : (sortByKey le l).Perm l :=
  List.perm_insertionSort _ l

/-- The pairs of a sort are in the order of their keys. -/
theorem pairwise_sortByKey {le : κ → κ → Bool} (total : ∀ a b, le a b = true ∨ le b a = true)
    (trans : ∀ a b c, le a b = true → le b c = true → le a c = true) (l : List (κ × α)) :
    (sortByKey le l).Pairwise fun x y => le x.1 y.1 = true := by
  have htotal : Std.Total fun x y : κ × α => le x.1 y.1 = true := ⟨fun x y => total x.1 y.1⟩
  have htrans : IsTrans (κ × α) fun x y => le x.1 y.1 = true :=
    ⟨fun x y z => trans x.1 y.1 z.1⟩
  exact List.pairwise_insertionSort _ l

/-- **Sorting forgets the order.** With distinct keys, lists of the same pairs have one sort. -/
theorem sortByKey_eq_of_perm {le : κ → κ → Bool} (total : ∀ a b, le a b = true ∨ le b a = true)
    (trans : ∀ a b c, le a b = true → le b c = true → le a c = true)
    (antisymm : ∀ a b, le a b = true → le b a = true → a = b) {l l' : List (κ × α)}
    (h : l.Perm l') (hn : (l.map Prod.fst).Nodup) : sortByKey le l = sortByKey le l' := by
  have hperm : (sortByKey le l).Perm (sortByKey le l') :=
    (sortByKey_perm le l).trans (h.trans (sortByKey_perm le l').symm)
  refine List.Perm.eq_of_pairwise ?_ (pairwise_sortByKey total trans l)
    (pairwise_sortByKey total trans l') hperm
  intro x y hx hy hxy hyx
  have hx' : x ∈ l := (sortByKey_perm le l).mem_iff.mp hx
  have hy' : y ∈ l := h.mem_iff.mpr ((sortByKey_perm le l').mem_iff.mp hy)
  exact List.inj_on_of_nodup_map hn hx' hy' (antisymm x.1 y.1 hxy hyx)

theorem forall₂_orderedInsert {le : κ → κ → Bool} {R : κ × α → κ × β → Prop}
    (hkey : ∀ x y, R x y → x.1 = y.1) {x : κ × α} {y : κ × β} (hxy : R x y) {l : List (κ × α)}
    {l' : List (κ × β)} (h : List.Forall₂ R l l') :
    List.Forall₂ R (l.orderedInsert (fun x y => le x.1 y.1 = true) x)
      (l'.orderedInsert (fun x y => le x.1 y.1 = true) y) := by
  induction h with
  | nil => exact .cons hxy .nil
  | @cons a b l l' hab hl ih =>
    rw [List.orderedInsert_cons, List.orderedInsert_cons, hkey x y hxy, hkey a b hab]
    by_cases hle : le y.1 b.1 = true
    · rw [if_pos hle, if_pos hle]
      exact .cons hxy (.cons hab hl)
    · rw [if_neg hle, if_neg hle]
      exact .cons hab ih

/-- Lists that go along with each other, key by key, do so when they are sorted. -/
theorem forall₂_sortByKey {le : κ → κ → Bool} {R : κ × α → κ × β → Prop}
    (hkey : ∀ x y, R x y → x.1 = y.1) {l : List (κ × α)} {l' : List (κ × β)}
    (h : List.Forall₂ R l l') : List.Forall₂ R (sortByKey le l) (sortByKey le l') := by
  induction h with
  | nil => exact .nil
  | cons hxy _ ih => exact forall₂_orderedInsert hkey hxy ih

end Sorting

end Nlboot.Lib
