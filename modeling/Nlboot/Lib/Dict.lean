import Mathlib.Data.List.Nodup
import Nlboot.Lib.Except

/-!
# Dictionaries as association lists

An insertion-ordered dictionary: `dictSet` replaces the value of a key that is present and appends
a new one, as assignment to a Python `dict` does.

* `lookup_dictSet`, `dictSet_of_lookup`: what a lookup sees after one assignment, and what the
  assignment replaces.
* **`lookup_foldl_dictSet`**: after a sequence of assignments a lookup sees the last one to its key.
* `exists_of_lastFor`: where the last pair of a key comes from.
* `lookup_perm`: with distinct keys the order of the pairs does not matter to a lookup.
* `foldl_dictSet_of_nodup`: assigning distinct keys into an empty dictionary builds the list.
-/

namespace Nlboot.Lib

variable {κ α : Type} [BEq κ] [LawfulBEq κ]

/-- Assign `a` to `k`: in place when `k` is present, at the end otherwise. -/
def dictSet (d : List (κ × α)) (k : κ) (a : α) : List (κ × α) :=
  match d with
  | [] => [(k, a)]
  | (k', a') :: d => if k == k' then (k', a) :: d else (k', a') :: dictSet d k a

theorem lookup_dictSet (d : List (κ × α)) (k k' : κ) (a : α) :
    (dictSet d k a).lookup k' = if k' == k then some a else d.lookup k' := by
  induction d with
  | nil =>
    simp only [dictSet, List.lookup_cons, List.lookup_nil]
    cases k' == k <;> rfl
  | cons m d ih =>
    obtain ⟨k₀, a₀⟩ := m
    unfold dictSet
    by_cases h : k == k₀
    · rw [if_pos h]
      obtain rfl := eq_of_beq h
      simp only [List.lookup_cons]
      cases k' == k <;> rfl
    · rw [if_neg h]
      simp only [List.lookup_cons, ih]
      by_cases h' : k' == k₀
      · obtain rfl := eq_of_beq h'
        have hne : (k' == k) = false := by
          cases hk : k' == k with
          | false => rfl
          | true => exact absurd (beq_of_eq (eq_of_beq hk).symm) h
        simp [hne]
      · simp [h']

theorem dictSet_of_notMem {d : List (κ × α)} {k : κ} (h : k ∉ d.map Prod.fst) (a : α) :
    dictSet d k a = d ++ [(k, a)] := by
  induction d with
  | nil => rfl
  | cons m d ih =>
    obtain ⟨k₀, a₀⟩ := m
    simp only [List.map_cons, List.mem_cons, not_or] at h
    unfold dictSet
    rw [if_neg (by simpa using h.1), ih h.2, List.cons_append]

/-- Assigning to a key that is present replaces its pair and nothing else. -/
theorem dictSet_of_lookup {d : List (κ × α)} {k : κ} {a₀ : α} (h : d.lookup k = some a₀) (a : α) :
    ∃ before after, d = before ++ (k, a₀) :: after ∧ dictSet d k a = before ++ (k, a) :: after := by
  induction d with
  | nil => exact absurd h (by simp)
  | cons m d ih =>
    obtain ⟨k₁, a₁⟩ := m
    rw [List.lookup_cons] at h
    unfold dictSet
    by_cases hk : k == k₁
    · obtain rfl : k = k₁ := eq_of_beq hk
      rw [hk] at h
      obtain rfl := Option.some.inj h
      exact ⟨[], d, rfl, if_pos hk⟩
    · rw [Bool.of_not_eq_true hk] at h
      obtain ⟨before, after, rfl, hset⟩ := ih h
      exact ⟨(k₁, a₁) :: before, after, rfl, by rw [if_neg hk, hset]; rfl⟩

theorem mem_of_mem_dictSet {d : List (κ × α)} {k : κ} {a : α} {m : κ × α}
    (h : m ∈ dictSet d k a) : m = (k, a) ∨ m ∈ d := by
  cases hl : d.lookup k with
  | some a₀ =>
    obtain ⟨before, after, rfl, hset⟩ := dictSet_of_lookup hl a
    rw [hset] at h
    simp only [List.mem_append, List.mem_cons] at h ⊢
    tauto
  | none =>
    have hk : k ∉ d.map Prod.fst := by
      rintro hmem
      obtain ⟨m', hm', rfl⟩ := List.mem_map.mp hmem
      exact absurd (List.lookup_eq_none_iff.mp hl m' hm') (by simp)
    rw [dictSet_of_notMem hk, List.mem_append, List.mem_singleton] at h
    exact h.symm

/-- Assignment keeps the keys distinct. -/
theorem nodup_dictSet {d : List (κ × α)} {k : κ} {a : α} (h : (d.map Prod.fst).Nodup) :
    ((dictSet d k a).map Prod.fst).Nodup := by
  by_cases hk : k ∈ d.map Prod.fst
  · obtain ⟨m, hm, rfl⟩ := List.mem_map.mp hk
    cases hl : d.lookup m.1 with
    | none => exact absurd (List.lookup_eq_none_iff.mp hl m hm) (by simp)
    | some a₀ =>
      obtain ⟨before, after, rfl, hset⟩ := dictSet_of_lookup hl a
      rw [hset]
      simpa using h
  · rw [dictSet_of_notMem hk, List.map_append, List.map_singleton, ← List.concat_eq_append]
    exact h.concat hk

/-- With distinct keys a lookup finds the pairs of the list. -/
theorem lookup_eq_some_iff_mem {d : List (κ × α)} (h : (d.map Prod.fst).Nodup) {k : κ} {a : α} :
    d.lookup k = some a ↔ (k, a) ∈ d := by
  induction d with
  | nil => simp
  | cons m d ih =>
    obtain ⟨k₀, a₀⟩ := m
    rw [List.map_cons, List.nodup_cons] at h
    rw [List.lookup_cons, List.mem_cons]
    by_cases hk : k == k₀
    · obtain rfl : k = k₀ := eq_of_beq hk
      have hnot : (k, a) ∉ d := fun hmem => h.1 (List.mem_map.mpr ⟨_, hmem, rfl⟩)
      simp [hnot, eq_comm]
    · rw [Bool.of_not_eq_true hk, ih h.2]
      simp [beq_eq_false_iff_ne.mp (Bool.of_not_eq_true hk)]

omit [LawfulBEq κ] in
/-- A lookup after a map of the values. -/
theorem lookup_map_value {β : Type} (f : α → β) (k : κ) (d : List (κ × α)) :
    (d.map fun m => (m.1, f m.2)).lookup k = (d.lookup k).map f := by
  induction d with
  | nil => rfl
  | cons m d ih =>
    rw [List.map_cons, List.lookup_cons, List.lookup_cons]
    cases k == m.1 with
    | true => rfl
    | false => exact ih

/-- With distinct keys the order of the pairs does not matter to a lookup. -/
theorem lookup_perm {d d' : List (κ × α)} (hp : d.Perm d') (h : (d.map Prod.fst).Nodup) (k : κ) :
    d.lookup k = d'.lookup k := by
  have h' : (d'.map Prod.fst).Nodup := (hp.map Prod.fst).nodup_iff.mp h
  ext a
  rw [lookup_eq_some_iff_mem h, lookup_eq_some_iff_mem h', hp.mem_iff]

/-- Assignments keep the keys distinct. -/
theorem nodup_foldl_dictSet (l : List (κ × α)) : ∀ {d : List (κ × α)}, (d.map Prod.fst).Nodup →
    ((l.foldl (fun d m => dictSet d m.1 m.2) d).map Prod.fst).Nodup := by
  induction l with
  | nil => exact fun h => h
  | cons m l ih => exact fun h => ih (nodup_dictSet h)

/-- A sequence of assignments leaves no pairs but its own. -/
theorem mem_of_mem_foldl_dictSet {m : κ × α} (l : List (κ × α)) : ∀ {d : List (κ × α)},
    m ∈ l.foldl (fun d m => dictSet d m.1 m.2) d → m ∈ d ∨ m ∈ l := by
  induction l with
  | nil => exact fun h => .inl h
  | cons first l ih =>
    intro d h
    rcases ih h with hdict | hlater
    · rcases mem_of_mem_dictSet hdict with rfl | hold
      · exact .inr List.mem_cons_self
      · exact .inl hold
    · exact .inr (List.mem_cons_of_mem _ hlater)

/-- The value of the last pair with key `k`. -/
def lastFor (k : κ) (l : List (κ × α)) : Option α := l.reverse.lookup k

omit [LawfulBEq κ] in
theorem lastFor_cons (k : κ) (m : κ × α) (l : List (κ × α)) :
    lastFor k (m :: l) = (lastFor k l).or (if k == m.1 then some m.2 else none) := by
  unfold lastFor
  rw [List.reverse_cons, List.lookup_append]
  congr 1
  obtain ⟨k₀, a₀⟩ := m
  simp only [List.lookup_cons, List.lookup_nil]
  cases k == k₀ <;> rfl

theorem mem_of_lastFor {k : κ} {l : List (κ × α)} {a : α} (h : lastFor k l = some a) :
    (k, a) ∈ l := by
  obtain ⟨_, _, hl, -⟩ := List.lookup_eq_some_iff.mp h
  rw [← List.mem_reverse, hl]
  simp

theorem exists_lastFor_of_mem {m : κ × α} {l : List (κ × α)} (h : m ∈ l) :
    ∃ a, lastFor m.1 l = some a := by
  cases hlast : lastFor m.1 l with
  | some a => exact ⟨a, rfl⟩
  | none =>
    have hmem : m ∈ l.reverse := List.mem_reverse.mpr h
    exact absurd (List.lookup_eq_none_iff.mp hlast m hmem) (by simp)

/-- Where the last pair of a key comes from, when the pairs come from a list element by element:
no later element gives a pair of that key. -/
theorem exists_of_lastFor {β : Type} {R : β → κ × α → Prop} {k : κ} {a : α} :
    ∀ {l : List β} {r : List (κ × α)}, List.Forall₂ R l r → lastFor k r = some a →
      ∃ before x after, l = before ++ x :: after ∧ R x (k, a) ∧
        ∀ x' ∈ after, ∃ y, R x' y ∧ y.1 ≠ k
  | _, _, .nil, h => absurd h (by simp [lastFor])
  | x :: l, m :: r, .cons hx hl, h => by
    rw [lastFor_cons] at h
    cases hr : lastFor k r with
    | some a' =>
      rw [hr, Option.some_or] at h
      obtain ⟨before, x', after, rfl, hx', hafter⟩ := exists_of_lastFor hl (hr.trans h)
      exact ⟨x :: before, x', after, rfl, hx', hafter⟩
    | none =>
      rw [hr, Option.none_or] at h
      obtain ⟨k₀, a₀⟩ := m
      split_ifs at h with hk
      obtain rfl := Option.some.inj h
      obtain rfl : k = k₀ := eq_of_beq hk
      refine ⟨[], x, l, rfl, hx, fun x' hx' => ?_⟩
      obtain ⟨y, hy, hR⟩ := exists_mem_right_of_forall₂ hl x' hx'
      refine ⟨y, hR, ?_⟩
      rintro rfl
      have hne := List.lookup_eq_none_iff.mp hr y (List.mem_reverse.mpr hy)
      exact absurd hne (by simp)

/-- Where the last pair of a key comes from, by its place in the list. -/
theorem exists_getElem?_of_lastFor {β : Type} {R : β → κ × α → Prop} {k : κ} {a : α} {l : List β}
    {r : List (κ × α)} (hl : List.Forall₂ R l r) (h : lastFor k r = some a) :
    ∃ (i : Nat) (x : β), l[i]? = some x ∧ R x (k, a) ∧
      ∀ j : Nat, i < j → ∀ x', l[j]? = some x' → ∃ y, R x' y ∧ y.1 ≠ k := by
  obtain ⟨before, x, after, rfl, hx, hafter⟩ := exists_of_lastFor hl h
  refine ⟨before.length, x, by simp, hx, fun j hj x' hx' => hafter x' ?_⟩
  rw [List.getElem?_append_right (by omega)] at hx'
  obtain ⟨n, rfl⟩ : ∃ n, j = before.length + (n + 1) := ⟨j - before.length - 1, by omega⟩
  rw [Nat.add_sub_cancel_left, List.getElem?_cons_succ] at hx'
  exact List.mem_of_getElem? hx'

/-- **A lookup sees the last assignment to its key**, or what was there before. -/
theorem lookup_foldl_dictSet (k : κ) : ∀ (l d : List (κ × α)),
    (l.foldl (fun d m => dictSet d m.1 m.2) d).lookup k = (lastFor k l).or (d.lookup k)
  | [], d => rfl
  | m :: l, d => by
    rw [List.foldl_cons, lookup_foldl_dictSet k l, lookup_dictSet, lastFor_cons, Option.or_assoc]
    cases k == m.1 <;> rfl

/-- Assigning distinct new keys appends them. -/
theorem foldl_dictSet_of_nodup : ∀ (l d : List (κ × α)), ((d ++ l).map Prod.fst).Nodup →
    l.foldl (fun d m => dictSet d m.1 m.2) d = d ++ l
  | [], d, _ => by rw [List.foldl_nil, List.append_nil]
  | m :: l, d, h => by
    have hm : m.1 ∉ d.map Prod.fst := by
      rw [List.map_append, List.map_cons, List.nodup_append] at h
      exact fun hd => h.2.2 _ hd _ List.mem_cons_self rfl
    rw [List.foldl_cons, dictSet_of_notMem hm, foldl_dictSet_of_nodup l]
    · rw [List.append_assoc, List.singleton_append]
    · rwa [List.append_assoc, List.singleton_append]

end Nlboot.Lib
