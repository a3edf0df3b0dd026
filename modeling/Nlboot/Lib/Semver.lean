import Nlboot.Lib.Cut

/-!
# Semantic versions

A version is three numbers, the identifiers of a pre-release and those of build metadata.

* `Semver`: a version as the grammar has it. `Semver.text`: its text.
* `Semver.preText`, `Semver.buildText`: the parts after the numbers, with the sign they begin with.
* `Rewriting`: a rewriting of characters that leaves digits and `+` alone, and makes no digit of `.`
  and `-`.

Results:
* **`Semver.map_text_inj`**: versions whose texts such a rewriting makes equal have the same
  numbers, and the same parts after them but for the rewriting.
-/

namespace Nlboot.Lib

/-! ## Versions -/

/-- A character of an identifier: an ASCII letter, a digit or a dash. -/
def isIdentChar (c : Char) : Bool := c.isAlphanum || c == '-'

/-- An identifier, not empty. -/
def IsIdentifier (s : String) : Prop := s ≠ "" ∧ ∀ c ∈ s.toList, isIdentChar c = true

instance (s : String) : Decidable (IsIdentifier s) :=
  decidable_of_iff (s ≠ "" ∧ s.toList.all isIdentChar = true) (by simp [IsIdentifier])

/-- A numeric identifier has no leading zero. -/
def NoLeadingZero (s : String) : Prop :=
  s.toList.all Char.isDigit = true → s.toList.head? = some '0' → s = "0"

instance (s : String) : Decidable (NoLeadingZero s) :=
  inferInstanceAs (Decidable (_ → _ → _))

/-- A semantic version. -/
structure Semver where
  major : ℕ
  minor : ℕ
  patch : ℕ
  pre : List String := []
  build : List String := []
  preValid : ∀ s ∈ pre, IsIdentifier s ∧ NoLeadingZero s := by simp
  buildValid : ∀ s ∈ build, IsIdentifier s := by simp

namespace Semver

/-- Identifiers behind a sign, if there are any. -/
def part (sign : Char) (identifiers : List String) : List Char :=
  if identifiers = [] then [] else sign :: ['.'].intercalate (identifiers.map String.toList)

/-- The pre-release, with its dash. -/
def preText (v : Semver) : List Char := part '-' v.pre

/-- The build metadata, with its plus sign. -/
def buildText (v : Semver) : List Char := part '+' v.build

/-- The characters of a version. -/
def chars (v : Semver) : List Char :=
  Nat.toDigits 10 v.major ++ '.' :: (Nat.toDigits 10 v.minor ++ '.' ::
    (Nat.toDigits 10 v.patch ++ (v.preText ++ v.buildText)))

/-- `MAJOR.MINOR.PATCH-pre+build`. -/
def text (v : Semver) : String := String.ofList v.chars

theorem toList_text (v : Semver) : v.text.toList = v.chars := String.toList_ofList

/-! ## The characters of the parts -/

/-- A part is empty or begins with its sign. -/
theorem part_cases (sign : Char) (identifiers : List String) :
    part sign identifiers = [] ∨ ∃ rest, part sign identifiers = sign :: rest := by
  unfold part
  by_cases h : identifiers = []
  · exact .inl (if_pos h)
  · exact .inr ⟨_, if_neg h⟩

theorem mem_intercalate {sep c : Char} : ∀ {ls : List (List Char)},
    c ∈ [sep].intercalate ls → c = sep ∨ ∃ l ∈ ls, c ∈ l
  | [], hc => absurd hc (by simp)
  | [l], hc => .inr ⟨l, List.mem_singleton_self l, by simpa using hc⟩
  | l :: l' :: ls, hc => by
    rw [List.intercalate_cons_cons, List.mem_append, List.mem_append, List.mem_singleton] at hc
    rcases hc with (hl | rfl) | hrest
    · exact .inr ⟨l, List.mem_cons_self, hl⟩
    · exact .inl rfl
    · exact (mem_intercalate hrest).imp_right fun ⟨m, hm, hcm⟩ =>
        ⟨m, List.mem_cons_of_mem l hm, hcm⟩

/-- What a part is made of. -/
theorem mem_part {sign c : Char} {identifiers : List String}
    (h : ∀ s ∈ identifiers, IsIdentifier s) (hc : c ∈ part sign identifiers) :
    c = sign ∨ c = '.' ∨ isIdentChar c = true := by
  unfold part at hc
  by_cases hnil : identifiers = []
  · rw [if_pos hnil] at hc
    exact absurd hc List.not_mem_nil
  · rw [if_neg hnil] at hc
    rcases List.mem_cons.mp hc with rfl | hrest
    · exact .inl rfl
    · refine .inr ((mem_intercalate hrest).imp_right fun ⟨l, hl, hcl⟩ => ?_)
      obtain ⟨s, hs, rfl⟩ := List.mem_map.mp hl
      exact (h s hs).2 c hcl

theorem plus_notMem_preText (v : Semver) : '+' ∉ v.preText := by
  intro h
  rcases mem_part (fun s hs => (v.preValid s hs).1) h with h | h | h
  · exact absurd h (by decide)
  · exact absurd h (by decide)
  · exact absurd h (by decide)

theorem isIdentChar_of_mem_toDigits {n : ℕ} {c : Char} (h : c ∈ Nat.toDigits 10 n) :
    isIdentChar c = true := by
  unfold isIdentChar Char.isAlphanum
  rw [isDigit_of_mem h, Bool.or_true, Bool.true_or]

/-- What a version is made of. -/
theorem mem_text (v : Semver) {c : Char} (h : c ∈ v.text.toList) :
    c = '.' ∨ c = '+' ∨ isIdentChar c = true := by
  rw [toList_text, chars] at h
  simp only [List.mem_append, List.mem_cons] at h
  rcases h with h | rfl | h | rfl | h | h | h
  · exact .inr (.inr (isIdentChar_of_mem_toDigits h))
  · exact .inl rfl
  · exact .inr (.inr (isIdentChar_of_mem_toDigits h))
  · exact .inl rfl
  · exact .inr (.inr (isIdentChar_of_mem_toDigits h))
  · rcases mem_part (fun s hs => (v.preValid s hs).1) h with rfl | h | h
    · exact .inr (.inr rfl)
    · exact .inl h
    · exact .inr (.inr h)
  · rcases mem_part v.buildValid h with h | h | h
    · exact .inr (.inl h)
    · exact .inl h
    · exact .inr (.inr h)

/-- A rewriting of characters that leaves digits and `+` alone, and makes no digit of `.` and
`-`. -/
structure Rewriting (f : Char → Char) : Prop where
  digit : ∀ c, c.isDigit = true → f c = c
  plus : ∀ c, f c = '+' ↔ c = '+'
  dot : (f '.').isDigit = false
  dash : (f '-').isDigit = false

variable {f : Char → Char}

theorem Rewriting.map_toDigits (hf : Rewriting f) (n : ℕ) :
    (Nat.toDigits 10 n).map f = Nat.toDigits 10 n :=
  (List.map_congr_left fun c hc => hf.digit c (isDigit_of_mem hc)).trans (List.map_id _)

theorem Rewriting.map_chars (hf : Rewriting f) (v : Semver) : v.chars.map f =
    Nat.toDigits 10 v.major ++ f '.' :: (Nat.toDigits 10 v.minor ++ f '.' ::
      (Nat.toDigits 10 v.patch ++ (v.preText.map f ++ v.buildText.map f))) := by
  unfold chars
  simp only [List.map_append, List.map_cons, hf.map_toDigits]

/-- What follows the numbers of a version is no digit. -/
theorem Rewriting.stops_parts (hf : Rewriting f) (v : Semver) :
    Stops (fun c => c.isDigit = true) (v.preText.map f ++ v.buildText.map f) := by
  have hplus : f '+' = '+' := (hf.plus '+').mpr rfl
  rcases part_cases '-' v.pre with hpre | ⟨pre, hpre⟩
  · rcases part_cases '+' v.build with hbuild | ⟨build, hbuild⟩
    · rw [preText, buildText, hpre, hbuild]
      exact stops_nil _
    · rw [preText, buildText, hpre, hbuild, List.map_nil, List.nil_append, List.map_cons, hplus]
      exact stops_cons (by decide) _
  · rw [preText, hpre, List.map_cons, List.cons_append]
    exact stops_cons (by rw [hf.dash]; simp) _

/-- The pre-release ends where the build metadata begins. -/
theorem Rewriting.stops_build (hf : Rewriting f) (v : Semver) :
    Stops (fun c => c ≠ '+') (v.buildText.map f) := by
  have hplus : f '+' = '+' := (hf.plus '+').mpr rfl
  rcases part_cases '+' v.build with hbuild | ⟨build, hbuild⟩
  · rw [buildText, hbuild]
    exact stops_nil _
  · rw [buildText, hbuild, List.map_cons, hplus]
    exact stops_cons (by simp) _

theorem Rewriting.plus_notMem (hf : Rewriting f) (v : Semver) : ∀ c ∈ v.preText.map f, c ≠ '+' := by
  rintro c hc rfl
  obtain ⟨d, hd, hfd⟩ := List.mem_map.mp hc
  exact v.plus_notMem_preText ((hf.plus d).mp hfd ▸ hd)

/-- **Versions under a rewriting**: their texts become equal iff their numbers are equal and the
parts after them become equal. -/
theorem map_text_inj (hf : Rewriting f) {v w : Semver} :
    v.text.toList.map f = w.text.toList.map f ↔
      v.major = w.major ∧ v.minor = w.minor ∧ v.patch = w.patch ∧
        v.preText.map f = w.preText.map f ∧ v.buildText.map f = w.buildText.map f := by
  rw [toList_text, toList_text, hf.map_chars, hf.map_chars]
  have hdot : ∀ rest, Stops (fun c => c.isDigit = true) (f '.' :: rest) :=
    stops_cons (by rw [hf.dot]; simp)
  constructor
  · intro h
    obtain ⟨hmajor, h⟩ := toDigits_append_inj (hdot _) (hdot _) h
    obtain ⟨hminor, h⟩ := toDigits_append_inj (hdot _) (hdot _) (List.tail_eq_of_cons_eq h)
    obtain ⟨hpatch, h⟩ := toDigits_append_inj (hf.stops_parts v) (hf.stops_parts w)
      (List.tail_eq_of_cons_eq h)
    obtain ⟨hpre, hbuild⟩ := append_inj_of_stops (hf.plus_notMem v) (hf.plus_notMem w)
      (hf.stops_build v) (hf.stops_build w) h
    exact ⟨hmajor, hminor, hpatch, hpre, hbuild⟩
  · rintro ⟨hmajor, hminor, hpatch, hpre, hbuild⟩
    rw [hmajor, hminor, hpatch, hpre, hbuild]

end Semver

end Nlboot.Lib
