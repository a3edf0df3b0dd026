import Mathlib.Data.List.Chain
import Nlboot.Lib.JsonCode

/-!
# Texts of code points

The texts of some languages are lists of code points, and surrogates may stand in them, which have
no UTF-8 form. An encoder that escapes everything outside ASCII writes them all the same, one unit
of UTF-16 after the other. So it writes a code point above `U+FFFF` and its two surrogates alike.

* `CodePoint.units`, `utf16`: the units of a text. A surrogate is a unit of its own.
* `literal`: the string literal that is written for a text.
* `join`: the text that is read back. It joins a high surrogate and the low one behind it.
* `JoinedText`: a text without such a split pair.

Results:
* **`literal_append_inj`**: a literal can be told from what follows it, and is one of one UTF-16
  form.
* `join_utf16`, **`textCode_literal`**: texts without split pairs have literals of their own.
* `literal_codePoints`: the literal of a Unicode text is that of `escapeAscii`.
  `literal_eq_codePoints_iff`: only split pairs share it.
-/

namespace Nlboot.Lib

/-! ## Code points and units -/

/-- A Unicode code point, which may be a surrogate. -/
@[ext]
structure CodePoint where
  toNat : Nat
  valid : toNat < 0x110000
  deriving DecidableEq

/-- A unit of UTF-16. -/
abbrev CodeUnit := Fin 0x10000

/-- A high surrogate. -/
def IsHigh (n : Nat) : Prop := 0xD800 ≤ n ∧ n < 0xDC00

/-- A low surrogate. -/
def IsLow (n : Nat) : Prop := 0xDC00 ≤ n ∧ n < 0xE000

instance (n : Nat) : Decidable (IsHigh n) := inferInstanceAs (Decidable (_ ∧ _))
instance (n : Nat) : Decidable (IsLow n) := inferInstanceAs (Decidable (_ ∧ _))

/-- The units of a code point: above `U+FFFF` a high and a low surrogate. -/
def CodePoint.units (p : CodePoint) : List CodeUnit :=
  if h : p.toNat < 0x10000 then [⟨p.toNat, h⟩]
  else
    have := p.valid
    [⟨0xD800 + (p.toNat - 0x10000) / 1024, by omega⟩,
      ⟨0xDC00 + (p.toNat - 0x10000) % 1024, by omega⟩]

/-- The units of a text. -/
def utf16 (text : List CodePoint) : List CodeUnit := text.flatMap CodePoint.units

/-- A character is a code point, and no surrogate. -/
theorem toNat_valid (c : Char) : c.toNat < 0x110000 ∧ ¬ (0xD800 ≤ c.toNat ∧ c.toNat < 0xE000) := by
  have hvalid := c.valid
  have hval : c.val.toNat = c.toNat := rfl
  simp only [UInt32.isValidChar, Nat.isValidChar, hval] at hvalid
  omega

def CodePoint.ofChar (c : Char) : CodePoint := ⟨c.toNat, (toNat_valid c).1⟩

/-- The code points of a Unicode text. -/
def codePoints (s : String) : List CodePoint := s.toList.map CodePoint.ofChar

theorem units_of_lt {p : CodePoint} (h : p.toNat < 0x10000) : p.units = [⟨p.toNat, h⟩] := dif_pos h

/-- A code point above `U+FFFF` has a high and a low surrogate, which give it back. -/
theorem units_of_not_lt {p : CodePoint} (h : ¬ p.toNat < 0x10000) : ∃ high low : CodeUnit,
    p.units = [high, low] ∧ IsHigh high ∧ IsLow low ∧
      0x10000 + (high.val - 0xD800) * 1024 + (low.val - 0xDC00) = p.toNat := by
  have hvalid := p.valid
  refine ⟨_, _, dif_neg h, ?_, ?_, ?_⟩
  · unfold IsHigh
    simp only
    omega
  · unfold IsLow
    simp only
    omega
  · simp only
    omega

/-! ## Literals -/

/-- The escape of a unit: a surrogate by its number, any other as a character. -/
def escapeCodeUnit (u : CodeUnit) : List Char :=
  if 0xD800 ≤ u.val ∧ u.val < 0xE000 then escapeUnit u.val else escapeAscii (Char.ofNat u.val)

/-- The string literal of a text. -/
def literal (text : List CodePoint) : List Char :=
  ['\"'] ++ (utf16 text).flatMap escapeCodeUnit ++ ['\"']

/-- The first unit of a text with escapes, and what follows it. -/
def readCodeUnit : List Char → Option (CodeUnit × List Char)
  | [] => none
  | '\\' :: 'u' :: rest => (readUnit rest).map fun read => (Fin.ofNat _ read.1, read.2)
  | '\\' :: c :: rest => (unescapeShort c).map fun d => (Fin.ofNat _ d.toNat, rest)
  | c :: rest => some (Fin.ofNat _ c.toNat, rest)

theorem toNat_ofNat_of_isValidChar {n : Nat} (h : n.isValidChar) : (Char.ofNat n).toNat = n := by
  rw [Char.ofNat, dif_pos h]
  rfl

theorem ofNat_codeUnit (u : CodeUnit) : Fin.ofNat 0x10000 u.val = u :=
  Fin.ext (Nat.mod_eq_of_lt u.isLt)

theorem readCodeUnit_escapeUnit (u : CodeUnit) (rest : List Char) :
    readCodeUnit (escapeUnit u.val ++ rest) = some (u, rest) := by
  rw [escapeUnit_eq, List.cons_append, List.cons_append, readCodeUnit, readUnit_digits u.isLt,
    Option.map_some, ofNat_codeUnit]

theorem readCodeUnit_escapeShort {c : Char} {l : List Char} (h : escapeShort c = some l)
    (rest : List Char) : readCodeUnit (l ++ rest) = some (Fin.ofNat _ c.toNat, rest) := by
  unfold escapeShort at h
  split_ifs at h with h1 h2 h3 h4 h5 h6 h7 <;> obtain rfl := Option.some.inj h
  · rw [h1]; rfl
  · rw [h2]; rfl
  · rw [h3]; rfl
  · rw [h4]; rfl
  · rw [h5]; rfl
  · rw [h6]; rfl
  · rw [h7]; rfl

theorem readCodeUnit_plain {c : Char} (h : c ≠ '\\') (rest : List Char) :
    readCodeUnit (c :: rest) = some (Fin.ofNat _ c.toNat, rest) := by
  rw [readCodeUnit]
  · exact fun _ hc => absurd hc h
  · exact fun _ _ hc => absurd hc h

/-- **The escape of a unit** is read back. -/
theorem escapes_codeUnit : Escapes readCodeUnit escapeCodeUnit := by
  refine ⟨fun u rest => ?_, fun u rest other => ?_⟩
  · unfold escapeCodeUnit
    split_ifs with hsurrogate
    · exact readCodeUnit_escapeUnit u rest
    · have hu := u.isLt
      have hchar : (Char.ofNat u.val).toNat = u.val :=
        toNat_ofNat_of_isValidChar (by unfold Nat.isValidChar; omega)
      unfold escapeAscii
      cases hshort : escapeShort (Char.ofNat u.val) with
      | some l => rw [readCodeUnit_escapeShort hshort, hchar, ofNat_codeUnit]
      | none =>
        have hbackslash : Char.ofNat u.val ≠ '\\' := by
          intro h
          rw [h] at hshort
          exact absurd hshort (by decide)
        simp only
        split_ifs with hprint hplane
        · rw [List.cons_append, List.nil_append, readCodeUnit_plain hbackslash, hchar,
            ofNat_codeUnit]
        · rw [hchar, readCodeUnit_escapeUnit]
        · exact absurd (by omega) hplane
  · unfold escapeCodeUnit
    split_ifs
    · exact fun h => absurd (List.head_eq_of_cons_eq h) (by decide)
    · exact escapes_ascii.quote _ rest other

/-- **A literal** can be told from what follows it, up to the UTF-16 form of its text. -/
theorem literal_append_inj {s t : List CodePoint} {r r' : List Char}
    (h : literal s ++ r = literal t ++ r') : utf16 s = utf16 t ∧ r = r' := by
  unfold literal at h
  simp only [List.append_assoc, List.cons_append, List.nil_append, List.cons.injEq, true_and] at h
  exact escaped_append_inj escapes_codeUnit h

/-- Texts have one literal iff they have one UTF-16 form. -/
theorem literal_eq_iff {s t : List CodePoint} : literal s = literal t ↔ utf16 s = utf16 t := by
  constructor
  · intro h
    exact (literal_append_inj (congrArg (· ++ []) h)).1
  · intro h
    unfold literal
    rw [h]

/-! ## Split pairs -/

/-- The code points that units are read as: a high surrogate is joined with a low one behind it. -/
def join : List CodeUnit → List CodePoint
  | [] => []
  | [u] => [⟨u.val, by omega⟩]
  | u :: v :: rest =>
    if h : IsHigh u ∧ IsLow v then
      have := h.1.2
      have := h.2.2
      ⟨0x10000 + (u.val - 0xD800) * 1024 + (v.val - 0xDC00), by omega⟩ :: join rest
    else ⟨u.val, by omega⟩ :: join (v :: rest)

/-- No high surrogate of the text has a low one behind it. -/
def Joined (text : List CodePoint) : Prop :=
  text.IsChain fun p q => ¬ (IsHigh p.toNat ∧ IsLow q.toNat)

theorem join_cons {u : CodeUnit} {us : List CodeUnit} (h : ∀ v ∈ us.head?, ¬ (IsHigh u ∧ IsLow v)) :
    join (u :: us) = ⟨u.val, by omega⟩ :: join us := by
  cases us with
  | nil => rfl
  | cons v us => exact dif_neg (h v rfl)

/-- **A text without split pairs** is read back from its units. -/
theorem join_utf16 : ∀ {text : List CodePoint}, Joined text → join (utf16 text) = text
  | [], _ => rfl
  | p :: text, h => by
    obtain ⟨hnext, htail⟩ := List.isChain_cons.mp h
    have ih : join (utf16 text) = text := join_utf16 htail
    have hcons : utf16 (p :: text) = p.units ++ utf16 text := List.flatMap_cons
    rw [hcons]
    by_cases hp : p.toNat < 0x10000
    · rw [units_of_lt hp, List.cons_append, List.nil_append, join_cons, ih]
      rintro v hv ⟨hhigh, hlow⟩
      cases text with
      | nil => exact absurd hv (by simp [utf16])
      | cons q text =>
        -- the unit behind is the first of the next code point
        have hbehind : utf16 (q :: text) = q.units ++ utf16 text := List.flatMap_cons
        rw [hbehind] at hv
        by_cases hq : q.toNat < 0x10000
        · rw [units_of_lt hq] at hv
          obtain rfl := Option.some.inj hv
          exact hnext q rfl ⟨hhigh, hlow⟩
        · obtain ⟨high, low, hunits, hhigh', -⟩ := units_of_not_lt hq
          rw [hunits] at hv
          obtain rfl := Option.some.inj hv
          exact absurd hlow.1 (by have := hhigh'.2; omega)
    · obtain ⟨high, low, hunits, hhigh, hlow, hsum⟩ := units_of_not_lt hp
      rw [hunits]
      show join (high :: low :: utf16 text) = p :: text
      rw [join, dif_pos ⟨hhigh, hlow⟩, ih]
      exact congrArg (· :: text) (CodePoint.ext hsum)

/-- A text without split pairs. -/
structure JoinedText where
  points : List CodePoint
  joined : Joined points
  deriving DecidableEq

/-- **Texts without split pairs** have literals of their own. -/
theorem textCode_literal : TextCode fun text : JoinedText => literal text.points where
  opens _ := ⟨_, rfl⟩
  append_inj := by
    rintro ⟨s, hs⟩ ⟨t, ht⟩ r r' h
    obtain ⟨hunits, hr⟩ := literal_append_inj h
    have hpoints : s = t := by rw [← join_utf16 hs, hunits, join_utf16 ht]
    subst hpoints
    exact ⟨rfl, hr⟩

/-! ## Unicode texts -/

/-- The escapes of the units of a character are that of the character. -/
theorem escape_units {p : CodePoint} {c : Char} (h : p.toNat = c.toNat) :
    p.units.flatMap escapeCodeUnit = escapeAscii c := by
  obtain ⟨hvalid, hsurrogate⟩ := toNat_valid c
  by_cases hplane : p.toNat < 0x10000
  · rw [units_of_lt hplane, List.flatMap_singleton, escapeCodeUnit]
    simp only [h]
    rw [if_neg hsurrogate, Char.ofNat_toNat]
  · have hunits : p.units = _ := dif_neg hplane
    have hshort : escapeShort c = none := by
      cases hc : escapeShort c with
      | none => rfl
      | some l => exact absurd (lt_of_escapeShort hc) (by omega)
    unfold escapeAscii
    rw [hunits, hshort, List.flatMap_cons, List.flatMap_singleton, escapeCodeUnit, escapeCodeUnit]
    simp only [h]
    rw [if_pos (by omega), if_pos (by omega), if_neg (by omega), if_neg (by omega)]

/-- **The literal of a Unicode text** escapes its characters. -/
theorem literal_codePoints (s : String) : literal (codePoints s) = quoted escapeAscii s := by
  unfold literal quoted utf16 codePoints
  rw [List.flatMap_map, List.flatMap_assoc]
  rw [List.flatMap_congr fun c _ => escape_units (p := CodePoint.ofChar c) (c := c) rfl]

/-- A Unicode text has no surrogates, so no split pairs. -/
theorem joined_codePoints (s : String) : Joined (codePoints s) := by
  unfold Joined codePoints
  rw [List.isChain_map]
  refine List.Pairwise.isChain (List.pairwise_of_forall fun c d h => ?_)
  have hhigh : 0xD800 ≤ c.toNat ∧ c.toNat < 0xDC00 := h.1
  exact (toNat_valid c).2 (by omega)

/-- A text without split pairs has the literal of a Unicode text only if it is that text. -/
theorem literal_eq_codePoints_iff {text : List CodePoint} (h : Joined text) {s : String} :
    literal text = literal (codePoints s) ↔ text = codePoints s := by
  refine ⟨fun hliteral => ?_, fun htext => congrArg literal htext⟩
  rw [← join_utf16 h, literal_eq_iff.mp hliteral, join_utf16 (joined_codePoints s)]

end Nlboot.Lib
