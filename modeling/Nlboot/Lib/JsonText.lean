import Nlboot.Lib.Json
import Nlboot.Lib.Utf8

/-!
# JSON text, with two ways to escape strings

`compact` is the encoder with no whitespace: literals, numbers and strings rendered as given, items
and members joined by `,`, names joined to values by `:`. Standard encoders with compact
separators are instances of it; they differ in the escape. `pretty` is the encoder with an
indentation.

* `escapeAscii`: everything outside printable ASCII is escaped, characters above `U+FFFF` as a
  surrogate pair. This is Python's `json.dumps` with its default `ensure_ascii`.
* `escapeMinimal`: only quotes, backslashes and control characters are escaped. This is
  `serde_json`.

Results:
* `compact_congr`, `forall_mem_compact_iff`: what an encoding depends on, and what its characters
  are, text by text.
* **`encoders_agree_iff`**: the two encoders give the same bytes for a document iff none of its
  names and string values has a character at or above `U+007F`.
-/

namespace Nlboot.Lib

variable {N S : Type}

/-! ## The encoder -/

mutual

/-- JSON text without whitespace, for a rendering of strings and of numbers. -/
def compact (str : S → List Char) (num : N → List Char) : Json N S → List Char
  | .null => "null".toList
  | .bool b => if b then "true".toList else "false".toList
  | .num n => num n
  | .str s => str s
  | .arr items => ['['] ++ [','].intercalate (compactItems str num items) ++ [']']
  | .obj members => ['{'] ++ [','].intercalate (compactMembers str num members) ++ ['}']

def compactItems (str : S → List Char) (num : N → List Char) :
    List (Json N S) → List (List Char)
  | [] => []
  | j :: items => compact str num j :: compactItems str num items

def compactMembers (str : S → List Char) (num : N → List Char) :
    Members N S → List (List Char)
  | [] => []
  | (name, j) :: members =>
    (str name ++ [':'] ++ compact str num j) :: compactMembers str num members

end

/-- A string literal: the escapes of the characters between quotes. -/
def quoted (esc : Char → List Char) (s : String) : List Char :=
  ['\"'] ++ s.toList.flatMap esc ++ ['\"']

/-- Items each on a line of its own, two blanks further in than the brackets. -/
def layout (opening closing : Char) (depth : Nat) (items : List (List Char)) : List Char :=
  if items = [] then [opening, closing]
  else
    let line (d : Nat) := '\n' :: List.replicate (2 * d) ' '
    [opening] ++ [','].intercalate (items.map (line (depth + 1) ++ ·)) ++ line depth ++ [closing]

mutual

/-- JSON text over several lines, as encoders with an indentation of two write it. -/
def pretty (str : S → List Char) (num : N → List Char) (depth : Nat) : Json N S → List Char
  | .null => "null".toList
  | .bool b => if b then "true".toList else "false".toList
  | .num n => num n
  | .str s => str s
  | .arr items => layout '[' ']' depth (prettyItems str num (depth + 1) items)
  | .obj members => layout '\x7b' '\x7d' depth (prettyMembers str num (depth + 1) members)

def prettyItems (str : S → List Char) (num : N → List Char) (depth : Nat) :
    List (Json N S) → List (List Char)
  | [] => []
  | j :: items => pretty str num depth j :: prettyItems str num depth items

def prettyMembers (str : S → List Char) (num : N → List Char) (depth : Nat) :
    Members N S → List (List Char)
  | [] => []
  | (name, j) :: members =>
    (str name ++ [':', ' '] ++ pretty str num depth j) :: prettyMembers str num depth members

end

section Encoder

variable {str str' : S → List Char} {num : N → List Char}

theorem compactItems_eq (items : List (Json N S)) :
    compactItems str num items = items.map (compact str num) := by
  induction items with
  | nil => rfl
  | cons j items ih => rw [compactItems, ih, List.map_cons]

theorem compactMembers_eq (members : Members N S) :
    compactMembers str num members =
      members.map fun m => str m.1 ++ [':'] ++ compact str num m.2 := by
  induction members with
  | nil => rfl
  | cons m members ih => obtain ⟨name, j⟩ := m; rw [compactMembers, ih, List.map_cons]

/-- An encoding depends on the rendering of the document's own texts only. -/
theorem compact_congr {j : Json N S} (h : ∀ s ∈ j.texts, str s = str' s) :
    compact str num j = compact str' num j := by
  induction j with
  | null | bool | num => rfl
  | str s => exact h s (by simp [Json.texts])
  | arr items ih =>
    simp only [compact, compactItems_eq]
    rw [List.map_congr_left fun j hj => ih j hj fun s hs =>
      h s (Json.mem_textsItems.mpr ⟨j, hj, hs⟩)]
  | obj members ih =>
    simp only [compact, compactMembers_eq]
    rw [List.map_congr_left fun m hm => ?_]
    rw [h m.1 (Json.mem_textsMembers.mpr ⟨m, hm, Or.inl rfl⟩),
      ih m hm fun s hs => h s (Json.mem_textsMembers.mpr ⟨m, hm, Or.inr hs⟩)]

theorem forall_mem_intercalate {P : Char → Prop} (hsep : P ',') (ls : List (List Char)) :
    (∀ c ∈ [','].intercalate ls, P c) ↔ ∀ l ∈ ls, ∀ c ∈ l, P c := by
  induction ls with
  | nil => simp
  | cons l ls ih =>
    cases ls with
    | nil => simp
    | cons l' ls =>
      rw [List.intercalate_cons_cons]
      simp only [List.mem_append, or_imp, forall_and, List.forall_mem_cons]
      rw [ih]
      simp [hsep]

/-- The fixed characters of JSON text: punctuation and the letters of the literals. -/
def punctuation : List Char := "nulltruefalse[]{},:".toList

/-- **The characters of an encoding**: if the fixed characters and the numbers satisfy `P`, the
encoding does iff the rendering of every text does. -/
theorem forall_mem_compact_iff {P : Char → Prop} (hfix : ∀ c ∈ punctuation, P c)
    (hnum : ∀ n, ∀ c ∈ num n, P c) (j : Json N S) :
    (∀ c ∈ compact str num j, P c) ↔ ∀ s ∈ j.texts, ∀ c ∈ str s, P c := by
  have fixed : ∀ l : List Char, l ⊆ punctuation → ∀ c ∈ l, P c := fun _ hl c hc => hfix c (hl hc)
  induction j with
  | null => simpa [compact, Json.texts] using fixed "null".toList (by decide)
  | bool b =>
    cases b
    · simpa [compact, Json.texts] using fixed "false".toList (by decide)
    · simpa [compact, Json.texts] using fixed "true".toList (by decide)
  | num n => simpa [compact, Json.texts] using hnum n
  | str s => simp [compact, Json.texts]
  | arr items ih =>
    have open' := fixed ['['] (by decide)
    have close' := fixed [']'] (by decide)
    simp only [compact, List.mem_append, or_imp, forall_and, compactItems_eq]
    rw [forall_mem_intercalate (fixed [','] (by decide) ',' (by simp))]
    simp only [Json.texts, Json.mem_textsItems, List.mem_map]
    constructor
    · rintro ⟨⟨-, h⟩, -⟩ s ⟨j, hj, hs⟩
      exact (ih j hj).mp (h _ ⟨j, hj, rfl⟩) s hs
    · refine fun h => ⟨⟨open', ?_⟩, close'⟩
      rintro _ ⟨j, hj, rfl⟩
      exact (ih j hj).mpr fun s hs => h s ⟨j, hj, hs⟩
  | obj members ih =>
    have open' := fixed ['{'] (by decide)
    have close' := fixed ['}'] (by decide)
    have colon := fixed [':'] (by decide)
    simp only [compact, List.mem_append, or_imp, forall_and, compactMembers_eq]
    rw [forall_mem_intercalate (fixed [','] (by decide) ',' (by simp))]
    simp only [Json.texts, Json.mem_textsMembers, List.mem_map]
    constructor
    · rintro ⟨⟨-, h⟩, -⟩ s ⟨m, hm, hs⟩
      have hmem := h _ ⟨m, hm, rfl⟩
      simp only [List.mem_append, or_imp, forall_and] at hmem
      rcases hs with rfl | hs
      · exact hmem.1.1
      · exact (ih m hm).mp hmem.2 s hs
    · refine fun h => ⟨⟨open', ?_⟩, close'⟩
      rintro _ ⟨m, hm, rfl⟩
      simp only [List.mem_append, or_imp, forall_and]
      exact ⟨⟨h m.1 ⟨m, hm, Or.inl rfl⟩, colon⟩,
        (ih m hm).mpr fun s hs => h s ⟨m, hm, Or.inr hs⟩⟩

end Encoder

/-! ## The two escapes -/

/-- Four lowercase hexadecimal digits behind a backslash and a `u`. -/
def escapeUnit (n : Nat) : List Char :=
  ['\\', 'u', (n / 4096 % 16).digitChar, (n / 256 % 16).digitChar, (n / 16 % 16).digitChar,
    (n % 16).digitChar]

/-- The escapes both encoders share: quote, backslash and the short control escapes. -/
def escapeShort (c : Char) : Option (List Char) :=
  if c.toNat = 0x22 then some ['\\', '\"']
  else if c.toNat = 0x5C then some ['\\', '\\']
  else if c.toNat = 0x08 then some ['\\', 'b']
  else if c.toNat = 0x09 then some ['\\', 't']
  else if c.toNat = 0x0A then some ['\\', 'n']
  else if c.toNat = 0x0C then some ['\\', 'f']
  else if c.toNat = 0x0D then some ['\\', 'r']
  else none

/-- `ensure_ascii`: printable ASCII is copied, everything else is escaped. -/
def escapeAscii (c : Char) : List Char :=
  match escapeShort c with
  | some l => l
  | none =>
    if 0x20 ≤ c.toNat ∧ c.toNat ≤ 0x7E then [c]
    else if c.toNat < 0x10000 then escapeUnit c.toNat
    else escapeUnit (0xD800 + (c.toNat - 0x10000) / 1024) ++
      escapeUnit (0xDC00 + (c.toNat - 0x10000) % 1024)

/-- `serde_json`'s `format_escaped_str`: control characters are escaped, the rest is copied. -/
def escapeMinimal (c : Char) : List Char :=
  match escapeShort c with
  | some l => l
  | none =>
    if c.toNat < 0x20 then
      ['\\', 'u', '0', '0', (c.toNat / 16).digitChar, (c.toNat % 16).digitChar]
    else [c]

theorem digitChar_lt (n : Nat) : (n % 16).digitChar.toNat < 0x7F := by
  have h : ∀ k, k < 16 → k.digitChar.toNat < 0x7F := by decide
  exact h _ (Nat.mod_lt n (by omega))

theorem escapeUnit_lt (n : Nat) : ∀ c ∈ escapeUnit n, c.toNat < 0x7F := by
  simp only [escapeUnit, List.forall_mem_cons]
  refine ⟨by decide, by decide, digitChar_lt _, digitChar_lt _, digitChar_lt _, digitChar_lt _, ?_⟩
  exact fun _ h => absurd h List.not_mem_nil

theorem lt_of_all {l : List Char} (h : (l.all fun c => c.toNat < 0x7F) = true) :
    ∀ c ∈ l, c.toNat < 0x7F := by
  simpa using h

theorem escapeShort_lt {c : Char} {l : List Char} (h : escapeShort c = some l) :
    ∀ d ∈ l, d.toNat < 0x7F := by
  unfold escapeShort at h
  split_ifs at h <;> obtain rfl := Option.some.inj h <;> exact lt_of_all (by decide)

/-- The characters escaped alike are below `U+007F`. -/
theorem lt_of_escapeShort {c : Char} {l : List Char} (h : escapeShort c = some l) :
    c.toNat < 0x7F := by
  unfold escapeShort at h
  split_ifs at h <;> omega

/-- `ensure_ascii` writes printable ASCII only. -/
theorem escapeAscii_lt (c : Char) : ∀ d ∈ escapeAscii c, d.toNat < 0x7F := by
  unfold escapeAscii
  cases h : escapeShort c with
  | some l => exact escapeShort_lt h
  | none =>
    simp only
    split_ifs with h1 h2
    · simpa using Nat.lt_succ_of_le h1.2
    · exact escapeUnit_lt _
    · intro d hd
      rcases List.mem_append.mp hd with hd | hd
      · exact escapeUnit_lt _ d hd
      · exact escapeUnit_lt _ d hd

/-- `serde_json` writes a character at or above `U+007F` exactly where the text has one. -/
theorem forall_escapeMinimal_lt_iff (c : Char) :
    (∀ d ∈ escapeMinimal c, d.toNat < 0x7F) ↔ c.toNat < 0x7F := by
  unfold escapeMinimal
  cases h : escapeShort c with
  | some l => exact iff_of_true (escapeShort_lt h) (lt_of_escapeShort h)
  | none =>
    simp only
    split_ifs with h1
    · refine iff_of_true ?_ (by omega)
      simp only [List.forall_mem_cons]
      refine ⟨by decide, by decide, by decide, by decide, ?_, digitChar_lt _,
        fun _ hd => absurd hd List.not_mem_nil⟩
      have : c.toNat / 16 = c.toNat / 16 % 16 := by omega
      rw [this]
      exact digitChar_lt _
    · simp

/-- Below `U+007F` the two escapes coincide. -/
theorem escapeAscii_eq_escapeMinimal {c : Char} (hc : c.toNat < 0x7F) :
    escapeAscii c = escapeMinimal c := by
  unfold escapeAscii escapeMinimal
  cases h : escapeShort c with
  | some l => rfl
  | none =>
    simp only
    by_cases h1 : c.toNat < 0x20
    · rw [if_neg (by omega), if_pos (by omega), if_pos h1]
      have h4 : c.toNat / 4096 % 16 = 0 := by omega
      have h3 : c.toNat / 256 % 16 = 0 := by omega
      have h2 : c.toNat / 16 % 16 = c.toNat / 16 := by omega
      rw [escapeUnit, h4, h3, h2]
      rfl
    · rw [if_pos (by omega), if_neg h1]

/-! ## When the encoders agree -/

/-- Every character of every name and string value is below `U+007F`. -/
def BelowDel (j : Json N) : Prop := ∀ s ∈ j.texts, ∀ c ∈ s.toList, c.toNat < 0x7F

theorem forall_quoted_iff {esc : Char → List Char} (s : String) :
    (∀ c ∈ quoted esc s, c.toNat < 0x7F) ↔ ∀ c ∈ s.toList, ∀ d ∈ esc c, d.toNat < 0x7F := by
  have hq : ∀ d ∈ ['\"'], d.toNat < 0x7F := lt_of_all (by decide)
  unfold quoted
  simp only [List.mem_append, or_imp, forall_and, List.mem_flatMap, forall_exists_index, and_imp]
  constructor
  · rintro ⟨⟨-, h⟩, -⟩ c hc d hd
    exact h d c hc hd
  · exact fun h => ⟨⟨hq, fun d c hc hd => h c hc d hd⟩, hq⟩

/-- **The two encoders agree exactly below `U+007F`.** -/
theorem encoders_agree_iff {num : N → List Char} (hnum : ∀ n, ∀ c ∈ num n, c.toNat < 0x7F)
    (j : Json N) :
    utf8 (compact (quoted escapeMinimal) num j) = utf8 (compact (quoted escapeAscii) num j) ↔
      BelowDel j := by
  have hfix : ∀ c ∈ punctuation, c.toNat < 0x7F := lt_of_all (by decide)
  constructor
  · intro heq
    -- the ASCII side has no byte at or above 0x7F, so neither does the other side
    have hascii : ∀ c ∈ compact (quoted escapeAscii) num j, c.toNat < 0x7F :=
      (forall_mem_compact_iff hfix hnum j).mpr fun s _ =>
        (forall_quoted_iff s).mpr fun c _ => escapeAscii_lt c
    have hbytes := (forall_utf8_lt_iff (by omega) _).mpr hascii
    rw [← heq] at hbytes
    have hmin := (forall_utf8_lt_iff (by omega) _).mp hbytes
    intro s hs c hc
    have := (forall_quoted_iff s).mp ((forall_mem_compact_iff hfix hnum j).mp hmin s hs) c hc
    exact (forall_escapeMinimal_lt_iff c).mp this
  · intro h
    have hstr : ∀ s ∈ j.texts, quoted escapeMinimal s = quoted escapeAscii s := fun s hs => by
      unfold quoted
      rw [List.flatMap_congr fun c hc => (escapeAscii_eq_escapeMinimal (h s hs c hc)).symm]
    rw [compact_congr hstr]

end Nlboot.Lib
