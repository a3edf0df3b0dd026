import Nlboot.Lib.Cut
import Nlboot.Lib.Hex
import Nlboot.Lib.JsonText

/-!
# JSON text is uniquely decodable

Two documents with one compact text are one document. The text has no lengths in it, so the proof
reads it from the left: the first character of a value says what kind it is, a string ends at the
first quote that is not escaped, a number at the first delimiter, and a bracket closes what it
opened.

* `unescape`: reads one escape back. `Escapes`: an escape that is read back; `escapes_ascii` and
  `escapes_minimal` say that both encoders' are.
* `TextCode`, `NumberTexts`: what is asked of the rendering of texts and of numbers.
* `Ends`: what may follow a value.

Results:
* `quoted_append_inj`: a string literal can be told from what follows it.
* `separated_append_inj`: so can a list of values between brackets, if its values can.
* **`compact_injective`**: the compact encoder is injective; `compact_ofTexts_inj`: on objects of
  texts it is whatever the rendering of numbers.
* `numberTexts_decimalInt`: decimal integers are a rendering as asked.
-/

namespace Nlboot.Lib

variable {N S α : Type}

/-! ## One escape -/

/-- The character of a short escape. -/
def unescapeShort (c : Char) : Option Char :=
  if c = '\"' then some '\"'
  else if c = '\\' then some '\\'
  else if c = 'b' then some (Char.ofNat 0x08)
  else if c = 't' then some '\t'
  else if c = 'n' then some '\n'
  else if c = 'f' then some (Char.ofNat 0x0C)
  else if c = 'r' then some '\r'
  else none

/-- The four digits of a code unit, and what follows them. -/
def readUnit : List Char → Option (Nat × List Char)
  | a :: b :: c :: d :: rest =>
    match hexValue a, hexValue b, hexValue c, hexValue d with
    | some a, some b, some c, some d => some (((a * 16 + b) * 16 + c) * 16 + d, rest)
    | _, _, _, _ => none
  | _ => none

/-- The first character of a text with escapes, and what follows it. -/
def unescape : List Char → Option (Char × List Char)
  | [] => none
  | '\\' :: 'u' :: rest =>
    match readUnit rest with
    | none => none
    | some (unit, rest) =>
      if 0xD800 ≤ unit ∧ unit < 0xDC00 then
        (readUnit (rest.drop 2)).map fun low =>
          (Char.ofNat (0x10000 + (unit - 0xD800) * 1024 + (low.1 - 0xDC00)), low.2)
      else some (Char.ofNat unit, rest)
  | '\\' :: c :: rest => (unescapeShort c).map fun d => (d, rest)
  | c :: rest => some (c, rest)

theorem escapeUnit_eq (n : Nat) : escapeUnit n = '\\' :: 'u' :: [(n / 4096 % 16).digitChar,
    (n / 256 % 16).digitChar, (n / 16 % 16).digitChar, (n % 16).digitChar] := rfl

theorem readUnit_digits {n : Nat} (h : n < 65536) (rest : List Char) :
    readUnit ([(n / 4096 % 16).digitChar, (n / 256 % 16).digitChar, (n / 16 % 16).digitChar,
      (n % 16).digitChar] ++ rest) = some (n, rest) := by
  have hdigit : ∀ k : Nat, hexValue (k % 16).digitChar = some (k % 16) :=
    fun k => (hexValue_digitChar (Nat.mod_lt k (by omega))).1
  have hsum : ((n / 4096 % 16 * 16 + n / 256 % 16) * 16 + n / 16 % 16) * 16 + n % 16 = n := by
    omega
  simp only [List.cons_append, List.nil_append, readUnit, hdigit, hsum]

theorem unescape_escapeUnit {n : Nat} (h : n < 65536) (hlow : ¬ (0xD800 ≤ n ∧ n < 0xDC00))
    (rest : List Char) : unescape (escapeUnit n ++ rest) = some (Char.ofNat n, rest) := by
  rw [escapeUnit_eq, List.cons_append, List.cons_append, unescape, readUnit_digits h]
  simp only [if_neg hlow]

theorem unescape_escapePair {n m : Nat} (hn : 0xD800 ≤ n ∧ n < 0xDC00) (hm : m < 65536)
    (rest : List Char) : unescape (escapeUnit n ++ escapeUnit m ++ rest) =
      some (Char.ofNat (0x10000 + (n - 0xD800) * 1024 + (m - 0xDC00)), rest) := by
  rw [escapeUnit_eq n, List.append_assoc, List.cons_append, List.cons_append, unescape,
    readUnit_digits (by omega)]
  simp only [if_pos hn]
  rw [escapeUnit_eq m, List.cons_append, List.cons_append, List.drop_succ_cons,
    List.drop_succ_cons, List.drop_zero, readUnit_digits hm]
  rfl

theorem unescape_plain {c : Char} (h : c ≠ '\\') (rest : List Char) :
    unescape (c :: rest) = some (c, rest) := by
  rw [unescape]
  · exact fun _ hc => absurd hc h
  · exact fun _ _ hc => absurd hc h

theorem unescape_escapeShort {c : Char} {l : List Char} (h : escapeShort c = some l)
    (rest : List Char) : unescape (l ++ rest) = some (c, rest) := by
  have hchar : ∀ n, c.toNat = n → c = Char.ofNat n := fun n hn => hn ▸ (Char.ofNat_toNat c).symm
  unfold escapeShort at h
  split_ifs at h with h1 h2 h3 h4 h5 h6 h7 <;> obtain rfl := Option.some.inj h
  · rw [hchar _ h1]; rfl
  · rw [hchar _ h2]; rfl
  · rw [hchar _ h3]; rfl
  · rw [hchar _ h4]; rfl
  · rw [hchar _ h5]; rfl
  · rw [hchar _ h6]; rfl
  · rw [hchar _ h7]; rfl

/-- **An escaped character is read back**, whatever follows it. -/
theorem unescape_escapeAscii (c : Char) (rest : List Char) :
    unescape (escapeAscii c ++ rest) = some (c, rest) := by
  unfold escapeAscii
  cases hshort : escapeShort c with
  | some l => exact unescape_escapeShort hshort rest
  | none =>
    have hbackslash : c ≠ '\\' := by
      rintro rfl
      exact absurd hshort (by decide)
    have hvalid := c.valid
    have hval : c.val.toNat = c.toNat := rfl
    simp only [UInt32.isValidChar, Nat.isValidChar, hval] at hvalid
    simp only
    split_ifs with hprint hplane
    · rw [List.cons_append, List.nil_append]
      exact unescape_plain hbackslash rest
    · rw [unescape_escapeUnit hplane (by omega), Char.ofNat_toNat]
    · rw [unescape_escapePair (by omega) (by omega)]
      have hsum : 0x10000 + (0xD800 + (c.toNat - 0x10000) / 1024 - 0xD800) * 1024 +
          (0xDC00 + (c.toNat - 0x10000) % 1024 - 0xDC00) = c.toNat := by omega
      rw [hsum, Char.ofNat_toNat]

/-- An escape of symbols that is read back, and does not begin as the closing quote does. -/
structure Escapes (read : List Char → Option (α × List Char)) (esc : α → List Char) : Prop where
  reads : ∀ a rest, read (esc a ++ rest) = some (a, rest)
  quote : ∀ a rest other, esc a ++ rest ≠ '\"' :: other

/-- An escape of characters that is read back is one, if it escapes the quote. -/
theorem escapes_of_unescape {esc : Char → List Char}
    (hreads : ∀ c rest, unescape (esc c ++ rest) = some (c, rest))
    (hquote : esc '\"' = ['\\', '\"']) : Escapes unescape esc := by
  refine ⟨hreads, fun c rest other h => ?_⟩
  have hread := hreads c rest
  rw [h, unescape_plain (by decide)] at hread
  obtain ⟨rfl, rfl⟩ := Prod.mk.inj (Option.some.inj hread)
  rw [hquote] at h
  exact absurd (List.head_eq_of_cons_eq h) (by decide)

theorem escapes_ascii : Escapes unescape escapeAscii :=
  escapes_of_unescape unescape_escapeAscii (by decide)

/-- **The minimal escape is read back** too. -/
theorem escapes_minimal : Escapes unescape escapeMinimal := by
  refine escapes_of_unescape (fun c rest => ?_) (by decide)
  by_cases hlow : c.toNat < 0x7F
  · rw [← escapeAscii_eq_escapeMinimal hlow, unescape_escapeAscii]
  · have hshort : escapeShort c = none := by
      cases h : escapeShort c with
      | none => rfl
      | some l => exact absurd (lt_of_escapeShort h) hlow
    have hbackslash : c ≠ '\\' := by
      rintro rfl
      exact absurd hshort (by decide)
    have hcopied : escapeMinimal c = [c] := by
      unfold escapeMinimal
      rw [hshort]
      exact if_neg (by omega)
    rw [hcopied, List.cons_append, List.nil_append, unescape_plain hbackslash]

/-! ## String literals -/

/-- The symbols up to the closing quote can be told from what follows. -/
theorem escaped_append_inj {read : List Char → Option (α × List Char)} {esc : α → List Char}
    (hesc : Escapes read esc) : ∀ {cs cs' : List α} {r r' : List Char},
    cs.flatMap esc ++ '\"' :: r = cs'.flatMap esc ++ '\"' :: r' → cs = cs' ∧ r = r'
  | [], [], _, _, h => ⟨rfl, List.tail_eq_of_cons_eq h⟩
  | [], c :: cs, _, _, h => by
    rw [List.flatMap_cons, List.append_assoc] at h
    exact absurd h.symm (hesc.quote c _ _)
  | c :: cs, [], _, _, h => by
    rw [List.flatMap_cons, List.append_assoc] at h
    exact absurd h (hesc.quote c _ _)
  | c :: cs, c' :: cs', _, _, h => by
    rw [List.flatMap_cons, List.flatMap_cons, List.append_assoc, List.append_assoc] at h
    have hread := congrArg read h
    rw [hesc.reads, hesc.reads] at hread
    obtain ⟨rfl, hrest⟩ := Prod.mk.inj (Option.some.inj hread)
    obtain ⟨rfl, hr⟩ := escaped_append_inj hesc hrest
    exact ⟨rfl, hr⟩

/-- **A string literal** can be told from what follows it. -/
theorem quoted_append_inj {esc : Char → List Char} (hesc : Escapes unescape esc) {s s' : String}
    {r r' : List Char} (h : quoted esc s ++ r = quoted esc s' ++ r') : s = s' ∧ r = r' := by
  unfold quoted at h
  simp only [List.append_assoc, List.cons_append, List.nil_append, List.cons.injEq, true_and] at h
  obtain ⟨hs, hr⟩ := escaped_append_inj hesc h
  exact ⟨String.toList_inj.mp hs, hr⟩

/-- A rendering of texts as string literals: it begins with a quote, and can be told from what
follows it. -/
structure TextCode (str : S → List Char) : Prop where
  opens : ∀ s, ∃ cs, str s = '\"' :: cs
  append_inj : ∀ {s s' r r'}, str s ++ r = str s' ++ r' → s = s' ∧ r = r'

/-- **String literals** are such a rendering. -/
theorem textCode_quoted {esc : Char → List Char} (hesc : Escapes unescape esc) :
    TextCode (quoted esc) where
  opens _ := ⟨_, rfl⟩
  append_inj := quoted_append_inj hesc

/-! ## Values -/

/-- The kind of a value. -/
def Json.kind : Json N S → Nat
  | .null => 0
  | .bool _ => 1
  | .num _ => 2
  | .str _ => 3
  | .arr _ => 4
  | .obj _ => 5

/-- The kind of a value by its first character. -/
def kindOf (c : Char) : Nat :=
  if c = 'n' then 0
  else if c = 't' ∨ c = 'f' then 1
  else if c = '\"' then 3
  else if c = '[' then 4
  else if c = '\x7b' then 5
  else 2

/-- What follows a value inside another one. -/
def delimiters : List Char := [',', ']', '\x7d']

/-- The rendering of numbers is one to one, begins as no other value does, and has no character in
it that follows a value. -/
structure NumberTexts (num : N → List Char) : Prop where
  injective : Function.Injective num
  first : ∀ n, ∃ c cs, num n = c :: cs ∧ kindOf c = 2
  plain : ∀ n, ∀ c ∈ num n, c ∉ delimiters

/-- The end, or a delimiter. -/
def Ends (rest : List Char) : Prop := ∀ c ∈ rest.head?, c ∈ delimiters

theorem ends_cons {c : Char} (h : c ∈ delimiters) (rest : List Char) : Ends (c :: rest) := by
  intro d hd
  obtain rfl := Option.some.inj hd
  exact h

/-- Texts without delimiters can be told from what follows them. -/
theorem plain_append_inj {cs cs' r r' : List Char} (hcs : ∀ c ∈ cs, c ∉ delimiters)
    (hcs' : ∀ c ∈ cs', c ∉ delimiters) (hr : Ends r) (hr' : Ends r') (h : cs ++ r = cs' ++ r') :
    cs = cs' ∧ r = r' := by
  have hstops : ∀ {rest}, Ends rest → Stops (fun c => c ∉ delimiters) rest :=
    fun hends c hc hnot => hnot (hends c hc)
  exact append_inj_of_stops hcs hcs' (hstops hr) (hstops hr') h

/-! ## Lists of values -/

theorem intercalate_cons (x : List Char) (xs : List (List Char)) :
    [','].intercalate (x :: xs) = x ++ xs.flatMap (',' :: ·) := by
  induction xs generalizing x with
  | nil => simp
  | cons y xs ih =>
    rw [List.intercalate_cons_cons, ih, List.flatMap_cons]
    simp

section

variable {enc : α → List Char} {close : Char} (hclose : close ∈ delimiters) (hcomma : close ≠ ',')

include hclose hcomma

/-- The values after the first can be told from what follows the bracket. -/
theorem following_append_inj : ∀ {xs ys : List α} {r r' : List Char},
    (∀ x ∈ xs, ∀ y r r', Ends r → Ends r' → enc x ++ r = enc y ++ r' → x = y ∧ r = r') →
    xs.flatMap (fun x => ',' :: enc x) ++ close :: r =
      ys.flatMap (fun y => ',' :: enc y) ++ close :: r' → xs = ys ∧ r = r'
  | [], [], _, _, _, h => ⟨rfl, List.tail_eq_of_cons_eq h⟩
  | [], y :: ys, _, _, _, h => absurd (List.head_eq_of_cons_eq h) hcomma
  | x :: xs, [], _, _, _, h => absurd (List.head_eq_of_cons_eq h).symm hcomma
  | x :: xs, y :: ys, r, r', hread, h => by
    have hends : ∀ (zs : List α) (rest : List Char),
        Ends (zs.flatMap (fun z => ',' :: enc z) ++ close :: rest) := by
      intro zs rest
      cases zs with
      | nil => exact ends_cons hclose rest
      | cons z zs => exact ends_cons (by decide) _
    rw [List.flatMap_cons, List.flatMap_cons, List.append_assoc, List.append_assoc,
      List.cons_append, List.cons_append] at h
    obtain ⟨rfl, hrest⟩ := hread x List.mem_cons_self y _ _ (hends xs r) (hends ys r')
      (List.tail_eq_of_cons_eq h)
    obtain ⟨rfl, hr⟩ :=
      following_append_inj (fun z hz => hread z (List.mem_cons_of_mem _ hz)) hrest
    exact ⟨rfl, hr⟩

/-- **A list of values** up to its bracket can be told from what follows, if its values can. -/
theorem separated_append_inj {xs ys : List α} {r r' : List Char}
    (hfirst : ∀ x, ∃ c cs, enc x = c :: cs ∧ c ∉ delimiters)
    (hread : ∀ x ∈ xs, ∀ y r r', Ends r → Ends r' → enc x ++ r = enc y ++ r' → x = y ∧ r = r')
    (h : [','].intercalate (xs.map enc) ++ close :: r =
      [','].intercalate (ys.map enc) ++ close :: r') : xs = ys ∧ r = r' := by
  have hopen : ∀ y rest r, close :: r ≠ enc y ++ rest := by
    intro y rest r heq
    obtain ⟨c, cs, hc, hplain⟩ := hfirst y
    rw [hc] at heq
    exact hplain (List.head_eq_of_cons_eq heq ▸ hclose)
  have htail : ∀ zs : List α, (zs.map enc).flatMap (',' :: ·) = zs.flatMap fun z => ',' :: enc z :=
    fun zs => List.flatMap_map enc (',' :: ·) zs
  cases xs with
  | nil =>
    cases ys with
    | nil => exact ⟨rfl, List.tail_eq_of_cons_eq h⟩
    | cons y ys =>
      rw [List.map_cons, intercalate_cons, List.append_assoc] at h
      exact absurd h (hopen y _ r)
  | cons x xs =>
    cases ys with
    | nil =>
      rw [List.map_cons, intercalate_cons, List.append_assoc] at h
      exact absurd h.symm (hopen x _ r')
    | cons y ys =>
      rw [List.map_cons, List.map_cons, intercalate_cons, intercalate_cons, htail, htail,
        List.append_assoc, List.append_assoc] at h
      -- the first values are read with a comma in front too
      have hcons := congrArg (',' :: ·) h
      refine following_append_inj hclose hcomma hread ?_
      simpa using hcons

end

/-! ## Documents -/

section

variable {str : S → List Char} {num : N → List Char} (hstr : TextCode str)
  (hnum : NumberTexts num)

include hstr hnum

/-- The first character of a value says what kind it is, and is no delimiter. -/
theorem compact_first (j : Json N S) : ∃ c cs, compact str num j = c :: cs ∧
    kindOf c = j.kind ∧ c ∉ delimiters := by
  cases j with
  | null => exact ⟨'n', _, rfl, rfl, by decide⟩
  | bool b =>
    cases b with
    | false => exact ⟨'f', _, rfl, rfl, by decide⟩
    | true => exact ⟨'t', _, rfl, rfl, by decide⟩
  | num n =>
    obtain ⟨c, cs, hn, hkind⟩ := hnum.first n
    exact ⟨c, cs, hn, hkind, hnum.plain n c (hn ▸ List.mem_cons_self)⟩
  | str s =>
    obtain ⟨cs, hs⟩ := hstr.opens s
    exact ⟨'\"', cs, hs, rfl, by decide⟩
  | arr items => exact ⟨'[', _, rfl, rfl, by decide⟩
  | obj members => exact ⟨'\x7b', _, rfl, rfl, by decide⟩

/-- Values with one text are of one kind. -/
theorem kind_eq_of_compact {j j' : Json N S} {r r' : List Char}
    (h : compact str num j ++ r = compact str num j' ++ r') :
    j.kind = j'.kind := by
  obtain ⟨c, cs, hc, hkind, -⟩ := compact_first hstr hnum j
  obtain ⟨c', cs', hc', hkind', -⟩ := compact_first hstr hnum j'
  rw [hc, hc'] at h
  rw [← hkind, ← hkind', List.head_eq_of_cons_eq h]

/-- **A value** can be told from what follows it. -/
theorem compact_append_inj (j : Json N S) : ∀ (j' : Json N S) (r r' : List Char), Ends r → Ends r' →
    compact str num j ++ r = compact str num j' ++ r' →
      j = j' ∧ r = r' := by
  induction j with
  | null =>
    intro j' r r' _ _ h
    have hkind := kind_eq_of_compact hstr hnum h
    cases j' with
    | null => exact ⟨rfl, List.append_cancel_left h⟩
    | bool | num | str | arr | obj => exact absurd hkind (by simp [Json.kind])
  | bool b =>
    intro j' r r' _ _ h
    have hkind := kind_eq_of_compact hstr hnum h
    cases j' with
    | bool b' =>
      cases b <;> cases b' <;> simp [compact] at h ⊢
      · exact h
      · exact h
    | null | num | str | arr | obj => exact absurd hkind (by simp [Json.kind])
  | num n =>
    intro j' r r' hr hr' h
    have hkind := kind_eq_of_compact hstr hnum h
    cases j' with
    | num n' =>
      obtain ⟨htext, hrest⟩ := plain_append_inj (hnum.plain n) (hnum.plain n') hr hr' h
      exact ⟨congrArg Json.num (hnum.injective htext), hrest⟩
    | null | bool | str | arr | obj => exact absurd hkind (by simp [Json.kind])
  | str s =>
    intro j' r r' _ _ h
    have hkind := kind_eq_of_compact hstr hnum h
    cases j' with
    | str s' =>
      obtain ⟨rfl, hrest⟩ := hstr.append_inj h
      exact ⟨rfl, hrest⟩
    | null | bool | num | arr | obj => exact absurd hkind (by simp [Json.kind])
  | arr items ih =>
    intro j' r r' _ _ h
    have hkind := kind_eq_of_compact hstr hnum h
    cases j' with
    | arr items' =>
      simp only [compact, compactItems_eq, List.append_assoc, List.cons_append, List.nil_append,
        List.cons.injEq, true_and] at h
      have hfirst : ∀ x, ∃ c cs, compact str num x = c :: cs ∧ c ∉ delimiters := by
        intro x
        obtain ⟨c, cs, hc, -, hplain⟩ := compact_first hstr hnum x
        exact ⟨c, cs, hc, hplain⟩
      obtain ⟨rfl, hrest⟩ :=
        separated_append_inj (by decide) (by decide) hfirst (fun x hx => ih x hx) h
      exact ⟨rfl, hrest⟩
    | null | bool | num | str | obj => exact absurd hkind (by simp [Json.kind])
  | obj members ih =>
    intro j' r r' _ _ h
    have hkind := kind_eq_of_compact hstr hnum h
    cases j' with
    | obj members' =>
      simp only [compact, compactMembers_eq, List.append_assoc, List.cons_append, List.nil_append,
        List.cons.injEq, true_and] at h
      have hfirst : ∀ m : S × Json N S, ∃ c cs, str m.1 ++
          ':' :: compact str num m.2 = c :: cs ∧ c ∉ delimiters :=
        fun m => (hstr.opens m.1).elim fun cs hs => ⟨'\"', _, congrArg (· ++ _) hs, by decide⟩
      have hread : ∀ m ∈ members, ∀ (m' : S × Json N S) (r r' : List Char), Ends r → Ends r' →
          (str m.1 ++ ':' :: compact str num m.2) ++ r =
            (str m'.1 ++ ':' :: compact str num m'.2) ++ r' →
          m = m' ∧ r = r' := by
        intro m hm m' r r' hr hr' heq
        rw [List.append_assoc, List.append_assoc] at heq
        obtain ⟨hname, hvalue⟩ := hstr.append_inj heq
        obtain ⟨hj, hrest⟩ := ih m hm m'.2 r r' hr hr' (List.tail_eq_of_cons_eq hvalue)
        exact ⟨Prod.ext hname hj, hrest⟩
      obtain ⟨rfl, hrest⟩ := separated_append_inj (by decide) (by decide) hfirst hread h
      exact ⟨rfl, hrest⟩
    | null | bool | num | str | arr => exact absurd hkind (by simp [Json.kind])

/-- **The compact encoder is injective.** -/
theorem compact_injective : Function.Injective (compact str num) := by
  intro j j' h
  have hends : Ends [] := fun c hc => absurd hc (by simp)
  have happend : compact str num j ++ [] =
      compact str num j' ++ [] := by rw [h]
  exact (compact_append_inj hstr hnum j j' [] [] hends hends happend).1

end

/-! ## Objects of texts -/

/-- An object whose members are texts. -/
def Json.ofTexts (members : List (S × S)) : Json N S :=
  .obj (members.map fun m => (m.1, .str m.2))

theorem sortKeys_ofTexts (le : S → S → Bool) (members : List (S × S)) :
    (Json.ofTexts members : Json N S).sortKeys le = .ofTexts (sortByKey le members) := by
  have hmap : (sortByKey le members).map (fun m => ((m.1, .str m.2) : S × Json N S)) =
      sortByKey le (members.map fun m => (m.1, .str m.2)) :=
    List.map_insertionSort _ _ _ _ fun _ _ _ _ => Iff.rfl
  unfold Json.ofTexts
  rw [Json.sortKeys, Json.sortKeysMembers_eq, List.map_map, hmap]
  rfl

/-- **An object of texts** is read back, however numbers are rendered. -/
theorem compact_ofTexts_inj {str : S → List Char} {num : N → List Char} (hstr : TextCode str)
    {members members' : List (S × S)}
    (h : compact str num (.ofTexts members) =
      compact str num (.ofTexts members')) :
    members = members' := by
  have hcompact : ∀ ms : List (S × S), compact str num (.ofTexts ms) =
      '\x7b' :: ([','].intercalate (ms.map fun m => str m.1 ++ ':' :: str m.2) ++
        '\x7d' :: []) := by
    intro ms
    simp only [Json.ofTexts, compact, compactMembers_eq, List.map_map, List.append_assoc,
      List.cons_append, List.nil_append]
    rfl
  have hfirst : ∀ m : S × S, ∃ c cs, str m.1 ++ ':' :: str m.2 = c :: cs ∧
      c ∉ delimiters :=
    fun m => (hstr.opens m.1).elim fun cs hs => ⟨'\"', _, congrArg (· ++ _) hs, by decide⟩
  have hread : ∀ m ∈ members, ∀ (m' : S × S) (r r' : List Char), Ends r → Ends r' →
      (str m.1 ++ ':' :: str m.2) ++ r =
        (str m'.1 ++ ':' :: str m'.2) ++ r' → m = m' ∧ r = r' := by
    intro m _ m' r r' _ _ heq
    rw [List.append_assoc, List.append_assoc] at heq
    obtain ⟨hname, hvalue⟩ := hstr.append_inj heq
    obtain ⟨htext, hrest⟩ := hstr.append_inj (List.tail_eq_of_cons_eq hvalue)
    exact ⟨Prod.ext hname htext, hrest⟩
  rw [hcompact, hcompact] at h
  exact (separated_append_inj (by decide) (by decide) hfirst hread (List.tail_eq_of_cons_eq h)).1

/-! ## Integers -/

/-- An integer in decimal digits. -/
def decimalInt : Int → List Char
  | .ofNat n => Nat.toDigits 10 n
  | .negSucc n => '-' :: Nat.toDigits 10 (n + 1)

/-- A decimal digit begins a number, follows no value and is no sign. -/
theorem plain_of_mem_toDigits {n : Nat} {c : Char} (h : c ∈ Nat.toDigits 10 n) :
    c ∉ delimiters ∧ kindOf c = 2 ∧ c ≠ '-' := by
  obtain ⟨hlow, hhigh⟩ :=
    Char.isDigit_iff_toNat.mp (Nat.isDigit_of_mem_toDigits (by omega) (by omega) h)
  have h0 : ('0' : Char).toNat = 0x30 := rfl
  have h9 : ('9' : Char).toNat = 0x39 := rfl
  have hne : ∀ d : Char, d.toNat < 0x30 ∨ 0x39 < d.toNat → c ≠ d := by
    rintro d hd rfl
    omega
  refine ⟨?_, ?_, hne _ (by decide)⟩
  · simp only [delimiters, List.mem_cons, List.not_mem_nil, or_false, not_or]
    exact ⟨hne _ (by decide), hne _ (by decide), hne _ (by decide)⟩
  · unfold kindOf
    rw [if_neg (hne _ (by decide)), if_neg (not_or.mpr ⟨hne _ (by decide), hne _ (by decide)⟩),
      if_neg (hne _ (by decide)), if_neg (hne _ (by decide)), if_neg (hne _ (by decide))]

/-- A number without a sign is none with a sign. -/
theorem toDigits_ne_negative (m : Nat) (cs : List Char) : Nat.toDigits 10 m ≠ '-' :: cs := by
  intro h
  exact (plain_of_mem_toDigits (h ▸ List.mem_cons_self : '-' ∈ Nat.toDigits 10 m)).2.2 rfl

/-- **Decimal integers** are such a rendering. -/
theorem numberTexts_decimalInt : NumberTexts decimalInt where
  injective m n h := by
    cases m with
    | ofNat m =>
      cases n with
      | ofNat n => exact congrArg Int.ofNat (toDigits_injective h)
      | negSucc n => exact absurd h (toDigits_ne_negative m _)
    | negSucc m =>
      cases n with
      | ofNat n => exact absurd h.symm (toDigits_ne_negative n _)
      | negSucc n =>
        exact congrArg Int.negSucc (Nat.succ.inj (toDigits_injective (List.tail_eq_of_cons_eq h)))
  first n := by
    cases n with
    | ofNat n =>
      obtain ⟨c, cs, hcs⟩ := List.exists_cons_of_ne_nil (Nat.toDigits_ne_nil (n := n) (b := 10))
      have hmem : c ∈ Nat.toDigits 10 n := hcs ▸ List.mem_cons_self
      exact ⟨c, cs, hcs, (plain_of_mem_toDigits hmem).2.1⟩
    | negSucc n => exact ⟨'-', _, rfl, by decide⟩
  plain n c hc := by
    cases n with
    | ofNat n => exact (plain_of_mem_toDigits hc).1
    | negSucc n =>
      rcases List.mem_cons.mp hc with rfl | hc
      · decide
      · exact (plain_of_mem_toDigits hc).1

end Nlboot.Lib
