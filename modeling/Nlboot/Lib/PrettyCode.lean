import Nlboot.Lib.JsonCode

/-!
# Indented JSON text is a prefix code

A document printed over several lines begins no other printed document. So what is left of a file
that was not written to its end is the text of no document at all, whatever was to be written.

The text is read from the left as compact text is. What follows a value inside another one is a
comma or the end of its line, and how far a line is indented is the depth of the value, which two
texts of one depth have in common.

* `LineTexts`: what is asked of the rendering of numbers; `lineTexts_decimalInt`: decimal integers.
* `utf8_append_eq`: bytes that begin a text are the bytes of a beginning of it.

Results:
* `pretty_append_inj`: a printed value can be told from what follows it.
* **`printed_prefix_free`**: no line of bytes that holds a document begins another one.
-/

namespace Nlboot.Lib

variable {N α : Type}

/-! ## Bytes -/

/-- The bytes of a character can be told from what follows them. -/
theorem charBytes_append_inj {a b : Char} {s t : List Nat}
    (h : charBytes a ++ s = charBytes b ++ t) : a = b ∧ s = t := by
  have hrefl : lexLe (charBytes a ++ s) (charBytes b ++ t) = true ∧
      lexLe (charBytes b ++ t) (charBytes a ++ s) = true := by
    rw [h]
    exact ⟨(lexLe_total _ _).elim id id, (lexLe_total _ _).elim id id⟩
  rcases lt_trichotomy a.toNat b.toNat with hlt | heq | hgt
  · exact absurd hrefl.2 (by rw [not_lexLe_of_before (before_charBytes hlt)]; simp)
  · obtain rfl : a = b := Char.ext (UInt32.toNat_inj.mp heq)
    exact ⟨rfl, List.append_cancel_left h⟩
  · exact absurd hrefl.1 (by rw [not_lexLe_of_before (before_charBytes hgt)]; simp)

theorem charBytes_flatMap_append : ∀ {cs ds : List Char} {rest : List Nat},
    cs.flatMap charBytes ++ rest = ds.flatMap charBytes → ∃ more, ds = cs ++ more
  | [], ds, _, _ => ⟨ds, rfl⟩
  | c :: cs, [], rest, h => by
    rw [List.flatMap_cons, List.append_assoc, List.flatMap_nil, List.append_eq_nil_iff] at h
    exact absurd h.1 (charBytes_ne_nil c)
  | c :: cs, d :: ds, rest, h => by
    rw [List.flatMap_cons, List.flatMap_cons, List.append_assoc] at h
    obtain ⟨rfl, hrest⟩ := charBytes_append_inj h
    obtain ⟨more, rfl⟩ := charBytes_flatMap_append hrest
    exact ⟨more, rfl⟩

/-- Bytes of a text that begin the bytes of another are those of a beginning of it. -/
theorem utf8_append_eq {cs ds : List Char} {rest : List UInt8} (h : utf8 cs ++ rest = utf8 ds) :
    ∃ more, ds = cs ++ more := by
  have hbytes := congrArg (List.map UInt8.toNat) h
  rw [List.map_append, utf8_toNat, utf8_toNat] at hbytes
  exact charBytes_flatMap_append hbytes

/-! ## Lists of lines -/

/-- What follows a value inside another one. -/
def lineEnds : List Char := [',', '\n']

/-- The end, or what follows a value. -/
def EndsLine (rest : List Char) : Prop := ∀ c ∈ rest.head?, c ∈ lineEnds

theorem endsLine_cons {c : Char} (h : c ∈ lineEnds) (rest : List Char) : EndsLine (c :: rest) := by
  intro d hd
  obtain rfl := Option.some.inj hd
  exact h

/-- Texts that do not end a line can be told from what follows them. -/
theorem line_append_inj {cs cs' r r' : List Char} (hcs : ∀ c ∈ cs, c ∉ lineEnds)
    (hcs' : ∀ c ∈ cs', c ∉ lineEnds) (hr : EndsLine r) (hr' : EndsLine r')
    (h : cs ++ r = cs' ++ r') : cs = cs' ∧ r = r' := by
  have hstops : ∀ {rest}, EndsLine rest → Stops (fun c => c ∉ lineEnds) rest :=
    fun hends c hc hnot => hnot (hends c hc)
  exact append_inj_of_stops hcs hcs' (hstops hr) (hstops hr') h

/-- A line begins where the one before it ends. -/
def newLine (depth : Nat) : List Char := '\n' :: List.replicate (2 * depth) ' '

theorem layout_nil {opening closing : Char} {depth : Nat} :
    layout opening closing depth [] = [opening, closing] := rfl

/-- Between brackets, the first line, those after a comma, and the one of the closing bracket. -/
theorem layout_cons {opening closing : Char} {depth : Nat} {x : List Char}
    {xs : List (List Char)} : layout opening closing depth (x :: xs) =
      opening :: (newLine (depth + 1) ++ x ++
        xs.flatMap (fun y => ',' :: (newLine (depth + 1) ++ y)) ++ newLine depth ++ [closing]) := by
  have htail : (xs.map (newLine (depth + 1) ++ ·)).flatMap (',' :: ·) =
      xs.flatMap fun y => ',' :: (newLine (depth + 1) ++ y) := List.flatMap_map _ _ xs
  have hlayout : layout opening closing depth (x :: xs) = [opening] ++
      [','].intercalate ((x :: xs).map (newLine (depth + 1) ++ ·)) ++ newLine depth ++
        [closing] := rfl
  rw [hlayout, List.map_cons, intercalate_cons, htail]
  simp

section

variable {enc : α → List Char} {depth : Nat}

/-- The values after the first can be told from the line of the bracket. -/
theorem lines_append_inj {line : List Char} : ∀ {xs ys : List α} {r r' : List Char},
    (∀ x ∈ xs, ∀ y r r', EndsLine r → EndsLine r' → enc x ++ r = enc y ++ r' → x = y ∧ r = r') →
    xs.flatMap (fun x => ',' :: (line ++ enc x)) ++ '\n' :: r =
      ys.flatMap (fun y => ',' :: (line ++ enc y)) ++ '\n' :: r' → xs = ys ∧ r = r'
  | [], [], _, _, _, h => ⟨rfl, List.tail_eq_of_cons_eq h⟩
  | [], y :: ys, _, _, _, h =>
    absurd (List.head_eq_of_cons_eq h) (show ('\n' : Char) ≠ ',' by decide)
  | x :: xs, [], _, _, _, h =>
    absurd (List.head_eq_of_cons_eq h) (show (',' : Char) ≠ '\n' by decide)
  | x :: xs, y :: ys, r, r', hread, h => by
    have hends : ∀ (zs : List α) (rest : List Char),
        EndsLine (zs.flatMap (fun z => ',' :: (line ++ enc z)) ++ '\n' :: rest) := by
      intro zs rest
      cases zs with
      | nil => exact endsLine_cons (by decide) rest
      | cons z zs => exact endsLine_cons (by decide) _
    rw [List.flatMap_cons, List.flatMap_cons, List.append_assoc, List.append_assoc,
      List.cons_append, List.cons_append, List.append_assoc, List.append_assoc] at h
    have hfirst := List.append_cancel_left (List.tail_eq_of_cons_eq h)
    obtain ⟨rfl, hrest⟩ := hread x List.mem_cons_self y _ _ (hends xs r) (hends ys r') hfirst
    obtain ⟨rfl, hr⟩ := lines_append_inj (fun z hz => hread z (List.mem_cons_of_mem _ hz)) hrest
    exact ⟨rfl, hr⟩

/-- **Values between brackets**, each on a line of its own, can be told from what follows. -/
theorem layout_append_inj {opening closing : Char} (hclosing : closing ≠ '\n') {xs ys : List α}
    {r r' : List Char}
    (hread : ∀ x ∈ xs, ∀ y r r', EndsLine r → EndsLine r' → enc x ++ r = enc y ++ r' →
      x = y ∧ r = r')
    (h : layout opening closing depth (xs.map enc) ++ r =
      layout opening closing depth (ys.map enc) ++ r') : xs = ys ∧ r = r' := by
  cases xs with
  | nil =>
    cases ys with
    | nil =>
      rw [List.map_nil, layout_nil] at h
      exact ⟨rfl, List.append_cancel_left h⟩
    | cons y ys =>
      rw [List.map_nil, layout_nil, List.map_cons, layout_cons] at h
      exact absurd (List.head_eq_of_cons_eq (List.tail_eq_of_cons_eq h)) hclosing
  | cons x xs =>
    cases ys with
    | nil =>
      rw [List.map_nil, layout_nil, List.map_cons, layout_cons] at h
      exact absurd (List.head_eq_of_cons_eq (List.tail_eq_of_cons_eq h)).symm hclosing
    | cons y ys =>
      have htail : ∀ zs : List α, (zs.map enc).flatMap
          (fun z => ',' :: (newLine (depth + 1) ++ z)) =
            zs.flatMap fun z => ',' :: (newLine (depth + 1) ++ enc z) :=
        fun zs => List.flatMap_map _ _ zs
      rw [List.map_cons, List.map_cons, layout_cons, layout_cons, htail, htail] at h
      -- The first value is read with a comma in front too, and the bracket's line with its end.
      have hlines : (x :: xs).flatMap (fun z => ',' :: (newLine (depth + 1) ++ enc z)) ++
          '\n' :: (List.replicate (2 * depth) ' ' ++ closing :: r) =
            (y :: ys).flatMap (fun z => ',' :: (newLine (depth + 1) ++ enc z)) ++
              '\n' :: (List.replicate (2 * depth) ' ' ++ closing :: r') := by
        simpa [newLine] using congrArg (',' :: ·) (List.tail_eq_of_cons_eq h)
      obtain ⟨hsame, hrest⟩ := lines_append_inj hread hlines
      exact ⟨hsame, List.tail_eq_of_cons_eq (List.append_cancel_left hrest)⟩

end

/-! ## Documents -/

/-- The rendering of numbers is one to one, begins as no other value does, and has no character in
it that follows a value. -/
structure LineTexts (num : N → List Char) : Prop where
  injective : Function.Injective num
  first : ∀ n, ∃ c cs, num n = c :: cs ∧ kindOf c = 2
  plain : ∀ n, ∀ c ∈ num n, c ∉ lineEnds

section

variable {str : String → List Char} {num : N → List Char}

theorem prettyItems_eq (depth : Nat) (items : List (Json N)) :
    prettyItems str num depth items = items.map (pretty str num depth) := by
  induction items with
  | nil => rfl
  | cons j items ih => rw [prettyItems, ih, List.map_cons]

theorem prettyMembers_eq (depth : Nat) (members : Members N) :
    prettyMembers str num depth members =
      members.map fun m => str m.1 ++ [':', ' '] ++ pretty str num depth m.2 := by
  induction members with
  | nil => rfl
  | cons m members ih => obtain ⟨name, j⟩ := m; rw [prettyMembers, ih, List.map_cons]

theorem layout_eq_cons (opening closing : Char) (depth : Nat) (items : List (List Char)) :
    ∃ rest, layout opening closing depth items = opening :: rest := by
  cases items with
  | nil => exact ⟨_, layout_nil⟩
  | cons x xs => exact ⟨_, layout_cons⟩

end

section

variable {esc : Char → List Char} {num : N → List Char} (hesc : Escapes unescape esc)
  (hnum : LineTexts num)

include hnum

/-- The first character of a value says what kind it is. -/
theorem pretty_first (depth : Nat) (j : Json N) :
    ∃ c cs, pretty (quoted esc) num depth j = c :: cs ∧ kindOf c = j.kind := by
  cases j with
  | null => exact ⟨'n', _, rfl, rfl⟩
  | bool b =>
    cases b with
    | false => exact ⟨'f', _, rfl, rfl⟩
    | true => exact ⟨'t', _, rfl, rfl⟩
  | num n => exact hnum.first n
  | str s => exact ⟨'\"', _, rfl, rfl⟩
  | arr items =>
    obtain ⟨rest, hrest⟩ := layout_eq_cons '[' ']' depth (prettyItems (quoted esc) num (depth + 1)
      items)
    exact ⟨'[', rest, hrest, rfl⟩
  | obj members =>
    obtain ⟨rest, hrest⟩ := layout_eq_cons '\x7b' '\x7d' depth (prettyMembers (quoted esc) num
      (depth + 1) members)
    exact ⟨'\x7b', rest, hrest, rfl⟩

/-- Values with one text are of one kind. -/
theorem kind_eq_of_pretty {depth : Nat} {j j' : Json N} {r r' : List Char}
    (h : pretty (quoted esc) num depth j ++ r = pretty (quoted esc) num depth j' ++ r') :
    j.kind = j'.kind := by
  obtain ⟨c, cs, hc, hkind⟩ := pretty_first hnum depth j
  obtain ⟨c', cs', hc', hkind'⟩ := pretty_first hnum depth j'
  rw [hc, hc'] at h
  rw [← hkind, ← hkind', List.head_eq_of_cons_eq h]

include hesc

/-- **A printed value** can be told from what follows it. -/
theorem pretty_append_inj (j : Json N) : ∀ (depth : Nat) (j' : Json N) (r r' : List Char),
    EndsLine r → EndsLine r' →
    pretty (quoted esc) num depth j ++ r = pretty (quoted esc) num depth j' ++ r' →
      j = j' ∧ r = r' := by
  induction j with
  | null =>
    intro depth j' r r' _ _ h
    have hkind := kind_eq_of_pretty hnum h
    cases j' with
    | null => exact ⟨rfl, List.append_cancel_left h⟩
    | bool | num | str | arr | obj => exact absurd hkind (by simp [Json.kind])
  | bool b =>
    intro depth j' r r' _ _ h
    have hkind := kind_eq_of_pretty hnum h
    cases j' with
    | bool b' =>
      cases b <;> cases b' <;> simp [pretty] at h ⊢
      · exact h
      · exact h
    | null | num | str | arr | obj => exact absurd hkind (by simp [Json.kind])
  | num n =>
    intro depth j' r r' hr hr' h
    have hkind := kind_eq_of_pretty hnum h
    cases j' with
    | num n' =>
      obtain ⟨htext, hrest⟩ := line_append_inj (hnum.plain n) (hnum.plain n') hr hr' h
      exact ⟨congrArg Json.num (hnum.injective htext), hrest⟩
    | null | bool | str | arr | obj => exact absurd hkind (by simp [Json.kind])
  | str s =>
    intro depth j' r r' _ _ h
    have hkind := kind_eq_of_pretty hnum h
    cases j' with
    | str s' =>
      obtain ⟨rfl, hrest⟩ := quoted_append_inj hesc h
      exact ⟨rfl, hrest⟩
    | null | bool | num | arr | obj => exact absurd hkind (by simp [Json.kind])
  | arr items ih =>
    intro depth j' r r' _ _ h
    have hkind := kind_eq_of_pretty hnum h
    cases j' with
    | arr items' =>
      simp only [pretty, prettyItems_eq] at h
      obtain ⟨rfl, hrest⟩ :=
        layout_append_inj (by decide) (fun x hx => ih x hx (depth + 1)) h
      exact ⟨rfl, hrest⟩
    | null | bool | num | str | obj => exact absurd hkind (by simp [Json.kind])
  | obj members ih =>
    intro depth j' r r' _ _ h
    have hkind := kind_eq_of_pretty hnum h
    cases j' with
    | obj members' =>
      simp only [pretty, prettyMembers_eq] at h
      have hread : ∀ m ∈ members, ∀ (m' : String × Json N) (r r' : List Char), EndsLine r →
          EndsLine r' →
          (quoted esc m.1 ++ [':', ' '] ++ pretty (quoted esc) num (depth + 1) m.2) ++ r =
            (quoted esc m'.1 ++ [':', ' '] ++ pretty (quoted esc) num (depth + 1) m'.2) ++ r' →
          m = m' ∧ r = r' := by
        intro m hm m' r r' hr hr' heq
        simp only [List.append_assoc] at heq
        obtain ⟨hname, hvalue⟩ := quoted_append_inj hesc heq
        obtain ⟨hj, hrest⟩ := ih m hm (depth + 1) m'.2 r r' hr hr' (List.append_cancel_left hvalue)
        exact ⟨Prod.ext hname hj, hrest⟩
      obtain ⟨rfl, hrest⟩ := layout_append_inj (by decide) hread h
      exact ⟨rfl, hrest⟩
    | null | bool | num | str | arr => exact absurd hkind (by simp [Json.kind])

/-- **Printed documents are a prefix code**: the line of one begins no line of another. -/
theorem printed_prefix_free {j j' : Json N}
    (h : utf8 (pretty (quoted esc) num 0 j ++ ['\n']) <+:
      utf8 (pretty (quoted esc) num 0 j' ++ ['\n'])) : j = j' := by
  obtain ⟨rest, hrest⟩ := h
  obtain ⟨more, hmore⟩ := utf8_append_eq hrest
  rw [List.append_assoc] at hmore
  exact (pretty_append_inj hesc hnum j' 0 j ['\n'] (['\n'] ++ more) (endsLine_cons (by decide) _)
    (endsLine_cons (by decide) _) hmore).1.symm

end

/-- **Decimal integers** are such a rendering. -/
theorem lineTexts_decimalInt : LineTexts decimalInt where
  injective := numberTexts_decimalInt.injective
  first := numberTexts_decimalInt.first
  plain n c hc := by
    have hcomma : c ∉ delimiters := numberTexts_decimalInt.plain n c hc
    have hdigit : ∀ {m : Nat} {c : Char}, c ∈ Nat.toDigits 10 m → c ≠ '\n' := by
      rintro m c hc rfl
      exact absurd (Nat.isDigit_of_mem_toDigits (by omega) (by omega) hc) (by decide)
    have hline : c ≠ '\n' := by
      cases n with
      | ofNat n => exact hdigit hc
      | negSucc n =>
        rcases List.mem_cons.mp hc with rfl | hc
        · decide
        · exact hdigit hc
    simp only [delimiters, lineEnds, List.mem_cons, List.not_mem_nil, or_false, not_or] at hcomma ⊢
    exact ⟨hcomma.1, hline⟩

end Nlboot.Lib
