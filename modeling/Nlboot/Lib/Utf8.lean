import Nlboot.Lib.Lex

/-!
# UTF-8 keeps the order of code points

The bytes of a text are `String.utf8EncodeChar` of its characters in order. Facts about them:

* **`lexLe_utf8`**: comparing two texts byte by byte is comparing them code point by code point.
* `utf8_injective`: different texts have different bytes.
* `forall_utf8_lt_iff`: every byte is below `n ≤ 0x80` iff every character is.
-/

namespace Nlboot.Lib

/-- The UTF-8 bytes of a text. -/
def utf8 (cs : List Char) : List UInt8 := cs.flatMap String.utf8EncodeChar

/-- The bytes of one character, as numbers. -/
def charBytes (c : Char) : List Nat := (String.utf8EncodeChar c).map UInt8.toNat

/-- The bytes of one character by the size of its code point. -/
theorem charBytes_eq (c : Char) : charBytes c =
    if c.toNat ≤ 0x7F then [c.toNat]
    else if c.toNat ≤ 0x7FF then [c.toNat / 64 % 32 + 192, c.toNat % 64 + 128]
    else if c.toNat ≤ 0xFFFF then
      [c.toNat / 4096 % 16 + 224, c.toNat / 64 % 64 + 128, c.toNat % 64 + 128]
    else [c.toNat / 262144 % 8 + 240, c.toNat / 4096 % 64 + 128, c.toNat / 64 % 64 + 128,
      c.toNat % 64 + 128] := by
  have small : ∀ n, n < 256 → (UInt8.ofNat n).toNat = n := fun n hn => by
    rw [UInt8.toNat_ofNat']; exact Nat.mod_eq_of_lt hn
  have hv : c.val.toNat = c.toNat := rfl
  unfold charBytes String.utf8EncodeChar
  simp only [hv]
  split_ifs <;> simp only [List.map_cons, List.map_nil] <;>
    repeat rw [small _ (by omega)]

theorem toNat_lt_charLimit (c : Char) : c.toNat < 1114112 := by
  have := c.valid
  have hv : c.val.toNat = c.toNat := rfl
  simp only [UInt32.isValidChar, Nat.isValidChar] at this
  omega

/-- Characters in order have codes that differ first where the larger one is larger. -/
theorem before_charBytes {a b : Char} (h : a.toNat < b.toNat) :
    Before (charBytes a) (charBytes b) := by
  have ha := toNat_lt_charLimit a
  have hb := toNat_lt_charLimit b
  -- the digits base 64, so that each is a division of the one before
  have h2 : ∀ n : Nat, n / 4096 = n / 64 / 64 := fun n => by rw [Nat.div_div_eq_div_mul]
  have h3 : ∀ n : Nat, n / 262144 = n / 64 / 64 / 64 := fun n => by
    rw [Nat.div_div_eq_div_mul, Nat.div_div_eq_div_mul]
  rw [charBytes_eq, charBytes_eq]
  split_ifs <;> simp only [Before, h2, h3] <;> omega

theorem charBytes_ne_nil (c : Char) : charBytes c ≠ [] := by
  unfold charBytes
  simp only [ne_eq, List.map_eq_nil_iff]
  exact String.utf8EncodeChar_ne_nil

theorem utf8_toNat (cs : List Char) : (utf8 cs).map UInt8.toNat = cs.flatMap charBytes := by
  unfold utf8 charBytes
  rw [List.map_flatMap]

/-- **Byte order is code point order.** -/
theorem lexLe_utf8 (x y : List Char) :
    lexLe ((utf8 x).map UInt8.toNat) ((utf8 y).map UInt8.toNat) =
      lexLe (x.map Char.toNat) (y.map Char.toNat) := by
  rw [utf8_toNat, utf8_toNat]
  exact lexLe_flatMap (fun a b hab => Char.ext (UInt32.toNat_inj.mp hab)) charBytes_ne_nil
    (fun _ _ => before_charBytes) x y

theorem utf8_injective : Function.Injective utf8 := by
  intro x y h
  have hbytes : x.utf8Encode = y.utf8Encode := congrArg List.toByteArray h
  rw [← String.toByteArray_ofList, ← String.toByteArray_ofList] at hbytes
  exact String.ofList_injective (String.toByteArray_inj.mp hbytes)

theorem forall_charBytes_lt_iff {n : Nat} (hn : n ≤ 0x80) (c : Char) :
    (∀ b ∈ charBytes c, b < n) ↔ c.toNat < n := by
  rw [charBytes_eq]
  split_ifs <;> simp only [List.mem_cons, List.not_mem_nil, or_false, forall_eq_or_imp,
    forall_eq] <;> omega

/-- The bytes of a text are below `n ≤ 0x80` iff its characters are. -/
theorem forall_utf8_lt_iff {n : Nat} (hn : n ≤ 0x80) (cs : List Char) :
    (∀ b ∈ utf8 cs, b.toNat < n) ↔ ∀ c ∈ cs, c.toNat < n := by
  have h : (∀ b ∈ utf8 cs, b.toNat < n) ↔ ∀ m ∈ (utf8 cs).map UInt8.toNat, m < n := by simp
  rw [h, utf8_toNat]
  simp only [List.mem_flatMap, forall_exists_index, and_imp]
  constructor
  · intro hall c hc
    exact (forall_charBytes_lt_iff hn c).mp fun b hb => hall b c hc hb
  · intro hall b c hc hb
    exact (forall_charBytes_lt_iff hn c).mpr (hall c hc) b hb

end Nlboot.Lib
