import Mathlib.Data.Nat.Notation

/-!
# Hexadecimal

* `hexdigest`: bytes in lowercase hexadecimal.
* `hexDecode`: two digits of either case a byte, and nothing else.
* `hexValue_digitChar`, `notMem_hexdigest`: a digit that was written reads back, and nothing else is
  written.
* `length_hexdigest`, `mem_hexDigits`: how long a text of digits is, and of what.
-/

namespace Nlboot.Lib

/-- The value of a hexadecimal digit. -/
def hexValue (c : Char) : Option Nat :=
  let n := c.toNat
  if 0x30 ≤ n ∧ n ≤ 0x39 then some (n - 0x30)
  else if 0x41 ≤ n ∧ n ≤ 0x46 then some (n - 0x41 + 10)
  else if 0x61 ≤ n ∧ n ≤ 0x66 then some (n - 0x61 + 10)
  else none

/-- Lowercase hexadecimal: two digits a byte. -/
def hexdigest (bytes : List UInt8) : String :=
  String.ofList (bytes.flatMap fun b => [(b.toNat / 16).digitChar, (b.toNat % 16).digitChar])

/-- The bytes a text of hexadecimal digits stands for. -/
def hexDecode : List Char → Option (List UInt8)
  | [] => some []
  | [_] => none
  | c :: d :: cs =>
    match hexValue c, hexValue d, hexDecode cs with
    | some hi, some lo, some bytes => some (UInt8.ofNat (16 * hi + lo) :: bytes)
    | _, _, _ => none

/-- The hexadecimal digit of a number below 16 reads back as that number, and is no blank. -/
theorem hexValue_digitChar {n : Nat} (h : n < 16) :
    hexValue n.digitChar = some n ∧
      ¬ (n.digitChar.toNat = 0x20 ∨ 0x09 ≤ n.digitChar.toNat ∧ n.digitChar.toNat ≤ 0x0D) := by
  have key : ∀ k : Fin 16, hexValue k.val.digitChar = some k.val ∧
      ¬ (k.val.digitChar.toNat = 0x20 ∨
        0x09 ≤ k.val.digitChar.toNat ∧ k.val.digitChar.toNat ≤ 0x0D) := by
    decide
  exact key ⟨n, h⟩

/-- Only hexadecimal digits are written. -/
theorem notMem_hexdigest {c : Char} (h : hexValue c = none) (bytes : List UInt8) :
    c ∉ (hexdigest bytes).toList := by
  rw [hexdigest, String.toList_ofList, List.mem_flatMap]
  rintro ⟨b, -, hc⟩
  have hb := b.toNat_lt
  have key : ∀ n < 16, c ≠ n.digitChar := by
    rintro n hn rfl
    rw [(hexValue_digitChar hn).1] at h
    exact absurd h (by simp)
  simp only [List.mem_cons, List.not_mem_nil, or_false] at hc
  rcases hc with hc | hc
  · exact key _ (by omega) hc
  · exact key _ (by omega) hc

/-- The lowercase hexadecimal digits. -/
def hexDigits : List Char := "0123456789abcdef".toList

theorem length_hexdigest (bytes : List UInt8) :
    (hexdigest bytes).toList.length = 2 * bytes.length := by
  rw [hexdigest, String.toList_ofList]
  induction bytes with
  | nil => rfl
  | cons b bytes ih => rw [List.flatMap_cons, List.length_append, ih, List.length_cons]; simp; omega

/-- What is written are lowercase hexadecimal digits. -/
theorem mem_hexDigits {c : Char} {bytes : List UInt8} (h : c ∈ (hexdigest bytes).toList) :
    c ∈ hexDigits := by
  rw [hexdigest, String.toList_ofList, List.mem_flatMap] at h
  obtain ⟨b, -, hc⟩ := h
  have hb := b.toNat_lt
  have key : ∀ k : Fin 16, k.val.digitChar ∈ hexDigits := by decide
  simp only [List.mem_cons, List.not_mem_nil, or_false] at hc
  rcases hc with rfl | rfl
  · exact key ⟨b.toNat / 16, by omega⟩
  · exact key ⟨b.toNat % 16, by omega⟩

end Nlboot.Lib
