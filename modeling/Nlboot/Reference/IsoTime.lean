import Mathlib.Algebra.Group.Nat.Defs
import Nlboot.Lib.JsonCode
import Nlboot.Reference.Runtime

/-!
# ISO texts of datetimes

A runtime to run the model with: the ISO-8601 texts `datetime.isoformat` writes and
`datetime.fromisoformat` reads (date, `T`, time, an optional fraction of six digits, an optional
offset in hours and minutes), over the proleptic Gregorian calendar.

* `civil`, `daysBefore`: days since `0001-01-01` to a calendar date and back.
* `isoformat`, `fromisoformat`: the two directions.
* `pyRuntime`, `pyCrypto`: the runtime with integers as JSON numbers, and a stand-in for the
  cryptography.
* `emoji`, `splitEmoji`, `loneSurrogate`: strings that `json.dumps` writes alike, and one that it
  writes as no Unicode text.
-/

namespace Nlboot.Reference

open Nlboot.Lib

/-- Year, month and day of a number of days since `0001-01-01`. -/
def civil (days : Nat) : Nat × Nat × Nat :=
  -- counted from March 1st of year 0, so that the leap day ends a year
  let z := days + 306
  let era := z / 146097
  let doe := z % 146097
  let yoe := (doe - doe / 1460 + doe / 36524 - doe / 146096) / 365
  let doy := doe - (365 * yoe + yoe / 4 - yoe / 100)
  let mp := (5 * doy + 2) / 153
  let month := if mp < 10 then mp + 3 else mp - 9
  (yoe + era * 400 + (if month ≤ 2 then 1 else 0), month, doy - (153 * mp + 2) / 5 + 1)

/-- Days since `0001-01-01` of a calendar date. -/
def daysBefore (year month day : Nat) : Nat :=
  let y := if month ≤ 2 then year - 1 else year
  let mp := if month ≤ 2 then month + 9 else month - 3
  let yoe := y % 400
  let doe := yoe * 365 + yoe / 4 - yoe / 100 + (153 * mp + 2) / 5 + day - 1
  y / 400 * 146097 + doe - 306

/-- A number in decimal, padded to a width. -/
def padded (width n : Nat) : List Char :=
  (List.range width).reverse.map fun i => (n / 10 ^ i % 10).digitChar

/-- `datetime.isoformat` of a time in UTC: the fraction is left out when it is zero. -/
def isoformat (t : UtcTime) : String :=
  let micros := t.micros.toNat
  let seconds := micros / 1000000
  let fraction := micros % 1000000
  let (year, month, day) := civil (seconds / 86400)
  String.ofList (padded 4 year ++ ['-'] ++ padded 2 month ++ ['-'] ++ padded 2 day ++ ['T'] ++
    padded 2 (seconds / 3600 % 24) ++ [':'] ++ padded 2 (seconds / 60 % 60) ++ [':'] ++
    padded 2 (seconds % 60) ++ (if fraction = 0 then [] else '.' :: padded 6 fraction) ++
    "+00:00".toList)

/-- The number a list of decimal digits writes. -/
def readNumber (cs : List Char) : Option Nat :=
  cs.foldl (fun acc c => acc.bind fun n =>
    if c.isDigit then some (10 * n + (c.toNat - 48)) else none) (some 0)

/-- A number of a given width, and what follows it. -/
def readField (width : Nat) (cs : List Char) : Option (Nat × List Char) :=
  if width ≤ cs.length then (readNumber (cs.take width)).map fun n => (n, cs.drop width) else none

/-- The separator `c`, and what follows it. -/
def readChar (c : Char) : List Char → Option (List Char)
  | d :: cs => if c = d then some cs else none
  | [] => none

/-- The offset of a timestamp in microseconds: none, or `+HH:MM` or `-HH:MM`. -/
def readOffset : List Char → Option (Option Int)
  | [] => some none
  | sign :: cs => do
    let (hours, cs) ← readField 2 cs
    let (minutes, rest) ← readField 2 (← readChar ':' cs)
    let offset : Int := (hours * 60 + minutes) * 60000000
    if hours < 24 ∧ minutes < 60 ∧ rest = [] then
      if sign = '+' then some (some offset) else if sign = '-' then some (some (-offset)) else none
    else none

/-- The optional fraction of a timestamp, and what follows it. -/
def readFraction : List Char → Option (Nat × List Char)
  | '.' :: cs => readField 6 cs
  | cs => some (0, cs)

/-- `datetime.fromisoformat`, for a date and time. -/
def fromisoformat (text : String) : Option PyDateTime := do
  let (year, cs) ← readField 4 text.toList
  let (month, cs) ← readField 2 (← readChar '-' cs)
  let (day, cs) ← readField 2 (← readChar '-' cs)
  let (hour, cs) ← readField 2 (← readChar 'T' cs)
  let (minute, cs) ← readField 2 (← readChar ':' cs)
  let (second, cs) ← readField 2 (← readChar ':' cs)
  let (fraction, cs) ← readFraction cs
  let offset ← readOffset cs
  let days := daysBefore year month day
  let wall : Int := ((days * 86400 + hour * 3600 + minute * 60 + second) * 1000000 + fraction : Nat)
  if civil days = (year, month, day) ∧ hour < 24 ∧ minute < 60 ∧ second < 60 then
    match offset with
    | none => some (.naive wall)
    | some offset =>
      if h : InRange wall ∧ -86400000000 < offset ∧ offset < 86400000000 then
        some (.aware ⟨wall, offset, h.1, h.2⟩)
      else none
  else none

/-- `repr` of a text without quotes, backslashes and control characters. -/
def quotedRepr (s : String) : String := "'" ++ s ++ "'"

/-- The runtime with integers as JSON numbers; `str` of a list or an object is left out. -/
def pyRuntime : Runtime Int where
  num := decimalInt
  repr := quotedRepr
  str
    | .num n => String.ofList (decimalInt n)
    | _ => ""
  fromisoformat := fromisoformat
  isoformat := isoformat

/-- A stand-in for the `cryptography` package: a key is its PEM text, a signature the bytes of the
key followed by the payload, and a digest the text itself. Blocks that go on with `unknown` stand
for keys of an algorithm the package does not know. -/
def pyCrypto : Crypto String where
  loadPemPublicKey pem :=
    if startswith pem "-----BEGIN PUBLIC KEY-----unknown" then .unsupportedAlgorithm
    else if startswith pem "-----BEGIN PUBLIC KEY-----" then .rsa pem
    else .valueError
  keySize _ := 2048
  publicBytes key := utf8 key.toList
  verify key signature payload := signature == utf8 key.toList ++ payload
  sha256 bytes := bytes

/-- The start of 2026. -/
def newYear : UtcTime := ⟨63902822400000000, by decide⟩

/-- A quarter of an hour later there is still a time. -/
theorem inRange_expiry : InRange (newYear.micros + 900000000) := by decide

/-! ### Surrogates -/

/-- The character `U+1F600`, and its two surrogates. -/
def emoji : List CodePoint := [⟨0x1F600, by decide⟩]

def splitEmoji : List CodePoint := [⟨0xD83D, by decide⟩, ⟨0xDE00, by decide⟩]

theorem splitEmoji_ne : splitEmoji ≠ emoji := by decide

/-- `json.dumps` writes them alike. -/
theorem pyLiteral_splitEmoji : pyLiteral splitEmoji = pyLiteral emoji :=
  literal_eq_iff.mpr (by decide)

/-- A high surrogate by itself. -/
def loneSurrogate : List CodePoint := [⟨0xD83D, by decide⟩]

/-- What `json.dumps` writes of it is the literal of no Unicode text. -/
theorem pyLiteral_loneSurrogate (s : String) : pyLiteral loneSurrogate ≠ pyLiteral s := by
  intro h
  have hpoints : loneSurrogate = s.toList.map CodePoint.ofChar :=
    (literal_eq_codePoints_iff (List.isChain_singleton _)).mp h
  have hmem : (⟨0xD83D, by decide⟩ : CodePoint) ∈ s.toList.map CodePoint.ofChar :=
    hpoints ▸ List.mem_singleton_self _
  obtain ⟨c, -, hc⟩ := List.mem_map.mp hmem
  have htoNat : c.toNat = 0xD83D := congrArg CodePoint.toNat hc
  exact (toNat_valid c).2 (by omega)

end Nlboot.Reference
