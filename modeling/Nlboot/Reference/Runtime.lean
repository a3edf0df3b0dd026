import Nlboot.Lib.CodePoints
import Nlboot.Lib.Except
import Nlboot.Lib.Hex
import Nlboot.Reference.Time

/-!
# What the reference planner takes from Python

Exceptions, strings, clocks and cryptography as the modules of `src/nlboot` use them.

* `PyError`: the exceptions that can leave a function. The four classes of the package carry their
  message; the built-in ones do not, since no code reads theirs.
* `Runtime`: functions of the standard library that the model takes as given. Every theorem holds
  for any such functions.
* `PyText`: the strings of a document. The modules of this folder read documents of Unicode texts;
  what is signed is stated for strings with surrogates too.
* `Limits`: the values an interpreter's limits keep `json` and `str` from. A function takes them
  last; it is read without any where they do not matter.
* `Crypto`: the `cryptography` package. `load_pem_public_key` has four outcomes: an RSA key, a key
  of another kind, `ValueError` for a block that does not parse, and `UnsupportedAlgorithm` for a
  key type OpenSSL does not know.
* `requireString`, `parseTime`: the two helpers `protocol.py`, `device.py` and `verify.py` each
  define for themselves, over the exception class they raise.
-/

namespace Nlboot.Reference

open Nlboot.Lib

/-- An exception that leaves a function. -/
inductive PyError where
  | nlboot (message : String)
  | verification (message : String)
  | device (message : String)
  | enrollment (message : String)
  | value
  | type
  | overflow
  | recursion
  | unsupportedAlgorithm
  deriving DecidableEq

/-- The error is of one of the four classes of the package. -/
def PyError.ofPackage : PyError → Bool
  | .nlboot _ | .verification _ | .device _ | .enrollment _ => true
  | .value | .type | .overflow | .recursion | .unsupportedAlgorithm => false

/-- Standard library functions: number rendering of `json.dumps`, `repr` of a string, `str` of a
JSON value that is no string, and the two directions between text and `datetime`. -/
structure Runtime (N : Type) where
  num : N → List Char
  repr : String → String
  str : Json N → String
  fromisoformat : String → Option PyDateTime
  isoformat : UtcTime → String

/-- Why `json.loads`, `json.dumps` or `str` fails on a value: it is nested too deep for the stack
(`RecursionError`), or an integer in it has too many digits (`ValueError`). -/
inductive Exceeded where
  | depth
  | digits
  deriving DecidableEq

def Exceeded.error : Exceeded → PyError
  | .depth => .recursion
  | .digits => .value

/-- What the limits of the interpreter make of each value. -/
structure Limits (N : Type) where
  loads : Json N → Option Exceeded
  dumps : Json N → Option Exceeded
  str : Json N → Option Exceeded

/-- No value at hand exceeds a limit. -/
def Limits.none {N : Type} : Limits N where
  loads _ := Option.none
  dumps _ := Option.none
  str _ := Option.none

/-- What `serialization.load_pem_public_key` does with a text. -/
inductive PemLoad (K : Type) where
  | rsa (key : K)
  | otherKey
  | valueError
  | unsupportedAlgorithm

/-- The `cryptography` package and `hashlib`, for RSA public keys of type `K`: key size in bits,
SubjectPublicKeyInfo DER bytes, and RSA-PSS/SHA-256 verification (salt length 32). -/
structure Crypto (K : Type) where
  loadPemPublicKey : String → PemLoad K
  keySize : K → Nat
  publicBytes : K → List UInt8
  verify (key : K) (signature payload : List UInt8) : Bool
  sha256 : List UInt8 → List UInt8

variable {N K : Type}

/-! ## Strings -/

/-- `str.isspace` of one character. -/
def isSpace (c : Char) : Bool :=
  let n := c.toNat
  (0x09 ≤ n && n ≤ 0x0D) || (0x1C ≤ n && n ≤ 0x20) || n == 0x85 || n == 0xA0 || n == 0x1680 ||
    (0x2000 ≤ n && n ≤ 0x200A) || n == 0x2028 || n == 0x2029 || n == 0x202F || n == 0x205F ||
    n == 0x3000

/-- `not value.strip()`. -/
def blank (s : String) : Bool := s.toList.all isSpace

/-- `text.startswith(head)`. -/
def startswith (text head : String) : Bool := head.toList.isPrefixOf text.toList

/-- `part in text`. -/
def contains (text part : String) : Bool := text.toList.tails.any part.toList.isPrefixOf

/-- The scan of `str.replace`: `skip` characters of a match are still to be dropped. -/
def replaceScan (old new : List Char) : Nat → List Char → List Char
  | _, [] => []
  | skip + 1, _ :: cs => replaceScan old new skip cs
  | 0, c :: cs =>
    if old.isPrefixOf (c :: cs) then new ++ replaceScan old new (old.length - 1) cs
    else c :: replaceScan old new 0 cs

/-- `text.replace(old, new)`, for a nonempty `old`. -/
def replace (text old new : String) : String :=
  String.ofList (replaceScan old.toList new.toList 0 text.toList)

/-- `bytes.fromhex`: two digits a byte, ASCII whitespace allowed between bytes; none where it
raises `ValueError`. -/
def fromhex : List Char → Option (List UInt8)
  | [] => some []
  | [c] => if c.toNat = 0x20 ∨ 0x09 ≤ c.toNat ∧ c.toNat ≤ 0x0D then some [] else none
  | c :: d :: cs =>
    if c.toNat = 0x20 ∨ 0x09 ≤ c.toNat ∧ c.toNat ≤ 0x0D then fromhex (d :: cs)
    else
      match hexValue c, hexValue d, fromhex cs with
      | some hi, some lo, some bytes => some (UInt8.ofNat (16 * hi + lo) :: bytes)
      | _, _, _ => none

/-- `bytes.fromhex(data.hex())` is `data`. -/
theorem fromhex_hexdigest (bytes : List UInt8) : fromhex (hexdigest bytes).toList = some bytes := by
  unfold hexdigest
  rw [String.toList_ofList]
  induction bytes with
  | nil => rfl
  | cons b bytes ih =>
    have hb : b.toNat < 256 := b.toNat_lt
    obtain ⟨hhigh, hblank⟩ := hexValue_digitChar (show b.toNat / 16 < 16 by omega)
    obtain ⟨hlow, -⟩ := hexValue_digitChar (show b.toNat % 16 < 16 by omega)
    rw [List.flatMap_cons, List.cons_append, List.cons_append, List.nil_append, fromhex,
      if_neg hblank, hhigh, hlow, ih]
    have hsum : 16 * (b.toNat / 16) + b.toNat % 16 = b.toNat := by omega
    simp only [hsum, UInt8.ofNat_toNat]

theorem hexdigest_injective : Function.Injective hexdigest := by
  intro bytes bytes' h
  have hread := fromhex_hexdigest bytes
  rw [h, fromhex_hexdigest] at hread
  exact (Option.some.inj hread).symm

theorem blank_hexdigest (b : UInt8) (bytes : List UInt8) :
    blank (hexdigest (b :: bytes)) = false := by
  have hdigit : ∀ k, k < 16 → isSpace k.digitChar = false := by decide
  have hb : b.toNat < 256 := b.toNat_lt
  unfold blank hexdigest
  rw [String.toList_ofList, List.flatMap_cons, List.cons_append, List.all_cons,
    hdigit _ (by omega), Bool.false_and]

/-! ## Strings with surrogates -/

/-- A type of Python strings. A `str` is a list of code points, and surrogates may be among them:
`json.loads` makes one of `"\ud83d"`. It joins two that belong together, so a split pair comes only
of input that has one itself. -/
class PyText (S : Type) where
  ofString : String → S
  points : S → List CodePoint
  points_ofString : ∀ s, points (ofString s) = codePoints s

/-- Unicode texts. -/
instance : PyText String := ⟨id, codePoints, fun _ => rfl⟩

/-- Strings without split pairs. -/
instance : PyText JoinedText :=
  ⟨fun s => ⟨codePoints s, joined_codePoints s⟩, JoinedText.points, fun _ => rfl⟩

/-- All strings. -/
instance : PyText (List CodePoint) := ⟨codePoints, id, fun _ => rfl⟩

section

variable {S : Type} [PyText S]

/-- The order `sorted` puts strings in: by code point. -/
def pyLe (a b : S) : Bool :=
  lexLe ((PyText.points a).map CodePoint.toNat) ((PyText.points b).map CodePoint.toNat)

/-- A string as `json.dumps` writes it, with `ensure_ascii`. -/
def pyLiteral (s : S) : List Char := literal (PyText.points s)

/-- `json.dumps(value, sort_keys=True, separators=(",", ":")).encode("utf-8")`. -/
def jsonDumps (num : N → List Char) (value : Json N S) : List UInt8 :=
  utf8 (compact pyLiteral num (value.sortKeys pyLe))

theorem pyLe_string (a b : String) :
    pyLe a b = lexLe (a.toList.map Char.toNat) (b.toList.map Char.toNat) := by
  have hpoints : ∀ s : String, (PyText.points s).map CodePoint.toNat = s.toList.map Char.toNat :=
    fun s => List.map_map
  unfold pyLe
  rw [hpoints, hpoints]

@[simp] theorem ofString_string (s : String) : (PyText.ofString s : String) = s := rfl

theorem pyLiteral_string : (pyLiteral : String → List Char) = quoted escapeAscii :=
  funext literal_codePoints

/-- Documents of Unicode texts are dumped with the escapes of their characters. -/
theorem jsonDumps_string (num : N → List Char) (value : Json N) :
    jsonDumps num value = utf8 (compact (quoted escapeAscii) num (value.sortKeys pyLe)) := by
  rw [jsonDumps, pyLiteral_string]

/-- Strings without split pairs are written one to one. -/
theorem textCode_pyLiteral : TextCode (pyLiteral : JoinedText → List Char) := textCode_literal

theorem textCode_string : TextCode (pyLiteral : String → List Char) :=
  pyLiteral_string ▸ textCode_quoted escapes_ascii

end

/-! ## Limits -/

/-- Raise the error of a limit that is exceeded. -/
def within (exceeded : Option Exceeded) : Except PyError Unit :=
  match exceeded with
  | none => pure ()
  | some exceeded => throw exceeded.error

@[simp] theorem within_eq_ok {exceeded : Option Exceeded} {u : Unit} :
    within exceeded = .ok u ↔ exceeded = none := by
  cases exceeded <;> simp [within]

@[simp] theorem strays_within {own : PyError → Prop} {exceeded : Option Exceeded} :
    Strays own (within exceeded) ↔ ∃ reason, exceeded = some reason ∧ ¬ own reason.error := by
  cases exceeded <;> simp [within]

/-! ## Document fields -/

/-- `value == text`, for the value of a member that may be absent. -/
def equalsText (value : Option (Json N)) (text : String) : Bool :=
  match value with
  | some (.str s) => s == text
  | _ => false

@[simp] theorem equalsText_iff {value : Option (Json N)} {text : String} :
    equalsText value text = true ↔ value = some (.str text) := by
  unfold equalsText
  split
  · simp
  · rename_i hne
    simp only [Bool.false_eq_true, false_iff]
    exact fun h => hne text h

/-- `isinstance(value, str) and value`: the member must be a nonempty string. -/
def nonEmptyString (error : PyError) (value : Option (Json N)) : Except PyError String :=
  match value with
  | some (.str s) => do
    check (s ≠ "") error
    pure s
  | _ => throw error

/-- A value that has to be a text, and to pass a check. -/
theorem checkedText_eq_ok {P : String → Prop} [DecidablePred P] {error error' : PyError}
    {value : Option (Json N)} {s : String} :
    (match value with
      | some (.str t) => do
        check (P t) error
        pure t
      | _ => throw error' : Except PyError String) = .ok s ↔ value = some (.str s) ∧ P s := by
  split
  · rename_i t
    simp only [bind_eq_ok, check_eq_ok, exists_const, pure_eq_ok, Option.some.injEq, Json.str.injEq]
    constructor
    · rintro ⟨hP, rfl⟩
      exact ⟨rfl, hP⟩
    · rintro ⟨rfl, hP⟩
      exact ⟨hP, rfl⟩
  · rename_i hne
    simp only [throw_ne_ok, false_iff, not_and]
    exact fun h => absurd h (hne s)

@[simp] theorem nonEmptyString_eq_ok {error : PyError} {value : Option (Json N)} {s : String} :
    nonEmptyString error value = .ok s ↔ value = some (.str s) ∧ s ≠ "" :=
  checkedText_eq_ok

/-- `_require_string`: the member must be a string that is not blank. -/
def requireString (raise : String → PyError) (data : Members N) (key : String) :
    Except PyError String :=
  match data.get key with
  | some (.str s) => do
    check (blank s = false) (raise (key ++ " must be a non-empty string"))
    pure s
  | _ => throw (raise (key ++ " must be a non-empty string"))

@[simp] theorem requireString_eq_ok {raise : String → PyError} {data : Members N}
    {key s : String} :
    requireString raise data key = .ok s ↔ data.get key = some (.str s) ∧ blank s = false :=
  checkedText_eq_ok

/-! ## Time -/

/-- The aware time a text names: what `fromisoformat` makes of it after the `Z` rewriting, if
that has an offset. -/
def awareTime (rt : Runtime N) (value : String) : Option AwareTime :=
  match rt.fromisoformat (replace value "Z" "+00:00") with
  | some (.aware t) => some t
  | _ => none

/-- `_parse_time`: an ISO-8601 text with an offset, in UTC. -/
def parseTime (rt : Runtime N) (raise : String → PyError) (value key : String) :
    Except PyError UtcTime :=
  match rt.fromisoformat (replace value "Z" "+00:00") with
  | none => throw (raise (key ++ " must be an ISO-8601 datetime"))
  | some (.naive _) => throw (raise (key ++ " must include timezone information"))
  | some (.aware t) =>
    match t.toUtc with
    | some u => pure u
    | none => throw .overflow

@[simp] theorem parseTime_eq_ok {rt : Runtime N} {raise : String → PyError} {value key : String}
    {u : UtcTime} :
    parseTime rt raise value key = .ok u ↔ ∃ t, awareTime rt value = some t ∧ t.toUtc = some u := by
  unfold parseTime awareTime
  rcases rt.fromisoformat (replace value "Z" "+00:00") with _ | ⟨w⟩ | ⟨t⟩
  · simp
  · simp
  · cases h : t.toUtc <;> simp [h]

/-- `astimezone(timezone.utc)` of a time that is handed in. -/
def Moment.astimezone : Moment → Except PyError UtcTime
  | .aware t | .naive (some t) => orThrow .overflow t.toUtc
  | .naive none => throw .value

/-- `(now or datetime.now(timezone.utc)).astimezone(timezone.utc)`, with `clock` the reading of
the system clock. -/
def currentTime (clock : UtcTime) (now : Option Moment) : Except PyError UtcTime :=
  match now with
  | none => pure clock
  | some t => t.astimezone

@[simp] theorem Moment.astimezone_aware {t : AwareTime} {u : UtcTime} :
    (Moment.aware t).astimezone = .ok u ↔ t.toUtc = some u :=
  orThrow_eq_ok

@[simp] theorem UtcTime.astimezone_toMoment (t : UtcTime) : t.toMoment.astimezone = .ok t :=
  Moment.astimezone_aware.mpr t.toUtc_toAware

/-- The time is no `datetime` in UTC. -/
def Moment.Untimely (t : Moment) : Prop := ∀ u, t.astimezone ≠ .ok u

/-- Where `astimezone` fails, it raises `OverflowError` or `ValueError`. -/
theorem Moment.ofPackage_of_astimezone {t : Moment} {e : PyError} (h : t.astimezone = .error e) :
    e.ofPackage = false := by
  have hoverflow : ∀ t : AwareTime, orThrow PyError.overflow t.toUtc = .error e →
      e.ofPackage = false := by
    intro t h
    cases hutc : t.toUtc with
    | some u => exact absurd (hutc ▸ h) (by simp [orThrow])
    | none =>
      rw [hutc] at h
      exact Except.error.inj h ▸ rfl
  cases t with
  | aware t => exact hoverflow t h
  | naive localTime =>
    cases localTime with
    | some t => exact hoverflow t h
    | none => exact Except.error.inj h ▸ rfl

theorem ofPackage_of_currentTime {clock : UtcTime} {now : Option Moment} {e : PyError}
    (h : currentTime clock now = .error e) : e.ofPackage = false := by
  cases now with
  | none => exact absurd h (by simp [currentTime, pure, Except.pure])
  | some t => exact t.ofPackage_of_astimezone h

theorem currentTime_some_eq_ok {clock u : UtcTime} {t : AwareTime} :
    currentTime clock (some t) = .ok u ↔ t.toUtc = some u :=
  Moment.astimezone_aware

@[simp] theorem currentTime_toMoment {clock u : UtcTime} :
    currentTime clock (some u.toMoment) = .ok u :=
  u.astimezone_toMoment

end Nlboot.Reference
