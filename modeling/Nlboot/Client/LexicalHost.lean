import Mathlib.Algebra.Group.Int.Defs
import Nlboot.Client.Host

/-!
# A machine without links

A host and an environment to run the model with: paths are resolved by their texts from a working
directory, the libraries answer from tables, and nothing fails. The tables hold what the libraries
answer on the inputs of a run; a text that is not in them is no JSON and no timestamp.

* `Library`, `lexicalHost`: the tables and the host.
* `calm`: an environment of root in which every call succeeds.
* `parse_jsonBytes`: a printed document of the table is read back.
* `printed_obj`: how the text of an object begins.
-/

namespace Nlboot.Client

open Nlboot.Lib Nlboot.Lib.Path

/-- What the libraries answer: the documents that are parsed, digests by text and times by
timestamp. -/
structure Library where
  documents : List (Json Int)
  digests : List (List UInt8 × List UInt8)
  times : List (String × Int)

/-- `itoa`. -/
def decimal (n : Int) : List Char := (toString n).toList

/-- A document as `write_json` prints it. -/
def printed (document : Json Int) : List UInt8 :=
  utf8 (pretty (quoted escapeMinimal) decimal 0 document ++ ['\n'])

/-- The host of a library, with the working directory `/srv`. Keys are not verified. -/
def lexicalHost (library : Library) : Host Int String (List String) where
  parse bytes :=
    match library.documents.find? fun document => printed document = bytes with
    | some document => .json document
    | none => .notJson
  num := decimal
  asU64 n := if 0 ≤ n ∧ n < 2 ^ 64 then some n.toNat else none
  ofU64 n := n
  timestamp text := library.times.lookup text
  rfc3339 time := ((library.times.find? fun entry => entry.2 = time).map Prod.fst).getD ""
  parseFromRfc3339 text :=
    match library.times.lookup text with
    | some time => .ok time
    | none => .error "input contains invalid characters"
  debug text := "\"" ++ text ++ "\""
  sha256 bytes := (library.digests.lookup bytes).getD []
  fromPublicKeyPem pem := some pem
  signatureError _ := none
  verify _ _ _ := false
  dirOf := resolve ["srv"]

/-- Nothing fails, and the clock stands still. -/
def calm (time : Int) : Env (List String) where
  euid := 0
  utcNow _ := time
  readable _ := true
  mkdirFails _ := false
  writes _ := .done
  status _ := .exited true "exit status: 0"
  get _ := .failed

theorem jsonBytes_lexicalHost (library : Library) (document : Json Int) :
    jsonBytes (lexicalHost library) document = printed document := rfl

theorem asU64_ofU64 (library : Library) {n : Nat} (h : n < 2 ^ 64) :
    (lexicalHost library).asU64 ((lexicalHost library).ofU64 n) = some n := by
  unfold lexicalHost
  simp only
  rw [if_pos ⟨Int.natCast_nonneg _, by exact_mod_cast h⟩, Int.toNat_natCast]

/-- **A printed document of the table is read back**, if no document before it prints alike. -/
theorem parse_jsonBytes {library : Library} (before : List (Json Int)) {after : List (Json Int)}
    {document : Json Int}
    (h : library.documents = before ++ document :: after)
    (hne : ∀ other ∈ before, printed other ≠ printed document) :
    (lexicalHost library).parse (jsonBytes (lexicalHost library) document) = .json document := by
  have hfind : library.documents.find? (fun other => printed other = printed document) =
      some document := by
    rw [h, List.find?_append, List.find?_eq_none.mpr fun other hother => by
      simpa using hne other hother]
    simp
  show (match library.documents.find? fun other => printed other = printed document with
    | some document => Parsed.json document
    | none => .notJson) = .json document
  rw [hfind]

/-- A printed document ends its line, so it is no other text than that. -/
theorem printed_ne_singleton (document : Json Int) {byte : UInt8} (h : byte ≠ 10) :
    printed document ≠ [byte] := by
  intro heq
  have hlast : (printed document).getLast? = some 10 := by
    unfold printed utf8
    rw [List.flatMap_append, List.getLast?_append_of_ne_nil _ (by decide)]
    rfl
  rw [heq] at hlast
  exact h (Option.some.inj hlast)

theorem exists_intercalate_cons (sep x : List Char) (xs : List (List Char)) :
    ∃ rest, sep.intercalate (x :: xs) = x ++ rest := by
  cases xs with
  | nil => exact ⟨[], by simp [List.intercalate]⟩
  | cons y ys => exact ⟨sep ++ sep.intercalate (y :: ys), by simp [List.intercalate]⟩

/-- How the text of an object begins. -/
def opening (name : String) : List UInt8 :=
  utf8 (['\x7b', '\n', ' ', ' ', '\"'] ++ name.toList.flatMap escapeMinimal)

/-- The text of an object begins with its first name. -/
theorem printed_obj (name : String) (value : Json Int) (members : Members Int) :
    opening name <+: printed (.obj ((name, value) :: members)) := by
  let first := ['\n', ' ', ' '] ++ (quoted escapeMinimal name ++ [':', ' '] ++
    pretty (quoted escapeMinimal) decimal 1 value)
  let others := (prettyMembers (quoted escapeMinimal) decimal 1 members).map (['\n', ' ', ' '] ++ ·)
  obtain ⟨rest, hrest⟩ := exists_intercalate_cons [','] first others
  have hpretty : pretty (quoted escapeMinimal) decimal 0 (.obj ((name, value) :: members)) =
      ['\x7b'] ++ [','].intercalate (first :: others) ++ ['\n'] ++ ['\x7d'] := rfl
  refine ⟨utf8 (['\"'] ++ [':', ' '] ++ pretty (quoted escapeMinimal) decimal 1 value ++ rest ++
    ['\n'] ++ ['\x7d'] ++ ['\n']), ?_⟩
  unfold printed opening
  rw [hpretty, hrest]
  simp [first, quoted, utf8]

/-- Objects that begin with different names print differently. -/
theorem printed_ne {name name' : String} {value value' : Json Int} {members members' : Members Int}
    (h : ¬ opening name <+: opening name') (h' : ¬ opening name' <+: opening name) :
    printed (.obj ((name, value) :: members)) ≠ printed (.obj ((name', value') :: members')) := by
  intro heq
  have hprefix := printed_obj name value members
  rw [heq] at hprefix
  rcases List.prefix_or_prefix_of_prefix hprefix (printed_obj name' value' members') with hp | hp
  · exact h hp
  · exact h' hp

end Nlboot.Client
