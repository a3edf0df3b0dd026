import Mathlib.Data.List.Infix
import Nlboot.Lib.Json

/-!
# Schemas of flat objects

The part of JSON Schema (draft 2020-12) that describes an object of plain members: which are
required, which others may be there, and what each value has to be. A keyword about strings says
nothing of a value that is no string, and `format` says nothing at all: it is an annotation.

* `Pattern`: the two kinds of regular expression, `part` and `^head[chars]{least,most}$`.
* `Keyword`, `ObjectSchema`: the schemas.
* `ObjectSchema.missing`, `ObjectSchema.validates`: what an object lacks, and whether it is valid.

Results:
* `Pattern.matches_part`, `Pattern.matches_whole`: what the patterns match.
* **`ObjectSchema.validates_iff`**: an object is valid iff it lacks nothing, and each of its members
  is known and satisfies its keywords.
-/

namespace Nlboot.Lib

/-- A regular expression: a part that occurs, or a whole text of a head and characters of a class,
in a number within bounds. -/
inductive Pattern where
  | part (text : String)
  | whole (head : String) (chars : List Char) (least : Nat) (most : Option Nat)

/-- The text matches. -/
def Pattern.matches : Pattern → String → Bool
  | .part inner, text => text.toList.tails.any inner.toList.isPrefixOf
  | .whole head chars least most, text =>
    let rest := text.toList.drop head.toList.length
    head.toList.isPrefixOf text.toList && rest.all chars.contains && decide (least ≤ rest.length) &&
      most.all (rest.length ≤ ·)

/-- What a schema says of a value. -/
inductive Keyword where
  | typeString
  | const (text : String)
  | pattern (expression : Pattern)
  | minLength (least : Nat)
  | format (name : String)

variable {N : Type}

/-- The value satisfies the keyword. -/
def Keyword.accepts : Keyword → Json N → Bool
  | .typeString, .str _ => true
  | .typeString, _ => false
  | .const text, .str s => s == text
  | .const _, _ => false
  | .pattern expression, .str s => expression.matches s
  | .minLength least, .str s => least ≤ s.toList.length
  | _, _ => true

/-- A schema of `"type": "object"`. -/
structure ObjectSchema where
  required : List String
  properties : List (String × List Keyword)
  additionalProperties : Bool

/-- The required members that are not there. -/
def ObjectSchema.missing (schema : ObjectSchema) (members : Members N) : List String :=
  schema.required.filter fun name => (members.get name).isNone

/-- The member is known and satisfies its keywords, or may be anything. -/
def ObjectSchema.acceptsMember (schema : ObjectSchema) (member : String × Json N) : Bool :=
  match schema.properties.lookup member.1 with
  | some keywords => keywords.all (·.accepts member.2)
  | none => schema.additionalProperties

/-- The object is valid. -/
def ObjectSchema.validates (schema : ObjectSchema) (members : Members N) : Bool :=
  (schema.missing members).isEmpty && members.all schema.acceptsMember

/-! ## What is matched and what is valid -/

theorem Pattern.matches_part {inner text : String} :
    (Pattern.part inner).matches text = true ↔ inner.toList <:+: text.toList := by
  unfold Pattern.matches
  rw [List.any_eq_true, List.infix_iff_prefix_suffix]
  refine exists_congr fun tail => ?_
  rw [List.mem_tails, List.isPrefixOf_iff_prefix, and_comm]

theorem Pattern.matches_whole {head text : String} {chars : List Char} {least : Nat}
    {most : Option Nat} :
    (Pattern.whole head chars least most).matches text = true ↔
      ∃ rest, text.toList = head.toList ++ rest ∧ (∀ c ∈ rest, c ∈ chars) ∧ least ≤ rest.length ∧
        ∀ n ∈ most, rest.length ≤ n := by
  unfold Pattern.matches
  simp only [Bool.and_eq_true, List.isPrefixOf_iff_prefix, List.all_eq_true, List.contains_iff_mem,
    decide_eq_true_eq, Option.all_eq_true, and_assoc]
  constructor
  · rintro ⟨⟨rest, hrest⟩, hchars, hleast, hmost⟩
    rw [← hrest, List.drop_left] at hchars hleast hmost
    exact ⟨rest, hrest.symm, hchars, hleast, hmost⟩
  · rintro ⟨rest, hrest, hchars, hleast, hmost⟩
    rw [hrest, List.drop_left]
    exact ⟨List.prefix_append _ _, hchars, hleast, hmost⟩

/-- **An object is valid** iff it lacks nothing and each member is accepted. -/
theorem ObjectSchema.validates_iff {schema : ObjectSchema} {members : Members N} :
    schema.validates members = true ↔ schema.missing members = [] ∧
      ∀ member ∈ members, schema.acceptsMember member = true := by
  rw [validates, Bool.and_eq_true, List.isEmpty_iff, List.all_eq_true]

/-- An object that lacks a member is not valid. -/
theorem ObjectSchema.not_validates_of_missing {schema : ObjectSchema} {members : Members N}
    {name : String} (h : name ∈ schema.missing members) : schema.validates members = false := by
  refine Bool.eq_false_iff.mpr fun hvalid => ?_
  exact List.ne_nil_of_mem h (validates_iff.mp hvalid).1

end Nlboot.Lib
