import Nlboot.Lib.Dict
import Nlboot.Lib.JsonText

/-!
# The client's signing payload

Model of `sort_value_keys` and `canonical_manifest_payload` of `rust/nlboot-client/src/main.rs`.

`String: Ord` compares UTF-8 bytes (`rustLe`). `collectMap` is `collect` into a `serde_json::Map`,
as the insertion-ordered map of the `preserve_order` feature builds it; the default sorted map
iterates the sorted entries it is given here in the same order.

* `rustLe_eq`: byte order is code point order, so both clients sort names alike.
* **`sortValueKeys_eq`**: with one value per name, `sort_value_keys` sorts the members of every
  object and changes nothing else.
-/

namespace Nlboot.Client

open Nlboot.Lib

variable {N : Type}

/-- `String: Ord`: byte by byte. -/
def rustLe (a b : String) : Bool :=
  lexLe ((utf8 a.toList).map UInt8.toNat) ((utf8 b.toList).map UInt8.toNat)

theorem rustLe_eq (a b : String) :
    rustLe a b = lexLe (a.toList.map Char.toNat) (b.toList.map Char.toNat) :=
  lexLe_utf8 a.toList b.toList

/-- `entries.into_iter().collect()` into a `Map`: a later value replaces an earlier one. -/
def collectMap (entries : Members N) : Members N :=
  entries.foldl (fun map e => dictSet map e.1 e.2) []

mutual

/-- `sort_value_keys`. -/
def sortValueKeys : Json N → Json N
  | .null => .null
  | .bool b => .bool b
  | .num n => .num n
  | .str s => .str s
  | .arr items => .arr (sortValueKeysItems items)
  | .obj map => .obj (collectMap (sortByKey rustLe (sortValueKeysEntries map)))

def sortValueKeysItems : List (Json N) → List (Json N)
  | [] => []
  | j :: items => sortValueKeys j :: sortValueKeysItems items

def sortValueKeysEntries : Members N → Members N
  | [] => []
  | (k, v) :: map => (k, sortValueKeys v) :: sortValueKeysEntries map

end

/-- `canonical_manifest_payload`, with `num` the number rendering of `serde_json::to_vec`. -/
def canonicalManifestPayload (num : N → List Char) (manifestValue : Json N) :
    Except String (List UInt8) :=
  match manifestValue with
  | .obj map =>
    let unsigned := map.filter fun m => m.1 ≠ "signature_hex"
    pure (utf8 (compact (quoted escapeMinimal) num (sortValueKeys (.obj unsigned))))
  | _ => throw "manifest must be a JSON object"

/-! ## Sorting keeps the document -/

theorem sortValueKeysItems_eq (items : List (Json N)) :
    sortValueKeysItems items = items.map sortValueKeys := by
  induction items with
  | nil => rfl
  | cons j items ih => rw [sortValueKeysItems, ih, List.map_cons]

theorem sortValueKeysEntries_eq (map : Members N) :
    sortValueKeysEntries map = map.map fun m => (m.1, sortValueKeys m.2) := by
  induction map with
  | nil => rfl
  | cons m map ih => obtain ⟨k, v⟩ := m; rw [sortValueKeysEntries, ih, List.map_cons]

theorem collectMap_of_nodup {entries : Members N} (h : (entries.map Prod.fst).Nodup) :
    collectMap entries = entries :=
  foldl_dictSet_of_nodup entries [] h

/-- Collecting sorted entries back into a map keeps them as they are. -/
theorem collectMap_sortByKey {entries : Members N} (h : (entries.map Prod.fst).Nodup) :
    collectMap (sortByKey rustLe entries) = sortByKey rustLe entries :=
  collectMap_of_nodup (((sortByKey_perm rustLe entries).map Prod.fst).nodup_iff.mpr h)

/-- **`sort_value_keys` sorts the members of every object**, and no value of a parsed document
is lost on the way through the map. -/
theorem sortValueKeys_eq {j : Json N} (h : j.distinctNames = true) :
    sortValueKeys j = j.sortKeys rustLe := by
  induction j with
  | null | bool | num | str => rfl
  | arr items ih =>
    rw [Json.distinctNames, Json.distinctNamesItems_iff] at h
    rw [sortValueKeys, Json.sortKeys, sortValueKeysItems_eq, Json.sortKeysItems_eq,
      List.map_congr_left fun j hj => ih j hj (h j hj)]
  | obj members ih =>
    rw [Json.distinctNames, Bool.and_eq_true, decide_eq_true_eq,
      Json.distinctNamesMembers_iff] at h
    obtain ⟨hnodup, hvalues⟩ := h
    have hcong : members.map (fun m => (m.1, sortValueKeys m.2)) =
        members.map fun m => (m.1, m.2.sortKeys rustLe) :=
      List.map_congr_left fun m hm => by rw [ih m hm (hvalues m hm)]
    rw [sortValueKeys, Json.sortKeys, sortValueKeysEntries_eq, Json.sortKeysMembers_eq, hcong,
      collectMap_sortByKey]
    rwa [List.map_map]

end Nlboot.Client
