import Nlboot.Client.Serde
import Nlboot.Lib.JsonCode

/-!
# The signing payload and the order of the client's maps

`serde_json`'s `Map` is one of two things. By default it is a `BTreeMap`, with the entries in the
order of their names. With the `preserve_order` feature, which any dependency can turn on, it is an
`IndexMap`: the entries keep the order of the text, and `remove` puts the last entry into the place
of the one it takes out. `canonical_manifest_payload` (`rust/nlboot-client/src/main.rs`) goes
through such a map at every object, so this file follows it for both.

* `MapOrder`, `MapOrder.collect`, `MapOrder.remove`: the two maps.
* `MapOrder.value`: a document as the map holds it.
* `sortValueKeysIn`, `canonicalManifestPayloadIn`: the functions of the source over either map.
* `unsignedPart`: the members the payload is made of.

Results:
* `collect_perm`, `remove_perm`: a map holds the members it was given, in some order.
* `sortValueKeysIn_eq`: sorting the names undoes the order of the map.
* `canonicalManifestPayloadIn_eq`: the payload is that of `canonicalManifestPayload`.
* **`canonicalManifestPayloadIn_eq_iff`**: two manifests have one payload exactly if their unsigned
  parts are the same value.
-/

namespace Nlboot.Client

open Nlboot.Lib

variable {N : Type}

/-! ## The two maps -/

/-- The order a `serde_json::Map` keeps its entries in. -/
inductive MapOrder where
  | sorted
  | inserted
  deriving DecidableEq, Repr

/-- `IndexMap::swap_remove`: the last entry takes the place of the one removed. -/
def swapRemove (name : String) : Members N → Members N
  | [] => []
  | m :: map =>
    if m.1 = name then
      match map.getLast? with
      | none => []
      | some last => last :: map.dropLast
    else m :: swapRemove name map

namespace MapOrder

/-- `entries.into_iter().collect()` into a `Map`. -/
def collect : MapOrder → Members N → Members N
  | .sorted, entries => btreeMap entries
  | .inserted, entries => collectMap entries

/-- `Map::remove`. -/
def remove (name : String) : MapOrder → Members N → Members N
  | .sorted, map => map.filter fun m => m.1 ≠ name
  | .inserted, map => swapRemove name map

mutual

/-- The `Value` of a document. -/
def value (order : MapOrder) : Json N → Json N
  | .null => .null
  | .bool b => .bool b
  | .num n => .num n
  | .str s => .str s
  | .arr items => .arr (valueItems order items)
  | .obj members => .obj (order.collect (valueMembers order members))

def valueItems (order : MapOrder) : List (Json N) → List (Json N)
  | [] => []
  | j :: items => value order j :: valueItems order items

def valueMembers (order : MapOrder) : Members N → Members N
  | [] => []
  | (name, j) :: members => (name, value order j) :: valueMembers order members

end

end MapOrder

mutual

/-- `sort_value_keys`. -/
def sortValueKeysIn (order : MapOrder) : Json N → Json N
  | .null => .null
  | .bool b => .bool b
  | .num n => .num n
  | .str s => .str s
  | .arr items => .arr (sortValueKeysItemsIn order items)
  | .obj map => .obj (order.collect (sortByKey rustLe (sortValueKeysEntriesIn order map)))

def sortValueKeysItemsIn (order : MapOrder) : List (Json N) → List (Json N)
  | [] => []
  | j :: items => sortValueKeysIn order j :: sortValueKeysItemsIn order items

def sortValueKeysEntriesIn (order : MapOrder) : Members N → Members N
  | [] => []
  | (k, v) :: map => (k, sortValueKeysIn order v) :: sortValueKeysEntriesIn order map

end

/-- `canonical_manifest_payload`, over the `Value` the map holds. -/
def canonicalManifestPayloadIn (order : MapOrder) (num : N → List Char) (manifestValue : Json N) :
    Except String (List UInt8) :=
  match manifestValue with
  | .obj map =>
    let unsigned := order.remove "signature_hex" map
    pure (utf8 (compact (quoted escapeMinimal) num (sortValueKeysIn order (.obj unsigned))))
  | _ => throw "manifest must be a JSON object"

/-- The members the payload is made of. -/
def unsignedPart (members : Members N) : Members N := members.filter fun m => m.1 ≠ "signature_hex"

/-! ## What a map holds -/

theorem rustLe_antisymm (a b : String) (h : rustLe a b = true) (h' : rustLe b a = true) :
    a = b := by
  rw [rustLe_eq] at h h'
  have hchars : a.toList.map Char.toNat = b.toList.map Char.toNat := lexLe_antisymm h h'
  have hinj : Function.Injective Char.toNat := fun c d hcd => Char.toNat_inj.mp hcd
  exact String.toList_inj.mp (List.map_injective_iff.mpr hinj hchars)

/-- Sorting by name forgets the order of a map. -/
theorem sortByName_eq_of_perm {map map' : Members N} (h : map.Perm map')
    (hn : (map.map Prod.fst).Nodup) : sortByKey rustLe map = sortByKey rustLe map' :=
  sortByKey_eq_of_perm rustLe_total rustLe_trans rustLe_antisymm h hn

/-- **A map holds the entries** it was collected from, if their names are distinct. -/
theorem collect_perm (order : MapOrder) {entries : Members N}
    (h : (entries.map Prod.fst).Nodup) : (order.collect entries).Perm entries := by
  have hcollected : collectMap entries = entries := collectMap_of_nodup h
  cases order with
  | sorted =>
    show (sortByKey rustLe (collectMap entries)).Perm entries
    rw [hcollected]
    exact sortByKey_perm rustLe entries
  | inserted =>
    show (collectMap entries).Perm entries
    rw [hcollected]

/-- Sorted entries are collected as they are. -/
theorem collect_sortByKey (order : MapOrder) {entries : Members N}
    (h : (entries.map Prod.fst).Nodup) :
    order.collect (sortByKey rustLe entries) = sortByKey rustLe entries := by
  have hsorted : ((sortByKey rustLe entries).map Prod.fst).Nodup :=
    ((sortByKey_perm rustLe entries).map Prod.fst).nodup_iff.mpr h
  cases order with
  | sorted =>
    show sortByKey rustLe (collectMap (sortByKey rustLe entries)) = _
    rw [collectMap_of_nodup hsorted]
    exact sortByName_eq_of_perm (sortByKey_perm rustLe entries) hsorted
  | inserted => exact collectMap_of_nodup hsorted

/-- The last entry in front is the same entries. -/
theorem getLast_cons_dropLast_perm {map : Members N} {last : String × Json N}
    (h : map.getLast? = some last) : (last :: map.dropLast).Perm map := by
  obtain ⟨front, rfl⟩ := List.getLast?_eq_some_iff.mp h
  rw [List.dropLast_concat]
  exact (List.perm_append_singleton last front).symm

theorem filter_ne_of_notMem {name : String} {map : Members N} (h : name ∉ map.map Prod.fst) :
    (map.filter fun m => m.1 ≠ name) = map := by
  refine List.filter_eq_self.mpr fun m hm => ?_
  simpa using fun heq : m.1 = name => h (heq ▸ List.mem_map_of_mem hm)

theorem swapRemove_perm (name : String) {map : Members N} (h : (map.map Prod.fst).Nodup) :
    (swapRemove name map).Perm (map.filter fun m => m.1 ≠ name) := by
  induction map with
  | nil => exact .nil
  | cons m map ih =>
    obtain ⟨hm, hmap⟩ := List.nodup_cons.mp h
    unfold swapRemove
    by_cases hname : m.1 = name
    · rw [if_pos hname, List.filter_cons_of_neg (by simpa using hname),
        filter_ne_of_notMem (hname ▸ hm)]
      cases hlast : map.getLast? with
      | none => rw [List.getLast?_eq_none_iff.mp hlast]
      | some last => exact getLast_cons_dropLast_perm hlast
    · rw [if_neg hname, List.filter_cons_of_pos (by simpa using hname)]
      exact (ih hmap).cons m

/-- **A map without a name** holds the other entries. -/
theorem remove_perm (order : MapOrder) (name : String) {map : Members N}
    (h : (map.map Prod.fst).Nodup) :
    (order.remove name map).Perm (map.filter fun m => m.1 ≠ name) := by
  cases order with
  | sorted => exact .refl _
  | inserted => exact swapRemove_perm name h

/-! ## Sorting undoes the order of the map -/

theorem sortValueKeysItemsIn_eq (order : MapOrder) (items : List (Json N)) :
    sortValueKeysItemsIn order items = items.map (sortValueKeysIn order) := by
  induction items with
  | nil => rfl
  | cons j items ih => rw [sortValueKeysItemsIn, ih, List.map_cons]

theorem sortValueKeysEntriesIn_eq (order : MapOrder) (map : Members N) :
    sortValueKeysEntriesIn order map = map.map fun m => (m.1, sortValueKeysIn order m.2) := by
  induction map with
  | nil => rfl
  | cons m map ih => obtain ⟨k, v⟩ := m; rw [sortValueKeysEntriesIn, ih, List.map_cons]

theorem valueItems_eq (order : MapOrder) (items : List (Json N)) :
    order.valueItems items = items.map order.value := by
  induction items with
  | nil => rfl
  | cons j items ih => rw [MapOrder.valueItems, ih, List.map_cons]

theorem valueMembers_eq (order : MapOrder) (members : Members N) :
    order.valueMembers members = members.map fun m => (m.1, order.value m.2) := by
  induction members with
  | nil => rfl
  | cons m members ih => obtain ⟨name, j⟩ := m; rw [MapOrder.valueMembers, ih, List.map_cons]

/-- A change of the values keeps the names distinct. -/
theorem nodup_map_value {members : Members N} (f : Json N → Json N)
    (h : (members.map Prod.fst).Nodup) :
    ((members.map fun m => (m.1, f m.2)).map Prod.fst).Nodup := by
  rwa [List.map_map]

/-- **`sort_value_keys` sorts the members of every object**, whichever the map is. -/
theorem sortValueKeysIn_eq (order : MapOrder) {j : Json N} (h : j.distinctNames = true) :
    sortValueKeysIn order j = j.sortKeys rustLe := by
  induction j with
  | null | bool | num | str => rfl
  | arr items ih =>
    have hitems := Json.distinctNames_arr.mp h
    rw [sortValueKeysIn, Json.sortKeys, sortValueKeysItemsIn_eq, Json.sortKeysItems_eq,
      List.map_congr_left fun j hj => ih j hj (hitems j hj)]
  | obj members ih =>
    obtain ⟨hnames, hvalues⟩ := Json.distinctNames_obj.mp h
    have hcong : members.map (fun m => (m.1, sortValueKeysIn order m.2)) =
        members.map fun m => (m.1, m.2.sortKeys rustLe) :=
      List.map_congr_left fun m hm => by rw [ih m hm (hvalues m hm)]
    rw [sortValueKeysIn, Json.sortKeys, sortValueKeysEntriesIn_eq, Json.sortKeysMembers_eq, hcong,
      collect_sortByKey order (nodup_map_value _ hnames)]

/-- The `Value` of a document has distinct names and sorts as the document does. -/
theorem value_spec (order : MapOrder) {j : Json N} (h : j.distinctNames = true) :
    (order.value j).distinctNames = true ∧
      (order.value j).sortKeys rustLe = j.sortKeys rustLe := by
  induction j with
  | null | bool | num | str => exact ⟨rfl, rfl⟩
  | arr items ih =>
    have hitems := Json.distinctNames_arr.mp h
    rw [MapOrder.value, valueItems_eq]
    constructor
    · refine Json.distinctNames_arr.mpr fun item hitem => ?_
      obtain ⟨j, hj, rfl⟩ := List.mem_map.mp hitem
      exact (ih j hj (hitems j hj)).1
    · rw [Json.sortKeys, Json.sortKeys, Json.sortKeysItems_eq, Json.sortKeysItems_eq, List.map_map]
      exact congrArg Json.arr (List.map_congr_left fun j hj => (ih j hj (hitems j hj)).2)
  | obj members ih =>
    obtain ⟨hnames, hvalues⟩ := Json.distinctNames_obj.mp h
    have hperm : (order.collect (members.map fun m => (m.1, order.value m.2))).Perm
        (members.map fun m => (m.1, order.value m.2)) :=
      collect_perm order (nodup_map_value order.value hnames)
    have hnodup : ((order.collect (members.map fun m => (m.1, order.value m.2))).map
        Prod.fst).Nodup :=
      (hperm.map Prod.fst).nodup_iff.mpr (nodup_map_value order.value hnames)
    rw [MapOrder.value, valueMembers_eq]
    constructor
    · refine Json.distinctNames_obj.mpr ⟨hnodup, fun entry hentry => ?_⟩
      obtain ⟨m, hm, rfl⟩ := List.mem_map.mp (hperm.mem_iff.mp hentry)
      exact (ih m hm (hvalues m hm)).1
    · have hcong : members.map (fun m => (m.1, (order.value m.2).sortKeys rustLe)) =
          members.map fun m => (m.1, m.2.sortKeys rustLe) :=
        List.map_congr_left fun m hm => by rw [(ih m hm (hvalues m hm)).2]
      have hsorted := hperm.map fun m => (m.1, m.2.sortKeys rustLe)
      rw [List.map_map] at hsorted
      rw [Json.sortKeys, Json.sortKeys, Json.sortKeysMembers_eq, Json.sortKeysMembers_eq, ← hcong]
      exact congrArg Json.obj (sortByName_eq_of_perm hsorted (nodup_map_value _ hnodup))

/-! ## The payload -/

theorem distinctNames_unsignedPart {members : Members N}
    (h : (Json.obj members).distinctNames = true) :
    (Json.obj (unsignedPart members)).distinctNames = true := by
  obtain ⟨hnames, hvalues⟩ := Json.distinctNames_obj.mp h
  exact Json.distinctNames_obj.mpr ⟨hnames.sublist (List.filter_sublist.map _),
    fun m hm => hvalues m (List.mem_filter.mp hm).1⟩

/-- Taking a name out of the `Value` of an object leaves the `Value` of the others. -/
theorem filter_valueMembers (order : MapOrder) (members : Members N) :
    ((order.valueMembers members).filter fun m => m.1 ≠ "signature_hex") =
      order.valueMembers (unsignedPart members) := by
  rw [valueMembers_eq, valueMembers_eq, unsignedPart, List.filter_map]
  rfl

/-- **The payload is the sorted unsigned part**, whichever the map is. -/
theorem canonicalManifestPayloadIn_value (order : MapOrder) (num : N → List Char)
    (manifest : JsonObject N) :
    canonicalManifestPayloadIn order num (order.value (.obj manifest.members)) =
      .ok (utf8 (compact (quoted escapeMinimal) num
        ((Json.obj (unsignedPart manifest.members)).sortKeys rustLe))) := by
  have hdistinct := distinctNames_unsignedPart manifest.distinct
  have hnames := (Json.distinctNames_obj.mp manifest.distinct).1
  have hmembers : ((order.valueMembers manifest.members).map Prod.fst).Nodup := by
    rw [valueMembers_eq]
    exact nodup_map_value order.value hnames
  have hcollect := collect_perm order hmembers
  have hcollected : ((order.collect (order.valueMembers manifest.members)).map Prod.fst).Nodup :=
    (hcollect.map Prod.fst).nodup_iff.mpr hmembers
  have hunsigned : ((order.valueMembers (unsignedPart manifest.members)).map Prod.fst).Nodup := by
    rw [valueMembers_eq]
    exact nodup_map_value order.value (Json.distinctNames_obj.mp hdistinct).1
  -- what is left of the map is the map of what is left of the document
  have hperm : (order.remove "signature_hex" (order.collect
      (order.valueMembers manifest.members))).Perm
        (order.collect (order.valueMembers (unsignedPart manifest.members))) := by
    refine (remove_perm order "signature_hex" hcollected).trans ?_
    refine (hcollect.filter _).trans ?_
    rw [filter_valueMembers]
    exact (collect_perm order hunsigned).symm
  obtain ⟨hvalue, hsort⟩ := value_spec order hdistinct
  obtain ⟨hvalueNames, hvalueValues⟩ := Json.distinctNames_obj.mp hvalue
  have hleft : (Json.obj (order.remove "signature_hex" (order.collect
      (order.valueMembers manifest.members)))).distinctNames = true :=
    Json.distinctNames_obj.mpr ⟨(hperm.map Prod.fst).nodup_iff.mpr hvalueNames,
      fun m hm => hvalueValues m (hperm.mem_iff.mp hm)⟩
  have hsorted := hperm.map fun m => (m.1, m.2.sortKeys rustLe)
  have hsame : (Json.obj (order.remove "signature_hex" (order.collect
      (order.valueMembers manifest.members)))).sortKeys rustLe =
        (Json.obj (unsignedPart manifest.members)).sortKeys rustLe := by
    rw [← hsort, MapOrder.value, Json.sortKeys, Json.sortKeys, Json.sortKeysMembers_eq,
      Json.sortKeysMembers_eq]
    exact congrArg Json.obj (sortByName_eq_of_perm hsorted
      (nodup_map_value _ (Json.distinctNames_obj.mp hleft).1))
  show Except.ok _ = _
  rw [sortValueKeysIn_eq order hleft, hsame]

/-- The map makes no difference to the payload. -/
theorem canonicalManifestPayloadIn_eq (order : MapOrder) (num : N → List Char)
    (manifest : JsonObject N) :
    canonicalManifestPayloadIn order num (order.value (.obj manifest.members)) =
      canonicalManifestPayload num (.obj manifest.members) := by
  rw [canonicalManifestPayloadIn_value]
  show _ = Except.ok _
  rw [← sortValueKeys_eq (distinctNames_unsignedPart manifest.distinct)]
  rfl

/-- **The payload is a complete invariant.** Two manifests have one payload exactly if they are the
same value but for `signature_hex`, whichever order the map keeps its entries in. -/
theorem canonicalManifestPayloadIn_eq_iff (order : MapOrder) {num : N → List Char}
    (hnum : NumberTexts num) (a b : JsonObject N) :
    canonicalManifestPayloadIn order num (order.value (.obj a.members)) =
        canonicalManifestPayloadIn order num (order.value (.obj b.members)) ↔
      Json.Same (.obj (unsignedPart a.members)) (.obj (unsignedPart b.members)) := by
  have ha := distinctNames_unsignedPart a.distinct
  have hb := distinctNames_unsignedPart b.distinct
  rw [canonicalManifestPayloadIn_value, canonicalManifestPayloadIn_value]
  constructor
  · intro h
    have htext := utf8_injective (Except.ok.inj h)
    exact Json.same_of_sortKeys _ _ hb
      (compact_injective (textCode_quoted escapes_minimal) hnum htext)
  · intro h
    rw [Json.sortKeys_of_same rustLe_total rustLe_trans rustLe_antisymm _ _ ha hb h]

/-- Two manifests, signed and not, with their members in other orders. -/
def signedExample : JsonObject Int :=
  ⟨[("b", .arr [.num 1, .obj [("y", .null), ("signature_hex", .str "kept")]]),
    ("signature_hex", .str "00"), ("a", .num 2)], by decide⟩

def unsignedExample : JsonObject Int :=
  ⟨[("a", .num 2), ("b", .arr [.num 1, .obj [("signature_hex", .str "kept"), ("y", .null)]])],
    by decide⟩

/-- They have one payload. -/
theorem payload_of_signedExample :
    canonicalManifestPayloadIn .inserted decimalInt (MapOrder.value .inserted
        (.obj signedExample.members)) =
      canonicalManifestPayloadIn .inserted decimalInt (MapOrder.value .inserted
        (.obj unsignedExample.members)) := by
  refine (canonicalManifestPayloadIn_eq_iff .inserted numberTexts_decimalInt signedExample
    unsignedExample).mpr ?_
  have hnested : Json.Same (.obj [("y", .null), ("signature_hex", .str "kept")])
      (.obj [("signature_hex", .str "kept"), ("y", (.null : Json Int))]) :=
    ⟨rfl, ⟨.null, rfl, trivial⟩, ⟨.str "kept", rfl, rfl⟩, trivial⟩
  exact ⟨rfl, ⟨_, rfl, rfl, hnested, trivial⟩, ⟨.num 2, rfl, rfl⟩, trivial⟩

end Nlboot.Client
