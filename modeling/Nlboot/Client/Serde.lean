import Nlboot.Client.Canonical

/-!
# How the client decodes JSON

The part of serde's derived decoding and of `serde_json` that the documents of
`rust/nlboot-client/src/main.rs` use, over the raw tree of a text, in which a name can occur twice.

* `toValue`: the `Value` of a tree: a later member of a name replaces an earlier one.
* `structMembers`: the members of a derived struct. An object may have further members but none of
  the struct's twice; an array gives the fields in order.
* `required`, `optional`: a field, and one of an `Option` type.
* `decodeString`, `decodeBool`, `decodeVec`, `decodeMap`: `String`, `bool`, `Vec`, `BTreeMap`.
* `btreeMap`: the entries of a `BTreeMap`, in order.

Results:
* `mapM_eq_some`: a sequence decodes iff its items do, one by one.
* **`toValue_eq_self`**: a document with one value per name is its own `Value`.
* `get_collectMap`: a member whose name occurs once is found in the `Value` too.
* **`lookup_btreeMap`**, `ascending_btreeMap`: a `BTreeMap` holds the last value of each key, in the
  order of the keys.
* `lookup_of_decodeMap`: a map of texts holds the members of the object.
-/

namespace Nlboot.Client

open Nlboot.Lib

variable {N α β : Type}

/-! ## Values -/

mutual

/-- The `Value` read from a tree. -/
def toValue : Json N → Json N
  | .null => .null
  | .bool b => .bool b
  | .num n => .num n
  | .str s => .str s
  | .arr items => .arr (toValueItems items)
  | .obj members => .obj (collectMap (toValueMembers members))

def toValueItems : List (Json N) → List (Json N)
  | [] => []
  | j :: items => toValue j :: toValueItems items

def toValueMembers : Members N → Members N
  | [] => []
  | (name, j) :: members => (name, toValue j) :: toValueMembers members

end

/-! ## Decoding -/

/-- The members of a derived struct with these fields. -/
def structMembers (fields : List String) : Json N → Option (Members N)
  | .obj members =>
    if ∀ field ∈ fields, (members.filter fun m => m.1 = field).length ≤ 1 then some members
    else none
  | .arr items => if items.length = fields.length then some (fields.zip items) else none
  | _ => none

/-- A field that must be there. -/
def required (decode : Json N → Option α) (members : Members N) (name : String) : Option α :=
  members.get name >>= decode

/-- A field of type `Option`. -/
def optional (decode : Json N → Option α) (members : Members N) (name : String) :
    Option (Option α) :=
  match members.get name with
  | none => some none
  | some .null => some none
  | some v => some <$> decode v

/-- `String`. -/
def decodeString : Json N → Option String
  | .str s => some s
  | _ => none

/-- `bool`. -/
def decodeBool : Json N → Option Bool
  | .bool b => some b
  | _ => none

/-- `Vec<T>`. -/
def decodeVec (decode : Json N → Option α) : Json N → Option (List α)
  | .arr items => items.mapM decode
  | _ => none

/-- The entries of a `BTreeMap` that these were inserted into. -/
def btreeMap (entries : List (String × α)) : List (String × α) :=
  sortByKey rustLe (entries.foldl (fun map e => dictSet map e.1 e.2) [])

/-- `BTreeMap<String, String>`. -/
def decodeMap : Json N → Option (List (String × String))
  | .obj members => btreeMap <$> members.mapM fun m => (m.1, ·) <$> decodeString m.2
  | _ => none

/-! ## What decoding finds -/

@[simp] theorem decodeString_eq_some {v : Json N} {s : String} :
    decodeString v = some s ↔ v = .str s := by
  cases v <;> simp [decodeString]

@[simp] theorem decodeBool_eq_some {v : Json N} {b : Bool} :
    decodeBool v = some b ↔ v = .bool b := by
  cases v <;> simp [decodeBool]

@[simp] theorem required_eq_some {decode : Json N → Option α} {members : Members N} {name : String}
    {a : α} : required decode members name = some a ↔
      ∃ v, members.get name = some v ∧ decode v = some a := by
  unfold required
  cases members.get name <;> simp

theorem required_string_eq_some {members : Members N} {name s : String} :
    required decodeString members name = some s ↔ members.get name = some (.str s) := by
  simp only [required_eq_some, decodeString_eq_some, exists_eq_right]

theorem required_bool_eq_some {members : Members N} {name : String} {b : Bool} :
    required decodeBool members name = some b ↔ members.get name = some (.bool b) := by
  simp only [required_eq_some, decodeBool_eq_some, exists_eq_right]

/-- A field that is there is decoded, and the decoding goes on. -/
theorem required_bind {decode : Json N → Option α} {members : Members N} {name : String}
    {v : Json N}
    {a : α} {f : α → Option β} (hget : members.get name = some v) (hdecode : decode v = some a) :
    (required decode members name >>= f) = f a := by
  rw [required_eq_some.mpr ⟨v, hget, hdecode⟩]
  rfl

/-- A struct in an object with distinct names. -/
theorem structMembers_obj {fields : List String} {members : Members N}
    (h : (members.map Prod.fst).Nodup) : structMembers fields (.obj members) = some members := by
  refine if_pos fun field _ => ?_
  have hcount : (members.map Prod.fst).count field ≤ 1 := List.nodup_iff_count_le_one.mp h field
  rw [List.count_eq_length_filter, List.filter_map, List.length_map] at hcount
  convert hcount using 3
  funext m
  exact (Bool.beq_eq_decide_eq _ _).symm

/-- A struct in an object with distinct names is decoded from its members. -/
theorem structMembers_bind {fields : List String} {members : Members N} {f : Members N → Option β}
    (h : (members.map Prod.fst).Nodup) :
    (structMembers fields (.obj members) >>= f) = f members := by
  rw [structMembers_obj h]
  rfl

/-- A sequence decodes iff its items do, one by one. -/
theorem mapM_eq_some {decode : α → Option β} : ∀ {items : List α} {decoded : List β},
    items.mapM decode = some decoded ↔
      List.Forall₂ (fun a b => decode a = some b) items decoded
  | [], decoded => by
    simp only [List.mapM_nil, Option.pure_def, Option.some.injEq, List.forall₂_nil_left_iff]
    exact eq_comm
  | a :: items, decoded => by
    simp only [List.mapM_cons, Option.bind_eq_bind, Option.bind_eq_some_iff, Option.pure_def,
      Option.some.injEq, mapM_eq_some, List.forall₂_cons_left_iff]
    constructor
    · rintro ⟨b, hb, rest, hrest, rfl⟩
      exact ⟨b, rest, hb, hrest, rfl⟩
    · rintro ⟨b, rest, hb, hrest, rfl⟩
      exact ⟨b, hb, rest, hrest, rfl⟩

theorem structMembers_obj_eq_some {fields : List String} {members members' : Members N} :
    structMembers fields (.obj members) = some members' ↔
      (∀ field ∈ fields, (members.filter fun m => m.1 = field).length ≤ 1) ∧
        members = members' := by
  simp only [structMembers, Option.ite_none_right_eq_some, Option.some.injEq]

theorem optional_eq_some {decode : Json N → Option α} {members : Members N} {name : String}
    {a : α} : optional decode members name = some (some a) ↔
      ∃ v, members.get name = some v ∧ v ≠ .null ∧ decode v = some a := by
  unfold optional
  split
  · rename_i h
    simp [h]
  · rename_i h
    simp [h]
  · rename_i v hnull h
    rw [h]
    simp only [Option.map_eq_map, Option.map_eq_some_iff, Option.some.injEq, exists_eq_right,
      exists_eq_left']
    exact ⟨fun hv => ⟨fun heq => hnull (heq ▸ rfl), hv⟩, And.right⟩

theorem optional_eq_none {decode : Json N → Option α} {members : Members N} {name : String} :
    optional decode members name = some none ↔
      members.get name = none ∨ members.get name = some .null := by
  unfold optional
  split
  · rename_i h
    simp [h]
  · rename_i h
    simp [h]
  · rename_i v hnull h
    rw [h]
    simp only [Option.map_eq_map, Option.map_eq_some_iff, reduceCtorEq, and_false, exists_false,
      Option.some.injEq, false_or, false_iff]
    exact fun heq => hnull (heq ▸ rfl)

/-! ## One value for a name -/

theorem toValueMembers_eq (members : Members N) :
    toValueMembers members = members.map fun m => (m.1, toValue m.2) := by
  induction members with
  | nil => rfl
  | cons m members ih => obtain ⟨name, j⟩ := m; rw [toValueMembers, ih, List.map_cons]

theorem toValueItems_eq (items : List (Json N)) : toValueItems items = items.map toValue := by
  induction items with
  | nil => rfl
  | cons j items ih => rw [toValueItems, ih, List.map_cons]

/-- **A document with one value per name** is its own `Value`. -/
theorem toValue_eq_self {j : Json N} (h : j.distinctNames = true) : toValue j = j := by
  induction j with
  | null | bool | num | str => rfl
  | arr items ih =>
    have hitems := Json.distinctNamesItems_iff.mp h
    have hself : toValueItems items = items := by
      rw [toValueItems_eq]
      conv_rhs => rw [← List.map_id items]
      exact List.map_congr_left fun j hj => ih j hj (hitems j hj)
    show Json.arr (toValueItems items) = _
    rw [hself]
  | obj members ih =>
    obtain ⟨hnodup, hvalues⟩ := Bool.and_eq_true_iff.mp h
    have hself : toValueMembers members = members := by
      rw [toValueMembers_eq]
      conv_rhs => rw [← List.map_id members]
      refine List.map_congr_left fun m hm => ?_
      rw [ih m hm (Json.distinctNamesMembers_iff.mp hvalues m hm)]
      rfl
    show Json.obj (collectMap (toValueMembers members)) = _
    rw [hself, collectMap_of_nodup (of_decide_eq_true hnodup)]

/-- **A `Value` has one value per name**, whatever the document has. -/
theorem distinctNames_toValue (j : Json N) : (toValue j).distinctNames = true := by
  induction j with
  | null | bool | num | str => rfl
  | arr items ih =>
    refine Json.distinctNames_arr.mpr fun value hvalue => ?_
    rw [toValueItems_eq] at hvalue
    obtain ⟨j, hj, rfl⟩ := List.mem_map.mp hvalue
    exact ih j hj
  | obj members ih =>
    refine Json.distinctNames_obj.mpr ⟨nodup_foldl_dictSet _ List.nodup_nil, fun m hm => ?_⟩
    have hmember := (mem_of_mem_foldl_dictSet _ hm).resolve_left List.not_mem_nil
    rw [toValueMembers_eq] at hmember
    obtain ⟨m', hm', rfl⟩ := List.mem_map.mp hmember
    exact ih m' hm'

/-- The last value of a name that occurs once is the first one. -/
theorem lastFor_of_single {name : String} : ∀ {entries : List (String × α)},
    (entries.filter fun m => m.1 = name).length ≤ 1 → lastFor name entries = entries.lookup name
  | [], _ => rfl
  | (key, a) :: entries, h => by
    rw [lastFor_cons, List.lookup_cons]
    by_cases hkey : key = name
    · subst hkey
      rw [List.filter_cons_of_pos (by simp), List.length_cons] at h
      have hnone : lastFor key entries = none := by
        by_contra hsome
        obtain ⟨a', ha'⟩ := Option.ne_none_iff_exists'.mp hsome
        have hmem : (key, a') ∈ entries.filter fun m => m.1 = key :=
          List.mem_filter.mpr ⟨mem_of_lastFor ha', by simp⟩
        have := List.length_pos_of_mem hmem
        omega
      simp [hnone]
    · rw [List.filter_cons_of_neg (by simpa using hkey)] at h
      have hbeq : (name == key) = false := by simpa using fun heq => hkey heq.symm
      rw [lastFor_of_single h, hbeq]
      simp

/-- **A member whose name occurs once** is found in the `Value` too. -/
theorem get_collectMap {name : String} {members : Members N}
    (h : (members.filter fun m => m.1 = name).length ≤ 1) :
    Members.get (collectMap (toValueMembers members)) name = (members.get name).map toValue := by
  unfold Members.get collectMap
  have hmap :
      ((members.map fun m => (m.1, toValue m.2)).filter fun m => m.1 = name).length ≤ 1 := by
    rw [List.filter_map, List.length_map]
    exact h
  rw [lookup_foldl_dictSet, List.lookup_nil, Option.or_none, toValueMembers_eq,
    lastFor_of_single hmap]
  clear h hmap
  induction members with
  | nil => rfl
  | cons m members ih =>
    rw [List.map_cons, List.lookup_cons, List.lookup_cons]
    cases name == m.1 with
    | true => rfl
    | false => exact ih

/-! ## Maps -/

/-- A `BTreeMap` has distinct keys. -/
theorem nodup_btreeMap (entries : List (String × α)) : ((btreeMap entries).map Prod.fst).Nodup :=
  (((sortByKey_perm rustLe _).map Prod.fst).nodup_iff).mpr
    (nodup_foldl_dictSet entries List.nodup_nil)

/-- Names in strictly ascending order. -/
def Ascending (names : List String) : Prop :=
  names.Pairwise fun a b => rustLe a b = true ∧ a ≠ b

theorem rustLe_total (a b : String) : rustLe a b = true ∨ rustLe b a = true :=
  lexLe_total _ _

theorem rustLe_trans (a b c : String) (h : rustLe a b = true) (h' : rustLe b c = true) :
    rustLe a c = true :=
  lexLe_trans h h'

/-- The keys of a `BTreeMap` are in strictly ascending order. -/
theorem ascending_btreeMap (entries : List (String × α)) :
    Ascending ((btreeMap entries).map Prod.fst) := by
  have hsorted : ((btreeMap entries).map Prod.fst).Pairwise fun a b => rustLe a b = true :=
    List.pairwise_map.mpr (pairwise_sortByKey rustLe_total rustLe_trans _)
  exact hsorted.and (nodup_btreeMap entries)

theorem decodeMap_eq_some {v : Json N} {entries : List (String × String)}
    (h : decodeMap v = some entries) : ∃ pairs, entries = btreeMap pairs := by
  cases v with
  | obj members =>
    obtain ⟨pairs, -, rfl⟩ := Option.map_eq_some_iff.mp h
    exact ⟨pairs, rfl⟩
  | null | bool | num | str | arr => exact absurd h (by simp [decodeMap])

/-- The members of a map of texts are the map, if it is one. -/
theorem decodeMap_of_btreeMap {entries : List (String × String)} (h : btreeMap entries = entries) :
    decodeMap (.obj (entries.map fun e => (e.1, (.str e.2 : Json N)))) = some entries := by
  have hdecoded : (entries.map fun e => (e.1, (.str e.2 : Json N))).mapM
      (fun m => (m.1, ·) <$> decodeString m.2) = some entries := by
    rw [mapM_eq_some, List.forall₂_map_left_iff, List.forall₂_same]
    exact fun e _ => rfl
  show btreeMap <$> _ = _
  rw [hdecoded]
  exact congrArg some h

/-- **A `BTreeMap` holds the last value** of each key. -/
theorem lookup_btreeMap (entries : List (String × α)) (key : String) :
    (btreeMap entries).lookup key = lastFor key entries := by
  unfold btreeMap
  have hnodup : ((entries.foldl (fun map e => dictSet map e.1 e.2) []).map Prod.fst).Nodup :=
    nodup_foldl_dictSet entries List.nodup_nil
  rw [← lookup_perm (sortByKey_perm rustLe _).symm hnodup, lookup_foldl_dictSet, List.lookup_nil,
    Option.or_none]

/-- A map of texts holds what the members of the object hold. -/
theorem lookup_of_decodeMap {members : Members N} {entries : List (String × String)}
    (h : decodeMap (.obj members) = some entries) (hn : (members.map Prod.fst).Nodup)
    {key ref : String} :
    entries.lookup key = some ref ↔ members.get key = some (.str ref) := by
  unfold decodeMap at h
  obtain ⟨pairs, hpairs, rfl⟩ := Option.map_eq_some_iff.mp h
  have hdecoded := mapM_eq_some.mp hpairs
  have hkeys : pairs.map Prod.fst = members.map Prod.fst := by
    clear hpairs h hn
    induction hdecoded with
    | nil => rfl
    | cons hm _ ih =>
      obtain ⟨s, -, rfl⟩ := Option.map_eq_some_iff.mp hm
      rw [List.map_cons, List.map_cons, ih]
  have hnp : (pairs.map Prod.fst).Nodup := hkeys ▸ hn
  rw [lookup_btreeMap, lastFor, ← lookup_perm (List.reverse_perm pairs).symm hnp,
    lookup_eq_some_iff_mem hnp, Members.get, lookup_eq_some_iff_mem hn]
  constructor
  · intro hmem
    obtain ⟨⟨k, v⟩, hm, hv⟩ := exists_mem_of_forall₂ hdecoded _ hmem
    obtain ⟨s, hs, heq⟩ := Option.map_eq_some_iff.mp hv
    obtain ⟨rfl, rfl⟩ := Prod.mk.inj heq
    rw [← decodeString_eq_some.mp hs]
    exact hm
  · intro hmem
    obtain ⟨pair, hpair, hv⟩ := exists_mem_right_of_forall₂ hdecoded _ hmem
    obtain rfl : (key, ref) = pair := by simpa [decodeString] using hv
    exact hpair

end Nlboot.Client
