import Nlboot.Lib.Dict
import Nlboot.Lib.Lex

/-!
# JSON values

A parsed JSON document: a tree whose objects list their members. Parsers differ in the order they
keep members in (a Python `dict` keeps insertion order, `serde_json`'s default `Map` sorts), but
all keep one value per name, which is `distinctNames` and is carried by `JsonObject`.

`N` is the type of numbers and `S` that of texts, Unicode texts unless another one is given;
encoders take a rendering of each.

* `Json.induct`: induction with a hypothesis for every item and every member value.
* `Json.sortKeys`: the members of every object, at every depth, sorted by name.
* `Json.Same`: the same value, whatever the order of the members. `Json.same_of_sortKeys`: values
  that sort alike are the same; `Json.sortKeys_of_same`: and the other way round.
* `Json.same_sortKeys`, `Json.distinctNames_sortKeys`: sorting keeps the value, and names distinct.
* **`Json.Same.get`**: the same objects have the same value under every name.
* `Json.texts`: every name and string value; sorting keeps them (`mem_texts_sortKeys`).
-/

namespace Nlboot.Lib

/-- A JSON value. -/
inductive Json (N : Type) (S : Type := String) where
  | null
  | bool (b : Bool)
  | num (n : N)
  | str (s : S)
  | arr (items : List (Json N S))
  | obj (members : List (S × Json N S))

/-- The members of an object. -/
abbrev Members (N : Type) (S : Type := String) := List (S × Json N S)

variable {N S : Type}

namespace Json

/-- Induction on a JSON value, with a hypothesis for every item and every member value. -/
@[elab_as_elim, induction_eliminator]
theorem induct {motive : Json N S → Prop} (null : motive .null) (bool : ∀ b, motive (.bool b))
    (num : ∀ n, motive (.num n)) (str : ∀ s, motive (.str s))
    (arr : ∀ items, (∀ j ∈ items, motive j) → motive (.arr items))
    (obj : ∀ members, (∀ m ∈ members, motive m.2) → motive (.obj members)) :
    ∀ j, motive j :=
  @Json.rec N S motive (fun items => ∀ j ∈ items, motive j)
    (fun members => ∀ m ∈ members, motive m.2) (fun m => motive m.2) null bool num str arr obj
    (fun _ h => absurd h List.not_mem_nil)
    (fun _ _ hd tl j hj => by
      rcases List.mem_cons.mp hj with rfl | hj
      · exact hd
      · exact tl j hj)
    (fun _ h => absurd h List.not_mem_nil)
    (fun _ _ hd tl m hm => by
      rcases List.mem_cons.mp hm with rfl | hm
      · exact hd
      · exact tl m hm)
    (fun _ _ h => h)

/-! ## Sorting the members -/

mutual

/-- The members of every object sorted by name, at every depth; arrays keep their order. -/
def sortKeys (le : S → S → Bool) : Json N S → Json N S
  | .null => .null
  | .bool b => .bool b
  | .num n => .num n
  | .str s => .str s
  | .arr items => .arr (sortKeysItems le items)
  | .obj members => .obj (sortByKey le (sortKeysMembers le members))

def sortKeysItems (le : S → S → Bool) : List (Json N S) → List (Json N S)
  | [] => []
  | j :: items => sortKeys le j :: sortKeysItems le items

def sortKeysMembers (le : S → S → Bool) : Members N S → Members N S
  | [] => []
  | (name, j) :: members => (name, sortKeys le j) :: sortKeysMembers le members

end

theorem sortKeysItems_eq (le : S → S → Bool) (items : List (Json N S)) :
    sortKeysItems le items = items.map (sortKeys le) := by
  induction items with
  | nil => rfl
  | cons j items ih => rw [sortKeysItems, ih, List.map_cons]

theorem sortKeysMembers_eq (le : S → S → Bool) (members : Members N S) :
    sortKeysMembers le members = members.map fun m => (m.1, sortKeys le m.2) := by
  induction members with
  | nil => rfl
  | cons m members ih => obtain ⟨name, j⟩ := m; rw [sortKeysMembers, ih, List.map_cons]

/-! ## Texts and numbers -/

mutual

/-- Every name and every string value of a document. -/
def texts : Json N S → List S
  | .null | .bool _ | .num _ => []
  | .str s => [s]
  | .arr items => textsItems items
  | .obj members => textsMembers members

def textsItems : List (Json N S) → List S
  | [] => []
  | j :: items => texts j ++ textsItems items

def textsMembers : Members N S → List S
  | [] => []
  | (name, j) :: members => name :: texts j ++ textsMembers members

end

theorem mem_textsItems {s : S} {items : List (Json N S)} :
    s ∈ textsItems items ↔ ∃ j ∈ items, s ∈ texts j := by
  induction items with
  | nil => simp [textsItems]
  | cons j items ih => simp [textsItems, ih]

theorem mem_textsMembers {s : S} {members : Members N S} :
    s ∈ textsMembers members ↔ ∃ m ∈ members, s = m.1 ∨ s ∈ texts m.2 := by
  induction members with
  | nil => simp [textsMembers]
  | cons m members ih =>
    obtain ⟨name, j⟩ := m
    simp [textsMembers, ih, or_assoc]

/-- Sorting the members keeps the texts of a document. -/
theorem mem_texts_sortKeys (le : S → S → Bool) {s : S} (j : Json N S) :
    s ∈ texts (sortKeys le j) ↔ s ∈ texts j := by
  induction j with
  | null | bool | num | str => simp [sortKeys]
  | arr items ih =>
    simp only [sortKeys, texts, mem_textsItems, sortKeysItems_eq, List.mem_map]
    constructor
    · rintro ⟨_, ⟨j, hj, rfl⟩, hs⟩
      exact ⟨j, hj, (ih j hj).mp hs⟩
    · rintro ⟨j, hj, hs⟩
      exact ⟨_, ⟨j, hj, rfl⟩, (ih j hj).mpr hs⟩
  | obj members ih =>
    simp only [sortKeys, texts, mem_textsMembers, sortKeysMembers_eq, List.mem_map,
      (sortByKey_perm le _).mem_iff]
    constructor
    · rintro ⟨_, ⟨m, hm, rfl⟩, hs⟩
      exact ⟨m, hm, hs.imp_right (ih m hm).mp⟩
    · rintro ⟨m, hm, hs⟩
      exact ⟨_, ⟨m, hm, rfl⟩, hs.imp_right (ih m hm).mpr⟩

mutual

/-- How deep arrays and objects are nested. -/
def depth : Json N S → Nat
  | .null | .bool _ | .num _ | .str _ => 0
  | .arr items => depthItems items + 1
  | .obj members => depthMembers members + 1

def depthItems : List (Json N S) → Nat
  | [] => 0
  | j :: items => max (depth j) (depthItems items)

def depthMembers : Members N S → Nat
  | [] => 0
  | (_, j) :: members => max (depth j) (depthMembers members)

end

/-! ## One value per name -/

variable [DecidableEq S]

mutual

/-- No object of the document has two members of one name. -/
def distinctNames : Json N S → Bool
  | .null | .bool _ | .num _ | .str _ => true
  | .arr items => distinctNamesItems items
  | .obj members => decide ((members.map Prod.fst).Nodup) && distinctNamesMembers members

def distinctNamesItems : List (Json N S) → Bool
  | [] => true
  | j :: items => distinctNames j && distinctNamesItems items

def distinctNamesMembers : Members N S → Bool
  | [] => true
  | (_, j) :: members => distinctNames j && distinctNamesMembers members

end

theorem distinctNamesItems_iff {items : List (Json N S)} :
    distinctNamesItems items = true ↔ ∀ j ∈ items, distinctNames j = true := by
  induction items with
  | nil => simp [distinctNamesItems]
  | cons j items ih => simp [distinctNamesItems, ih]

theorem distinctNamesMembers_iff {members : Members N S} :
    distinctNamesMembers members = true ↔ ∀ m ∈ members, distinctNames m.2 = true := by
  induction members with
  | nil => simp [distinctNamesMembers]
  | cons m members ih => obtain ⟨name, j⟩ := m; simp [distinctNamesMembers, ih]

theorem distinctNames_arr {items : List (Json N S)} :
    (Json.arr items).distinctNames = true ↔ ∀ j ∈ items, distinctNames j = true :=
  distinctNamesItems_iff

/-- An object has distinct names iff its own are distinct, and those of its values. -/
theorem distinctNames_obj {members : Members N S} :
    (Json.obj members).distinctNames = true ↔
      (members.map Prod.fst).Nodup ∧ ∀ m ∈ members, distinctNames m.2 = true := by
  simp only [distinctNames, Bool.and_eq_true, decide_eq_true_eq, distinctNamesMembers_iff]

/-! ## The same value -/

mutual

/-- The same value, as Python's `==` compares documents: an object has as many members as the other
and the other has the same value under each of its names. -/
def Same : Json N S → Json N S → Prop
  | .null, .null => True
  | .bool b, .bool b' => b = b'
  | .num n, .num n' => n = n'
  | .str s, .str s' => s = s'
  | .arr items, .arr items' => SameItems items items'
  | .obj members, .obj members' =>
    members.length = members'.length ∧ SameMembers members members'
  | _, _ => False

def SameItems : List (Json N S) → List (Json N S) → Prop
  | [], [] => True
  | j :: items, j' :: items' => Same j j' ∧ SameItems items items'
  | _, _ => False

def SameMembers : Members N S → Members N S → Prop
  | [], _ => True
  | (name, j) :: members, members' =>
    (∃ j', members'.lookup name = some j' ∧ Same j j') ∧ SameMembers members members'

end

theorem sameItems_iff : ∀ {items items' : List (Json N S)},
    SameItems items items' ↔ List.Forall₂ Same items items'
  | [], [] => by simp [SameItems]
  | [], _ :: _ => by simp [SameItems]
  | _ :: _, [] => by simp [SameItems]
  | j :: items, j' :: items' => by simp [SameItems, sameItems_iff]

theorem sameMembers_iff {members members' : Members N S} : SameMembers members members' ↔
    ∀ m ∈ members, ∃ j', members'.lookup m.1 = some j' ∧ Same m.2 j' := by
  induction members with
  | nil => simp [SameMembers]
  | cons m members ih => obtain ⟨name, j⟩ := m; simp [SameMembers, ih]

theorem same_str {s : S} {j : Json N S} : Same (.str s) j ↔ j = .str s := by
  cases j <;> simp [Same, eq_comm]

/-- **Values that sort alike are the same**, if the names of the second are distinct. -/
theorem same_of_sortKeys {le : S → S → Bool} (j : Json N S) :
    ∀ j' : Json N S, j'.distinctNames = true → j.sortKeys le = j'.sortKeys le → Same j j' := by
  induction j with
  | null =>
    intro j' _ h
    cases j' with
    | null => trivial
    | bool | num | str | arr | obj => exact absurd h (by simp [sortKeys])
  | bool b =>
    intro j' _ h
    cases j' with
    | bool b' => exact Json.bool.inj h
    | null | num | str | arr | obj => exact absurd h (by simp [sortKeys])
  | num n =>
    intro j' _ h
    cases j' with
    | num n' => exact Json.num.inj h
    | null | bool | str | arr | obj => exact absurd h (by simp [sortKeys])
  | str s =>
    intro j' _ h
    cases j' with
    | str s' => exact Json.str.inj h
    | null | bool | num | arr | obj => exact absurd h (by simp [sortKeys])
  | arr items ih =>
    intro j' hn h
    cases j' with
    | arr items' =>
      have hitems := Json.arr.inj h
      rw [sortKeysItems_eq, sortKeysItems_eq] at hitems
      refine sameItems_iff.mpr (forall₂_of_map_eq hitems fun j hj j' hj' heq => ?_)
      exact ih j hj j' (distinctNames_arr.mp hn j' hj') heq
    | null | bool | num | str | obj => exact absurd h (by simp [sortKeys])
  | obj members ih =>
    intro j' hn h
    cases j' with
    | obj members' =>
      obtain ⟨hnames, hvalues⟩ := distinctNames_obj.mp hn
      have hperm : (sortKeysMembers le members).Perm (sortKeysMembers le members') :=
        (sortByKey_perm le _).symm.trans (Json.obj.inj h ▸ sortByKey_perm le _)
      rw [sortKeysMembers_eq, sortKeysMembers_eq] at hperm
      refine ⟨by simpa using hperm.length_eq, sameMembers_iff.mpr fun m hm => ?_⟩
      obtain ⟨m', hm', heq⟩ := List.mem_map.mp (hperm.mem_iff.mp (List.mem_map_of_mem hm))
      obtain ⟨hname, hvalue⟩ := Prod.mk.inj heq
      refine ⟨m'.2, (lookup_eq_some_iff_mem hnames).mpr (hname ▸ hm'), ?_⟩
      exact ih m hm m'.2 (hvalues m' hm') hvalue.symm
    | null | bool | num | str | arr => exact absurd h (by simp [sortKeys])

/-- **The same values sort alike**, if their names are distinct. -/
theorem sortKeys_of_same {le : S → S → Bool}
    (total : ∀ a b, le a b = true ∨ le b a = true)
    (trans : ∀ a b c, le a b = true → le b c = true → le a c = true)
    (antisymm : ∀ a b, le a b = true → le b a = true → a = b) (j : Json N S) :
    ∀ j' : Json N S, j.distinctNames = true → j'.distinctNames = true → Same j j' →
      j.sortKeys le = j'.sortKeys le := by
  induction j with
  | null =>
    intro j' _ _ h
    cases j' with
    | null => rfl
    | bool | num | str | arr | obj => exact h.elim
  | bool b =>
    intro j' _ _ h
    cases j' with
    | bool b' => exact congrArg Json.bool h
    | null | num | str | arr | obj => exact h.elim
  | num n =>
    intro j' _ _ h
    cases j' with
    | num n' => exact congrArg Json.num h
    | null | bool | str | arr | obj => exact h.elim
  | str s =>
    intro j' _ _ h
    cases j' with
    | str s' => exact congrArg Json.str h
    | null | bool | num | arr | obj => exact h.elim
  | arr items ih =>
    intro j' hn hn' h
    cases j' with
    | arr items' =>
      rw [sortKeys, sortKeys, sortKeysItems_eq, sortKeysItems_eq, Json.arr.injEq]
      refine map_eq_of_forall₂ (sameItems_iff.mp h) fun item hitem item' hitem' hsame => ?_
      exact ih item hitem item' (distinctNames_arr.mp hn item hitem)
        (distinctNames_arr.mp hn' item' hitem') hsame
    | null | bool | num | str | obj => exact h.elim
  | obj members ih =>
    intro j' hn hn' h
    cases j' with
    | obj members' =>
      obtain ⟨hlength, hmembers⟩ := h
      obtain ⟨hnames, hvalues⟩ := distinctNames_obj.mp hn
      obtain ⟨-, hvalues'⟩ := distinctNames_obj.mp hn'
      have hnames_map : ((sortKeysMembers le members).map Prod.fst).Nodup := by
        rw [sortKeysMembers_eq, List.map_map]
        exact hnames
      have hsub : sortKeysMembers le members ⊆ sortKeysMembers le members' := by
        rw [sortKeysMembers_eq, sortKeysMembers_eq]
        intro entry hentry
        obtain ⟨m, hm, rfl⟩ := List.mem_map.mp hentry
        obtain ⟨value', hlookup, hsame⟩ := sameMembers_iff.mp hmembers m hm
        obtain ⟨before, after, hsplit, -⟩ := List.lookup_eq_some_iff.mp hlookup
        have hm' : (m.1, value') ∈ members' := by rw [hsplit]; simp
        rw [ih m hm value' (hvalues m hm) (hvalues' _ hm') hsame]
        exact List.mem_map_of_mem (f := fun m => (m.1, sortKeys le m.2)) hm'
      have hperm : (sortKeysMembers le members).Perm (sortKeysMembers le members') := by
        refine (List.subperm_of_subset (List.Nodup.of_map _ hnames_map)
          hsub).perm_of_length_le ?_
        rw [sortKeysMembers_eq, sortKeysMembers_eq]
        simp [hlength]
      rw [sortKeys, sortKeys, sortByKey_eq_of_perm total trans antisymm hperm hnames_map]
    | null | bool | num | str | arr => exact h.elim

/-- Sorting the members keeps the names distinct. -/
theorem distinctNames_sortKeys {le : S → S → Bool} {j : Json N S}
    (h : j.distinctNames = true) : (j.sortKeys le).distinctNames = true := by
  induction j with
  | null | bool | num | str => rfl
  | arr items ih =>
    rw [sortKeys, sortKeysItems_eq]
    refine distinctNames_arr.mpr fun item hitem => ?_
    obtain ⟨j, hj, rfl⟩ := List.mem_map.mp hitem
    exact ih j hj (distinctNames_arr.mp h j hj)
  | obj members ih =>
    obtain ⟨hnames, hvalues⟩ := distinctNames_obj.mp h
    have hperm := sortByKey_perm le (sortKeysMembers le members)
    rw [sortKeys]
    rw [sortKeysMembers_eq] at hperm ⊢
    refine distinctNames_obj.mpr ⟨?_, fun m hm => ?_⟩
    · rw [(hperm.map Prod.fst).nodup_iff, List.map_map]
      exact hnames
    · obtain ⟨m₀, hm₀, rfl⟩ := List.mem_map.mp (hperm.mem_iff.mp hm)
      exact ih m₀ hm₀ (hvalues m₀ hm₀)

/-- **Sorting the members** of a document with distinct names keeps its value. -/
theorem same_sortKeys {le : S → S → Bool} {j : Json N S} (h : j.distinctNames = true) :
    Same j (j.sortKeys le) := by
  induction j with
  | null => trivial
  | bool | num | str => rfl
  | arr items ih =>
    rw [sortKeys, sortKeysItems_eq]
    refine sameItems_iff.mpr ?_
    rw [List.forall₂_map_right_iff, List.forall₂_same]
    exact fun j hj => ih j hj (distinctNames_arr.mp h j hj)
  | obj members ih =>
    have hsorted : ((Json.obj members).sortKeys le).distinctNames = true :=
      distinctNames_sortKeys h
    obtain ⟨-, hvalues⟩ := distinctNames_obj.mp h
    have hperm := sortByKey_perm le (sortKeysMembers le members)
    rw [sortKeys] at hsorted ⊢
    rw [sortKeysMembers_eq] at hsorted hperm ⊢
    refine ⟨by simpa using hperm.length_eq.symm, sameMembers_iff.mpr fun m hm => ?_⟩
    refine ⟨m.2.sortKeys le, ?_, ih m hm (hvalues m hm)⟩
    rw [lookup_eq_some_iff_mem (distinctNames_obj.mp hsorted).1, hperm.mem_iff]
    exact List.mem_map_of_mem (f := fun m => (m.1, sortKeys le m.2)) hm

end Json

variable [DecidableEq S]

/-- A JSON object as the parsers return it: one value per name, at every depth. -/
structure JsonObject (N : Type) (S : Type := String) [DecidableEq S] where
  members : Members N S
  distinct : (Json.obj members).distinctNames = true

/-- `dict.get` and `Map::get`. -/
def Members.get (members : Members N S) (name : S) : Option (Json N S) := members.lookup name

/-- A value of an object has distinct names too. -/
theorem distinctNames_of_get {members : Members N S} {name : S} {j : Json N S}
    (hn : (Json.obj members).distinctNames = true) (h : members.get name = some j) :
    j.distinctNames = true := by
  obtain ⟨before, after, rfl, -⟩ := List.lookup_eq_some_iff.mp h
  exact (Json.distinctNames_obj.mp hn).2 (name, j) (by simp)

/-- The same objects have the same names. -/
theorem Json.Same.names_perm {members members' : Members N S}
    (h : Json.Same (.obj members) (.obj members')) (hn : (members.map Prod.fst).Nodup) :
    (members.map Prod.fst).Perm (members'.map Prod.fst) := by
  obtain ⟨hlength, hmembers⟩ := h
  have hsub : members.map Prod.fst ⊆ members'.map Prod.fst := by
    intro name hname
    obtain ⟨m, hm, rfl⟩ := List.mem_map.mp hname
    obtain ⟨j', hget, -⟩ := Json.sameMembers_iff.mp hmembers m hm
    obtain ⟨before, after, rfl, -⟩ := List.lookup_eq_some_iff.mp hget
    simp
  exact (List.subperm_of_subset hn hsub).perm_of_length_le (by simp [hlength])

/-- **The same objects** have the same value under every name. -/
theorem Json.Same.get {members members' : Members N S}
    (h : Json.Same (.obj members) (.obj members')) (hn : (members.map Prod.fst).Nodup)
    (name : S) : Option.Rel Json.Same (members.get name) (members'.get name) := by
  cases hget : members.get name with
  | some j =>
    obtain ⟨before, after, hsplit, -⟩ := List.lookup_eq_some_iff.mp hget
    obtain ⟨j', hget', hsame⟩ :=
      Json.sameMembers_iff.mp h.2 (name, j) (by rw [hsplit]; simp)
    rw [show members'.get name = some j' from hget']
    exact .some hsame
  | none =>
    have hname : name ∉ members'.map Prod.fst := by
      rw [← (h.names_perm hn).mem_iff]
      intro hmem
      obtain ⟨m, hm, rfl⟩ := List.mem_map.mp hmem
      exact absurd (List.lookup_eq_none_iff.mp hget m hm) (by simp)
    have hnone : members'.get name = none :=
      List.lookup_eq_none_iff.mpr fun m hm => by
        simpa using fun heq : name = m.1 => hname (heq ▸ List.mem_map_of_mem hm)
    rw [hnone]
    exact .none

end Nlboot.Lib
