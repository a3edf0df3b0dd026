import Mathlib.Data.List.Dedup
import Mathlib.Data.List.ReduceOption
import Nlboot.Reference.Runtime

/-!
# The SBOM of a release

Model of `tools/cargo_metadata_to_spdx.py`, which turns the output of `cargo metadata` into an
SPDX document. The metadata are any JSON value, as `json.loads` returns it: what is no dictionary
where one is expected, or has no name, raises.

* `Numbers`: what `==` and `bool` know of JSON numbers.
* `get`, `item`, `asText`, `iterate`: how the tool takes a value apart, and the exceptions of it.
* `spdxId`: the identifier of a package. The source writes this expression in both functions.
* The set of workspace ids is a list without duplicates, sorted by code points.

Results:
* `Describes.packageToSpdx_eq`: a package is converted under the name and version it has.
* **`exists_rootPackageIds`**: the workspace ids are those of the packages that are workspace
  members.
* **`mem_relationships`**: each workspace id depends on each other identifier, exactly once if no
  two packages share one (`count_relationships`).
-/

namespace Nlboot.Tools

open Nlboot.Lib Nlboot.Reference

variable {N : Type}

/-! ## Values of Python -/

/-- An exception that leaves the tool. -/
inductive SbomError where
  | attribute
  | key (name : String)
  | type
  deriving DecidableEq

/-- What `==` and `bool` know of numbers: which are equal, and which ones `True` and `False` are. -/
structure Numbers (N : Type) where
  same : N → N → Bool
  ofBool : Bool → N

mutual

/-- `==` on JSON values. -/
def equals (numbers : Numbers N) : Json N → Json N → Bool
  | .null, .null => true
  | .bool b, .bool c => b == c
  | .bool b, .num n => numbers.same (numbers.ofBool b) n
  | .num m, .bool c => numbers.same m (numbers.ofBool c)
  | .num m, .num n => numbers.same m n
  | .str s, .str t => s == t
  | .arr items, .arr items' => equalsItems numbers items items'
  | .obj members, .obj members' =>
    members.length == members'.length && equalsMembers numbers members members'
  | _, _ => false

def equalsItems (numbers : Numbers N) : List (Json N) → List (Json N) → Bool
  | [], [] => true
  | j :: items, j' :: items' => equals numbers j j' && equalsItems numbers items items'
  | _, _ => false

def equalsMembers (numbers : Numbers N) : Members N → Members N → Bool
  | [], _ => true
  | (name, j) :: members, members' =>
    (match members'.get name with
    | some j' => equals numbers j j'
    | none => false) && equalsMembers numbers members members'

end

/-- `bool(value)`. -/
def truthy (numbers : Numbers N) : Json N → Bool
  | .null => false
  | .bool b => b
  | .num n => !numbers.same n (numbers.ofBool false)
  | .str s => s ≠ ""
  | .arr items => !items.isEmpty
  | .obj members => !members.isEmpty

/-- `value.get(key)`, none where the key is missing. -/
def get (value : Json N) (key : String) : Except SbomError (Option (Json N)) :=
  match value with
  | .obj members => pure (Members.get members key)
  | _ => throw .attribute

/-- `value[key]`. -/
def item (value : Json N) (key : String) : Except SbomError (Json N) :=
  match value with
  | .obj members => orThrow (.key key) (Members.get members key)
  | _ => throw .type

/-- The text of a value whose `replace` is called. -/
def asText (value : Json N) : Except SbomError String :=
  match value with
  | .str s => pure s
  | _ => throw .attribute

/-- What a `for` loop over the value goes through. -/
def iterate (value : Json N) : Except SbomError (List (Json N)) :=
  match value with
  | .arr items => pure items
  | .str s => pure (s.toList.map fun c => .str (String.singleton c))
  | .obj members => pure (members.map fun m => .str m.1)
  | _ => throw .type

/-- The value in an f-string. -/
def format (rt : Runtime N) : Json N → String
  | .str s => s
  | value => rt.str value

/-- `value or "NOASSERTION"`. -/
def orNoAssertion (numbers : Numbers N) (value : Option (Json N)) : Json N :=
  match value with
  | some j => if truthy numbers j then j else .str "NOASSERTION"
  | none => .str "NOASSERTION"

/-! ## Packages -/

/-- A reference of a package to a package manager. -/
structure ExternalRef where
  referenceCategory : String
  referenceType : String
  referenceLocator : String

/-- A package of the SBOM. -/
structure SpdxPackage (N : Type) where
  spdxId : String
  name : String
  versionInfo : String
  downloadLocation : Json N
  filesAnalyzed : Bool
  licenseConcluded : Json N
  licenseDeclared : Json N
  copyrightText : String
  externalRefs : List ExternalRef

/-- `package_external_ref`. -/
def packageExternalRef (rt : Runtime N) (numbers : Numbers N) (package : Json N) :
    Except SbomError (List ExternalRef) := do
  let checksum := (← get package "checksum").getD .null
  if truthy numbers checksum = false then pure []
  else do
    let name ← item package "name"
    let version ← item package "version"
    pure [{
      referenceCategory := "PACKAGE-MANAGER"
      referenceType := "purl"
      referenceLocator := "pkg:cargo/" ++ format rt name ++ "@" ++ format rt version ++
        "?checksum=" ++ format rt checksum }]

/-- The SPDX identifier of a name and a version. -/
def spdxId (name version : String) : String :=
  "SPDXRef-Package-" ++ replace (replace name "_" "-") "." "-" ++ "-" ++ replace version "." "-"

/-- The name and the version an identifier is made of. -/
def nameAndVersion (package : Json N) : Except SbomError (String × String) := do
  let name ← item package "name"
  let version := (← get package "version").getD (.str "UNKNOWN")
  pure (← asText name, ← asText version)

/-- `package_to_spdx`. -/
def packageToSpdx (rt : Runtime N) (numbers : Numbers N) (package : Json N) :
    Except SbomError (SpdxPackage N) := do
  let (name, version) ← nameAndVersion package
  let source := orNoAssertion numbers (← get package "source")
  let licenseValue := orNoAssertion numbers (← get package "license")
  let externalRefs ← packageExternalRef rt numbers package
  pure {
    spdxId := spdxId name version
    name
    versionInfo := version
    downloadLocation := source
    filesAnalyzed := false
    licenseConcluded := licenseValue
    licenseDeclared := licenseValue
    copyrightText := "NOASSERTION"
    externalRefs }

/-! ## The document -/

/-- A relationship between two identifiers. -/
structure Relationship where
  spdxElementId : String
  relationshipType : String
  relatedSpdxElement : String
  deriving DecidableEq

/-- The SBOM. -/
structure Sbom (N : Type) where
  spdxVersion : String
  dataLicense : String
  spdxId : String
  name : String
  documentNamespace : String
  creators : List String
  created : String
  comment : String
  packages : List (SpdxPackage N)
  relationships : List Relationship

/-- The identifier of a package, if its `id` is the workspace member. -/
def rootPackageId (numbers : Numbers N) (root package : Json N) :
    Except SbomError (Option String) := do
  let id := (← get package "id").getD .null
  if equals numbers id root then do
    let (name, version) ← nameAndVersion package
    pure (some (spdxId name version))
  else pure none

/-- The ids added to `root_package_ids`, in the order of the loops. -/
def rootPackageIds (numbers : Numbers N) (packages members : List (Json N)) :
    Except SbomError (List String) := do
  let ids ← members.mapM fun root => packages.mapM (rootPackageId numbers root)
  pure ids.flatten.reduceOption

/-- `sorted(set(ids))`. -/
def sortedSet (ids : List String) : List String :=
  ids.dedup.insertionSort fun a b => pyLe a b = true

/-- The relationship of two identifiers. -/
def dependsOn (rootId id : String) : Relationship where
  spdxElementId := rootId
  relationshipType := "DEPENDS_ON"
  relatedSpdxElement := id

/-- The relationships of the workspace ids. -/
def relationships (packages : List (SpdxPackage N)) (rootIds : List String) : List Relationship :=
  rootIds.flatMap fun rootId =>
    (packages.filter fun package => package.spdxId ≠ rootId).map fun package =>
      dependsOn rootId package.spdxId

/-- `build_sbom`. -/
def buildSbom (rt : Runtime N) (numbers : Numbers N) (metadata : Json N) (documentName : String) :
    Except SbomError (Sbom N) := do
  let items ← iterate ((← get metadata "packages").getD (.arr []))
  let packages ← items.mapM (packageToSpdx rt numbers)
  let members ← iterate ((← get metadata "workspace_members").getD (.arr []))
  let rootIds ← rootPackageIds numbers items members
  pure {
    spdxVersion := "SPDX-2.3"
    dataLicense := "CC0-1.0"
    spdxId := "SPDXRef-DOCUMENT"
    name := documentName
    documentNamespace := "https://sourceos.local/sbom/" ++ documentName
    creators := ["Tool: nlboot cargo_metadata_to_spdx.py"]
    created := "1970-01-01T00:00:00Z"
    comment := "Deterministic operator-test SBOM generated from cargo metadata."
    packages
    relationships := relationships packages (sortedSet rootIds) }

/-! ## What is read of a package -/

@[simp] theorem get_obj (members : Members N) (key : String) :
    get (.obj members) key = .ok (Members.get members key) := rfl

@[simp] theorem item_obj (members : Members N) (key : String) :
    item (.obj members) key = orThrow (.key key) (Members.get members key) := rfl

@[simp] theorem asText_str (s : String) : asText (.str s : Json N) = .ok s := rfl

@[simp] theorem iterate_arr (items : List (Json N)) : iterate (.arr items) = .ok items := rfl

/-- The value is a package with this name, version and id, all texts. -/
def Describes (package : Json N) (name version id : String) : Prop :=
  ∃ members, package = .obj members ∧ Members.get members "name" = some (.str name) ∧
    Members.get members "version" = some (.str version) ∧
    Members.get members "id" = some (.str id)

section

variable {package : Json N} {name version id : String} (rt : Runtime N) (numbers : Numbers N)

theorem Describes.nameAndVersion_eq (h : Describes package name version id) :
    nameAndVersion package = .ok (name, version) := by
  obtain ⟨members, rfl, hname, hversion, -⟩ := h
  unfold nameAndVersion
  simp only [item_obj, get_obj, bind_eq_ok, pure_eq_ok, orThrow_eq_ok, Except.ok.injEq]
  refine ⟨_, hname, _, rfl, name, rfl, version, ?_, rfl⟩
  rw [hversion, Option.getD_some, asText_str]

/-- The reference of a package that is described does not raise. -/
theorem Describes.packageExternalRef_isOk (h : Describes package name version id) :
    ∃ refs, packageExternalRef rt numbers package = .ok refs := by
  obtain ⟨members, rfl, hname, hversion, -⟩ := h
  unfold packageExternalRef
  simp only [item_obj, get_obj, bind_eq_ok, Except.ok.injEq, exists_eq_left']
  by_cases hchecksum : truthy numbers ((Members.get members "checksum").getD .null) = false
  · exact ⟨[], if_pos hchecksum⟩
  · rw [if_neg hchecksum]
    simp only [bind_eq_ok, pure_eq_ok, orThrow_eq_ok]
    exact ⟨_, _, hname, _, hversion, rfl⟩

/-- A package that is described is converted, under its name and version. -/
theorem Describes.packageToSpdx_eq (h : Describes package name version id) :
    ∃ entry, packageToSpdx rt numbers package = .ok entry ∧ entry.spdxId = spdxId name version ∧
      entry.name = name ∧ entry.versionInfo = version := by
  have hpair := h.nameAndVersion_eq
  obtain ⟨refs, hrefs⟩ := h.packageExternalRef_isOk rt numbers
  obtain ⟨members, rfl, -⟩ := h
  unfold packageToSpdx
  simp only [hpair, hrefs, get_obj, bind_eq_ok, pure_eq_ok, Except.ok.injEq, exists_eq_left',
    and_self]

/-- A package is the workspace member its id names. -/
theorem Describes.rootPackageId_eq (h : Describes package name version id) (root : String) :
    rootPackageId numbers (.str root) package =
      .ok (if id = root then some (spdxId name version) else none) := by
  have hpair := h.nameAndVersion_eq
  obtain ⟨members, rfl, -, -, hid⟩ := h
  unfold rootPackageId
  rw [get_obj, hid]
  by_cases hroot : id = root
  · rw [if_pos hroot, hroot]
    simp only [bind_eq_ok, Except.ok.injEq, exists_eq_left', Option.getD_some, equals,
      beq_self_eq_true, if_true, hpair, pure_eq_ok]
  · rw [if_neg hroot]
    simp only [bind_eq_ok, Except.ok.injEq, exists_eq_left', Option.getD_some, equals, beq_iff_eq,
      if_neg hroot, pure_eq_ok]

end

/-! ## The workspace ids -/

/-- A loop over the packages finds those whose id is the workspace member. -/
theorem mapM_rootPackageId {P : Type} {name version id : P → String} {items : List (Json N)}
    {packages : List P} (numbers : Numbers N) (root : String)
    (h : List.Forall₂ (fun item p => Describes item (name p) (version p) (id p)) items packages) :
    items.mapM (rootPackageId numbers (.str root)) = .ok (packages.map fun p =>
      if id p = root then some (spdxId (name p) (version p)) else none) := by
  rw [mapM_eq_ok, List.forall₂_map_right_iff]
  exact h.imp fun _ _ hp => hp.rootPackageId_eq numbers root

/-- **The workspace ids** are those of the packages that are workspace members. -/
theorem exists_rootPackageIds {P : Type} {name version id : P → String} {items : List (Json N)}
    {packages : List P} (numbers : Numbers N) (members : List String)
    (h : List.Forall₂ (fun item p => Describes item (name p) (version p) (id p)) items packages) :
    ∃ ids, rootPackageIds numbers items (members.map .str) = .ok ids ∧
      ∀ s, s ∈ ids ↔ ∃ p ∈ packages, id p ∈ members ∧ s = spdxId (name p) (version p) := by
  have hmembers : (members.map Json.str).mapM
      (fun root => items.mapM (rootPackageId numbers root)) = .ok (members.map fun root =>
        packages.map fun p =>
          if id p = root then some (spdxId (name p) (version p)) else none) := by
    rw [mapM_eq_ok, List.forall₂_map_left_iff, List.forall₂_map_right_iff]
    exact List.forall₂_same.mpr fun root _ => mapM_rootPackageId numbers root h
  refine ⟨_, by rw [rootPackageIds, hmembers]; rfl, fun s => ?_⟩
  rw [List.reduceOption_mem_iff, List.mem_flatten]
  constructor
  · rintro ⟨found, hfound, hs⟩
    obtain ⟨root, hroot, rfl⟩ := List.mem_map.mp hfound
    obtain ⟨p, hp, hid⟩ := List.mem_map.mp hs
    by_cases hpr : id p = root
    · rw [if_pos hpr] at hid
      exact ⟨p, hp, hpr ▸ hroot, (Option.some.inj hid).symm⟩
    · rw [if_neg hpr] at hid
      exact absurd hid (by simp)
  · rintro ⟨p, hp, hid, rfl⟩
    exact ⟨_, List.mem_map_of_mem hid, List.mem_map.mpr ⟨p, hp, if_pos rfl⟩⟩

theorem mem_sortedSet {ids : List String} {s : String} : s ∈ sortedSet ids ↔ s ∈ ids := by
  unfold sortedSet
  rw [List.mem_insertionSort, List.mem_dedup]

theorem nodup_sortedSet (ids : List String) : (sortedSet ids).Nodup :=
  (List.perm_insertionSort _ _).nodup_iff.mpr ids.nodup_dedup

/-! ## The relationships -/

variable {packages : List (SpdxPackage N)} {roots : List String}

/-- **The relationships** of a workspace id are with the identifiers that are not its own. -/
theorem mem_relationships {rootId id : String} :
    dependsOn rootId id ∈ relationships packages roots ↔
      rootId ∈ roots ∧ id ∈ packages.map SpdxPackage.spdxId ∧ id ≠ rootId := by
  unfold relationships
  simp only [dependsOn, List.mem_flatMap, List.mem_map, List.mem_filter, decide_eq_true_eq,
    Relationship.mk.injEq, true_and]
  constructor
  · rintro ⟨root, hroot, entry, ⟨hentry, hne⟩, rfl, rfl⟩
    exact ⟨hroot, ⟨entry, hentry, rfl⟩, hne⟩
  · rintro ⟨hroot, ⟨entry, hentry, rfl⟩, hne⟩
    exact ⟨rootId, hroot, entry, ⟨hentry, hne⟩, rfl, rfl⟩

/-- No relationship is listed twice, if no two packages share an identifier. -/
theorem nodup_relationships (hpackages : (packages.map SpdxPackage.spdxId).Nodup)
    (hroots : roots.Nodup) : (relationships packages roots).Nodup := by
  unfold relationships
  refine List.nodup_flatMap.mpr ⟨fun root _ => ?_, ?_⟩
  · have hids : ((packages.filter fun entry => entry.spdxId ≠ root).map
        SpdxPackage.spdxId).Nodup := hpackages.sublist (List.filter_sublist.map _)
    refine List.Nodup.of_map Relationship.relatedSpdxElement ?_
    rw [List.map_map]
    exact hids
  · refine hroots.imp fun {root root'} hne => ?_
    intro r hr hr'
    obtain ⟨_, -, rfl⟩ := List.mem_map.mp hr
    obtain ⟨_, -, heq⟩ := List.mem_map.mp hr'
    exact hne (congrArg Relationship.spdxElementId heq).symm

/-- How often a workspace id depends on an identifier. -/
theorem count_relationships (hpackages : (packages.map SpdxPackage.spdxId).Nodup)
    (hroots : roots.Nodup) {rootId id : String} (hroot : rootId ∈ roots)
    (hid : id ∈ packages.map SpdxPackage.spdxId) :
    (relationships packages roots).count (dependsOn rootId id) = if id = rootId then 0 else 1 := by
  by_cases heq : id = rootId
  · rw [if_pos heq]
    exact List.count_eq_zero_of_not_mem fun hmem => (mem_relationships.mp hmem).2.2 heq
  · rw [if_neg heq]
    exact List.count_eq_one_of_mem (nodup_relationships hpackages hroots)
      (mem_relationships.mpr ⟨hroot, hid, heq⟩)

end Nlboot.Tools
