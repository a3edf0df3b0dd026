import Nlboot.Lib.Semver
import Nlboot.Reference.IsoTime
import Nlboot.Tools.CargoMetadataToSpdx

/-!
# The identifiers of an SBOM

The identifier of a package joins its name and its version with a dash, and writes a dash for each
`_` and `.` in them. So two packages can have one identifier in two ways.

* `CargoPackage`, `CargoDocument`: the packages and the workspace members of metadata.
* `Twins`: names and versions that differ in `-`, `_` and `.` only.
* `Overlap`: the name of one package goes on into the version of the other.
* `Faithful`: what the SBOM is to say of the packages.

Results:
* **`spdxId_eq_iff`**: these are the ways to have one identifier. **`Overlap.prerelease`**: a
  version another name goes on into is a pre-release, so releases clash as twins only.
* **`buildSbom_faithful_iff`**: the SBOM is faithful iff no two packages are twins or overlap.
-/

namespace Nlboot.Tools

open Nlboot.Lib Nlboot.Reference

/-! ## Packages -/

/-- A character of a package name: a digit, a letter, `-` or `_`. Beyond ASCII any character may be
a letter. -/
def isNameChar (c : Char) : Bool := c.isAlphanum || c == '-' || c == '_' || 0x80 ≤ c.toNat

/-- A package of the metadata. -/
structure CargoPackage where
  name : String
  version : Semver
  id : String
  nameValid : name.toList.all isNameChar = true

/-- The identifier of a package. -/
def CargoPackage.spdxId (p : CargoPackage) : String := Tools.spdxId p.name p.version.text

/-- The metadata have these packages and these workspace members. -/
def CargoDocument {N : Type} (metadata : Json N) (packages : List CargoPackage)
    (members : List String) : Prop :=
  ∃ fields items, metadata = .obj fields ∧ Members.get fields "packages" = some (.arr items) ∧
    List.Forall₂ (fun item p => Describes item p.name p.version.text p.id) items packages ∧
    Members.get fields "workspace_members" = some (.arr (members.map .str))

/-! ## One identifier -/

/-- What an identifier has for a character of a name or a version. -/
def dash (c : Char) : Char := if c = '_' ∨ c = '.' then '-' else c

/-- The texts differ in `-`, `_` and `.` only. -/
def Alike (s t : String) : Prop := s.toList.map dash = t.toList.map dash

/-- The names are alike, and the versions have one core and parts that are alike. -/
def Twins (p q : CargoPackage) : Prop :=
  Alike p.name q.name ∧ p.version.major = q.version.major ∧ p.version.minor = q.version.minor ∧
    p.version.patch = q.version.patch ∧
    p.version.preText.map dash = q.version.preText.map dash ∧
    p.version.buildText.map dash = q.version.buildText.map dash

/-- The name of `q` is the name of `p`, a dash and a text that the version of `p` begins with, and
the rest of that version is a dash and the version of `q`. -/
def Overlap (p q : CargoPackage) : Prop :=
  ∃ middle : String, Alike q.name (p.name ++ "-" ++ middle) ∧
    Alike p.version.text (middle ++ "-" ++ q.version.text)

/-- The packages have names and versions that run together. -/
def Clash (p q : CargoPackage) : Prop := Twins p q ∨ Overlap p q ∨ Overlap q p

theorem rewriting_dash : Semver.Rewriting dash where
  digit c hc := by
    refine if_neg ?_
    rintro (rfl | rfl)
    · exact absurd hc (by decide)
    · exact absurd hc (by decide)
  plus c := by
    unfold dash
    by_cases h : c = '_' ∨ c = '.'
    · rw [if_pos h]
      refine iff_of_false (by decide) ?_
      rintro rfl
      exact absurd h (by decide)
    · rw [if_neg h]
  dot := by decide
  dash := by decide

/-- `replace` of one character by another goes character by character. -/
theorem toList_replace_char (s : String) (a b : Char) :
    (replace s (String.singleton a) (String.singleton b)).toList =
      s.toList.map fun c => if c = a then b else c := by
  have hscan : ∀ cs : List Char,
      replaceScan [a] [b] 0 cs = cs.map fun c => if c = a then b else c := by
    intro cs
    induction cs with
    | nil => rfl
    | cons c cs ih =>
      rw [replaceScan, List.map_cons]
      by_cases hc : c = a
      · rw [if_pos (by simp [hc]), if_pos hc]
        exact congrArg _ ih
      · rw [if_neg (by simpa using Ne.symm hc), if_neg hc, ih]
  unfold replace
  rw [String.toList_ofList, String.toList_singleton, String.toList_singleton]
  exact hscan _

theorem underscore_notMem_text (v : Semver) : '_' ∉ v.text.toList := by
  intro h
  rcases v.mem_text h with h | h | h
  · exact absurd h (by decide)
  · exact absurd h (by decide)
  · exact absurd h (by decide)

/-- The characters of an identifier. -/
theorem toList_spdxId (name : String) (version : Semver) : (spdxId name version.text).toList =
    "SPDXRef-Package-".toList ++ (name.toList.map dash ++ '-' :: version.text.toList.map dash) := by
  have hname : (replace (replace name "_" "-") "." "-").toList = name.toList.map dash := by
    show (replace (replace name (String.singleton '_') (String.singleton '-'))
      (String.singleton '.') (String.singleton '-')).toList = _
    rw [toList_replace_char, toList_replace_char, List.map_map]
    refine List.map_congr_left fun c _ => ?_
    simp only [Function.comp, dash]
    by_cases hc : c = '_'
    · rw [if_pos hc, if_pos (Or.inl hc), ite_self]
    · simp only [hc, if_false, false_or]
  have hversion : (replace version.text "." "-").toList = version.text.toList.map dash := by
    show (replace version.text (String.singleton '.') (String.singleton '-')).toList = _
    rw [toList_replace_char]
    refine List.map_congr_left fun c hc => ?_
    have hunderscore : c ≠ '_' := fun h => underscore_notMem_text version (h ▸ hc)
    simp only [dash, hunderscore, false_or]
  unfold spdxId
  rw [String.toList_append, String.toList_append, String.toList_append, hname, hversion,
    List.append_assoc, List.append_assoc]
  rfl

/-- The text goes on behind a dash with another that is alike. -/
theorem alike_append {s t : String} {middle : String} :
    Alike s (t ++ "-" ++ middle) ↔
      s.toList.map dash = t.toList.map dash ++ '-' :: middle.toList.map dash := by
  have hdash : (t ++ "-" ++ middle).toList = t.toList ++ '-' :: middle.toList := by
    rw [String.toList_append, String.toList_append, List.append_assoc]
    rfl
  unfold Alike
  rw [hdash, List.map_append, List.map_cons, show dash '-' = '-' from rfl]

theorem overlap_iff {p q : CargoPackage} : Overlap p q ↔ ∃ middle : List Char,
    q.name.toList.map dash = p.name.toList.map dash ++ '-' :: middle ∧
      p.version.text.toList.map dash = middle ++ '-' :: q.version.text.toList.map dash := by
  unfold Overlap
  simp only [alike_append]
  constructor
  · rintro ⟨middle, hname, hversion⟩
    exact ⟨_, hname, hversion⟩
  · rintro ⟨middle, hname, hversion⟩
    obtain ⟨suffix, rfl⟩ := exists_suffix_of_map hname
    refine ⟨String.ofList suffix, ?_, ?_⟩
    · rwa [String.toList_ofList]
    · rwa [String.toList_ofList]

theorem twins_iff {p q : CargoPackage} : Twins p q ↔
    p.name.toList.map dash = q.name.toList.map dash ∧
      p.version.text.toList.map dash = q.version.text.toList.map dash := by
  rw [Semver.map_text_inj rewriting_dash]
  rfl

/-- **One identifier** have packages that clash, and no others. -/
theorem spdxId_eq_iff {p q : CargoPackage} : p.spdxId = q.spdxId ↔ Clash p q := by
  rw [← String.toList_inj, CargoPackage.spdxId, CargoPackage.spdxId, toList_spdxId, toList_spdxId,
    List.append_cancel_left_eq,
    append_cons_eq_iff, Clash, twins_iff, overlap_iff, overlap_iff]

example : spdxId "foo" "1.0.0-0" = spdxId "foo-1" "0.0.0" := by decide

/-! ## Overlaps -/

/-- What is before the build metadata has the two dashes of the core, and those of a
pre-release. -/
theorem exists_core (v : Semver) : ∃ core : List Char, (∀ c ∈ core, c ≠ '+') ∧ core.count '-' = 2 ∧
    v.text.toList.map dash = core ++ (v.preText.map dash ++ v.buildText.map dash) := by
  have hdigit : ∀ n, ∀ c ∈ Nat.toDigits 10 n, c ≠ '+' ∧ c ≠ '-' := by
    intro n c hc
    have hc := isDigit_of_mem hc
    constructor
    · rintro rfl
      exact absurd hc (by decide)
    · rintro rfl
      exact absurd hc (by decide)
  have hcount : ∀ n, (Nat.toDigits 10 n).count '-' = 0 := fun n =>
    List.count_eq_zero_of_not_mem fun h => (hdigit n _ h).2 rfl
  refine ⟨Nat.toDigits 10 v.major ++ '-' :: (Nat.toDigits 10 v.minor ++ '-' ::
    Nat.toDigits 10 v.patch), ?_, ?_, ?_⟩
  · intro c hc
    simp only [List.mem_append, List.mem_cons] at hc
    rcases hc with hc | rfl | hc | rfl | hc
    · exact (hdigit _ c hc).1
    · decide
    · exact (hdigit _ c hc).1
    · decide
    · exact (hdigit _ c hc).1
  · rw [List.count_append, List.count_cons_self, List.count_append, List.count_cons_self, hcount,
      hcount, hcount]
  · rw [Semver.toList_text, rewriting_dash.map_chars, show dash '.' = '-' from rfl]
    simp only [List.append_assoc, List.cons_append]

/-- **A version another name goes on into** is a pre-release: a release has no dash to spare. -/
theorem Overlap.prerelease {p q : CargoPackage} (h : Overlap p q) : p.version.pre ≠ [] := by
  obtain ⟨middle, hname, hversion⟩ := overlap_iff.mp h
  obtain ⟨core, hcore, hcount, htext⟩ := exists_core p.version
  obtain ⟨core', hcore', hcount', htext'⟩ := exists_core q.version
  have hmiddle : ∀ c ∈ middle, c ≠ '+' := by
    rintro c hc rfl
    have hmem : '+' ∈ q.name.toList.map dash := by
      rw [hname]
      exact List.mem_append_right _ (List.mem_cons_of_mem _ hc)
    obtain ⟨d, hd, hplus⟩ := List.mem_map.mp hmem
    obtain rfl := (rewriting_dash.plus d).mp hplus
    exact absurd (List.all_eq_true.mp q.nameValid _ hd) (by decide)
  have hfront : ∀ c ∈ middle ++ '-' :: core', c ≠ '+' := by
    intro c hc
    rcases List.mem_append.mp hc with hc | hc
    · exact hmiddle c hc
    · rcases List.mem_cons.mp hc with rfl | hc
      · decide
      · exact hcore' c hc
  intro hpre
  have hbuild : p.version.text.toList.map dash = core ++ p.version.buildText.map dash := by
    rw [htext, show p.version.preText = [] from if_pos hpre, List.map_nil, List.nil_append]
  -- before the first `+` the release has two dashes, and the other text at least three
  have hcut := congrArg (List.takeWhile fun c => decide (c ≠ '+')) hversion
  rw [hbuild, htext', ← List.cons_append, ← List.append_assoc,
    takeWhile_append_of_stops hcore (rewriting_dash.stops_build p.version),
    List.takeWhile_append_of_pos fun c hc => decide_eq_true (hfront c hc)] at hcut
  have hdashes := congrArg (List.count '-') hcut
  rw [hcount, List.count_append, List.count_append, List.count_cons_self, hcount'] at hdashes
  omega

/-- Releases clash only as twins. -/
theorem clash_iff_of_releases {p q : CargoPackage} (hp : p.version.pre = [])
    (hq : q.version.pre = []) : Clash p q ↔ Twins p q := by
  refine ⟨fun h => ?_, .inl⟩
  rcases h with h | h | h
  · exact h
  · exact absurd hp h.prerelease
  · exact absurd hq h.prerelease

/-! ## The SBOM of a document -/

section

variable {N : Type} {metadata : Json N} {packages : List CargoPackage} {members : List String}

/-- The SBOM has the packages in order, under distinct identifiers, and a workspace member depends
on each other package once, and not on itself. -/
structure Faithful (packages : List CargoPackage) (members : List String) (sbom : Sbom N) :
    Prop where
  inOrder : List.Forall₂ (fun p entry => entry.name = p.name ∧ entry.versionInfo = p.version.text)
    packages sbom.packages
  distinct : (sbom.packages.map SpdxPackage.spdxId).Nodup
  dependsOn : ∀ (i j : ℕ) (p : CargoPackage) (entry other : SpdxPackage N), packages[i]? = some p →
    p.id ∈ members → sbom.packages[i]? = some entry → sbom.packages[j]? = some other →
      sbom.relationships.count (Tools.dependsOn entry.spdxId other.spdxId) = if i = j then 0 else 1

/-- What a document is turned into. -/
theorem CargoDocument.exists_sbom (h : CargoDocument metadata packages members) (rt : Runtime N)
    (numbers : Numbers N) (documentName : String) :
    ∃ sbom ids, buildSbom rt numbers metadata documentName = .ok sbom ∧
      List.Forall₂ (fun p entry => entry.spdxId = p.spdxId ∧ entry.name = p.name ∧
        entry.versionInfo = p.version.text) packages sbom.packages ∧
      sbom.relationships = relationships sbom.packages (sortedSet ids) ∧
      ∀ s, s ∈ ids ↔ ∃ p ∈ packages, p.id ∈ members ∧ s = p.spdxId := by
  obtain ⟨fields, items, rfl, hpackages, hitems, hmembers⟩ := h
  obtain ⟨entries, hentries, hrelated⟩ := exists_mapM_of_forall₂
    (fun hp => hp.packageToSpdx_eq rt numbers) hitems
  obtain ⟨ids, hids, hmem⟩ := exists_rootPackageIds numbers members hitems
  have hbuild : ∃ sbom, buildSbom rt numbers (.obj fields) documentName = .ok sbom ∧
      sbom.packages = entries ∧ sbom.relationships = relationships entries (sortedSet ids) := by
    unfold buildSbom
    simp only [get_obj, hpackages, hmembers, Option.getD_some, iterate_arr, bind_eq_ok, pure_eq_ok,
      Except.ok.injEq, exists_eq_left', hentries, hids, and_self]
  obtain ⟨sbom, hsbom, rfl, hrelationships⟩ := hbuild
  exact ⟨sbom, ids, hsbom, hrelated, hrelationships, hmem⟩

/-- The identifiers are those of the packages. -/
theorem map_spdxId_eq {entries : List (SpdxPackage N)}
    (h : List.Forall₂ (fun p entry => entry.spdxId = p.spdxId ∧ entry.name = p.name ∧
      entry.versionInfo = p.version.text) packages entries) :
    entries.map SpdxPackage.spdxId = packages.map CargoPackage.spdxId := by
  induction h with
  | nil => rfl
  | cons hp _ ih => rw [List.map_cons, List.map_cons, hp.1, ih]

/-- **The SBOM is faithful** iff no two packages clash. -/
theorem buildSbom_faithful_iff (rt : Runtime N) (numbers : Numbers N) (documentName : String)
    (h : CargoDocument metadata packages members) :
    ∃ sbom, buildSbom rt numbers metadata documentName = .ok sbom ∧
      (Faithful packages members sbom ↔ packages.Pairwise fun p q => ¬ Clash p q) := by
  obtain ⟨sbom, ids, hsbom, hentries, hrelationships, hids⟩ := h.exists_sbom rt numbers documentName
  have hmap := map_spdxId_eq hentries
  have hdistinct : (sbom.packages.map SpdxPackage.spdxId).Nodup ↔
      packages.Pairwise fun p q => ¬ Clash p q := by
    rw [hmap, List.Nodup, List.pairwise_map]
    exact List.Pairwise.iff fun p q => not_congr spdxId_eq_iff
  refine ⟨sbom, hsbom, fun hfaithful => hdistinct.mp hfaithful.distinct, fun hclash => ?_⟩
  have hnodup := hdistinct.mpr hclash
  refine ⟨hentries.imp fun _ _ hp => hp.2, hnodup, ?_⟩
  intro i j p entry other hp hmember hentry hother
  have hroot : entry.spdxId ∈ sortedSet ids := by
    obtain ⟨p', hp', hid, -⟩ := exists_getElem?_of_forall₂ hentries hentry
    obtain rfl := Option.some.inj (hp.symm.trans hp')
    rw [mem_sortedSet, hids, hid]
    exact ⟨p, List.mem_of_getElem? hp, hmember, rfl⟩
  have hsame : other.spdxId = entry.spdxId ↔ i = j := by
    have hi : (sbom.packages.map SpdxPackage.spdxId)[i]? = some entry.spdxId := by
      rw [List.getElem?_map, hentry, Option.map_some]
    have hj : (sbom.packages.map SpdxPackage.spdxId)[j]? = some other.spdxId := by
      rw [List.getElem?_map, hother, Option.map_some]
    have hlt := (List.getElem?_eq_some_iff.mp hi).1
    rw [← List.getElem?_inj hlt hnodup, hi, hj, Option.some.injEq]
    exact eq_comm
  rw [hrelationships, count_relationships hnodup (nodup_sortedSet ids) hroot
    (List.mem_map_of_mem (List.mem_of_getElem? hother)), if_congr hsame rfl rfl]

end

/-! ## Two documents -/

/-- Equality of integers. -/
def pyNumbers : Numbers Int where
  same m n := m == n
  ofBool b := if b then 1 else 0

/-- A package as `cargo metadata` writes it. -/
def CargoPackage.toJson (p : CargoPackage) : Json Int :=
  .obj [("name", .str p.name), ("version", .str p.version.text), ("id", .str p.id)]

/-- Metadata of packages and workspace members. -/
def cargoMetadata (packages : List CargoPackage) (members : List String) : Json Int :=
  .obj [("packages", .arr (packages.map CargoPackage.toJson)),
    ("workspace_members", .arr (members.map .str))]

theorem cargoDocument_cargoMetadata (packages : List CargoPackage) (members : List String) :
    CargoDocument (cargoMetadata packages members) packages members := by
  refine ⟨_, packages.map CargoPackage.toJson, rfl, rfl, ?_, rfl⟩
  rw [List.forall₂_map_left_iff]
  exact List.forall₂_same.mpr fun p _ => ⟨_, rfl, rfl, rfl, rfl⟩

/-- The client, a member of its workspace. -/
def nlbootClient : CargoPackage where
  name := "nlboot-client"
  version := { major := 0, minor := 1, patch := 0, pre := ["alpha", "1"], preValid := by decide }
  id := "path+file:///nlboot#nlboot-client@0.1.0-alpha.1"
  nameValid := by decide

/-- A dependency. -/
def serdeJson : CargoPackage where
  name := "serde_json"
  version := { major := 1, minor := 0, patch := 149 }
  id := "registry+index#serde_json@1.0.149"
  nameValid := by decide

/-- A dependency with another name, of the same identifier. -/
def serdeDashJson : CargoPackage where
  name := "serde-json"
  version := { major := 1, minor := 0, patch := 149 }
  id := "path+file:///nlboot#serde-json@1.0.149"
  nameValid := by decide

theorem nlbootClient_faithful : ∃ sbom,
    buildSbom pyRuntime pyNumbers (cargoMetadata [nlbootClient, serdeJson] [nlbootClient.id])
      "nlboot-client-sbom" = .ok sbom ∧
    Faithful [nlbootClient, serdeJson] [nlbootClient.id] sbom := by
  obtain ⟨sbom, hsbom, hfaithful⟩ := buildSbom_faithful_iff pyRuntime pyNumbers
    "nlboot-client-sbom" (cargoDocument_cargoMetadata [nlbootClient, serdeJson] [nlbootClient.id])
  refine ⟨sbom, hsbom, hfaithful.mpr ?_⟩
  have hclash : ¬ Clash nlbootClient serdeJson := by
    rw [← spdxId_eq_iff]
    decide
  exact List.pairwise_pair.mpr hclash

/-- Two names that differ in a dash: both packages get one identifier, and the workspace member
loses its dependency. -/
theorem serdeJson_lost :
    ([serdeDashJson, serdeJson].map fun p => (p.name, p.version.text)).Nodup ∧
    CargoDocument (cargoMetadata [serdeDashJson, serdeJson] [serdeDashJson.id])
      [serdeDashJson, serdeJson] [serdeDashJson.id] ∧
    ∃ sbom, buildSbom pyRuntime pyNumbers
        (cargoMetadata [serdeDashJson, serdeJson] [serdeDashJson.id]) "nlboot-client-sbom" =
      .ok sbom ∧
      sbom.packages.map SpdxPackage.spdxId =
        ["SPDXRef-Package-serde-json-1-0-149", "SPDXRef-Package-serde-json-1-0-149"] ∧
      sbom.relationships = [] ∧
      ¬ Faithful [serdeDashJson, serdeJson] [serdeDashJson.id] sbom := by
  refine ⟨by decide, cargoDocument_cargoMetadata _ _, ?_⟩
  obtain ⟨sbom, ids, hsbom, hentries, hrelationships, hroots⟩ :=
    (cargoDocument_cargoMetadata [serdeDashJson, serdeJson] [serdeDashJson.id]).exists_sbom
      pyRuntime pyNumbers "nlboot-client-sbom"
  have hids : sbom.packages.map SpdxPackage.spdxId =
      ["SPDXRef-Package-serde-json-1-0-149", "SPDXRef-Package-serde-json-1-0-149"] := by
    rw [map_spdxId_eq hentries]
    decide
  refine ⟨sbom, hsbom, hids, ?_, fun hfaithful => ?_⟩
  · have hone : ∀ p ∈ [serdeDashJson, serdeJson],
        p.spdxId = "SPDXRef-Package-serde-json-1-0-149" := by
      rw [← List.forall_mem_map (P := fun s => s = _), ← map_spdxId_eq hentries, hids]
      simp
    rw [hrelationships, relationships, List.flatMap_eq_nil_iff]
    intro root hroot
    obtain ⟨p, hp, -, rfl⟩ := (hroots root).mp (mem_sortedSet.mp hroot)
    rw [List.map_eq_nil_iff, List.filter_eq_nil_iff]
    intro entry hentry
    obtain ⟨q, hq, hid, -⟩ := exists_mem_of_forall₂ hentries entry hentry
    rw [hid, hone p hp, hone q hq]
    simp
  · have hdistinct := hfaithful.distinct
    rw [hids] at hdistinct
    exact absurd hdistinct (by decide)

end Nlboot.Tools
