import Nlboot.Lib.PrettyCode
import Nlboot.Tools.SpdxIds

/-!
# The file of an SBOM

What the `main` of `tools/cargo_metadata_to_spdx.py` writes: the SBOM as indented JSON with sorted
keys and ASCII escapes, and a line feed. The arguments of the command line are arguments here, and
what is modelled of the file is its bytes.

* `Sbom.toJson`: the dictionary `build_sbom` returns. `sbomBytes`: the bytes of the file.
* `sbomFile`: the bytes for metadata.

Results:
* `rootPackageIds_of_packages`: once the packages are converted, no workspace member raises.
* **`sbomFile_orderFree`**: the file does not depend on the order of the workspace members, or on
  how often each is listed.
* **`sbomFile_prefix_iff`**: no file begins another, and one file is written for one SBOM.
-/

namespace Nlboot.Tools

open Nlboot.Lib Nlboot.Reference

variable {N : Type} {rt : Runtime N} {numbers : Numbers N} {documentName : String}

/-! ## The document -/

def ExternalRef.toJson (ref : ExternalRef) : Json N := .ofTexts [
  ("referenceCategory", ref.referenceCategory),
  ("referenceType", ref.referenceType),
  ("referenceLocator", ref.referenceLocator)]

def SpdxPackage.toJson (package : SpdxPackage N) : Json N := .obj [
  ("SPDXID", .str package.spdxId),
  ("name", .str package.name),
  ("versionInfo", .str package.versionInfo),
  ("downloadLocation", package.downloadLocation),
  ("filesAnalyzed", .bool package.filesAnalyzed),
  ("licenseConcluded", package.licenseConcluded),
  ("licenseDeclared", package.licenseDeclared),
  ("copyrightText", .str package.copyrightText),
  ("externalRefs", .arr (package.externalRefs.map ExternalRef.toJson))]

def Relationship.toJson (relationship : Relationship) : Json N := .ofTexts [
  ("spdxElementId", relationship.spdxElementId),
  ("relationshipType", relationship.relationshipType),
  ("relatedSpdxElement", relationship.relatedSpdxElement)]

/-- The dictionary of an SBOM. -/
def Sbom.toJson (sbom : Sbom N) : Json N := .obj [
  ("spdxVersion", .str sbom.spdxVersion),
  ("dataLicense", .str sbom.dataLicense),
  ("SPDXID", .str sbom.spdxId),
  ("name", .str sbom.name),
  ("documentNamespace", .str sbom.documentNamespace),
  ("creationInfo", .obj [
    ("creators", .arr (sbom.creators.map .str)),
    ("created", .str sbom.created),
    ("comment", .str sbom.comment)]),
  ("packages", .arr (sbom.packages.map SpdxPackage.toJson)),
  ("relationships", .arr (sbom.relationships.map Relationship.toJson))]

/-- `json.dumps(sbom, indent=2, sort_keys=True) + "\n"` in UTF-8. -/
def sbomBytes (num : N → List Char) (sbom : Sbom N) : List UInt8 :=
  utf8 (pretty (quoted escapeAscii) num 0 (sbom.toJson.sortKeys pyLe) ++ ['\n'])

/-- What `main` writes for the metadata. -/
def sbomFile (rt : Runtime N) (numbers : Numbers N) (metadata : Json N) (documentName : String) :
    Except SbomError (List UInt8) :=
  sbomBytes rt.num <$> buildSbom rt numbers metadata documentName

/-! ## The order of the workspace members -/

theorem pyLe_total (a b : String) : pyLe a b = true ∨ pyLe b a = true := lexLe_total _ _

theorem pyLe_trans (a b c : String) (h : pyLe a b = true) (h' : pyLe b c = true) :
    pyLe a c = true :=
  lexLe_trans h h'

theorem pyLe_antisymm (a b : String) (h : pyLe a b = true) (h' : pyLe b a = true) : a = b := by
  rw [pyLe_string] at h h'
  have hcodes := lexLe_antisymm h h'
  refine String.toList_inj.mp (List.map_injective_iff.mpr ?_ hcodes)
  exact fun c d hcd => Char.ext (UInt32.toNat_inj.mp hcd)

/-- Lists with the same elements are one sorted set. -/
theorem sortedSet_eq {ids ids' : List String} (h : ∀ s, s ∈ ids ↔ s ∈ ids') :
    sortedSet ids = sortedSet ids' := by
  have hperm : (sortedSet ids).Perm (sortedSet ids') :=
    (List.perm_ext_iff_of_nodup (nodup_sortedSet ids) (nodup_sortedSet ids')).mpr fun s => by
      rw [mem_sortedSet, mem_sortedSet, h]
  have hsorted : ∀ l, (sortedSet l).Pairwise fun a b => pyLe a b = true := by
    intro l
    have : Std.Total fun a b : String => pyLe a b = true := ⟨pyLe_total⟩
    have : IsTrans String fun a b => pyLe a b = true := ⟨pyLe_trans⟩
    exact List.pairwise_insertionSort _ _
  exact List.Perm.eq_of_pairwise (fun a b _ _ => pyLe_antisymm a b) (hsorted ids) (hsorted ids')
    hperm

/-- A package that is converted answers for every workspace member. -/
theorem rootPackageId_of_package {package : Json N} {entry : SpdxPackage N}
    (h : packageToSpdx rt numbers package = .ok entry) :
    ∃ id, ∀ root, rootPackageId numbers root package =
      .ok (if equals numbers id root then some entry.spdxId else none) := by
  unfold packageToSpdx at h
  simp only [bind_eq_ok, pure_eq_ok] at h
  obtain ⟨⟨name, version⟩, hpair, source, hsource, -, -, -, -, rfl⟩ := h
  cases package with
  | obj members =>
    refine ⟨(Members.get members "id").getD .null, fun root => ?_⟩
    unfold rootPackageId
    rw [get_obj]
    simp only [hpair, bind, Except.bind]
    split_ifs with hid
    · rfl
    · rfl
  | null | bool | num | str | arr => exact absurd hsource throw_ne_ok

/-- **No workspace member raises** once the packages are converted: it is found or not. -/
theorem rootPackageIds_of_packages {items : List (Json N)} {packages : List (SpdxPackage N)}
    (h : items.mapM (packageToSpdx rt numbers) = .ok packages) (roots : List (Json N)) :
    ∃ ids, rootPackageIds numbers items roots = .ok ids ∧ ∀ s, s ∈ ids ↔
      ∃ root ∈ roots, ∃ item ∈ items, rootPackageId numbers root item = .ok (some s) := by
  have hrow : ∀ root ∈ roots, ∃ row, items.mapM (rootPackageId numbers root) = .ok row := by
    intro root _
    have hitem : ∀ item ∈ items, ∃ found, rootPackageId numbers root item = .ok found := by
      intro item hitem
      obtain ⟨entry, -, hentry⟩ := exists_mem_right_of_forall₂ (mapM_eq_ok.mp h) item hitem
      obtain ⟨id, hid⟩ := rootPackageId_of_package hentry
      exact ⟨_, hid root⟩
    obtain ⟨row, hrow⟩ := exists_forall₂ hitem
    exact ⟨row, mapM_eq_ok.mpr hrow⟩
  obtain ⟨rows, hrows⟩ := exists_forall₂ hrow
  refine ⟨rows.flatten.reduceOption, by rw [rootPackageIds, mapM_eq_ok.mpr hrows]; rfl, fun s => ?_⟩
  rw [List.reduceOption_mem_iff, List.mem_flatten]
  constructor
  · rintro ⟨row, hmem, hs⟩
    obtain ⟨root, hroot, hfound⟩ := exists_mem_of_forall₂ hrows row hmem
    obtain ⟨item, hitem, hid⟩ := exists_mem_of_forall₂ (mapM_eq_ok.mp hfound) _ hs
    exact ⟨root, hroot, item, hitem, hid⟩
  · rintro ⟨root, hroot, item, hitem, hid⟩
    obtain ⟨row, hmem, hfound⟩ := exists_mem_right_of_forall₂ hrows root hroot
    obtain ⟨found, hs, hsame⟩ := exists_mem_right_of_forall₂ (mapM_eq_ok.mp hfound) item hitem
    obtain rfl := Except.ok.inj (hid.symm.trans hsame)
    exact ⟨row, hmem, hs⟩

/-- **The file is free of the order** of the workspace members: metadata with the same packages, and
the same members in any order and any number of times, have one file or raise one exception. -/
theorem sbomFile_orderFree (rt : Runtime N) (numbers : Numbers N) (documentName : String)
    {fields fields' : Members N} {roots roots' : List (Json N)}
    (hpackages : Members.get fields "packages" = Members.get fields' "packages")
    (hroots : iterate ((Members.get fields "workspace_members").getD (.arr [])) = .ok roots)
    (hroots' : iterate ((Members.get fields' "workspace_members").getD (.arr [])) = .ok roots')
    (hsame : ∀ j, j ∈ roots ↔ j ∈ roots') :
    sbomFile rt numbers (.obj fields) documentName =
      sbomFile rt numbers (.obj fields') documentName := by
  refine congrArg (sbomBytes rt.num <$> ·) ?_
  unfold buildSbom
  simp only [get_obj, ← hpackages, hroots, hroots', bind, Except.bind]
  cases iterate ((Members.get fields "packages").getD (.arr [])) with
  | error e => rfl
  | ok items =>
    dsimp only
    cases hmap : items.mapM (packageToSpdx rt numbers) with
    | error e => rfl
    | ok packages =>
      obtain ⟨ids, hids, hmem⟩ := rootPackageIds_of_packages hmap roots
      obtain ⟨ids', hids', hmem'⟩ := rootPackageIds_of_packages hmap roots'
      have hset : sortedSet ids = sortedSet ids' :=
        sortedSet_eq fun s => by simp only [hmem, hmem', hsame]
      simp only [hids, hids', hset]

/-- The members of the client and its dependency, in another order and one of them twice. -/
theorem clientFile_orderFree :
    sbomFile pyRuntime pyNumbers
        (cargoMetadata [nlbootClient, serdeJson] [nlbootClient.id, serdeJson.id])
        "nlboot-client-sbom" =
      sbomFile pyRuntime pyNumbers
        (cargoMetadata [nlbootClient, serdeJson] [serdeJson.id, nlbootClient.id, serdeJson.id])
        "nlboot-client-sbom" :=
  sbomFile_orderFree pyRuntime pyNumbers _ rfl rfl rfl fun j => by
    simp only [List.map_cons, List.map_nil, List.mem_cons, List.not_mem_nil, or_false]
    tauto

/-! ## What the file says -/

/-- What a loop goes through has distinct names, as the value has. -/
theorem distinctNames_of_iterate {value : Json N} {items : List (Json N)}
    (hn : value.distinctNames = true) (h : iterate value = .ok items) :
    ∀ item ∈ items, item.distinctNames = true := by
  cases value with
  | arr =>
    obtain rfl := Except.ok.inj h
    exact Json.distinctNames_arr.mp hn
  | str | obj =>
    obtain rfl := Except.ok.inj h
    intro item hitem
    obtain ⟨_, -, rfl⟩ := List.mem_map.mp hitem
    rfl
  | null | bool | num => exact absurd h throw_ne_ok

theorem distinctNames_orNoAssertion (numbers : Numbers N) {value : Option (Json N)}
    (hn : ∀ j ∈ value, j.distinctNames = true) :
    (orNoAssertion numbers value).distinctNames = true := by
  cases value with
  | none => rfl
  | some j =>
    dsimp only [orNoAssertion]
    split_ifs with htruthy
    · exact hn j rfl
    · rfl

/-- A member of a value with distinct names has distinct names. -/
theorem distinctNames_of_field {value : Json N} {key : String} {found : Option (Json N)}
    (hn : value.distinctNames = true) (h : get value key = .ok found) :
    ∀ j ∈ found, j.distinctNames = true := by
  cases value with
  | obj members =>
    obtain rfl := Except.ok.inj h
    exact fun j hj => distinctNames_of_get hn hj
  | null | bool | num | str | arr => exact absurd h throw_ne_ok

theorem distinctNames_package {package : Json N} {entry : SpdxPackage N}
    (hn : package.distinctNames = true) (h : packageToSpdx rt numbers package = .ok entry) :
    (entry.toJson : Json N).distinctNames = true := by
  unfold packageToSpdx at h
  simp only [bind_eq_ok, pure_eq_ok] at h
  obtain ⟨⟨name, version⟩, -, source, hsource, license, hlicense, refs, -, rfl⟩ := h
  have hsource := distinctNames_orNoAssertion numbers (distinctNames_of_field hn hsource)
  have hlicense := distinctNames_orNoAssertion numbers (distinctNames_of_field hn hlicense)
  have hrefs : ∀ j ∈ refs.map (ExternalRef.toJson (N := N)), j.distinctNames = true := by
    intro j hj
    obtain ⟨ref, -, rfl⟩ := List.mem_map.mp hj
    rfl
  have hnames : ["SPDXID", "name", "versionInfo", "downloadLocation", "filesAnalyzed",
      "licenseConcluded", "licenseDeclared", "copyrightText", "externalRefs"].Nodup := by decide
  rw [SpdxPackage.toJson, Json.distinctNames_obj]
  refine ⟨hnames, ?_⟩
  simp only [List.forall_mem_cons, hsource, hlicense, Json.distinctNames,
    Json.distinctNamesItems_iff.mpr hrefs, List.not_mem_nil, false_imp_iff, implies_true, and_self]

/-- **The dictionary of an SBOM** has distinct names, as the metadata have. -/
theorem distinctNames_sbom {metadata : Json N} {sbom : Sbom N} (hn : metadata.distinctNames = true)
    (h : buildSbom rt numbers metadata documentName = .ok sbom) :
    sbom.toJson.distinctNames = true := by
  unfold buildSbom at h
  simp only [bind_eq_ok, pure_eq_ok] at h
  obtain ⟨value, hvalue, items, hitems, packages, hpackages, -, -, -, -, ids, -, rfl⟩ := h
  have hvalue : (value.getD (.arr [])).distinctNames = true := by
    cases value with
    | none => rfl
    | some j => exact distinctNames_of_field hn hvalue j rfl
  have hentries : ∀ j ∈ packages.map SpdxPackage.toJson, j.distinctNames = true := by
    intro j hj
    obtain ⟨entry, hentry, rfl⟩ := List.mem_map.mp hj
    obtain ⟨item, hitem, hconverted⟩ := exists_mem_of_forall₂ (mapM_eq_ok.mp hpackages) entry hentry
    exact distinctNames_package (distinctNames_of_iterate hvalue hitems item hitem) hconverted
  have hrelated : ∀ j ∈ (relationships packages (sortedSet ids)).map
      (Relationship.toJson (N := N)), j.distinctNames = true := by
    intro j hj
    obtain ⟨relationship, -, rfl⟩ := List.mem_map.mp hj
    rfl
  have hnames : ["spdxVersion", "dataLicense", "SPDXID", "name", "documentNamespace",
      "creationInfo", "packages", "relationships"].Nodup := by decide
  rw [Sbom.toJson, Json.distinctNames_obj]
  refine ⟨hnames, ?_⟩
  simp only [List.forall_mem_cons, Json.distinctNames, Json.distinctNamesItems_iff.mpr hentries,
    Json.distinctNamesItems_iff.mpr hrelated, List.not_mem_nil, false_imp_iff, implies_true,
    and_self, and_true, true_and]
  rfl

/-- **One file for one SBOM.** Of any two accepted metadata, in which no dictionary has a name
twice, the file of the one begins the file of the other iff their SBOMs are the same: then both are
one file. So a file that was cut short is the SBOM of nothing. -/
theorem sbomFile_prefix_iff (hnum : LineTexts rt.num) {metadata metadata' : Json N}
    {documentName' : String} {sbom sbom' : Sbom N} (hn : metadata.distinctNames = true)
    (hn' : metadata'.distinctNames = true)
    (h : buildSbom rt numbers metadata documentName = .ok sbom)
    (h' : buildSbom rt numbers metadata' documentName' = .ok sbom') :
    ∃ bytes bytes', sbomFile rt numbers metadata documentName = .ok bytes ∧
      sbomFile rt numbers metadata' documentName' = .ok bytes' ∧
      (bytes <+: bytes' ↔ Json.Same sbom.toJson sbom'.toJson) ∧
      (bytes <+: bytes' → bytes = bytes') := by
  have hdistinct := distinctNames_sbom hn h
  have hdistinct' := distinctNames_sbom hn' h'
  have hsame : sbomBytes rt.num sbom <+: sbomBytes rt.num sbom' →
      sbom.toJson.sortKeys pyLe = sbom'.toJson.sortKeys pyLe :=
    printed_prefix_free escapes_ascii hnum
  have hbytes : sbom.toJson.sortKeys pyLe = sbom'.toJson.sortKeys pyLe →
      sbomBytes rt.num sbom = sbomBytes rt.num sbom' := by
    intro hsorted
    unfold sbomBytes
    rw [hsorted]
  refine ⟨_, _, map_eq_ok.mpr ⟨sbom, h, rfl⟩, map_eq_ok.mpr ⟨sbom', h', rfl⟩,
    ⟨fun hprefix => Json.same_of_sortKeys _ _ hdistinct' (hsame hprefix), fun hdocument => ?_⟩,
    fun hprefix => hbytes (hsame hprefix)⟩
  have hequal := hbytes (Json.sortKeys_of_same pyLe_total pyLe_trans pyLe_antisymm _ _ hdistinct
    hdistinct' hdocument)
  exact ⟨[], (List.append_nil _).trans hequal⟩

/-- The metadata of the client without its dependency, and with it. -/
def bareClient : Json Int := cargoMetadata [nlbootClient] [nlbootClient.id]

def fullClient : Json Int := cargoMetadata [nlbootClient, serdeJson] [nlbootClient.id]

theorem clientFiles_prefix : ∃ sbom sbom' bytes bytes',
    buildSbom pyRuntime pyNumbers bareClient "nlboot-client-sbom" = .ok sbom ∧
    buildSbom pyRuntime pyNumbers fullClient "nlboot-client-sbom" = .ok sbom' ∧
    sbomFile pyRuntime pyNumbers bareClient "nlboot-client-sbom" = .ok bytes ∧
    sbomFile pyRuntime pyNumbers fullClient "nlboot-client-sbom" = .ok bytes' ∧
    (bytes <+: bytes' ↔ Json.Same sbom.toJson sbom'.toJson) ∧
    (bytes <+: bytes' → bytes = bytes') := by
  obtain ⟨sbom, -, hsbom, -⟩ := (cargoDocument_cargoMetadata [nlbootClient]
    [nlbootClient.id]).exists_sbom pyRuntime pyNumbers "nlboot-client-sbom"
  obtain ⟨sbom', -, hsbom', -⟩ := (cargoDocument_cargoMetadata [nlbootClient, serdeJson]
    [nlbootClient.id]).exists_sbom pyRuntime pyNumbers "nlboot-client-sbom"
  obtain ⟨bytes, bytes', hfiles⟩ :=
    sbomFile_prefix_iff lineTexts_decimalInt (by decide) (by decide) hsbom hsbom'
  exact ⟨sbom, sbom', bytes, bytes', hsbom, hsbom', hfiles⟩

end Nlboot.Tools
