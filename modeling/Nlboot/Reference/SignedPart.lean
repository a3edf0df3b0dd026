import Nlboot.Lib.JsonCode
import Nlboot.Reference.Documents
import Nlboot.Reference.IsoTime

/-!
# What the signature of a manifest covers

`canonical_payload` (`verify.py`) leaves `signature_hex` out and sorts the rest, so two documents
with one payload are the same but for that member, as values: the order of their members is free.
What `from_dict` and `build_boot_plan` (`protocol.py`) make of them is the same too, with one
exception. `from_dict` renders an artifact that is no string with `str`, and `str` of a dictionary
lists the members in the order of the document.

One payload is also written for a string with a character above `U+FFFF` and for the string with
its surrogates split, so the documents have no split pairs in their strings.

* `Reordered`: the same value with members in another order somewhere.
* `SamePlans`: two results of `build_boot_plan` differ in the texts of reordered artifacts at most.

Results:
* `same_of_canonicalPayload`: documents with one payload have the same signed part.
* `manifestDoc_same`: a document with the same signed part describes the same manifest.
* **`signature_covers`**: documents with one payload have the same plans.
* `reorderedArtifact_changesPlan`: an artifact whose text depends on the order, and a release whose
  name has a pair split.
-/

namespace Nlboot.Reference

open Nlboot.Lib

variable {N : Type}

/-- The same value, with the members of some object in another order. -/
def Reordered (value value' : Json N) : Prop := Json.Same value value' ∧ value ≠ value'

/-- Both plans are refused with the same error, or they are the same dictionary but for the texts of
artifacts that the two documents list the members of in different orders. -/
def SamePlans (data data' : Members N) (result result' : Except PyError BootPlan) : Prop :=
  (∃ e, result = .error e ∧ result' = .error e) ∨
    ∃ plan plan', result = .ok plan ∧ result' = .ok plan' ∧
      (∀ key ≠ "artifacts", (plan.toDict : Members N).get key = plan'.toDict.get key) ∧
      ∀ name, plan.artifacts.lookup name = plan'.artifacts.lookup name ∨
        ∃ refs refs' value value', data.get "artifacts" = some (.obj refs) ∧
          data'.get "artifacts" = some (.obj refs') ∧ Members.get refs name = some value ∧
          Members.get refs' name = some value' ∧ Reordered value value'

/-! ## The payload -/

section

variable {S : Type} [PyText S] [DecidableEq S]

theorem nodup_signedPart (manifest : JsonObject N S) :
    ((signedPart manifest.members).map Prod.fst).Nodup :=
  (Json.distinctNames_obj.mp manifest.distinct).1.sublist (List.filter_sublist.map _)

theorem distinctNames_signedPart (manifest : JsonObject N S) :
    (Json.obj (signedPart manifest.members)).distinctNames = true := by
  refine Json.distinctNames_obj.mpr ⟨nodup_signedPart manifest, fun m hm => ?_⟩
  exact (Json.distinctNames_obj.mp manifest.distinct).2 m (List.mem_filter.mp hm).1

/-- **One payload, one signed part**, of documents whose strings are written one to one. -/
theorem same_of_canonicalPayload (hcode : TextCode (pyLiteral : S → List Char))
    {num : N → List Char} (hnum : NumberTexts num) {manifest manifest' : JsonObject N S}
    (h : canonicalPayload num manifest.members = canonicalPayload num manifest'.members) :
    Json.Same (.obj (signedPart manifest.members)) (.obj (signedPart manifest'.members)) := by
  have hsorted := compact_injective hcode hnum (utf8_injective h)
  exact Json.same_of_sortKeys _ _ (distinctNames_signedPart manifest') hsorted

end

theorem get_signedPart (data : Members N) {name : String} (h : name ≠ "signature_hex") :
    Members.get (signedPart data) name = data.get name := by
  unfold signedPart Members.get
  induction data with
  | nil => rfl
  | cons m data ih =>
    rw [List.filter_cons]
    by_cases hm : m.1 = "signature_hex"
    · rw [if_neg (by simpa using hm), List.lookup_cons, ih]
      rw [beq_eq_false_iff_ne.mpr (fun heq => h (heq.trans hm))]
    · rw [if_pos (by simpa using hm), List.lookup_cons, List.lookup_cons, ih]

/-! ## Documents with the same members -/

/-- The members under the name are the same value, or both missing. -/
def SameField (data data' : Members N) (name : String) : Prop :=
  Option.Rel Json.Same (data.get name) (data'.get name)

section

variable {data data' : Members N} {name : String}

theorem SameField.present (h : SameField data data' name) {value : Json N}
    (hget : data.get name = some value) :
    ∃ value', data'.get name = some value' ∧ Json.Same value value' := by
  unfold SameField at h
  rw [hget] at h
  cases hget' : data'.get name with
  | none => rw [hget'] at h; cases h
  | some value' =>
    rw [hget'] at h
    cases h with
    | some hsame => exact ⟨value', rfl, hsame⟩

theorem SameField.missing (h : SameField data data' name) (hget : data.get name = none) :
    data'.get name = none := by
  unfold SameField at h
  rw [hget] at h
  cases hget' : data'.get name with
  | none => rfl
  | some value' => rw [hget'] at h; cases h

/-- Values without members are the same only if they are equal. -/
theorem SameField.scalar (h : SameField data data' name) {value : Json N}
    (hget : data.get name = some value)
    (hscalar : ∀ value', Json.Same value value' → value' = value) :
    data'.get name = some value := by
  obtain ⟨value', hget', hsame⟩ := h.present hget
  rw [hget', hscalar value' hsame]

theorem textField_same (h : SameField data data' name) {text : String}
    (hfield : TextField data name text) : TextField data' name text :=
  ⟨h.scalar hfield.1 fun _ => Json.same_str.mp, hfield.2⟩

theorem flagField_same (h : SameField data data' name) {flag : Bool}
    (hfield : FlagField data name flag) : FlagField data' name flag := by
  rcases hfield with hget | ⟨hget, hflag⟩
  · refine Or.inl (h.scalar hget fun value' hsame => ?_)
    cases value' with
    | bool b => exact congrArg Json.bool (Eq.symm hsame)
    | null | num | str | arr | obj => exact hsame.elim
  · exact Or.inr ⟨h.missing hget, hflag⟩

end

/-- The same objects have the same field under every name. -/
theorem sameField_of_same {data data' : Members N} (hn : (Json.obj data).distinctNames = true)
    (h : Json.Same (.obj data) (.obj data')) (name : String) : SameField data data' name :=
  h.get (Json.distinctNames_obj.mp hn).1 name

/-! ## Boot menus -/

theorem entryDoc_same {data data' : Members N} {entry : BootMenuEntry}
    (h : ∀ name, SameField data data' name) (hdoc : EntryDoc data entry) :
    EntryDoc data' entry where
  entryId := textField_same (h _) hdoc.entryId
  label := textField_same (h _) hdoc.label
  bootReleaseSetId := textField_same (h _) hdoc.bootReleaseSetId
  releaseSetRef := textField_same (h _) hdoc.releaseSetRef
  bootMode := textField_same (h _) hdoc.bootMode
  role := textField_same (h _) hdoc.role
  default := flagField_same (h _) hdoc.default
  rollbackEligible := flagField_same (h _) hdoc.rollbackEligible
  rollback := hdoc.rollback

theorem entryItem_same {item item' : Json N} {entry : BootMenuEntry}
    (hn : item.distinctNames = true) (h : Json.Same item item') (hitem : EntryItem item entry) :
    EntryItem item' entry := by
  obtain ⟨data, rfl, hdoc⟩ := hitem
  cases item' with
  | obj data' => exact ⟨data', rfl, entryDoc_same (sameField_of_same hn h) hdoc⟩
  | null | bool | num | str | arr => exact h.elim

/-- The same items describe the same entries. -/
theorem entryItems_same {items items' : List (Json N)} {entries : List BootMenuEntry}
    (hn : ∀ item ∈ items, item.distinctNames = true) (h : List.Forall₂ Json.Same items items')
    (hitems : List.Forall₂ EntryItem items entries) : List.Forall₂ EntryItem items' entries := by
  induction h generalizing entries with
  | nil => exact hitems
  | cons hsame _ ih =>
    obtain ⟨entry, rest, hentry, hrest, rfl⟩ := List.forall₂_cons_left_iff.mp hitems
    refine .cons (entryItem_same (hn _ List.mem_cons_self) hsame hentry) ?_
    exact ih (fun item hitem => hn item (List.mem_cons_of_mem _ hitem)) hrest

theorem menuDoc_same {data data' : Members N} {menu : BootMenu}
    (hn : (Json.obj data).distinctNames = true) (h : Json.Same (.obj data) (.obj data'))
    (hdoc : MenuDoc data menu) : MenuDoc data' menu where
  menuId := textField_same (sameField_of_same hn h _) hdoc.menuId
  defaultEntryId := textField_same (sameField_of_same hn h _) hdoc.defaultEntryId
  entries := by
    obtain ⟨items, hget, hitems⟩ := hdoc.entries
    obtain ⟨value', hget', hsame⟩ := (sameField_of_same hn h "entries").present hget
    cases value' with
    | arr items' =>
      refine ⟨items', hget', entryItems_same ?_ (Json.sameItems_iff.mp hsame) hitems⟩
      exact Json.distinctNames_arr.mp (distinctNames_of_get hn hget)
    | null | bool | num | str | obj => exact hsame.elim
  distinct := hdoc.distinct
  default_mem := hdoc.default_mem
  marked := hdoc.marked

theorem menuField_same {data data' : Members N} {menu : Option BootMenu}
    (hn : (Json.obj data).distinctNames = true) (h : SameField data data' "boot_menu")
    (hfield : MenuField data menu) : MenuField data' menu := by
  rcases hfield with ⟨hnone | hnull, rfl⟩ | ⟨doc, m, hget, hdoc, rfl⟩
  · exact Or.inl ⟨Or.inl (h.missing hnone), rfl⟩
  · refine Or.inl ⟨Or.inr (h.scalar hnull fun value' hsame => ?_), rfl⟩
    cases value' with
    | null => rfl
    | bool | num | str | arr | obj => exact hsame.elim
  · obtain ⟨value', hget', hsame⟩ := h.present hget
    cases value' with
    | obj doc' =>
      exact Or.inr ⟨doc', m, hget', menuDoc_same (distinctNames_of_get hn hget) hsame hdoc, rfl⟩
    | null | bool | num | str | arr => exact hsame.elim

/-! ## Manifests -/

/-- The artifacts of the same object: the same names, and values that differ in order at most. -/
theorem artifacts_same {data data' : Members N}
    (h : SameField data data' "artifacts") {refs : Members N}
    (hfield : ArtifactsField data refs) (hn : (Json.obj data).distinctNames = true) :
    ∃ refs', ArtifactsField data' refs' ∧ ∀ name, SameField refs refs' name := by
  obtain ⟨hget, hrequired⟩ := hfield
  obtain ⟨value', hget', hsame⟩ := h.present hget
  cases value' with
  | obj refs' =>
    have hrefs := sameField_of_same (distinctNames_of_get hn hget) hsame
    refine ⟨refs', ⟨hget', fun key hkey => ?_⟩, hrefs⟩
    obtain ⟨ref, href, hne⟩ := hrequired key hkey
    exact ⟨ref, (hrefs key).scalar href fun _ => Json.same_str.mp, hne⟩
  | null | bool | num | str | arr => exact hsame.elim

/-- **A document with the same signed part** describes the same manifest, with its own signature and
artifacts. -/
theorem manifestDoc_same {rt : Runtime N} {data data' : Members N} {manifest : SignedBootManifest}
    {signatureHex : String} (hn : (Json.obj data).distinctNames = true)
    (h : ∀ name ≠ "signature_hex", SameField data data' name)
    (hhex : TextField data' "signature_hex" signatureHex) (hdoc : ManifestDoc rt data manifest) :
    ∃ refs refs', data.get "artifacts" = some (.obj refs) ∧
      manifest.artifacts = refs.map (fun m => (m.1, pyStr rt m.2)) ∧
      data'.get "artifacts" = some (.obj refs') ∧ (∀ name, SameField refs refs' name) ∧
      ManifestDoc rt data' { manifest with
        signatureHex, artifacts := refs'.map fun m => (m.1, pyStr rt m.2) } := by
  obtain ⟨refs, hfield, hmap⟩ := hdoc.artifacts
  obtain ⟨refs', hfield', hrefs⟩ := artifacts_same (h _ (by decide)) hfield hn
  refine ⟨refs, refs', hfield.1, hmap, hfield'.1, hrefs, ?_⟩
  exact
    { manifestId := textField_same (h _ (by decide)) hdoc.manifestId
      bootReleaseSetId := textField_same (h _ (by decide)) hdoc.bootReleaseSetId
      baseReleaseSetRef := textField_same (h _ (by decide)) hdoc.baseReleaseSetRef
      signatureRef := textField_same (h _ (by decide)) hdoc.signatureRef
      signerRef := textField_same (h _ (by decide)) hdoc.signerRef
      signatureAlgorithm := textField_same (h _ (by decide)) hdoc.signatureAlgorithm
      cryptoProfile := textField_same (h _ (by decide)) hdoc.cryptoProfile
      signatureHex := hhex
      algorithm := hdoc.algorithm
      profile := hdoc.profile
      bootMode := textField_same (h _ (by decide)) hdoc.bootMode
      artifacts := ⟨refs', hfield', rfl⟩
      signatureUrn := hdoc.signatureUrn
      bootMenu := menuField_same hn (h _ (by decide)) hdoc.bootMenu
      defaultMatches := hdoc.defaultMatches }

/-- The planner reads neither the signature nor the artifacts: it only copies the latter. -/
theorem buildBootPlan_with (rt : Runtime N) (clock : UtcTime) (now : Option Moment)
    (manifest : SignedBootManifest) (token : EnrollmentToken N) (signatureHex : String)
    (artifacts : List (String × String)) :
    buildBootPlan rt clock now { manifest with signatureHex, artifacts } token =
      (fun plan => { plan with artifacts }) <$> buildBootPlan rt clock now manifest token := by
  have hvalid : token.validateForManifest rt clock now { manifest with signatureHex, artifacts } =
      token.validateForManifest rt clock now manifest := rfl
  have hselect : selectEntry { manifest with signatureHex, artifacts } = selectEntry manifest := rfl
  unfold buildBootPlan
  rw [hvalid, hselect]
  cases token.validateForManifest rt clock now manifest with
  | error e => rfl
  | ok _ =>
    cases selectEntry manifest with
    | error e => rfl
    | ok selected => rfl

/-- The dictionaries of plans that differ in the artifacts differ under no other key. -/
theorem get_toDict_with (plan : BootPlan) (artifacts : List (String × String)) {key : String}
    (h : key ≠ "artifacts") :
    ({ plan with artifacts }.toDict : Members N).get key = plan.toDict.get key := by
  unfold BootPlan.toDict Members.get
  simp only [List.lookup_cons, beq_eq_false_iff_ne.mpr h]

/-- Manifests with the same signed part have the same plans, or are refused alike. -/
theorem samePlans_of_same {rt : Runtime N} {document document' : JsonObject N}
    {manifest manifest' : SignedBootManifest}
    (hsame : Json.Same (.obj (signedPart document.members)) (.obj (signedPart document'.members)))
    (hmanifest : SignedBootManifest.fromDict rt document.members = .ok manifest)
    (hmanifest' : SignedBootManifest.fromDict rt document'.members = .ok manifest')
    (clock : UtcTime) (now : Option Moment) (token : EnrollmentToken N) :
    SamePlans document.members document'.members (buildBootPlan rt clock now manifest token)
      (buildBootPlan rt clock now manifest' token) := by
  have hfields : ∀ name ≠ "signature_hex", SameField document.members document'.members name := by
    intro name hname
    have hget := hsame.get (nodup_signedPart document) name
    rwa [get_signedPart _ hname, get_signedPart _ hname] at hget
  have hdoc' := SignedBootManifest.fromDict_eq_ok.mp hmanifest'
  obtain ⟨refs, refs', hget, hmap, hget', hrefs, hdoc⟩ := manifestDoc_same document.distinct hfields
    hdoc'.signatureHex (SignedBootManifest.fromDict_eq_ok.mp hmanifest)
  have heq := Except.ok.inj (hmanifest'.symm.trans (SignedBootManifest.fromDict_eq_ok.mpr hdoc))
  rw [heq, buildBootPlan_with rt clock now manifest token manifest'.signatureHex]
  cases hplan : buildBootPlan rt clock now manifest token with
  | error e => exact Or.inl ⟨e, rfl, rfl⟩
  | ok plan =>
    refine Or.inr ⟨plan, _, rfl, rfl, fun key hkey => (get_toDict_with plan _ hkey).symm, ?_⟩
    intro name
    have hartifacts : plan.artifacts = refs.map fun m => (m.1, pyStr rt m.2) := by
      rw [← hmap,
        ((buildBootPlan_eq_ok (SignedBootManifest.fromDict_eq_ok.mp hmanifest)).mp hplan).2]
      rfl
    rw [hartifacts]
    simp only [lookup_map_value (pyStr rt)]
    cases hvalue : Members.get refs name with
    | none =>
      have hvalue' := (hrefs name).missing hvalue
      exact Or.inl (by rw [show refs.lookup name = none from hvalue,
        show refs'.lookup name = none from hvalue'])
    | some value =>
      obtain ⟨value', hvalue', hvalues⟩ := (hrefs name).present hvalue
      by_cases hequal : value = value'
      · subst hequal
        exact Or.inl (by rw [show refs.lookup name = some value from hvalue,
          show refs'.lookup name = some value from hvalue'])
      · exact Or.inr ⟨refs, refs', value, value', hget, hget', hvalue, hvalue', hvalues, hequal⟩

/-- **What a signature covers.** Documents of strings without split pairs that have one payload are
the same but for `signature_hex`. Where both are manifests, of Unicode texts, `build_boot_plan`
refuses both with one error or makes the same plan of both, but for the texts of artifacts whose
members the documents list in different orders. -/
theorem signature_covers {rt : Runtime N} (hnum : NumberTexts rt.num) :
    (∀ document document' : JsonObject N JoinedText,
      canonicalPayload rt.num document.members = canonicalPayload rt.num document'.members →
        Json.Same (.obj (signedPart document.members)) (.obj (signedPart document'.members))) ∧
    ∀ document document' : JsonObject N,
      canonicalPayload rt.num document.members = canonicalPayload rt.num document'.members →
        Json.Same (.obj (signedPart document.members)) (.obj (signedPart document'.members)) ∧
        ∀ manifest manifest', SignedBootManifest.fromDict rt document.members = .ok manifest →
          SignedBootManifest.fromDict rt document'.members = .ok manifest' →
          ∀ clock now token, SamePlans document.members document'.members
            (buildBootPlan rt clock now manifest token)
            (buildBootPlan rt clock now manifest' token) := by
  refine ⟨fun _ _ => same_of_canonicalPayload textCode_pyLiteral hnum,
    fun document document' h => ?_⟩
  have hsame := same_of_canonicalPayload textCode_string hnum h
  exact ⟨hsame, fun manifest manifest' hmanifest hmanifest' clock now token =>
    samePlans_of_same hsame hmanifest hmanifest' clock now token⟩

/-! ## A pair that is split -/

/-- A manifest document that names this release. -/
def releaseOf (text : List CodePoint) : JsonObject Int (List CodePoint) where
  members := [(PyText.ofString "boot_release_set_id", .str text)]
  distinct := by simp [Json.distinctNames, Json.distinctNamesMembers]

/-- Its payload shows no more of the release than how it is written. -/
theorem canonicalPayload_releaseOf {num : Int → List Char} {text text' : List CodePoint}
    (h : pyLiteral text = pyLiteral text') :
    canonicalPayload num (releaseOf text).members =
      canonicalPayload num (releaseOf text').members := by
  have hdumps : ∀ text, canonicalPayload num (releaseOf text).members = utf8 (['\x7b'] ++
      [','].intercalate [pyLiteral (PyText.ofString "boot_release_set_id" : List CodePoint) ++
        [':'] ++ pyLiteral text] ++ ['\x7d']) := fun _ => rfl
  rw [hdumps, hdumps, h]

/-! ## An artifact whose text depends on the order -/

mutual

/-- `repr` of a JSON value. -/
def reprValue : Json Int → String
  | .null => "None"
  | .bool b => if b then "True" else "False"
  | .num n => String.ofList (decimalInt n)
  | .str s => quotedRepr s
  | .arr items => "[" ++ ", ".intercalate (reprItems items) ++ "]"
  | .obj members => "\x7b" ++ ", ".intercalate (reprMembers members) ++ "\x7d"

def reprItems : List (Json Int) → List String
  | [] => []
  | j :: items => reprValue j :: reprItems items

def reprMembers : Members Int → List String
  | [] => []
  | (name, j) :: members => (quotedRepr name ++ ": " ++ reprValue j) :: reprMembers members

end

/-- The runtime with `str` of lists and dictionaries. -/
def reprRuntime : Runtime Int := { pyRuntime with str := reprValue }

/-- A manifest with one artifact more, which is no string. -/
def extraManifest (extra : Json Int) : Members Int := [
  ("manifest_id", .str "urn:srcos:boot-manifest:demo"),
  ("boot_release_set_id", .str "boot-release-set-1"),
  ("base_release_set_ref", .str "release-set-1"),
  ("boot_mode", .str "ephemeral"),
  ("artifacts", .obj [("kernel_ref", .str "kernel"), ("initrd_ref", .str "initrd"),
    ("rootfs_ref", .str "rootfs"), ("extra", extra)]),
  ("signature_ref", .str "urn:srcos:signature:demo"),
  ("signer_ref", .str "urn:srcos:key:demo"),
  ("signature_algorithm", .str "rsa-pss-sha256"),
  ("crypto_profile", .str "fips-140-3-compatible"),
  ("signature_hex", .str "00")]

/-- The manifest it parses to. -/
def extraParsed (extra : Json Int) : SignedBootManifest where
  manifestId := "urn:srcos:boot-manifest:demo"
  bootReleaseSetId := "boot-release-set-1"
  baseReleaseSetRef := "release-set-1"
  bootMode := .ephemeral
  artifacts := [("kernel_ref", "kernel"), ("initrd_ref", "initrd"), ("rootfs_ref", "rootfs"),
    ("extra", pyStr reprRuntime extra)]
  signatureRef := "urn:srcos:signature:demo"
  signerRef := "urn:srcos:key:demo"
  signatureAlgorithm := "rsa-pss-sha256"
  cryptoProfile := "fips-140-3-compatible"
  signatureHex := "00"
  bootMenu := none

/-- A boot token for it. -/
def extraToken : EnrollmentToken Int where
  tokenId := "token-1"
  purpose := .boot
  subjectKind := "device"
  subjectId := none
  releaseSetRef := some (.str "release-set-1")
  bootReleaseSetRef := some (.str "boot-release-set-1")
  oneTimeUse := true
  issuedAt := newYear
  expiresAt := ⟨newYear.micros + 900000000, inRange_expiry⟩
  status := .issued

/-- Two spellings of one value. -/
def inOrder : Json Int := .obj [("a", .num 1), ("b", .num 2)]

def outOfOrder : Json Int := .obj [("b", .num 2), ("a", .num 1)]

theorem fromDict_extraManifest (extra : Json Int) :
    SignedBootManifest.fromDict reprRuntime (extraManifest extra) = .ok (extraParsed extra) := rfl

theorem canonicalPayload_extraManifest :
    canonicalPayload reprRuntime.num (extraManifest inOrder) =
      canonicalPayload reprRuntime.num (extraManifest outOfOrder) := by
  have hsorted : (Json.obj (signedPart (extraManifest inOrder))).sortKeys pyLe =
      (Json.obj (signedPart (extraManifest outOfOrder))).sortKeys pyLe := rfl
  unfold canonicalPayload jsonDumps
  rw [hsorted]

/-- The two manifests as documents. -/
def inOrderDocument : JsonObject Int := ⟨extraManifest inOrder, by decide⟩

def outOfOrderDocument : JsonObject Int := ⟨extraManifest outOfOrder, by decide⟩

/-- Their signed parts are the same, and so are their plans but for the artifact. -/
theorem extraManifest_covered :
    Json.Same (.obj (signedPart inOrderDocument.members))
        (.obj (signedPart outOfOrderDocument.members)) ∧
      ∀ manifest manifest',
        SignedBootManifest.fromDict reprRuntime inOrderDocument.members = .ok manifest →
        SignedBootManifest.fromDict reprRuntime outOfOrderDocument.members = .ok manifest' →
        ∀ clock now token, SamePlans inOrderDocument.members outOfOrderDocument.members
          (buildBootPlan reprRuntime clock now manifest token)
          (buildBootPlan reprRuntime clock now manifest' token) :=
  (signature_covers numberTexts_decimalInt).2 _ _ canonicalPayload_extraManifest

/-- Two documents with one payload and different plans; and two with one payload that name different
releases, as a pair of surrogates is split in one of them. -/
theorem reorderedArtifact_changesPlan :
    NumberTexts reprRuntime.num ∧
      canonicalPayload reprRuntime.num (extraManifest inOrder) =
        canonicalPayload reprRuntime.num (extraManifest outOfOrder) ∧
      SignedBootManifest.fromDict reprRuntime (extraManifest inOrder) = .ok (extraParsed inOrder) ∧
      SignedBootManifest.fromDict reprRuntime (extraManifest outOfOrder) =
        .ok (extraParsed outOfOrder) ∧
      (∃ plan plan',
        buildBootPlan reprRuntime newYear none (extraParsed inOrder) extraToken = .ok plan ∧
        buildBootPlan reprRuntime newYear none (extraParsed outOfOrder) extraToken = .ok plan' ∧
        plan.artifacts.lookup "extra" ≠ plan'.artifacts.lookup "extra") ∧
      canonicalPayload reprRuntime.num (releaseOf splitEmoji).members =
        canonicalPayload reprRuntime.num (releaseOf emoji).members ∧
      (releaseOf splitEmoji).members.get (codePoints "boot_release_set_id") ≠
        (releaseOf emoji).members.get (codePoints "boot_release_set_id") := by
  refine ⟨numberTexts_decimalInt, canonicalPayload_extraManifest, fromDict_extraManifest _,
    fromDict_extraManifest _, ⟨_, _, rfl, rfl, by decide⟩,
    canonicalPayload_releaseOf pyLiteral_splitEmoji, fun h => ?_⟩
  exact splitEmoji_ne (Json.str.inj (Option.some.inj h))

end Nlboot.Reference
