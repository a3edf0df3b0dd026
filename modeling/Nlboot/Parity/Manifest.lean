import Nlboot.Client.Planner
import Nlboot.Reference.Documents
import Nlboot.Reference.IsoTime

/-!
# What the client accepts and the reference refuses

The two validators of a manifest document: `SignedBootManifest` with `validate_manifest_shape`
(`main.rs`) and `SignedBootManifest.from_dict` (`protocol.py`), for a manifest whose signer's key is
one of `rsa-pss-sha256`.

The client checks the profile under `--require-fips` only and never looks at `boot_menu`. Serde
takes a derived struct from an array too, and `str::trim` leaves the separators `U+001C` to `U+001F`
that `str.strip` removes. Nothing else is missed.

* `ClientAccepts`, `ReferenceAccepts`: the two verdicts.
* `MissedChecks`: what the reference checks and the client does not.
* **`referenceAccepts_iff`**: when the reference accepts what the client accepts.
-/

namespace Nlboot.Parity

open Nlboot.Lib Nlboot.Reference

variable {N : Type}

/-- The client accepts the document, up to the verification of its signature with a key of
`rsa-pss-sha256`. -/
def ClientAccepts (requireFips : Bool) (document : Json N) : Prop :=
  ∃ manifest, Client.SignedBootManifest.deserialize document = some manifest ∧
    Client.validateManifestShape manifest requireFips = .ok () ∧
    manifest.signatureAlgorithm = Client.fipsReadyAlgorithm

/-- The reference accepts the document. -/
def ReferenceAccepts (rt : Runtime N) (document : Json N) : Prop :=
  ∃ (data : Members N) (manifest : SignedBootManifest), document = .obj data ∧
    SignedBootManifest.fromDict rt data = .ok manifest

/-- The `boot_menu` is absent, null, or a menu whose default entry boots what the manifest boots. -/
def MenuChecks (data : Members N) : Prop :=
  ∃ menu, MenuField data menu ∧ ∀ m ∈ menu, ∃ entry ∈ m.entries, entry.entryId = m.defaultEntryId ∧
    data.get "boot_release_set_id" = some (.str entry.bootReleaseSetId) ∧
    data.get "base_release_set_ref" = some (.str entry.releaseSetRef) ∧
    data.get "boot_mode" = some (.str entry.bootMode.text)

/-- The members that may be any text but a blank one. -/
def openTexts : List String :=
  ["manifest_id", "boot_release_set_id", "base_release_set_ref", "signer_ref", "signature_hex"]

/-- What the reference checks of an object and the client does not. The profile is checked by both
under `--require-fips`. -/
structure MissedChecks (requireFips : Bool) (data : Members N) : Prop where
  profile : requireFips = false → data.get "crypto_profile" = some (.str fipsReadyProfile)
  menu : MenuChecks data
  texts : ∀ name ∈ openTexts, ∀ text, data.get name = some (.str text) → blank text = false

/-! ## Texts -/

theorem bootMode_of_mem {mode : String} (h : mode ∈ Client.bootModes) :
    ∃ m : BootMode, mode = m.text := by
  simp only [Client.bootModes, List.mem_cons, List.not_mem_nil, or_false] at h
  obtain rfl | rfl | rfl | rfl := h
  · exact ⟨.installer, rfl⟩
  · exact ⟨.recovery, rfl⟩
  · exact ⟨.ephemeral, rfl⟩
  · exact ⟨.bootstrap, rfl⟩

theorem BootMode.text_injective {m m' : BootMode} (h : m.text = m'.text) : m = m' := by
  revert h
  cases m <;> cases m' <;> decide

/-- A signature reference is not blank. -/
theorem blank_of_startswith {s : String} (h : startswith s "urn:srcos:signature:" = true) :
    blank s = false := by
  obtain ⟨rest, hrest⟩ := List.isPrefixOf_iff_prefix.mp h
  unfold blank
  rw [← hrest]
  rfl

/-- A text that is blank to the client is not needed by the reference either. -/
theorem ne_empty_of_not_blank {s : String} (h : Client.blank s = false) : s ≠ "" := by
  rintro rfl
  exact absurd h (by decide)

/-! ## The verdicts -/

/-- The references a client's manifest has are those the reference requires. -/
theorem artifactsField_of_shaped {data refs : Members N} {manifest : Client.SignedBootManifest}
    {requireFips : Bool} (hshape : Client.Shaped manifest requireFips)
    (hrefs : data.get "artifacts" = some (.obj refs))
    (hmap : Client.decodeMap (.obj refs) = some manifest.artifacts)
    (hnodup : (refs.map Prod.fst).Nodup) : ArtifactsField data refs := by
  refine ⟨hrefs, fun key hkey => ?_⟩
  have hkey' : key ∈ Client.requiredRefs := by
    revert hkey
    simp only [requiredArtifacts, Client.requiredRefs, List.mem_cons, List.not_mem_nil]
    tauto
  obtain ⟨ref, hlookup, hblank⟩ := hshape.artifacts key hkey'
  exact ⟨ref, (Client.lookup_of_decodeMap hmap hnodup).mp hlookup, ne_empty_of_not_blank hblank⟩

theorem nodup_of_get {data refs : Members N} {name : String}
    (hdistinct : (Json.obj data).distinctNames = true) (h : data.get name = some (.obj refs)) :
    (refs.map Prod.fst).Nodup :=
  (Json.distinctNames_obj.mp (distinctNames_of_get hdistinct h)).1

/-- A manifest of the client as the reference holds it. -/
def asReference (rt : Runtime N) (manifest : Client.SignedBootManifest) (mode : BootMode)
    (refs : Members N) (menu : Option BootMenu) : SignedBootManifest where
  manifestId := manifest.manifestId
  bootReleaseSetId := manifest.bootReleaseSetId
  baseReleaseSetRef := manifest.baseReleaseSetRef
  bootMode := mode
  artifacts := refs.map fun m => (m.1, pyStr rt m.2)
  signatureRef := manifest.signatureRef
  signerRef := manifest.signerRef
  signatureAlgorithm := manifest.signatureAlgorithm
  cryptoProfile := manifest.cryptoProfile
  signatureHex := manifest.signatureHex
  bootMenu := menu

/-- A member holds one text. -/
theorem text_unique {data : Members N} {name text text' : String}
    (h : data.get name = some (.str text)) (h' : data.get name = some (.str text')) :
    text = text' :=
  Json.str.inj (Option.some.inj (h.symm.trans h'))

/-- What the reference accepts has passed the checks the client leaves out. -/
theorem missedChecks_of_manifestDoc {rt : Runtime N} {data : Members N}
    {manifest : SignedBootManifest} {requireFips : Bool} (h : ManifestDoc rt data manifest) :
    MissedChecks requireFips data where
  profile := fun _ => h.profile ▸ h.cryptoProfile.1
  menu := by
    refine ⟨_, h.bootMenu, fun m hm => ?_⟩
    obtain ⟨entry, hentry, hid, hrelease, hbase, hmode⟩ := h.defaultMatches m hm
    exact ⟨entry, hentry, hid, hrelease ▸ h.bootReleaseSetId.1, hbase ▸ h.baseReleaseSetRef.1,
      hmode ▸ h.bootMode.1⟩
  texts := by
    have held : ∀ {name text text'}, TextField data name text →
        data.get name = some (.str text') → blank text' = false := by
      rintro name text text' ⟨hget, hblank⟩ hget'
      rwa [← text_unique hget hget']
    simp only [openTexts, List.forall_mem_cons]
    exact ⟨fun _ => held h.manifestId, fun _ => held h.bootReleaseSetId,
      fun _ => held h.baseReleaseSetRef, fun _ => held h.signerRef, fun _ => held h.signatureHex,
      List.forall_mem_nil _⟩

/-- What the client accepts and passes the other checks is a manifest to the reference. -/
theorem manifestDoc_of_missedChecks (rt : Runtime N) {requireFips : Bool} {data : Members N}
    {manifest : Client.SignedBootManifest} (hdistinct : (Json.obj data).distinctNames = true)
    (hfrom : manifest.DecodedFrom data) (hshape : Client.Shaped manifest requireFips)
    (halg : manifest.signatureAlgorithm = Client.fipsReadyAlgorithm)
    (h : MissedChecks requireFips data) : ∃ accepted, ManifestDoc rt data accepted := by
  obtain ⟨refs, hrefs, hmap⟩ := hfrom.artifacts
  obtain ⟨mode, hmode⟩ := bootMode_of_mem hshape.bootMode
  obtain ⟨menu, hmenu, hmatch⟩ := h.menu
  have hprof : manifest.cryptoProfile = fipsReadyProfile := by
    cases requireFips with
    | true => exact (hshape.fips rfl).2
    | false => exact text_unique hfrom.cryptoProfile (h.profile rfl)
  have halgText : blank manifest.signatureAlgorithm = false := by rw [halg]; decide
  have hprofText : blank manifest.cryptoProfile = false := by rw [hprof]; decide
  have hmodeText : TextField data "boot_mode" mode.text :=
    ⟨hmode ▸ hfrom.bootMode, blank_bootMode mode⟩
  have hart := artifactsField_of_shaped hshape hrefs hmap (nodup_of_get hdistinct hrefs)
  have hopen : ∀ {name text}, name ∈ openTexts → data.get name = some (.str text) →
      TextField data name text := fun hname hget => ⟨hget, h.texts _ hname _ hget⟩
  refine ⟨asReference rt manifest mode refs menu,
    { manifestId := hopen (by decide) hfrom.manifestId
      bootReleaseSetId := hopen (by decide) hfrom.bootReleaseSetId
      baseReleaseSetRef := hopen (by decide) hfrom.baseReleaseSetRef
      signatureRef := ⟨hfrom.signatureRef, blank_of_startswith hshape.signatureRef⟩
      signerRef := hopen (by decide) hfrom.signerRef
      signatureAlgorithm := ⟨hfrom.signatureAlgorithm, halgText⟩
      cryptoProfile := ⟨hfrom.cryptoProfile, hprofText⟩
      signatureHex := hopen (by decide) hfrom.signatureHex
      algorithm := halg
      profile := hprof
      bootMode := hmodeText
      artifacts := ⟨refs, hart, rfl⟩
      signatureUrn := hshape.signatureRef
      bootMenu := hmenu
      defaultMatches := fun m hm => ?_ }⟩
  obtain ⟨entry, hentry, hid, hrelease, hbase, hentryMode⟩ := hmatch m hm
  exact ⟨entry, hentry, hid, text_unique hrelease hfrom.bootReleaseSetId,
    text_unique hbase hfrom.baseReleaseSetRef,
    BootMode.text_injective (text_unique hentryMode hmodeText.1)⟩

/-- **What the client accepts and the reference refuses.** Of the documents the client accepts, the
reference accepts those that are objects and pass the checks the client leaves out. -/
theorem referenceAccepts_iff (rt : Runtime N) (requireFips : Bool) {document : Json N}
    (hdistinct : document.distinctNames = true) (h : ClientAccepts requireFips document) :
    ReferenceAccepts rt document ↔
      ∃ data : Members N, document = .obj data ∧ MissedChecks requireFips data := by
  obtain ⟨manifest, hdecode, hshape, halg⟩ := h
  rw [Client.validateManifestShape_eq_ok] at hshape
  constructor
  · rintro ⟨data, accepted, rfl, haccepted⟩
    exact ⟨data, rfl, missedChecks_of_manifestDoc (SignedBootManifest.fromDict_eq_ok.mp haccepted)⟩
  · rintro ⟨data, rfl, hmissed⟩
    have hfrom := Client.SignedBootManifest.decodedFrom hdecode
    obtain ⟨accepted, hdoc⟩ := manifestDoc_of_missedChecks rt hdistinct hfrom hshape halg hmissed
    exact ⟨data, accepted, rfl, SignedBootManifest.fromDict_eq_ok.mpr hdoc⟩

/-! ## Two manifests -/

/-- The members of a recovery manifest with this `boot_menu`. -/
def recoveryMembers (bootMenu : Json Int) : Members Int := [
  ("manifest_id", .str "urn:srcos:boot-manifest:m2-demo-recovery"),
  ("boot_release_set_id", .str "urn:srcos:boot-release-set:m2-demo-recovery"),
  ("base_release_set_ref", .str "urn:srcos:release-set:m2-demo"),
  ("boot_mode", .str "recovery"),
  ("artifacts", .obj [
    ("kernel_ref", .str "urn:srcos:artifact:m2-demo-recovery-kernel"),
    ("initrd_ref", .str "urn:srcos:artifact:m2-demo-recovery-initrd"),
    ("rootfs_ref", .str "urn:srcos:artifact:m2-demo-recovery-rootfs")]),
  ("signature_ref", .str "urn:srcos:signature:m2-demo-recovery"),
  ("signer_ref", .str "urn:srcos:key:m2-demo"),
  ("signature_algorithm", .str "rsa-pss-sha256"),
  ("crypto_profile", .str "fips-140-3-compatible"),
  ("signature_hex", .str "00"),
  ("boot_menu", bootMenu)]

/-- A recovery manifest with this `boot_menu`. -/
def recoveryManifest (bootMenu : Json Int) : Json Int := .obj (recoveryMembers bootMenu)

theorem recoveryMembers_bootMenu (bootMenu : Json Int) :
    (recoveryMembers bootMenu).get "boot_menu" = some bootMenu := rfl

/-- The client accepts the manifest whatever its menu is. -/
theorem clientAccepts_recoveryManifest (bootMenu : Json Int) (requireFips : Bool) :
    ClientAccepts requireFips (recoveryManifest bootMenu) := by
  refine ⟨_, rfl, Client.validateManifestShape_eq_ok.mpr ?_, rfl⟩
  exact ⟨by decide, by decide, by decide, by decide, by decide, by decide, fun _ => ⟨rfl, rfl⟩,
    by decide, by decide⟩

/-- Without a menu both accept it. -/
theorem noMenu_accepted : ReferenceAccepts pyRuntime (recoveryManifest .null) := by
  refine (referenceAccepts_iff pyRuntime false (by decide)
    (clientAccepts_recoveryManifest .null false)).mpr ⟨_, rfl, fun _ => rfl, ?_, ?_⟩
  · exact ⟨none, .inl ⟨.inr rfl, rfl⟩, fun _ hm => absurd hm (by simp)⟩
  · intro name hname text htext
    simp only [openTexts, List.mem_cons, List.not_mem_nil, or_false] at hname
    obtain rfl | rfl | rfl | rfl | rfl := hname <;>
      (obtain rfl := Json.str.inj (Option.some.inj htext); decide)

/-- With a menu that has no entries the client accepts it under either setting, and the reference
does not. -/
theorem emptyMenu_refused :
    (∀ requireFips, ClientAccepts requireFips (recoveryManifest (.obj []))) ∧
      ¬ ReferenceAccepts pyRuntime (recoveryManifest (.obj [])) := by
  refine ⟨clientAccepts_recoveryManifest _, ?_⟩
  rintro ⟨data, manifest, hdata, haccepted⟩
  obtain rfl := Json.obj.inj hdata
  have hdoc := SignedBootManifest.fromDict_eq_ok.mp haccepted
  have hfield := hdoc.bootMenu
  unfold MenuField at hfield
  rw [recoveryMembers_bootMenu] at hfield
  obtain ⟨hnone | hnull, -⟩ | ⟨doc, menu, hget, hmenu, -⟩ := hfield
  · exact absurd hnone (by simp)
  · exact absurd hnull (by simp)
  · obtain rfl := Json.obj.inj (Option.some.inj hget)
    exact absurd hmenu.menuId.1 (by simp [Members.get])

end Nlboot.Parity
