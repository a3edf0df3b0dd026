import Nlboot.Reference.Protocol

/-!
# What the parsers accept

The grammar of the documents, stated without the parsers: a relation between a JSON object and
the record it describes. The parsers of `protocol.py` are then proved to succeed with a record
exactly when the object describes it, so later proofs cite the grammar and never unfold a parser.

* `TextField`, `FlagField`, `TimeField`: the three kinds of member.
* `EntryDoc`, `MenuDoc`, `ManifestDoc`, `TokenDoc`: the documents.
* `DefaultMatches`, `Authorises`, `planFor`: a menu and its manifest, a token and its manifest,
  and the plan for both.

Results:
* `BootMenuEntry.fromDict_eq_ok`, **`BootMenu.fromDict_eq_ok`**: menus.
* **`SignedBootManifest.fromDict_eq_ok`**, **`EnrollmentToken.fromDict_eq_ok`**: the signed
  documents.
* **`buildBootPlan_eq_ok`**: the plan exists iff the token authorises the manifest.
-/

namespace Nlboot.Reference

open Nlboot.Lib

variable {N : Type}

/-! ## Members -/

/-- The member is a string that is not blank. -/
def TextField (data : Members N) (key text : String) : Prop :=
  data.get key = some (.str text) ∧ blank text = false

/-- The member is a boolean, or absent and then false. -/
def FlagField (data : Members N) (key : String) (flag : Bool) : Prop :=
  data.get key = some (.bool flag) ∨ data.get key = none ∧ flag = false

/-- The member is a timestamp with an offset, of an instant that is a UTC `datetime`. -/
def TimeField (rt : Runtime N) (data : Members N) (key : String) (time : UtcTime) : Prop :=
  ∃ text, TextField data key text ∧ ∃ t, awareTime rt text = some t ∧ t.toUtc = some time

theorem requireString_iff {raise : String → PyError} {data : Members N} {key text : String} :
    requireString raise data key = .ok text ↔ TextField data key text :=
  requireString_eq_ok

theorem boolField_iff {error : PyError} {data : Members N} {key : String} {flag : Bool} :
    boolField error (data.get key) = .ok flag ↔ FlagField data key flag := by
  unfold boolField FlagField
  split
  · rename_i h
    simp only [h, pure_eq_ok, reduceCtorEq, true_and, false_or]
    exact eq_comm
  · rename_i b h
    simp [h]
  · rename_i v hne h
    simp only [h, throw_ne_ok, Option.some.injEq, reduceCtorEq, false_and, or_false, false_iff]
    exact fun hv => hne flag hv

theorem blank_bootMode (mode : BootMode) : blank mode.text = false := by
  cases mode <;> decide

theorem blank_purpose (purpose : TokenPurpose) : blank purpose.text = false := by
  cases purpose <;> decide

/-! ## Boot menus -/

/-- The object describes the boot menu entry. -/
structure EntryDoc (data : Members N) (entry : BootMenuEntry) : Prop where
  entryId : TextField data "entry_id" entry.entryId
  label : TextField data "label" entry.label
  bootReleaseSetId : TextField data "boot_release_set_id" entry.bootReleaseSetId
  releaseSetRef : TextField data "release_set_ref" entry.releaseSetRef
  bootMode : TextField data "boot_mode" entry.bootMode.text
  role : TextField data "role" entry.role.text
  default : FlagField data "default" entry.default
  rollbackEligible : FlagField data "rollback_eligible" entry.rollbackEligible
  rollback : entry.role = .rollback → entry.rollbackEligible = true

/-- The item is an object that describes the entry. -/
def EntryItem (item : Json N) (entry : BootMenuEntry) : Prop :=
  ∃ data, item = .obj data ∧ EntryDoc data entry

/-- The object describes the boot menu: its entries in order under distinct identifiers, one of
them the default, and no other one marked as default. -/
structure MenuDoc (data : Members N) (menu : BootMenu) : Prop where
  menuId : TextField data "menu_id" menu.menuId
  defaultEntryId : TextField data "default_entry_id" menu.defaultEntryId
  entries : ∃ items, data.get "entries" = some (.arr items) ∧
    List.Forall₂ EntryItem items menu.entries
  distinct : (menu.entries.map BootMenuEntry.entryId).Nodup
  default_mem : menu.defaultEntryId ∈ menu.entries.map BootMenuEntry.entryId
  marked : ∀ entry ∈ menu.entries, entry.default = true → entry.entryId = menu.defaultEntryId

theorem BootMenuEntry.fromDict_eq_ok {rt : Runtime N} {data : Members N} {entry : BootMenuEntry} :
    BootMenuEntry.fromDict rt data = .ok entry ↔ EntryDoc data entry := by
  unfold BootMenuEntry.fromDict
  simp only [bind_eq_ok, requireString_iff, bootMode_literal, role_literal, boolField_iff,
    check_eq_ok, pure_eq_ok]
  constructor
  · rintro ⟨_, hid, _, hlabel, _, hrelease, _, href, _, hmode, _, rfl, _, hrole, _, rfl, _, hdef,
      _, hroll, _, hrule, rfl⟩
    refine ⟨hid, hlabel, hrelease, href, hmode, hrole, hdef, hroll, fun h => ?_⟩
    by_contra hf
    exact hrule ⟨h, Bool.eq_false_of_not_eq_true hf⟩
  · rintro ⟨hid, hlabel, hrelease, href, hmode, hrole, hdef, hroll, hrule⟩
    refine ⟨_, hid, _, hlabel, _, hrelease, _, href, _, hmode, _, rfl, _, hrole, _, rfl, _, hdef,
      _, hroll, (), ?_, rfl⟩
    rintro ⟨h, hf⟩
    rw [hrule h] at hf
    exact absurd hf (by simp)

/-- The loop over the entries appends what the items describe, under identifiers that are new. -/
theorem BootMenu.readEntries_eq_ok {rt : Runtime N} :
    ∀ (items : List (Json N)) (entries r : List BootMenuEntry),
      (entries.map BootMenuEntry.entryId).Nodup →
      (BootMenu.readEntries rt items entries = .ok r ↔
        ∃ more, r = entries ++ more ∧ List.Forall₂ EntryItem items more ∧
          (r.map BootMenuEntry.entryId).Nodup)
  | [], entries, r, hn => by
    simp only [BootMenu.readEntries, pure_eq_ok, List.forall₂_nil_left_iff]
    constructor
    · rintro rfl
      exact ⟨[], (List.append_nil _).symm, rfl, hn⟩
    · rintro ⟨_, rfl, rfl, -⟩
      exact (List.append_nil _).symm
  | item :: items, entries, r, hn => by
    cases item with
    | null | bool | num | str | arr =>
      simp only [BootMenu.readEntries, throw_ne_ok, false_iff]
      rintro ⟨_, -, h, -⟩
      obtain ⟨_, _, ⟨_, habs, -⟩, -⟩ := List.forall₂_cons_left_iff.mp h
      exact absurd habs (by simp)
    | obj data =>
      have hsnoc : ∀ e : BootMenuEntry, e.entryId ∉ entries.map BootMenuEntry.entryId →
          ((entries ++ [e]).map BootMenuEntry.entryId).Nodup := by
        intro e he
        rw [List.map_append, List.map_singleton, ← List.concat_eq_append]
        exact hn.concat he
      simp only [BootMenu.readEntries, bind_eq_ok, BootMenuEntry.fromDict_eq_ok, check_eq_ok]
      constructor
      · rintro ⟨e, he, _, hnew, hr⟩
        obtain ⟨more, rfl, hmore, hnodup⟩ := (readEntries_eq_ok items _ r (hsnoc e hnew)).mp hr
        exact ⟨e :: more, by simp, .cons ⟨data, rfl, he⟩ hmore, hnodup⟩
      · rintro ⟨_, rfl, h, hnodup⟩
        obtain ⟨e, more, ⟨_, hobj, he⟩, hmore, rfl⟩ := List.forall₂_cons_left_iff.mp h
        obtain rfl := Json.obj.inj hobj
        have hnew : e.entryId ∉ entries.map BootMenuEntry.entryId := by
          rw [List.map_append, List.map_cons, List.nodup_append] at hnodup
          exact fun hmem => hnodup.2.2 _ hmem _ List.mem_cons_self rfl
        refine ⟨e, he, (), hnew, (readEntries_eq_ok items _ _ (hsnoc e hnew)).mpr ?_⟩
        exact ⟨more, by simp, hmore, hnodup⟩

/-- Under distinct identifiers the two checks on the marked entries say that only the default
entry may be marked. -/
theorem marked_iff {entries : List BootMenuEntry} {id : String}
    (hn : (entries.map BootMenuEntry.entryId).Nodup) :
    let marked := (entries.filter BootMenuEntry.default).map BootMenuEntry.entryId
    (marked.length ≤ 1 ∧ ∀ m ∈ marked.head?, m = id) ↔
      ∀ entry ∈ entries, entry.default = true → entry.entryId = id := by
  intro marked
  have hmarked : marked.Nodup := hn.sublist (List.filter_sublist.map _)
  have hall : (∀ entry ∈ entries, entry.default = true → entry.entryId = id) ↔
      ∀ m ∈ marked, m = id := by
    simp only [marked, List.mem_map, List.mem_filter]
    constructor
    · rintro h _ ⟨e, ⟨he, hd⟩, rfl⟩; exact h e he hd
    · exact fun h e he hd => h _ ⟨e, ⟨he, hd⟩, rfl⟩
  rw [hall]
  cases hm : marked with
  | nil => simp
  | cons m rest =>
    cases rest with
    | nil => simp
    | cons m' rest =>
      rw [hm] at hmarked
      simp only [List.length_cons, List.head?_cons, List.mem_cons, forall_eq_or_imp]
      constructor
      · intro h; omega
      · rintro ⟨rfl, rfl, -⟩
        exact absurd hmarked (by simp)

/-- **A boot menu parses** iff the object describes it. -/
theorem BootMenu.fromDict_eq_ok {rt : Runtime N} {data : Members N} {menu : BootMenu} :
    BootMenu.fromDict rt data = .ok menu ↔ MenuDoc data menu := by
  unfold BootMenu.fromDict
  simp only [bind_eq_ok, requireString_iff]
  constructor
  · rintro ⟨_, hid, _, hdefault, hentries⟩
    split at hentries
    · rename_i item items hitems
      simp only [bind_eq_ok, check_eq_ok, pure_eq_ok] at hentries
      obtain ⟨entries, hread, _, hmem, _, hlen, _, hhead, rfl⟩ := hentries
      obtain ⟨_, rfl, hmore, hnodup⟩ := (readEntries_eq_ok _ [] _ List.nodup_nil).mp hread
      exact ⟨hid, hdefault, ⟨_, hitems, hmore⟩, hnodup, hmem,
        (marked_iff hnodup).mp ⟨hlen, hhead⟩⟩
    · exact absurd hentries throw_ne_ok
  · rintro ⟨hid, hdefault, ⟨items, hitems, hmore⟩, hnodup, hmem, hmarked⟩
    refine ⟨_, hid, _, hdefault, ?_⟩
    cases items with
    | nil =>
      rw [List.forall₂_nil_left_iff.mp hmore] at hmem
      exact absurd hmem (by simp)
    | cons item items =>
      rw [hitems]
      obtain ⟨hlen, hhead⟩ := (marked_iff hnodup).mpr hmarked
      simp only [bind_eq_ok, check_eq_ok, pure_eq_ok]
      exact ⟨_, (readEntries_eq_ok _ [] _ List.nodup_nil).mpr ⟨_, rfl, hmore, hnodup⟩, (), hmem,
        (), hlen, (), hhead, rfl⟩

/-! ## Manifests -/

/-- The default entry of the menu boots what the manifest boots. -/
def DefaultMatches (menu : BootMenu) (manifest : SignedBootManifest) : Prop :=
  ∃ entry ∈ menu.entries, entry.entryId = menu.defaultEntryId ∧
    entry.bootReleaseSetId = manifest.bootReleaseSetId ∧
    entry.releaseSetRef = manifest.baseReleaseSetRef ∧ entry.bootMode = manifest.bootMode

/-- The `boot_menu` member: absent or null without a menu, else an object that describes it. -/
def MenuField (data : Members N) (menu : Option BootMenu) : Prop :=
  (data.get "boot_menu" = none ∨ data.get "boot_menu" = some .null) ∧ menu = none ∨
    ∃ doc m, data.get "boot_menu" = some (.obj doc) ∧ MenuDoc doc m ∧ menu = some m

/-- The `artifacts` member: an object with the required references. -/
def ArtifactsField (data : Members N) (artifacts : Members N) : Prop :=
  data.get "artifacts" = some (.obj artifacts) ∧
    ∀ key ∈ requiredArtifacts, ∃ ref, Members.get artifacts key = some (.str ref) ∧ ref ≠ ""

/-- The object describes the manifest. -/
structure ManifestDoc (rt : Runtime N) (data : Members N) (manifest : SignedBootManifest) :
    Prop where
  manifestId : TextField data "manifest_id" manifest.manifestId
  bootReleaseSetId : TextField data "boot_release_set_id" manifest.bootReleaseSetId
  baseReleaseSetRef : TextField data "base_release_set_ref" manifest.baseReleaseSetRef
  signatureRef : TextField data "signature_ref" manifest.signatureRef
  signerRef : TextField data "signer_ref" manifest.signerRef
  signatureAlgorithm : TextField data "signature_algorithm" manifest.signatureAlgorithm
  cryptoProfile : TextField data "crypto_profile" manifest.cryptoProfile
  signatureHex : TextField data "signature_hex" manifest.signatureHex
  algorithm : manifest.signatureAlgorithm = fipsReadyAlgorithm
  profile : manifest.cryptoProfile = fipsReadyProfile
  bootMode : TextField data "boot_mode" manifest.bootMode.text
  artifacts : ∃ artifacts, ArtifactsField data artifacts ∧
    manifest.artifacts = artifacts.map fun m => (m.1, pyStr rt m.2)
  signatureUrn : startswith manifest.signatureRef "urn:srcos:signature:" = true
  bootMenu : MenuField data manifest.bootMenu
  defaultMatches : ∀ menu ∈ manifest.bootMenu, DefaultMatches menu manifest

theorem isNonEmptyText_iff {value : Option (Json N)} :
    isNonEmptyText value = true ↔ ∃ ref, value = some (.str ref) ∧ ref ≠ "" := by
  unfold isNonEmptyText
  split
  · simp
  · rename_i hne
    simp only [Bool.false_eq_true, false_iff]
    rintro ⟨ref, h, -⟩
    exact hne ref h

theorem artifactsField_iff {data artifacts : Members N} :
    artifactsField (data.get "artifacts") = .ok artifacts ↔ ArtifactsField data artifacts := by
  unfold artifactsField ArtifactsField
  split
  · rename_i found h
    simp only [bind_eq_ok, check_eq_ok, exists_const, pure_eq_ok, h, Option.some.injEq,
      Json.obj.injEq, List.filter_eq_nil_iff, Bool.not_eq_true, Bool.not_eq_false',
      isNonEmptyText_iff]
    constructor
    · rintro ⟨hall, rfl⟩; exact ⟨rfl, hall⟩
    · rintro ⟨rfl, hall⟩; exact ⟨hall, rfl⟩
  · rename_i hne
    simp only [throw_ne_ok, false_iff]
    rintro ⟨h, -⟩
    exact hne artifacts h

theorem menuField_iff {rt : Runtime N} {data : Members N} {menu : Option BootMenu} :
    menuField rt (data.get "boot_menu") = .ok menu ↔ MenuField data menu := by
  unfold menuField MenuField
  split
  · rename_i h
    simp only [h, pure_eq_ok, true_and, reduceCtorEq, false_and, exists_false, or_false]
    exact eq_comm
  · rename_i h
    simp only [h, pure_eq_ok, or_true, true_and, Option.some.injEq, reduceCtorEq, false_and,
      exists_false, or_false]
    exact eq_comm
  · rename_i doc h
    simp only [h, map_eq_ok, BootMenu.fromDict_eq_ok, reduceCtorEq, Option.some.injEq, or_self,
      false_and, false_or, Json.obj.injEq]
    constructor
    · rintro ⟨m, hm, rfl⟩; exact ⟨doc, m, rfl, hm, rfl⟩
    · rintro ⟨_, m, rfl, hm, rfl⟩; exact ⟨m, hm, rfl⟩
  · rename_i v hnull hobj h
    simp only [h, throw_ne_ok, false_iff]
    rintro (⟨hnone | hv, -⟩ | ⟨doc, m, hv, -⟩)
    · exact absurd hnone (by simp)
    · exact hnull (Option.some.inj hv)
    · exact hobj doc (Option.some.inj hv)

/-- The entry a menu of distinct identifiers starts. -/
theorem BootMenu.defaultEntry_eq_ok {menu : BootMenu} {entry : BootMenuEntry}
    (hn : (menu.entries.map BootMenuEntry.entryId).Nodup) :
    menu.defaultEntry = .ok entry ↔
      entry ∈ menu.entries ∧ entry.entryId = menu.defaultEntryId := by
  unfold BootMenu.defaultEntry
  cases h : menu.entries.find? fun e => e.entryId == menu.defaultEntryId with
  | none =>
    simp only [throw_ne_ok, false_iff]
    rintro ⟨hmem, hid⟩
    exact absurd (List.find?_eq_none.mp h entry hmem) (by simp [hid])
  | some found =>
    have hid : found.entryId = menu.defaultEntryId := by simpa using List.find?_some h
    have hmem := List.mem_of_find?_eq_some h
    simp only [pure_eq_ok]
    constructor
    · rintro rfl; exact ⟨hmem, hid⟩
    · rintro ⟨hmem', hid'⟩
      exact List.inj_on_of_nodup_map hn hmem hmem' (hid.trans hid'.symm)

theorem BootMenu.validateForManifest_eq_ok {menu : BootMenu} {manifest : SignedBootManifest}
    {u : Unit}
    (hn : (menu.entries.map BootMenuEntry.entryId).Nodup) :
    menu.validateForManifest manifest = .ok u ↔ DefaultMatches menu manifest := by
  unfold BootMenu.validateForManifest DefaultMatches BootMenuEntry.matchesManifest
  simp only [bind_eq_ok, BootMenu.defaultEntry_eq_ok hn, check_eq_ok, Bool.and_eq_true, beq_iff_eq,
    and_assoc]

theorem MenuField.distinct {data : Members N} {menu : Option BootMenu} (h : MenuField data menu) :
    ∀ m ∈ menu, (m.entries.map BootMenuEntry.entryId).Nodup := by
  obtain ⟨-, rfl⟩ | ⟨_, m, -, hdoc, rfl⟩ := h
  · exact fun _ hm => absurd hm (by simp)
  · exact fun _ hm => Option.some.inj hm ▸ hdoc.distinct

/-- The last step of the parser: a menu must match the manifest that carries it. -/
theorem menuStep_eq_ok {menu : Option BootMenu} {manifest r : SignedBootManifest}
    (hn : ∀ m ∈ menu, (m.entries.map BootMenuEntry.entryId).Nodup) :
    (match menu with
      | none => pure manifest
      | some menu => do
        menu.validateForManifest manifest
        pure manifest) = Except.ok r ↔
      manifest = r ∧ ∀ m ∈ menu, DefaultMatches m manifest := by
  cases menu with
  | none => simp
  | some menu =>
    simp only [bind_eq_ok, BootMenu.validateForManifest_eq_ok (hn menu rfl), exists_const,
      pure_eq_ok, Option.mem_some_iff, forall_eq']
    exact and_comm

/-- Without limits every value is rendered. -/
@[simp] theorem artifacts_none (artifacts : Members N) :
    Limits.none.artifacts artifacts = none :=
  List.findSome?_eq_none_iff.mpr fun _ _ => rfl

/-- **A manifest parses** within the limits of `str` iff the object describes it and no artifact
exceeds them. -/
theorem SignedBootManifest.fromDict_within {rt : Runtime N} {limits : Limits N} {data : Members N}
    {manifest : SignedBootManifest} :
    SignedBootManifest.fromDict rt data limits = .ok manifest ↔ ManifestDoc rt data manifest ∧
      ∀ artifacts, ArtifactsField data artifacts → limits.artifacts artifacts = none := by
  unfold SignedBootManifest.fromDict
  simp only [bind_eq_ok, requireString_iff, check_eq_ok, bootMode_literal, artifactsField_iff,
    menuField_iff, within_eq_ok]
  constructor
  · rintro ⟨_, hid, _, hrelease, _, hbase, _, href, _, hsigner, _, halg, _, hprof, _, hhex, _, rfl,
      _, rfl, _, hmode, _, rfl, artifacts, hart, _, hurn, menu, hmenu, _, hlimit, hlast⟩
    obtain ⟨rfl, hmatch⟩ := (menuStep_eq_ok hmenu.distinct).mp hlast
    refine ⟨⟨hid, hrelease, hbase, href, hsigner, halg, hprof, hhex, rfl, rfl, hmode,
      ⟨artifacts, hart, rfl⟩, hurn, hmenu, hmatch⟩, fun artifacts' hart' => ?_⟩
    obtain rfl := Json.obj.inj (Option.some.inj (hart.1.symm.trans hart'.1))
    exact hlimit
  · rintro ⟨h, hlimit⟩
    obtain ⟨artifacts, hart, hmap⟩ := h.artifacts
    refine ⟨_, h.manifestId, _, h.bootReleaseSetId, _, h.baseReleaseSetRef, _, h.signatureRef, _,
      h.signerRef, _, h.signatureAlgorithm, _, h.cryptoProfile, _, h.signatureHex, (), h.algorithm,
      (), h.profile, _, h.bootMode, _, rfl, artifacts, hart, (), h.signatureUrn, _, h.bootMenu, (),
      hlimit artifacts hart, ?_⟩
    rw [← hmap]
    exact (menuStep_eq_ok h.bootMenu.distinct).mpr ⟨rfl, h.defaultMatches⟩

/-- **A manifest parses** iff the object describes it. -/
theorem SignedBootManifest.fromDict_eq_ok {rt : Runtime N} {data : Members N}
    {manifest : SignedBootManifest} :
    SignedBootManifest.fromDict rt data = .ok manifest ↔ ManifestDoc rt data manifest := by
  simp only [SignedBootManifest.fromDict_within, artifacts_none, implies_true, and_true]

/-! ## Tokens -/

/-- The `audience` member: an object with a subject kind, and a subject id or none. -/
def AudienceField (data : Members N) (subjectKind : String) (subjectId : Option String) : Prop :=
  ∃ audience, data.get "audience" = some (.obj audience) ∧
    TextField audience "subject_kind" subjectKind ∧
    subjectIdField (Members.get audience "subject_id") = .ok subjectId

/-- The object describes the token. -/
structure TokenDoc (rt : Runtime N) (data : Members N) (token : EnrollmentToken N) : Prop where
  tokenId : TextField data "token_id" token.tokenId
  purpose : TextField data "purpose" token.purpose.text
  audience : AudienceField data token.subjectKind token.subjectId
  releaseSetRef : token.releaseSetRef = data.get "release_set_ref"
  bootReleaseSetRef : token.bootReleaseSetRef = data.get "boot_release_set_ref"
  oneTimeUse : data.get "one_time_use" = some (.bool token.oneTimeUse)
  issuedAt : TimeField rt data "issued_at" token.issuedAt
  expiresAt : TimeField rt data "expires_at" token.expiresAt
  status : TextField data "status" token.status.text

theorem audienceField_iff {data : Members N} {audience : String × Option String} :
    audienceField (data.get "audience") = .ok audience ↔
      AudienceField data audience.1 audience.2 := by
  obtain ⟨subjectKind, subjectId⟩ := audience
  unfold audienceField AudienceField
  split
  · rename_i members h
    simp only [bind_eq_ok, requireString_iff, pure_eq_ok, h, Option.some.injEq, Json.obj.injEq,
      Prod.mk.injEq]
    constructor
    · rintro ⟨_, hkind, _, hid, rfl, rfl⟩; exact ⟨members, rfl, hkind, hid⟩
    · rintro ⟨_, rfl, hkind, hid⟩; exact ⟨_, hkind, _, hid, rfl, rfl⟩
  · rename_i hne
    simp only [throw_ne_ok, false_iff]
    rintro ⟨members, h, -⟩
    exact hne members h

theorem oneTimeUseField_iff {value : Option (Json N)} {b : Bool} :
    oneTimeUseField value = .ok b ↔ value = some (.bool b) := by
  unfold oneTimeUseField
  split
  · simp
  · rename_i hne
    simp only [throw_ne_ok, false_iff]
    exact hne b

/-- **A token parses** iff the object describes it. -/
theorem EnrollmentToken.fromDict_eq_ok {rt : Runtime N} {data : Members N}
    {token : EnrollmentToken N} :
    EnrollmentToken.fromDict rt data = .ok token ↔ TokenDoc rt data token := by
  unfold EnrollmentToken.fromDict
  simp only [bind_eq_ok, requireString_iff, purpose_literal, audienceField_iff, parseTime_eq_ok,
    oneTimeUseField_iff, status_literal, pure_eq_ok]
  constructor
  · rintro ⟨_, hid, _, hpurpose, _, rfl, _, haud, _, hissued, _, hissuedAt, _, hexpires, _,
      hexpiresAt, _, hone, _, hstatus, _, rfl, rfl⟩
    exact ⟨hid, hpurpose, haud, rfl, rfl, hone, ⟨_, hissued, hissuedAt⟩,
      ⟨_, hexpires, hexpiresAt⟩, hstatus⟩
  · rintro ⟨hid, hpurpose, haud, hrel, hboot, hone, ⟨_, hissued, hissuedAt⟩,
      ⟨_, hexpires, hexpiresAt⟩, hstatus⟩
    exact ⟨_, hid, _, hpurpose, _, rfl, (_, _), haud, _, hissued, _, hissuedAt, _, hexpires, _,
      hexpiresAt, _, hone, _, hstatus, _, rfl, by rw [← hrel, ← hboot]⟩

/-! ## Plans -/

/-- The token authorises booting the manifest at `current`. -/
structure Authorises (token : EnrollmentToken N) (manifest : SignedBootManifest)
    (current : UtcTime) : Prop where
  status : token.status = .issued
  notExpired : current.micros < token.expiresAt.micros
  oneTimeUse : token.oneTimeUse = true
  bootReleaseSetRef : token.bootReleaseSetRef = some (.str manifest.bootReleaseSetId)
  releaseSetRef : token.releaseSetRef = some (.str manifest.baseReleaseSetRef)
  purpose : token.purpose ∈ purposeByMode manifest.bootMode

theorem EnrollmentToken.validateForManifest_eq_ok {rt : Runtime N} {clock : UtcTime}
    {now : Option Moment} {token : EnrollmentToken N} {manifest : SignedBootManifest}
    {u : Unit} :
    token.validateForManifest rt clock now manifest = .ok u ↔
      ∃ current, currentTime clock now = .ok current ∧ Authorises token manifest current := by
  unfold EnrollmentToken.validateForManifest
  simp only [bind_eq_ok, check_eq_ok, exists_const, equalsText_iff]
  constructor
  · rintro ⟨current, hc, hstatus, hexp, hone, hboot, hrel, hpurpose⟩
    exact ⟨current, hc, hstatus, hexp, hone, hboot, hrel, hpurpose⟩
  · rintro ⟨current, hc, hstatus, hexp, hone, hboot, hrel, hpurpose⟩
    exact ⟨current, hc, hstatus, hexp, hone, hboot, hrel, hpurpose⟩

/-- The plan for a manifest and the token that authorises it. -/
def planFor (manifest : SignedBootManifest) (token : EnrollmentToken N) : BootPlan where
  action := actionByMode manifest.bootMode
  manifestId := manifest.manifestId
  bootReleaseSetId := manifest.bootReleaseSetId
  releaseSetRef := manifest.baseReleaseSetRef
  artifacts := manifest.artifacts
  authorizedBy := token.tokenId
  signatureAlgorithm := manifest.signatureAlgorithm
  cryptoProfile := manifest.cryptoProfile
  policyRef := policyRefForMode manifest.bootMode
  allowedOperations := allowedOperationsForMode manifest.bootMode
  proofRequirements := proofRequirementsForMode manifest.bootMode
  offlineFallback := offlineFallbackForMode manifest.bootMode
  execute := false
  selectedEntryId := manifest.bootMenu.map BootMenu.defaultEntryId
  bootMenu := manifest.bootMenu

/-- A manifest that was parsed selects the default entry of its menu. -/
theorem selectEntry_eq_ok {rt : Runtime N} {data : Members N} {manifest : SignedBootManifest}
    (h : ManifestDoc rt data manifest) :
    selectEntry manifest = .ok (manifest.bootMenu.map BootMenu.defaultEntryId) := by
  unfold selectEntry
  cases hm : manifest.bootMenu with
  | none => rfl
  | some menu =>
    have hn := h.bootMenu.distinct menu hm
    obtain ⟨entry, hmem, hid, -⟩ := h.defaultMatches menu hm
    simp only [bind_eq_ok, BootMenu.validateForManifest_eq_ok hn, exists_const,
      BootMenu.defaultEntry_eq_ok hn, pure_eq_ok]
    exact ⟨h.defaultMatches menu hm, entry, ⟨hmem, hid⟩, congrArg some hid⟩

/-- **A plan is built** for a parsed manifest iff the token authorises it, and it is the plan for
both. -/
theorem buildBootPlan_eq_ok {rt : Runtime N} {clock : UtcTime} {now : Option Moment}
    {data : Members N} {manifest : SignedBootManifest} {token : EnrollmentToken N}
    {plan : BootPlan} (h : ManifestDoc rt data manifest) :
    buildBootPlan rt clock now manifest token = .ok plan ↔
      (∃ current, currentTime clock now = .ok current ∧ Authorises token manifest current) ∧
        plan = planFor manifest token := by
  unfold buildBootPlan
  simp only [bind_eq_ok, EnrollmentToken.validateForManifest_eq_ok, exists_const, pure_eq_ok,
    selectEntry_eq_ok h, Except.ok.injEq, exists_eq_left']
  exact and_congr_right fun _ => eq_comm

/-! ## A manifest -/

/-- A manifest of a release and a boot mode, with this signature. -/
def manifestFor (bootReleaseSetId baseReleaseSetRef : String) (bootMode : BootMode)
    (signatureHex : String) : SignedBootManifest where
  manifestId := "urn:srcos:boot-manifest:demo"
  bootReleaseSetId
  baseReleaseSetRef
  bootMode
  artifacts := [("kernel_ref", "kernel"), ("initrd_ref", "initrd"), ("rootfs_ref", "rootfs")]
  signatureRef := "urn:srcos:signature:demo"
  signerRef := "urn:srcos:key:demo"
  signatureAlgorithm := fipsReadyAlgorithm
  cryptoProfile := fipsReadyProfile
  signatureHex
  bootMenu := none

/-- The document of the manifest. -/
def manifestMembers (bootReleaseSetId baseReleaseSetRef : String) (bootMode : BootMode)
    (signatureHex : String) : Members N := [
  ("manifest_id", .str "urn:srcos:boot-manifest:demo"),
  ("boot_release_set_id", .str bootReleaseSetId),
  ("base_release_set_ref", .str baseReleaseSetRef),
  ("boot_mode", .str bootMode.text),
  ("artifacts", .obj [("kernel_ref", .str "kernel"), ("initrd_ref", .str "initrd"),
    ("rootfs_ref", .str "rootfs")]),
  ("signature_ref", .str "urn:srcos:signature:demo"),
  ("signer_ref", .str "urn:srcos:key:demo"),
  ("signature_algorithm", .str fipsReadyAlgorithm),
  ("crypto_profile", .str fipsReadyProfile),
  ("signature_hex", .str signatureHex)]

theorem manifestFor_doc (rt : Runtime N)
    {bootReleaseSetId baseReleaseSetRef signatureHex : String}
    (hboot : blank bootReleaseSetId = false) (hbase : blank baseReleaseSetRef = false)
    (mode : BootMode) (hhex : blank signatureHex = false) :
    ManifestDoc rt (manifestMembers bootReleaseSetId baseReleaseSetRef mode signatureHex)
      (manifestFor bootReleaseSetId baseReleaseSetRef mode signatureHex) where
  manifestId := ⟨rfl, show blank "urn:srcos:boot-manifest:demo" = false by decide⟩
  bootReleaseSetId := ⟨rfl, hboot⟩
  baseReleaseSetRef := ⟨rfl, hbase⟩
  signatureRef := ⟨rfl, show blank "urn:srcos:signature:demo" = false by decide⟩
  signerRef := ⟨rfl, show blank "urn:srcos:key:demo" = false by decide⟩
  signatureAlgorithm := ⟨rfl, show blank fipsReadyAlgorithm = false by decide⟩
  cryptoProfile := ⟨rfl, show blank fipsReadyProfile = false by decide⟩
  signatureHex := ⟨rfl, hhex⟩
  algorithm := rfl
  profile := rfl
  bootMode := ⟨rfl, blank_bootMode mode⟩
  artifacts := by
    refine ⟨_, ⟨rfl, fun key hkey => ?_⟩, rfl⟩
    simp only [requiredArtifacts, List.mem_cons, List.not_mem_nil, or_false] at hkey
    obtain rfl | rfl | rfl := hkey
    · exact ⟨"initrd", rfl, by decide⟩
    · exact ⟨"kernel", rfl, by decide⟩
    · exact ⟨"rootfs", rfl, by decide⟩
  signatureUrn := show startswith "urn:srcos:signature:demo" "urn:srcos:signature:" = true by
    decide
  bootMenu := .inl ⟨.inl rfl, rfl⟩
  defaultMatches _ h := absurd h (by simp [manifestFor])

end Nlboot.Reference
