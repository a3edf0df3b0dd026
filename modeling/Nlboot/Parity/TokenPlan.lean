import Nlboot.Client.LexicalHost
import Nlboot.Parity.Manifest

/-!
# Tokens and plans in both clients

A token document as `EnrollmentToken` and `validate_token` (`main.rs`) take it, and as
`EnrollmentToken.from_dict` and `validate_for_manifest` (`protocol.py`) do, and the plans
`build_plan` and `build_boot_plan` make of it, for a manifest both clients accept.

The client decodes the text of the token directly; `json.loads` keeps the last value of a name, as
`toValue` does.

* `nanos`: a UTC time as the client counts it.
* `SameReading`: both clients read the texts of the document alike.
* `PlansAgree`: two plans say the same, field by field.
* **`tokenPlan_simulates`**: what the client authorises, the reference authorises with the same
  plan.
-/

namespace Nlboot.Parity

open Nlboot.Lib Nlboot.Reference

variable {N K D : Type}

/-- Nanoseconds since 1970 of a UTC time. -/
def nanos (t : UtcTime) : Int := (t.micros - 62135596800000000) * 1000

/-- Both clients read the texts of the document alike: a timestamp of the client is one of the
reference, of the same instant, and a text is blank to both or to neither. -/
structure SameReading (rt : Runtime N) (host : Client.Host N K D) (document : Json N) : Prop where
  times : ∀ text ∈ document.texts, ∀ time, host.timestamp text = some time →
    blank text = false ∧ ∃ t utc, awareTime rt text = some t ∧ t.toUtc = some utc ∧
      time = nanos utc
  blank : ∀ text ∈ document.texts, blank text = Client.blank text

/-- The reference's plan says what the client's does. -/
structure PlansAgree (client : Client.BootPlan) (reference : BootPlan) : Prop where
  action : reference.action = client.action
  manifestId : reference.manifestId = client.manifestId
  bootReleaseSetId : reference.bootReleaseSetId = client.bootReleaseSetId
  releaseSetRef : reference.releaseSetRef = client.releaseSetRef
  artifacts : ∀ key, reference.artifacts.lookup key = client.artifacts.lookup key
  authorizedBy : reference.authorizedBy = client.authorizedBy
  signatureAlgorithm : reference.signatureAlgorithm = client.signatureAlgorithm
  cryptoProfile : reference.cryptoProfile = client.cryptoProfile
  policyRef : reference.policyRef = client.policyRef
  allowedOperations : reference.allowedOperations = client.allowedOperations
  proofRequirements : reference.proofRequirements = client.proofRequirements
  enabled : reference.offlineFallback.enabled = client.offlineFallback.enabled
  strategy : reference.offlineFallback.strategy = client.offlineFallback.strategy
  requiresSignatureVerification : reference.offlineFallback.requiresSignatureVerification =
    client.offlineFallback.requiresSignatureVerification
  allowsUnsignedArtifacts : reference.offlineFallback.allowsUnsignedArtifacts =
    client.offlineFallback.allowsUnsignedArtifacts
  execute : reference.execute = client.execute

/-! ## Manifests -/

/-- Both clients hold the same manifest. -/
structure SameManifest (client : Client.SignedBootManifest) (reference : SignedBootManifest) :
    Prop where
  manifestId : reference.manifestId = client.manifestId
  bootReleaseSetId : reference.bootReleaseSetId = client.bootReleaseSetId
  baseReleaseSetRef : reference.baseReleaseSetRef = client.baseReleaseSetRef
  bootMode : reference.bootMode.text = client.bootMode
  artifacts : ∀ key, reference.artifacts.lookup key = client.artifacts.lookup key
  signatureAlgorithm : reference.signatureAlgorithm = client.signatureAlgorithm
  cryptoProfile : reference.cryptoProfile = client.cryptoProfile

/-- The values of a map of texts are texts. -/
theorem text_of_decodeMap {refs : Members N} {entries : List (String × String)}
    (h : Client.decodeMap (.obj refs) = some entries) {key : String} {v : Json N}
    (hget : refs.get key = some v) : ∃ ref, v = .str ref := by
  obtain ⟨pairs, hpairs, -⟩ := Option.map_eq_some_iff.mp h
  obtain ⟨_, _, hsplit, -⟩ := List.lookup_eq_some_iff.mp hget
  have hmem : (key, v) ∈ refs := by simp [hsplit]
  obtain ⟨_, -, hdecode⟩ := exists_mem_right_of_forall₂ (Client.mapM_eq_some.mp hpairs) _ hmem
  obtain ⟨ref, href, -⟩ := Option.map_eq_some_iff.mp hdecode
  exact ⟨ref, Client.decodeString_eq_some.mp href⟩

/-- The two clients hold the same artifacts. -/
theorem lookup_artifacts (rt : Runtime N) {refs : Members N} {entries : List (String × String)}
    (h : Client.decodeMap (.obj refs) = some entries) (hn : (refs.map Prod.fst).Nodup)
    (key : String) :
    (refs.map fun m => (m.1, pyStr rt m.2)).lookup key = entries.lookup key := by
  rw [lookup_map_value (pyStr rt)]
  cases hget : refs.lookup key with
  | none =>
    cases hlookup : entries.lookup key with
    | none => rfl
    | some ref =>
      have hsome := (Client.lookup_of_decodeMap h hn).mp hlookup
      exact absurd (hget.symm.trans hsome) (by simp)
  | some v =>
    obtain ⟨ref, rfl⟩ := text_of_decodeMap h hget
    rw [(Client.lookup_of_decodeMap h hn).mpr hget]
    rfl

theorem sameManifest {rt : Runtime N} {data : Members N} {client : Client.SignedBootManifest}
    {reference : SignedBootManifest} (hdistinct : (Json.obj data).distinctNames = true)
    (hclient : Client.SignedBootManifest.deserialize (.obj data) = some client)
    (hreference : SignedBootManifest.fromDict rt data = .ok reference) :
    SameManifest client reference := by
  have hfrom := Client.SignedBootManifest.decodedFrom hclient
  have hdoc := SignedBootManifest.fromDict_eq_ok.mp hreference
  obtain ⟨refs, hrefs, hmap⟩ := hfrom.artifacts
  obtain ⟨refs', ⟨hrefs', -⟩, hartifacts⟩ := hdoc.artifacts
  obtain rfl := Json.obj.inj (Option.some.inj (hrefs.symm.trans hrefs'))
  exact
    { manifestId := text_unique hdoc.manifestId.1 hfrom.manifestId
      bootReleaseSetId := text_unique hdoc.bootReleaseSetId.1 hfrom.bootReleaseSetId
      baseReleaseSetRef := text_unique hdoc.baseReleaseSetRef.1 hfrom.baseReleaseSetRef
      bootMode := text_unique hdoc.bootMode.1 hfrom.bootMode
      artifacts := fun key => by
        rw [hartifacts, lookup_artifacts rt hmap (nodup_of_get hdistinct hrefs)]
      signatureAlgorithm := text_unique hdoc.signatureAlgorithm.1 hfrom.signatureAlgorithm
      cryptoProfile := text_unique hdoc.cryptoProfile.1 hfrom.cryptoProfile }

/-! ## The tables by boot mode -/

/-- A purpose the client allows for a mode is one the reference allows. -/
theorem purpose_of_mem {purpose : String} {mode : BootMode}
    (h : purpose ∈ Client.purposesForMode mode.text) :
    ∃ p ∈ purposeByMode mode, purpose = p.text := by
  cases mode with
  | recovery =>
    obtain rfl | rfl : purpose = "recovery" ∨ purpose = "repair" := by
      simpa [Client.purposesForMode, BootMode.text] using h
    · exact ⟨.recovery, by decide, rfl⟩
    · exact ⟨.repair, by decide, rfl⟩
  | ephemeral =>
    obtain rfl : purpose = "boot" := by simpa [Client.purposesForMode, BootMode.text] using h
    exact ⟨.boot, by decide, rfl⟩
  | installer | bootstrap =>
    obtain rfl | rfl : purpose = "enroll" ∨ purpose = "boot" := by
      simpa [Client.purposesForMode, BootMode.text] using h
    · exact ⟨.enroll, by decide, rfl⟩
    · exact ⟨.boot, by decide, rfl⟩

theorem actionByMode_eq (mode : BootMode) :
    actionByMode mode = Client.actionForMode mode.text := by
  cases mode <;> decide

theorem allowedOperationsForMode_eq (mode : BootMode) :
    allowedOperationsForMode mode = Client.operationsForMode mode.text := by
  cases mode <;> decide

theorem proofRequirementsForMode_eq (mode : BootMode) :
    proofRequirementsForMode mode = Client.proofRequirementsForMode mode.text := by
  cases mode <;> decide

theorem fallback_enabled_eq (mode : BootMode) :
    (offlineFallbackForMode mode).enabled = (Client.fallbackForMode mode.text).enabled := by
  cases mode <;> decide

theorem fallback_strategy_eq (mode : BootMode) :
    (offlineFallbackForMode mode).strategy = (Client.fallbackForMode mode.text).strategy := by
  cases mode <;> decide

/-- **The tables of the two clients agree**, row by row. -/
theorem plansAgree {client : Client.SignedBootManifest} {reference : SignedBootManifest}
    (h : SameManifest client reference) {token : Client.EnrollmentToken}
    {token' : EnrollmentToken N} (hid : token'.tokenId = token.tokenId) :
    PlansAgree (Client.buildPlan client token) (planFor reference token') where
  action := (actionByMode_eq reference.bootMode).trans (congrArg Client.actionForMode h.bootMode)
  manifestId := h.manifestId
  bootReleaseSetId := h.bootReleaseSetId
  releaseSetRef := h.baseReleaseSetRef
  artifacts := h.artifacts
  authorizedBy := hid
  signatureAlgorithm := h.signatureAlgorithm
  cryptoProfile := h.cryptoProfile
  policyRef :=
    congrArg (fun mode => "policy://sourceos/nlboot/" ++ mode ++ "/safe-plan-v1") h.bootMode
  allowedOperations :=
    (allowedOperationsForMode_eq reference.bootMode).trans
      (congrArg Client.operationsForMode h.bootMode)
  proofRequirements :=
    (proofRequirementsForMode_eq reference.bootMode).trans
      (congrArg Client.proofRequirementsForMode h.bootMode)
  enabled := (fallback_enabled_eq reference.bootMode).trans
    (congrArg (fun mode => (Client.fallbackForMode mode).enabled) h.bootMode)
  strategy := (fallback_strategy_eq reference.bootMode).trans
    (congrArg (fun mode => (Client.fallbackForMode mode).strategy) h.bootMode)
  requiresSignatureVerification := rfl
  allowsUnsignedArtifacts := rfl
  execute := rfl

/-! ## Tokens -/

theorem mem_texts_of_get {members : Members N} {name text : String}
    (h : members.get name = some (.str text)) : text ∈ (Json.obj members).texts := by
  obtain ⟨_, _, hsplit, -⟩ := List.lookup_eq_some_iff.mp h
  exact Json.mem_textsMembers.mpr ⟨(name, .str text), by simp [hsplit], .inr (by simp [Json.texts])⟩

theorem mem_texts_of_get_obj {members inner : Members N} {name text : String}
    (h : members.get name = some (.obj inner)) (htext : text ∈ (Json.obj inner).texts) :
    text ∈ (Json.obj members).texts := by
  obtain ⟨_, _, hsplit, -⟩ := List.lookup_eq_some_iff.mp h
  exact Json.mem_textsMembers.mpr ⟨(name, .obj inner), by simp [hsplit], .inr htext⟩

/-- A text that occurs once is found in the dictionary. -/
theorem get_dict_text {fields : List String} {members : Members N} (h : Client.Once fields members)
    {name text : String} (hname : name ∈ fields) (hget : members.get name = some (.str text)) :
    Members.get (Client.collectMap (Client.toValueMembers members)) name = some (.str text) := by
  rw [Client.get_collectMap (h name hname), hget]
  rfl

/-- **A token of the client is one of the reference**, with the same id, if it is an object with an
audience that is one. -/
theorem tokenDoc_of_client {rt : Runtime N} {host : Client.Host N K D}
    {members audience : Members N}
    {token : Client.EnrollmentToken} {manifest : Client.SignedBootManifest} {now : Int}
    {purpose : TokenPurpose} (hreads : SameReading rt host (.obj members))
    (htoken : Client.EnrollmentToken.deserialize host (.obj members) = some token)
    (haudience : members.get "audience" = some (.obj audience))
    (hvalid : Client.TokenFor token manifest now) (hpurpose : token.purpose = purpose.text) :
    ∃ token' : EnrollmentToken N,
      TokenDoc rt (Client.collectMap (Client.toValueMembers members)) token' ∧
      token'.tokenId = token.tokenId ∧ token'.purpose = purpose ∧ token'.status = .issued ∧
      token'.oneTimeUse = true ∧
      token'.bootReleaseSetRef = some (.str manifest.bootReleaseSetId) ∧
      token'.releaseSetRef = some (.str manifest.baseReleaseSetRef) ∧
      nanos token'.expiresAt = token.expiresAt := by
  obtain ⟨hfrom, honce, haonce⟩ := Client.EnrollmentToken.decodedFrom htoken haudience
  have htime : ∀ {name : String} {time : Int}, name ∈ Client.tokenFields →
      (∃ text, members.get name = some (.str text) ∧ host.timestamp text = some time) →
      ∃ utc, TimeField rt (Client.collectMap (Client.toValueMembers members)) name utc ∧
        time = nanos utc := by
    rintro name time hname ⟨text, hget, hstamp⟩
    obtain ⟨hblank, t, utc, haware, hutc, htime⟩ :=
      hreads.times text (mem_texts_of_get hget) time hstamp
    exact ⟨utc, ⟨text, ⟨get_dict_text honce hname hget, hblank⟩, t, haware, hutc⟩, htime⟩
  have hmatch : ∀ {name : String} {ref : String}, name ∈ Client.tokenFields →
      Client.optional Client.decodeString members name = some (some ref) →
      Members.get (Client.collectMap (Client.toValueMembers members)) name = some (.str ref) := by
    intro name ref hname hopt
    obtain ⟨v, hget, -, hv⟩ := Client.optional_eq_some.mp hopt
    rw [Client.decodeString_eq_some] at hv
    exact get_dict_text honce hname (hv ▸ hget)
  obtain ⟨issuedAt, hissued, -⟩ := htime (by decide) hfrom.issuedAt
  obtain ⟨expiresAt, hexpires, hexpiresAt⟩ := htime (by decide) hfrom.expiresAt
  have hboot := hmatch (by decide) (hvalid.bootReleaseSetRef ▸ hfrom.bootReleaseSetRef)
  have hrel := hmatch (by decide) (hvalid.releaseSetRef ▸ hfrom.releaseSetRef)
  have hsubject : subjectIdField (Members.get
      (Client.collectMap (Client.toValueMembers audience)) "subject_id") =
        .ok token.audience.subjectId := by
    rw [Client.get_collectMap (haonce "subject_id" (by decide))]
    cases hid : token.audience.subjectId with
    | none =>
      obtain hget | hget := Client.optional_eq_none.mp (hid ▸ hfrom.subjectId)
      · rw [hget]; rfl
      · rw [hget]; rfl
    | some subjectId =>
      obtain ⟨v, hget, -, hv⟩ := Client.optional_eq_some.mp (hid ▸ hfrom.subjectId)
      rw [hget, Client.decodeString_eq_some.mp hv]
      rfl
  have hvisible : ∀ {text : String}, text ∈ (Json.obj members).texts →
      Client.blank text = false → blank text = false := fun hmem hclient => by
    rw [hreads.blank _ hmem, hclient]
  have hstatus := get_dict_text honce (by decide) (hvalid.status ▸ hfrom.status)
  have haudience' : Members.get (Client.collectMap (Client.toValueMembers members)) "audience" =
      some (.obj (Client.collectMap (Client.toValueMembers audience))) := by
    rw [Client.get_collectMap (honce "audience" (by decide)), haudience]
    rfl
  refine ⟨{ tokenId := token.tokenId, purpose, subjectKind := token.audience.subjectKind,
            subjectId := token.audience.subjectId, releaseSetRef := _, bootReleaseSetRef := _,
            oneTimeUse := token.oneTimeUse, issuedAt, expiresAt, status := .issued },
    { tokenId := ⟨get_dict_text honce (by decide) hfrom.tokenId,
        hvisible (mem_texts_of_get hfrom.tokenId) hvalid.tokenId⟩
      purpose := ⟨get_dict_text honce (by decide) (hpurpose ▸ hfrom.purpose), blank_purpose purpose⟩
      audience := ⟨_, haudience',
        ⟨get_dict_text haonce (by decide) hfrom.subjectKind, hvisible
          (mem_texts_of_get_obj haudience (mem_texts_of_get hfrom.subjectKind)) hvalid.subjectKind⟩,
        hsubject⟩
      releaseSetRef := rfl
      bootReleaseSetRef := rfl
      oneTimeUse := ?_
      issuedAt := hissued
      expiresAt := hexpires
      status := ⟨hstatus, show blank "issued" = false by decide⟩ },
    rfl, rfl, rfl, hvalid.oneTimeUse, hboot, hrel, hexpiresAt.symm⟩
  rw [Client.get_collectMap (honce "one_time_use" (by decide)), hfrom.oneTimeUse]
  rfl

/-! ## The simulation -/

/-- **What the client authorises, the reference authorises**, with the same plan: for a manifest
both accept, a token document that is an object with an audience that is one, and the same time. -/
theorem tokenPlan_simulates {rt : Runtime N} {host : Client.Host N K D} {data : Members N}
    {client : Client.SignedBootManifest} {reference : SignedBootManifest}
    (hdistinct : (Json.obj data).distinctNames = true)
    (hclient : Client.SignedBootManifest.deserialize (.obj data) = some client)
    (hreference : SignedBootManifest.fromDict rt data = .ok reference)
    {members audience : Members N} {token : Client.EnrollmentToken}
    (haudience : members.get "audience" = some (.obj audience))
    (hreads : SameReading rt host (.obj members))
    (htoken : Client.EnrollmentToken.deserialize host (.obj members) = some token)
    {clock current : UtcTime} {now : Option Moment} (hnow : currentTime clock now = .ok current)
    (hvalid : Client.validateToken token client (nanos current) = .ok ()) :
    ∃ dict token' plan, Client.toValue (.obj members) = .obj dict ∧
      EnrollmentToken.fromDict rt dict = .ok token' ∧
      token'.validateForManifest rt clock now reference = .ok () ∧
      buildBootPlan rt clock now reference token' = .ok plan ∧
      PlansAgree (Client.buildPlan client token) plan := by
  have hsame := sameManifest hdistinct hclient hreference
  have hdoc := SignedBootManifest.fromDict_eq_ok.mp hreference
  have hfor := Client.validateToken_eq_ok.mp hvalid
  have hmode : client.bootMode = reference.bootMode.text := hsame.bootMode.symm
  obtain ⟨purpose, hallowed, hpurpose⟩ := purpose_of_mem (hmode ▸ hfor.purpose)
  obtain ⟨token', htokenDoc, hid, rfl, hstatus, hone, hboot, hrel, hexpires⟩ :=
    tokenDoc_of_client hreads htoken haudience hfor hpurpose
  have hauth : Authorises token' reference current :=
    { status := hstatus
      notExpired := by
        have hlt := hfor.notExpired
        rw [← hexpires] at hlt
        unfold nanos at hlt
        omega
      oneTimeUse := hone
      bootReleaseSetRef := by rw [hboot, hsame.bootReleaseSetId]
      releaseSetRef := by rw [hrel, hsame.baseReleaseSetRef]
      purpose := hallowed }
  exact ⟨_, token', _, rfl, EnrollmentToken.fromDict_eq_ok.mpr htokenDoc,
    EnrollmentToken.validateForManifest_eq_ok.mpr ⟨current, hnow, hauth⟩,
    (buildBootPlan_eq_ok hdoc).mpr ⟨⟨current, hnow, hauth⟩, rfl⟩, plansAgree hsame hid⟩

/-! ## Two tokens -/

/-- The members of a token with this audience. -/
def tokenMembers (audience : Json Int) : Members Int := [
  ("token_id", .str "token-1"),
  ("purpose", .str "boot"),
  ("audience", audience),
  ("release_set_ref", .str "release-set-1"),
  ("boot_release_set_ref", .str "boot-release-set-1"),
  ("one_time_use", .bool true),
  ("issued_at", .str "2026-01-01T00:00:00Z"),
  ("expires_at", .str "2026-01-01T00:15:00Z"),
  ("status", .str "issued")]

/-- The expiry of the token. -/
def tokenExpiry : UtcTime := ⟨newYear.micros + 900000000, inRange_expiry⟩

/-- The token as the client holds it. -/
def clientToken : Client.EnrollmentToken where
  tokenId := "token-1"
  purpose := "boot"
  audience := ⟨"device", none⟩
  releaseSetRef := some "release-set-1"
  bootReleaseSetRef := some "boot-release-set-1"
  oneTimeUse := true
  issuedAt := nanos newYear
  expiresAt := nanos tokenExpiry
  status := "issued"

/-- A host that knows the two timestamps. -/
def timeHost : Client.Host Int String (List String) :=
  Client.lexicalHost
    { documents := []
      digests := []
      times := [("2026-01-01T00:00:00Z", nanos newYear),
        ("2026-01-01T00:15:00Z", nanos tokenExpiry)] }

/-- The audience as an object, and as an array of its fields in order. -/
def objectAudience : Members Int := [("subject_kind", .str "device"), ("subject_id", .null)]

def arrayAudience : Json Int := .arr [.str "device", .null]

theorem deserialize_objectAudience :
    Client.EnrollmentToken.deserialize timeHost (.obj (tokenMembers (.obj objectAudience))) =
      some clientToken := rfl

theorem deserialize_arrayAudience :
    Client.EnrollmentToken.deserialize timeHost (.obj (tokenMembers arrayAudience)) =
      some clientToken := rfl

theorem times_timeHost {text : String} {time : Int} (h : timeHost.timestamp text = some time) :
    blank text = false ∧ ∃ t utc, awareTime pyRuntime text = some t ∧ t.toUtc = some utc ∧
      time = nanos utc := by
  obtain ⟨before, after, hsplit, -⟩ := List.lookup_eq_some_iff.mp h
  have hmem : (text, time) ∈ [("2026-01-01T00:00:00Z", nanos newYear),
      ("2026-01-01T00:15:00Z", nanos tokenExpiry)] := by
    show (text, time) ∈ _
    rw [show [("2026-01-01T00:00:00Z", nanos newYear),
      ("2026-01-01T00:15:00Z", nanos tokenExpiry)] = before ++ (text, time) :: after from hsplit]
    simp
  simp only [List.mem_cons, Prod.mk.injEq, List.not_mem_nil, or_false] at hmem
  obtain ⟨rfl, rfl⟩ | ⟨rfl, rfl⟩ := hmem
  · exact ⟨by decide, newYear.toAware, newYear, by decide, by decide, rfl⟩
  · exact ⟨by decide, tokenExpiry.toAware, tokenExpiry, by decide, by decide, rfl⟩

theorem sameReading_object :
    SameReading pyRuntime timeHost (.obj (tokenMembers (.obj objectAudience))) :=
  ⟨fun _ _ _ => times_timeHost, by decide⟩

theorem sameReading_array : SameReading pyRuntime timeHost (.obj (tokenMembers arrayAudience)) :=
  ⟨fun _ _ _ => times_timeHost, by decide⟩

/-- A manifest for the token. -/
def tokenManifest : Members Int :=
  manifestMembers "boot-release-set-1" "release-set-1" .ephemeral "00"

/-- The manifest as the client holds it. -/
def clientManifest : Client.SignedBootManifest where
  manifestId := "urn:srcos:boot-manifest:demo"
  bootReleaseSetId := "boot-release-set-1"
  baseReleaseSetRef := "release-set-1"
  bootMode := "ephemeral"
  artifacts := [("initrd_ref", "initrd"), ("kernel_ref", "kernel"), ("rootfs_ref", "rootfs")]
  signatureRef := "urn:srcos:signature:demo"
  signerRef := "urn:srcos:key:demo"
  signatureAlgorithm := "rsa-pss-sha256"
  cryptoProfile := "fips-140-3-compatible"
  signatureHex := "00"

theorem deserialize_tokenManifest :
    Client.SignedBootManifest.deserialize (.obj tokenManifest) = some clientManifest := rfl

theorem fromDict_tokenManifest : SignedBootManifest.fromDict pyRuntime tokenManifest =
    .ok (manifestFor "boot-release-set-1" "release-set-1" .ephemeral "00") :=
  SignedBootManifest.fromDict_eq_ok.mpr
    (manifestFor_doc pyRuntime (by decide) (by decide) .ephemeral (by decide))

/-- The client authorises the manifest with the token. -/
theorem validateToken_clientToken :
    Client.validateToken clientToken clientManifest (nanos newYear) = .ok () :=
  Client.validateToken_eq_ok.mpr ⟨by decide, by decide, rfl, by decide, by decide, rfl, rfl, rfl,
    by decide, by decide, fun _ h => absurd h (by simp [clientToken])⟩

/-- The token with an object for its audience is one of the reference too. -/
theorem objectAudience_simulated : ∃ dict token' plan,
    Client.toValue (.obj (tokenMembers (.obj objectAudience))) = .obj dict ∧
      EnrollmentToken.fromDict pyRuntime dict = .ok token' ∧
      token'.validateForManifest pyRuntime newYear none
        (manifestFor "boot-release-set-1" "release-set-1" .ephemeral "00") = .ok () ∧
      buildBootPlan pyRuntime newYear none
        (manifestFor "boot-release-set-1" "release-set-1" .ephemeral "00") token' = .ok plan ∧
      PlansAgree (Client.buildPlan clientManifest clientToken) plan :=
  tokenPlan_simulates (by decide) deserialize_tokenManifest fromDict_tokenManifest rfl
    sameReading_object deserialize_objectAudience rfl validateToken_clientToken

/-- The token with an array for its audience is one of the client, and none of the reference. -/
theorem arrayAudience_refused :
    Client.SignedBootManifest.deserialize (.obj tokenManifest) = some clientManifest ∧
      (∃ manifest, SignedBootManifest.fromDict pyRuntime tokenManifest = .ok manifest) ∧
      SameReading pyRuntime timeHost (.obj (tokenMembers arrayAudience)) ∧
      Client.EnrollmentToken.deserialize timeHost (.obj (tokenMembers arrayAudience)) =
        some clientToken ∧
      Client.validateToken clientToken clientManifest (nanos newYear) = .ok () ∧
      ∀ dict token', Client.toValue (.obj (tokenMembers arrayAudience)) = .obj dict →
        EnrollmentToken.fromDict pyRuntime dict ≠ .ok token' := by
  refine ⟨deserialize_tokenManifest, ⟨_, fromDict_tokenManifest⟩, sameReading_array,
    deserialize_arrayAudience, validateToken_clientToken, fun dict token' hdict htoken => ?_⟩
  obtain rfl := Json.obj.inj hdict
  obtain ⟨audience, hget, -⟩ := (EnrollmentToken.fromDict_eq_ok.mp htoken).audience
  have harray : Members.get (Client.collectMap (Client.toValueMembers (tokenMembers arrayAudience)))
      "audience" = some arrayAudience := rfl
  exact absurd (hget.symm.trans harray) (by simp [arrayAudience])

end Nlboot.Parity
