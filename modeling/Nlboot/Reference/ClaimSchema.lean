import Nlboot.Reference.ClaimDocuments

/-!
# Device claims and their schema

`schemas/device-claim.schema.v0.1.json` describes the document of a device claim. It asks for a
`schemaVersion` and a `kind`, as the schemas of the other contracts do; `to_dict` of `device.py`
writes neither. Everything else it asks for holds.

* `deviceClaimSchema`: the schema. The descriptions are left out.
* `labelled`: a document with the two members in front.
* `WellSized`: SHA-256 digests have 32 bytes, and no signature is empty.

Results:
* `missing_members`: what the document of a claim lacks.
* `labelled_validates_iff`: when the document of a claim is valid with the two members.
* **`makeClaim_schema`**: no claim conforms to the schema, and each of them would with a label.
-/

namespace Nlboot.Reference

open Nlboot.Lib

variable {N K : Type} {rt : Runtime N} {crypto : Crypto K}

/-- `schemas/device-claim.schema.v0.1.json`. -/
def deviceClaimSchema : ObjectSchema where
  additionalProperties := false
  required := ["schemaVersion", "kind", "device_id", "public_key_pem", "nonce", "claimed_at",
    "signature_algorithm", "crypto_profile", "signature_hex"]
  properties := [
    ("schemaVersion", [.const "v0.1"]),
    ("kind", [.const "DeviceClaim"]),
    ("device_id",
      [.typeString, .pattern (.whole "urn:srcos:device:sha256:" hexDigits 64 (some 64))]),
    ("public_key_pem", [.typeString, .pattern (.part "BEGIN PUBLIC KEY")]),
    ("nonce", [.typeString, .minLength 1]),
    ("claimed_at", [.typeString, .format "date-time"]),
    ("signature_algorithm", [.typeString, .const "rsa-pss-sha256"]),
    ("crypto_profile", [.typeString, .const "fips-140-3-compatible"]),
    ("signature_hex", [.typeString, .pattern (.whole "" hexDigits 1 none)])]

/-- The document with the members the schema labels it by. -/
def labelled (members : Members N) : Members N :=
  ("schemaVersion", .str "v0.1") :: ("kind", .str "DeviceClaim") :: members

/-- The document of a claim lacks its labels. -/
theorem missing_members (claim : DeviceClaim) (when : UtcTime) :
    deviceClaimSchema.missing (claim.members rt when) = ["schemaVersion", "kind"] := rfl

theorem members_invalid (claim : DeviceClaim) (when : UtcTime) :
    deviceClaimSchema.validates (claim.members rt when) = false :=
  ObjectSchema.not_validates_of_missing (missing_members claim when ▸ List.mem_cons_self)

/-! ## What a labelled claim has to be -/

/-- The fields of the claim are what the schema asks for. -/
structure SchemaFields (claim : DeviceClaim) : Prop where
  deviceId : (Pattern.whole "urn:srcos:device:sha256:" hexDigits 64 (some 64)).matches
    claim.deviceId = true
  publicKeyPem : (Pattern.part "BEGIN PUBLIC KEY").matches claim.publicKeyPem = true
  nonce : 1 ≤ claim.nonce.toList.length
  signatureAlgorithm : claim.signatureAlgorithm = "rsa-pss-sha256"
  cryptoProfile : claim.cryptoProfile = "fips-140-3-compatible"
  signatureHex : (Pattern.whole "" hexDigits 1 none).matches claim.signatureHex = true

/-- A labelled claim is valid iff its fields are what the schema asks for. -/
theorem labelled_validates_iff (claim : DeviceClaim) (when : UtcTime) :
    deviceClaimSchema.validates (labelled (claim.members rt when)) = true ↔ SchemaFields claim := by
  have hmissing : deviceClaimSchema.missing (labelled (claim.members rt when)) = [] := rfl
  have hfields : (labelled (claim.members rt when)).all deviceClaimSchema.acceptsMember = true ↔
      (Pattern.whole "urn:srcos:device:sha256:" hexDigits 64 (some 64)).matches
        claim.deviceId = true ∧
      (Pattern.part "BEGIN PUBLIC KEY").matches claim.publicKeyPem = true ∧
      1 ≤ claim.nonce.toList.length ∧ claim.signatureAlgorithm = "rsa-pss-sha256" ∧
      claim.cryptoProfile = "fips-140-3-compatible" ∧
      (Pattern.whole "" hexDigits 1 none).matches claim.signatureHex = true := by
    simp [labelled, DeviceClaim.members, ObjectSchema.acceptsMember, deviceClaimSchema,
      List.lookup_cons, Keyword.accepts]
  rw [ObjectSchema.validates_iff, and_iff_right hmissing, ← List.all_eq_true, hfields]
  constructor
  · rintro ⟨hid, hpem, hnonce, halg, hprofile, hhex⟩
    exact ⟨hid, hpem, hnonce, halg, hprofile, hhex⟩
  · rintro ⟨hid, hpem, hnonce, halg, hprofile, hhex⟩
    exact ⟨hid, hpem, hnonce, halg, hprofile, hhex⟩

/-- What is parsed back from the document of a claim has the fields of the claim. -/
theorem SchemaFields.parsed {claim parsed : DeviceClaim} {when when' : UtcTime}
    (h : SchemaFields claim) (hdoc : ClaimDoc rt (claim.members rt when) parsed when') :
    SchemaFields parsed := by
  have heq : ∀ {s t : String}, some (Json.str s : Json N) = some (.str t) → t = s :=
    fun hsome => (Json.str.inj (Option.some.inj hsome)).symm
  exact
    { deviceId := heq hdoc.deviceId.1 ▸ h.deviceId
      publicKeyPem := heq hdoc.publicKeyPem.1 ▸ h.publicKeyPem
      nonce := heq hdoc.nonce.1 ▸ h.nonce
      signatureAlgorithm := heq hdoc.signatureAlgorithm.1 ▸ h.signatureAlgorithm
      cryptoProfile := heq hdoc.cryptoProfile.1 ▸ h.cryptoProfile
      signatureHex := heq hdoc.signatureHex.1 ▸ h.signatureHex }

/-- Digests have 32 bytes, and no signature of the identity is empty. -/
structure WellSized (identity : DeviceIdentity crypto) : Prop where
  digest : ∀ bytes, (crypto.sha256 bytes).length = 32
  signature : ∀ salt payload, identity.sign salt payload ≠ []

/-- **The claims of an identity** have the fields the schema asks for. -/
theorem claimFor_fields {identity : DeviceIdentity crypto} (hsized : WellSized identity)
    {salt : List UInt8} {nonce : String} (hnonce : blank nonce = false) {when : UtcTime} :
    SchemaFields (identity.claimFor rt salt nonce when) := by
  obtain ⟨key, ⟨hmark, -⟩, hid⟩ := identity.exists_key
  have hnil : nonce.toList ≠ [] := by
    intro hnil
    rw [blank, hnil] at hnonce
    exact absurd hnonce (by simp)
  refine ⟨Pattern.matches_whole.mpr ?_, hmark, List.length_pos_of_ne_nil hnil, rfl, rfl,
    Pattern.matches_whole.mpr ?_⟩
  · have htext : identity.deviceId.toList = "urn:srcos:device:sha256:".toList ++
        (hexdigest (crypto.sha256 (crypto.publicBytes key))).toList := by
      rw [← hid, fingerprint, String.toList_append]
      rfl
    have hlength := length_hexdigest (crypto.sha256 (crypto.publicBytes key))
    rw [hsized.digest] at hlength
    refine ⟨_, htext, fun c => mem_hexDigits, by omega, ?_⟩
    rintro _ ⟨⟩
    omega
  · refine ⟨_, (List.nil_append _).symm, fun c => mem_hexDigits, ?_, by simp⟩
    have hlength := length_hexdigest (identity.sign salt
      (signingPayload rt identity.deviceId identity.publicKeyPem nonce when))
    have hsign := List.length_pos_of_ne_nil (hsized.signature salt
      (signingPayload rt identity.deviceId identity.publicKeyPem nonce when))
    show 1 ≤ (hexdigest _).toList.length
    omega

/-- **No claim conforms to the schema.** What `to_dict` writes of a claim of `make_claim`, or of
what is parsed back from that, lacks `schemaVersion` and `kind` and is not valid; with the two it
would be. -/
theorem makeClaim_schema {identity : DeviceIdentity crypto} {clock : UtcTime} {salt : List UInt8}
    {nonce : String} {claimedAt : Option Moment} {claim : DeviceClaim}
    (h : identity.makeClaim rt clock salt nonce claimedAt = .ok claim) :
    ∀ emitted, emitted = claim ∨ (claim.toDict rt >>= DeviceClaim.fromDict rt) = .ok emitted →
      ∃ members, emitted.toDict rt = .ok members ∧
        deviceClaimSchema.validates members = false ∧
        deviceClaimSchema.missing members = ["schemaVersion", "kind"] ∧
        (WellSized identity → deviceClaimSchema.validates (labelled members) = true) := by
  intro emitted hemitted
  obtain ⟨hnonce, when, -, rfl⟩ := DeviceIdentity.makeClaim_eq_ok.mp h
  have hfields : WellSized identity → SchemaFields (identity.claimFor rt salt nonce when) :=
    fun hsized => claimFor_fields hsized hnonce
  have hemit : ∀ {claim : DeviceClaim} {when : UtcTime}, claim.claimedAt = when.toMoment →
      (WellSized identity → SchemaFields claim) → ∃ members, claim.toDict rt = .ok members ∧
        deviceClaimSchema.validates members = false ∧
        deviceClaimSchema.missing members = ["schemaVersion", "kind"] ∧
        (WellSized identity → deviceClaimSchema.validates (labelled members) = true) :=
    fun hutc hclaim => ⟨_, DeviceClaim.toDict_eq hutc, members_invalid _ _, missing_members _ _,
      fun hsized => (labelled_validates_iff _ _).mpr (hclaim hsized)⟩
  obtain rfl | hparsed := hemitted
  · exact hemit rfl hfields
  · have hdict : (identity.claimFor rt salt nonce when).toDict rt = _ := DeviceClaim.toDict_eq rfl
    rw [hdict] at hparsed
    obtain ⟨when', hdoc⟩ := DeviceClaim.fromDict_eq_ok.mp hparsed
    exact hemit hdoc.inUtc fun hsized => (hfields hsized).parsed hdoc

/-! ### A device with digests of 32 bytes -/

/-- `pyCrypto` with digests of 32 bytes. -/
def paddedCrypto : Crypto String where
  loadPemPublicKey := pyCrypto.loadPemPublicKey
  keySize := pyCrypto.keySize
  publicBytes := pyCrypto.publicBytes
  verify := pyCrypto.verify
  sha256 bytes := (bytes ++ List.replicate 32 0).take 32

/-- A device of `paddedCrypto`. -/
def paddedIdentity : DeviceIdentity paddedCrypto where
  deviceId := fingerprint paddedCrypto demoPem
  publicKeyPem := demoPem
  sign _ payload := utf8 demoPem.toList ++ payload
  fingerprinted := by decide

theorem wellSized_padded : WellSized paddedIdentity where
  digest bytes := by simp [paddedCrypto]
  signature _ payload := demoSignature_ne_nil payload

/-- A claim of this device. -/
def paddedClaim : DeviceClaim := paddedIdentity.claimFor pyRuntime [] "nonce-1" newYear

theorem paddedClaim_made :
    paddedIdentity.makeClaim pyRuntime newYear [] "nonce-1" none = .ok paddedClaim :=
  DeviceIdentity.makeClaim_eq_ok.mpr ⟨by decide, newYear, by decide, rfl⟩

/-- A claim of `make_claim` whose document is not valid. -/
theorem paddedClaim_invalid :
    paddedIdentity.makeClaim pyRuntime newYear [] "nonce-1" none = .ok paddedClaim ∧
      ∃ members, paddedClaim.toDict pyRuntime = .ok members ∧
        deviceClaimSchema.validates members = false :=
  ⟨paddedClaim_made, _, DeviceClaim.toDict_eq rfl, members_invalid _ _⟩

/-- It lacks the two members, and is valid with them. -/
theorem paddedClaim_unlabelled :
    ∃ members, paddedClaim.toDict pyRuntime = .ok members ∧
      deviceClaimSchema.missing members = ["schemaVersion", "kind"] ∧
      deviceClaimSchema.validates (labelled members) = true := by
  obtain ⟨members, hdict, -, hmissing, hlabelled⟩ := makeClaim_schema paddedClaim_made _ (.inl rfl)
  exact ⟨members, hdict, hmissing, hlabelled wellSized_padded⟩

end Nlboot.Reference
