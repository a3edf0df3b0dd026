import Nlboot.Client.Host

/-!
# The client's documents

The structs of `rust/nlboot-client/src/main.rs` with what serde derives for them: `deserialize`
where the source derives `Deserialize`, `serialize` where it derives `Serialize`. A
`DateTime<Utc>` is its time; a `u64` is a number, kept below `2 ^ 64` by the code that makes it.

* `SignedBootManifest`, `EnrollmentToken`, `TrustedKey`: what a plan is made from.
* `BootPlan`, `PlanOutput`: the plan and the document it is written in.
* `ArtifactMap`, `ArtifactCacheRecord`: what a fetch reads and writes.

Results:
* `SignedBootManifest.decodedFrom`, `EnrollmentToken.decodedFrom`: the members a document is
  decoded from.
* **`BootPlan.deserialize_serialize`**, **`ArtifactCacheRecord.deserialize_serialize`**: a plan and
  a record are read back as they were written.
-/

namespace Nlboot.Client

open Nlboot.Lib

variable {N K D : Type}

/-- `DateTime<Utc>`. -/
def decodeTime (host : Host N K D) : Json N → Option Int
  | .str s => host.timestamp s
  | _ => none

/-- `u64`. -/
def decodeU64 (host : Host N K D) : Json N → Option Nat
  | .num n => host.asU64 n
  | _ => none

/-! ## What a plan is made from -/

structure SignedBootManifest where
  manifestId : String
  bootReleaseSetId : String
  baseReleaseSetRef : String
  bootMode : String
  artifacts : List (String × String)
  signatureRef : String
  signerRef : String
  signatureAlgorithm : String
  cryptoProfile : String
  signatureHex : String

def SignedBootManifest.deserialize (doc : Json N) : Option SignedBootManifest := do
  let members ← structMembers ["manifest_id", "boot_release_set_id", "base_release_set_ref",
    "boot_mode", "artifacts", "signature_ref", "signer_ref", "signature_algorithm",
    "crypto_profile", "signature_hex"] doc
  let manifestId ← required decodeString members "manifest_id"
  let bootReleaseSetId ← required decodeString members "boot_release_set_id"
  let baseReleaseSetRef ← required decodeString members "base_release_set_ref"
  let bootMode ← required decodeString members "boot_mode"
  let artifacts ← required decodeMap members "artifacts"
  let signatureRef ← required decodeString members "signature_ref"
  let signerRef ← required decodeString members "signer_ref"
  let signatureAlgorithm ← required decodeString members "signature_algorithm"
  let cryptoProfile ← required decodeString members "crypto_profile"
  let signatureHex ← required decodeString members "signature_hex"
  return { manifestId, bootReleaseSetId, baseReleaseSetRef, bootMode, artifacts, signatureRef,
           signerRef, signatureAlgorithm, cryptoProfile, signatureHex }

/-- The members of an object that a manifest is decoded from. -/
structure SignedBootManifest.DecodedFrom (members : Members N) (manifest : SignedBootManifest) :
    Prop where
  manifestId : members.get "manifest_id" = some (.str manifest.manifestId)
  bootReleaseSetId : members.get "boot_release_set_id" = some (.str manifest.bootReleaseSetId)
  baseReleaseSetRef : members.get "base_release_set_ref" = some (.str manifest.baseReleaseSetRef)
  bootMode : members.get "boot_mode" = some (.str manifest.bootMode)
  artifacts : ∃ refs, members.get "artifacts" = some (.obj refs) ∧
    decodeMap (.obj refs) = some manifest.artifacts
  signatureRef : members.get "signature_ref" = some (.str manifest.signatureRef)
  signerRef : members.get "signer_ref" = some (.str manifest.signerRef)
  signatureAlgorithm :
    members.get "signature_algorithm" = some (.str manifest.signatureAlgorithm)
  cryptoProfile : members.get "crypto_profile" = some (.str manifest.cryptoProfile)
  signatureHex : members.get "signature_hex" = some (.str manifest.signatureHex)

/-- The artifacts of a manifest are a map. -/
theorem SignedBootManifest.artifacts_of_deserialize {doc : Json N} {manifest : SignedBootManifest}
    (h : deserialize doc = some manifest) : ∃ pairs, manifest.artifacts = btreeMap pairs := by
  obtain ⟨_, -, h⟩ := Option.bind_eq_some_iff.mp h
  obtain ⟨_, -, h⟩ := Option.bind_eq_some_iff.mp h
  obtain ⟨_, -, h⟩ := Option.bind_eq_some_iff.mp h
  obtain ⟨_, -, h⟩ := Option.bind_eq_some_iff.mp h
  obtain ⟨_, -, h⟩ := Option.bind_eq_some_iff.mp h
  obtain ⟨_, hartifacts, h⟩ := Option.bind_eq_some_iff.mp h
  obtain ⟨_, -, hmap⟩ := required_eq_some.mp hartifacts
  obtain ⟨_, -, h⟩ := Option.bind_eq_some_iff.mp h
  obtain ⟨_, -, h⟩ := Option.bind_eq_some_iff.mp h
  obtain ⟨_, -, h⟩ := Option.bind_eq_some_iff.mp h
  obtain ⟨_, -, h⟩ := Option.bind_eq_some_iff.mp h
  obtain ⟨_, -, h⟩ := Option.bind_eq_some_iff.mp h
  obtain rfl := Option.some.inj h
  exact decodeMap_eq_some hmap

/-- An object decodes as a manifest from its members. -/
theorem SignedBootManifest.decodedFrom {members : Members N} {manifest : SignedBootManifest}
    (h : deserialize (.obj members) = some manifest) : DecodedFrom members manifest := by
  unfold deserialize at h
  obtain ⟨_, hstruct, h⟩ := Option.bind_eq_some_iff.mp h
  obtain ⟨-, rfl⟩ := structMembers_obj_eq_some.mp hstruct
  obtain ⟨_, hid, h⟩ := Option.bind_eq_some_iff.mp h
  obtain ⟨_, hrelease, h⟩ := Option.bind_eq_some_iff.mp h
  obtain ⟨_, hbase, h⟩ := Option.bind_eq_some_iff.mp h
  obtain ⟨_, hmode, h⟩ := Option.bind_eq_some_iff.mp h
  obtain ⟨_, hartifacts, h⟩ := Option.bind_eq_some_iff.mp h
  obtain ⟨_, hurn, h⟩ := Option.bind_eq_some_iff.mp h
  obtain ⟨_, hsigner, h⟩ := Option.bind_eq_some_iff.mp h
  obtain ⟨_, halg, h⟩ := Option.bind_eq_some_iff.mp h
  obtain ⟨_, hprof, h⟩ := Option.bind_eq_some_iff.mp h
  obtain ⟨_, hhex, h⟩ := Option.bind_eq_some_iff.mp h
  obtain rfl := Option.some.inj h
  obtain ⟨refs, hrefs, hmap⟩ := required_eq_some.mp hartifacts
  rw [required_string_eq_some] at hid hrelease hbase hmode hurn hsigner halg hprof hhex
  refine ⟨hid, hrelease, hbase, hmode, ?_, hurn, hsigner, halg, hprof, hhex⟩
  cases refs with
  | obj refs => exact ⟨refs, hrefs, hmap⟩
  | null | bool | num | str | arr => simp [decodeMap] at hmap

structure Audience where
  subjectKind : String
  subjectId : Option String

def Audience.deserialize (doc : Json N) : Option Audience := do
  let members ← structMembers ["subject_kind", "subject_id"] doc
  let subjectKind ← required decodeString members "subject_kind"
  let subjectId ← optional decodeString members "subject_id"
  return { subjectKind, subjectId }

structure EnrollmentToken where
  tokenId : String
  purpose : String
  audience : Audience
  releaseSetRef : Option String
  bootReleaseSetRef : Option String
  oneTimeUse : Bool
  issuedAt : Int
  expiresAt : Int
  status : String

def EnrollmentToken.deserialize (host : Host N K D) (doc : Json N) : Option EnrollmentToken := do
  let members ← structMembers ["token_id", "purpose", "audience", "release_set_ref",
    "boot_release_set_ref", "one_time_use", "issued_at", "expires_at", "status"] doc
  let tokenId ← required decodeString members "token_id"
  let purpose ← required decodeString members "purpose"
  let audience ← required Audience.deserialize members "audience"
  let releaseSetRef ← optional decodeString members "release_set_ref"
  let bootReleaseSetRef ← optional decodeString members "boot_release_set_ref"
  let oneTimeUse ← required decodeBool members "one_time_use"
  let issuedAt ← required (decodeTime host) members "issued_at"
  let expiresAt ← required (decodeTime host) members "expires_at"
  let status ← required decodeString members "status"
  return { tokenId, purpose, audience, releaseSetRef, bootReleaseSetRef, oneTimeUse, issuedAt,
           expiresAt, status }

/-- The members of an object that a token is decoded from, and those of its audience. -/
structure EnrollmentToken.DecodedFrom (host : Host N K D) (members audience : Members N)
    (token : EnrollmentToken) : Prop where
  tokenId : members.get "token_id" = some (.str token.tokenId)
  purpose : members.get "purpose" = some (.str token.purpose)
  audienceDoc : members.get "audience" = some (.obj audience)
  subjectKind : audience.get "subject_kind" = some (.str token.audience.subjectKind)
  subjectId : optional decodeString audience "subject_id" = some token.audience.subjectId
  releaseSetRef : optional decodeString members "release_set_ref" = some token.releaseSetRef
  bootReleaseSetRef :
    optional decodeString members "boot_release_set_ref" = some token.bootReleaseSetRef
  oneTimeUse : members.get "one_time_use" = some (.bool token.oneTimeUse)
  issuedAt : ∃ text, members.get "issued_at" = some (.str text) ∧
    host.timestamp text = some token.issuedAt
  expiresAt : ∃ text, members.get "expires_at" = some (.str text) ∧
    host.timestamp text = some token.expiresAt
  status : members.get "status" = some (.str token.status)

theorem decodeTime_eq_some {host : Host N K D} {v : Json N} {time : Int} :
    decodeTime host v = some time ↔ ∃ text, v = .str text ∧ host.timestamp text = some time := by
  cases v <;> simp [decodeTime]

/-- The fields of a token. -/
def tokenFields : List String :=
  ["token_id", "purpose", "audience", "release_set_ref", "boot_release_set_ref", "one_time_use",
    "issued_at", "expires_at", "status"]

/-- The fields of an audience. -/
def audienceFields : List String := ["subject_kind", "subject_id"]

/-- No field occurs twice. -/
def Once (fields : List String) (members : Members N) : Prop :=
  ∀ field ∈ fields, (members.filter fun m => m.1 = field).length ≤ 1

/-- An object whose audience is an object decodes as a token from its members. -/
theorem EnrollmentToken.decodedFrom {host : Host N K D} {members audience : Members N}
    {token : EnrollmentToken} (h : deserialize host (.obj members) = some token)
    (haudience : members.get "audience" = some (.obj audience)) :
    DecodedFrom host members audience token ∧ Once tokenFields members ∧
      Once audienceFields audience := by
  unfold deserialize at h
  obtain ⟨_, hstruct, h⟩ := Option.bind_eq_some_iff.mp h
  obtain ⟨honce, rfl⟩ := structMembers_obj_eq_some.mp hstruct
  obtain ⟨_, hid, h⟩ := Option.bind_eq_some_iff.mp h
  obtain ⟨_, hpurpose, h⟩ := Option.bind_eq_some_iff.mp h
  obtain ⟨_, haud, h⟩ := Option.bind_eq_some_iff.mp h
  obtain ⟨_, hrel, h⟩ := Option.bind_eq_some_iff.mp h
  obtain ⟨_, hboot, h⟩ := Option.bind_eq_some_iff.mp h
  obtain ⟨_, hone, h⟩ := Option.bind_eq_some_iff.mp h
  obtain ⟨_, hissued, h⟩ := Option.bind_eq_some_iff.mp h
  obtain ⟨_, hexpires, h⟩ := Option.bind_eq_some_iff.mp h
  obtain ⟨_, hstatus, h⟩ := Option.bind_eq_some_iff.mp h
  obtain rfl := Option.some.inj h
  obtain ⟨_, hget, haud⟩ := required_eq_some.mp haud
  obtain rfl := Option.some.inj (haudience.symm.trans hget)
  obtain ⟨_, hissued, hissuedAt⟩ := required_eq_some.mp hissued
  obtain ⟨_, rfl, hissuedAt⟩ := decodeTime_eq_some.mp hissuedAt
  obtain ⟨_, hexpires, hexpiresAt⟩ := required_eq_some.mp hexpires
  obtain ⟨_, rfl, hexpiresAt⟩ := decodeTime_eq_some.mp hexpiresAt
  rw [required_string_eq_some] at hid hpurpose hstatus
  rw [required_bool_eq_some] at hone
  unfold Audience.deserialize at haud
  obtain ⟨_, hstruct, haud⟩ := Option.bind_eq_some_iff.mp haud
  obtain ⟨haonce, rfl⟩ := structMembers_obj_eq_some.mp hstruct
  obtain ⟨_, hkind, haud⟩ := Option.bind_eq_some_iff.mp haud
  obtain ⟨_, hsubject, haud⟩ := Option.bind_eq_some_iff.mp haud
  obtain rfl := Option.some.inj haud
  rw [required_string_eq_some] at hkind
  exact ⟨⟨hid, hpurpose, haudience, hkind, hsubject, hrel, hboot, hone, ⟨_, hissued, hissuedAt⟩,
    ⟨_, hexpires, hexpiresAt⟩, hstatus⟩, honce, haonce⟩

/-- A token is decoded from the members of an object, where no name occurs twice. -/
theorem EnrollmentToken.deserialize_of_decodedFrom {host : Host N K D}
    {members audience : Members N} {token : EnrollmentToken}
    (hn : (members.map Prod.fst).Nodup) (haudience : (audience.map Prod.fst).Nodup)
    (h : DecodedFrom host members audience token) :
    deserialize host (.obj members) = some token := by
  have htime : ∀ {name : String} {time : Int},
      (∃ text, members.get name = some (.str text) ∧ host.timestamp text = some time) →
        required (decodeTime host) members name = some time := by
    rintro name time ⟨text, hget, hstamp⟩
    exact required_eq_some.mpr ⟨_, hget, decodeTime_eq_some.mpr ⟨text, rfl, hstamp⟩⟩
  have haud : required Audience.deserialize members "audience" = some token.audience := by
    refine required_eq_some.mpr ⟨_, h.audienceDoc, ?_⟩
    unfold Audience.deserialize
    rw [structMembers_bind haudience, required_string_eq_some.mpr h.subjectKind, h.subjectId]
    rfl
  unfold deserialize
  rw [structMembers_bind hn, required_string_eq_some.mpr h.tokenId,
    required_string_eq_some.mpr h.purpose, haud, h.releaseSetRef, h.bootReleaseSetRef,
    required_bool_eq_some.mpr h.oneTimeUse, htime h.issuedAt, htime h.expiresAt,
    required_string_eq_some.mpr h.status]
  rfl

structure TrustedKey where
  keyRef : String
  algorithm : String
  publicKeyPem : String
  status : String
  notBefore : Option Int
  notAfter : Option Int
  revokedAt : Option Int
  revocationReason : Option String

/-- `default_active_status`. -/
def defaultActiveStatus : String := "active"

/-- `#[serde(default = "default_active_status")]`: only an absent member gets the default. -/
def statusField (members : Members N) : Option String :=
  match members.get "status" with
  | none => some defaultActiveStatus
  | some v => decodeString v

def TrustedKey.deserialize (host : Host N K D) (doc : Json N) : Option TrustedKey := do
  let members ← structMembers ["key_ref", "algorithm", "public_key_pem", "status", "not_before",
    "not_after", "revoked_at", "revocation_reason"] doc
  let keyRef ← required decodeString members "key_ref"
  let algorithm ← required decodeString members "algorithm"
  let publicKeyPem ← required decodeString members "public_key_pem"
  let status ← statusField members
  let notBefore ← optional (decodeTime host) members "not_before"
  let notAfter ← optional (decodeTime host) members "not_after"
  let revokedAt ← optional (decodeTime host) members "revoked_at"
  let revocationReason ← optional decodeString members "revocation_reason"
  return { keyRef, algorithm, publicKeyPem, status, notBefore, notAfter, revokedAt,
           revocationReason }

/-- The fields of a trusted key. -/
def trustedKeyFields : List String :=
  ["key_ref", "algorithm", "public_key_pem", "status", "not_before", "not_after", "revoked_at",
    "revocation_reason"]

/-- The members of an object that a trusted key is decoded from. -/
structure TrustedKey.DecodedFrom (host : Host N K D) (members : Members N) (key : TrustedKey) :
    Prop where
  keyRef : members.get "key_ref" = some (.str key.keyRef)
  algorithm : members.get "algorithm" = some (.str key.algorithm)
  publicKeyPem : members.get "public_key_pem" = some (.str key.publicKeyPem)
  status : statusField members = some key.status
  revokedAt : optional (decodeTime host) members "revoked_at" = some key.revokedAt

/-- An object decodes as a trusted key from its members, none of which occurs twice. -/
theorem TrustedKey.decodedFrom {host : Host N K D} {members : Members N} {key : TrustedKey}
    (h : deserialize host (.obj members) = some key) :
    DecodedFrom host members key ∧ Once trustedKeyFields members := by
  unfold deserialize at h
  obtain ⟨_, hstruct, h⟩ := Option.bind_eq_some_iff.mp h
  obtain ⟨honce, rfl⟩ := structMembers_obj_eq_some.mp hstruct
  obtain ⟨_, href, h⟩ := Option.bind_eq_some_iff.mp h
  obtain ⟨_, halg, h⟩ := Option.bind_eq_some_iff.mp h
  obtain ⟨_, hpem, h⟩ := Option.bind_eq_some_iff.mp h
  obtain ⟨_, hstatus, h⟩ := Option.bind_eq_some_iff.mp h
  obtain ⟨_, -, h⟩ := Option.bind_eq_some_iff.mp h
  obtain ⟨_, -, h⟩ := Option.bind_eq_some_iff.mp h
  obtain ⟨_, hrevoked, h⟩ := Option.bind_eq_some_iff.mp h
  obtain ⟨_, -, h⟩ := Option.bind_eq_some_iff.mp h
  obtain rfl := Option.some.inj h
  rw [required_string_eq_some] at href halg hpem
  exact ⟨⟨href, halg, hpem, hstatus, hrevoked⟩, honce⟩

structure TrustedKeyDocument where
  keys : List TrustedKey

def TrustedKeyDocument.deserialize (host : Host N K D) (doc : Json N) :
    Option TrustedKeyDocument := do
  let members ← structMembers ["keys"] doc
  let keys ← required (decodeVec (TrustedKey.deserialize host)) members "keys"
  return { keys }

/-! ## Plans -/

structure OfflineFallback where
  enabled : Bool
  strategy : String
  requiresSignatureVerification : Bool
  allowsUnsignedArtifacts : Bool
  deriving DecidableEq

def OfflineFallback.deserialize (doc : Json N) : Option OfflineFallback := do
  let members ← structMembers ["enabled", "strategy", "requires_signature_verification",
    "allows_unsigned_artifacts"] doc
  let enabled ← required decodeBool members "enabled"
  let strategy ← required decodeString members "strategy"
  let requiresSignatureVerification ← required decodeBool members "requires_signature_verification"
  let allowsUnsignedArtifacts ← required decodeBool members "allows_unsigned_artifacts"
  return { enabled, strategy, requiresSignatureVerification, allowsUnsignedArtifacts }

def OfflineFallback.serialize (fallback : OfflineFallback) : Json N :=
  .obj [("enabled", .bool fallback.enabled),
    ("strategy", .str fallback.strategy),
    ("requires_signature_verification", .bool fallback.requiresSignatureVerification),
    ("allows_unsigned_artifacts", .bool fallback.allowsUnsignedArtifacts)]

structure BootPlan where
  action : String
  manifestId : String
  bootReleaseSetId : String
  releaseSetRef : String
  artifacts : List (String × String)
  authorizedBy : String
  signatureAlgorithm : String
  cryptoProfile : String
  policyRef : String
  allowedOperations : List String
  proofRequirements : List String
  offlineFallback : OfflineFallback
  execute : Bool
  deriving DecidableEq

def BootPlan.deserialize (doc : Json N) : Option BootPlan := do
  let members ← structMembers ["action", "manifest_id", "boot_release_set_id", "release_set_ref",
    "artifacts", "authorized_by", "signature_algorithm", "crypto_profile", "policy_ref",
    "allowed_operations", "proof_requirements", "offline_fallback", "execute"] doc
  let action ← required decodeString members "action"
  let manifestId ← required decodeString members "manifest_id"
  let bootReleaseSetId ← required decodeString members "boot_release_set_id"
  let releaseSetRef ← required decodeString members "release_set_ref"
  let artifacts ← required decodeMap members "artifacts"
  let authorizedBy ← required decodeString members "authorized_by"
  let signatureAlgorithm ← required decodeString members "signature_algorithm"
  let cryptoProfile ← required decodeString members "crypto_profile"
  let policyRef ← required decodeString members "policy_ref"
  let allowedOperations ← required (decodeVec decodeString) members "allowed_operations"
  let proofRequirements ← required (decodeVec decodeString) members "proof_requirements"
  let offlineFallback ← required OfflineFallback.deserialize members "offline_fallback"
  let execute ← required decodeBool members "execute"
  return { action, manifestId, bootReleaseSetId, releaseSetRef, artifacts, authorizedBy,
           signatureAlgorithm, cryptoProfile, policyRef, allowedOperations, proofRequirements,
           offlineFallback, execute }

/-- The artifacts of a plan are a map. -/
theorem BootPlan.artifacts_of_deserialize {doc : Json N} {plan : BootPlan}
    (h : deserialize doc = some plan) : ∃ pairs, plan.artifacts = btreeMap pairs := by
  obtain ⟨_, -, h⟩ := Option.bind_eq_some_iff.mp h
  obtain ⟨_, -, h⟩ := Option.bind_eq_some_iff.mp h
  obtain ⟨_, -, h⟩ := Option.bind_eq_some_iff.mp h
  obtain ⟨_, -, h⟩ := Option.bind_eq_some_iff.mp h
  obtain ⟨_, -, h⟩ := Option.bind_eq_some_iff.mp h
  obtain ⟨artifacts, hartifacts, h⟩ := Option.bind_eq_some_iff.mp h
  obtain ⟨_, -, hmap⟩ := required_eq_some.mp hartifacts
  obtain ⟨_, -, h⟩ := Option.bind_eq_some_iff.mp h
  obtain ⟨_, -, h⟩ := Option.bind_eq_some_iff.mp h
  obtain ⟨_, -, h⟩ := Option.bind_eq_some_iff.mp h
  obtain ⟨_, -, h⟩ := Option.bind_eq_some_iff.mp h
  obtain ⟨_, -, h⟩ := Option.bind_eq_some_iff.mp h
  obtain ⟨_, -, h⟩ := Option.bind_eq_some_iff.mp h
  obtain ⟨_, -, h⟩ := Option.bind_eq_some_iff.mp h
  obtain ⟨_, -, h⟩ := Option.bind_eq_some_iff.mp h
  obtain rfl := Option.some.inj h
  exact decodeMap_eq_some hmap

def BootPlan.serialize (plan : BootPlan) : Json N :=
  .obj [("action", .str plan.action),
    ("manifest_id", .str plan.manifestId),
    ("boot_release_set_id", .str plan.bootReleaseSetId),
    ("release_set_ref", .str plan.releaseSetRef),
    ("artifacts", .obj (plan.artifacts.map fun m => (m.1, .str m.2))),
    ("authorized_by", .str plan.authorizedBy),
    ("signature_algorithm", .str plan.signatureAlgorithm),
    ("crypto_profile", .str plan.cryptoProfile),
    ("policy_ref", .str plan.policyRef),
    ("allowed_operations", .arr (plan.allowedOperations.map .str)),
    ("proof_requirements", .arr (plan.proofRequirements.map .str)),
    ("offline_fallback", plan.offlineFallback.serialize),
    ("execute", .bool plan.execute)]

/-- **A plan is decoded from what it is encoded to**, if its artifacts are a map. -/
theorem BootPlan.deserialize_serialize {plan : BootPlan}
    (h : btreeMap plan.artifacts = plan.artifacts) :
    deserialize (plan.serialize : Json N) = some plan := by
  have hnodup : ["action", "manifest_id", "boot_release_set_id", "release_set_ref", "artifacts",
      "authorized_by", "signature_algorithm", "crypto_profile", "policy_ref", "allowed_operations",
      "proof_requirements", "offline_fallback", "execute"].Nodup := by decide
  have htexts : ∀ texts : List String,
      decodeVec decodeString (.arr (texts.map .str) : Json N) = some texts := by
    intro texts
    show (texts.map .str).mapM decodeString = some texts
    rw [mapM_eq_some, List.forall₂_map_left_iff, List.forall₂_same]
    exact fun text _ => rfl
  have hfallback : OfflineFallback.deserialize (plan.offlineFallback.serialize : Json N) =
      some plan.offlineFallback := rfl
  refine (structMembers_bind ?_).trans <| (required_bind (by rfl) (by rfl)).trans <|
    (required_bind (by rfl) (by rfl)).trans <| (required_bind (by rfl) (by rfl)).trans <|
    (required_bind (by rfl) (by rfl)).trans <|
    (required_bind (by rfl) (decodeMap_of_btreeMap h)).trans <|
    (required_bind (by rfl) (by rfl)).trans <| (required_bind (by rfl) (by rfl)).trans <|
    (required_bind (by rfl) (by rfl)).trans <| (required_bind (by rfl) (by rfl)).trans <|
    (required_bind (by rfl) (htexts _)).trans <| (required_bind (by rfl) (htexts _)).trans <|
    (required_bind (by rfl) hfallback).trans <| (required_bind (by rfl) (by rfl)).trans rfl
  exact hnodup

structure PlanOutput where
  ok : Bool
  plan : BootPlan
  implementationNote : String

def PlanOutput.deserialize (doc : Json N) : Option PlanOutput := do
  let members ← structMembers ["ok", "plan", "implementation_note"] doc
  let ok ← required decodeBool members "ok"
  let plan ← required BootPlan.deserialize members "plan"
  let implementationNote ← required decodeString members "implementation_note"
  return { ok, plan, implementationNote }

def PlanOutput.serialize (output : PlanOutput) : Json N :=
  .obj [("ok", .bool output.ok),
    ("plan", output.plan.serialize),
    ("implementation_note", .str output.implementationNote)]

theorem PlanOutput.plan_of_deserialize {doc : Json N} {output : PlanOutput}
    (h : deserialize doc = some output) :
    ∃ v : Json N, BootPlan.deserialize v = some output.plan := by
  obtain ⟨_, -, h⟩ := Option.bind_eq_some_iff.mp h
  obtain ⟨_, -, h⟩ := Option.bind_eq_some_iff.mp h
  obtain ⟨_, hplan, h⟩ := Option.bind_eq_some_iff.mp h
  obtain ⟨v, -, hplan⟩ := required_eq_some.mp hplan
  obtain ⟨_, -, h⟩ := Option.bind_eq_some_iff.mp h
  obtain rfl := Option.some.inj h
  exact ⟨v, hplan⟩

theorem PlanOutput.deserialize_serialize {output : PlanOutput}
    (h : btreeMap output.plan.artifacts = output.plan.artifacts) :
    deserialize (output.serialize : Json N) = some output := by
  have hnodup : ["ok", "plan", "implementation_note"].Nodup := by decide
  refine (structMembers_bind ?_).trans <| (required_bind (by rfl) (by rfl)).trans <|
    (required_bind (by rfl) (BootPlan.deserialize_serialize h)).trans <|
    (required_bind (by rfl) (by rfl)).trans rfl
  exact hnodup

/-! ## Artifacts -/

structure ArtifactDescriptor where
  artifactRef : String
  kind : String
  source : String
  sha256 : String
  sizeBytes : Option Nat
  contentType : String

def ArtifactDescriptor.deserialize (host : Host N K D) (doc : Json N) :
    Option ArtifactDescriptor := do
  let members ← structMembers ["artifact_ref", "kind", "source", "sha256", "size_bytes",
    "content_type"] doc
  let artifactRef ← required decodeString members "artifact_ref"
  let kind ← required decodeString members "kind"
  let source ← required decodeString members "source"
  let sha256 ← required decodeString members "sha256"
  let sizeBytes ← optional (decodeU64 host) members "size_bytes"
  let contentType ← required decodeString members "content_type"
  return { artifactRef, kind, source, sha256, sizeBytes, contentType }

structure ArtifactMap where
  artifactMapId : String
  artifacts : List ArtifactDescriptor

def ArtifactMap.deserialize (host : Host N K D) (doc : Json N) : Option ArtifactMap := do
  let members ← structMembers ["artifact_map_id", "artifacts"] doc
  let artifactMapId ← required decodeString members "artifact_map_id"
  let artifacts ← required (decodeVec (ArtifactDescriptor.deserialize host)) members "artifacts"
  return { artifactMapId, artifacts }

structure CachedArtifactRecord where
  artifactRef : String
  kind : String
  sha256 : String
  sizeBytes : Nat
  contentType : String
  source : String
  cachePath : String
  deriving DecidableEq

def CachedArtifactRecord.deserialize (host : Host N K D) (doc : Json N) :
    Option CachedArtifactRecord := do
  let members ← structMembers ["artifact_ref", "kind", "sha256", "size_bytes", "content_type",
    "source", "cache_path"] doc
  let artifactRef ← required decodeString members "artifact_ref"
  let kind ← required decodeString members "kind"
  let sha256 ← required decodeString members "sha256"
  let sizeBytes ← required (decodeU64 host) members "size_bytes"
  let contentType ← required decodeString members "content_type"
  let source ← required decodeString members "source"
  let cachePath ← required decodeString members "cache_path"
  return { artifactRef, kind, sha256, sizeBytes, contentType, source, cachePath }

def CachedArtifactRecord.serialize (host : Host N K D) (artifact : CachedArtifactRecord) :
    Json N :=
  .obj [("artifact_ref", .str artifact.artifactRef),
    ("kind", .str artifact.kind),
    ("sha256", .str artifact.sha256),
    ("size_bytes", .num (host.ofU64 artifact.sizeBytes)),
    ("content_type", .str artifact.contentType),
    ("source", .str artifact.source),
    ("cache_path", .str artifact.cachePath)]

structure ArtifactCacheRecord where
  ok : Bool
  planManifestId : String
  bootReleaseSetId : String
  releaseSetRef : String
  artifactMapId : String
  createdAt : Int
  artifacts : List CachedArtifactRecord
  deriving DecidableEq

def ArtifactCacheRecord.deserialize (host : Host N K D) (doc : Json N) :
    Option ArtifactCacheRecord := do
  let members ← structMembers ["ok", "plan_manifest_id", "boot_release_set_id",
    "release_set_ref", "artifact_map_id", "created_at", "artifacts"] doc
  let ok ← required decodeBool members "ok"
  let planManifestId ← required decodeString members "plan_manifest_id"
  let bootReleaseSetId ← required decodeString members "boot_release_set_id"
  let releaseSetRef ← required decodeString members "release_set_ref"
  let artifactMapId ← required decodeString members "artifact_map_id"
  let createdAt ← required (decodeTime host) members "created_at"
  let artifacts ← required (decodeVec (CachedArtifactRecord.deserialize host)) members "artifacts"
  return { ok, planManifestId, bootReleaseSetId, releaseSetRef, artifactMapId, createdAt,
           artifacts }

def ArtifactCacheRecord.serialize (host : Host N K D) (record : ArtifactCacheRecord) : Json N :=
  .obj [("ok", .bool record.ok),
    ("plan_manifest_id", .str record.planManifestId),
    ("boot_release_set_id", .str record.bootReleaseSetId),
    ("release_set_ref", .str record.releaseSetRef),
    ("artifact_map_id", .str record.artifactMapId),
    ("created_at", .str (host.rfc3339 record.createdAt)),
    ("artifacts", .arr (record.artifacts.map (CachedArtifactRecord.serialize host)))]

/-- An artifact of a record is decoded from what it is encoded to, if its size is. -/
theorem CachedArtifactRecord.deserialize_serialize {host : Host N K D}
    {artifact : CachedArtifactRecord}
    (h : host.asU64 (host.ofU64 artifact.sizeBytes) = some artifact.sizeBytes) :
    deserialize host (artifact.serialize host) = some artifact := by
  have hnodup : ["artifact_ref", "kind", "sha256", "size_bytes", "content_type", "source",
      "cache_path"].Nodup := by decide
  refine (structMembers_bind ?_).trans <| (required_bind (by rfl) (by rfl)).trans <|
    (required_bind (by rfl) (by rfl)).trans <| (required_bind (by rfl) (by rfl)).trans <|
    (required_bind (by rfl) h).trans <|
    (required_bind (by rfl) (by rfl)).trans <| (required_bind (by rfl) (by rfl)).trans <|
    (required_bind (by rfl) (by rfl)).trans rfl
  exact hnodup

/-- **A record is decoded from what it is encoded to**, if its time and its sizes are. -/
theorem ArtifactCacheRecord.deserialize_serialize {host : Host N K D} {record : ArtifactCacheRecord}
    (htime : host.timestamp (host.rfc3339 record.createdAt) = some record.createdAt)
    (hsizes : ∀ artifact ∈ record.artifacts,
      host.asU64 (host.ofU64 artifact.sizeBytes) = some artifact.sizeBytes) :
    deserialize host (record.serialize host) = some record := by
  have hartifacts : decodeVec (CachedArtifactRecord.deserialize host)
      (.arr (record.artifacts.map (CachedArtifactRecord.serialize host))) =
        some record.artifacts := by
    show (record.artifacts.map (CachedArtifactRecord.serialize host)).mapM _ = _
    rw [mapM_eq_some, List.forall₂_map_left_iff, List.forall₂_same]
    exact fun artifact hartifact =>
      CachedArtifactRecord.deserialize_serialize (hsizes artifact hartifact)
  have hnodup : ["ok", "plan_manifest_id", "boot_release_set_id", "release_set_ref",
      "artifact_map_id", "created_at", "artifacts"].Nodup := by decide
  refine (structMembers_bind ?_).trans <| (required_bind (by rfl) (by rfl)).trans <|
    (required_bind (by rfl) (by rfl)).trans <| (required_bind (by rfl) (by rfl)).trans <|
    (required_bind (by rfl) (by rfl)).trans <| (required_bind (by rfl) (by rfl)).trans <|
    (required_bind (by rfl) htime).trans <| (required_bind (by rfl) hartifacts).trans rfl
  exact hnodup

end Nlboot.Client
