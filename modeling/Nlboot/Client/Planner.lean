import Nlboot.Client.Documents

/-!
# The client's planner

Model of the functions of `rust/nlboot-client/src/main.rs` that the `plan` command is made of. They
check the documents they are given and build a plan; nothing is read or written here. An error is
the text of the message.

* `blank`: `str::trim` leaves nothing. Rust trims the characters of Unicode's `White_Space`.
* `validateManifestShape`, `validateTrustedKeyLifecycle`, `trustedKeyFor`, `verifyRsaPssSha256`,
  `validateManifest`, `validateToken`: the checks.
* `buildPlan` and the tables it is built from.

Results:
* **`validateManifestShape_eq_ok`**: what a manifest that passes has.
* **`trustedKeyFor_eq_ok`**: the key that is found is the first of its reference, and live.
* `validateManifest_eq_ok`: what a verified manifest has.
* `validateToken_eq_ok`: what a token that passes has.
-/

namespace Nlboot.Client

open Nlboot.Lib

variable {N K D : Type}

/-- `FIPS_READY_ALGORITHM`. -/
def fipsReadyAlgorithm : String := "rsa-pss-sha256"

/-- `FIPS_READY_PROFILE`. -/
def fipsReadyProfile : String := "fips-140-3-compatible"

/-- `char::is_whitespace`. -/
def isWhitespace (c : Char) : Bool :=
  let n := c.toNat
  (0x09 ≤ n && n ≤ 0x0D) || n == 0x20 || n == 0x85 || n == 0xA0 || n == 0x1680 ||
    (0x2000 ≤ n && n ≤ 0x200A) || n == 0x2028 || n == 0x2029 || n == 0x202F || n == 0x205F ||
    n == 0x3000

/-- `value.trim().is_empty()`. -/
def blank (value : String) : Bool := value.toList.all isWhitespace

/-- `text.starts_with(head)`. -/
def startsWith (text head : String) : Bool := head.toList.isPrefixOf text.toList

/-- `text.contains(part)`. -/
def contains (text part : String) : Bool := text.toList.tails.any part.toList.isPrefixOf

/-- The modes a manifest may have. -/
def bootModes : List String := ["installer", "recovery", "ephemeral", "bootstrap"]

/-- The references a manifest must have. -/
def requiredRefs : List String := ["kernel_ref", "initrd_ref", "rootfs_ref"]

/-- `validate_manifest_shape`. -/
def validateManifestShape (manifest : SignedBootManifest) (requireFips : Bool) :
    Except String Unit := do
  check (blank manifest.manifestId = false) "manifest_id must be non-empty"
  check (blank manifest.bootReleaseSetId = false) "boot_release_set_id must be non-empty"
  check (blank manifest.baseReleaseSetRef = false) "base_release_set_ref must be non-empty"
  check (manifest.bootMode ∈ bootModes) ("unsupported boot_mode=" ++ manifest.bootMode)
  requiredRefs.forM fun key =>
    check (∃ ref ∈ manifest.artifacts.lookup key, blank ref = false)
      ("artifacts missing required ref: " ++ key)
  check (startsWith manifest.signatureRef "urn:srcos:signature:" = true)
    "signature_ref must be a SourceOS signature URN"
  check (requireFips = true → manifest.signatureAlgorithm = fipsReadyAlgorithm ∧
      manifest.cryptoProfile = fipsReadyProfile)
    "require-fips requires rsa-pss-sha256 and fips-140-3-compatible profile"
  check (blank manifest.signerRef = false ∧ blank manifest.signatureHex = false)
    "manifest signer_ref and signature_hex must be non-empty"

/-- `validate_trusted_key_lifecycle`. -/
def validateTrustedKeyLifecycle (host : Host N K D) (key : TrustedKey) (now : Int) :
    Except String Unit := do
  check (blank key.keyRef = false) "trusted key requires key_ref"
  check (key.algorithm = fipsReadyAlgorithm) "trusted key must use rsa-pss-sha256"
  check (contains key.publicKeyPem "BEGIN PUBLIC KEY" = true) "trusted key requires PEM public key"
  check (key.status ∈ ["active", "retired", "revoked"])
    "trusted key status must be active, retired, or revoked"
  check (¬ (key.status = "revoked" ∨ key.revokedAt.isSome))
    ("trusted key " ++ host.debug key.keyRef ++ " is revoked")
  check (key.status = "active") ("trusted key " ++ host.debug key.keyRef ++ " is not active")
  check (∀ notBefore ∈ key.notBefore, notBefore ≤ now)
    ("trusted key " ++ host.debug key.keyRef ++ " is not active yet")
  check (∀ notAfter ∈ key.notAfter, now < notAfter)
    ("trusted key " ++ host.debug key.keyRef ++ " is expired")
  check (∀ reason ∈ key.revocationReason, blank reason = false)
    "revocation_reason must be non-empty when present"

/-- `trusted_key_for`: the first key of the document with the signer's reference. -/
def trustedKeyFor (host : Host N K D) (signerRef : String) (now : Int) :
    List TrustedKey → Except String TrustedKey
  | [] => throw ("no trusted key for signer_ref=" ++ host.debug signerRef)
  | key :: keys =>
    if key.keyRef = signerRef then do
      validateTrustedKeyLifecycle host key now
      pure key
    else trustedKeyFor host signerRef now keys

/-- `verify_rsa_pss_sha256`. -/
def verifyRsaPssSha256 (host : Host N K D) (payload : List UInt8) (signatureHex : String)
    (key : TrustedKey) : Except String Unit := do
  let signature ← orThrow "signature_hex must be hex" (hexDecode signatureHex.toList)
  let publicKey ← orThrow "failed to parse trusted key PEM" (host.fromPublicKeyPem key.publicKeyPem)
  match host.signatureError signature with
  | some e => throw ("invalid signature bytes: " ++ e)
  | none => check (host.verify publicKey payload signature = true) "signature verification failed"

/-- `validate_manifest`. -/
def validateManifest (host : Host N K D) (manifest : SignedBootManifest) (manifestValue : Json N)
    (requireFips : Bool) (trustedKeys : TrustedKeyDocument) (now : Int) : Except String Unit := do
  validateManifestShape manifest requireFips
  let trustedKey ← trustedKeyFor host manifest.signerRef now trustedKeys.keys
  check (trustedKey.algorithm = manifest.signatureAlgorithm)
    "trusted key algorithm does not match manifest"
  let payload ← canonicalManifestPayload host.num manifestValue
  verifyRsaPssSha256 host payload manifest.signatureHex trustedKey

/-- The purposes a token may have for a manifest of this mode. -/
def purposesForMode : String → List String
  | "recovery" => ["recovery", "repair"]
  | "installer" => ["enroll", "boot"]
  | "ephemeral" => ["boot"]
  | "bootstrap" => ["enroll", "boot"]
  | _ => []

/-- `validate_token`. -/
def validateToken (token : EnrollmentToken) (manifest : SignedBootManifest) (now : Int) :
    Except String Unit := do
  check (blank token.tokenId = false) "token_id must be non-empty"
  check (token.purpose ∈ ["enroll", "boot", "repair", "recovery"])
    ("unsupported purpose=" ++ token.purpose)
  check (token.status = "issued") ("token status must be issued, got " ++ token.status)
  check (now < token.expiresAt) "token is expired"
  check (token.issuedAt < token.expiresAt) "issued_at must be before expires_at"
  check (token.oneTimeUse = true) "token must be one-time use"
  check (token.bootReleaseSetRef = some manifest.bootReleaseSetId)
    "token boot_release_set_ref does not match manifest"
  check (token.releaseSetRef = some manifest.baseReleaseSetRef)
    "token release_set_ref does not match manifest base release"
  check (token.purpose ∈ purposesForMode manifest.bootMode)
    ("token purpose " ++ token.purpose ++ " is not valid for boot_mode " ++ manifest.bootMode)
  check (blank token.audience.subjectKind = false) "audience.subject_kind must be non-empty"
  check (∀ subjectId ∈ token.audience.subjectId, blank subjectId = false)
    "audience.subject_id must be non-empty when present"

/-! ## Plans -/

/-- `action_for_mode`. -/
def actionForMode : String → String
  | "recovery" => "boot-recovery"
  | "installer" => "boot-installer"
  | "ephemeral" => "boot-ephemeral"
  | "bootstrap" => "bootstrap-only"
  | _ => "present-menu"

/-- `operations_for_mode`. -/
def operationsForMode : String → List String
  | "recovery" => ["present-menu", "verify-artifacts", "plan-recovery", "plan-rollback"]
  | "installer" => ["present-menu", "verify-artifacts", "plan-install"]
  | "ephemeral" => ["present-menu", "verify-artifacts", "plan-ephemeral-boot"]
  | "bootstrap" => ["present-menu", "verify-artifacts", "plan-bootstrap"]
  | _ => ["present-menu"]

/-- `proof_requirements_for_mode`. -/
def proofRequirementsForMode (mode : String) : List String :=
  ["verified_manifest_signature", "validated_one_time_token", "artifact_ref_manifest",
    "boot_plan_record"] ++
  if mode = "recovery" ∨ mode = "installer" then ["device_claim_record", "post_action_fingerprint"]
  else ["session_fingerprint"]

/-- `fallback_for_mode`. -/
def fallbackForMode (mode : String) : OfflineFallback :=
  let enabled := decide (mode = "recovery" ∨ mode = "ephemeral")
  { enabled
    strategy := if enabled then "last-known-good-signed-boot-release-set" else "none"
    requiresSignatureVerification := true
    allowsUnsignedArtifacts := false }

/-- `build_plan`. -/
def buildPlan (manifest : SignedBootManifest) (token : EnrollmentToken) : BootPlan where
  action := actionForMode manifest.bootMode
  manifestId := manifest.manifestId
  bootReleaseSetId := manifest.bootReleaseSetId
  releaseSetRef := manifest.baseReleaseSetRef
  artifacts := manifest.artifacts
  authorizedBy := token.tokenId
  signatureAlgorithm := manifest.signatureAlgorithm
  cryptoProfile := manifest.cryptoProfile
  policyRef := "policy://sourceos/nlboot/" ++ manifest.bootMode ++ "/safe-plan-v1"
  allowedOperations := operationsForMode manifest.bootMode
  proofRequirements := proofRequirementsForMode manifest.bootMode
  offlineFallback := fallbackForMode manifest.bootMode
  execute := false

/-- `parse_now`, with `clock` the reading of the system clock. -/
def parseNow (host : Host N K D) (clock : Int) : Option String → Except String Int
  | some value => host.parseFromRfc3339 value
  | none => pure clock

/-! ## What passes -/

/-- The manifest has what `validate_manifest_shape` asks for. -/
structure Shaped (manifest : SignedBootManifest) (requireFips : Bool) : Prop where
  manifestId : blank manifest.manifestId = false
  bootReleaseSetId : blank manifest.bootReleaseSetId = false
  baseReleaseSetRef : blank manifest.baseReleaseSetRef = false
  bootMode : manifest.bootMode ∈ bootModes
  artifacts : ∀ key ∈ requiredRefs, ∃ ref, manifest.artifacts.lookup key = some ref ∧
    blank ref = false
  signatureRef : startsWith manifest.signatureRef "urn:srcos:signature:" = true
  fips : requireFips = true → manifest.signatureAlgorithm = fipsReadyAlgorithm ∧
    manifest.cryptoProfile = fipsReadyProfile
  signerRef : blank manifest.signerRef = false
  signatureHex : blank manifest.signatureHex = false

/-- **A manifest passes** iff it has the shape. -/
theorem validateManifestShape_eq_ok {manifest : SignedBootManifest} {requireFips : Bool}
    {u : Unit} : validateManifestShape manifest requireFips = .ok u ↔
      Shaped manifest requireFips := by
  unfold validateManifestShape
  simp only [bind_eq_ok, check_eq_ok, exists_const, forM_check_eq_ok]
  constructor
  · rintro ⟨hid, hrelease, hbase, hmode, hrefs, hurn, hfips, hsigner, hhex⟩
    exact ⟨hid, hrelease, hbase, hmode, hrefs, hurn, hfips, hsigner, hhex⟩
  · rintro ⟨hid, hrelease, hbase, hmode, hrefs, hurn, hfips, hsigner, hhex⟩
    exact ⟨hid, hrelease, hbase, hmode, hrefs, hurn, hfips, hsigner, hhex⟩

/-- The token authorises a plan for the manifest. -/
structure TokenFor (token : EnrollmentToken) (manifest : SignedBootManifest) (now : Int) :
    Prop where
  tokenId : blank token.tokenId = false
  known : token.purpose ∈ ["enroll", "boot", "repair", "recovery"]
  status : token.status = "issued"
  notExpired : now < token.expiresAt
  ordered : token.issuedAt < token.expiresAt
  oneTimeUse : token.oneTimeUse = true
  bootReleaseSetRef : token.bootReleaseSetRef = some manifest.bootReleaseSetId
  releaseSetRef : token.releaseSetRef = some manifest.baseReleaseSetRef
  purpose : token.purpose ∈ purposesForMode manifest.bootMode
  subjectKind : blank token.audience.subjectKind = false
  subjectId : ∀ subjectId ∈ token.audience.subjectId, blank subjectId = false

theorem validateToken_eq_ok {token : EnrollmentToken} {manifest : SignedBootManifest} {now : Int}
    {u : Unit} : validateToken token manifest now = .ok u ↔ TokenFor token manifest now := by
  unfold validateToken
  simp only [bind_eq_ok, check_eq_ok, exists_const]
  constructor
  · rintro ⟨hid, hknown, hstatus, hexp, hord, hone, hboot, hrel, hpurpose, hkind, hsubject⟩
    exact ⟨hid, hknown, hstatus, hexp, hord, hone, hboot, hrel, hpurpose, hkind, hsubject⟩
  · rintro ⟨hid, hknown, hstatus, hexp, hord, hone, hboot, hrel, hpurpose, hkind, hsubject⟩
    exact ⟨hid, hknown, hstatus, hexp, hord, hone, hboot, hrel, hpurpose, hkind, hsubject⟩

/-- The key is live at this time, and what `validate_trusted_key_lifecycle` asks for besides. -/
structure LiveKey (key : TrustedKey) (now : Int) : Prop where
  keyRef : blank key.keyRef = false
  algorithm : key.algorithm = fipsReadyAlgorithm
  publicKeyPem : contains key.publicKeyPem "BEGIN PUBLIC KEY" = true
  status : key.status = "active"
  revokedAt : key.revokedAt = none
  notBefore : ∀ notBefore ∈ key.notBefore, notBefore ≤ now
  notAfter : ∀ notAfter ∈ key.notAfter, now < notAfter
  revocationReason : ∀ reason ∈ key.revocationReason, blank reason = false

theorem validateTrustedKeyLifecycle_eq_ok {host : Host N K D} {key : TrustedKey} {now : Int}
    {u : Unit} : validateTrustedKeyLifecycle host key now = .ok u ↔ LiveKey key now := by
  unfold validateTrustedKeyLifecycle
  simp only [bind_eq_ok, check_eq_ok, exists_const, not_or, Option.not_isSome_iff_eq_none]
  constructor
  · rintro ⟨href, halg, hpem, -, ⟨-, hrevoked⟩, hactive, hbefore, hafter, hreason⟩
    exact ⟨href, halg, hpem, hactive, hrevoked, hbefore, hafter, hreason⟩
  · rintro ⟨href, halg, hpem, hactive, hrevoked, hbefore, hafter, hreason⟩
    exact ⟨href, halg, hpem, by simp [hactive], ⟨by simp [hactive], hrevoked⟩, hactive, hbefore,
      hafter, hreason⟩

/-- The first key of the reference. -/
structure FirstKey (keys : List TrustedKey) (signerRef : String) (i : Nat) (key : TrustedKey) :
    Prop where
  entry : keys[i]? = some key
  keyRef : key.keyRef = signerRef
  first : ∀ j < i, ∀ earlier, keys[j]? = some earlier → earlier.keyRef ≠ signerRef

theorem FirstKey.unique {keys : List TrustedKey} {signerRef : String} {i i' : Nat}
    {key key' : TrustedKey} (h : FirstKey keys signerRef i key)
    (h' : FirstKey keys signerRef i' key') : i = i' ∧ key = key' := by
  have hindex : i = i' := by
    rcases Nat.lt_trichotomy i i' with hlt | heq | hgt
    · exact absurd h.keyRef (h'.first i hlt key h.entry)
    · exact heq
    · exact absurd h'.keyRef (h.first i' hgt key' h'.entry)
  subst hindex
  exact ⟨rfl, Option.some.inj (h.entry.symm.trans h'.entry)⟩

theorem exists_firstKey {keys : List TrustedKey} {signerRef : String}
    (h : ∃ key ∈ keys, key.keyRef = signerRef) : ∃ i key, FirstKey keys signerRef i key := by
  classical
  have hindex : ∃ i : Nat, ∃ key : TrustedKey, keys[i]? = some key ∧ key.keyRef = signerRef := by
    obtain ⟨key, hkey, href⟩ := h
    obtain ⟨i, hi⟩ := List.getElem?_of_mem hkey
    exact ⟨i, key, hi, href⟩
  obtain ⟨key, hentry, href⟩ := Nat.find_spec hindex
  exact ⟨Nat.find hindex, key, hentry, href, fun j hj earlier hearlier heq =>
    Nat.find_min hindex hj ⟨earlier, hearlier, heq⟩⟩

/-- **The key the client finds** is the first of its reference, if it is live. -/
theorem trustedKeyFor_eq_ok {host : Host N K D} {signerRef : String} {now : Int}
    {key : TrustedKey} : ∀ {keys : List TrustedKey},
      trustedKeyFor host signerRef now keys = .ok key ↔
        (∃ i, FirstKey keys signerRef i key) ∧ LiveKey key now
  | [] => by
    refine ⟨fun h => absurd h throw_ne_ok, ?_⟩
    rintro ⟨⟨i, hentry, -, -⟩, -⟩
    exact absurd hentry (by simp)
  | first :: keys => by
    unfold trustedKeyFor
    by_cases hsame : first.keyRef = signerRef
    · simp only [if_pos hsame, bind_eq_ok, validateTrustedKeyLifecycle_eq_ok, exists_const,
        pure_eq_ok]
      have hfirst : FirstKey (first :: keys) signerRef 0 first :=
        ⟨rfl, hsame, fun j hj => absurd hj (Nat.not_lt_zero j)⟩
      constructor
      · rintro ⟨hlive, rfl⟩
        exact ⟨⟨0, hfirst⟩, hlive⟩
      · rintro ⟨⟨i, hkey⟩, hlive⟩
        obtain ⟨-, rfl⟩ := hfirst.unique hkey
        exact ⟨hlive, rfl⟩
    · rw [if_neg hsame, trustedKeyFor_eq_ok]
      refine and_congr_left fun _ => ⟨?_, ?_⟩
      · rintro ⟨i, hentry, href, hfirst⟩
        refine ⟨i + 1, hentry, href, fun j hj earlier hearlier => ?_⟩
        cases j with
        | zero => exact Option.some.inj hearlier ▸ hsame
        | succ j => exact hfirst j (by omega) earlier hearlier
      · rintro ⟨i, hentry, href, hfirst⟩
        cases i with
        | zero => exact absurd (Option.some.inj hentry ▸ href) hsame
        | succ i =>
          exact ⟨i, hentry, href, fun j hj earlier hearlier =>
            hfirst (j + 1) (by omega) earlier hearlier⟩

/-- What a verified manifest has: its shape, and a signature of the key its signer names. -/
theorem validateManifest_eq_ok {host : Host N K D} {manifest : SignedBootManifest}
    {manifestValue : Json N} {requireFips : Bool} {trustedKeys : TrustedKeyDocument} {now : Int}
    {u : Unit} :
    validateManifest host manifest manifestValue requireFips trustedKeys now = .ok u ↔
      Shaped manifest requireFips ∧ ∃ key payload,
        trustedKeyFor host manifest.signerRef now trustedKeys.keys = .ok key ∧
        key.algorithm = manifest.signatureAlgorithm ∧
        canonicalManifestPayload host.num manifestValue = .ok payload ∧
        verifyRsaPssSha256 host payload manifest.signatureHex key = .ok () := by
  unfold validateManifest
  simp only [bind_eq_ok, check_eq_ok, exists_const, validateManifestShape_eq_ok]
  constructor
  · rintro ⟨hshape, key, hkey, halg, payload, hpayload, hverify⟩
    exact ⟨hshape, key, payload, hkey, halg, hpayload, hverify⟩
  · rintro ⟨hshape, key, payload, hkey, halg, hpayload, hverify⟩
    exact ⟨hshape, key, hkey, halg, payload, hpayload, hverify⟩

end Nlboot.Client
