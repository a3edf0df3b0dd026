import Nlboot.Lib.Dict
import Nlboot.Reference.Runtime

/-!
# Trusted keys and signatures

Model of `src/nlboot/verify.py`: the trusted-key documents, the lifecycle of a key, the payloads
signatures are made over, and RSA-PSS/SHA-256 verification.

* `TrustedKey.fromDict`, `TrustedKey.validateLifecycle`, `loadTrustedKeys` and
  `loadVerifiedTrustBundle` keep the order of the checks in the source, so the error that leaves a
  function is the one the source raises.
* A lifecycle field that is not a string is read as absent (`optionalTime`), whatever it holds.
* Membership of an unhashable status in the set of statuses raises `TypeError` (`keyStatus`).

Results:
* `TrustedKey.fromDict_eq_ok`, `TrustedKey.validateLifecycle_eq_ok`: what an accepted entry is.
* `verifyRsaPssSha256_eq_ok`: when a signature verifies (`Verifies`).
* **`loadTrustedKeys_eq_ok`**, `lookup_loaded`: the document loads iff every item of `keys` is an
  accepted entry (`Loads`), and a lookup in the map finds the last entry of its `key_ref`.
-/

namespace Nlboot.Reference

open Nlboot.Lib

variable {N K : Type}

def fipsReadyAlgorithm : String := "rsa-pss-sha256"
def fipsReadyProfile : String := "fips-140-3-compatible"
def activeKeyStatus : String := "active"

/-! ## One trusted key -/

/-- `TrustedKey`. -/
structure TrustedKey where
  keyRef : String
  algorithm : String
  publicKeyPem : String
  status : String
  notBefore : Option UtcTime
  notAfter : Option UtcTime
  revokedAt : Option UtcTime
  revocationReason : Option String
  deriving DecidableEq

/-- `data.get("status", ACTIVE_KEY_STATUS)` and its membership test. -/
def keyStatus (value : Option (Json N)) : Except PyError String :=
  match value with
  | none => pure activeKeyStatus
  | some (.str s) => do
    check (s ∈ ["active", "retired", "revoked"])
      (.verification "trusted key status must be active, retired, or revoked")
    pure s
  | some (.arr _) | some (.obj _) => throw .type
  | some _ => throw (.verification "trusted key status must be active, retired, or revoked")

/-- `revocation_reason`: absent, null or a string. -/
def reasonField (value : Option (Json N)) : Except PyError (Option String) :=
  match value with
  | none | some .null => pure none
  | some (.str s) => pure (some s)
  | some _ => throw (.verification "revocation_reason must be string when present")

/-- `_parse_time(raw, field=field) if isinstance(raw, str) else None`. -/
def optionalTime (rt : Runtime N) (value : Option (Json N)) (field : String) :
    Except PyError (Option UtcTime) :=
  match value with
  | some (.str s) => some <$> parseTime rt .verification s field
  | _ => pure none

/-- `TrustedKey.from_dict`. -/
def TrustedKey.fromDict (rt : Runtime N) (data : Members N) : Except PyError TrustedKey := do
  let keyRef ← nonEmptyString (.verification "trusted key requires key_ref") (data.get "key_ref")
  check (equalsText (data.get "algorithm") fipsReadyAlgorithm)
    (.verification "trusted key must use rsa-pss-sha256")
  let publicKeyPem ← trustedPem (data.get "public_key_pem")
  let status ← keyStatus (data.get "status")
  let reason ← reasonField (data.get "revocation_reason")
  let notBefore ← optionalTime rt (data.get "not_before") "not_before"
  let notAfter ← optionalTime rt (data.get "not_after") "not_after"
  let revokedAt ← optionalTime rt (data.get "revoked_at") "revoked_at"
  pure { keyRef, algorithm := fipsReadyAlgorithm, publicKeyPem, status, notBefore, notAfter,
         revokedAt, revocationReason := reason }
where
  /-- A string with the PEM marker of a public key. -/
  trustedPem (value : Option (Json N)) : Except PyError String :=
    match value with
    | some (.str s) => do
      check (contains s "BEGIN PUBLIC KEY") (.verification "trusted key requires PEM public key")
      pure s
    | _ => throw (.verification "trusted key requires PEM public key")

/-- `TrustedKey.validate_lifecycle`. -/
def TrustedKey.validateLifecycle (rt : Runtime N) (clock : UtcTime) (now : Option Moment)
    (key : TrustedKey) : Except PyError Unit := do
  let current ← currentTime clock now
  let name := "trusted key " ++ rt.repr key.keyRef
  check (¬ (key.status = "revoked" ∨ key.revokedAt.isSome)) (.verification (name ++ " is revoked"))
  check (key.status = activeKeyStatus) (.verification (name ++ " is not active"))
  check (∀ t ∈ key.notBefore, t.micros ≤ current.micros)
    (.verification (name ++ " is not active yet"))
  check (∀ t ∈ key.notAfter, current.micros < t.micros) (.verification (name ++ " is expired"))

/-- The `public_key_pem` member of a trusted key. -/
theorem trustedPem_eq_ok {value : Option (Json N)} {pem : String} :
    TrustedKey.fromDict.trustedPem value = .ok pem ↔
      value = some (.str pem) ∧ contains pem "BEGIN PUBLIC KEY" = true :=
  checkedText_eq_ok

/-- What `TrustedKey.from_dict` accepts and returns. -/
theorem TrustedKey.fromDict_eq_ok {rt : Runtime N} {data : Members N} {key : TrustedKey} :
    TrustedKey.fromDict rt data = .ok key ↔
      (data.get "key_ref" = some (.str key.keyRef) ∧ key.keyRef ≠ "") ∧
      data.get "algorithm" = some (.str fipsReadyAlgorithm) ∧
      (data.get "public_key_pem" = some (.str key.publicKeyPem) ∧
        contains key.publicKeyPem "BEGIN PUBLIC KEY" = true) ∧
      keyStatus (data.get "status") = .ok key.status ∧
      reasonField (data.get "revocation_reason") = .ok key.revocationReason ∧
      optionalTime rt (data.get "not_before") "not_before" = .ok key.notBefore ∧
      optionalTime rt (data.get "not_after") "not_after" = .ok key.notAfter ∧
      optionalTime rt (data.get "revoked_at") "revoked_at" = .ok key.revokedAt ∧
      key.algorithm = fipsReadyAlgorithm := by
  unfold TrustedKey.fromDict
  simp only [bind_eq_ok, nonEmptyString_eq_ok, check_eq_ok, equalsText_iff, pure_eq_ok,
    trustedPem_eq_ok]
  constructor
  · rintro ⟨keyRef, href, _, halg, pem, hpem, status, hstatus, reason, hreason, nb, hnb, na, hna,
      ra, hra, rfl⟩
    exact ⟨href, halg, hpem, hstatus, hreason, hnb, hna, hra, rfl⟩
  · rintro ⟨href, halg, hpem, hstatus, hreason, hnb, hna, hra, hk⟩
    exact ⟨_, href, (), halg, _, hpem, _, hstatus, _, hreason, _, hnb, _, hna, _, hra, by
      rw [← hk]⟩

/-- What `TrustedKey.validate_lifecycle` accepts. -/
theorem TrustedKey.validateLifecycle_eq_ok {rt : Runtime N} {clock : UtcTime}
    {now : Option Moment} {key : TrustedKey} :
    key.validateLifecycle rt clock now = .ok () ↔
      ∃ current, currentTime clock now = .ok current ∧ key.status = activeKeyStatus ∧
        key.revokedAt = none ∧ (∀ t ∈ key.notBefore, t.micros ≤ current.micros) ∧
        ∀ t ∈ key.notAfter, current.micros < t.micros := by
  have hactive : activeKeyStatus ≠ "revoked" := by decide
  unfold TrustedKey.validateLifecycle
  simp only [bind_eq_ok, check_eq_ok, exists_const, not_or, Option.not_isSome_iff_eq_none]
  constructor
  · rintro ⟨current, hc, ⟨-, hrev⟩, hact, hnb, hna⟩
    exact ⟨current, hc, hact, hrev, hnb, hna⟩
  · rintro ⟨current, hc, hact, hrev, hnb, hna⟩
    exact ⟨current, hc, ⟨hact ▸ hactive, hrev⟩, hact, hnb, hna⟩

/-! ## Payloads and signatures -/

section

variable {S : Type} [PyText S] [DecidableEq S]

/-- The members `canonical_payload` is made of. -/
def signedPart (data : Members N S) : Members N S :=
  data.filter fun m => m.1 ≠ PyText.ofString "signature_hex"

/-- `canonical_payload`: the document without its top-level `signature_hex`. -/
def canonicalPayload (num : N → List Char) (data : Members N S) : List UInt8 :=
  jsonDumps num (.obj (signedPart data))

/-- `canonical_trust_bundle_payload`. -/
def canonicalTrustBundlePayload (num : N → List Char) (data : Members N S) : List UInt8 :=
  jsonDumps num (.obj (data.filter fun m =>
    m.1 ∉ [PyText.ofString "signature_hex", PyText.ofString "signatures"]))

end

/-- `verify_rsa_pss_sha256`. -/
def verifyRsaPssSha256 (crypto : Crypto K) (payload : List UInt8) (signatureHex : String)
    (trustedKey : TrustedKey) : Except PyError Unit :=
  match fromhex signatureHex.toList with
  | none => throw (.verification "signature_hex must be hex")
  | some signature =>
    match crypto.loadPemPublicKey trustedKey.publicKeyPem with
    | .valueError => throw .value
    | .unsupportedAlgorithm => throw .unsupportedAlgorithm
    | .otherKey => throw (.verification "trusted key must be RSA")
    | .rsa key => do
      check (2048 ≤ crypto.keySize key) (.verification "RSA key must be at least 2048 bits")
      check (crypto.verify key signature payload)
        (.verification "signature verification failed")

/-- The hex text is a signature of the payload under the trusted key, an RSA key of at least 2048
bits. -/
def Verifies (crypto : Crypto K) (trustedKey : TrustedKey) (signatureHex : String)
    (payload : List UInt8) : Prop :=
  ∃ signature key, fromhex signatureHex.toList = some signature ∧
    crypto.loadPemPublicKey trustedKey.publicKeyPem = .rsa key ∧ 2048 ≤ crypto.keySize key ∧
    crypto.verify key signature payload = true

/-- `verify_rsa_pss_sha256` returns iff the signature verifies. -/
theorem verifyRsaPssSha256_eq_ok {crypto : Crypto K} {payload : List UInt8}
    {signatureHex : String} {trustedKey : TrustedKey} {u : Unit} :
    verifyRsaPssSha256 crypto payload signatureHex trustedKey = .ok u ↔
      Verifies crypto trustedKey signatureHex payload := by
  unfold verifyRsaPssSha256 Verifies
  cases fromhex signatureHex.toList with
  | none => simp
  | some signature =>
    cases crypto.loadPemPublicKey trustedKey.publicKeyPem with
    | rsa key => simp
    | otherKey | valueError | unsupportedAlgorithm => simp

/-! ## Trusted-key documents -/

/-- The dictionary `load_trusted_keys` returns. -/
abbrev TrustedKeys := List (String × TrustedKey)

/-- One round of the loop of `load_trusted_keys`: the key under its own `key_ref`. -/
def loadEntry (rt : Runtime N) (clock : UtcTime) (now : Option Moment) (item : Json N) :
    Except PyError (String × TrustedKey) :=
  match item with
  | .obj entry => do
    let key ← TrustedKey.fromDict rt entry
    key.validateLifecycle rt clock now
    pure (key.keyRef, key)
  | _ => throw (.verification "trusted key entries must be objects")

/-- `load_trusted_keys`. -/
def loadTrustedKeys (rt : Runtime N) (clock : UtcTime) (now : Option Moment)
    (data : Members N) : Except PyError TrustedKeys :=
  match data.get "keys" with
  | some (.arr keys) =>
    keys.foldlM (fun loaded item =>
      (fun entry => dictSet loaded entry.1 entry.2) <$> loadEntry rt clock now item) []
  | _ => throw (.verification "trusted key document requires keys array")

/-- `load_verified_trust_bundle`. -/
def loadVerifiedTrustBundle (rt : Runtime N) (crypto : Crypto K) (clock : UtcTime)
    (now : Option Moment) (rootKeys : TrustedKeys) (data : Members N) :
    Except PyError TrustedKeys := do
  let _ ← nonEmptyString (.verification "trust bundle requires bundle_id") (data.get "bundle_id")
  let signerRef ←
    nonEmptyString (.verification "trust bundle requires signer_ref") (data.get "signer_ref")
  let signatureHex ←
    nonEmptyString (.verification "trust bundle requires signature_hex") (data.get "signature_hex")
  check (equalsText (data.get "signature_algorithm") fipsReadyAlgorithm)
    (.verification "trust bundle signature_algorithm must be rsa-pss-sha256")
  check (equalsText (data.get "crypto_profile") fipsReadyProfile)
    (.verification "trust bundle crypto_profile must be fips-140-3-compatible")
  match rootKeys.lookup signerRef with
  | none => throw (.verification ("no trusted root key for signer_ref=" ++ rt.repr signerRef))
  | some signer => do
    signer.validateLifecycle rt clock now
    verifyRsaPssSha256 crypto (canonicalTrustBundlePayload rt.num data) signatureHex signer
    loadTrustedKeys rt clock now data

/-- What one round of the loop accepts. -/
theorem loadEntry_eq_ok {rt : Runtime N} {clock : UtcTime} {now : Option Moment}
    {item : Json N} {r : String × TrustedKey} :
    loadEntry rt clock now item = .ok r ↔
      ∃ entry, item = .obj entry ∧ TrustedKey.fromDict rt entry = .ok r.2 ∧
        r.2.validateLifecycle rt clock now = .ok () ∧ r.1 = r.2.keyRef := by
  obtain ⟨ref, key⟩ := r
  unfold loadEntry
  split
  · rename_i entry
    simp only [bind_eq_ok, pure_eq_ok, Prod.mk.injEq, Json.obj.injEq, exists_eq_left']
    constructor
    · rintro ⟨key', hkey, _, hlife, rfl, rfl⟩
      exact ⟨hkey, hlife, rfl⟩
    · rintro ⟨hkey, hlife, rfl⟩
      exact ⟨key, hkey, (), hlife, rfl, rfl⟩
  · rename_i hne
    simp only [throw_ne_ok, false_iff]
    rintro ⟨entry, rfl, -⟩
    exact hne entry rfl

/-- The trusted-key document has these entries, in order, all of them accepted. -/
def Loads (rt : Runtime N) (clock : UtcTime) (now : Option Moment) (data : Members N)
    (entries : List (String × TrustedKey)) : Prop :=
  ∃ keys, data.get "keys" = some (.arr keys) ∧
    List.Forall₂ (fun item entry => loadEntry rt clock now item = .ok entry) keys entries

/-- **`load_trusted_keys` succeeds** iff `keys` is an array all of whose items are accepted, and
returns the map of its entries. -/
theorem loadTrustedKeys_eq_ok {rt : Runtime N} {clock : UtcTime} {now : Option Moment}
    {data : Members N} {loaded : TrustedKeys} :
    loadTrustedKeys rt clock now data = .ok loaded ↔
      ∃ entries, Loads rt clock now data entries ∧
        entries.foldl (fun d m => dictSet d m.1 m.2) [] = loaded := by
  unfold loadTrustedKeys Loads
  split
  · rename_i keys hkeys
    rw [foldlM_isOk (loadEntry rt clock now) (fun d m => dictSet d m.1 m.2) fun _ _ => rfl]
    simp only [hkeys, Option.some.injEq, Json.arr.injEq, exists_eq_left']
  · rename_i hne
    simp only [throw_ne_ok, false_iff]
    rintro ⟨_, ⟨keys, hkeys, -⟩, -⟩
    exact hne keys hkeys

/-- A lookup in the loaded map finds the last entry of its `key_ref`. -/
theorem lookup_loaded {entries : List (String × TrustedKey)} (ref : String) :
    (entries.foldl (fun d m => dictSet d m.1 m.2) ([] : TrustedKeys)).lookup ref =
      lastFor ref entries := by
  rw [lookup_foldl_dictSet]
  simp

end Nlboot.Reference
