import Nlboot.Reference.IsoTime
import Nlboot.Reference.Verify

/-!
# Device identities and claims

Model of `src/nlboot/device.py`: the fingerprint of a public key, the claims a device makes of
itself, and their verification.

* `DeviceIdentity` carries what holds of every identity the class methods build: its id is the
  fingerprint of its key. The private key is its signing function, of a random salt and a payload.
* `DeviceClaim` is a public record, so its `claimed_at` is any time; that of a claim `make_claim` or
  `from_dict` returns is in UTC. `_signing_payload` and `to_dict` normalise it, which may raise.
* `_load_public_key` turns the `ValueError` of the PEM loader into a `DeviceError`;
  `UnsupportedAlgorithm` is no `ValueError` and leaves `verify` as it is.

Results:
* **`DeviceClaim.verify_eq_ok`**: a claim verifies iff it proves possession of the key its id is
  the fingerprint of, over the expected nonce (`ProvesPossession`).
* `DeviceClaim.verify_eq_error`: any other claim raises `DeviceError`, except where the PEM loader
  does not know the algorithm of the key, or the time of a claim that is otherwise complete is no
  `datetime` in UTC (`Crashing`).
-/

namespace Nlboot.Reference

open Nlboot.Lib

variable {N K : Type}

def deviceIdPrefix : String := "urn:srcos:device:"
def rsaKeySize : Nat := 2048

/-! ## Public keys -/

/-- `_load_public_key`. -/
def loadPublicKey (crypto : Crypto K) (publicKeyPem : String) : Except PyError K := do
  check (contains publicKeyPem "BEGIN PUBLIC KEY")
    (.device "device public key must be a PEM SubjectPublicKeyInfo block")
  match crypto.loadPemPublicKey publicKeyPem with
  | .valueError => throw (.device "device public key is not valid PEM")
  | .unsupportedAlgorithm => throw .unsupportedAlgorithm
  | .otherKey => throw (.device "device key must be RSA")
  | .rsa key => do
    check (rsaKeySize ≤ crypto.keySize key) (.device "device RSA key must be at least 2048 bits")
    pure key

/-- The id of a device that holds the key. -/
def fingerprint (crypto : Crypto K) (key : K) : String :=
  deviceIdPrefix ++ "sha256:" ++ hexdigest (crypto.sha256 (crypto.publicBytes key))

/-- `device_fingerprint`. -/
def deviceFingerprint (crypto : Crypto K) (publicKeyPem : String) : Except PyError String :=
  fingerprint crypto <$> loadPublicKey crypto publicKeyPem

/-! ## Claims -/

/-- `DeviceClaim`. -/
structure DeviceClaim where
  deviceId : String
  publicKeyPem : String
  nonce : String
  claimedAt : Moment
  signatureAlgorithm : String
  cryptoProfile : String
  signatureHex : String
  deriving DecidableEq

/-- `isoformat().replace("+00:00", "Z")`. -/
def zuluText (rt : Runtime N) (t : UtcTime) : String := replace (rt.isoformat t) "+00:00" "Z"

/-- `DeviceClaim._signing_payload`, of a time in UTC. -/
def signingPayload {S : Type} [PyText S] (rt : Runtime N) (deviceId publicKeyPem nonce : S)
    (claimedAt : UtcTime) : List UInt8 :=
  jsonDumps rt.num (.obj [
    (PyText.ofString "device_id", .str deviceId),
    (PyText.ofString "public_key_pem", .str publicKeyPem),
    (PyText.ofString "nonce", .str nonce),
    (PyText.ofString "claimed_at", .str (PyText.ofString (zuluText rt claimedAt)))])

/-- `DeviceClaim._signing_payload`, of the claim's own fields. -/
def DeviceClaim.payload (rt : Runtime N) (claim : DeviceClaim) : Except PyError (List UInt8) :=
  signingPayload rt claim.deviceId claim.publicKeyPem claim.nonce <$> claim.claimedAt.astimezone

/-- `DeviceClaim.from_dict`. -/
def DeviceClaim.fromDict (rt : Runtime N) (data : Members N) : Except PyError DeviceClaim := do
  let deviceId ← requireString .device data "device_id"
  let publicKeyPem ← requireString .device data "public_key_pem"
  let nonce ← requireString .device data "nonce"
  let claimedText ← requireString .device data "claimed_at"
  let claimedAt ← parseTime rt .device claimedText "claimed_at"
  let signatureAlgorithm ← requireString .device data "signature_algorithm"
  let cryptoProfile ← requireString .device data "crypto_profile"
  let signatureHex ← requireString .device data "signature_hex"
  check (signatureAlgorithm = fipsReadyAlgorithm)
    (.device "signature_algorithm must be rsa-pss-sha256")
  check (cryptoProfile = fipsReadyProfile)
    (.device "crypto_profile must be fips-140-3-compatible")
  check (startswith deviceId deviceIdPrefix) (.device "device_id must be a SourceOS device URN")
  pure { deviceId, publicKeyPem, nonce, claimedAt, signatureAlgorithm, cryptoProfile,
         signatureHex }

/-- The dictionary of a claim, of a time in UTC. -/
def DeviceClaim.members (rt : Runtime N) (claim : DeviceClaim) (claimedAt : UtcTime) :
    Members N := [
  ("device_id", .str claim.deviceId),
  ("public_key_pem", .str claim.publicKeyPem),
  ("nonce", .str claim.nonce),
  ("claimed_at", .str (zuluText rt claimedAt)),
  ("signature_algorithm", .str claim.signatureAlgorithm),
  ("crypto_profile", .str claim.cryptoProfile),
  ("signature_hex", .str claim.signatureHex)]

/-- `DeviceClaim.to_dict`. -/
def DeviceClaim.toDict (rt : Runtime N) (claim : DeviceClaim) : Except PyError (Members N) :=
  claim.members rt <$> claim.claimedAt.astimezone

/-- `DeviceClaim.verify`. -/
def DeviceClaim.verify (rt : Runtime N) (crypto : Crypto K) (claim : DeviceClaim)
    (expectedNonce : Option String) : Except PyError Unit := do
  let id ← deviceFingerprint crypto claim.publicKeyPem
  check (id = claim.deviceId)
    (.device "device_id does not match presented public key fingerprint")
  check (∀ nonce ∈ expectedNonce, claim.nonce = nonce)
    (.device "device claim nonce does not match expected nonce")
  let publicKey ← loadPublicKey crypto claim.publicKeyPem
  match fromhex claim.signatureHex.toList with
  | none => throw (.device "signature_hex must be hex")
  | some signature => do
    let payload ← claim.payload rt
    check (crypto.verify publicKey signature payload)
      (.device "device claim signature verification failed")

/-- `DeviceIdentity`: the private key signs with RSA-PSS/SHA-256. -/
structure DeviceIdentity (crypto : Crypto K) where
  deviceId : String
  publicKeyPem : String
  sign (salt payload : List UInt8) : List UInt8
  fingerprinted : deviceFingerprint crypto publicKeyPem = .ok deviceId

/-- `DeviceIdentity.make_claim`. -/
def DeviceIdentity.makeClaim (rt : Runtime N) {crypto : Crypto K} (clock : UtcTime)
    (identity : DeviceIdentity crypto) (salt : List UInt8) (nonce : String)
    (claimedAt : Option Moment) : Except PyError DeviceClaim := do
  check (blank nonce = false) (.device "nonce must be a non-empty string")
  let when ← currentTime clock claimedAt
  let payload := signingPayload rt identity.deviceId identity.publicKeyPem nonce when
  pure {
    deviceId := identity.deviceId
    publicKeyPem := identity.publicKeyPem
    nonce
    claimedAt := when
    signatureAlgorithm := fipsReadyAlgorithm
    cryptoProfile := fipsReadyProfile
    signatureHex := hexdigest (identity.sign salt payload) }

/-! ## What verification establishes -/

/-- The PEM text is a public key block that loads as this RSA key, of at least 2048 bits. -/
def HoldsKey (crypto : Crypto K) (publicKeyPem : String) (key : K) : Prop :=
  contains publicKeyPem "BEGIN PUBLIC KEY" = true ∧
    crypto.loadPemPublicKey publicKeyPem = .rsa key ∧ rsaKeySize ≤ crypto.keySize key

/-- The PEM text is a public key block of an algorithm the loader does not know. -/
def UnsupportedKey (crypto : Crypto K) (publicKeyPem : String) : Prop :=
  contains publicKeyPem "BEGIN PUBLIC KEY" = true ∧
    crypto.loadPemPublicKey publicKeyPem = .unsupportedAlgorithm

/-- The claim is signed with the key its device id is the fingerprint of. -/
def ProvesPossession (rt : Runtime N) (crypto : Crypto K) (claim : DeviceClaim) : Prop :=
  ∃ key signature payload, HoldsKey crypto claim.publicKeyPem key ∧
    fingerprint crypto key = claim.deviceId ∧
    fromhex claim.signatureHex.toList = some signature ∧ claim.payload rt = .ok payload ∧
    crypto.verify key signature payload = true

/-- The claim is of the key its device id is the fingerprint of, it is over the expected nonce, and
its signature is hex; but its time is no `datetime` in UTC. -/
def UntimelyClaim (crypto : Crypto K) (claim : DeviceClaim) (expectedNonce : Option String) :
    Prop :=
  (∃ key, HoldsKey crypto claim.publicKeyPem key ∧ fingerprint crypto key = claim.deviceId) ∧
    (∀ nonce ∈ expectedNonce, claim.nonce = nonce) ∧
    (∃ signature, fromhex claim.signatureHex.toList = some signature) ∧ claim.claimedAt.Untimely

/-- `verify` comes to a step that raises another exception than `DeviceError`. -/
def Crashing (crypto : Crypto K) (claim : DeviceClaim) (expectedNonce : Option String) : Prop :=
  UnsupportedKey crypto claim.publicKeyPem ∨ UntimelyClaim crypto claim expectedNonce

/-- The error is a `DeviceError`. -/
def PyError.IsDevice (e : PyError) : Prop := ∃ message, e = .device message

theorem loadPublicKey_eq_ok {crypto : Crypto K} {publicKeyPem : String} {key : K} :
    loadPublicKey crypto publicKeyPem = .ok key ↔ HoldsKey crypto publicKeyPem key := by
  unfold loadPublicKey HoldsKey
  simp only [bind_eq_ok, check_eq_ok, exists_const]
  refine and_congr_right fun _ => ?_
  cases crypto.loadPemPublicKey publicKeyPem with
  | rsa key' =>
    simp only [bind_eq_ok, check_eq_ok, exists_const, pure_eq_ok, PemLoad.rsa.injEq]
    constructor
    · rintro ⟨hsize, rfl⟩; exact ⟨rfl, hsize⟩
    · rintro ⟨rfl, hsize⟩; exact ⟨hsize, rfl⟩
  | otherKey | valueError | unsupportedAlgorithm => simp

/-- A key that does not load raises `DeviceError`, unless its algorithm is unknown. -/
theorem loadPublicKey_eq_error {crypto : Crypto K} {publicKeyPem : String} {e : PyError}
    (h : loadPublicKey crypto publicKeyPem = .error e) :
    e.IsDevice ∨ e = .unsupportedAlgorithm ∧ UnsupportedKey crypto publicKeyPem := by
  unfold loadPublicKey at h
  rcases bind_eq_error.mp h with hmark | ⟨_, hmark, hload⟩
  · exact .inl ⟨_, (check_eq_error.mp hmark).2.symm⟩
  · rw [check_eq_ok] at hmark
    cases hpem : crypto.loadPemPublicKey publicKeyPem with
    | rsa key =>
      rw [hpem] at hload
      rcases bind_eq_error.mp hload with hsize | ⟨_, -, hpure⟩
      · exact .inl ⟨_, (check_eq_error.mp hsize).2.symm⟩
      · exact absurd hpure (by simp [pure, Except.pure])
    | otherKey | valueError =>
      rw [hpem] at hload
      exact .inl ⟨_, (Except.error.inj hload).symm⟩
    | unsupportedAlgorithm =>
      rw [hpem] at hload
      exact .inr ⟨(Except.error.inj hload).symm, hmark, hpem⟩

/-- **A claim verifies** iff it proves possession of its key over the expected nonce. -/
theorem DeviceClaim.verify_eq_ok {rt : Runtime N} {crypto : Crypto K} {claim : DeviceClaim}
    {expectedNonce : Option String} {u : Unit} :
    claim.verify rt crypto expectedNonce = .ok u ↔
      ProvesPossession rt crypto claim ∧ ∀ nonce ∈ expectedNonce, claim.nonce = nonce := by
  unfold DeviceClaim.verify deviceFingerprint ProvesPossession
  simp only [bind_eq_ok, map_eq_ok, check_eq_ok, exists_const, loadPublicKey_eq_ok]
  constructor
  · rintro ⟨_, ⟨key', hkey', rfl⟩, hid, hnonce, key, hkey, hverify⟩
    obtain rfl := PemLoad.rsa.inj (hkey'.2.1.symm.trans hkey.2.1)
    cases hhex : fromhex claim.signatureHex.toList with
    | none =>
      rw [hhex] at hverify
      exact absurd hverify throw_ne_ok
    | some signature =>
      rw [hhex] at hverify
      obtain ⟨payload, hpayload, hverify⟩ := bind_eq_ok.mp hverify
      exact ⟨⟨key', signature, payload, hkey, hid, rfl, hpayload, check_eq_ok.mp hverify⟩, hnonce⟩
  · rintro ⟨⟨key, signature, payload, hkey, hid, hhex, hpayload, hverify⟩, hnonce⟩
    refine ⟨_, ⟨key, hkey, rfl⟩, hid, hnonce, key, hkey, ?_⟩
    rw [hhex]
    exact bind_eq_ok.mpr ⟨payload, hpayload, check_eq_ok.mpr hverify⟩

/-- A claim without a payload: its time is no `datetime` in UTC. -/
theorem DeviceClaim.payload_eq_error {rt : Runtime N} {claim : DeviceClaim} {e : PyError}
    (h : claim.payload rt = .error e) :
    claim.claimedAt.Untimely ∧ e.ofPackage = false := by
  unfold DeviceClaim.payload at h
  cases htime : claim.claimedAt.astimezone with
  | ok claimedAt => exact absurd (htime ▸ h) (by simp [Functor.map, Except.map])
  | error e' =>
    rw [htime] at h
    obtain rfl := Except.error.inj h
    exact ⟨fun _ => by simp [htime], claim.claimedAt.ofPackage_of_astimezone htime⟩

/-- A claim that does not verify raises `DeviceError`, unless it comes to another exception. -/
theorem DeviceClaim.verify_eq_error {rt : Runtime N} {crypto : Crypto K} {claim : DeviceClaim}
    {expectedNonce : Option String} {e : PyError}
    (h : claim.verify rt crypto expectedNonce = .error e) :
    e.IsDevice ∨ Crashing crypto claim expectedNonce := by
  have hkeyError : ∀ {e'}, loadPublicKey crypto claim.publicKeyPem = .error e' → e'.IsDevice ∨
      Crashing crypto claim expectedNonce :=
    fun hload => (loadPublicKey_eq_error hload).imp_right fun hkey => .inl hkey.2
  unfold DeviceClaim.verify deviceFingerprint at h
  rcases bind_eq_error.mp h with hload | ⟨_, hload, h⟩
  · cases hkey : loadPublicKey crypto claim.publicKeyPem with
    | ok key => exact absurd (hkey ▸ hload) (by simp [Functor.map, Except.map])
    | error e' =>
      rw [hkey] at hload
      obtain rfl := Except.error.inj hload
      exact hkeyError hkey
  rcases bind_eq_error.mp h with hid | ⟨_, hid, h⟩
  · exact .inl ⟨_, (check_eq_error.mp hid).2.symm⟩
  rcases bind_eq_error.mp h with hnonce | ⟨_, hnonce, h⟩
  · exact .inl ⟨_, (check_eq_error.mp hnonce).2.symm⟩
  rcases bind_eq_error.mp h with hkey | ⟨key, hkey, h⟩
  · exact hkeyError hkey
  cases hhex : fromhex claim.signatureHex.toList with
  | none =>
    rw [hhex] at h
    exact .inl ⟨_, (Except.error.inj h).symm⟩
  | some signature =>
    rw [hhex] at h
    rcases bind_eq_error.mp h with hpayload | ⟨_, -, hverify⟩
    · obtain ⟨key', hkey', rfl⟩ := map_eq_ok.mp hload
      exact .inr (.inr ⟨⟨key', loadPublicKey_eq_ok.mp hkey', check_eq_ok.mp hid⟩,
        check_eq_ok.mp hnonce, ⟨signature, hhex⟩, (payload_eq_error hpayload).1⟩)
    · exact .inl ⟨_, (check_eq_error.mp hverify).2.symm⟩

/-- A claim that comes to another exception raises it. -/
theorem DeviceClaim.verify_of_crashing (rt : Runtime N) {crypto : Crypto K} {claim : DeviceClaim}
    {expectedNonce : Option String} (h : Crashing crypto claim expectedNonce) :
    ∃ e, claim.verify rt crypto expectedNonce = .error e ∧ e.ofPackage = false := by
  unfold DeviceClaim.verify deviceFingerprint
  rcases h with ⟨hmark, hpem⟩ | ⟨⟨key, hkey, hid⟩, hnonce, ⟨signature, hhex⟩, htime⟩
  · have hload : loadPublicKey crypto claim.publicKeyPem = .error .unsupportedAlgorithm := by
      unfold loadPublicKey
      refine bind_eq_error.mpr (.inr ⟨(), check_eq_ok.mpr hmark, ?_⟩)
      rw [hpem]
      rfl
    refine ⟨.unsupportedAlgorithm, ?_, rfl⟩
    rw [hload]
    rfl
  · have hload := loadPublicKey_eq_ok.mpr hkey
    obtain ⟨e, hpayload⟩ : ∃ e, claim.payload rt = .error e := by
      refine exists_error_of_ne_ok fun payload hpayload => ?_
      obtain ⟨claimedAt, hclaimedAt, -⟩ := map_eq_ok.mp hpayload
      exact htime claimedAt hclaimedAt
    refine ⟨e, ?_, (payload_eq_error hpayload).2⟩
    refine bind_eq_error.mpr (.inr ⟨_, map_eq_ok.mpr ⟨key, hload, rfl⟩, ?_⟩)
    refine bind_eq_error.mpr (.inr ⟨(), check_eq_ok.mpr hid, ?_⟩)
    refine bind_eq_error.mpr (.inr ⟨(), check_eq_ok.mpr hnonce, ?_⟩)
    refine bind_eq_error.mpr (.inr ⟨key, hload, ?_⟩)
    rw [hhex]
    exact bind_eq_error.mpr (.inl hpayload)

end Nlboot.Reference
