import Nlboot.Lib.JsonSchema
import Nlboot.Reference.TokenBridge

/-!
# Device claims as documents

The round trip of a device claim through `to_dict` and `from_dict` of `device.py`. What is signed
is not the document: `verify` rebuilds the signed bytes from the parsed fields, so the time has to
survive the normalisation, the rendering and the `Z` rewriting.

* `ClaimDoc`: the object describes the claim, at a time in UTC.
* `DeviceIdentity.claimFor`: the claim of an identity over a nonce at a time.
* `VerifiesOwn`: the key of an identity verifies exactly its own signatures.
* `Respelled`: two documents that differ in `claimed_at` only.

Results:
* `DeviceClaim.fromDict_eq_ok`: what the parser accepts.
* `DeviceIdentity.makeClaim_eq_ok`: what `make_claim` returns.
* `ClaimDoc.members`, `claimFor_doc`: what `to_dict` writes describes the claim.
* **`claim_roundTrip`**: claims survive the round trip, and the spelling of the time is no matter.
-/

namespace Nlboot.Reference

open Nlboot.Lib

variable {N K : Type} {rt : Runtime N} {crypto : Crypto K} {data : Members N}

/-! ## Texts -/

/-- A text with a character that is no space is not blank. -/
theorem blank_of_mem {s : String} {c : Char} (hc : c ∈ s.toList) (hspace : isSpace c = false) :
    blank s = false := by
  by_contra hblank
  rw [Bool.not_eq_false, blank, List.all_eq_true] at hblank
  exact absurd ((hblank c hc).symm.trans hspace) (by simp)

theorem contains_iff {text part : String} :
    contains text part = true ↔ part.toList <:+: text.toList :=
  Pattern.matches_part

theorem startswith_append (head rest : String) : startswith (head ++ rest) head = true := by
  unfold startswith
  rw [List.isPrefixOf_iff_prefix, String.toList_append]
  exact List.prefix_append _ _

/-! ## What the parser accepts -/

/-- The object describes the claim, made at this time in UTC. -/
structure ClaimDoc (rt : Runtime N) (data : Members N) (claim : DeviceClaim) (when : UtcTime) :
    Prop where
  deviceId : TextField data "device_id" claim.deviceId
  publicKeyPem : TextField data "public_key_pem" claim.publicKeyPem
  nonce : TextField data "nonce" claim.nonce
  claimedAt : TimeField rt data "claimed_at" when
  inUtc : claim.claimedAt = when.toMoment
  signatureAlgorithm : TextField data "signature_algorithm" claim.signatureAlgorithm
  cryptoProfile : TextField data "crypto_profile" claim.cryptoProfile
  signatureHex : TextField data "signature_hex" claim.signatureHex
  algorithm : claim.signatureAlgorithm = fipsReadyAlgorithm
  profile : claim.cryptoProfile = fipsReadyProfile
  deviceUrn : startswith claim.deviceId deviceIdPrefix = true

/-- **A claim parses** iff the object describes it. -/
theorem DeviceClaim.fromDict_eq_ok {claim : DeviceClaim} :
    DeviceClaim.fromDict rt data = .ok claim ↔ ∃ when, ClaimDoc rt data claim when := by
  unfold DeviceClaim.fromDict
  simp only [bind_eq_ok, requireString_iff, parseTime_eq_ok, check_eq_ok, exists_const, pure_eq_ok]
  constructor
  · rintro ⟨_, hid, _, hpem, _, hnonce, text, htext, when, ⟨t, ht, hwhen⟩, _, halg, _, hprofile, _,
      hhex, halgorithm, hfips, hurn, rfl⟩
    exact ⟨when, hid, hpem, hnonce, ⟨text, htext, t, ht, hwhen⟩, rfl, halg, hprofile, hhex,
      halgorithm, hfips, hurn⟩
  · rintro ⟨when, hid, hpem, hnonce, ⟨text, htext, t, ht, hwhen⟩, hutc, halg, hprofile, hhex,
      halgorithm, hfips, hurn⟩
    exact ⟨_, hid, _, hpem, _, hnonce, text, htext, _, ⟨t, ht, hwhen⟩, _, halg, _, hprofile, _,
      hhex, halgorithm, hfips, hurn, by rw [← hutc]⟩

/-- `to_dict` of a claim made at a time in UTC. -/
theorem DeviceClaim.toDict_eq {claim : DeviceClaim} {when : UtcTime}
    (h : claim.claimedAt = when.toMoment) : claim.toDict rt = .ok (claim.members rt when) :=
  map_eq_ok.mpr ⟨when, h ▸ when.astimezone_toMoment, rfl⟩

/-- What `to_dict` writes of a claim that has a document is a document of it. -/
theorem ClaimDoc.members {claim : DeviceClaim} {when : UtcTime} (h : ClaimDoc rt data claim when)
    (htime : IsoInverse rt when) : ClaimDoc rt (claim.members rt when) claim when where
  deviceId := ⟨rfl, h.deviceId.2⟩
  publicKeyPem := ⟨rfl, h.publicKeyPem.2⟩
  nonce := ⟨rfl, h.nonce.2⟩
  claimedAt := timeField_zuluText htime rfl
  inUtc := h.inUtc
  signatureAlgorithm := ⟨rfl, h.signatureAlgorithm.2⟩
  cryptoProfile := ⟨rfl, h.cryptoProfile.2⟩
  signatureHex := ⟨rfl, h.signatureHex.2⟩
  algorithm := h.algorithm
  profile := h.profile
  deviceUrn := h.deviceUrn

/-- The documents differ in `claimed_at` only. -/
def Respelled (data data' : Members N) : Prop :=
  ∀ key, key ≠ "claimed_at" → data'.get key = data.get key

theorem get_dictSet (data : Members N) (key : String) (value : Json N) :
    Members.get (dictSet data key value) key = some value := by
  show (dictSet data key value).lookup key = some value
  rw [lookup_dictSet, if_pos (by simp)]

theorem respelled_dictSet (data : Members N) (value : Json N) :
    Respelled data (dictSet data "claimed_at" value) := by
  intro key hkey
  show (dictSet data "claimed_at" value).lookup key = data.lookup key
  rw [lookup_dictSet, if_neg (by simpa using hkey)]

/-- Another spelling of the same instant describes the same claim. -/
theorem ClaimDoc.respelled {data' : Members N} {claim : DeviceClaim} {when : UtcTime}
    (h : ClaimDoc rt data claim when) (hsame : Respelled data data')
    (htime : TimeField rt data' "claimed_at" when) : ClaimDoc rt data' claim when := by
  have hmember : ∀ {key text : String}, key ≠ "claimed_at" → TextField data key text →
      TextField data' key text := fun hkey htext => ⟨(hsame _ hkey).trans htext.1, htext.2⟩
  exact
    { deviceId := hmember (by decide) h.deviceId
      publicKeyPem := hmember (by decide) h.publicKeyPem
      nonce := hmember (by decide) h.nonce
      claimedAt := htime
      inUtc := h.inUtc
      signatureAlgorithm := hmember (by decide) h.signatureAlgorithm
      cryptoProfile := hmember (by decide) h.cryptoProfile
      signatureHex := hmember (by decide) h.signatureHex
      algorithm := h.algorithm
      profile := h.profile
      deviceUrn := h.deviceUrn }

/-- A claim that its own dictionary describes survives the round trip. -/
theorem ClaimDoc.roundTrip {claim : DeviceClaim} {when : UtcTime}
    (h : ClaimDoc rt (claim.members rt when) claim when) :
    (claim.toDict rt >>= DeviceClaim.fromDict rt) = .ok claim := by
  rw [DeviceClaim.toDict_eq h.inUtc]
  exact DeviceClaim.fromDict_eq_ok.mpr ⟨when, h⟩

/-! ## The claims of an identity -/

/-- The claim of an identity over a nonce at a time. -/
def DeviceIdentity.claimFor (rt : Runtime N) (identity : DeviceIdentity crypto)
    (salt : List UInt8) (nonce : String) (when : UtcTime) : DeviceClaim where
  deviceId := identity.deviceId
  publicKeyPem := identity.publicKeyPem
  nonce
  claimedAt := when
  signatureAlgorithm := fipsReadyAlgorithm
  cryptoProfile := fipsReadyProfile
  signatureHex := hexdigest
    (identity.sign salt (signingPayload rt identity.deviceId identity.publicKeyPem nonce when))

theorem DeviceIdentity.payload_claimFor (identity : DeviceIdentity crypto) (salt : List UInt8)
    (nonce : String) (when : UtcTime) : (identity.claimFor rt salt nonce when).payload rt =
      .ok (signingPayload rt identity.deviceId identity.publicKeyPem nonce when) :=
  map_eq_ok.mpr ⟨when, when.astimezone_toMoment, rfl⟩

/-- **What `make_claim` returns**: the claim over a nonce that is not blank, at the time in UTC. -/
theorem DeviceIdentity.makeClaim_eq_ok {identity : DeviceIdentity crypto} {clock : UtcTime}
    {salt : List UInt8} {nonce : String} {claimedAt : Option Moment} {claim : DeviceClaim} :
    identity.makeClaim rt clock salt nonce claimedAt = .ok claim ↔
      blank nonce = false ∧ ∃ when, currentTime clock claimedAt = .ok when ∧
        claim = identity.claimFor rt salt nonce when := by
  unfold DeviceIdentity.makeClaim
  simp only [bind_eq_ok, check_eq_ok, exists_const, pure_eq_ok]
  exact and_congr_right fun _ => exists_congr fun when => and_congr_right fun _ => eq_comm

/-- The key of the identity. -/
theorem DeviceIdentity.exists_key (identity : DeviceIdentity crypto) :
    ∃ key, HoldsKey crypto identity.publicKeyPem key ∧
      fingerprint crypto key = identity.deviceId := by
  have hfinger := identity.fingerprinted
  unfold deviceFingerprint at hfinger
  obtain ⟨key, hkey, hid⟩ := map_eq_ok.mp hfinger
  exact ⟨key, loadPublicKey_eq_ok.mp hkey, hid⟩

/-- The key of the identity verifies exactly its own signatures, and no signature is empty. -/
structure VerifiesOwn (identity : DeviceIdentity crypto) : Prop where
  verifies : ∀ key, HoldsKey crypto identity.publicKeyPem key → ∀ signature payload,
    crypto.verify key signature payload = true ↔ ∃ salt, signature = identity.sign salt payload
  nonempty : ∀ salt payload, identity.sign salt payload ≠ []

section

variable {identity : DeviceIdentity crypto} {salt : List UInt8} {nonce : String} {when : UtcTime}

/-- What `to_dict` writes of the claim of an identity describes it. -/
theorem claimFor_doc (hown : VerifiesOwn identity) (hnonce : blank nonce = false)
    (htime : IsoInverse rt when) :
    ClaimDoc rt ((identity.claimFor rt salt nonce when).members rt when)
      (identity.claimFor rt salt nonce when) when := by
  obtain ⟨key, ⟨hmark, -⟩, hid⟩ := identity.exists_key
  have hurn : startswith identity.deviceId deviceIdPrefix = true := by
    rw [← hid, fingerprint, String.append_assoc]
    exact startswith_append _ _
  have hhead : deviceIdPrefix.toList <+: identity.deviceId.toList :=
    List.isPrefixOf_iff_prefix.mp hurn
  have hpem : 'B' ∈ identity.publicKeyPem.toList := (contains_iff.mp hmark).subset (by decide)
  have hhex : blank (identity.claimFor rt salt nonce when).signatureHex = false := by
    obtain ⟨byte, bytes, hsign⟩ := List.exists_cons_of_ne_nil (hown.nonempty salt
      (signingPayload rt identity.deviceId identity.publicKeyPem nonce when))
    show blank (hexdigest _) = false
    rw [hsign]
    exact blank_hexdigest byte bytes
  exact
    { deviceId := ⟨rfl, blank_of_mem (c := 'u') (hhead.subset (by decide)) (by decide)⟩
      publicKeyPem := ⟨rfl, blank_of_mem hpem (by decide)⟩
      nonce := ⟨rfl, hnonce⟩
      claimedAt := timeField_zuluText htime rfl
      inUtc := rfl
      signatureAlgorithm := ⟨rfl, show blank fipsReadyAlgorithm = false by decide⟩
      cryptoProfile := ⟨rfl, show blank fipsReadyProfile = false by decide⟩
      signatureHex := ⟨rfl, hhex⟩
      algorithm := rfl
      profile := rfl
      deviceUrn := hurn }

/-- The claim of an identity proves possession of its key. -/
theorem claimFor_possession (hown : VerifiesOwn identity) :
    ProvesPossession rt crypto (identity.claimFor rt salt nonce when) := by
  obtain ⟨key, hkey, hid⟩ := identity.exists_key
  exact ⟨key, _, _, hkey, hid, fromhex_hexdigest _, identity.payload_claimFor salt nonce when,
    (hown.verifies key hkey _ _).mpr ⟨salt, rfl⟩⟩

theorem claimFor_verify_iff (hown : VerifiesOwn identity) {n : String} :
    (identity.claimFor rt salt nonce when).verify rt crypto (some n) = .ok () ↔ n = nonce := by
  rw [DeviceClaim.verify_eq_ok]
  simp only [claimFor_possession hown, true_and, Option.mem_def, Option.some.injEq, forall_eq']
  exact eq_comm

end

/-! ## The round trip -/

/-- **The round trip of device claims.** `make_claim` returns a claim over every nonce that is not
blank and at every time that is a UTC `datetime`; it survives the round trip, and verifies over its
own nonce only. Every accepted document survives re-encoding, and another spelling of its time
changes neither the claim nor the outcome of `verify`. -/
theorem claim_roundTrip (rt : Runtime N) (crypto : Crypto K) :
    (∀ identity : DeviceIdentity crypto, VerifiesOwn identity →
      ∀ clock salt nonce claimedAt when, blank nonce = false →
        currentTime clock claimedAt = .ok when → IsoInverse rt when →
        ∃ claim, identity.makeClaim rt clock salt nonce claimedAt = .ok claim ∧
          (claim.toDict rt >>= DeviceClaim.fromDict rt) = .ok claim ∧
          ∀ n, claim.verify rt crypto (some n) = .ok () ↔ n = nonce) ∧
    ∀ data claim, DeviceClaim.fromDict rt data = .ok claim →
      ∃ when : UtcTime, claim.claimedAt = when.toMoment ∧
      (IsoInverse rt when → (claim.toDict rt >>= DeviceClaim.fromDict rt) = .ok claim) ∧
      ∀ data', Respelled data data' → TimeField rt data' "claimed_at" when →
        DeviceClaim.fromDict rt data' = .ok claim ∧
          ∀ n, (DeviceClaim.fromDict rt data' >>= (DeviceClaim.verify rt crypto · n)) =
            (DeviceClaim.fromDict rt data >>= (DeviceClaim.verify rt crypto · n)) := by
  refine ⟨fun identity hown clock salt nonce claimedAt when hnonce hwhen htime => ?_,
    fun data claim hclaim => ?_⟩
  · exact ⟨identity.claimFor rt salt nonce when,
      DeviceIdentity.makeClaim_eq_ok.mpr ⟨hnonce, when, hwhen, rfl⟩,
      (claimFor_doc hown hnonce htime).roundTrip, fun n => claimFor_verify_iff hown⟩
  · obtain ⟨when, hdoc⟩ := DeviceClaim.fromDict_eq_ok.mp hclaim
    refine ⟨when, hdoc.inUtc, fun htime => (hdoc.members htime).roundTrip,
      fun data' hsame htime => ?_⟩
    have hclaim' := DeviceClaim.fromDict_eq_ok.mpr ⟨when, hdoc.respelled hsame htime⟩
    exact ⟨hclaim', fun n => by rw [hclaim', hclaim]⟩

/-! ### The claims of `demoIdentity` -/

theorem demoSignature_ne_nil (payload : List UInt8) : utf8 demoPem.toList ++ payload ≠ [] := by
  intro h
  have hhead : utf8 demoPem.toList = [] := (List.append_eq_nil_iff.mp h).1
  revert hhead
  decide

theorem verifiesOwn_demo : VerifiesOwn demoIdentity where
  verifies key hkey signature payload := by
    obtain rfl := holdsKey_demo.mp hkey
    simp [pyCrypto, demoIdentity]
  nonempty _ payload := demoSignature_ne_nil payload

/-- A claim of `demoIdentity`, and its document with the time an hour ahead of UTC. -/
theorem demoClaim_roundTrip :
    (∃ claim, demoIdentity.makeClaim pyRuntime newYear [] "nonce-1" (some newYear.toAware) =
        .ok claim ∧
      (claim.toDict pyRuntime >>= DeviceClaim.fromDict pyRuntime) = .ok claim ∧
      ∀ n, claim.verify pyRuntime pyCrypto (some n) = .ok () ↔ n = "nonce-1") ∧
    DeviceClaim.fromDict pyRuntime (dictSet ((demoClaim "nonce-1").members pyRuntime newYear)
      "claimed_at" (.str "2026-01-01T01:00:00+01:00")) = .ok (demoClaim "nonce-1") := by
  obtain ⟨hmade, haccepted⟩ := claim_roundTrip pyRuntime pyCrypto
  have hclaim : DeviceClaim.fromDict pyRuntime ((demoClaim "nonce-1").members pyRuntime newYear) =
      .ok (demoClaim "nonce-1") := DeviceClaim.fromDict_eq_ok.mpr
        ⟨newYear, claimFor_doc verifiesOwn_demo (by decide) isoInverse_newYear⟩
  obtain ⟨when, hwhen, -, hspelled⟩ := haccepted _ _ hclaim
  obtain rfl : newYear = when := UtcTime.toMoment_injective hwhen
  refine ⟨hmade _ verifiesOwn_demo _ _ _ _ newYear (by decide) (by decide) isoInverse_newYear,
    (hspelled _ (respelled_dictSet _ _) ?_).1⟩
  exact ⟨"2026-01-01T01:00:00+01:00", ⟨get_dictSet _ _ _, by decide⟩,
    ⟨newYear.micros + 3600000000, 3600000000, by decide, by decide⟩, by decide,
    by decide⟩

end Nlboot.Reference
