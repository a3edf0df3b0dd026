import Nlboot.Reference.PlannerClock
import Nlboot.Reference.TrustBundles

/-!
# Whose documents are acted on

The holders of keys sign documents of three kinds: manifests (`canonical_payload`), trust bundles
(`canonical_trust_bundle_payload`) and claims (`_signing_payload`). No payload names its kind. Where
a signature verifies only over what the holder of the key signed (`SignedOnly`), what is loaded
and planned was said by the holder: in a document of either of the first two kinds that has the same
members. A claim passes for neither.

* `Statement`: what a holder signs; `SignedOnly`: the assumption on the cryptography.
* `Said`: the holder signed a document with the members of this one, but for the signatures.

Results:
* `said_of_verifies`: a verified payload of a document that names itself was said.
* **`bundle_authentic`**: a live root said the keys that are loaded.
* **`plan_authentic`**: a trusted key of the signer said the manifest of every plan.
-/

namespace Nlboot.Reference

open Nlboot.Lib

variable {N K : Type} {rt : Runtime N} {crypto : Crypto K} {clock : UtcTime}

/-- What the holder of a key signs: a manifest, a bundle, or a claim of a device. -/
inductive Statement (N : Type) where
  | manifest (document : JsonObject N)
  | bundle (document : JsonObject N)
  | claim (deviceId publicKeyPem nonce : String) (claimedAt : UtcTime)

/-- The payload its signature is made over. -/
def Statement.payload (rt : Runtime N) : Statement N → List UInt8
  | .manifest document => canonicalPayload rt.num document.members
  | .bundle document => canonicalTrustBundlePayload rt.num document.members
  | .claim deviceId publicKeyPem nonce claimedAt =>
    signingPayload rt deviceId publicKeyPem nonce claimedAt

/-- The document of a statement that is no claim. -/
def Statement.document : Statement N → Option (JsonObject N)
  | .manifest document | .bundle document => some document
  | .claim .. => none

/-- A signature verifies under a key only over what its holder signed. -/
def SignedOnly (rt : Runtime N) (crypto : Crypto K) (signed : K → List (Statement N)) : Prop :=
  ∀ key signature payload, crypto.verify key signature payload = true →
    ∃ statement ∈ signed key, statement.payload rt = payload

/-- The holder of the key signed a document with the members of this one, but for the
signatures. -/
structure Said (signed : K → List (Statement N)) (key : K) (data : Members N)
    (document : JsonObject N) : Prop where
  signed : ∃ statement ∈ signed key, statement.document = some document
  agrees : ∀ name ∉ signatureFields, SameField data document.members name

/-- The members a claim signs. -/
def claimFields : List String := ["device_id", "public_key_pem", "nonce", "claimed_at"]

/-! ## Payloads -/

theorem ne_signatureHex {name : String} (h : name ∉ signatureFields) : name ≠ "signature_hex" := by
  rintro rfl
  exact h List.mem_cons_self

/-- A payload of a document that names something no claim does was signed for a document with the
same members. -/
theorem said_of_payload (hnum : NumberTexts rt.num) {data : Members N}
    {keep : String × Json N → Bool} {statement : Statement N} {name : String} {value : Json N}
    (hn : (Json.obj data).distinctNames = true)
    (hkeep : ∀ m ∈ data, m.1 ∉ signatureFields → keep m = true)
    (hpayload : statement.payload rt = jsonDumps rt.num (.obj (data.filter keep)))
    (hget : data.get name = some value) (hname : name ∉ claimFields ++ signatureFields) :
    ∃ document, statement.document = some document ∧
      ∀ name ∉ signatureFields, SameField data document.members name := by
  have hagrees : ∀ document : JsonObject N, ∀ keep' : String × Json N → Bool,
      (∀ m : String × Json N, m.1 ∉ signatureFields → keep' m = true) →
      statement.payload rt = jsonDumps rt.num (.obj (document.members.filter keep')) →
        ∀ name ∉ signatureFields, SameField data document.members name := by
    intro document keep' hkeep' hpayload' name hname
    refine sameField_of_jsonDumps hnum hn document.distinct (hpayload.symm.trans hpayload') ?_ ?_
    · rintro m hm rfl
      exact hkeep m hm hname
    · rintro m - rfl
      exact hkeep' m hname
  cases statement with
  | manifest document =>
    exact ⟨document, rfl, hagrees document _ (fun m hm => decide_eq_true (ne_signatureHex hm)) rfl⟩
  | bundle document => exact ⟨document, rfl, hagrees document _ (fun m hm => decide_eq_true hm) rfl⟩
  | claim deviceId publicKeyPem nonce claimedAt =>
    obtain ⟨hclaim, hsignature⟩ := not_or.mp fun h => hname (List.mem_append.mpr h)
    -- The payload has the member, so the claim would have it.
    have hsame := same_of_jsonDumps hnum (distinctNames_filter keep hn) hpayload
    have hfield := sameField_of_same rfl hsame name
    have hmissing := hfield.missing (by
      simpa [Members.get, List.lookup_eq_none_iff, claimFields] using hclaim)
    rw [get_filter (fun m hm heq => hkeep m hm (heq ▸ hsignature)), hget] at hmissing
    exact absurd hmissing (by simp)

/-- **A verified payload was said** by the holder of the key. -/
theorem said_of_verifies {signed : K → List (Statement N)} (hnum : NumberTexts rt.num)
    (hsigned : SignedOnly rt crypto signed) {data : Members N} {keep : String × Json N → Bool}
    {trustedKey : TrustedKey} {signatureHex name : String} {value : Json N}
    (hn : (Json.obj data).distinctNames = true)
    (hkeep : ∀ m ∈ data, m.1 ∉ signatureFields → keep m = true)
    (hverifies : Verifies crypto trustedKey signatureHex
      (jsonDumps rt.num (.obj (data.filter keep))))
    (hget : data.get name = some value) (hname : name ∉ claimFields ++ signatureFields) :
    ∃ key document, crypto.loadPemPublicKey trustedKey.publicKeyPem = .rsa key ∧
      Said signed key data document := by
  obtain ⟨signature, key, -, hkey, -, hverify⟩ := hverifies
  obtain ⟨statement, hstatement, hpayload⟩ := hsigned key signature _ hverify
  obtain ⟨document, hdocument, hagrees⟩ := said_of_payload hnum hn hkeep hpayload hget hname
  exact ⟨key, document, hkey, ⟨statement, hstatement, hdocument⟩, hagrees⟩

/-! ## Bundles and plans -/

/-- **Whose keys are loaded.** The keys of an accepted bundle are those of a document that the
holder of the root key it names signed, as a bundle or as a manifest, with the same members; and the
root is one of the root keys, and live. -/
theorem bundle_authentic {signed : K → List (Statement N)} {now : Option Moment}
    {rootKeys loaded : TrustedKeys} {bundle : JsonObject N} (hnum : NumberTexts rt.num)
    (hsigned : SignedOnly rt crypto signed)
    (h : loadVerifiedTrustBundle rt crypto clock now rootKeys bundle.members = .ok loaded) :
    ∃ signerRef root key document, bundle.members.get "signer_ref" = some (.str signerRef) ∧
      rootKeys.lookup signerRef = some root ∧ root.validateLifecycle rt clock now = .ok () ∧
      crypto.loadPemPublicKey root.publicKeyPem = .rsa key ∧
      Said signed key bundle.members document ∧
      loadTrustedKeys rt clock now document.members = .ok loaded := by
  obtain ⟨signerRef, signatureHex, root, hpresented, hlookup, hlive, hverifies, hload⟩ :=
    loadVerifiedTrustBundle_eq_ok.mp h
  obtain ⟨bundleId, hbundle, -⟩ := hpresented.bundleId
  obtain ⟨key, document, hkey, hsaid⟩ := said_of_verifies hnum hsigned bundle.distinct
    (fun m _ hm => decide_eq_true hm) hverifies hbundle (by decide)
  refine ⟨signerRef, root, key, document, hpresented.signerRef.1, hlookup, hlive, hkey, hsaid, ?_⟩
  rw [← loadTrustedKeys_same bundle.distinct (hsaid.agrees "keys" (by decide))]
  exact hload

/-- The stand-in for the cryptography, with a table of the signatures that were made. -/
def recordedCrypto (signatures : List (String × List UInt8 × List UInt8)) : Crypto String :=
  { pyCrypto with
    verify := fun key signature payload =>
      signatures.any fun made => made.1 == key && made.2.1 == signature && made.2.2 == payload }

/-- One holder of `demoPem` signed one statement, and its signature is a null byte. -/
def oneSigned (statement : Statement Int) (key : String) : List (Statement Int) :=
  if key = demoPem then [statement] else []

theorem signedOnly_one (statement : Statement Int) :
    SignedOnly pyRuntime (recordedCrypto [(demoPem, [0], statement.payload pyRuntime)])
      (oneSigned statement) := by
  intro key signature payload h
  obtain ⟨⟨rfl, rfl⟩, rfl⟩ : (demoPem = key ∧ [0] = signature) ∧
      statement.payload pyRuntime = payload := by simpa [recordedCrypto] using h
  exact ⟨statement, by simp [oneSigned], rfl⟩

/-- The signature of the statement verifies. -/
theorem verifies_one (statement : Statement Int) {trustedKey : TrustedKey}
    (hpem : trustedKey.publicKeyPem = demoPem) :
    Verifies (recordedCrypto [(demoPem, [0], statement.payload pyRuntime)]) trustedKey "00"
      (statement.payload pyRuntime) := by
  refine ⟨[0], demoPem, by decide, ?_, Nat.le_refl 2048, by simp [recordedCrypto]⟩
  rw [hpem]
  simp only [recordedCrypto, pyCrypto]
  rw [if_neg (by decide), if_pos (by decide)]

/-- The crypto of a holder who signed the bundle. -/
def bundleCrypto : Crypto String :=
  recordedCrypto [(demoPem, [0], (Statement.bundle demoBundle).payload pyRuntime)]

theorem demoBundle_loads : ∃ loaded, loadVerifiedTrustBundle pyRuntime bundleCrypto newYear none
    demoRoots demoBundle.members = .ok loaded := by
  have hkeys : (loadTrustedKeys pyRuntime newYear none demoBundle.members).isOk = true := by decide
  cases hload : loadTrustedKeys pyRuntime newYear none demoBundle.members with
  | error e =>
    rw [hload] at hkeys
    exact absurd hkeys (by simp [Except.isOk, Except.toBool])
  | ok loaded =>
    refine ⟨loaded, loadVerifiedTrustBundle_eq_ok.mpr ⟨"urn:srcos:key:root", "00", demoRoot, ?_,
      rfl, ?_, verifies_one (.bundle demoBundle) rfl, hload⟩⟩
    · exact ⟨⟨_, rfl, by decide⟩, ⟨rfl, by decide⟩, ⟨rfl, by decide⟩, rfl, rfl⟩
    · exact TrustedKey.validateLifecycle_eq_ok.mpr ⟨newYear, rfl, rfl, rfl, by simp [demoRoot],
        by simp [demoRoot]⟩

/-- The holder of the root key signed the bundle that is loaded. -/
theorem demoBundle_authentic :
    ∃ loaded, loadVerifiedTrustBundle pyRuntime bundleCrypto newYear none
        demoRoots demoBundle.members = .ok loaded ∧
      ∃ signerRef root key document, demoBundle.members.get "signer_ref" = some (.str signerRef) ∧
        List.lookup signerRef demoRoots = some root ∧
        root.validateLifecycle pyRuntime newYear none = .ok () ∧
        bundleCrypto.loadPemPublicKey root.publicKeyPem = .rsa key ∧
        Said (oneSigned (.bundle demoBundle)) key demoBundle.members document ∧
        loadTrustedKeys pyRuntime newYear none document.members = .ok loaded := by
  obtain ⟨loaded, hload⟩ := demoBundle_loads
  exact ⟨loaded, hload, bundle_authentic numberTexts_decimalInt (signedOnly_one _) hload⟩

/-- **Whose manifests are planned.** Behind every plan is a manifest with the members of a document
that was signed, as a manifest or as a bundle, by the holder of the last trusted key of its signer,
a key that is live by the clock. -/
theorem plan_authentic {signed : K → List (Statement N)} {args : PlanArgs N} {plan : BootPlan}
    {manifestDoc : JsonObject N} (hnum : NumberTexts rt.num)
    (hsigned : SignedOnly rt crypto signed)
    (hmanifest : args.manifest.value = .obj manifestDoc.members)
    (h : planFromDocuments rt crypto clock args = .ok plan) :
    ∃ manifest, ∃ token : EnrollmentToken N, ∃ keysDoc entries trustedKey key document,
      ManifestDoc rt manifestDoc.members manifest ∧ plan = planFor manifest token ∧
      args.trustedKeys.value = .obj keysDoc ∧ Loads rt clock none keysDoc entries ∧
      lastFor manifest.signerRef entries = some trustedKey ∧
      trustedKey.validateLifecycle rt clock none = .ok () ∧
      crypto.loadPemPublicKey trustedKey.publicKeyPem = .rsa key ∧
      Said signed key manifestDoc.members document := by
  unfold planFromDocuments at h
  simp only [bind_eq_ok, loadJson_eq_ok, SignedBootManifest.fromDict_eq_ok, hmanifest] at h
  obtain ⟨now, -, _, hdoc, keysDoc, hkeys, _, hverify, manifest, hdescribes, _, -, token, -,
    hplan⟩ := h
  obtain rfl := Json.obj.inj hdoc
  obtain ⟨entries, trustedKey, hloads, hlast, hverifies⟩ :=
    (verifyManifestDocument_eq_ok hdescribes).mp hverify
  obtain ⟨-, hplan⟩ := (buildBootPlan_eq_ok hdescribes).mp hplan
  have hlive : trustedKey.validateLifecycle rt clock none = .ok () := by
    obtain ⟨_, -, hall⟩ := hloads
    obtain ⟨_, -, hentry⟩ := exists_mem_of_forall₂ hall _ (mem_of_lastFor hlast)
    obtain ⟨_, -, -, hlife, -⟩ := loadEntry_eq_ok.mp hentry
    exact hlife
  obtain ⟨key, document, hkey, hsaid⟩ := said_of_verifies hnum hsigned manifestDoc.distinct
    (fun _ _ hm => decide_eq_true (ne_signatureHex hm)) hverifies hdescribes.manifestId.1
    (by decide)
  exact ⟨manifest, token, keysDoc, entries, trustedKey, key, document, hdescribes, hplan, hkeys,
    hloads, hlast, hlive, hkey, hsaid⟩

/-- The manifest of `newYearRun`, with a null byte for its signature. -/
def newYearManifest : JsonObject Int where
  members := manifestMembers "boot-release-set-1" "release-set-1" .installer "00"
  distinct := by decide

/-- The crypto of a holder who signed the manifest. -/
def manifestCrypto : Crypto String :=
  recordedCrypto [(demoPem, [0], (Statement.manifest newYearManifest).payload pyRuntime)]

theorem newYearManifest_planned : ∃ plan,
    planFromDocuments pyRuntime manifestCrypto yearEnd (newYearRun [0]) = .ok plan := by
  have htoken := fromDict_payload isoInverse_newYear (isoInverse_demoExpiry "code-1" "nonce-1")
    (show blank "token-1" = false by decide) (show blank "device" = false by decide)
  have hdoc : ManifestDoc pyRuntime newYearManifest.members
      (manifestFor "boot-release-set-1" "release-set-1" .installer "00") :=
    manifestFor_doc pyRuntime (by decide) (by decide) .installer (by decide)
  have hauth : Authorises (tokenOf (demoBinding "code-1" "nonce-1") "token-1" "device" :
      EnrollmentToken Int) (manifestFor "boot-release-set-1" "release-set-1" .installer "00")
      newYear :=
    ⟨rfl, by decide, rfl, rfl, rfl, show TokenPurpose.enroll ∈ purposeByMode .installer by decide⟩
  have hlast : lastFor "urn:srcos:key:demo" [("urn:srcos:key:demo", expiringKey)] =
      some expiringKey := by decide
  have hverify : verifyManifestDocument pyRuntime manifestCrypto yearEnd newYearManifest.members
      expiringKeys true = .ok () :=
    (verifyManifestDocument_eq_ok hdoc).mpr ⟨_, expiringKey, expiringKeys_loads, hlast,
      verifies_one (.manifest newYearManifest) rfl⟩
  obtain ⟨now, hnow, hcurrent⟩ :=
    parseNow_currentTime.mpr (currentTime_some_eq_ok.mpr newYear.toUtc_toAware)
  refine ⟨planFor (manifestFor "boot-release-set-1" "release-set-1" .installer "00")
    (tokenOf (demoBinding "code-1" "nonce-1") "token-1" "device" : EnrollmentToken Int), ?_⟩
  unfold planFromDocuments
  simp only [bind_eq_ok, loadJson_eq_ok]
  exact ⟨now, hnow, newYearManifest.members, rfl, expiringKeys, rfl, (), hverify, _,
    SignedBootManifest.fromDict_eq_ok.mpr hdoc, _, rfl, _, htoken,
    (buildBootPlan_eq_ok hdoc).mpr ⟨⟨newYear, hcurrent, hauth⟩, rfl⟩⟩

/-- The holder of the key of the signer signed the manifest that is planned. -/
theorem newYearManifest_authentic :
    ∃ plan, planFromDocuments pyRuntime manifestCrypto yearEnd (newYearRun [0]) = .ok plan ∧
      ∃ manifest, ∃ token : EnrollmentToken Int, ∃ keysDoc entries trustedKey key document,
        ManifestDoc pyRuntime newYearManifest.members manifest ∧ plan = planFor manifest token ∧
        (newYearRun [0]).trustedKeys.value = .obj keysDoc ∧
        Loads pyRuntime yearEnd none keysDoc entries ∧
        lastFor manifest.signerRef entries = some trustedKey ∧
        trustedKey.validateLifecycle pyRuntime yearEnd none = .ok () ∧
        manifestCrypto.loadPemPublicKey trustedKey.publicKeyPem = .rsa key ∧
        Said (oneSigned (.manifest newYearManifest)) key newYearManifest.members document := by
  obtain ⟨plan, hplan⟩ := newYearManifest_planned
  exact ⟨plan, hplan, plan_authentic numberTexts_decimalInt (signedOnly_one _) rfl hplan⟩

end Nlboot.Reference
