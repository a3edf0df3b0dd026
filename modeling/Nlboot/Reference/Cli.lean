import Nlboot.Reference.Documents

/-!
# The planner command

Model of `src/nlboot/cli.py`: `verify_manifest_document` and `main`, from the three JSON documents
to the plan it prints. The planning part of `main`, which is its `try` block, is
`planFromDocuments`.

`verify_manifest_document` calls `load_trusted_keys` without a time, so trusted keys are judged by
the system clock (`clock`), the token by `--now` when that is given.

Results:
* `verifyManifestDocument_eq_ok`: the last entry of the signer verifies the manifest document.
* **`planFromDocuments_eq_ok`**: a plan comes out exactly for a signed, well-formed manifest and a
  well-formed token that authorises it.
-/

namespace Nlboot.Reference

open Nlboot.Lib

variable {N K : Type}

/-- A file that holds a JSON value. -/
structure JsonFile (N : Type) where
  path : String
  value : Json N

/-- The arguments of `nlboot-plan`; `now` is what `fromisoformat` makes of `--now`. -/
structure PlanArgs (N : Type) where
  manifest : JsonFile N
  token : JsonFile N
  trustedKeys : JsonFile N
  requireFips : Bool
  now : Option Moment

/-- `load_json`: the value must be an object. -/
def loadJson (file : JsonFile N) (limits : Limits N := .none) : Except PyError (Members N) := do
  within (limits.loads file.value)
  match file.value with
  | .obj data => pure data
  | _ => throw (.nlboot ("expected JSON object in " ++ file.path))

/-- `isinstance(value, str)`. -/
def stringField (error : PyError) (value : Option (Json N)) : Except PyError String :=
  match value with
  | some (.str s) => pure s
  | _ => throw error

/-- `verify_manifest_document`. -/
def verifyManifestDocument (rt : Runtime N) (crypto : Crypto K) (clock : UtcTime)
    (manifestDoc trustedKeysDoc : Members N) (requireFips : Bool) (limits : Limits N := .none) :
    Except PyError Unit := do
  let algorithm := manifestDoc.get "signature_algorithm"
  let profile := manifestDoc.get "crypto_profile"
  check (requireFips = true →
      equalsText algorithm fipsReadyAlgorithm = true ∧ equalsText profile fipsReadyProfile = true)
    (.verification "require-fips requires rsa-pss-sha256 and fips-140-3-compatible profile")
  let signerRef ← stringField (.verification "manifest signer_ref must be a string")
    (manifestDoc.get "signer_ref")
  let signatureHex ← stringField (.verification "manifest signature_hex must be a string")
    (manifestDoc.get "signature_hex")
  let trustedKeys ← loadTrustedKeys rt clock none trustedKeysDoc
  match trustedKeys.lookup signerRef with
  | none => throw (.verification ("no trusted key for signer_ref=" ++ rt.repr signerRef))
  | some trustedKey => do
    check (equalsText algorithm trustedKey.algorithm)
      (.verification "trusted key algorithm does not match manifest")
    within (limits.dumps (.obj (signedPart manifestDoc)))
    verifyRsaPssSha256 crypto (canonicalPayload rt.num manifestDoc) signatureHex trustedKey

/-- `--now` in UTC. -/
def parseNow (now : Option Moment) : Except PyError (Option Moment) :=
  match now with
  | none => pure none
  | some t => (fun u => some u.toMoment) <$> t.astimezone

/-- The plan `main` prints, or the exception that ends its `try` block. -/
def planFromDocuments (rt : Runtime N) (crypto : Crypto K) (clock : UtcTime) (args : PlanArgs N)
    (limits : Limits N := .none) : Except PyError BootPlan := do
  let now ← parseNow args.now
  let manifestDoc ← loadJson args.manifest limits
  let trustedKeysDoc ← loadJson args.trustedKeys limits
  verifyManifestDocument rt crypto clock manifestDoc trustedKeysDoc args.requireFips limits
  let manifest ← SignedBootManifest.fromDict rt manifestDoc limits
  let tokenDoc ← loadJson args.token limits
  let token ← EnrollmentToken.fromDict rt tokenDoc
  buildBootPlan rt clock now manifest token

/-- The exceptions `main` catches: those of the package are `ValueError`s. -/
def PyError.isValueError : PyError → Bool
  | .nlboot _ | .verification _ | .device _ | .enrollment _ | .value => true
  | .type | .overflow | .recursion | .unsupportedAlgorithm => false

/-- The document `main` prints. -/
def planDocument (plan : BootPlan) : Json N :=
  .obj [("ok", .bool true), ("plan", .obj plan.toDict)]

/-- `main`: its exit code and the document on the standard output, or the exception that leaves it.
The document it prints is flat, so no limit is near. -/
def main (rt : Runtime N) (crypto : Crypto K) (clock : UtcTime) (args : PlanArgs N)
    (limits : Limits N := .none) : Except PyError (Nat × Option (Json N)) :=
  match planFromDocuments rt crypto clock args limits with
  | .ok plan => pure (0, some (planDocument plan))
  | .error e => if e.isValueError then pure (2, none) else throw e

/-! ## Signed manifests -/

/-- The members of a manifest document that are looked at before the keys are loaded. -/
structure Addressed (data : Members N) (requireFips : Bool) (signerRef signatureHex : String) :
    Prop where
  fips : requireFips = true → data.get "signature_algorithm" = some (.str fipsReadyAlgorithm) ∧
    data.get "crypto_profile" = some (.str fipsReadyProfile)
  signerRef : data.get "signer_ref" = some (.str signerRef)
  signatureHex : data.get "signature_hex" = some (.str signatureHex)

theorem Addressed.unique {data : Members N} {requireFips : Bool}
    {signerRef signatureHex signerRef' signatureHex' : String}
    (h : Addressed data requireFips signerRef signatureHex)
    (h' : Addressed data requireFips signerRef' signatureHex') :
    signerRef = signerRef' ∧ signatureHex = signatureHex' :=
  ⟨Json.str.inj (Option.some.inj (h.signerRef.symm.trans h'.signerRef)),
    Json.str.inj (Option.some.inj (h.signatureHex.symm.trans h'.signatureHex))⟩

/-- The trusted-key document loads, and its last entry for the signer verifies the signature over
the whole manifest document without its `signature_hex`. -/
def SignedBy (rt : Runtime N) (crypto : Crypto K) (clock : UtcTime)
    (trustedKeysDoc manifestDoc : Members N) (signerRef signatureHex : String) : Prop :=
  ∃ entries trustedKey, Loads rt clock none trustedKeysDoc entries ∧
    lastFor signerRef entries = some trustedKey ∧
    Verifies crypto trustedKey signatureHex (canonicalPayload rt.num manifestDoc)

theorem loadJson_within {limits : Limits N} {file : JsonFile N} {data : Members N} :
    loadJson file limits = .ok data ↔
      limits.loads file.value = none ∧ file.value = .obj data := by
  unfold loadJson
  simp only [bind_eq_ok, within_eq_ok, exists_const]
  refine and_congr_right fun _ => ?_
  split
  · rename_i h
    simp [h]
  · rename_i hne
    simp only [throw_ne_ok, false_iff]
    exact fun h => hne data h

theorem loadJson_eq_ok {file : JsonFile N} {data : Members N} :
    loadJson file = .ok data ↔ file.value = .obj data := by
  simp [loadJson_within, Limits.none]

theorem stringField_eq_ok {error : PyError} {value : Option (Json N)} {s : String} :
    stringField error value = .ok s ↔ value = some (.str s) := by
  unfold stringField
  split
  · simp
  · rename_i hne
    simp only [throw_ne_ok, false_iff]
    exact fun h => hne s h

/-- Every key of a loaded document is an RSA-PSS key. -/
theorem Loads.algorithm {rt : Runtime N} {clock : UtcTime} {now : Option Moment}
    {data : Members N} {entries : List (String × TrustedKey)}
    (h : Loads rt clock now data entries) :
    ∀ entry ∈ entries, entry.2.algorithm = fipsReadyAlgorithm := by
  obtain ⟨keys, -, hall⟩ := h
  intro entry hentry
  obtain ⟨item, -, hitem⟩ := exists_mem_of_forall₂ hall entry hentry
  obtain ⟨doc, -, hkey, -⟩ := loadEntry_eq_ok.mp hitem
  exact (TrustedKey.fromDict_eq_ok.mp hkey).2.2.2.2.2.2.2.2

/-- **`verify_manifest_document` returns** within the limits of `json.dumps` iff the document is
addressed and of the one algorithm, and the last trusted key of its signer verifies it. -/
theorem verifyManifestDocument_within {rt : Runtime N} {crypto : Crypto K} {clock : UtcTime}
    {limits : Limits N} {data trustedKeysDoc : Members N} {requireFips : Bool} {u : Unit} :
    verifyManifestDocument rt crypto clock data trustedKeysDoc requireFips limits = .ok u ↔
      ∃ signerRef signatureHex, Addressed data requireFips signerRef signatureHex ∧
        data.get "signature_algorithm" = some (.str fipsReadyAlgorithm) ∧
        SignedBy rt crypto clock trustedKeysDoc data signerRef signatureHex ∧
        limits.dumps (.obj (signedPart data)) = none := by
  unfold verifyManifestDocument SignedBy
  simp only [bind_eq_ok, check_eq_ok, stringField_eq_ok, equalsText_iff, exists_const,
    loadTrustedKeys_eq_ok]
  constructor
  · rintro ⟨hfips, signerRef, hsigner, signatureHex, hhex, _, ⟨entries, hloads, rfl⟩, hrest⟩
    rw [lookup_loaded] at hrest
    cases hlast : lastFor signerRef entries with
    | none => exact absurd (hlast ▸ hrest) throw_ne_ok
    | some key =>
      have hkey : key.algorithm = fipsReadyAlgorithm := hloads.algorithm _ (mem_of_lastFor hlast)
      rw [hlast] at hrest
      simp only [bind_eq_ok, check_eq_ok, equalsText_iff, within_eq_ok, exists_const,
        verifyRsaPssSha256_eq_ok, hkey] at hrest
      obtain ⟨halgorithm, hdumps, hverify⟩ := hrest
      exact ⟨signerRef, signatureHex, ⟨hfips, hsigner, hhex⟩, halgorithm,
        ⟨entries, key, hloads, hlast, hverify⟩, hdumps⟩
  · rintro ⟨signerRef, signatureHex, haddressed, halgorithm,
      ⟨entries, key, hloads, hlast, hverify⟩, hdumps⟩
    refine ⟨haddressed.fips, signerRef, haddressed.signerRef, signatureHex,
      haddressed.signatureHex, _, ⟨entries, hloads, rfl⟩, ?_⟩
    have hkey : key.algorithm = fipsReadyAlgorithm := hloads.algorithm _ (mem_of_lastFor hlast)
    rw [lookup_loaded, hlast]
    simp only [bind_eq_ok, check_eq_ok, equalsText_iff, within_eq_ok, exists_const,
      verifyRsaPssSha256_eq_ok, hkey]
    exact ⟨halgorithm, hdumps, hverify⟩

/-- A well-formed manifest names its signer and its signature, and meets `--require-fips`. -/
theorem ManifestDoc.addressed {rt : Runtime N} {data : Members N} {manifest : SignedBootManifest}
    (h : ManifestDoc rt data manifest) (requireFips : Bool) :
    Addressed data requireFips manifest.signerRef manifest.signatureHex where
  fips _ := ⟨h.algorithm ▸ h.signatureAlgorithm.1, h.profile ▸ h.cryptoProfile.1⟩
  signerRef := h.signerRef.1
  signatureHex := h.signatureHex.1

/-- **`verify_manifest_document` returns** for a well-formed manifest iff the last trusted key of
its signer verifies it; `--require-fips` then asks nothing more. -/
theorem verifyManifestDocument_eq_ok {rt : Runtime N} {crypto : Crypto K} {clock : UtcTime}
    {data trustedKeysDoc : Members N} {requireFips : Bool} {manifest : SignedBootManifest}
    {u : Unit} (h : ManifestDoc rt data manifest) :
    verifyManifestDocument rt crypto clock data trustedKeysDoc requireFips = .ok u ↔
      SignedBy rt crypto clock trustedKeysDoc data manifest.signerRef manifest.signatureHex := by
  rw [verifyManifestDocument_within]
  constructor
  · rintro ⟨signerRef, signatureHex, haddressed, -, hsigned, -⟩
    obtain ⟨rfl, rfl⟩ := (h.addressed requireFips).unique haddressed
    exact hsigned
  · exact fun hsigned => ⟨_, _, h.addressed requireFips,
      h.algorithm ▸ h.signatureAlgorithm.1, hsigned, rfl⟩

/-! ## The planner -/

/-- The time a token is judged at: `--now` in UTC, or the system clock. -/
theorem parseNow_currentTime {clock current : UtcTime} {now : Option Moment} :
    (∃ now', parseNow now = .ok now' ∧ currentTime clock now' = .ok current) ↔
      currentTime clock now = .ok current := by
  cases now with
  | none => simp only [parseNow, pure_eq_ok, exists_eq_left']
  | some t =>
    simp only [parseNow, map_eq_ok]
    constructor
    · rintro ⟨_, ⟨u, hu, rfl⟩, hc⟩
      rw [currentTime_toMoment] at hc
      exact Except.ok.inj hc ▸ hu
    · intro hu
      exact ⟨_, ⟨current, hu, rfl⟩, currentTime_toMoment⟩

/-- **The planner's verdict.** It prints a plan iff the three documents are objects, the last
trusted key of the signer verifies the manifest document, the manifest and the token are well
formed, and the token authorises the manifest; and then it is the plan for both. -/
theorem planFromDocuments_eq_ok {rt : Runtime N} {crypto : Crypto K} {clock : UtcTime}
    {args : PlanArgs N} {plan : BootPlan} :
    planFromDocuments rt crypto clock args = .ok plan ↔
      ∃ manifestDoc trustedKeysDoc tokenDoc manifest token,
        args.manifest.value = .obj manifestDoc ∧ args.trustedKeys.value = .obj trustedKeysDoc ∧
        args.token.value = .obj tokenDoc ∧
        SignedBy rt crypto clock trustedKeysDoc manifestDoc manifest.signerRef
          manifest.signatureHex ∧
        ManifestDoc rt manifestDoc manifest ∧ TokenDoc rt tokenDoc token ∧
        (∃ current, currentTime clock args.now = .ok current ∧
          Authorises token manifest current) ∧
        plan = planFor manifest token := by
  unfold planFromDocuments
  simp only [bind_eq_ok, loadJson_eq_ok, SignedBootManifest.fromDict_eq_ok,
    EnrollmentToken.fromDict_eq_ok]
  constructor
  · rintro ⟨now, hnow, data, hdata, keys, hkeys, _, hverify, manifest, hmanifest, tokenData,
      htokenData, token, htoken, hplan⟩
    obtain ⟨⟨current, hcurrent, hauth⟩, rfl⟩ := (buildBootPlan_eq_ok hmanifest).mp hplan
    exact ⟨data, keys, tokenData, manifest, token, hdata, hkeys, htokenData,
      (verifyManifestDocument_eq_ok hmanifest).mp hverify, hmanifest, htoken,
      ⟨current, parseNow_currentTime.mp ⟨now, hnow, hcurrent⟩, hauth⟩, rfl⟩
  · rintro ⟨data, keys, tokenData, manifest, token, hdata, hkeys, htokenData, hsigned, hmanifest,
      htoken, ⟨current, hcurrent, hauth⟩, hplan⟩
    obtain ⟨now, hnow, hcurrent⟩ := parseNow_currentTime.mpr hcurrent
    exact ⟨now, hnow, data, hdata, keys, hkeys, (),
      (verifyManifestDocument_eq_ok hmanifest).mpr hsigned, manifest, hmanifest, tokenData,
      htokenData, token, htoken, (buildBootPlan_eq_ok hmanifest).mpr ⟨⟨current, hcurrent, hauth⟩,
        hplan⟩⟩

end Nlboot.Reference
