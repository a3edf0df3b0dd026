import Nlboot.Reference.Refusals

/-!
# What leaves the planner

`main` (`cli.py`) turns the errors of the package and `ValueError` into exit code 2. Anything else
ends the process with a traceback: what the parsers let through (`Refusals.lean`), `OverflowError`
of `--now`, `UnsupportedAlgorithm` of the PEM loader, and `RecursionError` of `json` and `str` on a
document that is nested too deep.

A run is taken apart where it loads the trusted keys: `beforeKeys`, `loadTrustedKeys`, `afterKeys`.
Only the middle part, and the time of a run without `--now`, read the system clock.

* `Opened`, `Addressed`: a run comes to the trusted keys. `Verified`, `Reads`: their signer's own
  entry verifies the manifest document, and that parses.
* `LaterStrays`, `PlannerStrays`: the documents on which a run ends in another exception.

Results:
* `planFromDocuments_eq`: the three parts of a run.
* `afterKeys_isOk`, `strays_afterKeys`: how the last part ends, by the documents.
* `strays_planner`: what leaves the planner.
* **`raisesOwn_iff`**: the parsers raise their own errors, and the command returns 0 or 2, exactly
  on the documents that are not of this kind.
* `extremeTime_overflows`: a token, a claim and two key documents that are.
-/

namespace Nlboot.Reference

open Nlboot.Lib

variable {N K : Type} {rt : Runtime N} {crypto : Crypto K} {clock : UtcTime} {limits : Limits N}

/-- The errors `main` catches. -/
def PyError.Caught (e : PyError) : Prop := e.isValueError = true

theorem caught_nlboot : OwnErrors PyError.Caught .nlboot where
  raised _ := rfl
  overflow h := absurd h (by simp [PyError.Caught, PyError.isValueError])
  type h := absurd h (by simp [PyError.Caught, PyError.isValueError])
  recursion h := absurd h (by simp [PyError.Caught, PyError.isValueError])

theorem caught_verification : OwnErrors PyError.Caught .verification where
  raised _ := rfl
  overflow h := absurd h (by simp [PyError.Caught, PyError.isValueError])
  type h := absurd h (by simp [PyError.Caught, PyError.isValueError])
  recursion h := absurd h (by simp [PyError.Caught, PyError.isValueError])

/-- `ValueError` is caught, `RecursionError` is not. -/
@[simp] theorem Exceeded.caught_iff {reason : Exceeded} :
    reason.error.Caught ↔ reason = .digits := by
  cases reason <;> simp [Exceeded.error, PyError.Caught, PyError.isValueError]

theorem exceeded_depth_iff {exceeded : Option Exceeded} :
    (∃ reason, exceeded = some reason ∧ ¬ reason.error.Caught) ↔ exceeded = some .depth := by
  constructor
  · rintro ⟨reason, rfl, hstrays⟩
    cases reason with
    | depth => rfl
    | digits => exact absurd (Exceeded.caught_iff.mpr rfl) hstrays
  · exact fun h => ⟨.depth, h, by simp⟩

/-! ## The steps of a run -/

/-- What a run has found when it loads the trusted keys. -/
structure KeyQuery (N : Type) where
  now : Option Moment
  manifestDoc : Members N
  trustedKeysDoc : Members N
  signerRef : String
  signatureHex : String

/-- The steps before the trusted keys are loaded. -/
def beforeKeys (args : PlanArgs N) (limits : Limits N) : Except PyError (KeyQuery N) := do
  let now ← parseNow args.now
  let manifestDoc ← loadJson args.manifest limits
  let trustedKeysDoc ← loadJson args.trustedKeys limits
  check (args.requireFips = true →
      equalsText (manifestDoc.get "signature_algorithm") fipsReadyAlgorithm = true ∧
        equalsText (manifestDoc.get "crypto_profile") fipsReadyProfile = true)
    (.verification "require-fips requires rsa-pss-sha256 and fips-140-3-compatible profile")
  let signerRef ← stringField (.verification "manifest signer_ref must be a string")
    (manifestDoc.get "signer_ref")
  let signatureHex ← stringField (.verification "manifest signature_hex must be a string")
    (manifestDoc.get "signature_hex")
  pure { now, manifestDoc, trustedKeysDoc, signerRef, signatureHex }

/-- The signature check of `verify_manifest_document`. -/
def verifyWithKeys (rt : Runtime N) (crypto : Crypto K) (limits : Limits N) (query : KeyQuery N)
    (keys : TrustedKeys) : Except PyError Unit :=
  match keys.lookup query.signerRef with
  | none => throw (.verification ("no trusted key for signer_ref=" ++ rt.repr query.signerRef))
  | some trustedKey => do
    check (equalsText (query.manifestDoc.get "signature_algorithm") trustedKey.algorithm)
      (.verification "trusted key algorithm does not match manifest")
    within (limits.dumps (.obj (signedPart query.manifestDoc)))
    verifyRsaPssSha256 crypto (canonicalPayload rt.num query.manifestDoc) query.signatureHex
      trustedKey

/-- The steps after the trusted keys were loaded. -/
def afterKeys (rt : Runtime N) (crypto : Crypto K) (clock : UtcTime) (args : PlanArgs N)
    (limits : Limits N) (query : KeyQuery N) (keys : TrustedKeys) : Except PyError BootPlan := do
  verifyWithKeys rt crypto limits query keys
  let manifest ← SignedBootManifest.fromDict rt query.manifestDoc limits
  let tokenDoc ← loadJson args.token limits
  let token ← EnrollmentToken.fromDict rt tokenDoc
  buildBootPlan rt clock query.now manifest token

/-- **The three parts of a run.** -/
theorem planFromDocuments_eq {args : PlanArgs N} :
    planFromDocuments rt crypto clock args limits = (do
      let query ← beforeKeys args limits
      let keys ← loadTrustedKeys rt clock none query.trustedKeysDoc
      afterKeys rt crypto clock args limits query keys) := by
  unfold planFromDocuments verifyManifestDocument beforeKeys afterKeys
  simp only [bind_assoc, pure_bind]
  rfl

/-! ## Coming to the trusted keys -/

/-- `--now` is a `datetime` in UTC, and the two documents are objects that `json` can read. -/
structure Opened (limits : Limits N) (args : PlanArgs N) (manifestDoc keysDoc : Members N) :
    Prop where
  now : ∀ t ∈ args.now, ¬ t.Untimely
  manifestRead : limits.loads args.manifest.value = none
  manifest : args.manifest.value = .obj manifestDoc
  trustedKeysRead : limits.loads args.trustedKeys.value = none
  trustedKeys : args.trustedKeys.value = .obj keysDoc

theorem parseNow_isOk {now : Option Moment} :
    (∃ now', parseNow now = .ok now') ↔ ∀ t ∈ now, ¬ t.Untimely := by
  unfold parseNow Moment.Untimely
  cases now <;> simp

/-- The time `--now` comes to is a `datetime` in UTC. -/
theorem parseNow_timely {now now' : Option Moment} (h : parseNow now = .ok now') :
    ∀ t ∈ now', ¬ t.Untimely := by
  intro t ht huntimely
  cases now with
  | none =>
    obtain rfl := pure_eq_ok.mp h
    exact absurd ht (by simp)
  | some given =>
    obtain ⟨u, -, rfl⟩ := map_eq_ok.mp h
    obtain rfl := Option.some.inj ht
    exact huntimely u u.astimezone_toMoment

theorem strays_parseNow {now : Option Moment} : Strays PyError.Caught (parseNow now) ↔
    ∃ t ∈ now, t.astimezone = .error .overflow := by
  have hvalue : PyError.value.Caught := rfl
  unfold parseNow
  cases now with
  | none => simp
  | some t => simp [strays_astimezone caught_nlboot, hvalue]

theorem own_stringField {own : PyError → Prop} {error : PyError} (herror : own error)
    {value : Option (Json N)} : ¬ Strays own (stringField error value) := by
  unfold stringField
  split <;> simp [herror]

theorem strays_loadJson {file : JsonFile N} : Strays PyError.Caught (loadJson file limits) ↔
    limits.loads file.value = some .depth := by
  unfold loadJson
  simp only [strays_bind, strays_within, exceeded_depth_iff, within_eq_ok, exists_const]
  refine or_iff_left ?_
  rintro ⟨-, h⟩
  split at h
  · exact strays_pure h
  · exact absurd (caught_nlboot.raised _) (strays_throw.mp h)

/-- **A run comes to the trusted keys** iff its documents are opened and the manifest document is
addressed. -/
theorem beforeKeys_eq_ok {args : PlanArgs N} {query : KeyQuery N} :
    beforeKeys args limits = .ok query ↔ parseNow args.now = .ok query.now ∧
      Opened limits args query.manifestDoc query.trustedKeysDoc ∧
      Addressed query.manifestDoc args.requireFips query.signerRef query.signatureHex := by
  unfold beforeKeys
  simp only [bind_eq_ok, loadJson_within, check_eq_ok, equalsText_iff, stringField_eq_ok,
    exists_const, pure_eq_ok]
  constructor
  · rintro ⟨now, hnow, manifestDoc, ⟨hmanifestRead, hmanifest⟩, keysDoc, ⟨hkeysRead, hkeys⟩, hfips,
      signerRef, hsigner, signatureHex, hhex, rfl⟩
    exact ⟨hnow, ⟨parseNow_isOk.mp ⟨_, hnow⟩, hmanifestRead, hmanifest, hkeysRead, hkeys⟩,
      ⟨hfips, hsigner, hhex⟩⟩
  · rintro ⟨hnow, hopened, haddressed⟩
    exact ⟨_, hnow, _, ⟨hopened.manifestRead, hopened.manifest⟩, _,
      ⟨hopened.trustedKeysRead, hopened.trustedKeys⟩, haddressed.fips, _, haddressed.signerRef, _,
      haddressed.signatureHex, rfl⟩

/-! ## From the trusted keys on -/

/-- The key of the signer's own entry verifies the manifest document, whose payload is within the
limits of `json.dumps`. -/
structure Verified (rt : Runtime N) (crypto : Crypto K) (limits : Limits N) (keys : List (Json N))
    (manifestDoc : Members N) (signerRef signatureHex : String) : Prop where
  algorithm : manifestDoc.get "signature_algorithm" = some (.str fipsReadyAlgorithm)
  dumped : limits.dumps (.obj (signedPart manifestDoc)) = none
  signed : ∃ key, SignerKey rt keys signerRef key ∧
    Verifies crypto key signatureHex (canonicalPayload rt.num manifestDoc)

/-- The document describes the manifest, and its artifacts are within the limits of `str`. -/
def Reads (rt : Runtime N) (limits : Limits N) (manifestDoc : Members N)
    (manifest : SignedBootManifest) : Prop :=
  ManifestDoc rt manifestDoc manifest ∧
    ∀ artifacts, ArtifactsField manifestDoc artifacts → limits.artifacts artifacts = none

/-- The later steps come to a plan at the time: the manifest document verifies and parses, and the
token parses and authorises it. -/
def Planned (rt : Runtime N) (crypto : Crypto K) (limits : Limits N) (token : JsonFile N)
    (keys : List (Json N)) (manifestDoc : Members N) (signerRef signatureHex : String)
    (current : UtcTime) : Prop :=
  Verified rt crypto limits keys manifestDoc signerRef signatureHex ∧
    ∃ manifest tokenDoc parsed, Reads rt limits manifestDoc manifest ∧
      limits.loads token.value = none ∧ token.value = .obj tokenDoc ∧
      TokenDoc rt tokenDoc parsed ∧ Authorises parsed manifest current

/-- The later steps come to something `main` does not catch: a payload, an artifact or a token that
is nested too deep, a key of an algorithm the PEM loader does not know, or a token of the kind that
lets something else through. -/
inductive LaterStrays (rt : Runtime N) (crypto : Crypto K) (limits : Limits N) (token : JsonFile N)
    (keys : List (Json N)) (manifestDoc : Members N) (signerRef signatureHex : String) : Prop
  | payload {key : TrustedKey} (signer : SignerKey rt keys signerRef key)
      (algorithm : manifestDoc.get "signature_algorithm" = some (.str fipsReadyAlgorithm))
      (deep : limits.dumps (.obj (signedPart manifestDoc)) = some .depth)
  | pem {key : TrustedKey} {signature : List UInt8} (signer : SignerKey rt keys signerRef key)
      (algorithm : manifestDoc.get "signature_algorithm" = some (.str fipsReadyAlgorithm))
      (dumped : limits.dumps (.obj (signedPart manifestDoc)) = none)
      (hex : fromhex signatureHex.toList = some signature)
      (unsupported : crypto.loadPemPublicKey key.publicKeyPem = .unsupportedAlgorithm)
  | artifacts (verified : Verified rt crypto limits keys manifestDoc signerRef signatureHex)
      (stray : ManifestStrays limits manifestDoc .depth)
  | tokenRead {manifest : SignedBootManifest}
      (verified : Verified rt crypto limits keys manifestDoc signerRef signatureHex)
      (reads : Reads rt limits manifestDoc manifest)
      (deep : limits.loads token.value = some .depth)
  | token {manifest : SignedBootManifest} {tokenDoc : Members N}
      (verified : Verified rt crypto limits keys manifestDoc signerRef signatureHex)
      (reads : Reads rt limits manifestDoc manifest)
      (tokenRead : limits.loads token.value = none) (value : token.value = .obj tokenDoc)
      (stray : TokenStrays rt tokenDoc)

/-- A signature check lets through only what the PEM loader raises on a key it does not know. -/
theorem strays_verifyRsaPssSha256 {payload : List UInt8} {signatureHex : String}
    {key : TrustedKey} :
    Strays PyError.Caught (verifyRsaPssSha256 crypto payload signatureHex key) ↔
      (∃ signature, fromhex signatureHex.toList = some signature) ∧
        crypto.loadPemPublicKey key.publicKeyPem = .unsupportedAlgorithm := by
  have hvalue : PyError.value.Caught := rfl
  have hunsupported : ¬ PyError.unsupportedAlgorithm.Caught := by
    simp [PyError.Caught, PyError.isValueError]
  unfold verifyRsaPssSha256
  cases fromhex signatureHex.toList with
  | none => simp [caught_verification.raised]
  | some signature =>
    cases crypto.loadPemPublicKey key.publicKeyPem with
    | rsa k => simp [caught_verification.raised]
    | otherKey => simp [caught_verification.raised]
    | valueError => simp [hvalue]
    | unsupportedAlgorithm => simp [hunsupported]

/-- At a time that is a `datetime` in UTC the last step lets nothing through. -/
theorem own_buildBootPlan {now : Option Moment} {manifest : SignedBootManifest}
    {token : EnrollmentToken N} (htime : ∀ t ∈ now, ¬ t.Untimely) :
    ¬ Strays PyError.Caught (buildBootPlan rt clock now manifest token) := by
  have hcurrent : ¬ Strays PyError.Caught (currentTime clock now) := by
    rintro ⟨e, he, -⟩
    cases now with
    | none => exact absurd he (by simp [currentTime, pure, Except.pure])
    | some t => exact htime t rfl fun u hu => absurd (hu.symm.trans he) (by simp)
  have hselect : ¬ Strays PyError.Caught (selectEntry manifest) := by
    unfold selectEntry
    split <;> simp [own_validateForManifest caught_nlboot, own_defaultEntry caught_nlboot]
  unfold buildBootPlan EnrollmentToken.validateForManifest
  simp [hcurrent, hselect, caught_nlboot.raised]

section

variable {now : Option Moment} {entries : List (String × TrustedKey)} {keys : List (Json N)}
  {query : KeyQuery N} (hloads : Loads rt clock now query.trustedKeysDoc entries)
  (hkeys : query.trustedKeysDoc.get "keys" = some (.arr keys))

include hloads hkeys

/-- The signature check, by the key that is looked up. -/
theorem verifyWithKeys_eq :
    verifyWithKeys rt crypto limits query
        (entries.foldl (fun d m => dictSet d m.1 m.2) []) = .ok () ↔
      Verified rt crypto limits keys query.manifestDoc query.signerRef query.signatureHex := by
  unfold verifyWithKeys
  rw [lookup_loaded]
  constructor
  · intro h
    cases hlast : lastFor query.signerRef entries with
    | none => exact absurd (hlast ▸ h) throw_ne_ok
    | some key =>
      have hkey : key.algorithm = fipsReadyAlgorithm := hloads.algorithm _ (mem_of_lastFor hlast)
      rw [hlast] at h
      simp only [bind_eq_ok, check_eq_ok, equalsText_iff, within_eq_ok, exists_const,
        verifyRsaPssSha256_eq_ok, hkey] at h
      obtain ⟨halgorithm, hdumped, hverifies⟩ := h
      exact ⟨halgorithm, hdumped, key, (lastFor_iff_signerKey hloads hkeys).mp hlast, hverifies⟩
  · rintro ⟨halgorithm, hdumped, key, hsigner, hverifies⟩
    have hlast := (lastFor_iff_signerKey hloads hkeys).mpr hsigner
    have hkey : key.algorithm = fipsReadyAlgorithm := hloads.algorithm _ (mem_of_lastFor hlast)
    rw [hlast]
    simp only [bind_eq_ok, check_eq_ok, equalsText_iff, within_eq_ok, exists_const,
      verifyRsaPssSha256_eq_ok, hkey]
    exact ⟨halgorithm, hdumped, hverifies⟩

/-- What leaves the signature check. -/
theorem strays_verifyWithKeys :
    Strays PyError.Caught (verifyWithKeys rt crypto limits query
        (entries.foldl (fun d m => dictSet d m.1 m.2) [])) ↔
      ∃ key, SignerKey rt keys query.signerRef key ∧
        query.manifestDoc.get "signature_algorithm" = some (.str fipsReadyAlgorithm) ∧
        (limits.dumps (.obj (signedPart query.manifestDoc)) = some .depth ∨
          limits.dumps (.obj (signedPart query.manifestDoc)) = none ∧
            (∃ signature, fromhex query.signatureHex.toList = some signature) ∧
            crypto.loadPemPublicKey key.publicKeyPem = .unsupportedAlgorithm) := by
  unfold verifyWithKeys
  rw [lookup_loaded]
  simp only [← lastFor_iff_signerKey hloads hkeys]
  cases hlast : lastFor query.signerRef entries with
  | none => simp [caught_verification.raised]
  | some key =>
    have hkey : key.algorithm = fipsReadyAlgorithm := hloads.algorithm _ (mem_of_lastFor hlast)
    simp only [strays_bind, strays_check, caught_verification.raised, not_true_eq_false, and_false,
      false_or, check_eq_ok, equalsText_iff, hkey, exists_const, strays_within, exceeded_depth_iff,
      within_eq_ok, strays_verifyRsaPssSha256, Option.some.injEq, exists_eq_left']

/-- **The later steps end in a plan** iff the documents come to one at the time of the run. -/
theorem afterKeys_isOk {args : PlanArgs N} :
    (∃ plan, afterKeys rt crypto clock args limits query
        (entries.foldl (fun d m => dictSet d m.1 m.2) []) = .ok plan) ↔
      ∃ current, currentTime clock query.now = .ok current ∧
        Planned rt crypto limits args.token keys query.manifestDoc query.signerRef
          query.signatureHex current := by
  unfold afterKeys Planned Reads
  simp only [bind_eq_ok, verifyWithKeys_eq hloads hkeys, exists_const,
    SignedBootManifest.fromDict_within, loadJson_within, EnrollmentToken.fromDict_eq_ok]
  constructor
  · rintro ⟨plan, hverified, manifest, hreads, tokenDoc, ⟨hread, hvalue⟩, token, htoken, hplan⟩
    obtain ⟨⟨current, hcurrent, hauthorises⟩, -⟩ := (buildBootPlan_eq_ok hreads.1).mp hplan
    exact ⟨current, hcurrent, hverified, manifest, tokenDoc, token, hreads, hread, hvalue, htoken,
      hauthorises⟩
  · rintro ⟨current, hcurrent, hverified, manifest, tokenDoc, token, hreads, hread, hvalue, htoken,
      hauthorises⟩
    exact ⟨_, hverified, manifest, hreads, tokenDoc, ⟨hread, hvalue⟩, token, htoken,
      (buildBootPlan_eq_ok hreads.1).mpr ⟨⟨current, hcurrent, hauthorises⟩, rfl⟩⟩

/-- **What leaves the later steps.** -/
theorem strays_afterKeys {args : PlanArgs N} (htime : ∀ t ∈ query.now, ¬ t.Untimely) :
    Strays PyError.Caught (afterKeys rt crypto clock args limits query
        (entries.foldl (fun d m => dictSet d m.1 m.2) [])) ↔
      LaterStrays rt crypto limits args.token keys query.manifestDoc query.signerRef
        query.signatureHex := by
  have hplan : ∀ manifest token,
      ¬ Strays PyError.Caught (buildBootPlan rt clock query.now manifest token) :=
    fun manifest token => own_buildBootPlan htime
  unfold afterKeys
  simp only [strays_bind, verifyWithKeys_eq hloads hkeys, strays_verifyWithKeys hloads hkeys,
    strays_manifest caught_nlboot, SignedBootManifest.fromDict_within, strays_loadJson,
    loadJson_within, strays_token caught_nlboot, hplan, and_false, exists_false, or_false,
    Exceeded.caught_iff]
  constructor
  · rintro (⟨key, hsigner, halgorithm, hdeep | ⟨hdumped, ⟨signature, hhex⟩, hpem⟩⟩ |
      ⟨_, hverified, ⟨reason, hstray, hreason⟩ | ⟨manifest, hreads, hdeep |
        ⟨tokenDoc, ⟨hread, hvalue⟩, hstray⟩⟩⟩)
    · exact .payload hsigner halgorithm hdeep
    · exact .pem hsigner halgorithm hdumped hhex hpem
    · cases reason with
      | depth => exact .artifacts hverified hstray
      | digits => exact absurd rfl hreason
    · exact .tokenRead hverified hreads hdeep
    · exact .token hverified hreads hread hvalue hstray
  · rintro (⟨hsigner, halgorithm, hdeep⟩ | ⟨hsigner, halgorithm, hdumped, hhex, hpem⟩ |
      ⟨hverified, hstray⟩ | ⟨hverified, hreads, hdeep⟩ | ⟨hverified, hreads, hread, hvalue, hstray⟩)
    · exact .inl ⟨_, hsigner, halgorithm, .inl hdeep⟩
    · exact .inl ⟨_, hsigner, halgorithm, .inr ⟨hdumped, ⟨_, hhex⟩, hpem⟩⟩
    · exact .inr ⟨(), hverified, .inl ⟨.depth, hstray, by simp⟩⟩
    · exact .inr ⟨(), hverified, .inr ⟨_, hreads, .inl hdeep⟩⟩
    · exact .inr ⟨(), hverified, .inr ⟨_, hreads, .inr ⟨_, ⟨hread, hvalue⟩, hstray⟩⟩⟩

end

/-! ## The planner -/

/-- The planner comes to something `main` does not catch: in reading `--now` or one of its first two
documents, in loading the trusted keys, or afterwards. -/
inductive PlannerStrays (rt : Runtime N) (crypto : Crypto K) (clock : UtcTime) (limits : Limits N)
    (args : PlanArgs N) : Prop
  | now {t : Moment} (given : args.now = some t) (overflow : t.astimezone = .error .overflow)
  | manifestRead (now : ∀ t ∈ args.now, ¬ t.Untimely)
      (deep : limits.loads args.manifest.value = some .depth)
  | trustedKeysRead {manifestDoc : Members N} (now : ∀ t ∈ args.now, ¬ t.Untimely)
      (manifestRead : limits.loads args.manifest.value = none)
      (manifest : args.manifest.value = .obj manifestDoc)
      (deep : limits.loads args.trustedKeys.value = some .depth)
  | trustedKeys {manifestDoc keysDoc : Members N} {signerRef signatureHex : String}
      (opened : Opened limits args manifestDoc keysDoc)
      (addressed : Addressed manifestDoc args.requireFips signerRef signatureHex)
      (stray : KeysStray rt clock none keysDoc)
  | later {manifestDoc keysDoc : Members N} {signerRef signatureHex : String}
      {keys : List (Json N)} (opened : Opened limits args manifestDoc keysDoc)
      (addressed : Addressed manifestDoc args.requireFips signerRef signatureHex)
      (array : keysDoc.get "keys" = some (.arr keys))
      (accepted : ∀ item ∈ keys, AcceptedKey rt clock none item)
      (stray : LaterStrays rt crypto limits args.token keys manifestDoc signerRef signatureHex)

/-- What leaves the steps before the trusted keys are loaded. -/
theorem strays_beforeKeys {args : PlanArgs N} : Strays PyError.Caught (beforeKeys args limits) ↔
    (∃ t ∈ args.now, t.astimezone = .error .overflow) ∨
      (∀ t ∈ args.now, ¬ t.Untimely) ∧ (limits.loads args.manifest.value = some .depth ∨
        limits.loads args.manifest.value = none ∧ (∃ data, args.manifest.value = .obj data) ∧
          limits.loads args.trustedKeys.value = some .depth) := by
  unfold beforeKeys
  simp only [strays_bind, strays_parseNow, strays_loadJson, strays_check,
    caught_verification.raised, not_true_eq_false, and_false,
    own_stringField (caught_verification.raised _), strays_pure, exists_false, or_false,
    loadJson_within, exists_and_right, parseNow_isOk, exists_and_left, and_assoc]

/-- **What leaves the planner.** -/
theorem strays_planner {args : PlanArgs N} :
    Strays PyError.Caught (planFromDocuments rt crypto clock args limits) ↔
      PlannerStrays rt crypto clock limits args := by
  have hload : ∀ data, Strays PyError.Caught (loadTrustedKeys rt clock none data) ↔
      KeysStray rt clock none data :=
    fun data => strays_trustedKeys caught_verification (by simp)
  rw [planFromDocuments_eq]
  simp only [strays_bind, strays_beforeKeys, beforeKeys_eq_ok, hload, loadTrustedKeys_eq_ok]
  constructor
  · rintro ((⟨t, ht, hoverflow⟩ | ⟨hnow, hdeep | ⟨hread, ⟨data, hmanifest⟩, hdeep⟩⟩) |
      ⟨query, ⟨hnow, hopened, haddressed⟩, hstray | ⟨_, ⟨entries, hloads, rfl⟩, hstray⟩⟩)
    · exact .now ht hoverflow
    · exact .manifestRead hnow hdeep
    · exact .trustedKeysRead hnow hread hmanifest hdeep
    · exact .trustedKeys hopened haddressed hstray
    · obtain ⟨keys, hkeys, haccepted⟩ := exists_loads_iff.mp ⟨entries, hloads⟩
      exact .later hopened haddressed hkeys haccepted
        ((strays_afterKeys hloads hkeys (parseNow_timely hnow)).mp hstray)
  · rintro (⟨ht, hoverflow⟩ | ⟨hnow, hdeep⟩ | ⟨hnow, hread, hmanifest, hdeep⟩ |
      ⟨hopened, haddressed, hstray⟩ | ⟨hopened, haddressed, hkeys, haccepted, hstray⟩)
    · exact .inl (.inl ⟨_, ht, hoverflow⟩)
    · exact .inl (.inr ⟨hnow, .inl hdeep⟩)
    · exact .inl (.inr ⟨hnow, .inr ⟨hread, ⟨_, hmanifest⟩, hdeep⟩⟩)
    · obtain ⟨now, hnow⟩ := parseNow_isOk.mpr hopened.now
      exact .inr ⟨⟨now, _, _, _, _⟩, ⟨hnow, hopened, haddressed⟩, .inl hstray⟩
    · obtain ⟨now, hnow⟩ := parseNow_isOk.mpr hopened.now
      obtain ⟨entries, hloads⟩ := exists_loads_iff.mpr ⟨_, hkeys, haccepted⟩
      exact .inr ⟨⟨now, _, _, _, _⟩, ⟨hnow, hopened, haddressed⟩, .inr ⟨_, ⟨entries, hloads, rfl⟩,
        (strays_afterKeys hloads hkeys (parseNow_timely hnow)).mpr hstray⟩⟩

/-- **The parsers raise their own errors** exactly on the documents in which they come to no extreme
timestamp, no unhashable status and no artifact that `str` fails on, and no time that is no
`datetime` in UTC is handed in; and the command returns 0 or 2 exactly if the documents it is given
are like that. -/
theorem raisesOwn_iff (rt : Runtime N) (crypto : Crypto K) (limits : Limits N) :
    (∀ data, (∀ e, SignedBootManifest.fromDict rt data limits = .error e → e.IsNlboot) ↔
      ∀ reason, ¬ ManifestStrays limits data reason) ∧
    (∀ data, (∀ e, EnrollmentToken.fromDict rt data = .error e → e.IsNlboot) ↔
      ¬ TokenStrays rt data) ∧
    (∀ data, (∀ e, DeviceClaim.fromDict rt data = .error e → e.IsDevice) ↔
      ¬ ClaimStrays rt data) ∧
    (∀ clock now data, (∀ e, loadTrustedKeys rt clock now data = .error e → e.IsVerification) ↔
      ¬ KeysStray rt clock now data) ∧
    ∀ clock args, (∃ code out, main rt crypto clock args limits = .ok (code, out) ∧
        (code = 0 ∨ code = 2)) ↔
      ¬ PlannerStrays rt crypto clock limits args := by
  refine ⟨fun data => ?_, fun data => ?_, fun data => ?_, fun clock now data => ?_,
    fun clock args => ?_⟩
  · rw [← not_strays_iff, strays_manifest ownErrors_nlboot]
    simp [Exceeded.not_isNlboot]
  · rw [← not_strays_iff, strays_token ownErrors_nlboot]
  · rw [← not_strays_iff, strays_claim ownErrors_device]
  · rw [← not_strays_iff, strays_trustedKeys ownErrors_verification
      fun _ _ => PyError.not_isVerification_value]
  · rw [← strays_planner, not_strays_iff]
    unfold main
    cases planFromDocuments rt crypto clock args limits with
    | ok plan => exact iff_of_true ⟨0, _, rfl, .inl rfl⟩ fun e he => absurd he (by simp)
    | error e =>
      simp only [Except.error.injEq, forall_eq', PyError.Caught]
      by_cases hcaught : e.isValueError = true
      · exact iff_of_true ⟨2, none, by rw [if_pos hcaught]; rfl, .inr rfl⟩ hcaught
      · rw [if_neg hcaught]
        exact iff_of_false (by simp) hcaught

/-! ## Documents that are of this kind -/

/-- A token issued in the first hour of the year 1, east of Greenwich. -/
def extremeToken : Members Int := [
  ("token_id", .str "token"),
  ("purpose", .str "recovery"),
  ("audience", .obj [("subject_kind", .str "device")]),
  ("issued_at", .str "0001-01-01T00:00:00+01:00")]

/-- A claim of that hour. -/
def extremeClaim : Members Int := [
  ("device_id", .str "urn:srcos:device:demo"),
  ("public_key_pem", .str "-----BEGIN PUBLIC KEY-----"),
  ("nonce", .str "nonce"),
  ("claimed_at", .str "0001-01-01T00:00:00+01:00")]

/-- A key whose status is a list. -/
def listedStatus : Members Int := [
  ("key_ref", .str "urn:srcos:key:demo"),
  ("algorithm", .str "rsa-pss-sha256"),
  ("public_key_pem", .str "-----BEGIN PUBLIC KEY-----"),
  ("status", .arr [.str "active"])]

/-- A planner that is given this key. -/
def listedArgs : PlanArgs Int where
  manifest := ⟨"manifest.json", .obj [("signer_ref", .str "urn:srcos:key:demo"),
    ("signature_hex", .str "00")]⟩
  token := ⟨"token.json", .obj []⟩
  trustedKeys := ⟨"keys.json", .obj [("keys", .arr [.obj listedStatus])]⟩
  requireFips := false
  now := none

/-- The PEM texts of the keys are public keys the `cryptography` package can load. -/
def PemsParse (crypto : Crypto K) (value : Json N) : Prop :=
  ∀ data keys entry pem, value = .obj data → Members.get data "keys" = some (.arr keys) →
    .obj entry ∈ keys → Members.get entry "public_key_pem" = some (.str pem) →
    (∃ key, crypto.loadPemPublicKey pem = .rsa key) ∨ crypto.loadPemPublicKey pem = .otherKey

/-- Its PEM string parses. -/
theorem pemsParse_listedArgs : PemsParse pyCrypto listedArgs.trustedKeys.value := by
  rintro data keys entry pem hdata hkeys hentry hpem
  obtain rfl := Json.obj.inj hdata
  obtain rfl := Json.arr.inj (Option.some.inj hkeys)
  obtain rfl := Json.obj.inj (List.mem_singleton.mp hentry)
  obtain rfl := Json.str.inj (Option.some.inj hpem)
  exact .inl ⟨_, rfl⟩

/-- A key that is active whenever it is judged. -/
def activeEntry : Members Int := [
  ("key_ref", .str "urn:srcos:key:demo"),
  ("algorithm", .str "rsa-pss-sha256"),
  ("public_key_pem", .str "-----BEGIN PUBLIC KEY-----")]

/-- The timestamps raise `OverflowError`, a naive time without a local reading `ValueError`; the
status raises `TypeError`, and the command lets it through. -/
theorem extremeTime_overflows :
    (fun _ => ()) <$> EnrollmentToken.fromDict pyRuntime extremeToken = .error .overflow ∧
    DeviceClaim.fromDict pyRuntime extremeClaim = .error .overflow ∧
    loadTrustedKeys pyRuntime newYear none [("keys", .arr [.obj listedStatus])] = .error .type ∧
    loadTrustedKeys pyRuntime newYear (some (.naive none)) [("keys", .arr [.obj activeEntry])] =
      .error .value ∧
    PemsParse pyCrypto listedArgs.trustedKeys.value ∧
    (fun _ => ()) <$> main pyRuntime pyCrypto newYear listedArgs = .error .type :=
  ⟨by decide, by decide, by decide, by decide, pemsParse_listedArgs, by decide⟩

/-- What leaves the parsers with the runtime and the cryptography at hand, and a key document of
this kind. -/
theorem listedStatus_strays :
    KeysStray pyRuntime newYear none [("keys", .arr [.obj listedStatus])] ∧
    ¬ ∃ code out, main pyRuntime pyCrypto newYear listedArgs = .ok (code, out) ∧
      (code = 0 ∨ code = 2) := by
  have hstray : KeysStray pyRuntime newYear none [("keys", .arr [.obj listedStatus])] :=
    ⟨_, [], listedStatus, [], rfl, rfl, fun _ h => absurd h List.not_mem_nil,
      ⟨_, rfl, by decide⟩, rfl, ⟨_, rfl, by decide⟩, .inl ⟨_, rfl, .inl ⟨_, rfl⟩⟩⟩
  refine ⟨hstray, fun hreturns => ?_⟩
  have hopened : Opened .none listedArgs [("signer_ref", .str "urn:srcos:key:demo"),
      ("signature_hex", .str "00")] [("keys", .arr [.obj listedStatus])] :=
    ⟨fun t ht => absurd ht (by simp [listedArgs]), rfl, rfl, rfl, rfl⟩
  have haddressed : Addressed (N := Int) [("signer_ref", .str "urn:srcos:key:demo"),
      ("signature_hex", .str "00")] false "urn:srcos:key:demo" "00" :=
    ⟨fun h => absurd h (by simp), rfl, rfl⟩
  exact ((raisesOwn_iff pyRuntime pyCrypto .none).2.2.2.2 newYear listedArgs).mp hreturns
    (.trustedKeys hopened haddressed hstray)

/-! ### Documents that are nested too deep -/

/-- The limits of a stack that holds this many levels. -/
def stackLimits (levels : Nat) : Limits N where
  loads value := if levels < value.depth then some .depth else none
  dumps value := if levels < value.depth then some .depth else none
  str value := if levels < value.depth then some .depth else none

/-- Lists in lists. -/
def nested : Nat → Json N
  | 0 => .null
  | n + 1 => .arr [nested n]

theorem depth_nested (n : Nat) : (nested n : Json N).depth = n := by
  induction n with
  | zero => rfl
  | succ n ih => simp [nested, Json.depth, Json.depthItems, ih]

/-- **No stack is deep enough**: for every one there is a manifest file on which the command ends in
`RecursionError`. -/
theorem main_deep (rt : Runtime N) (crypto : Crypto K) (clock : UtcTime) (levels : Nat)
    {args : PlanArgs N} (hmanifest : args.manifest.value = nested (levels + 1))
    (hnow : args.now = none) :
    ∃ e, main rt crypto clock args (stackLimits levels) = .error e ∧ ¬ e.Caught := by
  have hstray : PlannerStrays rt crypto clock (stackLimits levels) args := by
    refine .manifestRead (by simp [hnow]) ?_
    rw [hmanifest]
    simp [stackLimits, depth_nested]
  obtain ⟨e, he, hcaught⟩ := strays_planner.mpr hstray
  refine ⟨e, ?_, hcaught⟩
  unfold main
  rw [he]
  exact if_neg hcaught

end Nlboot.Reference
