import Nlboot.Lib.JsonCode
import Nlboot.Reference.ClaimDocuments

/-!
# Who stands behind a session

Proof of possession over whole runs. A step of a run is a call (`EnrollmentRuns`), or a signature
that a party makes with its own key by other means than `make_claim` (`Step.sign`). The claims that
are presented to `issue` and `redeem` are arbitrary, so a run covers whoever copies, alters or
builds claims.

Two assumptions on the cryptography of a run:
* `Unforgeable`: a presented claim verifies only if a holder of its key signed it before.
* `CollisionFree`: SHA-256 is one to one on the codes and the keys of the run.

The nonces of a run are Unicode texts: a payload does not tell a character above `U+FFFF` from its
two surrogates (`signingPayload_congr`).

Results:
* `signingPayload_inj`: a payload is one of a single device, key, nonce and time text.
* `exists_issue_of_bindingFor`: the binding of a code was made by an earlier issue of that code.
* **`possession`**: behind every session is the holder of the device's key, who signed a claim over
  the nonce of the code, and the issue of the code, on a claim of the same device and nonce.
* `selfSigned_noMakeClaim`: the holder need not have called `make_claim` for it.
-/

namespace Nlboot.Reference

open Nlboot.Lib

variable {N K : Type} {crypto : Crypto K} {rt : Runtime N}

/-! ## What is signed -/

/-- Objects of texts that are dumped alike have the same members. -/
theorem perm_of_jsonDumps {num : N → List Char} {members members' : List (String × String)}
    (h : jsonDumps num (.ofTexts members) = jsonDumps num (.ofTexts members')) :
    members.Perm members' := by
  have htext := utf8_injective h
  rw [sortKeys_ofTexts, sortKeys_ofTexts] at htext
  have hsort := compact_ofTexts_inj textCode_string htext
  exact (sortByKey_perm pyLe members).symm.trans (hsort ▸ sortByKey_perm pyLe members')

/-- **The payload is injective** in the device, the key, the nonce and the text of the time. -/
theorem signingPayload_inj {deviceId deviceId' publicKeyPem publicKeyPem' nonce nonce' : String}
    {claimedAt claimedAt' : UtcTime}
    (h : signingPayload rt deviceId publicKeyPem nonce claimedAt =
      signingPayload rt deviceId' publicKeyPem' nonce' claimedAt') :
    deviceId = deviceId' ∧ publicKeyPem = publicKeyPem' ∧ nonce = nonce' ∧
      zuluText rt claimedAt = zuluText rt claimedAt' := by
  let texts (deviceId publicKeyPem nonce : String) (claimedAt : UtcTime) :=
    [("device_id", deviceId), ("public_key_pem", publicKeyPem), ("nonce", nonce),
      ("claimed_at", zuluText rt claimedAt)]
  have hperm : (texts deviceId publicKeyPem nonce claimedAt).Perm
      (texts deviceId' publicKeyPem' nonce' claimedAt') := perm_of_jsonDumps h
  have hmem : ∀ name text, (name, text) ∈ texts deviceId publicKeyPem nonce claimedAt →
      (name, text) ∈ texts deviceId' publicKeyPem' nonce' claimedAt' :=
    fun _ _ => hperm.mem_iff.mp
  refine ⟨?_, ?_, ?_, ?_⟩
  · simpa [texts] using hmem "device_id" deviceId (by simp [texts])
  · simpa [texts] using hmem "public_key_pem" publicKeyPem (by simp [texts])
  · simpa [texts] using hmem "nonce" nonce (by simp [texts])
  · simpa [texts] using hmem "claimed_at" (zuluText rt claimedAt) (by simp [texts])

/-! ## Runs with an adversary -/

/-- A step of a run: a call, or a signature made outside `make_claim`. -/
inductive Step (crypto : Crypto K) where
  | call (call : Call crypto)
  | sign (key : K) (payload : List UInt8)

def Step.toCall : Step crypto → Option (Call crypto)
  | .call c => some c
  | .sign .. => none

/-- The calls of a run. -/
def callsOf (run : List (Step crypto)) : List (Call crypto) := run.filterMap Step.toCall

/-- The claim a step presents. -/
def Step.presents : Step crypto → Option DeviceClaim
  | .call (.issue args) => some args.deviceClaim
  | .call (.redeem args) => some args.deviceClaim
  | _ => none

/-- The code a step hashes. -/
def Step.code : Step crypto → Option String
  | .call (.issue args) => some args.draw.text
  | .call (.redeem args) => some args.code
  | _ => none

/-- The key occurs in the step. -/
def Step.Uses (key : K) : Step crypto → Prop
  | .call (.makeClaim identity ..) => HoldsKey crypto identity.publicKeyPem key
  | .call (.issue args) => HoldsKey crypto args.deviceClaim.publicKeyPem key
  | .call (.redeem args) => HoldsKey crypto args.deviceClaim.publicKeyPem key
  | .sign signer _ => signer = key

/-- A holder of the key signs the payload in the step. -/
def Step.Signs (rt : Runtime N) (key : K) (payload : List UInt8) : Step crypto → Prop
  | .call (.makeClaim identity salt nonce claimedAt clock) =>
    HoldsKey crypto identity.publicKeyPem key ∧
      ∃ claim, identity.makeClaim rt clock salt nonce claimedAt = .ok claim ∧
        claim.payload rt = .ok payload
  | .sign signer signed => signer = key ∧ signed = payload
  | _ => False

/-- The step hashes the bytes: those of its code, or those of its key. -/
def Step.Hashes (bytes : List UInt8) (step : Step crypto) : Prop :=
  (∃ code ∈ step.code, bytes = utf8 code.toList) ∨
    ∃ key, step.Uses key ∧ bytes = crypto.publicBytes key

/-- A signature that is presented verifies under the key presented with it only over a payload that
a holder of the key signed before. -/
def Unforgeable (rt : Runtime N) (run : List (Step crypto)) : Prop :=
  ∀ before step after, run = before ++ step :: after → ∀ claim ∈ step.presents,
    ∀ key signature payload, HoldsKey crypto claim.publicKeyPem key →
      fromhex claim.signatureHex.toList = some signature → claim.payload rt = .ok payload →
        crypto.verify key signature payload = true →
          ∃ earlier ∈ before, earlier.Signs rt key payload

/-- SHA-256 is one to one on what the run hashes. -/
def CollisionFree (run : List (Step crypto)) : Prop :=
  ∀ step ∈ run, ∀ step' ∈ run, ∀ bytes bytes', step.Hashes bytes → step'.Hashes bytes' →
    crypto.sha256 bytes = crypto.sha256 bytes' → bytes = bytes'

/-! ## Who signed, and what was issued -/

/-- The device id is the fingerprint of the key, and of no other key of the run. -/
structure KeyOf (run : List (Step crypto)) (deviceId : String) (key : K) : Prop where
  fingerprinted : fingerprint crypto key = deviceId
  unique : ∀ step ∈ run, ∀ other, step.Uses other → fingerprint crypto other = deviceId →
    crypto.publicBytes other = crypto.publicBytes key

/-- The holder of the key called `make_claim` over the nonce, as the device, and got a claim. -/
def CalledMakeClaim (rt : Runtime N) (run : List (Step crypto)) (key : K)
    (deviceId nonce : String) : Prop :=
  ∃ (identity : DeviceIdentity crypto) (salt : List UInt8) (claimedAt : Option Moment)
    (clock : UtcTime) (claim : DeviceClaim),
    .call (.makeClaim identity salt nonce claimedAt clock) ∈ run ∧
      HoldsKey crypto identity.publicKeyPem key ∧ identity.deviceId = deviceId ∧
      identity.makeClaim rt clock salt nonce claimedAt = .ok claim

/-- The holder of the key signed a claim of the device over the nonce outside `make_claim`. -/
def SignedItself (rt : Runtime N) (run : List (Step crypto)) (key : K)
    (deviceId nonce : String) : Prop :=
  ∃ (publicKeyPem : String) (claimedAt : UtcTime), HoldsKey crypto publicKeyPem key ∧
    .sign key (signingPayload rt deviceId publicKeyPem nonce claimedAt) ∈ run

/-- The call verified a claim of the device and the nonce and was given what the credential
grants. -/
structure Grants (rt : Runtime N) (crypto : Crypto K) (args : IssueArgs) (nonce : String)
    (credential : SessionCredential) : Prop where
  verified : args.deviceClaim.verify rt crypto (some nonce) = .ok ()
  deviceId : args.deviceClaim.deviceId = credential.deviceId
  nonce : args.deviceClaim.nonce = nonce
  purpose : args.purpose = credential.purpose.text
  releaseSetRef : args.releaseSetRef = credential.releaseSetRef
  bootReleaseSetRef : args.bootReleaseSetRef = credential.bootReleaseSetRef
  artifactRefs : args.artifactRefs = credential.artifactRefs

/-- The run issued the code, for what the credential grants. -/
def IssuedFor (rt : Runtime N) (run : List (Step crypto)) (code nonce : String)
    (credential : SessionCredential) : Prop :=
  ∃ before args after, run = before ++ .call (.issue args) :: after ∧
    (∃ binding registry, issue rt crypto args (stateAfter rt (callsOf before)) =
      .ok (code, binding) registry) ∧ Grants rt crypto args nonce credential

/-- Who stands behind a session on the code, in the run before its redemption. -/
structure Vouched (rt : Runtime N) (run before : List (Step crypto)) (code : String)
    (credential : SessionCredential) (binding : EnrollmentCodeBinding) (key : K) : Prop where
  bound : (stateAfter rt (callsOf before)).bindingFor crypto code = some binding
  keyed : KeyOf run credential.deviceId key
  signed : CalledMakeClaim rt before key credential.deviceId binding.nonce ∨
    SignedItself rt before key credential.deviceId binding.nonce
  issued : IssuedFor rt before code binding.nonce credential

/-! ## The codes and keys of a run -/

theorem callsOf_append (run run' : List (Step crypto)) :
    callsOf (run ++ run') = callsOf run ++ callsOf run' :=
  List.filterMap_append

theorem exists_split_of_callsOf {run : List (Step crypto)} {xs ys : List (Call crypto)}
    {call : Call crypto} (h : callsOf run = xs ++ call :: ys) :
    ∃ before after, run = before ++ .call call :: after ∧ callsOf before = xs := by
  obtain ⟨front, back, rfl, hfront, hback⟩ := List.filterMap_eq_append_iff.mp h
  obtain ⟨skipped, step, after, rfl, hskipped, hstep, -⟩ := List.filterMap_eq_cons_iff.mp hback
  cases step with
  | sign => exact absurd hstep (by simp [Step.toCall])
  | call c =>
    obtain rfl := Option.some.inj hstep
    refine ⟨front ++ skipped, after, by simp, ?_⟩
    rw [callsOf_append, callsOf, callsOf, hfront, List.filterMap_eq_nil_iff.mpr hskipped,
      List.append_nil]

/-- Codes of the run with one hash are one code. -/
theorem CollisionFree.code_eq {run : List (Step crypto)} (h : CollisionFree run)
    {step step' : Step crypto} (hstep : step ∈ run) (hstep' : step' ∈ run) {code code' : String}
    (hcode : code ∈ step.code) (hcode' : code' ∈ step'.code)
    (heq : hashCode crypto code = hashCode crypto code') : code = code' := by
  have hbytes := h step hstep step' hstep' _ _ (.inl ⟨code, hcode, rfl⟩) (.inl ⟨code', hcode', rfl⟩)
    (hexdigest_injective heq)
  exact String.toList_inj.mp (utf8_injective hbytes)

/-- The key a step of the run uses is the only one with its fingerprint. -/
theorem CollisionFree.keyOf {run : List (Step crypto)} (h : CollisionFree run)
    {step : Step crypto} (hstep : step ∈ run) {key : K} (hkey : step.Uses key) {deviceId : String}
    (hid : fingerprint crypto key = deviceId) : KeyOf run deviceId key := by
  refine ⟨hid, fun step' hstep' other hother hotherId => ?_⟩
  have hdigest := hotherId.trans hid.symm
  unfold fingerprint at hdigest
  exact h step' hstep' step hstep _ _ (.inr ⟨other, hother, rfl⟩) (.inr ⟨key, hkey, rfl⟩)
    (hexdigest_injective ((String.append_right_inj _).mp hdigest))

/-- Whoever signed the payload of a claim called `make_claim` over its nonce, or signed by
itself. -/
theorem signed_of_signs {run : List (Step crypto)} {step : Step crypto} (hstep : step ∈ run)
    {key : K} {claim : DeviceClaim} {payload : List UInt8}
    (hkey : HoldsKey crypto claim.publicKeyPem key) (hpayload : claim.payload rt = .ok payload)
    (hsigns : step.Signs rt key payload) :
    CalledMakeClaim rt run key claim.deviceId claim.nonce ∨
      SignedItself rt run key claim.deviceId claim.nonce := by
  obtain ⟨claimedAt, -, rfl⟩ := map_eq_ok.mp hpayload
  cases step with
  | sign signer signed =>
    obtain ⟨rfl, rfl⟩ := hsigns
    exact .inr ⟨claim.publicKeyPem, claimedAt, hkey, hstep⟩
  | call call =>
    cases call with
    | issue | redeem => exact hsigns.elim
    | makeClaim identity salt nonce claimedAt clock =>
      obtain ⟨hholds, made, hmade, hsigned⟩ := hsigns
      obtain ⟨-, when, -, rfl⟩ := DeviceIdentity.makeClaim_eq_ok.mp hmade
      rw [DeviceIdentity.payload_claimFor] at hsigned
      obtain ⟨hid, -, rfl, -⟩ := signingPayload_inj (Except.ok.inj hsigned)
      exact .inl ⟨identity, salt, claimedAt, clock, _, hstep, hholds, hid, hmade⟩

/-- **The binding of a code** was made by an earlier issue of that code. -/
theorem exists_issue_of_bindingFor {run before after : List (Step crypto)}
    {args : RedeemArgs} {binding : EnrollmentCodeBinding} (hcollision : CollisionFree run)
    (hrun : run = before ++ .call (.redeem args) :: after)
    (hfind : (stateAfter rt (callsOf before)).bindingFor crypto args.code = some binding) :
    ∃ earlier iargs later, before = earlier ++ .call (.issue iargs) :: later ∧
      iargs.draw.text = args.code ∧ newBinding rt crypto iargs = .ok binding.fresh := by
  obtain ⟨xs, iargs, ys, hcalls, hnew⟩ := exists_issue_of_find hfind
  obtain ⟨earlier, later, rfl, -⟩ := exists_split_of_callsOf hcalls
  refine ⟨earlier, iargs, later, rfl, ?_, hnew⟩
  have hhash : hashCode crypto iargs.draw.text = hashCode crypto args.code := by
    rw [← codeHash_of_newBinding hnew, ← EnrollmentRegistry.codeHash_of_find hfind]
    rfl
  subst hrun
  let issued : Step crypto := .call (.issue iargs)
  let redeemed : Step crypto := .call (.redeem args)
  have hissued : issued ∈ earlier ++ issued :: later ++ redeemed :: after := by simp
  have hredeemed : redeemed ∈ earlier ++ issued :: later ++ redeemed :: after := by simp
  exact hcollision.code_eq hissued hredeemed rfl rfl hhash

/-! ## Proof of possession -/

/-- **Proof of possession behind every session.** In every run, whenever `redeem` returns a
credential, the holder of the key of its device signed a claim of the device over exactly the nonce
of the code, by `make_claim` or else by itself; and an earlier call issued the code, on a verified
claim of the same device and nonce, for exactly what the credential grants. -/
theorem possession {run before after : List (Step crypto)} {args : RedeemArgs}
    {credential : SessionCredential} {registry : EnrollmentRegistry}
    (hforge : Unforgeable rt run) (hcollision : CollisionFree run)
    (hrun : run = before ++ .call (.redeem args) :: after)
    (hredeem : redeem rt crypto args (stateAfter rt (callsOf before)) = .ok credential registry) :
    ∃ binding key, Vouched rt run before args.code credential binding key := by
  obtain ⟨current, binding, expiresAt, hadmit, -, rfl, -⟩ := redeem_eq_ok.mp hredeem
  obtain ⟨-, -, hfind, -, hvalid⟩ := admission_eq_ok.mp hadmit
  obtain ⟨key, signature, payload, hkey, hid, hhex, hpayload, hverify⟩ := hvalid.possession
  have hredeemed : .call (.redeem args) ∈ run := by simp [hrun]
  obtain ⟨step, hstep, hsigns⟩ :=
    hforge before (.call (.redeem args)) after hrun args.deviceClaim rfl
    key signature payload hkey hhex hpayload hverify
  have hsigned := signed_of_signs hstep hkey hpayload hsigns
  rw [hvalid.deviceId, hvalid.nonce] at hsigned
  refine ⟨binding, key, hfind, ?_, hsigned, ?_⟩
  · exact hcollision.keyOf hredeemed hkey (hid.trans hvalid.deviceId)
  · obtain ⟨earlier, iargs, later, hbefore, hcode, hnew⟩ :=
      exists_issue_of_bindingFor hcollision hrun hfind
    obtain ⟨hpurpose, -, -, -, -, hposs, -, -, hfresh⟩ := newBinding_eq_ok.mp hnew
    refine ⟨earlier, iargs, later, hbefore, ⟨_, _, hcode ▸ issue_granted hnew⟩, ?_⟩
    have hnonce : binding.nonce = iargs.deviceClaim.nonce :=
      congrArg EnrollmentCodeBinding.nonce hfresh
    exact
      { verified := DeviceClaim.verify_eq_ok.mpr ⟨hposs, by simp [hnonce]⟩
        deviceId := (congrArg EnrollmentCodeBinding.deviceId hfresh).symm
        nonce := hnonce.symm
        purpose := hpurpose
        releaseSetRef := (congrArg EnrollmentCodeBinding.releaseSetRef hfresh).symm
        bootReleaseSetRef := (congrArg EnrollmentCodeBinding.bootReleaseSetRef hfresh).symm
        artifactRefs := (congrArg EnrollmentCodeBinding.artifactRefs hfresh).symm }

/-! ### Sessions of `demoIdentity` -/

/-- `demoIdentity` calls `make_claim`. -/
def claimMade : Step pyCrypto := .call (.makeClaim demoIdentity [] "nonce-1" none newYear)

/-- What is signed in its claim over `nonce-1`. -/
def demoPayload : List UInt8 :=
  signingPayload pyRuntime demoIdentity.deviceId demoPem "nonce-1" newYear

/-- The holder of the key of `demoIdentity` signs the same claim with another program. -/
def claimSigned : Step pyCrypto := .sign demoPem demoPayload

def codeIssued : Step pyCrypto := .call (.issue (demoIssue code1 "nonce-1"))
def codeRedeemed : Step pyCrypto := .call (.redeem (demoAttempt "code-1" "nonce-1" 300))

/-- A run that begins with the signature of the claim it presents. -/
theorem session_unforgeable {first : Step pyCrypto} (hfirst : first.presents = none)
    (hsigns : first.Signs pyRuntime demoPem demoPayload) :
    Unforgeable pyRuntime [first, codeIssued, codeRedeemed] := by
  intro before step after hrun claim hclaim key signature payload hkey _ hpayload _
  cases before with
  | nil =>
    obtain ⟨rfl, -⟩ := List.cons.inj hrun
    exact absurd (hfirst.symm.trans hclaim) (by simp)
  | cons s before =>
    obtain ⟨rfl, htail⟩ := List.cons.inj hrun
    have hstep : step ∈ [codeIssued, codeRedeemed] := htail ▸ by simp
    have hdemo : claim = demoClaim "nonce-1" := by
      simp only [List.mem_cons, List.not_mem_nil, or_false] at hstep
      rcases hstep with rfl | rfl
      · exact (Option.some.inj hclaim).symm
      · exact (Option.some.inj hclaim).symm
    subst hdemo
    obtain rfl := holdsKey_demo.mp hkey
    obtain rfl := Except.ok.inj ((demoIdentity.payload_claimFor [] "nonce-1" newYear).symm.trans
      hpayload)
    exact ⟨first, List.mem_cons_self, hsigns⟩

/-- `pyCrypto` hashes a text to itself. -/
theorem collisionFree_py (run : List (Step pyCrypto)) : CollisionFree run :=
  fun _ _ _ _ _ _ _ _ h => h

/-- The code is redeemed after a step that leaves the registry alone. -/
theorem session_redeemed (first : Step pyCrypto)
    (hfirst : stateAfter pyRuntime (callsOf [first]) = .empty) :
    ∃ credential registry, redeem pyRuntime pyCrypto (demoAttempt "code-1" "nonce-1" 300)
      (stateAfter pyRuntime (callsOf [first, codeIssued])) = .ok credential registry := by
  have hcalls : callsOf [first, codeIssued] =
      callsOf [first] ++ [.issue (demoIssue code1 "nonce-1")] := callsOf_append [first] [codeIssued]
  rw [hcalls, stateAfter_issue (code1_granted "nonce-1"), hfirst]
  have hexpires : newYear.addSeconds 300 = some ⟨newYear.micros + 300000000, by decide⟩ := by decide
  exact ⟨_, _, redeem_eq_ok.mpr ⟨_, _, _, demoAttempt_admitted 300, hexpires, rfl, rfl⟩⟩

/-- The session of `demoIdentity`, from its call of `make_claim` on. -/
theorem demoSession_vouched :
    ∃ credential binding key, Vouched pyRuntime [claimMade, codeIssued, codeRedeemed]
      [claimMade, codeIssued] "code-1" credential binding key := by
  have hsigns : claimMade.Signs pyRuntime demoPem demoPayload :=
    ⟨holdsKey_demo.mpr rfl, _,
      DeviceIdentity.makeClaim_eq_ok.mpr ⟨by decide, newYear, rfl, rfl⟩,
      demoIdentity.payload_claimFor [] "nonce-1" newYear⟩
  obtain ⟨credential, registry, hredeem⟩ := session_redeemed claimMade rfl
  exact ⟨credential, possession (session_unforgeable rfl hsigns) (collisionFree_py _) rfl hredeem⟩

/-- A claim over a nonce shows no more of it than how it is written. -/
theorem signingPayload_congr {deviceId publicKeyPem nonce nonce' : List CodePoint}
    {claimedAt : UtcTime} (h : pyLiteral nonce = pyLiteral nonce') :
    signingPayload rt deviceId publicKeyPem nonce claimedAt =
      signingPayload rt deviceId publicKeyPem nonce' claimedAt := by
  let member (name : String) (text : List CodePoint) : List CodePoint × Json N (List CodePoint) :=
    (PyText.ofString name, .str text)
  have hsorted : ∀ nonce, (Json.obj [member "device_id" deviceId,
      member "public_key_pem" publicKeyPem, member "nonce" nonce,
      member "claimed_at" (PyText.ofString (zuluText rt claimedAt))]).sortKeys pyLe =
    .obj [member "claimed_at" (PyText.ofString (zuluText rt claimedAt)),
      member "device_id" deviceId, member "nonce" nonce,
      member "public_key_pem" publicKeyPem] := fun _ => rfl
  show utf8 (compact pyLiteral rt.num (Json.sortKeys pyLe _)) =
    utf8 (compact pyLiteral rt.num (Json.sortKeys pyLe _))
  rw [hsorted, hsorted]
  simp only [member, compact, compactMembers, h]

/-- The holder of a key signs a claim outside `make_claim`, and gets a session. And what is signed
over a nonce with a surrogate pair is signed over the one with the pair split, too. -/
theorem selfSigned_noMakeClaim :
    Unforgeable pyRuntime [claimSigned, codeIssued, codeRedeemed] ∧
      CollisionFree [claimSigned, codeIssued, codeRedeemed] ∧
      ((issued pyRuntime (callsOf [claimSigned, codeIssued, codeRedeemed])).map
        EnrollmentCodeBinding.codeHash).Nodup ∧
      (∃ credential registry, redeem pyRuntime pyCrypto (demoAttempt "code-1" "nonce-1" 300)
        (stateAfter pyRuntime (callsOf [claimSigned, codeIssued])) = .ok credential registry) ∧
      (∀ key deviceId nonce, ¬ CalledMakeClaim pyRuntime [claimSigned, codeIssued, codeRedeemed] key
        deviceId nonce) ∧
      ∃ nonce nonce' : List CodePoint, nonce ≠ nonce' ∧ ∀ deviceId publicKeyPem claimedAt,
        signingPayload pyRuntime deviceId publicKeyPem nonce claimedAt =
          signingPayload pyRuntime deviceId publicKeyPem nonce' claimedAt := by
  refine ⟨session_unforgeable rfl ⟨rfl, rfl⟩, collisionFree_py _, ?_,
    session_redeemed claimSigned rfl, ?_, splitEmoji, emoji, splitEmoji_ne,
    fun _ _ _ => signingPayload_congr pyLiteral_splitEmoji⟩
  · have hissued : issued pyRuntime (callsOf [claimSigned, codeIssued, codeRedeemed]) =
        [demoBinding "code-1" "nonce-1"] := by
      show issued pyRuntime [.issue (demoIssue code1 "nonce-1"),
        .redeem (demoAttempt "code-1" "nonce-1" 300)] = _
      rw [issued_cons_issue (code1_granted _)]
      rfl
    rw [hissued]
    simp
  · rintro key deviceId nonce ⟨_, _, _, _, _, hcall, -⟩
    simp [claimSigned, codeIssued, codeRedeemed] at hcall

end Nlboot.Reference
