import Nlboot.Lib.Cells
import Nlboot.Reference.ClaimDocuments
import Nlboot.Reference.EnrollmentLedger

/-!
# What the history of a code depends on

The registry is one table for all devices. What happens to a code depends on the calls on this code
alone, in their order, and of the claims these calls present on the device, the nonce and whether
they prove possession of the key: not on the time a claim was made, on its signature, or on anything
that is called for other codes in between.

* `Call.answer`: what a call returns or raises.
* `registryCells`: the registry as a system of cells (`Lib.Cells`), one for each code hash.
* `SameHolder`, `Alike`: claims, and calls, that no code tells apart.

Results:
* `DeviceClaim.verify_of_possession`: a claim that proves possession is refused for its nonce only.
* `registryCells_local`: a call keeps to the cell of its code.
* **`code_isolated`**: runs whose calls on a code are alike leave one binding, and answer alike.
-/

namespace Nlboot.Reference

open Nlboot.Lib

variable {N K : Type} {crypto : Crypto K} {rt : Runtime N}

/-! ## Calls and their answers -/

/-- What a call returns, or the exception it raises. -/
inductive Answer where
  | claim (answer : Except PyError DeviceClaim)
  | code (answer : Except PyError (String × EnrollmentCodeBinding))
  | session (answer : Except PyError SessionCredential)

/-- What a call returns or raises, without the state it leaves. -/
def resultValue {ε σ α : Type} : EStateM.Result ε σ α → Except ε α
  | .ok a _ => .ok a
  | .error e _ => .error e

/-- The answer of a call in the registry it meets. -/
def Call.answer (rt : Runtime N) (registry : EnrollmentRegistry) : Call crypto → Answer
  | .makeClaim identity salt nonce claimedAt clock =>
    .claim (identity.makeClaim rt clock salt nonce claimedAt)
  | .issue args => .code (resultValue (Reference.issue rt crypto args registry))
  | .redeem args => .session (resultValue (Reference.redeem rt crypto args registry))

/-- The registry, with the bindings of the code hashes as its cells. -/
def registryCells (rt : Runtime N) (crypto : Crypto K) :
    Cells EnrollmentRegistry (Call crypto) String (Option EnrollmentCodeBinding) Answer where
  step := Call.step rt
  answer := Call.answer rt
  key := Call.codeHash
  cell := EnrollmentRegistry.find

/-- The calls of a run on the code. -/
def callsOn (rt : Runtime N) (codeHash : String) (calls : List (Call crypto)) :
    List (Call crypto) :=
  (registryCells rt crypto).about codeHash calls

/-- What the calls on the code return or raise, in a run from the empty registry. -/
def answersOn (rt : Runtime N) (codeHash : String) (calls : List (Call crypto)) : List Answer :=
  (registryCells rt crypto).answers codeHash .empty calls

/-! ## Claims that are not told apart -/

/-- Two claims of one device over one nonce, which both prove possession of the key. -/
structure SameHolder (rt : Runtime N) (crypto : Crypto K) (claim claim' : DeviceClaim) : Prop where
  deviceId : claim.deviceId = claim'.deviceId
  nonce : claim.nonce = claim'.nonce
  proven : ProvesPossession rt crypto claim
  proven' : ProvesPossession rt crypto claim'

/-- The same call, but for the claim it presents. -/
inductive Alike (rt : Runtime N) : Call crypto → Call crypto → Prop where
  | same (call : Call crypto) : Alike rt call call
  | issue (args : IssueArgs) (claim : DeviceClaim) :
    SameHolder rt crypto args.deviceClaim claim →
      Alike rt (.issue args) (.issue { args with deviceClaim := claim })
  | redeem (args : RedeemArgs) (claim : DeviceClaim) :
    SameHolder rt crypto args.deviceClaim claim →
      Alike rt (.redeem args) (.redeem { args with deviceClaim := claim })

/-- **A claim that proves possession** is refused for its nonce only. -/
theorem DeviceClaim.verify_of_possession {claim : DeviceClaim} {expectedNonce : Option String}
    (h : ProvesPossession rt crypto claim) :
    claim.verify rt crypto expectedNonce =
      check (∀ nonce ∈ expectedNonce, claim.nonce = nonce)
        (.device "device claim nonce does not match expected nonce") := by
  by_cases hnonce : ∀ nonce ∈ expectedNonce, claim.nonce = nonce
  · have hok : claim.verify rt crypto expectedNonce = .ok () :=
      DeviceClaim.verify_eq_ok.mpr ⟨h, hnonce⟩
    exact hok.trans (check_eq_ok.mpr hnonce).symm
  · obtain ⟨key, payload, signature, hkey, hid, -⟩ := h
    have hfinger : deviceFingerprint crypto claim.publicKeyPem = .ok claim.deviceId :=
      map_eq_ok.mpr ⟨key, loadPublicKey_eq_ok.mpr hkey, hid⟩
    rw [check_eq_error.mpr ⟨hnonce, rfl⟩]
    refine bind_eq_error.mpr (.inr ⟨_, hfinger, ?_⟩)
    refine bind_eq_error.mpr (.inr ⟨(), check_eq_ok.mpr rfl, ?_⟩)
    exact bind_eq_error.mpr (.inl (check_eq_error.mpr ⟨hnonce, rfl⟩))

/-- Whoever verifies the one claim verifies the other, and is told the same otherwise. -/
theorem SameHolder.verify_eq {claim claim' : DeviceClaim} (h : SameHolder rt crypto claim claim')
    (expectedNonce : Option String) :
    claim.verify rt crypto expectedNonce = claim'.verify rt crypto expectedNonce := by
  rw [DeviceClaim.verify_of_possession h.proven, DeviceClaim.verify_of_possession h.proven',
    h.nonce]

/-- One binding is issued on both claims. -/
theorem SameHolder.newBinding_eq {args : IssueArgs} {claim : DeviceClaim}
    (h : SameHolder rt crypto args.deviceClaim claim) :
    newBinding rt crypto { args with deviceClaim := claim } = newBinding rt crypto args := by
  unfold newBinding
  simp only [h.verify_eq, h.deviceId, h.nonce]

/-- Both claims are admitted, or refused for one reason. -/
theorem SameHolder.admission_eq {args : RedeemArgs} {claim : DeviceClaim}
    {registry : EnrollmentRegistry} (h : SameHolder rt crypto args.deviceClaim claim) :
    registry.admission rt crypto { args with deviceClaim := claim } =
      registry.admission rt crypto args := by
  unfold EnrollmentRegistry.admission
  simp only [h.verify_eq, h.deviceId]

/-- **Calls that are alike** do the same. -/
theorem Alike.same_call {call call' : Call crypto} (h : Alike rt call call')
    (registry : EnrollmentRegistry) :
    call'.step rt registry = call.step rt registry ∧
      call'.answer rt registry = call.answer rt registry := by
  cases h with
  | same => exact ⟨rfl, rfl⟩
  | issue args claim hclaim =>
    have hissue : Reference.issue rt crypto { args with deviceClaim := claim } =
        Reference.issue rt crypto args := by
      unfold Reference.issue
      rw [hclaim.newBinding_eq]
    simp only [Call.step, Call.answer, hissue, and_self]
  | redeem args claim hclaim =>
    have hredeem : Reference.redeem rt crypto { args with deviceClaim := claim } =
        Reference.redeem rt crypto args := by
      unfold Reference.redeem
      simp only [hclaim.admission_eq]
      rfl
    simp only [Call.step, Call.answer, hredeem, and_self]

/-! ## One call -/

/-- What `issue` answers, and what it leaves under the hash of its code. -/
theorem issue_own (rt : Runtime N) (registry : EnrollmentRegistry) (args : IssueArgs) :
    resultValue (issue rt crypto args registry) =
        (fun binding => (args.draw.text, binding)) <$> newBinding rt crypto args ∧
      (resultState (issue rt crypto args registry)).find (hashCode crypto args.draw.text) =
        match newBinding rt crypto args with
        | .ok binding => some binding
        | .error _ => registry.find (hashCode crypto args.draw.text) := by
  cases hnew : newBinding rt crypto args with
  | error e =>
    rw [issue_refused hnew]
    exact ⟨rfl, rfl⟩
  | ok binding =>
    rw [issue_granted hnew]
    refine ⟨rfl, (registry.find_put binding _).trans (if_pos ?_)⟩
    exact (codeHash_of_newBinding hnew).symm

/-- What `redeem` answers, and what it leaves under the hash of its code. -/
theorem redeem_own (rt : Runtime N) (registry : EnrollmentRegistry) (args : RedeemArgs) :
    resultValue (redeem rt crypto args registry) =
        (registry.admission rt crypto args >>= fun r => sessionCredential args r.1 r.2 <$>
          orThrow PyError.overflow (r.1.addSeconds args.sessionTtlSeconds)) ∧
      (resultState (redeem rt crypto args registry)).find (hashCode crypto args.code) =
        match registry.admission rt crypto args with
        | .ok r => some r.2.spend
        | .error _ => registry.find (hashCode crypto args.code) := by
  rw [redeem_state]
  cases hadmit : registry.admission rt crypto args with
  | error e =>
    rw [redeem_refused hadmit]
    exact ⟨rfl, rfl⟩
  | ok r =>
    obtain ⟨current, binding⟩ := r
    obtain ⟨-, -, hfind, -⟩ := admission_eq_ok.mp hadmit
    refine ⟨?_, (registry.find_put binding.spend _).trans (if_pos ?_)⟩
    · rw [redeem_admitted hadmit]
      show _ = sessionCredential args current binding <$>
        orThrow PyError.overflow (current.addSeconds args.sessionTtlSeconds)
      cases current.addSeconds args.sessionTtlSeconds with
      | none => rfl
      | some expiresAt => rfl
    · exact (EnrollmentRegistry.codeHash_of_find hfind).symm

/-- Registries with one binding of the code decide alike. -/
theorem admission_congr {registry registry' : EnrollmentRegistry} {args : RedeemArgs}
    (h : registry.find (hashCode crypto args.code) = registry'.find (hashCode crypto args.code)) :
    registry.admission rt crypto args = registry'.admission rt crypto args := by
  unfold EnrollmentRegistry.admission
  rw [h]

/-- **A call reads and writes** the binding of its own code only. -/
theorem step_own (rt : Runtime N) {codeHash : String} {registry registry' : EnrollmentRegistry}
    {call : Call crypto} (hhash : call.codeHash = some codeHash)
    (hfind : registry.find codeHash = registry'.find codeHash) :
    call.answer rt registry = call.answer rt registry' ∧
      (call.step rt registry).find codeHash = (call.step rt registry').find codeHash := by
  cases call with
  | makeClaim => cases hhash
  | issue args =>
    obtain rfl := Option.some.inj hhash
    obtain ⟨hanswer, hcell⟩ := issue_own rt registry args
    obtain ⟨hanswer', hcell'⟩ := issue_own rt registry' args
    refine ⟨congrArg Answer.code (hanswer.trans hanswer'.symm), hcell.trans ?_⟩
    rw [hfind]
    exact hcell'.symm
  | redeem args =>
    obtain rfl := Option.some.inj hhash
    obtain ⟨hanswer, hcell⟩ := redeem_own rt registry args
    obtain ⟨hanswer', hcell'⟩ := redeem_own rt registry' args
    rw [← admission_congr hfind] at hanswer' hcell'
    refine ⟨congrArg Answer.session (hanswer.trans hanswer'.symm), hcell.trans ?_⟩
    rw [hfind]
    exact hcell'.symm

/-- **The registry is a system of cells**, and calls that are alike do the same. -/
theorem registryCells_local : (registryCells rt crypto).Local (Alike rt) where
  frame _ _ _ h := find_step_of_ne h
  own registry registry' call call' codeHash halike hhash _ hfind := by
    obtain ⟨hstep, hanswer⟩ := halike.same_call registry'
    obtain ⟨hown, hcell⟩ := step_own rt hhash hfind
    exact ⟨hown.trans hanswer.symm, hcell.trans (congrArg (·.find codeHash) hstep.symm)⟩

/-! ## Runs -/

/-- **The history of a code** depends on the calls on it alone, and these on no more of their claims
than the device, the nonce and that they prove possession. In any two runs whose calls on the code
are alike, one by one, the code has one binding in the end, and every call on it returned the same
or raised the same; whatever is called in between, for whatever other codes. -/
theorem code_isolated (rt : Runtime N) (codeHash : String) {calls calls' : List (Call crypto)}
    (h : List.Forall₂ (Alike rt) (callsOn rt codeHash calls) (callsOn rt codeHash calls')) :
    (stateAfter rt calls).find codeHash = (stateAfter rt calls').find codeHash ∧
      answersOn rt codeHash calls = answersOn rt codeHash calls' :=
  registryCells_local.isolated rfl h

/-! ### The code of `demoIdentity` -/

/-- An attempt on the code with another claim, made a second later with another salt. -/
def laterAttempt : RedeemArgs :=
  { demoAttempt "code-1" "nonce-1" 300 with
    deviceClaim :=
      demoIdentity.claimFor pyRuntime [7] "nonce-1" ⟨newYear.micros + 1000000, by decide⟩ }

/-- The code is issued and redeemed, while another one is. -/
def busyRun : List (Call pyCrypto) := [
  .issue (demoIssue code1 "nonce-1"), .issue (demoIssue code2 "nonce-2"),
  .redeem (demoAttempt "code-2" "nonce-2" 300), .redeem (demoAttempt "code-1" "nonce-1" 300)]

/-- The code is issued and redeemed, with the later claim. -/
def quietRun : List (Call pyCrypto) := [.issue (demoIssue code1 "nonce-1"), .redeem laterAttempt]

theorem callsOn_busyRun : callsOn pyRuntime (hashCode pyCrypto "code-1") busyRun =
    [.issue (demoIssue code1 "nonce-1"), .redeem (demoAttempt "code-1" "nonce-1" 300)] := rfl

theorem callsOn_quietRun :
    callsOn pyRuntime (hashCode pyCrypto "code-1") quietRun = quietRun := rfl

theorem demoCode_isolated :
    (stateAfter pyRuntime busyRun).find (hashCode pyCrypto "code-1") =
        (stateAfter pyRuntime quietRun).find (hashCode pyCrypto "code-1") ∧
      answersOn pyRuntime (hashCode pyCrypto "code-1") busyRun =
        answersOn pyRuntime (hashCode pyCrypto "code-1") quietRun := by
  refine code_isolated pyRuntime _ ?_
  rw [callsOn_busyRun, callsOn_quietRun]
  refine .cons (.same _) (.cons (.redeem _ _ ?_) .nil)
  exact ⟨rfl, rfl, demoClaim_possession _, claimFor_possession verifiesOwn_demo⟩

end Nlboot.Reference
