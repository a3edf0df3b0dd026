import Nlboot.Lib.Stateful
import Nlboot.Reference.Device
import Nlboot.Reference.Protocol

/-!
# Enrollment codes

Model of `src/nlboot/enrollment.py`. The registry keeps a binding under the hash of each code;
`issue` adds one, `redeem` checks an attempt against it, spends its use and returns a session
credential. Both run in `EStateM`, where an exception keeps what was written before it.

* `EnrollmentRegistry` carries what a registry's dictionary always satisfies: one binding for each
  key, and the key is the binding's own code hash.
* The draws of `secrets` are arguments: a code is a nonempty text (`Code`).
* The system clock is read once in a call (`clock`), where no time is given.

Results:
* `newBinding_eq_ok`, **`admission_eq_ok`**: what `issue` and `redeem` accept.
* `admission_eq_error`, `admission_of_crashes`: a refused attempt raises `EnrollmentError`, unless
  it `Crashes`, and then it raises something else.
* `issue_granted`, `redeem_admitted` and their `_refused` sides: what the two calls do to the
  registry.
* **`allOrNothing_iff`**: when a call that raises leaves the registry as it was.
-/

namespace Nlboot.Reference

open Nlboot.Lib

variable {N K : Type}

/-! ## Bindings and credentials -/

/-- `_hash_code`. -/
def hashCode (crypto : Crypto K) (code : String) : String :=
  hexdigest (crypto.sha256 (utf8 code.toList))

/-- `EnrollmentCodeBinding`. -/
structure EnrollmentCodeBinding where
  codeHash : String
  purpose : TokenPurpose
  deviceId : String
  nonce : String
  releaseSetRef : String
  bootReleaseSetRef : String
  artifactRefs : List String
  issuedAt : UtcTime
  expiresAt : UtcTime
  remainingUses : Int
  deriving DecidableEq

/-- `is_spent`. -/
def EnrollmentCodeBinding.isSpent (binding : EnrollmentCodeBinding) : Bool :=
  binding.remainingUses ≤ 0

/-- `replace(binding, remaining_uses=binding.remaining_uses - 1)`. -/
def EnrollmentCodeBinding.spend (binding : EnrollmentCodeBinding) : EnrollmentCodeBinding :=
  { binding with remainingUses := binding.remainingUses - 1 }

/-- `SessionCredential`. -/
structure SessionCredential where
  sessionId : String
  deviceId : String
  purpose : TokenPurpose
  releaseSetRef : String
  bootReleaseSetRef : String
  artifactRefs : List String
  issuedAt : UtcTime
  expiresAt : UtcTime
  deriving DecidableEq

/-- `EnrollmentRegistry`. -/
@[ext]
structure EnrollmentRegistry where
  bindings : List (String × EnrollmentCodeBinding)
  keyed : ∀ entry ∈ bindings, entry.2.codeHash = entry.1
  distinct : (bindings.map Prod.fst).Nodup

/-- The registry with no bindings. -/
def EnrollmentRegistry.empty : EnrollmentRegistry := ⟨[], by simp, List.nodup_nil⟩

/-- The binding under a code hash. -/
def EnrollmentRegistry.find (registry : EnrollmentRegistry) (codeHash : String) :
    Option EnrollmentCodeBinding :=
  registry.bindings.lookup codeHash

/-- `self._bindings[binding.code_hash] = binding`. -/
def EnrollmentRegistry.put (binding : EnrollmentCodeBinding) (registry : EnrollmentRegistry) :
    EnrollmentRegistry where
  bindings := dictSet registry.bindings binding.codeHash binding
  keyed entry h := by
    rcases mem_of_mem_dictSet h with rfl | h
    · rfl
    · exact registry.keyed entry h
  distinct := nodup_dictSet registry.distinct

/-- `binding_for`. -/
def EnrollmentRegistry.bindingFor (crypto : Crypto K) (registry : EnrollmentRegistry)
    (code : String) : Option EnrollmentCodeBinding :=
  registry.find (hashCode crypto code)

theorem EnrollmentRegistry.find_put (registry : EnrollmentRegistry)
    (binding : EnrollmentCodeBinding) (codeHash : String) :
    (registry.put binding).find codeHash =
      if codeHash = binding.codeHash then some binding else registry.find codeHash := by
  unfold find put
  rw [lookup_dictSet]
  simp only [beq_iff_eq]

theorem EnrollmentRegistry.codeHash_of_find {registry : EnrollmentRegistry} {codeHash : String}
    {binding : EnrollmentCodeBinding} (h : registry.find codeHash = some binding) :
    binding.codeHash = codeHash := by
  obtain ⟨before, after, hsplit, -⟩ := List.lookup_eq_some_iff.mp h
  exact registry.keyed (codeHash, binding) (by simp [hsplit])

/-! ## Issuing -/

/-- A code drawn by `secrets.token_urlsafe`. -/
structure Code where
  text : String
  nonempty : text ≠ ""

/-- The arguments of `issue`, with its draw and the reading of the system clock. -/
structure IssueArgs where
  deviceClaim : DeviceClaim
  purpose : String
  releaseSetRef : String
  bootReleaseSetRef : String
  artifactRefs : List String
  ttlSeconds : Int := 900
  now : Option Moment := none
  clock : UtcTime
  draw : Code

/-- `except DeviceError as exc: raise EnrollmentError(…)`. -/
def asEnrollmentError (x : Except PyError Unit) : Except PyError Unit :=
  match x with
  | .error (.device message) => .error (.enrollment ("device claim is invalid: " ++ message))
  | result => result

/-- The binding `issue` registers, after its checks. -/
def newBinding (rt : Runtime N) (crypto : Crypto K) (args : IssueArgs) :
    Except PyError EnrollmentCodeBinding := do
  let purpose ← literal TokenPurpose.all TokenPurpose.text
    (.enrollment ("unsupported purpose=" ++ rt.repr args.purpose)) args.purpose
  check (0 < args.ttlSeconds) (.enrollment "ttl_seconds must be positive")
  check (args.releaseSetRef ≠ "") (.enrollment "release_set_ref must be a non-empty string")
  check (args.bootReleaseSetRef ≠ "")
    (.enrollment "boot_release_set_ref must be a non-empty string")
  check (args.artifactRefs ≠ [] ∧ ∀ ref ∈ args.artifactRefs, ref ≠ "")
    (.enrollment "artifact_refs must be a non-empty list of strings")
  asEnrollmentError (args.deviceClaim.verify rt crypto (some args.deviceClaim.nonce))
  let issuedAt ← currentTime args.clock args.now
  let expiresAt ← orThrow .overflow (issuedAt.addSeconds args.ttlSeconds)
  pure {
    codeHash := hashCode crypto args.draw.text
    purpose
    deviceId := args.deviceClaim.deviceId
    nonce := args.deviceClaim.nonce
    releaseSetRef := args.releaseSetRef
    bootReleaseSetRef := args.bootReleaseSetRef
    artifactRefs := args.artifactRefs
    issuedAt
    expiresAt
    remainingUses := 1 }

/-- `EnrollmentRegistry.issue`. -/
def issue (rt : Runtime N) (crypto : Crypto K) (args : IssueArgs) :
    EStateM PyError EnrollmentRegistry (String × EnrollmentCodeBinding) := do
  let binding ← liftExcept (newBinding rt crypto args)
  modify (EnrollmentRegistry.put binding)
  pure (args.draw.text, binding)

/-! ## Redeeming -/

/-- The arguments of `redeem`, with its draw and the reading of the system clock. -/
structure RedeemArgs where
  code : String
  deviceClaim : DeviceClaim
  releaseSetRef : String
  sessionTtlSeconds : Int := 300
  now : Option Moment := none
  clock : UtcTime
  draw : List UInt8

/-- The checks of `redeem`: the time of the attempt and the binding it redeems. -/
def EnrollmentRegistry.admission (rt : Runtime N) (crypto : Crypto K)
    (registry : EnrollmentRegistry)
    (args : RedeemArgs) : Except PyError (UtcTime × EnrollmentCodeBinding) := do
  check (args.code ≠ "") (.enrollment "code must be a non-empty string")
  let current ← currentTime args.clock args.now
  let binding ← orThrow (.enrollment "enrollment code is unknown")
    (registry.find (hashCode crypto args.code))
  check (binding.isSpent = false) (.enrollment "enrollment code has already been redeemed")
  check (current.micros < binding.expiresAt.micros) (.enrollment "enrollment code is expired")
  check (args.releaseSetRef = binding.releaseSetRef)
    (.enrollment "release_set_ref does not match the issued enrollment code")
  asEnrollmentError (args.deviceClaim.verify rt crypto (some binding.nonce))
  check (args.deviceClaim.deviceId = binding.deviceId)
    (.enrollment "device claim does not match the device the code was issued to")
  pure (current, binding)

/-- The credential for a binding. -/
def sessionCredential (args : RedeemArgs) (current : UtcTime) (binding : EnrollmentCodeBinding)
    (expiresAt : UtcTime) : SessionCredential where
  sessionId := "urn:srcos:enrollment-session:" ++ hexdigest args.draw
  deviceId := binding.deviceId
  purpose := binding.purpose
  releaseSetRef := binding.releaseSetRef
  bootReleaseSetRef := binding.bootReleaseSetRef
  artifactRefs := binding.artifactRefs
  issuedAt := current
  expiresAt

/-- `EnrollmentRegistry.redeem`. -/
def redeem (rt : Runtime N) (crypto : Crypto K) (args : RedeemArgs) :
    EStateM PyError EnrollmentRegistry SessionCredential := do
  let registry ← get
  let (current, binding) ← liftExcept (registry.admission rt crypto args)
  -- the use is spent before the expiry of the credential is computed
  modify (EnrollmentRegistry.put binding.spend)
  let expiresAt ← liftExcept (orThrow PyError.overflow (current.addSeconds args.sessionTtlSeconds))
  pure (sessionCredential args current binding expiresAt)

/-- `issue_enrollment_token_payload`. -/
def issueEnrollmentTokenPayload (rt : Runtime N) (binding : EnrollmentCodeBinding)
    (tokenId subjectKind : String) : Members N := [
  ("token_id", .str tokenId),
  ("purpose", .str binding.purpose.text),
  ("audience", .obj [("subject_kind", .str subjectKind), ("subject_id", .str binding.deviceId)]),
  ("release_set_ref", .str binding.releaseSetRef),
  ("boot_release_set_ref", .str binding.bootReleaseSetRef),
  ("one_time_use", .bool true),
  ("issued_at", .str (zuluText rt binding.issuedAt)),
  ("expires_at", .str (zuluText rt binding.expiresAt)),
  ("status", .str "issued")]

/-! ## What the calls accept -/

/-- The error is an `EnrollmentError`. -/
def PyError.IsEnrollment (e : PyError) : Prop := ∃ message, e = .enrollment message

/-- The attempt is valid for the binding at the time `current`. -/
structure ValidAttempt (rt : Runtime N) (crypto : Crypto K) (binding : EnrollmentCodeBinding)
    (args : RedeemArgs) (current : UtcTime) : Prop where
  notExpired : current.micros < binding.expiresAt.micros
  releaseSetRef : args.releaseSetRef = binding.releaseSetRef
  possession : ProvesPossession rt crypto args.deviceClaim
  nonce : args.deviceClaim.nonce = binding.nonce
  deviceId : args.deviceClaim.deviceId = binding.deviceId

/-- The attempt reaches a step that raises another exception than `EnrollmentError`: its time is
no UTC `datetime`, or the claim it presents for a live code makes `verify` raise another exception
than `DeviceError`. -/
def Crashes (crypto : Crypto K) (registry : EnrollmentRegistry) (args : RedeemArgs) : Prop :=
  args.code ≠ "" ∧
    ((∀ current, currentTime args.clock args.now ≠ .ok current) ∨
      ∃ current binding, currentTime args.clock args.now = .ok current ∧
        registry.find (hashCode crypto args.code) = some binding ∧ binding.isSpent = false ∧
        current.micros < binding.expiresAt.micros ∧ args.releaseSetRef = binding.releaseSetRef ∧
        Crashing crypto args.deviceClaim (some binding.nonce))

theorem asEnrollmentError_eq_ok {x : Except PyError Unit} {u : Unit} :
    asEnrollmentError x = .ok u ↔ x = .ok u := by
  unfold asEnrollmentError
  split <;> simp

/-- A claim that `verify` refuses becomes an `EnrollmentError`, unless `verify` comes to another
exception than `DeviceError`. -/
theorem asEnrollmentError_eq_error {rt : Runtime N} {crypto : Crypto K} {claim : DeviceClaim}
    {nonce : Option String} {e : PyError}
    (h : asEnrollmentError (claim.verify rt crypto nonce) = .error e) :
    e.IsEnrollment ∨ Crashing crypto claim nonce := by
  cases hverify : claim.verify rt crypto nonce with
  | ok u => exact absurd (hverify ▸ h) (by simp [asEnrollmentError])
  | error e' =>
    rw [hverify] at h
    rcases DeviceClaim.verify_eq_error hverify with ⟨message, rfl⟩ | hcrash
    · exact .inl ⟨_, (Except.error.inj h).symm⟩
    · exact .inr hcrash

/-- An error of no class of the package is none of `EnrollmentError`, and stays what it is. -/
theorem asEnrollmentError_of_not_ofPackage {e : PyError} (h : e.ofPackage = false) :
    asEnrollmentError (.error e) = .error e ∧ ¬ e.IsEnrollment := by
  cases e with
  | nlboot | verification | device | enrollment => exact absurd h (by simp [PyError.ofPackage])
  | value | type | overflow | recursion | unsupportedAlgorithm =>
    exact ⟨rfl, by rintro ⟨_, ⟨⟩⟩⟩

/-- **What `issue` accepts**, and the binding it registers. -/
theorem newBinding_eq_ok {rt : Runtime N} {crypto : Crypto K} {args : IssueArgs}
    {binding : EnrollmentCodeBinding} :
    newBinding rt crypto args = .ok binding ↔
      args.purpose = binding.purpose.text ∧ 0 < args.ttlSeconds ∧ args.releaseSetRef ≠ "" ∧
        args.bootReleaseSetRef ≠ "" ∧
        (args.artifactRefs ≠ [] ∧ ∀ ref ∈ args.artifactRefs, ref ≠ "") ∧
        ProvesPossession rt crypto args.deviceClaim ∧
        currentTime args.clock args.now = .ok binding.issuedAt ∧
        binding.issuedAt.addSeconds args.ttlSeconds = some binding.expiresAt ∧
        binding = { codeHash := hashCode crypto args.draw.text, purpose := binding.purpose,
                    deviceId := args.deviceClaim.deviceId, nonce := args.deviceClaim.nonce,
                    releaseSetRef := args.releaseSetRef,
                    bootReleaseSetRef := args.bootReleaseSetRef,
                    artifactRefs := args.artifactRefs, issuedAt := binding.issuedAt,
                    expiresAt := binding.expiresAt, remainingUses := 1 } := by
  unfold newBinding
  simp only [bind_eq_ok, purpose_literal, check_eq_ok, exists_const, orThrow_eq_ok,
    asEnrollmentError_eq_ok, DeviceClaim.verify_eq_ok, pure_eq_ok, Option.mem_def,
    Option.some.injEq, forall_eq', and_true]
  constructor
  · rintro ⟨_, hpurpose, httl, href, hboot, hrefs, hposs, _, hissued, _, hexpires, rfl⟩
    exact ⟨hpurpose, httl, href, hboot, hrefs, hposs, hissued, hexpires, rfl⟩
  · rintro ⟨hpurpose, httl, href, hboot, hrefs, hposs, hissued, hexpires, hb⟩
    exact ⟨_, hpurpose, httl, href, hboot, hrefs, hposs, _, hissued, _, hexpires, hb.symm⟩

/-- **What `redeem` accepts**: a valid attempt on an unspent code. -/
theorem admission_eq_ok {rt : Runtime N} {crypto : Crypto K} {registry : EnrollmentRegistry}
    {args : RedeemArgs} {current : UtcTime} {binding : EnrollmentCodeBinding} :
    registry.admission rt crypto args = .ok (current, binding) ↔
      args.code ≠ "" ∧ currentTime args.clock args.now = .ok current ∧
        registry.find (hashCode crypto args.code) = some binding ∧ binding.isSpent = false ∧
        ValidAttempt rt crypto binding args current := by
  unfold EnrollmentRegistry.admission
  simp only [bind_eq_ok, check_eq_ok, exists_const, orThrow_eq_ok, asEnrollmentError_eq_ok,
    DeviceClaim.verify_eq_ok, pure_eq_ok, Prod.mk.injEq, Option.mem_def, Option.some.injEq,
    forall_eq']
  constructor
  · rintro ⟨hcode, _, hcurrent, _, hfind, hspent, hexp, href, ⟨hposs, hnonce⟩, hid, rfl, rfl⟩
    exact ⟨hcode, hcurrent, hfind, hspent, hexp, href, hposs, hnonce, hid⟩
  · rintro ⟨hcode, hcurrent, hfind, hspent, hexp, href, hposs, hnonce, hid⟩
    exact ⟨hcode, _, hcurrent, _, hfind, hspent, hexp, href, ⟨hposs, hnonce⟩, hid, rfl, rfl⟩

/-- An attempt that is refused raises `EnrollmentError`, unless it crashes. -/
theorem admission_eq_error {rt : Runtime N} {crypto : Crypto K} {registry : EnrollmentRegistry}
    {args : RedeemArgs} {e : PyError} (h : registry.admission rt crypto args = .error e) :
    e.IsEnrollment ∨ Crashes crypto registry args := by
  unfold EnrollmentRegistry.admission at h
  rcases bind_eq_error.mp h with hcode | ⟨_, hcode, h⟩
  · exact .inl ⟨_, (check_eq_error.mp hcode).2.symm⟩
  rw [check_eq_ok] at hcode
  rcases bind_eq_error.mp h with hnow | ⟨current, hcurrent, h⟩
  · exact .inr ⟨hcode, .inl fun current hc => absurd (hc.symm.trans hnow) (by simp)⟩
  rcases bind_eq_error.mp h with hnone | ⟨binding, hfind, h⟩
  · cases hfind : registry.find (hashCode crypto args.code) with
    | some binding => exact absurd (hfind ▸ hnone) (by simp [orThrow])
    | none =>
      rw [hfind] at hnone
      exact .inl ⟨_, (Except.error.inj hnone).symm⟩
  rw [orThrow_eq_ok] at hfind
  rcases bind_eq_error.mp h with hspent | ⟨_, hspent, h⟩
  · exact .inl ⟨_, (check_eq_error.mp hspent).2.symm⟩
  rcases bind_eq_error.mp h with hexp | ⟨_, hexp, h⟩
  · exact .inl ⟨_, (check_eq_error.mp hexp).2.symm⟩
  rcases bind_eq_error.mp h with href | ⟨_, href, h⟩
  · exact .inl ⟨_, (check_eq_error.mp href).2.symm⟩
  rw [check_eq_ok] at hspent hexp href
  rcases bind_eq_error.mp h with hclaim | ⟨_, -, h⟩
  · refine (asEnrollmentError_eq_error hclaim).imp_right fun hcrash => ?_
    exact ⟨hcode, .inr ⟨current, binding, hcurrent, hfind, hspent, hexp, href, hcrash⟩⟩
  rcases bind_eq_error.mp h with hid | ⟨_, -, h⟩
  · exact .inl ⟨_, (check_eq_error.mp hid).2.symm⟩
  · exact absurd h (by simp [pure, Except.pure])

/-- An attempt that crashes raises another exception than `EnrollmentError`. -/
theorem admission_of_crashes (rt : Runtime N) {crypto : Crypto K} {registry : EnrollmentRegistry}
    {args : RedeemArgs} (h : Crashes crypto registry args) :
    ∃ e, registry.admission rt crypto args = .error e ∧ ¬ e.IsEnrollment := by
  obtain ⟨hcode, hnow | ⟨current, binding, hcurrent, hfind, hspent, hexp, href, hcrash⟩⟩ := h
  · obtain ⟨e, he⟩ := exists_error_of_ne_ok hnow
    refine ⟨e, bind_eq_error.mpr (.inr ⟨(), check_eq_ok.mpr hcode, ?_⟩), ?_⟩
    · exact bind_eq_error.mpr (.inl he)
    · exact (asEnrollmentError_of_not_ofPackage (ofPackage_of_currentTime he)).2
  · obtain ⟨e, hverify, hpackage⟩ := DeviceClaim.verify_of_crashing rt hcrash
    obtain ⟨hraised, hother⟩ := asEnrollmentError_of_not_ofPackage hpackage
    refine ⟨e, ?_, hother⟩
    unfold EnrollmentRegistry.admission
    refine bind_eq_error.mpr (.inr ⟨(), check_eq_ok.mpr hcode, ?_⟩)
    refine bind_eq_error.mpr (.inr ⟨current, hcurrent, ?_⟩)
    refine bind_eq_error.mpr (.inr ⟨binding, orThrow_eq_ok.mpr hfind, ?_⟩)
    refine bind_eq_error.mpr (.inr ⟨(), check_eq_ok.mpr hspent, ?_⟩)
    refine bind_eq_error.mpr (.inr ⟨(), check_eq_ok.mpr hexp, ?_⟩)
    refine bind_eq_error.mpr (.inr ⟨(), check_eq_ok.mpr href, ?_⟩)
    exact bind_eq_error.mpr (.inl (hverify ▸ hraised))

/-- A refused attempt changes nothing. -/
theorem redeem_refused {rt : Runtime N} {crypto : Crypto K} {registry : EnrollmentRegistry}
    {args : RedeemArgs} {e : PyError} (h : registry.admission rt crypto args = .error e) :
    redeem rt crypto args registry = .error e registry := by
  show (liftExcept (registry.admission rt crypto args) >>= _ :
    EStateM PyError EnrollmentRegistry SessionCredential) registry = _
  rw [h]
  rfl

/-- An admitted attempt spends the use, and raises where the expiry is not representable. -/
theorem redeem_admitted {rt : Runtime N} {crypto : Crypto K} {registry : EnrollmentRegistry}
    {args : RedeemArgs} {current : UtcTime} {binding : EnrollmentCodeBinding}
    (h : registry.admission rt crypto args = .ok (current, binding)) :
    redeem rt crypto args registry =
      match current.addSeconds args.sessionTtlSeconds with
      | none => .error .overflow (registry.put binding.spend)
      | some expiresAt =>
        .ok (sessionCredential args current binding expiresAt) (registry.put binding.spend) := by
  show (liftExcept (registry.admission rt crypto args) >>= _ :
    EStateM PyError EnrollmentRegistry SessionCredential) registry = _
  rw [h]
  show (liftExcept (orThrow PyError.overflow (current.addSeconds args.sessionTtlSeconds)) >>= _ :
    EStateM PyError EnrollmentRegistry SessionCredential) (registry.put binding.spend) = _
  cases current.addSeconds args.sessionTtlSeconds with
  | none => rfl
  | some expiresAt => rfl

theorem issue_refused {rt : Runtime N} {crypto : Crypto K} {registry : EnrollmentRegistry}
    {args : IssueArgs} {e : PyError} (h : newBinding rt crypto args = .error e) :
    issue rt crypto args registry = .error e registry := by
  unfold issue
  rw [h]
  rfl

theorem issue_eq_ok {rt : Runtime N} {crypto : Crypto K} {registry registry' : EnrollmentRegistry}
    {args : IssueArgs} {code : String} {binding : EnrollmentCodeBinding}
    (h : issue rt crypto args registry = .ok (code, binding) registry') :
    newBinding rt crypto args = .ok binding ∧ code = args.draw.text := by
  unfold issue at h
  cases hnew : newBinding rt crypto args with
  | error e =>
    rw [hnew] at h
    cases h
  | ok b =>
    rw [hnew] at h
    cases h
    exact ⟨rfl, rfl⟩

theorem issue_granted {rt : Runtime N} {crypto : Crypto K} {registry : EnrollmentRegistry}
    {args : IssueArgs} {binding : EnrollmentCodeBinding}
    (h : newBinding rt crypto args = .ok binding) :
    issue rt crypto args registry = .ok (args.draw.text, binding) (registry.put binding) := by
  unfold issue
  rw [h]
  rfl

/-! ## All or nothing -/

/-- Between the two registries one use of the code was spent, and nothing else changed. -/
def SpentOnce (before after : EnrollmentRegistry) (codeHash : String) : Prop :=
  ∃ xs binding ys, before.bindings = xs ++ (codeHash, binding) :: ys ∧
    after.bindings = xs ++ (codeHash, binding.spend) :: ys

/-- A call of `redeem` is all or nothing: an exception leaves the registry as it was, and a
credential costs one use of its code and has a lifetime. -/
structure RedeemAllOrNothing (rt : Runtime N) (crypto : Crypto K) (registry : EnrollmentRegistry)
    (args : RedeemArgs) : Prop where
  raised : AllOrNothing (redeem rt crypto args) registry
  returned : ∀ credential registry',
    redeem rt crypto args registry = .ok credential registry' →
      SpentOnce registry registry' (hashCode crypto args.code) ∧
        credential.issuedAt.micros < credential.expiresAt.micros

/-- A valid attempt on a live code asks for a positive lifetime whose end is a `datetime`. -/
def LifetimeRepresentable (rt : Runtime N) (crypto : Crypto K) (registry : EnrollmentRegistry)
    (args : RedeemArgs) : Prop :=
  ∀ current binding, args.code ≠ "" → currentTime args.clock args.now = .ok current →
    registry.find (hashCode crypto args.code) = some binding → binding.isSpent = false →
    ValidAttempt rt crypto binding args current →
      0 < args.sessionTtlSeconds ∧ (current.addSeconds args.sessionTtlSeconds).isSome = true

theorem EnrollmentRegistry.spentOnce_put {registry : EnrollmentRegistry} {codeHash : String}
    {binding : EnrollmentCodeBinding} (h : registry.find codeHash = some binding) :
    SpentOnce registry (registry.put binding.spend) codeHash := by
  have hkey : binding.codeHash = codeHash := codeHash_of_find h
  obtain ⟨xs, ys, hsplit, hset⟩ := dictSet_of_lookup h binding.spend
  refine ⟨xs, binding, ys, hsplit, ?_⟩
  show dictSet registry.bindings binding.codeHash binding.spend = _
  rw [hkey, hset]

/-- Spending a use changes the registry. -/
theorem EnrollmentRegistry.put_spend_ne {registry : EnrollmentRegistry} {codeHash : String}
    {binding : EnrollmentCodeBinding} (h : registry.find codeHash = some binding) :
    registry.put binding.spend ≠ registry := by
  intro heq
  have hkey : binding.codeHash = codeHash := codeHash_of_find h
  have hfind : (registry.put binding.spend).find codeHash = some binding.spend := by
    rw [registry.find_put]
    exact if_pos hkey.symm
  rw [heq, h, Option.some.injEq] at hfind
  have huses : binding.remainingUses = binding.remainingUses - 1 :=
    congrArg EnrollmentCodeBinding.remainingUses hfind
  omega

/-- `issue` checks everything before it writes. -/
theorem issue_allOrNothing {rt : Runtime N} {crypto : Crypto K} {registry : EnrollmentRegistry}
    {args : IssueArgs} : AllOrNothing (issue rt crypto args) registry :=
  allOrNothing_liftExcept_bind.mpr fun _ _ => allOrNothing_modify_pure

/-- `redeem` writes before it computes the expiry, so that must be representable. -/
theorem redeem_allOrNothing_iff {rt : Runtime N} {crypto : Crypto K}
    {registry : EnrollmentRegistry} {args : RedeemArgs} :
    AllOrNothing (redeem rt crypto args) registry ↔
      ∀ current binding, registry.admission rt crypto args = .ok (current, binding) →
        ∃ expiresAt, current.addSeconds args.sessionTtlSeconds = some expiresAt := by
  unfold redeem
  refine allOrNothing_get_bind.trans (allOrNothing_liftExcept_bind.trans ?_)
  constructor
  · intro h current binding hadmit
    rcases allOrNothing_modify_bind.mp (h _ hadmit) with ⟨expiresAt, hexp⟩ | hsame
    · exact ⟨expiresAt, orThrow_eq_ok.mp hexp⟩
    · exact absurd hsame (EnrollmentRegistry.put_spend_ne (admission_eq_ok.mp hadmit).2.2.1)
  · rintro h ⟨current, binding⟩ hadmit
    obtain ⟨expiresAt, hexp⟩ := h current binding hadmit
    exact allOrNothing_modify_bind.mpr (.inl ⟨expiresAt, orThrow_eq_ok.mpr hexp⟩)

/-- A credential costs one use of its code, and is granted for the lifetime that was asked for. -/
theorem redeem_eq_ok {rt : Runtime N} {crypto : Crypto K} {registry registry' : EnrollmentRegistry}
    {args : RedeemArgs} {credential : SessionCredential} :
    redeem rt crypto args registry = .ok credential registry' ↔
      ∃ current binding expiresAt, registry.admission rt crypto args = .ok (current, binding) ∧
        current.addSeconds args.sessionTtlSeconds = some expiresAt ∧
        credential = sessionCredential args current binding expiresAt ∧
        registry' = registry.put binding.spend := by
  constructor
  · intro h
    cases hadmit : registry.admission rt crypto args with
    | error e => exact absurd ((redeem_refused hadmit).symm.trans h) (by simp)
    | ok r =>
      obtain ⟨current, binding⟩ := r
      rw [redeem_admitted hadmit] at h
      cases hexp : current.addSeconds args.sessionTtlSeconds with
      | none =>
        rw [hexp] at h
        exact absurd h (by simp)
      | some expiresAt =>
        rw [hexp] at h
        obtain ⟨rfl, rfl⟩ := EStateM.Result.ok.inj h
        exact ⟨current, binding, expiresAt, rfl, hexp, rfl, rfl⟩
  · rintro ⟨current, binding, expiresAt, hadmit, hexp, rfl, rfl⟩
    rw [redeem_admitted hadmit, hexp]

/-- **All or nothing, exactly.** `issue` always is; `redeem` is, in a given state and for given
arguments, iff a valid attempt on a live code asks for a positive and representable lifetime. -/
theorem allOrNothing_iff {rt : Runtime N} {crypto : Crypto K} (registry : EnrollmentRegistry) :
    (∀ args, AllOrNothing (issue rt crypto args) registry) ∧
      ∀ args, RedeemAllOrNothing rt crypto registry args ↔
        LifetimeRepresentable rt crypto registry args := by
  refine ⟨fun _ => issue_allOrNothing, fun args => ?_⟩
  constructor
  · intro h current binding hcode hcurrent hfind hspent hvalid
    have hadmit := admission_eq_ok.mpr ⟨hcode, hcurrent, hfind, hspent, hvalid⟩
    obtain ⟨expiresAt, hexp⟩ := redeem_allOrNothing_iff.mp h.raised current binding hadmit
    have hrun := redeem_eq_ok.mpr ⟨current, binding, expiresAt, hadmit, hexp, rfl, rfl⟩
    exact ⟨(UtcTime.lt_addSeconds_iff hexp).mp (h.returned _ _ hrun).2,
      Option.isSome_iff_exists.mpr ⟨expiresAt, hexp⟩⟩
  · intro hlife
    have hadmitted : ∀ current binding, registry.admission rt crypto args = .ok (current, binding) →
        0 < args.sessionTtlSeconds ∧ (current.addSeconds args.sessionTtlSeconds).isSome = true := by
      intro current binding hadmit
      obtain ⟨hcode, hcurrent, hfind, hspent, hvalid⟩ := admission_eq_ok.mp hadmit
      exact hlife current binding hcode hcurrent hfind hspent hvalid
    refine ⟨redeem_allOrNothing_iff.mpr fun current binding hadmit =>
      Option.isSome_iff_exists.mp (hadmitted current binding hadmit).2, ?_⟩
    intro credential registry' hrun
    obtain ⟨current, binding, expiresAt, hadmit, hexp, rfl, rfl⟩ := redeem_eq_ok.mp hrun
    exact ⟨EnrollmentRegistry.spentOnce_put (admission_eq_ok.mp hadmit).2.2.1,
      (UtcTime.lt_addSeconds_iff hexp).mpr (hadmitted current binding hadmit).1⟩

/-! ## A device and its codes -/

/-- The PEM block of a device. -/
def demoPem : String := "-----BEGIN PUBLIC KEY-----demo"

/-- A device that signs as `pyCrypto` verifies. -/
def demoIdentity : DeviceIdentity pyCrypto where
  deviceId := fingerprint pyCrypto demoPem
  publicKeyPem := demoPem
  sign _ payload := utf8 demoPem.toList ++ payload
  fingerprinted := by decide

/-- What `demoIdentity` claims over a nonce. -/
def demoClaim (nonce : String) : DeviceClaim where
  deviceId := demoIdentity.deviceId
  publicKeyPem := demoPem
  nonce
  claimedAt := newYear
  signatureAlgorithm := fipsReadyAlgorithm
  cryptoProfile := fipsReadyProfile
  signatureHex := hexdigest (demoIdentity.sign []
    (signingPayload pyRuntime demoIdentity.deviceId demoPem nonce newYear))

/-- The issue of a code to `demoIdentity` at `newYear`, for the default time. -/
def demoIssue (draw : Code) (nonce : String) : IssueArgs where
  deviceClaim := demoClaim nonce
  purpose := "enroll"
  releaseSetRef := "release-set-1"
  bootReleaseSetRef := "boot-release-set-1"
  artifactRefs := ["kernel"]
  now := newYear.toAware
  clock := newYear
  draw

/-- The binding `demoIssue` registers. -/
def demoBinding (code nonce : String) : EnrollmentCodeBinding where
  codeHash := hashCode pyCrypto code
  purpose := .enroll
  deviceId := demoIdentity.deviceId
  nonce
  releaseSetRef := "release-set-1"
  bootReleaseSetRef := "boot-release-set-1"
  artifactRefs := ["kernel"]
  issuedAt := newYear
  expiresAt := ⟨newYear.micros + 900000000, inRange_expiry⟩
  remainingUses := 1

/-- An attempt of `demoIdentity` on a code, at `newYear`. -/
def demoAttempt (code nonce : String) (sessionTtlSeconds : Int) : RedeemArgs where
  code
  deviceClaim := demoClaim nonce
  releaseSetRef := "release-set-1"
  sessionTtlSeconds
  now := newYear.toAware
  clock := newYear
  draw := []

/-- The calls of `demoIdentity` are made at `newYear`. -/
theorem currentTime_demo : currentTime newYear newYear.toAware = .ok newYear := currentTime_toMoment

/-- The PEM block of the device loads as its key, and as no other. -/
theorem holdsKey_demo {key : String} : HoldsKey pyCrypto demoPem key ↔ key = demoPem := by
  have hload : pyCrypto.loadPemPublicKey demoPem = .rsa demoPem := by
    simp only [pyCrypto]
    rw [if_neg (by decide), if_pos (by decide)]
  constructor
  · exact fun h => PemLoad.rsa.inj (h.2.1.symm.trans hload)
  · rintro rfl
    exact ⟨by decide, hload, by decide⟩

theorem demoClaim_possession (nonce : String) :
    ProvesPossession pyRuntime pyCrypto (demoClaim nonce) := by
  refine ⟨demoPem, _, _, holdsKey_demo.mpr rfl, rfl, fromhex_hexdigest _,
    map_eq_ok.mpr ⟨newYear, newYear.astimezone_toMoment, rfl⟩, ?_⟩
  simp [pyCrypto, demoIdentity, demoClaim]

theorem demoIssue_granted (draw : Code) (nonce : String) :
    newBinding pyRuntime pyCrypto (demoIssue draw nonce) = .ok (demoBinding draw.text nonce) := by
  have hexpires : newYear.addSeconds 900 = some (demoBinding draw.text nonce).expiresAt := by
    show newYear.addSeconds 900 = some ⟨newYear.micros + 900000000, by decide⟩
    decide
  exact newBinding_eq_ok.mpr ⟨rfl, by simp [demoIssue], by simp [demoIssue], by simp [demoIssue],
    by simp [demoIssue], demoClaim_possession nonce, currentTime_demo, hexpires, rfl⟩

theorem demoAttempt_valid (code code' nonce : String) (sessionTtlSeconds : Int) :
    ValidAttempt pyRuntime pyCrypto (demoBinding code nonce)
      (demoAttempt code' nonce sessionTtlSeconds) newYear := by
  have hexp : newYear.micros < newYear.micros + 900000000 := by omega
  exact ⟨hexp, rfl, demoClaim_possession nonce, rfl, rfl⟩

/-- The first attempt on the code of `demoIdentity` is admitted, whatever session it asks for. -/
theorem demoAttempt_admitted (sessionTtlSeconds : Int) :
    (EnrollmentRegistry.empty.put (demoBinding "code-1" "nonce-1")).admission pyRuntime pyCrypto
      (demoAttempt "code-1" "nonce-1" sessionTtlSeconds) =
        .ok (newYear, demoBinding "code-1" "nonce-1") := by
  have hfind : (EnrollmentRegistry.empty.put (demoBinding "code-1" "nonce-1")).find
      (hashCode pyCrypto "code-1") = some (demoBinding "code-1" "nonce-1") :=
    (EnrollmentRegistry.find_put _ _ _).trans (if_pos rfl)
  exact admission_eq_ok.mpr ⟨by simp [demoAttempt], currentTime_demo, hfind, by decide,
    demoAttempt_valid _ _ _ _⟩

/-- A valid attempt that asks for a session of 10^12 seconds, beyond year 9999, raises and spends
the code. -/
theorem longSession_spends :
    ¬ RedeemAllOrNothing pyRuntime pyCrypto
      (EnrollmentRegistry.empty.put (demoBinding "code-1" "nonce-1"))
      (demoAttempt "code-1" "nonce-1" 1000000000000) := by
  intro h
  obtain ⟨expiresAt, hexp⟩ := redeem_allOrNothing_iff.mp h.raised newYear _ (demoAttempt_admitted _)
  have hnone : newYear.addSeconds 1000000000000 = none := by decide
  exact absurd (hnone.symm.trans hexp) (by simp)

end Nlboot.Reference
