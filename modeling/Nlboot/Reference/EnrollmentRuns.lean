import Nlboot.Lib.OneShot
import Nlboot.Reference.Enrollment

/-!
# Runs of the enrollment registry

A run is a list of calls: devices making claims, issues and redemption attempts, with arbitrary
arguments and times, from the empty registry. The registry refines a table of one-shot permits
(`Lib.OneShot`): issuing grants a permit under the hash of the code, an attempt presents its
arguments under the hash of its code, and it is admitted iff the table accepts it.

An attempt is *on* a code when its text hashes as the code does (`OnCode`): that is all the
registry knows of a code.

Results:
* **`permits_stateAfter`**: the registry after a run is the table after the run's actions.
* **`singleUse`**: the first valid attempt on an issued code returns a credential, every other
  attempt on it raises `EnrollmentError`, where no attempt of the run crashes.
* **`noReplay`**: no claim is redeemed for two codes, where no two codes were issued for one device
  and nonce. `issue` does not ask for that: it verifies a claim against the claim's own nonce.
-/

namespace Nlboot.Reference

open Nlboot.Lib

variable {N K : Type} {crypto : Crypto K}

/-! ## Runs -/

/-- A call of a run. -/
inductive Call (crypto : Crypto K) where
  | makeClaim (identity : DeviceIdentity crypto) (salt : List UInt8) (nonce : String)
      (claimedAt : Option Moment) (clock : UtcTime)
  | issue (args : IssueArgs)
  | redeem (args : RedeemArgs)

/-- The state a call leaves, whether it returns or raises. -/
def resultState {ε σ α : Type} : EStateM.Result ε σ α → σ
  | .ok _ s => s
  | .error _ s => s

/-- What a call does to the registry; making a claim does not touch it. -/
def Call.step (rt : Runtime N) (registry : EnrollmentRegistry) :
    Call crypto → EnrollmentRegistry
  | .makeClaim .. => registry
  | .issue args => resultState (Reference.issue rt crypto args registry)
  | .redeem args => resultState (Reference.redeem rt crypto args registry)

/-- The registry after a run from the empty one. -/
def stateAfter (rt : Runtime N) (calls : List (Call crypto)) : EnrollmentRegistry :=
  calls.foldl (Call.step rt) .empty

/-- The binding a call issues. -/
def Call.issues (rt : Runtime N) : Call crypto → Option EnrollmentCodeBinding
  | .issue args => (newBinding rt crypto args).toOption
  | _ => none

/-- The bindings a run issues, in order. -/
def issued (rt : Runtime N) (calls : List (Call crypto)) : List EnrollmentCodeBinding :=
  calls.filterMap (Call.issues rt)

/-- The attempt is on the code. -/
def OnCode (crypto : Crypto K) (code : String) (args : RedeemArgs) : Prop :=
  hashCode crypto args.code = hashCode crypto code

/-- The attempt is valid for the binding at its own time. -/
def Valid (rt : Runtime N) (crypto : Crypto K) (binding : EnrollmentCodeBinding)
    (args : RedeemArgs) : Prop :=
  args.code ≠ "" ∧ ∃ current, currentTime args.clock args.now = .ok current ∧
    ValidAttempt rt crypto binding args current

/-- No attempt of the run crashes in the state it meets. -/
def Clean (rt : Runtime N) (calls : List (Call crypto)) : Prop :=
  ∀ xs args ys, calls = xs ++ .redeem args :: ys → ¬ Crashes crypto (stateAfter rt xs) args

/-- Every attempt of the run asks for a session whose end is a `datetime`. -/
def SessionsRepresentable (calls : List (Call crypto)) : Prop :=
  ∀ args current, .redeem args ∈ calls → currentTime args.clock args.now = .ok current →
    (current.addSeconds args.sessionTtlSeconds).isSome = true

/-- The call raises `EnrollmentError`. -/
def Refused {σ α : Type} (result : EStateM.Result PyError σ α) : Prop :=
  ∃ e s, result = .error e s ∧ e.IsEnrollment

theorem stateAfter_append (rt : Runtime N) (xs ys : List (Call crypto)) :
    stateAfter rt (xs ++ ys) = ys.foldl (Call.step rt) (stateAfter rt xs) :=
  List.foldl_append

theorem stateAfter_snoc (rt : Runtime N) (xs : List (Call crypto)) (call : Call crypto) :
    stateAfter rt (xs ++ [call]) = call.step rt (stateAfter rt xs) :=
  stateAfter_append rt xs [call]

theorem stateAfter_issue {rt : Runtime N} {xs : List (Call crypto)} {args : IssueArgs}
    {binding : EnrollmentCodeBinding} (hnew : newBinding rt crypto args = .ok binding) :
    stateAfter rt (xs ++ [.issue args]) = (stateAfter rt xs).put binding := by
  rw [stateAfter_snoc]
  show resultState (issue rt crypto args (stateAfter rt xs)) = _
  rw [issue_granted hnew]
  rfl

/-! ## The registry as a table of permits -/

/-- The actions of a call on the table. -/
def Call.actions (rt : Runtime N) :
    Call crypto → List (OneShot.Action String EnrollmentCodeBinding RedeemArgs)
  | .makeClaim .. => []
  | .issue args =>
    match newBinding rt crypto args with
    | .ok binding => [.grant binding.codeHash binding]
    | .error _ => []
  | .redeem args => [.use (hashCode crypto args.code) args]

open Classical in
/-- Whether a request is valid for a permit. -/
noncomputable def valid (rt : Runtime N) (crypto : Crypto K) (binding : EnrollmentCodeBinding)
    (args : RedeemArgs) : Bool :=
  decide (Valid rt crypto binding args)

/-- The binding as it was issued. -/
def EnrollmentCodeBinding.fresh (binding : EnrollmentCodeBinding) : EnrollmentCodeBinding :=
  { binding with remainingUses := 1 }

theorem EnrollmentCodeBinding.fresh_spend (binding : EnrollmentCodeBinding) :
    binding.spend.fresh = binding.fresh := rfl

/-- The permits of a registry: its bindings as they were issued, fresh while they are unspent. -/
def permits (registry : EnrollmentRegistry) : OneShot.Table String EnrollmentCodeBinding :=
  fun codeHash => (registry.find codeHash).map fun b => (b.fresh, !b.isSpent)

/-- Every binding has one use left or none. -/
def UsesBounded (registry : EnrollmentRegistry) : Prop :=
  ∀ codeHash binding, registry.find codeHash = some binding →
    binding.remainingUses = 0 ∨ binding.remainingUses = 1

theorem valid_iff {rt : Runtime N} {binding : EnrollmentCodeBinding} {args : RedeemArgs} :
    valid rt crypto binding args = true ↔ Valid rt crypto binding args := by
  simp [valid]

/-- Validity does not depend on the uses that remain. -/
theorem valid_fresh {rt : Runtime N} {binding : EnrollmentCodeBinding} {args : RedeemArgs} :
    Valid rt crypto binding.fresh args ↔ Valid rt crypto binding args := by
  refine and_congr_right fun _ => exists_congr fun _ => and_congr_right fun _ => ?_
  constructor
  · rintro ⟨h1, h2, h3, h4, h5⟩; exact ⟨h1, h2, h3, h4, h5⟩
  · rintro ⟨h1, h2, h3, h4, h5⟩; exact ⟨h1, h2, h3, h4, h5⟩

/-- **Admission is acceptance**: `redeem` admits an attempt iff the table accepts it. -/
theorem admission_iff_accepts {rt : Runtime N} {registry : EnrollmentRegistry} {args : RedeemArgs} :
    (∃ r, registry.admission rt crypto args = .ok r) ↔
      OneShot.Accepts (valid rt crypto) (permits registry) (hashCode crypto args.code) args := by
  unfold OneShot.Accepts permits
  constructor
  · rintro ⟨⟨current, binding⟩, h⟩
    obtain ⟨hcode, hcurrent, hfind, hspent, hvalid⟩ := admission_eq_ok.mp h
    refine ⟨binding.fresh, by simp [hfind, hspent], ?_⟩
    rw [valid_iff, valid_fresh]
    exact ⟨hcode, current, hcurrent, hvalid⟩
  · rintro ⟨permit, hentry, hvalid⟩
    obtain ⟨binding, hfind, hpair⟩ := Option.map_eq_some_iff.mp hentry
    obtain ⟨rfl, hspent⟩ := Prod.mk.inj hpair
    rw [valid_iff, valid_fresh] at hvalid
    obtain ⟨hcode, current, hcurrent, hattempt⟩ := hvalid
    exact ⟨(current, binding), admission_eq_ok.mpr ⟨hcode, hcurrent, hfind, by simpa using hspent,
      hattempt⟩⟩

/-- What an attempt does to the registry: it spends a use iff it is admitted. -/
theorem redeem_state {rt : Runtime N} {registry : EnrollmentRegistry} {args : RedeemArgs} :
    resultState (redeem rt crypto args registry) =
      match registry.admission rt crypto args with
      | .ok r => registry.put r.2.spend
      | .error _ => registry := by
  cases h : registry.admission rt crypto args with
  | error e => rw [redeem_refused h]; rfl
  | ok r =>
    obtain ⟨current, binding⟩ := r
    rw [redeem_admitted h]
    cases current.addSeconds args.sessionTtlSeconds with
    | none => rfl
    | some expiresAt => rfl

/-- Registering a binding of at most one use keeps the bound. -/
theorem UsesBounded.put {registry : EnrollmentRegistry} {binding : EnrollmentCodeBinding}
    (h : UsesBounded registry) (hb : binding.remainingUses = 0 ∨ binding.remainingUses = 1) :
    UsesBounded (registry.put binding) := by
  intro codeHash b hfind
  rw [EnrollmentRegistry.find_put] at hfind
  split_ifs at hfind with hkey
  · exact Option.some.inj hfind ▸ hb
  · exact h codeHash b hfind

theorem permits_put (registry : EnrollmentRegistry) (binding : EnrollmentCodeBinding) :
    permits (registry.put binding) =
      Function.update (permits registry) binding.codeHash
        (some (binding.fresh, !binding.isSpent)) := by
  funext codeHash
  unfold permits
  rw [EnrollmentRegistry.find_put, Function.update_apply]
  split_ifs with hkey
  · rfl
  · rfl

/-- An unspent binding has exactly one use, and none after it is spent. -/
theorem isSpent_of_uses {binding : EnrollmentCodeBinding}
    (h : binding.remainingUses = 0 ∨ binding.remainingUses = 1) (hspent : binding.isSpent = false) :
    binding.remainingUses = 1 := by
  rcases h with h | h
  · exact absurd hspent (by simp [EnrollmentCodeBinding.isSpent, h])
  · exact h

/-- **One call refines the table**, and keeps every binding at one use or none. -/
theorem step_refines (rt : Runtime N) {registry : EnrollmentRegistry} (call : Call crypto)
    (h : UsesBounded registry) :
    permits (call.step rt registry) =
        OneShot.run (valid rt crypto) (call.actions rt) (permits registry) ∧
      UsesBounded (call.step rt registry) := by
  cases call with
  | makeClaim => exact ⟨rfl, h⟩
  | issue args =>
    simp only [Call.step, Call.actions]
    cases hnew : newBinding rt crypto args with
    | error e =>
      rw [issue_refused hnew]
      exact ⟨rfl, h⟩
    | ok binding =>
      obtain ⟨-, -, -, -, -, -, -, -, hbinding⟩ := newBinding_eq_ok.mp hnew
      have huses : binding.remainingUses = 1 := by rw [hbinding]
      rw [issue_granted hnew]
      refine ⟨?_, h.put (.inr huses)⟩
      have hfresh : (binding.fresh, !binding.isSpent) = (binding, true) := by
        obtain ⟨⟩ := binding
        simp_all [EnrollmentCodeBinding.fresh, EnrollmentCodeBinding.isSpent]
      show permits (registry.put binding) = _
      rw [permits_put, hfresh]
      rfl
  | redeem args =>
    have hrun : OneShot.run (valid rt crypto) (Call.actions rt (.redeem args)) (permits registry) =
        OneShot.step (valid rt crypto) (permits registry) (.use (hashCode crypto args.code) args) :=
      rfl
    have hstate : Call.step rt registry (.redeem args) =
        resultState (redeem rt crypto args registry) := rfl
    rw [hrun, hstate, redeem_state]
    cases hadmit : registry.admission rt crypto args with
    | error e =>
      have hnot : ¬ OneShot.Accepts (valid rt crypto) (permits registry)
          (hashCode crypto args.code) args := by
        rw [← admission_iff_accepts, hadmit]
        simp
      rw [OneShot.step_use_of_not_accepts hnot]
      exact ⟨rfl, h⟩
    | ok r =>
      obtain ⟨current, binding⟩ := r
      obtain ⟨hcode, hcurrent, hfind, hspent, hvalid⟩ := admission_eq_ok.mp hadmit
      have hentry : permits registry (hashCode crypto args.code) = some (binding.fresh, true) := by
        simp [permits, hfind, hspent]
      have hone := isSpent_of_uses (h _ _ hfind) hspent
      have hused : valid rt crypto binding.fresh args = true :=
        valid_iff.mpr (valid_fresh.mpr ⟨hcode, current, hcurrent, hvalid⟩)
      have hzero : binding.spend.remainingUses = 0 := by
        simp [EnrollmentCodeBinding.spend, hone]
      have hkey : binding.spend.codeHash = hashCode crypto args.code :=
        (EnrollmentRegistry.codeHash_of_find hfind :)
      have hpair : (binding.spend.fresh, !binding.spend.isSpent) = (binding.fresh, false) := by
        rw [binding.fresh_spend]
        simp [EnrollmentCodeBinding.isSpent, hzero]
      rw [OneShot.step_use_of_fresh hentry hused]
      refine ⟨?_, h.put (.inl hzero)⟩
      rw [permits_put, hpair, hkey]

/-- **The registry refines the table of permits**, over every run. -/
theorem permits_stateAfter (rt : Runtime N) (calls : List (Call crypto)) :
    permits (stateAfter rt calls) =
        OneShot.run (valid rt crypto) (calls.flatMap (Call.actions rt)) (fun _ => none) ∧
      UsesBounded (stateAfter rt calls) := by
  induction calls using List.reverseRecOn with
  | nil =>
    refine ⟨rfl, fun codeHash binding h => ?_⟩
    exact absurd h (by simp [stateAfter, EnrollmentRegistry.find, EnrollmentRegistry.empty])
  | append_singleton calls call ih =>
    obtain ⟨hpermits, hbounded⟩ := ih
    obtain ⟨hstep, hbounded'⟩ := step_refines rt call hbounded
    rw [stateAfter_snoc]
    refine ⟨?_, hbounded'⟩
    rw [hstep, hpermits, List.flatMap_append, OneShot.run_append]
    simp

/-! ## What the actions of a run are -/

theorem issues_eq_some {rt : Runtime N} {args : IssueArgs} {binding : EnrollmentCodeBinding} :
    (Call.issue args : Call crypto).issues rt = some binding ↔
      newBinding rt crypto args = .ok binding := by
  simp only [Call.issues]
  cases newBinding rt crypto args with
  | ok b => simp [Except.toOption]
  | error e => simp [Except.toOption]

theorem issued_cons_issue {rt : Runtime N} {args : IssueArgs} {binding : EnrollmentCodeBinding}
    (hnew : newBinding rt crypto args = .ok binding) (calls : List (Call crypto)) :
    issued rt (.issue args :: calls) = binding :: issued rt calls :=
  List.filterMap_cons_some (issues_eq_some.mpr hnew)

/-- The grants among a run's actions are the bindings it issues. -/
theorem grant_mem_actions {rt : Runtime N} {calls : List (Call crypto)} {key : String}
    {binding : EnrollmentCodeBinding} :
    .grant key binding ∈ calls.flatMap (Call.actions rt) ↔
      binding ∈ issued rt calls ∧ key = binding.codeHash := by
  have hcall : ∀ call : Call crypto, .grant key binding ∈ call.actions rt ↔
      call.issues rt = some binding ∧ key = binding.codeHash := by
    intro call
    cases call with
    | makeClaim => simp [Call.actions, Call.issues]
    | redeem args => simp [Call.actions, Call.issues]
    | issue args =>
      rw [issues_eq_some]
      cases hnew : newBinding rt crypto args with
      | error e => simp [Call.actions, hnew]
      | ok b =>
        simp only [Call.actions, hnew, List.mem_singleton, OneShot.Action.grant.injEq,
          Except.ok.injEq]
        constructor
        · rintro ⟨rfl, rfl⟩; exact ⟨rfl, rfl⟩
        · rintro ⟨rfl, rfl⟩; exact ⟨rfl, rfl⟩
  simp only [List.mem_flatMap, issued, List.mem_filterMap, hcall]
  constructor
  · rintro ⟨call, hmem, hissues, hkey⟩; exact ⟨⟨call, hmem, hissues⟩, hkey⟩
  · rintro ⟨⟨call, hmem, hissues⟩, hkey⟩; exact ⟨call, hmem, hissues, hkey⟩

/-- The requests among a run's actions are its attempts. -/
theorem use_mem_actions {rt : Runtime N} {calls : List (Call crypto)} {key : String}
    {args : RedeemArgs} :
    .use key args ∈ calls.flatMap (Call.actions rt) ↔
      .redeem args ∈ calls ∧ key = hashCode crypto args.code := by
  have hcall : ∀ call : Call crypto, .use key args ∈ call.actions rt ↔
      call = .redeem args ∧ key = hashCode crypto args.code := by
    intro call
    cases call with
    | makeClaim => simp [Call.actions]
    | issue args' => cases h : newBinding rt crypto args' <;> simp [Call.actions, h]
    | redeem args' =>
      simp only [Call.actions, List.mem_singleton, OneShot.Action.use.injEq, Call.redeem.injEq]
      constructor
      · rintro ⟨rfl, rfl⟩; exact ⟨rfl, rfl⟩
      · rintro ⟨rfl, rfl⟩; exact ⟨rfl, rfl⟩
  simp only [List.mem_flatMap, hcall]
  constructor
  · rintro ⟨_, hmem, rfl, hkey⟩; exact ⟨hmem, hkey⟩
  · rintro ⟨hmem, hkey⟩; exact ⟨_, hmem, rfl, hkey⟩

/-- The permits a run grants are the bindings it issues. -/
theorem grants_actions (rt : Runtime N) (calls : List (Call crypto)) :
    OneShot.grants (calls.flatMap (Call.actions rt)) = issued rt calls := by
  induction calls with
  | nil => rfl
  | cons call calls ih =>
    rw [List.flatMap_cons, OneShot.grants_append, ih]
    cases call with
    | makeClaim => rfl
    | redeem args => rfl
    | issue args =>
      cases h : newBinding rt crypto args with
      | error e => simp [Call.actions, issued, Call.issues, h, OneShot.grants, Except.toOption]
      | ok b => simp [Call.actions, issued, Call.issues, h, OneShot.grants, Except.toOption]

/-- A binding of the registry was issued by a call of the run, and only its uses have changed. -/
theorem exists_issue_of_find {rt : Runtime N} {calls : List (Call crypto)} {codeHash : String}
    {binding : EnrollmentCodeBinding}
    (h : (stateAfter rt calls).find codeHash = some binding) :
    ∃ xs args ys, calls = xs ++ .issue args :: ys ∧
      newBinding rt crypto args = .ok binding.fresh := by
  have hentry : permits (stateAfter rt calls) codeHash =
      some (binding.fresh, !binding.isSpent) := by
    simp [permits, h]
  rw [(permits_stateAfter rt calls).1] at hentry
  obtain ⟨before, after, hsplit, -⟩ := OneShot.exists_grant hentry
  have hgrant : .grant codeHash binding.fresh ∈ calls.flatMap (Call.actions rt) := by
    rw [hsplit]
    simp
  obtain ⟨call, hcall, hissues⟩ := List.mem_filterMap.mp (grant_mem_actions.mp hgrant).1
  obtain ⟨xs, ys, rfl⟩ := List.append_of_mem hcall
  cases call with
  | makeClaim => exact absurd hissues (by simp [Call.issues])
  | redeem args => exact absurd hissues (by simp [Call.issues])
  | issue args => exact ⟨xs, args, ys, rfl, issues_eq_some.mp hissues⟩

/-! ## The outcome of an attempt -/

/-- An accepted attempt returns a credential, where its end is a `datetime`. -/
theorem redeem_of_accepts {rt : Runtime N} {registry : EnrollmentRegistry} {args : RedeemArgs}
    (haccepts : OneShot.Accepts (valid rt crypto) (permits registry) (hashCode crypto args.code)
      args)
    (hsession : ∀ current, currentTime args.clock args.now = .ok current →
      (current.addSeconds args.sessionTtlSeconds).isSome = true) :
    ∃ credential registry', redeem rt crypto args registry = .ok credential registry' := by
  obtain ⟨⟨current, binding⟩, hadmit⟩ := admission_iff_accepts.mpr haccepts
  have hcurrent := (admission_eq_ok.mp hadmit).2.1
  obtain ⟨expiresAt, hexp⟩ := Option.isSome_iff_exists.mp (hsession current hcurrent)
  exact ⟨_, _, redeem_eq_ok.mpr ⟨current, binding, expiresAt, hadmit, hexp, rfl, rfl⟩⟩

/-- An attempt that is not accepted raises `EnrollmentError`, unless it crashes. -/
theorem redeem_of_not_accepts {rt : Runtime N} {registry : EnrollmentRegistry} {args : RedeemArgs}
    (hnot : ¬ OneShot.Accepts (valid rt crypto) (permits registry) (hashCode crypto args.code) args)
    (hclean : ¬ Crashes crypto registry args) : Refused (redeem rt crypto args registry) := by
  obtain ⟨e, he⟩ := exists_error_of_ne_ok fun r hr => hnot (admission_iff_accepts.mp ⟨r, hr⟩)
  exact ⟨e, registry, redeem_refused he, (admission_eq_error he).resolve_right hclean⟩

theorem accepts_of_redeem {rt : Runtime N} {registry registry' : EnrollmentRegistry}
    {args : RedeemArgs} {credential : SessionCredential}
    (h : redeem rt crypto args registry = .ok credential registry') :
    OneShot.Accepts (valid rt crypto) (permits registry) (hashCode crypto args.code) args := by
  obtain ⟨current, binding, _, hadmit, -⟩ := redeem_eq_ok.mp h
  exact admission_iff_accepts.mp ⟨_, hadmit⟩

/-! ## Single use -/

/-- No attempt among the calls is a valid one on the code. -/
def NoneValid (rt : Runtime N) (calls : List (Call crypto)) (code : String)
    (binding : EnrollmentCodeBinding) : Prop :=
  ∀ attempt, .redeem attempt ∈ calls → OnCode crypto code attempt →
    ¬ Valid rt crypto binding attempt

/-- A run issues the code with the binding after the calls `before`, and goes on with `after`. The
first valid attempt on the code returns a credential, every other attempt on it, before or after
it was issued, raises `EnrollmentError`, and the code has one use left up to the first valid
attempt and none from then on. -/
structure SingleUse (rt : Runtime N) (before : List (Call crypto)) (args : IssueArgs)
    (after : List (Call crypto)) (code : String) (binding : EnrollmentCodeBinding) : Prop where
  early : ∀ xs attempt ys, before = xs ++ .redeem attempt :: ys → OnCode crypto code attempt →
    Refused (redeem rt crypto attempt (stateAfter rt xs))
  first : ∀ xs attempt ys, after = xs ++ .redeem attempt :: ys → OnCode crypto code attempt →
    Valid rt crypto binding attempt → NoneValid rt xs code binding →
      ∃ credential registry,
        redeem rt crypto attempt (stateAfter rt (before ++ .issue args :: xs)) =
        .ok credential registry
  other : ∀ xs attempt ys, after = xs ++ .redeem attempt :: ys → OnCode crypto code attempt →
    ¬ (Valid rt crypto binding attempt ∧ NoneValid rt xs code binding) →
      Refused (redeem rt crypto attempt (stateAfter rt (before ++ .issue args :: xs)))
  unspent : ∀ xs ys, after = xs ++ ys → NoneValid rt xs code binding →
    ∃ b, (stateAfter rt (before ++ .issue args :: xs)).bindingFor crypto code = some b ∧
      b.remainingUses = 1
  spent : ∀ xs ys, after = xs ++ ys → ¬ NoneValid rt xs code binding →
    ∃ b, (stateAfter rt (before ++ .issue args :: xs)).bindingFor crypto code = some b ∧
      b.remainingUses = 0

/-- The code was used among the calls iff one of their attempts is valid. -/
theorem used_iff {rt : Runtime N} {calls : List (Call crypto)} {code : String}
    {binding : EnrollmentCodeBinding} :
    OneShot.used (valid rt crypto) (calls.flatMap (Call.actions rt)) (hashCode crypto code)
        binding =
        false ↔ NoneValid rt calls code binding := by
  rw [← Bool.not_eq_true, OneShot.used_eq_true]
  simp only [use_mem_actions, valid_iff, not_exists, not_and]
  constructor
  · intro h attempt hmem hon hvalid
    exact h attempt ⟨hmem, hon.symm⟩ hvalid
  · rintro h attempt ⟨hmem, hkey⟩ hvalid
    exact h attempt hmem hkey.symm hvalid

/-- The calls of a run other than the issue of a code grant nothing under its hash, where the run
issues no two codes of one hash. -/
theorem notGranted_of_distinct {rt : Runtime N} {before after : List (Call crypto)}
    {args : IssueArgs} {binding : EnrollmentCodeBinding}
    (hnew : newBinding rt crypto args = .ok binding)
    (hdistinct : ((issued rt (before ++ .issue args :: after)).map
      EnrollmentCodeBinding.codeHash).Nodup) :
    OneShot.NotGranted (before.flatMap (Call.actions rt)) binding.codeHash ∧
      OneShot.NotGranted (after.flatMap (Call.actions rt)) binding.codeHash := by
  have hsplit : issued rt (before ++ .issue args :: after) =
      issued rt before ++ binding :: issued rt after := by
    rw [← issued_cons_issue hnew]
    exact List.filterMap_append
  rw [hsplit, List.map_append, List.map_cons, List.nodup_append, List.nodup_cons] at hdistinct
  obtain ⟨-, ⟨hafter, -⟩, hbefore⟩ := hdistinct
  constructor
  · intro permit hgrant
    obtain ⟨hmem, hkey⟩ := grant_mem_actions.mp hgrant
    exact hbefore _ (List.mem_map_of_mem hmem) _ List.mem_cons_self hkey.symm
  · intro permit hgrant
    obtain ⟨hmem, hkey⟩ := grant_mem_actions.mp hgrant
    exact hafter (List.mem_map.mpr ⟨permit, hmem, hkey.symm⟩)

theorem codeHash_of_newBinding {rt : Runtime N} {args : IssueArgs} {binding : EnrollmentCodeBinding}
    (hnew : newBinding rt crypto args = .ok binding) :
    binding.codeHash = hashCode crypto args.draw.text := by
  obtain ⟨-, -, -, -, -, -, -, -, hbinding⟩ := newBinding_eq_ok.mp hnew
  rw [hbinding]

/-- The table after a run that issues a code. -/
theorem permits_after_issue {rt : Runtime N} (before xs : List (Call crypto)) {args : IssueArgs}
    {binding : EnrollmentCodeBinding} (hnew : newBinding rt crypto args = .ok binding) :
    permits (stateAfter rt (before ++ .issue args :: xs)) =
      OneShot.run (valid rt crypto) (before.flatMap (Call.actions rt) ++
        .grant (hashCode crypto args.draw.text) binding :: xs.flatMap (Call.actions rt))
        (fun _ => none) := by
  rw [(permits_stateAfter rt _).1, List.flatMap_append, List.flatMap_cons]
  simp [Call.actions, hnew, codeHash_of_newBinding hnew]

/-- After a code was issued, and with no other code of its hash, an attempt on it is accepted iff
it is the first valid one. -/
theorem accepts_after_issue {rt : Runtime N} (before : List (Call crypto))
    {xs : List (Call crypto)} {args : IssueArgs}
    {binding : EnrollmentCodeBinding} {attempt : RedeemArgs}
    (hnew : newBinding rt crypto args = .ok binding)
    (hnot : OneShot.NotGranted (xs.flatMap (Call.actions rt)) (hashCode crypto args.draw.text))
    (hon : OnCode crypto args.draw.text attempt) :
    OneShot.Accepts (valid rt crypto) (permits (stateAfter rt (before ++ .issue args :: xs)))
        (hashCode crypto attempt.code) attempt ↔
      Valid rt crypto binding attempt ∧ NoneValid rt xs args.draw.text binding := by
  rw [permits_after_issue before xs hnew, hon, OneShot.accepts_iff hnot, valid_iff, used_iff]

/-- The binding of a code after it was issued, and with no other code of its hash. -/
theorem bindingFor_after_issue {rt : Runtime N} (before : List (Call crypto))
    {xs : List (Call crypto)} {args : IssueArgs}
    {binding : EnrollmentCodeBinding} (hnew : newBinding rt crypto args = .ok binding)
    (hnot : OneShot.NotGranted (xs.flatMap (Call.actions rt)) (hashCode crypto args.draw.text)) :
    ∃ b, (stateAfter rt (before ++ .issue args :: xs)).bindingFor crypto args.draw.text = some b ∧
      (b.remainingUses = 0 ∨ b.remainingUses = 1) ∧
      (b.isSpent = false ↔ NoneValid rt xs args.draw.text binding) := by
  have hrun := congrFun (permits_after_issue before xs hnew) (hashCode crypto args.draw.text)
  rw [OneShot.run_after_grant hnot] at hrun
  obtain ⟨b, hfind, hpair⟩ := Option.map_eq_some_iff.mp hrun
  have hflag : b.isSpent = _ := Bool.not_inj (Prod.mk.inj hpair).2
  refine ⟨b, hfind, (permits_stateAfter rt _).2 _ _ hfind, ?_⟩
  rw [hflag, used_iff]

/-- **Exact single use.** In every run that issues no two codes of one hash, whose attempts ask
for representable sessions and do not crash, each issued code is used exactly by the first valid
attempt on it. -/
theorem singleUse {rt : Runtime N} {before after : List (Call crypto)} {args : IssueArgs}
    {code : String} {binding : EnrollmentCodeBinding} {registry : EnrollmentRegistry}
    (hissue : issue rt crypto args (stateAfter rt before) = .ok (code, binding) registry)
    (hdistinct : ((issued rt (before ++ .issue args :: after)).map
      EnrollmentCodeBinding.codeHash).Nodup)
    (hsessions : SessionsRepresentable (before ++ .issue args :: after))
    (hclean : Clean rt (before ++ .issue args :: after)) :
    SingleUse rt before args after code binding := by
  obtain ⟨hnew, rfl⟩ := issue_eq_ok hissue
  obtain ⟨hbefore, hafter⟩ := notGranted_of_distinct hnew hdistinct
  rw [codeHash_of_newBinding hnew] at hbefore hafter
  have hinitial : ∀ xs ys, after = xs ++ ys →
      OneShot.NotGranted (xs.flatMap (Call.actions rt)) (hashCode crypto args.draw.text) := by
    rintro xs ys rfl permit hmem
    exact hafter permit (by rw [List.flatMap_append]; exact List.mem_append_left _ hmem)
  refine ⟨?_, ?_, ?_, ?_, ?_⟩
  · rintro xs attempt ys rfl hon
    refine redeem_of_not_accepts ?_ (hclean xs attempt (ys ++ .issue args :: after) (by simp))
    rw [(permits_stateAfter rt xs).1, hon]
    refine OneShot.not_accepts_of_not_granted fun permit hmem => hbefore permit ?_
    rw [List.flatMap_append]
    exact List.mem_append_left _ hmem
  · intro xs attempt ys hsplit hon hvalid hnone
    have haccepts := (accepts_after_issue before hnew (hinitial xs _ hsplit) hon).mpr
      ⟨hvalid, hnone⟩
    refine redeem_of_accepts haccepts fun current hc => ?_
    exact hsessions attempt current (by simp [hsplit]) hc
  · intro xs attempt ys hsplit hon hnot
    refine redeem_of_not_accepts (fun h => hnot ?_) (hclean _ attempt ys (by simp [hsplit]))
    exact (accepts_after_issue before hnew (hinitial xs _ hsplit) hon).mp h
  · intro xs ys hsplit hnone
    obtain ⟨b, hfind, huses, hspent⟩ :=
      bindingFor_after_issue before hnew (hinitial xs ys hsplit)
    exact ⟨b, hfind, isSpent_of_uses huses (hspent.mpr hnone)⟩
  · intro xs ys hsplit hused
    obtain ⟨b, hfind, huses, hspent⟩ :=
      bindingFor_after_issue before hnew (hinitial xs ys hsplit)
    refine ⟨b, hfind, huses.resolve_right fun hone => hused (hspent.mp ?_)⟩
    simp [EnrollmentCodeBinding.isSpent, hone]

/-! ### Runs of `demoIdentity` -/

def code1 : Code := ⟨"code-1", by decide⟩
def code2 : Code := ⟨"code-2", by decide⟩

theorem code1_granted (nonce : String) : newBinding pyRuntime pyCrypto (demoIssue code1 nonce) =
    .ok (demoBinding "code-1" nonce) := demoIssue_granted code1 nonce

theorem code2_granted (nonce : String) : newBinding pyRuntime pyCrypto (demoIssue code2 nonce) =
    .ok (demoBinding "code-2" nonce) := demoIssue_granted code2 nonce

/-- The attempts of the run are attempts of `demoIdentity` for the default session. -/
def DemoRun (calls : List (Call pyCrypto)) : Prop :=
  ∀ args, .redeem args ∈ calls → ∃ code nonce, args = demoAttempt code nonce 300

/-- The default session of an attempt of `demoIdentity` ends at a `datetime`. -/
theorem defaultSession_representable {current : UtcTime}
    (h : currentTime newYear newYear.toAware = .ok current) :
    (current.addSeconds 300).isSome = true := by
  obtain rfl := Except.ok.inj (h.symm.trans currentTime_demo)
  have hexpires : (newYear.addSeconds 300).isSome = true := by decide
  exact hexpires

theorem DemoRun.sessionsRepresentable {calls : List (Call pyCrypto)} (h : DemoRun calls) :
    SessionsRepresentable calls := by
  intro args current hmem hcurrent
  obtain ⟨code, nonce, rfl⟩ := h args hmem
  exact defaultSession_representable hcurrent

theorem DemoRun.clean {calls : List (Call pyCrypto)} (h : DemoRun calls) :
    Clean pyRuntime calls := by
  rintro xs args ys rfl ⟨-, hcrash⟩
  obtain ⟨code, nonce, rfl⟩ := h args (by simp)
  rcases hcrash with hnone | ⟨_, _, -, -, -, -, -, hkey⟩
  · exact hnone newYear currentTime_demo
  · rcases hkey with hunsupported | ⟨-, -, -, huntimely⟩
    · have hload : pyCrypto.loadPemPublicKey demoPem ≠ .unsupportedAlgorithm := by
        simp only [pyCrypto]
        rw [if_neg (by decide), if_pos (by decide)]
        simp
      exact hload hunsupported.2
    · exact huntimely newYear newYear.astimezone_toMoment

theorem demoAttempt_isValid {code : String} (hcode : code ≠ "") (code' nonce : String) :
    Valid pyRuntime pyCrypto (demoBinding code' nonce) (demoAttempt code nonce 300) :=
  ⟨hcode, newYear, currentTime_demo, demoAttempt_valid code' code nonce 300⟩

/-- Two attempts with one code. -/
def retryCalls : List (Call pyCrypto) :=
  [.redeem (demoAttempt "code-1" "nonce-1" 300), .redeem (demoAttempt "code-1" "nonce-1" 300)]

/-- A code is issued, redeemed, and tried again. -/
theorem retry_singleUse :
    SingleUse pyRuntime [] (demoIssue code1 "nonce-1") retryCalls "code-1"
      (demoBinding "code-1" "nonce-1") := by
  have hdemo : DemoRun (.issue (demoIssue code1 "nonce-1") :: retryCalls) := by
    intro args hmem
    refine ⟨"code-1", "nonce-1", ?_⟩
    simpa [retryCalls] using hmem
  have hissued : issued pyRuntime (.issue (demoIssue code1 "nonce-1") :: retryCalls) =
      [demoBinding "code-1" "nonce-1"] := by
    rw [issued_cons_issue (code1_granted _)]
    rfl
  exact singleUse (issue_granted (code1_granted "nonce-1"))
    (by rw [List.nil_append, hissued]; simp) hdemo.sessionsRepresentable hdemo.clean

/-- An attempt that presents a key of unknown algorithm. -/
def unknownKeyAttempt : RedeemArgs :=
  { demoAttempt "code-1" "nonce-1" 300 with
    deviceClaim :=
      { demoClaim "nonce-1" with publicKeyPem := "-----BEGIN PUBLIC KEY-----unknown" } }

def unknownKeyCalls : List (Call pyCrypto) := [.redeem unknownKeyAttempt]

/-- An attempt on a fresh code with a key of unknown algorithm raises another exception than
`EnrollmentError`. -/
theorem unknownKey_not_singleUse :
    (∃ registry, issue pyRuntime pyCrypto (demoIssue code1 "nonce-1") .empty =
        .ok ("code-1", demoBinding "code-1" "nonce-1") registry) ∧
      ((issued pyRuntime (.issue (demoIssue code1 "nonce-1") :: unknownKeyCalls)).map
        EnrollmentCodeBinding.codeHash).Nodup ∧
      SessionsRepresentable (.issue (demoIssue code1 "nonce-1") :: unknownKeyCalls) ∧
      ¬ SingleUse pyRuntime [] (demoIssue code1 "nonce-1") unknownKeyCalls "code-1"
        (demoBinding "code-1" "nonce-1") := by
  refine ⟨⟨_, issue_granted (code1_granted "nonce-1")⟩, ?_, ?_, fun h => ?_⟩
  · have hissued : issued pyRuntime (.issue (demoIssue code1 "nonce-1") :: unknownKeyCalls) =
        [demoBinding "code-1" "nonce-1"] := by
      rw [issued_cons_issue (code1_granted _)]
      rfl
    rw [hissued]
    simp
  · intro args current hmem hcurrent
    obtain rfl : args = unknownKeyAttempt := by simpa [unknownKeyCalls] using hmem
    exact defaultSession_representable hcurrent
  · have hkey : UnsupportedKey pyCrypto "-----BEGIN PUBLIC KEY-----unknown" := by
      refine ⟨by decide, ?_⟩
      simp only [pyCrypto]
      rw [if_pos (by decide)]
    have hinvalid : ¬ Valid pyRuntime pyCrypto (demoBinding "code-1" "nonce-1")
        unknownKeyAttempt := by
      rintro ⟨-, _, -, hattempt⟩
      obtain ⟨key, _, _, hholds, -⟩ := hattempt.possession
      exact absurd (hkey.2.symm.trans hholds.2.1) (by simp)
    have hcrash : Crashes pyCrypto
        ((stateAfter pyRuntime ([] : List (Call pyCrypto))).put (demoBinding "code-1" "nonce-1"))
        unknownKeyAttempt := by
      refine ⟨by decide, .inr ⟨newYear, demoBinding "code-1" "nonce-1", currentTime_demo, ?_,
        rfl, (demoAttempt_valid "code-1" "code-1" "nonce-1" 300).notExpired, rfl, .inl hkey⟩⟩
      rw [EnrollmentRegistry.find_put]
      exact if_pos rfl
    obtain ⟨e, hadmit, hother⟩ := admission_of_crashes pyRuntime hcrash
    obtain ⟨e', s, hrun, henrollment⟩ :=
      h.other [] unknownKeyAttempt [] rfl rfl fun hvalid => hinvalid hvalid.1
    rw [stateAfter_issue (code1_granted "nonce-1"), redeem_refused hadmit] at hrun
    obtain ⟨rfl, -⟩ := EStateM.Result.error.inj hrun
    exact hother henrollment

/-! ## Replayed claims -/

/-- The device and the nonce a binding was issued for. -/
def EnrollmentCodeBinding.pair (binding : EnrollmentCodeBinding) : String × String :=
  (binding.deviceId, binding.nonce)

/-- The device and the nonce of a claim. -/
def DeviceClaim.pair (claim : DeviceClaim) : String × String := (claim.deviceId, claim.nonce)

/-- In the run, once a claim was consumed by a redemption, presenting a claim of the same device
and nonce raises `EnrollmentError`, on whatever code. -/
def NoReplay (rt : Runtime N) (calls : List (Call crypto)) : Prop :=
  ∀ xs first ys second zs, calls = xs ++ .redeem first :: ys ++ .redeem second :: zs →
    first.deviceClaim.pair = second.deviceClaim.pair →
    (∃ credential registry, redeem rt crypto first (stateAfter rt xs) = .ok credential registry) →
      Refused (redeem rt crypto second (stateAfter rt (xs ++ .redeem first :: ys)))

/-- A valid attempt presents a claim of the binding's device and nonce. -/
theorem Valid.pair {rt : Runtime N} {binding : EnrollmentCodeBinding} {args : RedeemArgs}
    (h : Valid rt crypto binding args) : binding.pair = args.deviceClaim.pair := by
  obtain ⟨-, _, -, hattempt⟩ := h
  exact Prod.ext hattempt.deviceId.symm hattempt.nonce.symm

/-- **No claim is replayed** in a run that issues no two codes for one device and nonce, and whose
attempts do not crash. -/
theorem noReplay {rt : Runtime N} {calls : List (Call crypto)}
    (hfresh : ((issued rt calls).map EnrollmentCodeBinding.pair).Nodup) (hclean : Clean rt calls) :
    NoReplay rt calls := by
  rintro xs first ys second zs rfl hpair ⟨credential, registry, hfirst⟩
  refine redeem_of_not_accepts ?_ (hclean _ second zs rfl)
  rintro ⟨permit', hentry', hvalid'⟩
  obtain ⟨permit, hentry, hvalid⟩ := accepts_of_redeem hfirst
  rw [(permits_stateAfter rt _).1] at hentry hentry'
  have hactions : (xs ++ .redeem first :: ys).flatMap (Call.actions rt) =
      xs.flatMap (Call.actions rt) ++
        .use (hashCode crypto first.code) first :: ys.flatMap (Call.actions rt) := by
    rw [List.flatMap_append, List.flatMap_cons]
    rfl
  rw [hactions] at hentry'
  have hnodup : ((OneShot.grants (xs.flatMap (Call.actions rt) ++
      .use (hashCode crypto first.code) first :: ys.flatMap (Call.actions rt))).map
        EnrollmentCodeBinding.pair).Nodup := by
    rw [← hactions, grants_actions]
    exact hfresh.sublist (((List.sublist_append_left _ _).filterMap _).map _)
  refine OneShot.accepted_unique hnodup hentry hvalid hentry' ?_
  rw [(valid_iff.mp hvalid).pair, (valid_iff.mp hvalid').pair, hpair]

/-- Two codes for two nonces; the first claim is presented for both. -/
def presentedTwice : List (Call pyCrypto) :=
  [.issue (demoIssue code1 "nonce-1"), .issue (demoIssue code2 "nonce-2"),
    .redeem (demoAttempt "code-1" "nonce-1" 300), .redeem (demoAttempt "code-2" "nonce-1" 300)]

theorem presentedTwice_noReplay : NoReplay pyRuntime presentedTwice := by
  have hdemo : DemoRun presentedTwice := by
    intro args hmem
    have hargs : args = demoAttempt "code-1" "nonce-1" 300 ∨
        args = demoAttempt "code-2" "nonce-1" 300 := by
      simpa [presentedTwice] using hmem
    rcases hargs with rfl | rfl
    · exact ⟨_, _, rfl⟩
    · exact ⟨_, _, rfl⟩
  have hissued : issued pyRuntime presentedTwice =
      [demoBinding "code-1" "nonce-1", demoBinding "code-2" "nonce-2"] := by
    rw [presentedTwice, issued_cons_issue (code1_granted _), issued_cons_issue (code2_granted _)]
    rfl
  exact noReplay (by rw [hissued]; simp [EnrollmentCodeBinding.pair, demoBinding]) hdemo.clean

/-- Two codes issued on one claim, and both redeemed with it. -/
def issuedTwice : List (Call pyCrypto) :=
  [.issue (demoIssue code1 "nonce-1"), .issue (demoIssue code2 "nonce-1"),
    .redeem (demoAttempt "code-1" "nonce-1" 300), .redeem (demoAttempt "code-2" "nonce-1" 300)]

/-- One captured claim redeems both codes it was issued for. -/
theorem issuedTwice_replays : ¬ NoReplay pyRuntime issuedTwice := by
  intro h
  let issue1 : Call pyCrypto := .issue (demoIssue code1 "nonce-1")
  let issue2 : Call pyCrypto := .issue (demoIssue code2 "nonce-1")
  let first : RedeemArgs := demoAttempt "code-1" "nonce-1" 300
  let second : RedeemArgs := demoAttempt "code-2" "nonce-1" 300
  have hne : hashCode pyCrypto "code-1" ≠ hashCode pyCrypto "code-2" := by decide
  have hsession : ∀ current, currentTime newYear newYear.toAware = .ok current →
      (current.addSeconds 300).isSome = true := fun _ => defaultSession_representable
  have hnot1 : OneShot.NotGranted ([issue2].flatMap (Call.actions pyRuntime))
      (hashCode pyCrypto "code-1") := by
    intro permit hmem
    obtain ⟨hpermit, hkey⟩ := grant_mem_actions.mp hmem
    rw [issued_cons_issue (code2_granted _)] at hpermit
    obtain rfl := List.mem_singleton.mp hpermit
    exact hne hkey
  have hnot2 : OneShot.NotGranted (([.redeem first] : List (Call pyCrypto)).flatMap
      (Call.actions pyRuntime)) (hashCode pyCrypto "code-2") := by
    intro permit hmem
    exact absurd (grant_mem_actions.mp hmem).1 List.not_mem_nil
  have hunused : NoneValid pyRuntime ([.redeem first] : List (Call pyCrypto)) "code-2"
      (demoBinding "code-2" "nonce-1") := by
    intro attempt hmem hon
    obtain rfl : attempt = first := by simpa using hmem
    exact absurd hon hne
  have haccepts1 := (accepts_after_issue [] (code1_granted "nonce-1") hnot1
    (rfl : OnCode pyCrypto "code-1" first)).mpr
    ⟨demoAttempt_isValid (by decide) _ _, fun _ hmem => absurd hmem (by simp [issue2])⟩
  have haccepts2 := (accepts_after_issue [issue1] (code2_granted "nonce-1") hnot2
    (rfl : OnCode pyCrypto "code-2" second)).mpr ⟨demoAttempt_isValid (by decide) _ _, hunused⟩
  obtain ⟨_, _, hsecond⟩ := redeem_of_accepts haccepts2 hsession
  obtain ⟨_, _, hrefused, -⟩ := h [issue1, issue2] first [] second [] rfl rfl
    (redeem_of_accepts haccepts1 hsession)
  exact absurd (hsecond.symm.trans hrefused) (by simp)

end Nlboot.Reference
