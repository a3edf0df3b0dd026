import Nlboot.Lib.Ledger
import Nlboot.Reference.EnrollmentRuns

/-!
# The uses of a code

Every issue of a code makes one use of it. Over a run, where does it go? `redeem` grants a session
for it; or loses it, where it raises after it wrote the registry; a second issue under the same hash
takes the place of a use that nobody had; or it is still there.

* `Entry`: what a call comes to, seen from its caller.
* `EnrollmentRegistry.live`: whether the code has a use left.
* `displaced`: the uses an issue takes the place of.

Result:
* **`uses_balance`**: in every run, what was issued under a hash is what was granted, lost and
  displaced under it, and what is live.
-/

namespace Nlboot.Reference

open Nlboot.Lib

variable {N K : Type} {crypto : Crypto K} {rt : Runtime N}

/-- What a call comes to: a code, a session, or an exception after a use was spent. -/
inductive Entry where
  | issued
  | granted
  | lost
  deriving DecidableEq

/-- The hash of the code a call is about. -/
def Call.codeHash : Call crypto → Option String
  | .makeClaim .. => none
  | .issue args => some (hashCode crypto args.draw.text)
  | .redeem args => some (hashCode crypto args.code)

/-- What the call comes to in the registry it meets. -/
def Call.entry (rt : Runtime N) (registry : EnrollmentRegistry) : Call crypto → Option Entry
  | .makeClaim .. => none
  | .issue args =>
    match Reference.issue rt crypto args registry with
    | .ok .. => some .issued
    | .error .. => none
  | .redeem args =>
    match Reference.redeem rt crypto args registry with
    | .ok .. => some .granted
    | .error _ registry' =>
      if registry'.bindingFor crypto args.code = registry.bindingFor crypto args.code then none
      else some .lost

/-- The uses that are left of the code: one or none. -/
def EnrollmentRegistry.live (registry : EnrollmentRegistry) (codeHash : String) : Nat :=
  ((registry.find codeHash).any fun binding => !binding.isSpent).toNat

/-- Whether a call on the code comes to this. -/
def counted (rt : Runtime N) (codeHash : String) (entry : Entry) (registry : EnrollmentRegistry)
    (call : Call crypto) : Nat :=
  if call.codeHash = some codeHash ∧ call.entry rt registry = some entry then 1 else 0

/-- The use of the code that a call takes the place of. -/
def displaced (rt : Runtime N) (codeHash : String) (registry : EnrollmentRegistry)
    (call : Call crypto) : Nat :=
  if call.codeHash = some codeHash ∧ call.entry rt registry = some .issued then
    registry.live codeHash
  else 0

/-- A count over a run from the empty registry. -/
def total (rt : Runtime N) (count : EnrollmentRegistry → Call crypto → Nat)
    (calls : List (Call crypto)) : Nat :=
  tally (Call.step rt) count .empty calls

/-- What leaves the uses of a code. -/
def spent (rt : Runtime N) (codeHash : String) (registry : EnrollmentRegistry)
    (call : Call crypto) : Nat :=
  counted rt codeHash .granted registry call + counted rt codeHash .lost registry call +
    displaced rt codeHash registry call

/-! ## Calls on other codes -/

/-- A call leaves the binding of another code as it is. -/
theorem find_step_of_ne {codeHash : String} {registry : EnrollmentRegistry} {call : Call crypto}
    (h : call.codeHash ≠ some codeHash) :
    (call.step rt registry).find codeHash = registry.find codeHash := by
  cases call with
  | makeClaim => rfl
  | issue args =>
    show (resultState (issue rt crypto args registry)).find codeHash = _
    cases hnew : newBinding rt crypto args with
    | error e =>
      rw [issue_refused hnew]
      rfl
    | ok binding =>
      rw [issue_granted hnew]
      refine (registry.find_put binding codeHash).trans (if_neg fun hcode => h ?_)
      rw [hcode, codeHash_of_newBinding hnew]
      rfl
  | redeem args =>
    show (resultState (redeem rt crypto args registry)).find codeHash = _
    rw [redeem_state]
    cases hadmit : registry.admission rt crypto args with
    | error e => rfl
    | ok r =>
      obtain ⟨-, -, hfind, -⟩ := admission_eq_ok.mp hadmit
      refine (registry.find_put r.2.spend codeHash).trans (if_neg fun hcode => h ?_)
      rw [hcode]
      exact congrArg some (EnrollmentRegistry.codeHash_of_find hfind).symm

/-- A call that comes to nothing for the code moves no use of it. -/
theorem moves_nothing {codeHash : String} {registry : EnrollmentRegistry} {call : Call crypto}
    (rt : Runtime N) (h : call.codeHash ≠ some codeHash ∨ call.entry rt registry = none) :
    (∀ entry, counted rt codeHash entry registry call = 0) ∧
      spent rt codeHash registry call = 0 := by
  have hnot : ∀ entry, ¬ (call.codeHash = some codeHash ∧ call.entry rt registry = some entry) := by
    rintro entry ⟨hhash, hentry⟩
    rcases h with h | h
    · exact h hhash
    · rw [h] at hentry
      cases hentry
  have hcounted : ∀ entry, counted rt codeHash entry registry call = 0 :=
    fun entry => if_neg (hnot entry)
  refine ⟨hcounted, ?_⟩
  unfold spent displaced
  rw [hcounted, hcounted, if_neg (hnot _)]

/-! ## Calls on the code -/

/-- An issue of the code puts a use in, and takes out the one there was; what else comes of a call
on the code takes one out. -/
theorem moves_of_entry {codeHash : String} {registry : EnrollmentRegistry} {call : Call crypto}
    {entry : Entry} (hhash : call.codeHash = some codeHash)
    (hentry : call.entry rt registry = some entry) :
    counted rt codeHash .issued registry call = (if entry = .issued then 1 else 0) ∧
      spent rt codeHash registry call =
        if entry = .issued then registry.live codeHash else 1 := by
  unfold spent counted displaced
  cases entry with
  | issued | granted | lost => simp [hhash, hentry]

/-- The use of a binding that was just put in. -/
theorem live_put_self {registry : EnrollmentRegistry} {binding : EnrollmentCodeBinding} :
    (registry.put binding).live binding.codeHash = (!binding.isSpent).toNat := by
  unfold EnrollmentRegistry.live
  rw [EnrollmentRegistry.find_put, if_pos rfl]
  rfl

/-- An issue makes one use, and takes the place of the one there was. -/
theorem issue_balances {codeHash : String} {registry : EnrollmentRegistry} {args : IssueArgs}
    {call : Call crypto} (hcall : call = .issue args) (hhash : call.codeHash = some codeHash) :
    registry.live codeHash + counted rt codeHash .issued registry call =
      (call.step rt registry).live codeHash + spent rt codeHash registry call := by
  cases hnew : newBinding rt crypto args with
  | error e =>
    have hentry : call.entry rt registry = none := by
      simp only [hcall, Call.entry, issue_refused hnew]
    have hstep : call.step rt registry = registry := by
      simp only [hcall, Call.step, issue_refused hnew, resultState]
    obtain ⟨hcounted, hspent⟩ := moves_nothing rt (.inr hentry)
    rw [hcounted, hspent, hstep]
  | ok binding =>
    have hentry : call.entry rt registry = some .issued := by
      simp only [hcall, Call.entry, issue_granted hnew]
    have hstep : call.step rt registry = registry.put binding := by
      simp only [hcall, Call.step, issue_granted hnew, resultState]
    have hunspent : binding.isSpent = false := by
      obtain ⟨-, -, -, -, -, -, -, -, hbinding⟩ := newBinding_eq_ok.mp hnew
      rw [hbinding]
      rfl
    obtain ⟨hcounted, hspent⟩ := moves_of_entry hhash hentry
    obtain rfl : binding.codeHash = codeHash := by
      rw [hcall] at hhash
      exact (codeHash_of_newBinding hnew).trans (Option.some.inj hhash)
    rw [hstep, live_put_self, hunspent, hcounted, hspent, if_pos rfl, if_pos rfl]
    exact Nat.add_comm _ _

/-- **A redemption takes one use out** where it is admitted, and does nothing otherwise. -/
theorem redeem_balances {codeHash : String} {registry : EnrollmentRegistry} {args : RedeemArgs}
    {call : Call crypto} (hcall : call = .redeem args) (hhash : call.codeHash = some codeHash)
    (hbounded : UsesBounded registry) :
    registry.live codeHash + counted rt codeHash .issued registry call =
      (call.step rt registry).live codeHash + spent rt codeHash registry call := by
  cases hadmit : registry.admission rt crypto args with
  | error e =>
    have hentry : call.entry rt registry = none := by
      simp only [hcall, Call.entry, redeem_refused hadmit, if_true]
    have hstep : call.step rt registry = registry := by
      simp only [hcall, Call.step, redeem_refused hadmit, resultState]
    obtain ⟨hcounted, hspent⟩ := moves_nothing rt (.inr hentry)
    rw [hcounted, hspent, hstep]
  | ok r =>
    obtain ⟨current, binding⟩ := r
    obtain ⟨-, -, hfind, hunspent, -⟩ := admission_eq_ok.mp hadmit
    have hone := isSpent_of_uses (hbounded _ _ hfind) hunspent
    have hkey : binding.spend.codeHash = hashCode crypto args.code :=
      (EnrollmentRegistry.codeHash_of_find hfind :)
    have hstep : call.step rt registry = registry.put binding.spend := by
      rw [hcall]
      show resultState (redeem rt crypto args registry) = _
      rw [redeem_state, hadmit]
    have hchanged : (registry.put binding.spend).bindingFor crypto args.code ≠
        registry.bindingFor crypto args.code := by
      unfold EnrollmentRegistry.bindingFor
      rw [EnrollmentRegistry.find_put, if_pos hkey.symm, hfind]
      intro hsame
      have huses := congrArg EnrollmentCodeBinding.remainingUses (Option.some.inj hsame)
      simp only [EnrollmentCodeBinding.spend] at huses
      omega
    obtain ⟨entry, hentry, hnot⟩ : ∃ entry, call.entry rt registry = some entry ∧
        entry ≠ .issued := by
      simp only [hcall, Call.entry, redeem_admitted hadmit]
      cases current.addSeconds args.sessionTtlSeconds with
      | none => exact ⟨.lost, by simp [hchanged], by decide⟩
      | some expiresAt => exact ⟨.granted, rfl, by decide⟩
    obtain ⟨hcounted, hmoved⟩ := moves_of_entry hhash hentry
    obtain rfl : hashCode crypto args.code = codeHash := by
      rw [hcall] at hhash
      exact Option.some.inj hhash
    have hlive : registry.live (hashCode crypto args.code) = 1 := by
      unfold EnrollmentRegistry.live
      rw [hfind]
      simp [hunspent]
    have hspent : binding.spend.isSpent = true := by
      simp [EnrollmentCodeBinding.isSpent, EnrollmentCodeBinding.spend, hone]
    rw [hcounted, hmoved, if_neg hnot, if_neg hnot, hlive, hstep, ← hkey, live_put_self, hspent]
    rfl

/-- **One call balances.** -/
theorem step_balances {codeHash : String} {registry : EnrollmentRegistry} (call : Call crypto)
    (hbounded : UsesBounded registry) :
    registry.live codeHash + counted rt codeHash .issued registry call =
      (call.step rt registry).live codeHash + spent rt codeHash registry call := by
  by_cases hhash : call.codeHash = some codeHash
  · cases call with
    | makeClaim => cases hhash
    | issue args => exact issue_balances rfl hhash
    | redeem args => exact redeem_balances rfl hhash hbounded
  · obtain ⟨hcounted, hspent⟩ := moves_nothing rt (.inl hhash)
    rw [hcounted, hspent]
    unfold EnrollmentRegistry.live
    rw [find_step_of_ne hhash]

/-! ## Runs -/

/-- **Where the uses of a code go.** In every run of calls, whatever they are told and whenever they
come, the codes issued under a hash are as many as the sessions granted on it, the redemptions that
raised after they spent a use of it, and the live codes that an issue took the place of, together
with the one that is live at the end, if one is. -/
theorem uses_balance (rt : Runtime N) (codeHash : String) (calls : List (Call crypto)) :
    total rt (counted rt codeHash .issued) calls =
      total rt (counted rt codeHash .granted) calls + total rt (counted rt codeHash .lost) calls +
        total rt (displaced rt codeHash) calls + (stateAfter rt calls).live codeHash := by
  have hempty : UsesBounded .empty := fun _ _ h =>
    absurd h (by simp [EnrollmentRegistry.find, EnrollmentRegistry.empty])
  have hbalance : EnrollmentRegistry.empty.live codeHash + total rt (counted rt codeHash .issued)
      calls = (stateAfter rt calls).live codeHash + total rt (spent rt codeHash) calls :=
    balance (EnrollmentRegistry.live · codeHash)
      (fun registry call hbounded => (step_refines rt call hbounded).2)
      (fun registry call hbounded => step_balances call hbounded) hempty calls
  have hspent : total rt (spent rt codeHash) calls = total rt (counted rt codeHash .granted) calls +
      total rt (counted rt codeHash .lost) calls + total rt (displaced rt codeHash) calls :=
    (tally_add _ _ _ _ calls).trans (congrArg (· + _) (tally_add _ _ _ _ calls))
  have hnone : EnrollmentRegistry.empty.live codeHash = 0 := rfl
  omega

end Nlboot.Reference
