import Nlboot.Lib.Cut
import Nlboot.Reference.Escapes
import Nlboot.Reference.TokenBridge

/-!
# The clock of the planner

`nlboot-plan --now T` judges the token at `T`. The trusted keys are judged by the system clock:
`verify_manifest_document` has no time to pass on to `load_trusted_keys`.

* `outcome`: the exit code of a run and the plan it prints. `main` catches the errors of the
  package and `ValueError`; any other exception ends the process with code 1.
* `Asked`: the documents of a run that comes to the trusted keys. Its keys are cut at the first one
  that no clock admits: the clock decides on those before it, by their windows (`InWindows`).
* `RefusedAnyway`: a clock that is in these windows does not help.

Results:
* `loadTrustedKeys_unique`: the keys that are loaded do not depend on the clock.
* `Asked.plans_iff`, `Asked.strays_iff`: how a run ends, by its documents and the clock.
* **`clockFree_iff`**: when the wall clock makes no difference.
-/

namespace Nlboot.Reference

open Nlboot.Lib

variable {N K : Type} {rt : Runtime N} {crypto : Crypto K} {limits : Limits N}
  {clock clock' : UtcTime} {args : PlanArgs N}

/-! ## Outcomes -/

/-- The exit code of a run that ends in an exception. -/
def exitCode (e : PyError) : Nat := if e.isValueError then 2 else 1

/-- The exit code and the plan of a run of `main`. -/
def outcome : Except PyError BootPlan → Nat × Option BootPlan
  | .ok plan => (0, some plan)
  | .error e => (exitCode e, none)

theorem exitCode_eq_two {e : PyError} : exitCode e = 2 ↔ e.Caught := by
  simp [exitCode, PyError.Caught]

theorem outcome_eq_ok {x : Except PyError BootPlan} {plan : BootPlan} :
    outcome x = (0, some plan) ↔ x = .ok plan := by
  cases x <;> simp [outcome]

/-- A run is refused iff it ends in an error that `main` catches. -/
theorem outcome_eq_refused {x : Except PyError BootPlan} :
    outcome x = (2, none) ↔ (¬ ∃ plan, x = .ok plan) ∧ ¬ Strays PyError.Caught x := by
  cases x with
  | ok plan => simp [outcome]
  | error e => simp [outcome, exitCode_eq_two]

/-- Runs that end in no plan end alike if `main` catches the errors of both, or of neither. -/
theorem outcome_congr {x y : Except PyError BootPlan} (hx : ¬ ∃ plan, x = .ok plan)
    (hy : ¬ ∃ plan, y = .ok plan)
    (h : Strays PyError.Caught x ↔ Strays PyError.Caught y) : outcome x = outcome y := by
  cases x with
  | ok plan => exact absurd ⟨plan, rfl⟩ hx
  | error e =>
    cases y with
    | ok plan => exact absurd ⟨plan, rfl⟩ hy
    | error e' =>
      have hcaught : e.isValueError = e'.isValueError := by
        simpa [PyError.Caught] using h
      simp only [outcome, exitCode, hcaught]

/-! ## The keys that are loaded -/

/-- An entry that is accepted at two clocks is the same entry. -/
theorem loadEntry_unique {now now' : Option Moment} {item : Json N}
    {entry entry' : String × TrustedKey} (h : loadEntry rt clock now item = .ok entry)
    (h' : loadEntry rt clock' now' item = .ok entry') : entry = entry' := by
  obtain ⟨data, rfl, hkey, -, href⟩ := loadEntry_eq_ok.mp h
  obtain ⟨data', hdata, hkey', -, href'⟩ := loadEntry_eq_ok.mp h'
  obtain rfl := Json.obj.inj hdata
  have hsame : entry.2 = entry'.2 := Except.ok.inj (hkey.symm.trans hkey')
  exact Prod.ext (by rw [href, href', hsame]) hsame

/-- **The keys that are loaded do not depend on the clock.** -/
theorem loadTrustedKeys_unique {now now' : Option Moment} {data : Members N}
    {keys keys' : TrustedKeys} (h : loadTrustedKeys rt clock now data = .ok keys)
    (h' : loadTrustedKeys rt clock' now' data = .ok keys') : keys = keys' := by
  obtain ⟨entries, ⟨items, hitems, hall⟩, rfl⟩ := loadTrustedKeys_eq_ok.mp h
  obtain ⟨entries', ⟨items', hitems', hall'⟩, rfl⟩ := loadTrustedKeys_eq_ok.mp h'
  obtain rfl := Json.arr.inj (Option.some.inj (hitems.symm.trans hitems'))
  have hentries : entries = entries' := by
    clear h h' hitems hitems'
    induction hall generalizing entries' with
    | nil => exact (List.forall₂_nil_left_iff.mp hall').symm
    | cons hentry _ ih =>
      obtain ⟨entry', rest', hentry', hrest', rfl⟩ := List.forall₂_cons_left_iff.mp hall'
      rw [loadEntry_unique hentry hentry', ih _ hrest']
  rw [hentries]

/-- The item is an object that some clock may admit. -/
def UsableItem (rt : Runtime N) (item : Json N) : Prop :=
  ∃ entry, item = .obj entry ∧ Usable rt entry

/-- The clock is in the window of every key. -/
def InWindows (rt : Runtime N) (keys : List (Json N)) (clock : UtcTime) : Prop :=
  ∀ entry, .obj entry ∈ keys → InWindow rt entry clock

/-- **An entry is accepted by the system clock** iff it is usable and the clock is in its window. -/
theorem acceptedKey_iff {item : Json N} : AcceptedKey rt clock none item ↔
    ∃ entry, item = .obj entry ∧ Usable rt entry ∧ InWindow rt entry clock := by
  unfold AcceptedKey currentTime
  simp only [pure_eq_ok, admitted_iff, exists_and_left, exists_eq_left']

/-- What the parser of keys lets through is no usable key. -/
theorem EntryStrays.not_usable {entry : Members N} (h : EntryStrays rt none entry) :
    ¬ Usable rt entry := by
  intro husable
  have hrevoked : TimeOrNothing rt (entry.get "revoked_at") :=
    fun text htext => absurd htext (husable.revokedAt text)
  obtain ⟨key, hkey⟩ := trustedKey_isOk.mpr ⟨husable.keyRef, husable.algorithm,
    husable.publicKeyPem, ⟨_, keyStatus_active_iff.mpr husable.status⟩, husable.revocationReason,
    husable.notBefore, husable.notAfter, hrevoked⟩
  obtain ⟨e, he, -⟩ := (strays_trustedKey caught_verification).mpr h
  exact absurd (hkey.symm.trans he) (by simp)

/-! ## A run with `--now` -/

/-- A run that comes to the trusted keys: the time, the documents, and their keys up to the first
that no clock admits and from there on. -/
structure Asked (rt : Runtime N) (limits : Limits N) (args : PlanArgs N) where
  current : UtcTime
  manifestDoc : Members N
  keysDoc : Members N
  signerRef : String
  signatureHex : String
  before : List (Json N)
  rest : List (Json N)
  now : ∃ t, args.now = some t ∧ t.astimezone = .ok current
  opened : Opened limits args manifestDoc keysDoc
  addressed : Addressed manifestDoc args.requireFips signerRef signatureHex
  keys : keysDoc.get "keys" = some (.arr (before ++ rest))
  usable : ∀ item ∈ before, UsableItem rt item
  stops : Stops (UsableItem rt) rest

/-- A clock that is in the windows does not help: the first key that is unusable is refused, and
where there is none, the documents come to no plan, and to nothing that `main` does not catch. -/
structure RefusedAnyway (crypto : Crypto K) (asked : Asked rt limits args) : Prop where
  key : ∀ entry after, asked.rest = .obj entry :: after → ¬ EntryStrays rt none entry
  unplanned : asked.rest = [] → ¬ Planned rt crypto limits args.token asked.before
    asked.manifestDoc asked.signerRef asked.signatureHex asked.current
  caught : asked.rest = [] → ¬ LaterStrays rt crypto limits args.token asked.before
    asked.manifestDoc asked.signerRef asked.signatureHex

section

variable (asked : Asked rt limits args)

theorem Asked.accepted_iff :
    (∀ item ∈ asked.before, AcceptedKey rt clock none item) ↔
      InWindows rt asked.before clock := by
  constructor
  · intro h entry hentry
    obtain ⟨entry', hobj, -, hwindow⟩ := acceptedKey_iff.mp (h _ hentry)
    exact Json.obj.inj hobj ▸ hwindow
  · intro h item hitem
    obtain ⟨entry, rfl, husable⟩ := asked.usable item hitem
    exact acceptedKey_iff.mpr ⟨entry, rfl, husable, h entry hitem⟩

/-- The keys load iff all of them are usable and the clock is in their windows. -/
theorem Asked.loads_iff : (∃ entries, Loads rt clock none asked.keysDoc entries) ↔
    asked.rest = [] ∧ InWindows rt asked.before clock := by
  rw [exists_loads_iff, ← asked.accepted_iff]
  simp only [asked.keys, Option.some.injEq, Json.arr.injEq, exists_eq_left', List.mem_append,
    or_imp, forall_and]
  constructor
  · rintro ⟨hbefore, hrest⟩
    refine ⟨?_, hbefore⟩
    cases hcut : asked.rest with
    | nil => rfl
    | cons item after =>
      obtain ⟨entry, hobj, husable, -⟩ := acceptedKey_iff.mp (hrest item (by simp [hcut]))
      exact absurd ⟨entry, hobj, husable⟩ (asked.stops item (by simp [hcut]))
  · rintro ⟨hrest, hbefore⟩
    exact ⟨hbefore, by simp [hrest]⟩

/-- Something else leaves the load iff the clock is in the windows before the first unusable key,
and that key is one that does it. -/
theorem Asked.keysStray_iff : KeysStray rt clock none asked.keysDoc ↔
    InWindows rt asked.before clock ∧
      ∃ entry after, asked.rest = .obj entry :: after ∧ EntryStrays rt none entry := by
  unfold KeysStray
  simp only [asked.keys, Option.some.injEq, Json.arr.injEq]
  constructor
  · rintro ⟨_, before, entry, after, rfl, hsplit, hbefore, hstrays⟩
    have husable : ∀ item ∈ before, UsableItem rt item := by
      intro item hitem
      obtain ⟨entry', hobj, husable, -⟩ := acceptedKey_iff.mp (hbefore item hitem)
      exact ⟨entry', hobj, husable⟩
    have hstops : ¬ UsableItem rt (.obj entry) := by
      rintro ⟨entry', hobj, husable⟩
      exact hstrays.not_usable (Json.obj.inj hobj ▸ husable)
    obtain ⟨hbefore', hrest⟩ := append_inj_of_stops asked.usable husable asked.stops
      (stops_cons hstops after) hsplit
    exact ⟨asked.accepted_iff.mp (hbefore' ▸ hbefore), entry, after, hrest, hstrays⟩
  · rintro ⟨hwindows, entry, after, hrest, hstrays⟩
    exact ⟨_, asked.before, entry, after, rfl, by rw [hrest], asked.accepted_iff.mpr hwindows,
      hstrays⟩

/-- What the run has found when it loads the trusted keys. -/
def Asked.query : KeyQuery N where
  now := some asked.current.toMoment
  manifestDoc := asked.manifestDoc
  trustedKeysDoc := asked.keysDoc
  signerRef := asked.signerRef
  signatureHex := asked.signatureHex

/-- **The run** from the trusted keys on. -/
theorem Asked.planFromDocuments_eq : planFromDocuments rt crypto clock args limits =
    loadTrustedKeys rt clock none asked.keysDoc >>=
      afterKeys rt crypto clock args limits asked.query := by
  have hbefore : beforeKeys args limits = .ok asked.query := by
    obtain ⟨t, hnow, htime⟩ := asked.now
    have hparsed : parseNow args.now = .ok (some asked.current.toMoment) := by
      rw [hnow]
      exact map_eq_ok.mpr ⟨asked.current, htime, rfl⟩
    exact beforeKeys_eq_ok.mpr ⟨hparsed, asked.opened, asked.addressed⟩
  rw [Reference.planFromDocuments_eq, hbefore]
  rfl

/-- With a time given, the steps after the keys do not read the clock. -/
theorem Asked.afterKeys_clock (clock clock' : UtcTime) (keys : TrustedKeys) :
    afterKeys rt crypto clock args limits asked.query keys =
      afterKeys rt crypto clock' args limits asked.query keys := rfl

/-- **A run prints a plan** iff its keys load and the documents come to a plan at its time. -/
theorem Asked.plans_iff :
    (∃ plan, planFromDocuments rt crypto clock args limits = .ok plan) ↔
      asked.rest = [] ∧ InWindows rt asked.before clock ∧
        Planned rt crypto limits args.token asked.before asked.manifestDoc asked.signerRef
          asked.signatureHex asked.current := by
  have hplanned : ∀ entries, asked.rest = [] → Loads rt clock none asked.keysDoc entries →
      ((∃ plan, afterKeys rt crypto clock args limits asked.query
        (entries.foldl (fun d m => dictSet d m.1 m.2) []) = .ok plan) ↔ Planned rt crypto limits
          args.token asked.before asked.manifestDoc asked.signerRef asked.signatureHex
          asked.current) := by
    intro entries hrest hloads
    have hkeys : asked.keysDoc.get "keys" = some (.arr asked.before) := by
      simpa [hrest] using asked.keys
    have hquery : Loads rt clock none asked.query.trustedKeysDoc entries := hloads
    rw [afterKeys_isOk hquery hkeys]
    simp [Asked.query, currentTime_toMoment]
  rw [asked.planFromDocuments_eq]
  simp only [bind_eq_ok, loadTrustedKeys_eq_ok]
  constructor
  · rintro ⟨plan, _, ⟨entries, hloads, rfl⟩, hplan⟩
    obtain ⟨hrest, hwindows⟩ := asked.loads_iff.mp ⟨entries, hloads⟩
    exact ⟨hrest, hwindows, (hplanned entries hrest hloads).mp ⟨plan, hplan⟩⟩
  · rintro ⟨hrest, hwindows, h⟩
    obtain ⟨entries, hloads⟩ := asked.loads_iff.mpr ⟨hrest, hwindows⟩
    obtain ⟨plan, hplan⟩ := (hplanned entries hrest hloads).mpr h
    exact ⟨plan, _, ⟨entries, hloads, rfl⟩, hplan⟩

/-- **Something else leaves a run** iff the clock is in the windows, and the first unusable key lets
it through, or there is none and the later steps do. -/
theorem Asked.strays_iff : Strays PyError.Caught (planFromDocuments rt crypto clock args limits) ↔
    InWindows rt asked.before clock ∧
      ((∃ entry after, asked.rest = .obj entry :: after ∧ EntryStrays rt none entry) ∨
        asked.rest = [] ∧ LaterStrays rt crypto limits args.token asked.before asked.manifestDoc
          asked.signerRef asked.signatureHex) := by
  have hload : Strays PyError.Caught (loadTrustedKeys rt clock none asked.keysDoc) ↔
      KeysStray rt clock none asked.keysDoc := strays_trustedKeys caught_verification (by simp)
  have hlater : ∀ entries, asked.rest = [] → Loads rt clock none asked.keysDoc entries →
      (Strays PyError.Caught (afterKeys rt crypto clock args limits asked.query
        (entries.foldl (fun d m => dictSet d m.1 m.2) [])) ↔ LaterStrays rt crypto limits
          args.token asked.before asked.manifestDoc asked.signerRef asked.signatureHex) := by
    intro entries hrest hloads
    have hkeys : asked.keysDoc.get "keys" = some (.arr asked.before) := by
      simpa [hrest] using asked.keys
    have htime : ∀ t ∈ asked.query.now, ¬ t.Untimely := by
      intro t ht huntimely
      obtain rfl := Option.some.inj ht
      exact huntimely _ asked.current.astimezone_toMoment
    have hquery : Loads rt clock none asked.query.trustedKeysDoc entries := hloads
    exact strays_afterKeys hquery hkeys htime
  rw [asked.planFromDocuments_eq]
  simp only [strays_bind, hload, asked.keysStray_iff, loadTrustedKeys_eq_ok]
  constructor
  · rintro (⟨hwindows, hkey⟩ | ⟨_, ⟨entries, hloads, rfl⟩, hstrays⟩)
    · exact ⟨hwindows, .inl hkey⟩
    · obtain ⟨hrest, hwindows⟩ := asked.loads_iff.mp ⟨entries, hloads⟩
      exact ⟨hwindows, .inr ⟨hrest, (hlater entries hrest hloads).mp hstrays⟩⟩
  · rintro ⟨hwindows, hkey | ⟨hrest, hstrays⟩⟩
    · exact .inl ⟨hwindows, hkey⟩
    · obtain ⟨entries, hloads⟩ := asked.loads_iff.mpr ⟨hrest, hwindows⟩
      exact .inr ⟨_, ⟨entries, hloads, rfl⟩, (hlater entries hrest hloads).mpr hstrays⟩

/-! ## Two clocks -/

/-- A run is refused iff the clock is outside a window, or that makes no difference. -/
theorem Asked.refused_iff :
    outcome (planFromDocuments rt crypto clock args limits) = (2, none) ↔
      ¬ InWindows rt asked.before clock ∨ RefusedAnyway crypto asked := by
  rw [outcome_eq_refused, asked.plans_iff, asked.strays_iff]
  by_cases hwindows : InWindows rt asked.before clock
  · simp only [hwindows, true_and, not_true_eq_false, false_or, not_and, not_or, not_exists]
    constructor
    · rintro ⟨hplanned, hkey, hlater⟩
      exact ⟨hkey, hplanned, hlater⟩
    · rintro ⟨hkey, hplanned, hlater⟩
      exact ⟨hplanned, hkey, hlater⟩
  · simp [hwindows]

/-- Clocks that are both in the windows end a run alike. -/
theorem Asked.outcome_eq (h : InWindows rt asked.before clock)
    (h' : InWindows rt asked.before clock') :
    outcome (planFromDocuments rt crypto clock args limits) =
      outcome (planFromDocuments rt crypto clock' args limits) := by
  have hplans : (∃ plan, planFromDocuments rt crypto clock args limits = .ok plan) ↔
      ∃ plan, planFromDocuments rt crypto clock' args limits = .ok plan := by
    rw [asked.plans_iff, asked.plans_iff]
    simp only [h, h']
  have hstrays : Strays PyError.Caught (planFromDocuments rt crypto clock args limits) ↔
      Strays PyError.Caught (planFromDocuments rt crypto clock' args limits) := by
    rw [asked.strays_iff, asked.strays_iff]
    simp only [h, h']
  by_cases hplan : ∃ plan, planFromDocuments rt crypto clock args limits = .ok plan
  · obtain ⟨plan, hrun⟩ := hplan
    obtain ⟨plan', hrun'⟩ := hplans.mp ⟨plan, hrun⟩
    rw [asked.planFromDocuments_eq] at hrun hrun'
    obtain ⟨keys, hload, hafter⟩ := bind_eq_ok.mp hrun
    obtain ⟨keys', hload', hafter'⟩ := bind_eq_ok.mp hrun'
    obtain rfl := loadTrustedKeys_unique hload hload'
    rw [asked.afterKeys_clock clock clock'] at hafter
    rw [asked.planFromDocuments_eq, asked.planFromDocuments_eq, hrun, hrun',
      Except.ok.inj (hafter.symm.trans hafter')]
  · exact outcome_congr hplan (fun hplan' => hplan (hplans.mpr hplan')) hstrays

end

/-- A run that does not come to an array of trusted keys does not read the clock. -/
theorem planFromDocuments_of_not_asked {t : Moment} (h : args.now = some t)
    (hasked : IsEmpty (Asked rt limits args)) :
    planFromDocuments rt crypto clock args limits =
      planFromDocuments rt crypto clock' args limits := by
  rw [planFromDocuments_eq, planFromDocuments_eq]
  cases hbefore : beforeKeys args limits with
  | error e => rfl
  | ok query =>
    obtain ⟨-, hopened, haddressed⟩ := beforeKeys_eq_ok.mp hbefore
    have hkeys : ∀ keys, query.trustedKeysDoc.get "keys" ≠ some (.arr keys) := by
      intro keys hkeys
      obtain ⟨current, hcurrent⟩ : ∃ current, t.astimezone = .ok current := by
        simpa [Moment.Untimely] using hopened.now t h
      obtain ⟨before, rest, rfl, husable, hstops⟩ := exists_append_stops (UsableItem rt) keys
      exact hasked.false ⟨current, query.manifestDoc, query.trustedKeysDoc, query.signerRef,
        query.signatureHex, before, rest, ⟨t, h, hcurrent⟩, hopened, haddressed, hkeys, husable,
        hstops⟩
    have hload : ∀ w, loadTrustedKeys rt w none query.trustedKeysDoc =
        .error (.verification "trusted key document requires keys array") := by
      intro w
      unfold loadTrustedKeys
      split
      · rename_i keys hget
        exact absurd hget (hkeys keys)
      · rfl
    show (loadTrustedKeys rt clock none query.trustedKeysDoc >>= _) =
      (loadTrustedKeys rt clock' none query.trustedKeysDoc >>= _)
    rw [hload, hload]
    rfl

/-- **When the wall clock makes no difference.** Two runs with the same `--now` end alike iff their
clocks are both in the windows of the keys before the first unusable one or both outside, or the
documents are refused whatever the clock. -/
theorem clockFree_iff {t : Moment} (h : args.now = some t) (clock clock' : UtcTime) :
    outcome (planFromDocuments rt crypto clock args limits) =
        outcome (planFromDocuments rt crypto clock' args limits) ↔
      ∀ asked : Asked rt limits args,
        (InWindows rt asked.before clock ↔ InWindows rt asked.before clock') ∨
          RefusedAnyway crypto asked := by
  constructor
  · intro hsame asked
    by_contra hdiffer
    rw [not_or] at hdiffer
    obtain ⟨hwindows, hrefused⟩ := hdiffer
    have hiff : outcome (planFromDocuments rt crypto clock args limits) = (2, none) ↔
        outcome (planFromDocuments rt crypto clock' args limits) = (2, none) := by rw [hsame]
    rw [asked.refused_iff, asked.refused_iff] at hiff
    simp only [hrefused, or_false] at hiff
    exact hwindows (not_iff_not.mp hiff)
  · intro hfree
    cases isEmpty_or_nonempty (Asked rt limits args) with
    | inl hasked => rw [planFromDocuments_of_not_asked h hasked]
    | inr hasked =>
      obtain ⟨asked⟩ := hasked
      rcases hfree asked with hiff | hrefused
      · by_cases hwindows : InWindows rt asked.before clock
        · exact asked.outcome_eq hwindows (hiff.mp hwindows)
        · rw [asked.refused_iff.mpr (.inl hwindows),
            asked.refused_iff.mpr (.inl fun hwindows' => hwindows (hiff.mpr hwindows'))]
      · rw [asked.refused_iff.mpr (.inr hrefused), asked.refused_iff.mpr (.inr hrefused)]

/-! ### A key that expires with the year -/

/-- The texts of a token for the manifests of `demoIdentity`. -/
def demoTokenFile : JsonFile Int where
  path := "token.json"
  value := .obj (issueEnrollmentTokenPayload pyRuntime (demoBinding "code-1" "nonce-1") "token-1"
    "device")

/-- A key that expires at `newYear`. -/
def expiringEntry : Members Int := [
  ("key_ref", .str "urn:srcos:key:demo"),
  ("algorithm", .str "rsa-pss-sha256"),
  ("public_key_pem", .str demoPem),
  ("not_after", .str "2026-01-01T00:00:00Z")]

/-- A trusted-key document with this key. -/
def expiringKeys : Members Int := [("keys", .arr [.obj expiringEntry])]

/-- The key as it is loaded. -/
def expiringKey : TrustedKey where
  keyRef := "urn:srcos:key:demo"
  algorithm := fipsReadyAlgorithm
  publicKeyPem := demoPem
  status := activeKeyStatus
  notBefore := none
  notAfter := some newYear
  revokedAt := none
  revocationReason := none

/-- A run with `--now 2026-01-01T00:00:00Z` for a manifest with this signature. -/
def newYearRun (signature : List UInt8) : PlanArgs Int where
  manifest := ⟨"manifest.json", .obj
    (manifestMembers "boot-release-set-1" "release-set-1" .installer (hexdigest signature))⟩
  token := demoTokenFile
  trustedKeys := ⟨"trusted-keys.json", .obj expiringKeys⟩
  requireFips := true
  now := some (.aware newYear.toAware)

/-- The signature of the manifest with the key. -/
def newYearSignature : List UInt8 :=
  utf8 demoPem.toList ++ canonicalPayload pyRuntime.num
    (manifestMembers "boot-release-set-1" "release-set-1" .installer "")

/-- A second before `newYear`. -/
def yearEnd : UtcTime := ⟨newYear.micros - 1000000, by decide⟩

theorem expiringKey_fromDict : TrustedKey.fromDict pyRuntime expiringEntry = .ok expiringKey := by
  have htime : parseTime pyRuntime .verification "2026-01-01T00:00:00Z" "not_after" =
      .ok newYear := parseTime_eq_ok.mpr ⟨newYear.toAware, by decide, by decide⟩
  refine TrustedKey.fromDict_eq_ok.mpr ⟨⟨rfl, by decide⟩, rfl, ⟨rfl, by decide⟩, rfl, rfl, rfl, ?_,
    rfl, rfl⟩
  exact map_eq_ok.mpr ⟨newYear, htime, rfl⟩

theorem expiringKeys_loads :
    Loads pyRuntime yearEnd none expiringKeys [("urn:srcos:key:demo", expiringKey)] := by
  refine ⟨_, rfl, .cons (loadEntry_eq_ok.mpr ⟨_, rfl, expiringKey_fromDict, ?_, rfl⟩) .nil⟩
  exact TrustedKey.validateLifecycle_eq_ok.mpr ⟨yearEnd, rfl, rfl, rfl, by decide, by decide⟩

theorem expiringEntry_inWindow {clock : UtcTime} :
    InWindow pyRuntime expiringEntry clock ↔ clock.micros < newYear.micros := by
  have htime : awareTime pyRuntime "2026-01-01T00:00:00Z" = some newYear.toAware := by decide
  constructor
  · exact fun h => h.notAfter _ _ _ rfl htime newYear.toUtc_toAware
  · have hunbounded : expiringEntry.get "not_before" = none := rfl
    refine fun h => ⟨fun text _ _ htext => absurd (hunbounded.symm.trans htext) (by simp), ?_⟩
    intro text t time htext ht hutc
    obtain rfl := Json.str.inj (Option.some.inj htext)
    obtain rfl := Option.some.inj (htime.symm.trans ht)
    obtain rfl := Option.some.inj (newYear.toUtc_toAware.symm.trans hutc)
    exact h

/-- Before the key expires, the run prints a plan. -/
theorem newYearRun_yearEnd {signature : List UInt8} (h : signature = newYearSignature) :
    ∃ plan, planFromDocuments pyRuntime pyCrypto yearEnd (newYearRun signature) = .ok plan := by
  have hhex : blank (hexdigest signature) = false := by
    cases signature with
    | nil => exact absurd h (by decide)
    | cons b bytes => exact blank_hexdigest b bytes
  have htoken := EnrollmentToken.fromDict_eq_ok.mp (fromDict_payload isoInverse_newYear
    (isoInverse_demoExpiry "code-1" "nonce-1") (show blank "token-1" = false by decide)
    (show blank "device" = false by decide))
  have hdoc := manifestFor_doc pyRuntime (show blank "boot-release-set-1" = false by decide)
    (show blank "release-set-1" = false by decide) .installer hhex
  have hverifies : Verifies pyCrypto expiringKey (hexdigest signature)
      (canonicalPayload pyRuntime.num (manifestMembers "boot-release-set-1" "release-set-1"
        .installer (hexdigest signature))) := by
    refine ⟨signature, demoPem, fromhex_hexdigest signature, ?_, by decide, ?_⟩
    · simp only [pyCrypto]
      rw [if_neg (by decide), if_pos (by decide)]
      rfl
    · exact beq_iff_eq.mpr h
  have hauth : Authorises (tokenOf (demoBinding "code-1" "nonce-1") "token-1" "device" :
      EnrollmentToken Int) (manifestFor "boot-release-set-1" "release-set-1" .installer
        (hexdigest signature)) newYear :=
    ⟨rfl, by decide, rfl, rfl, rfl, show TokenPurpose.enroll ∈ purposeByMode .installer by decide⟩
  have hlast : lastFor "urn:srcos:key:demo" [("urn:srcos:key:demo", expiringKey)] =
      some expiringKey := by decide
  exact ⟨_, planFromDocuments_eq_ok.mpr ⟨_, _, _,
    manifestFor "boot-release-set-1" "release-set-1" .installer (hexdigest signature),
    tokenOf (demoBinding "code-1" "nonce-1") "token-1" "device", rfl, rfl, rfl,
    ⟨_, expiringKey, expiringKeys_loads, hlast, hverifies⟩, hdoc, htoken,
    ⟨newYear, currentTime_some_eq_ok.mpr newYear.toUtc_toAware, hauth⟩, rfl⟩⟩

/-- From then on it refuses, with the same `--now`. -/
theorem newYearRun_newYear {signature : List UInt8} {plan : BootPlan} :
    planFromDocuments pyRuntime pyCrypto newYear (newYearRun signature) ≠ .ok plan := by
  intro h
  obtain ⟨_, trustedKeysDoc, _, _, _, -, hkeys, -, hsigned, -⟩ := planFromDocuments_eq_ok.mp h
  obtain rfl := Json.obj.inj hkeys
  obtain ⟨entries, _, hloads, -⟩ := hsigned
  obtain ⟨keys, hkeys, haccepted⟩ := exists_loads_iff.mp ⟨entries, hloads⟩
  obtain rfl := Json.arr.inj (Option.some.inj hkeys)
  obtain ⟨entry, hobj, -, hwindow⟩ := acceptedKey_iff.mp (haccepted _ List.mem_cons_self)
  obtain rfl := Json.obj.inj hobj
  exact absurd (expiringEntry_inWindow.mp hwindow) (by simp)

/-- The verdict depends on the wall clock: a second before the key expires it is a plan, and then it
is not, with the same `--now`. -/
theorem newYearRun_depends :
    outcome (planFromDocuments pyRuntime pyCrypto yearEnd (newYearRun newYearSignature)) ≠
      outcome (planFromDocuments pyRuntime pyCrypto newYear (newYearRun newYearSignature)) := by
  intro h
  obtain ⟨plan, hplan⟩ := newYearRun_yearEnd rfl
  rw [outcome_eq_ok.mpr hplan] at h
  exact newYearRun_newYear (outcome_eq_ok.mp h.symm)

/-- Two seconds of the old year make no difference. -/
theorem newYearRun_oldYear :
    outcome (planFromDocuments pyRuntime pyCrypto yearEnd (newYearRun newYearSignature)) =
      outcome (planFromDocuments pyRuntime pyCrypto ⟨newYear.micros - 2000000, by decide⟩
        (newYearRun newYearSignature)) := by
  refine (clockFree_iff rfl _ _).mpr fun asked => .inl ?_
  have hkeys := asked.keys
  rw [← Json.obj.inj asked.opened.trustedKeys] at hkeys
  have hentry : ∀ entry, .obj entry ∈ asked.before → entry = expiringEntry := by
    intro entry hmem
    have hmem' : .obj entry ∈ asked.before ++ asked.rest := List.mem_append_left _ hmem
    rw [← Json.arr.inj (Option.some.inj hkeys)] at hmem'
    exact Json.obj.inj (List.mem_singleton.mp hmem')
  refine iff_of_true (fun entry hmem => ?_) fun entry hmem => ?_
  · rw [hentry entry hmem]
    exact expiringEntry_inWindow.mpr (by decide)
  · rw [hentry entry hmem]
    exact expiringEntry_inWindow.mpr (by decide)

end Nlboot.Reference
