import Nlboot.Reference.Documents
import Nlboot.Reference.EnrollmentRuns

/-!
# From codes to boot tokens

`issue_enrollment_token_payload` of `src/nlboot/enrollment.py` renders a binding as the document of
an enrollment token, which `EnrollmentToken.from_dict` reads and `validate_for_manifest` judges.

The payload says nothing of the uses a binding has left: its status is always `issued`.

* `IsoInverse`: `fromisoformat` reads back the text `isoformat` writes of a time.
* `tokenOf`: the token of a binding.

Results:
* `fromDict_payload`: the payload of a binding parses as its token.
* **`freshToken_exact`**: the token of a binding that `issue` returned is accepted as long as
  `redeem` accepts the code.
* **`spentRefused_iff`**: when the token of a spent binding authorises no plan.
-/

namespace Nlboot.Reference

open Nlboot.Lib

variable {N K : Type}

/-- `fromisoformat` reads back the text `isoformat` writes of the time, which is not blank and has
no `Z` in it. -/
structure IsoInverse (rt : Runtime N) (t : UtcTime) : Prop where
  inverse : rt.fromisoformat (rt.isoformat t) = some (.aware t.toAware)
  noZulu : 'Z' ∉ (rt.isoformat t).toList
  visible : blank (rt.isoformat t) = false

/-- The token of a binding. -/
def tokenOf (binding : EnrollmentCodeBinding) (tokenId subjectKind : String) :
    EnrollmentToken N where
  tokenId
  purpose := binding.purpose
  subjectKind
  subjectId := some binding.deviceId
  releaseSetRef := some (.str binding.releaseSetRef)
  bootReleaseSetRef := some (.str binding.bootReleaseSetRef)
  oneTimeUse := true
  issuedAt := binding.issuedAt
  expiresAt := binding.expiresAt
  status := .issued

/-- The aware time is before the UTC time: its own UTC time exists and is. -/
def Before (t : AwareTime) (limit : UtcTime) : Prop :=
  ∃ current, t.toUtc = some current ∧ current.micros < limit.micros

/-! ## Timestamps -/

/-- Replacing a text by a character that was not there, and the character by the text. -/
theorem replaceScan_replaceScan {old : List Char} {c : Char} (hold : old ≠ []) :
    ∀ {cs : List Char}, c ∉ cs → ∀ skip,
      replaceScan [c] old 0 (replaceScan old [c] skip cs) = cs.drop skip
  | [], _, skip => by cases skip <;> rfl
  | d :: cs, h, skip + 1 => by
    rw [replaceScan, List.drop_succ_cons]
    exact replaceScan_replaceScan hold (fun hc => h (List.mem_cons_of_mem d hc)) skip
  | d :: cs, h, 0 => by
    have ih := replaceScan_replaceScan hold (fun hc => h (List.mem_cons_of_mem d hc))
    rw [replaceScan, List.drop_zero]
    split_ifs with hprefix
    · obtain ⟨rest, hrest⟩ := List.isPrefixOf_iff_prefix.mp hprefix
      obtain ⟨o, old', rfl⟩ := List.exists_cons_of_ne_nil hold
      obtain ⟨rfl, rfl⟩ := List.cons.inj hrest
      rw [List.singleton_append, replaceScan, if_pos (by simp), List.length_singleton, ih]
      simp
    · have hne : c ≠ d := fun heq => h (heq ▸ List.mem_cons_self)
      rw [replaceScan, if_neg (by simpa using hne), ih, List.drop_zero]

/-- Where the character is not there after the replacement, nothing was replaced. -/
theorem replaceScan_of_notMem {old : List Char} {c : Char} :
    ∀ {cs : List Char}, c ∉ replaceScan old [c] 0 cs → replaceScan old [c] 0 cs = cs
  | [], _ => rfl
  | d :: cs, h => by
    rw [replaceScan] at h ⊢
    split_ifs at h ⊢ with hprefix
    · exact absurd List.mem_cons_self h
    · rw [replaceScan_of_notMem fun hc => h (List.mem_cons_of_mem d hc)]

theorem toList_zuluText (rt : Runtime N) (t : UtcTime) :
    (zuluText rt t).toList = replaceScan "+00:00".toList ['Z'] 0 (rt.isoformat t).toList :=
  String.toList_ofList

theorem blank_zuluText {rt : Runtime N} {t : UtcTime} (h : IsoInverse rt t) :
    blank (zuluText rt t) = false := by
  by_contra hblank
  rw [Bool.not_eq_false, blank, List.all_eq_true] at hblank
  have hno : 'Z' ∉ (zuluText rt t).toList := fun hz => absurd (hblank _ hz) (by decide)
  rw [toList_zuluText] at hno hblank
  rw [replaceScan_of_notMem hno] at hblank
  have hiso : blank (rt.isoformat t) = true := by rwa [blank, List.all_eq_true]
  exact absurd (hiso.symm.trans h.visible) (by simp)

/-- A rendered time parses as the time. -/
theorem awareTime_zuluText {rt : Runtime N} {t : UtcTime} (h : IsoInverse rt t) :
    awareTime rt (zuluText rt t) = some t.toAware := by
  have hback : replace (zuluText rt t) "Z" "+00:00" = rt.isoformat t := by
    have hscan : replaceScan ['Z'] "+00:00".toList 0 (zuluText rt t).toList =
        (rt.isoformat t).toList := by
      rw [toList_zuluText, replaceScan_replaceScan (by decide) h.noZulu, List.drop_zero]
    exact (congrArg String.ofList hscan).trans String.ofList_toList
  unfold awareTime
  rw [hback, h.inverse]

theorem timeField_zuluText {rt : Runtime N} {data : Members N} {key : String} {t : UtcTime}
    (h : IsoInverse rt t) (hget : data.get key = some (.str (zuluText rt t))) :
    TimeField rt data key t :=
  ⟨_, ⟨hget, blank_zuluText h⟩, t.toAware, awareTime_zuluText h, t.toUtc_toAware⟩

/-! ## The payload -/

/-- **The payload of a binding parses** as its token. -/
theorem fromDict_payload {rt : Runtime N} {binding : EnrollmentCodeBinding}
    (hissued : IsoInverse rt binding.issuedAt) (hexpires : IsoInverse rt binding.expiresAt)
    {tokenId subjectKind : String} (hid : blank tokenId = false)
    (hkind : blank subjectKind = false) :
    EnrollmentToken.fromDict rt (issueEnrollmentTokenPayload rt binding tokenId subjectKind) =
      .ok (tokenOf binding tokenId subjectKind) := by
  refine EnrollmentToken.fromDict_eq_ok.mpr
    { tokenId := ⟨rfl, hid⟩
      purpose := ⟨rfl, blank_purpose binding.purpose⟩
      audience := ⟨_, rfl, ⟨rfl, hkind⟩, rfl⟩
      releaseSetRef := rfl
      bootReleaseSetRef := rfl
      oneTimeUse := rfl
      issuedAt := timeField_zuluText hissued rfl
      expiresAt := timeField_zuluText hexpires rfl
      status := ⟨rfl, show blank "issued" = false by decide⟩ }

/-- A payload that parses has a token id and a subject kind. -/
theorem visible_of_fromDict_payload {rt : Runtime N} {binding : EnrollmentCodeBinding}
    {tokenId subjectKind : String} {token : EnrollmentToken N}
    (h : EnrollmentToken.fromDict rt (issueEnrollmentTokenPayload rt binding tokenId subjectKind) =
      .ok token) : blank tokenId = false ∧ blank subjectKind = false := by
  have hdoc := EnrollmentToken.fromDict_eq_ok.mp h
  have hid : some (Json.str tokenId : Json N) = some (.str token.tokenId) := hdoc.tokenId.1
  obtain ⟨audience, haudience, hkind, -⟩ := hdoc.audience
  have hmembers : some (Json.obj [("subject_kind", .str subjectKind),
      ("subject_id", .str binding.deviceId)] : Json N) = some (.obj audience) := haudience
  obtain rfl := Json.obj.inj (Option.some.inj hmembers)
  have htext : some (Json.str subjectKind : Json N) = some (.str token.subjectKind) := hkind.1
  obtain rfl := Json.str.inj (Option.some.inj hid)
  obtain rfl := Json.str.inj (Option.some.inj htext)
  exact ⟨hdoc.tokenId.2, hkind.2⟩

/-- When the token of a binding is accepted at a time. -/
theorem validateForManifest_tokenOf {rt : Runtime N} {clock : UtcTime} {t : AwareTime}
    {binding : EnrollmentCodeBinding} {tokenId subjectKind : String}
    {manifest : SignedBootManifest} :
    (tokenOf binding tokenId subjectKind : EnrollmentToken N).validateForManifest rt clock (some t)
        manifest = .ok () ↔
      Before t binding.expiresAt ∧ binding.bootReleaseSetRef = manifest.bootReleaseSetId ∧
        binding.releaseSetRef = manifest.baseReleaseSetRef ∧
        binding.purpose ∈ purposeByMode manifest.bootMode := by
  simp only [EnrollmentToken.validateForManifest_eq_ok, currentTime_some_eq_ok]
  constructor
  · rintro ⟨current, hcurrent, hauth⟩
    exact ⟨⟨current, hcurrent, hauth.notExpired⟩,
      Json.str.inj (Option.some.inj hauth.bootReleaseSetRef),
      Json.str.inj (Option.some.inj hauth.releaseSetRef), hauth.purpose⟩
  · rintro ⟨⟨current, hcurrent, hexp⟩, hboot, hrel, hpurpose⟩
    exact ⟨current, hcurrent, rfl, hexp, rfl, congrArg (some ∘ Json.str) hboot,
      congrArg (some ∘ Json.str) hrel, hpurpose⟩

/-! ## Fresh bindings -/

/-- The token says what the binding says. -/
structure Renders (binding : EnrollmentCodeBinding) (tokenId subjectKind : String)
    (token : EnrollmentToken N) : Prop where
  tokenId : token.tokenId = tokenId
  purpose : token.purpose = binding.purpose
  subjectKind : token.subjectKind = subjectKind
  subjectId : token.subjectId = some binding.deviceId
  releaseSetRef : token.releaseSetRef = some (.str binding.releaseSetRef)
  bootReleaseSetRef : token.bootReleaseSetRef = some (.str binding.bootReleaseSetRef)
  issuedAt : token.issuedAt = binding.issuedAt
  expiresAt : token.expiresAt = binding.expiresAt

/-- The attempt presents the code and a claim it was issued for, at the time `t`. -/
structure AttemptAt (rt : Runtime N) (crypto : Crypto K) (binding : EnrollmentCodeBinding)
    (code : String) (t : AwareTime) (attempt : RedeemArgs) : Prop where
  code : attempt.code = code
  now : attempt.now = some (.aware t)
  releaseSetRef : attempt.releaseSetRef = binding.releaseSetRef
  possession : ProvesPossession rt crypto attempt.deviceClaim
  nonce : attempt.deviceClaim.nonce = binding.nonce
  deviceId : attempt.deviceClaim.deviceId = binding.deviceId

/-- A fresh code is redeemable as long as it has not expired. -/
theorem admission_fresh_iff {rt : Runtime N} {crypto : Crypto K} {args : IssueArgs}
    {registry registry' : EnrollmentRegistry} {code : String} {binding : EnrollmentCodeBinding}
    (hissue : issue rt crypto args registry = .ok (code, binding) registry') {t : AwareTime}
    {attempt : RedeemArgs} (hattempt : AttemptAt rt crypto binding code t attempt) :
    (∃ r, registry'.admission rt crypto attempt = .ok r) ↔ Before t binding.expiresAt := by
  obtain ⟨hnew, rfl⟩ := issue_eq_ok hissue
  obtain rfl : registry.put binding = registry' := by
    rw [issue_granted hnew] at hissue
    exact (EStateM.Result.ok.inj hissue).2
  obtain ⟨-, -, -, -, -, -, -, -, hbinding⟩ := newBinding_eq_ok.mp hnew
  have hhash : binding.codeHash = hashCode crypto attempt.code := by
    rw [hbinding, hattempt.code]
  have hfind : (registry.put binding).find (hashCode crypto attempt.code) = some binding := by
    rw [EnrollmentRegistry.find_put, if_pos hhash.symm]
  have hspent : binding.isSpent = false := by
    rw [hbinding]
    rfl
  constructor
  · rintro ⟨⟨current, found⟩, hadmit⟩
    obtain ⟨-, hcurrent, hfound, -, hvalid⟩ := admission_eq_ok.mp hadmit
    obtain rfl := Option.some.inj (hfind.symm.trans hfound)
    rw [hattempt.now, currentTime_some_eq_ok] at hcurrent
    exact ⟨current, hcurrent, hvalid.notExpired⟩
  · rintro ⟨current, hcurrent, hexp⟩
    refine ⟨(current, binding), admission_eq_ok.mpr ⟨?_, ?_, hfind, hspent, hexp,
      hattempt.releaseSetRef, hattempt.possession, hattempt.nonce, hattempt.deviceId⟩⟩
    · rw [hattempt.code]
      exact args.draw.nonempty
    · rw [hattempt.now, currentTime_some_eq_ok]
      exact hcurrent

/-- **The bridge is exact for fresh bindings.** The payload of a binding that `issue` returned
parses as a token that says what the binding says. At every time it is accepted for a manifest iff
the binding has not expired, the references are the manifest's and the purpose is one of its boot
mode; and as far as time goes, that is when `redeem` accepts the code. -/
theorem freshToken_exact {rt : Runtime N} {crypto : Crypto K} {args : IssueArgs}
    {registry registry' : EnrollmentRegistry} {code : String} {binding : EnrollmentCodeBinding}
    (hissue : issue rt crypto args registry = .ok (code, binding) registry')
    (hissued : IsoInverse rt binding.issuedAt) (hexpires : IsoInverse rt binding.expiresAt)
    {tokenId subjectKind : String} (hid : blank tokenId = false)
    (hkind : blank subjectKind = false) :
    ∃ token, EnrollmentToken.fromDict rt
        (issueEnrollmentTokenPayload rt binding tokenId subjectKind) = .ok token ∧
      Renders binding tokenId subjectKind token ∧
      ∀ t : AwareTime,
        (∀ clock manifest, token.validateForManifest rt clock (some (.aware t)) manifest = .ok () ↔
          Before t binding.expiresAt ∧ binding.bootReleaseSetRef = manifest.bootReleaseSetId ∧
            binding.releaseSetRef = manifest.baseReleaseSetRef ∧
            binding.purpose ∈ purposeByMode manifest.bootMode) ∧
        ∀ attempt, AttemptAt rt crypto binding code t attempt →
          ((∃ r, registry'.admission rt crypto attempt = .ok r) ↔ Before t binding.expiresAt) :=
  ⟨_, fromDict_payload hissued hexpires hid hkind, ⟨rfl, rfl, rfl, rfl, rfl, rfl, rfl, rfl⟩,
    fun _ => ⟨fun _ _ => validateForManifest_tokenOf, fun _ => admission_fresh_iff hissue⟩⟩

/-! ## Spent bindings -/

/-- Every purpose is one of some boot mode. -/
theorem exists_mode_of_purpose (p : TokenPurpose) : ∃ mode, p ∈ purposeByMode mode := by
  cases p with
  | enroll => exact ⟨.installer, by decide⟩
  | boot => exact ⟨.ephemeral, by decide⟩
  | repair => exact ⟨.recovery, by decide⟩
  | recovery => exact ⟨.recovery, by decide⟩

/-- The payload is no token, or the token is refused for every manifest at every time. -/
def RefusedEverywhere (rt : Runtime N) (binding : EnrollmentCodeBinding)
    (tokenId subjectKind : String) : Prop :=
  ∀ token, EnrollmentToken.fromDict rt
      (issueEnrollmentTokenPayload rt binding tokenId subjectKind) = .ok token →
    ∀ data manifest, ManifestDoc rt data manifest →
      ∀ clock now, token.validateForManifest rt clock now manifest ≠ .ok ()

/-- A binding of the registry expires after it was issued. -/
theorem issuedAt_lt_expiresAt {crypto : Crypto K} {rt : Runtime N} {calls : List (Call crypto)}
    {codeHash : String} {binding : EnrollmentCodeBinding}
    (h : (stateAfter rt calls).find codeHash = some binding) :
    binding.issuedAt.micros < binding.expiresAt.micros := by
  obtain ⟨_, args, _, -, hnew⟩ := exists_issue_of_find h
  obtain ⟨-, httl, -, -, -, -, -, hexpires, -⟩ := newBinding_eq_ok.mp hnew
  exact (UtcTime.lt_addSeconds_iff hexpires).mpr httl

/-- A token authorises a plan as soon as nothing of it is blank. -/
theorem not_refusedEverywhere {rt : Runtime N} {binding : EnrollmentCodeBinding}
    {tokenId subjectKind : String}
    (hissued : IsoInverse rt binding.issuedAt) (hexpires : IsoInverse rt binding.expiresAt)
    (htime : binding.issuedAt.micros < binding.expiresAt.micros)
    (hid : blank tokenId = false) (hkind : blank subjectKind = false)
    (hrel : blank binding.releaseSetRef = false) (hboot : blank binding.bootReleaseSetRef = false) :
    ¬ RefusedEverywhere rt binding tokenId subjectKind := by
  intro h
  obtain ⟨mode, hpurpose⟩ := exists_mode_of_purpose binding.purpose
  refine h _ (fromDict_payload hissued hexpires hid hkind) _ _ (manifestFor_doc rt hboot hrel mode
      (show blank "00" = false by decide))
    binding.issuedAt (some binding.issuedAt.toAware) (validateForManifest_tokenOf.mpr ?_)
  exact ⟨⟨_, binding.issuedAt.toUtc_toAware, htime⟩, rfl, rfl, hpurpose⟩

/-- **When a binding authorises no plan.** The token rendered from a binding of the registry is
refused for every manifest at every time iff its id, its subject kind or one of its references is
blank, whether the code was redeemed or not: the payload does not say. -/
theorem spentRefused_iff {crypto : Crypto K} {rt : Runtime N} {calls : List (Call crypto)}
    {code : String} {binding : EnrollmentCodeBinding}
    (hfind : (stateAfter rt calls).bindingFor crypto code = some binding)
    (hissued : IsoInverse rt binding.issuedAt) (hexpires : IsoInverse rt binding.expiresAt)
    (tokenId subjectKind : String) :
    RefusedEverywhere rt binding tokenId subjectKind ↔
      blank tokenId = true ∨ blank subjectKind = true ∨ blank binding.releaseSetRef = true ∨
        blank binding.bootReleaseSetRef = true := by
  constructor
  · intro h
    by_contra hvisible
    simp only [not_or, Bool.not_eq_true] at hvisible
    obtain ⟨hid, hkind, hrel, hboot⟩ := hvisible
    exact not_refusedEverywhere hissued hexpires (issuedAt_lt_expiresAt hfind) hid hkind hrel hboot
      h
  · intro hblank token htoken data manifest hdoc clock now hvalid
    obtain ⟨hid, hkind⟩ := visible_of_fromDict_payload htoken
    rw [fromDict_payload hissued hexpires hid hkind] at htoken
    obtain rfl := Except.ok.inj htoken
    obtain ⟨current, -, hauth⟩ := EnrollmentToken.validateForManifest_eq_ok.mp hvalid
    have hboot := Json.str.inj (Option.some.inj hauth.bootReleaseSetRef)
    have hrel := Json.str.inj (Option.some.inj hauth.releaseSetRef)
    rw [hid, hkind, hboot, hrel, hdoc.baseReleaseSetRef.2, hdoc.bootReleaseSetId.2] at hblank
    simp at hblank

/-! ### The code of `demoIdentity` -/

theorem isoInverse_newYear : IsoInverse pyRuntime newYear :=
  ⟨by decide, by decide, by decide⟩

theorem isoInverse_demoExpiry (code nonce : String) :
    IsoInverse pyRuntime (demoBinding code nonce).expiresAt := by
  have h : IsoInverse pyRuntime ⟨newYear.micros + 900000000, by decide⟩ :=
    ⟨by decide, by decide, by decide⟩
  exact h

/-- The bridge at the code of `demoIdentity`. -/
theorem demoToken_exact :
    ∃ token, EnrollmentToken.fromDict pyRuntime (issueEnrollmentTokenPayload pyRuntime
        (demoBinding "code-1" "nonce-1") "token-1" "device") = .ok token ∧
      Renders (demoBinding "code-1" "nonce-1") "token-1" "device" token := by
  have hissue : issue pyRuntime pyCrypto (demoIssue code1 "nonce-1") .empty = _ :=
    issue_granted (code1_granted "nonce-1")
  have hid : blank "token-1" = false := by decide
  have hkind : blank "device" = false := by decide
  obtain ⟨token, htoken, hrenders, -⟩ :=
    freshToken_exact hissue isoInverse_newYear (isoInverse_demoExpiry _ _) hid hkind
  exact ⟨token, htoken, hrenders⟩

/-- The first midnight of the calendar, an hour ahead of UTC. -/
def firstMidnight : AwareTime := ⟨0, 3600000000, by decide, by decide⟩

/-- A time before the expiry at which the token is refused: it has no UTC `datetime`. -/
theorem firstMidnight_refused :
    ∃ (token : EnrollmentToken Int) (data : Members Int) (manifest : SignedBootManifest),
      EnrollmentToken.fromDict pyRuntime (issueEnrollmentTokenPayload pyRuntime
        (demoBinding "code-1" "nonce-1") "token-1" "device") = .ok token ∧
      ManifestDoc pyRuntime data manifest ∧
      firstMidnight.instant < (demoBinding "code-1" "nonce-1").expiresAt.micros ∧
      (demoBinding "code-1" "nonce-1").bootReleaseSetRef = manifest.bootReleaseSetId ∧
      (demoBinding "code-1" "nonce-1").releaseSetRef = manifest.baseReleaseSetRef ∧
      (demoBinding "code-1" "nonce-1").purpose ∈ purposeByMode manifest.bootMode ∧
      token.validateForManifest pyRuntime newYear (some firstMidnight) manifest ≠ .ok () := by
  have hdoc : ManifestDoc pyRuntime
      (manifestMembers "boot-release-set-1" "release-set-1" .installer "00") _ :=
    manifestFor_doc pyRuntime (by decide) (by decide) .installer (by decide)
  refine ⟨_, _, _, fromDict_payload isoInverse_newYear (isoInverse_demoExpiry _ _) (by decide)
    (by decide), hdoc, by decide, rfl, rfl, by decide, fun h => ?_⟩
  obtain ⟨⟨current, hcurrent, -⟩, -⟩ := validateForManifest_tokenOf.mp h
  have hnone : firstMidnight.toUtc = none := by decide
  exact absurd (hnone.symm.trans hcurrent) (by simp)

/-- A code of `demoIdentity` is issued and redeemed. -/
def redeemedCalls : List (Call pyCrypto) :=
  [.issue (demoIssue code1 "nonce-1"), .redeem (demoAttempt "code-1" "nonce-1" 300)]

theorem redeemed_bindingFor : (stateAfter pyRuntime redeemedCalls).bindingFor pyCrypto "code-1" =
    some (demoBinding "code-1" "nonce-1").spend := by
  let registry := EnrollmentRegistry.empty.put (demoBinding "code-1" "nonce-1")
  have hissue : stateAfter pyRuntime ([] ++ [.issue (demoIssue code1 "nonce-1")]) = registry :=
    stateAfter_issue (code1_granted "nonce-1")
  have hadmit : registry.admission pyRuntime pyCrypto (demoAttempt "code-1" "nonce-1" 300) =
      .ok (newYear, demoBinding "code-1" "nonce-1") := demoAttempt_admitted 300
  have hstate : stateAfter pyRuntime redeemedCalls =
      registry.put (demoBinding "code-1" "nonce-1").spend := by
    rw [show redeemedCalls = ([] ++ [.issue (demoIssue code1 "nonce-1")]) ++
      [.redeem (demoAttempt "code-1" "nonce-1" 300)] from rfl, stateAfter_snoc, hissue]
    show resultState (redeem pyRuntime pyCrypto (demoAttempt "code-1" "nonce-1" 300) registry) = _
    rw [redeem_state, hadmit]
  rw [hstate]
  exact (EnrollmentRegistry.find_put _ _ _).trans (if_pos rfl)

/-- The redeemed code is spent, and its token still authorises a plan. -/
theorem redeemedToken_accepted :
    ∃ binding, (stateAfter pyRuntime redeemedCalls).bindingFor pyCrypto "code-1" = some binding ∧
      binding.isSpent = true ∧ ¬ RefusedEverywhere pyRuntime binding "token-1" "device" :=
  ⟨_, redeemed_bindingFor, by decide,
    not_refusedEverywhere isoInverse_newYear (isoInverse_demoExpiry "code-1" "nonce-1")
      (by decide) (by decide) (by decide) (by decide) (by decide)⟩

/-- Without a token id the payload is no token. -/
theorem redeemedToken_unnamed :
    RefusedEverywhere pyRuntime (demoBinding "code-1" "nonce-1").spend "" "device" :=
  (spentRefused_iff redeemed_bindingFor isoInverse_newYear
    (isoInverse_demoExpiry "code-1" "nonce-1") "" "device").mpr (.inl (by decide))

end Nlboot.Reference
