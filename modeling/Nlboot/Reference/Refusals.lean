import Nlboot.Reference.Cli
import Nlboot.Reference.Device
import Nlboot.Reference.KeyLifecycle

/-!
# What leaves the parsers

A parser of `protocol.py`, `device.py` or `verify.py` returns or raises the error of its own module.
Three operations raise something else: `astimezone` on a timestamp whose instant is no `datetime` in
UTC raises `OverflowError`, membership of a list or an object in the set of key statuses raises
`TypeError`, and `str` of an artifact that is nested too deep or has too long an integer in it
raises `RecursionError` or `ValueError`. No `except` clause of the parsers names these.

* `OutOfRange`, `StringOutOfRange`, `Unhashable`: the members that do it.
* `ManifestStrays`, `TokenStrays`, `ClaimStrays`, `EntryStrays`, `KeysStray`: the documents in which
  a parser comes to one of them.

Results:
* `strays_manifest`, `strays_token`, `strays_claim`, **`strays_trustedKeys`**: what leaves each
  parser.
-/

namespace Nlboot.Reference

open Nlboot.Lib

variable {N K : Type} {rt : Runtime N} {crypto : Crypto K} {clock : UtcTime}

/-! ## The errors of the modules -/

/-- The error is an `NlbootError`. -/
def PyError.IsNlboot (e : PyError) : Prop := ∃ message, e = .nlboot message

/-- The error is a `VerificationError`. -/
def PyError.IsVerification (e : PyError) : Prop := ∃ message, e = .verification message

/-- A class of errors with those of a module in it, but none of `OverflowError`, `TypeError` and
`RecursionError`. -/
structure OwnErrors (own : PyError → Prop) (raise : String → PyError) : Prop where
  raised : ∀ message, own (raise message)
  overflow : ¬ own .overflow
  type : ¬ own .type
  recursion : ¬ own .recursion

theorem ownErrors_nlboot : OwnErrors PyError.IsNlboot .nlboot where
  raised message := ⟨message, rfl⟩
  overflow h := absurd h.choose_spec (by simp)
  type h := absurd h.choose_spec (by simp)
  recursion h := absurd h.choose_spec (by simp)

theorem ownErrors_verification : OwnErrors PyError.IsVerification .verification where
  raised message := ⟨message, rfl⟩
  overflow h := absurd h.choose_spec (by simp)
  type h := absurd h.choose_spec (by simp)
  recursion h := absurd h.choose_spec (by simp)

theorem ownErrors_device : OwnErrors PyError.IsDevice .device where
  raised message := ⟨message, rfl⟩
  overflow h := absurd h.choose_spec (by simp)
  type h := absurd h.choose_spec (by simp)
  recursion h := absurd h.choose_spec (by simp)

theorem Exceeded.not_isNlboot (reason : Exceeded) : ¬ reason.error.IsNlboot := by
  rintro ⟨_, h⟩
  cases reason <;> exact absurd h (by simp [Exceeded.error])

theorem PyError.not_isVerification_value : ¬ PyError.value.IsVerification :=
  fun h => absurd h.choose_spec (by simp)

/-! ## Members -/

/-- The instant is no `datetime` in UTC. -/
def AwareTime.Extreme (t : AwareTime) : Prop := ¬ InRange t.instant

/-- The member is a text that is not blank, of a time with an offset whose instant is extreme. -/
def OutOfRange (rt : Runtime N) (data : Members N) (key : String) : Prop :=
  ∃ text, TextField data key text ∧ ∃ t, awareTime rt text = some t ∧ t.Extreme

/-- The member is a string of a time with an offset whose instant is extreme. -/
def StringOutOfRange (rt : Runtime N) (value : Option (Json N)) : Prop :=
  ∃ text, value = some (.str text) ∧ ∃ t, awareTime rt text = some t ∧ t.Extreme

/-- The member is a list or an object, which no set can be asked for. -/
def Unhashable (value : Option (Json N)) : Prop :=
  ∃ v, value = some v ∧ ((∃ items, v = .arr items) ∨ ∃ members, v = .obj members)

theorem toUtc_eq_none {t : AwareTime} : t.toUtc = none ↔ t.Extreme := by
  unfold AwareTime.toUtc AwareTime.Extreme
  split_ifs with h <;> simp [h]

section

variable {own : PyError → Prop} {raise : String → PyError} (hown : OwnErrors own raise)

include hown in
theorem own_requireString {data : Members N} {key : String} :
    ¬ Strays own (requireString raise data key) := by
  unfold requireString
  split <;> simp [hown.raised]

theorem own_literal {α : Type} {all : List α} {text : α → String} {error : PyError} {s : String}
    (herror : own error) : ¬ Strays own (literal all text error s) := by
  unfold literal
  split <;> simp [herror]

include hown in
theorem strays_parseTime {text key : String} :
    Strays own (parseTime rt raise text key) ↔ ∃ t, awareTime rt text = some t ∧ t.Extreme := by
  unfold parseTime awareTime
  rcases rt.fromisoformat (replace text "Z" "+00:00") with _ | ⟨w⟩ | ⟨t⟩
  · simp [hown.raised]
  · simp [hown.raised]
  · simp only [Option.some.injEq, exists_eq_left', ← toUtc_eq_none]
    cases t.toUtc <;> simp [hown.overflow]

include hown in
/-- The two errors of `astimezone`. -/
theorem strays_astimezone {t : Moment} : Strays own t.astimezone ↔
    t.astimezone = .error .overflow ∨ t.astimezone = .error .value ∧ ¬ own .value := by
  have hutc : ∀ t : AwareTime, Strays own (orThrow PyError.overflow t.toUtc) ↔
      orThrow PyError.overflow t.toUtc = .error .overflow ∨
        orThrow PyError.overflow t.toUtc = .error .value ∧ ¬ own .value := by
    intro t
    cases t.toUtc <;> simp [orThrow, hown.overflow]
  unfold Moment.astimezone
  rcases t with t | _ | t
  · exact hutc t
  · simp [throw, throwThe, MonadExceptOf.throw]
  · exact hutc t

theorem Moment.untimely_iff {t : Moment} :
    t.Untimely ↔ t.astimezone = .error .overflow ∨ t.astimezone = .error .value := by
  have hstray := strays_astimezone (t := t) ownErrors_nlboot
  have hvalue : ¬ PyError.value.IsNlboot := Exceeded.digits.not_isNlboot
  simp only [hvalue, not_false_eq_true, and_true] at hstray
  rw [← hstray]
  constructor
  · intro h
    obtain ⟨e, he⟩ := exists_error_of_ne_ok h
    refine ⟨e, he, ?_⟩
    rintro ⟨message, rfl⟩
    exact absurd (t.ofPackage_of_astimezone he) (by simp [PyError.ofPackage])
  · rintro ⟨e, he, -⟩ u hu
    exact absurd (hu.symm.trans he) (by simp)

include hown in
theorem strays_currentTime {now : Option Moment} (hvalue : ∀ t ∈ now, ¬ own .value) :
    Strays own (currentTime clock now) ↔ ∃ t ∈ now, t.Untimely := by
  unfold currentTime
  cases now with
  | none => simp
  | some t => simp [strays_astimezone hown, Moment.untimely_iff, hvalue t rfl]

end

/-! ## Manifests -/

theorem own_boolField {own : PyError → Prop} {error : PyError} (herror : own error)
    {value : Option (Json N)} : ¬ Strays own (boolField error value) := by
  unfold boolField
  split <;> simp [herror]

section

variable {own : PyError → Prop} (hown : OwnErrors own .nlboot)

include hown

theorem own_entry {data : Members N} :
    ¬ Strays own (BootMenuEntry.fromDict rt data) := by
  unfold BootMenuEntry.fromDict
  simp [own_requireString hown, own_literal (hown.raised _), own_boolField (hown.raised _),
    hown.raised]

theorem own_readEntries (items : List (Json N)) : ∀ entries : List BootMenuEntry,
    ¬ Strays own (BootMenu.readEntries rt items entries) := by
  induction items with
  | nil => simp [BootMenu.readEntries]
  | cons item items ih =>
    intro entries
    cases item with
    | obj data => simp [BootMenu.readEntries, own_entry hown, ih, hown.raised]
    | null | bool | num | str | arr => simp [BootMenu.readEntries, hown.raised]

theorem own_menu {data : Members N} : ¬ Strays own (BootMenu.fromDict rt data) := by
  unfold BootMenu.fromDict
  simp only [strays_bind, own_requireString hown, false_or, not_exists, not_and]
  intro menuId _ defaultEntryId _
  split
  · simp [own_readEntries hown, hown.raised]
  · simp [hown.raised]

theorem own_defaultEntry {menu : BootMenu} : ¬ Strays own menu.defaultEntry := by
  unfold BootMenu.defaultEntry
  split <;> simp [hown.raised]

theorem own_validateForManifest {menu : BootMenu} {manifest : SignedBootManifest} :
    ¬ Strays own (menu.validateForManifest manifest) := by
  unfold BootMenu.validateForManifest
  simp [own_defaultEntry hown, hown.raised]

theorem own_menuField {value : Option (Json N)} :
    ¬ Strays own (menuField rt value) := by
  unfold menuField
  split <;> simp [own_menu hown, hown.raised]

theorem own_artifactsField {value : Option (Json N)} :
    ¬ Strays own (artifactsField value) := by
  unfold artifactsField
  split <;> simp [hown.raised]

/-- The manifest parser comes to an artifact that `str` fails on: every member is as it should be,
and the first such artifact exceeds a limit for this reason. -/
structure ManifestStrays (limits : Limits N) (data : Members N) (reason : Exceeded) : Prop where
  manifestId : ∃ text, TextField data "manifest_id" text
  bootReleaseSetId : ∃ text, TextField data "boot_release_set_id" text
  baseReleaseSetRef : ∃ text, TextField data "base_release_set_ref" text
  signatureRef : ∃ text, TextField data "signature_ref" text ∧
    startswith text "urn:srcos:signature:" = true
  signerRef : ∃ text, TextField data "signer_ref" text
  signatureAlgorithm : TextField data "signature_algorithm" fipsReadyAlgorithm
  cryptoProfile : TextField data "crypto_profile" fipsReadyProfile
  signatureHex : ∃ text, TextField data "signature_hex" text
  bootMode : ∃ mode : BootMode, TextField data "boot_mode" mode.text
  bootMenu : ∃ menu, MenuField data menu
  artifacts : ∃ artifacts, ArtifactsField data artifacts ∧ limits.artifacts artifacts = some reason

/-- **What leaves the manifest parser**: what `str` of an artifact raises. -/
theorem strays_manifest {limits : Limits N} {data : Members N} :
    Strays own (SignedBootManifest.fromDict rt data limits) ↔
      ∃ reason, ManifestStrays limits data reason ∧ ¬ own reason.error := by
  unfold SignedBootManifest.fromDict
  simp only [strays_bind, own_requireString hown, own_literal (hown.raised _), own_menuField hown,
    own_artifactsField hown, strays_check, hown.raised, not_true_eq_false, and_false, false_or,
    strays_within, requireString_iff, check_eq_ok, bootMode_literal,
    artifactsField_iff, menuField_iff]
  constructor
  · rintro ⟨_, hid, _, hrelease, _, hbase, _, href, _, hsigner, _, halg, _, hprof, _, hhex, _, rfl,
      _, rfl, _, hmode, mode, rfl, artifacts, hart, _, hurn, menu, hmenu,
      ⟨reason, hreason, hstrays⟩ | ⟨_, -, hrest⟩⟩
    case inr =>
      refine absurd hrest ?_
      cases menu <;> simp [own_validateForManifest hown]
    exact ⟨reason, ⟨⟨_, hid⟩, ⟨_, hrelease⟩, ⟨_, hbase⟩, ⟨_, href, hurn⟩, ⟨_, hsigner⟩, halg, hprof,
      ⟨_, hhex⟩, ⟨mode, hmode⟩, ⟨menu, hmenu⟩, artifacts, hart, hreason⟩, hstrays⟩
  · rintro ⟨reason, h, hstrays⟩
    obtain ⟨_, hid⟩ := h.manifestId
    obtain ⟨_, hrelease⟩ := h.bootReleaseSetId
    obtain ⟨_, hbase⟩ := h.baseReleaseSetRef
    obtain ⟨_, href, hurn⟩ := h.signatureRef
    obtain ⟨_, hsigner⟩ := h.signerRef
    obtain ⟨_, hhex⟩ := h.signatureHex
    obtain ⟨mode, hmode⟩ := h.bootMode
    obtain ⟨menu, hmenu⟩ := h.bootMenu
    obtain ⟨artifacts, hart, hreason⟩ := h.artifacts
    exact ⟨_, hid, _, hrelease, _, hbase, _, href, _, hsigner, _, h.signatureAlgorithm, _,
      h.cryptoProfile, _, hhex, (), rfl, (), rfl, _, hmode, mode, rfl, artifacts, hart, (), hurn,
      menu, hmenu, .inl ⟨reason, hreason, hstrays⟩⟩

/-! ## Tokens -/

theorem own_audienceField {value : Option (Json N)} :
    ¬ Strays own (audienceField value) := by
  have hid : ∀ value : Option (Json N), ¬ Strays own (subjectIdField value) := by
    intro value
    unfold subjectIdField
    split <;> simp [hown.raised]
  unfold audienceField
  split
  · simp [own_requireString hown, hid]
  · simp [hown.raised]

theorem own_oneTimeUseField {value : Option (Json N)} :
    ¬ Strays own (oneTimeUseField value) := by
  unfold oneTimeUseField
  split <;> simp [hown.raised]

/-- The token parser comes to a timestamp that is out of range. -/
structure TokenStrays (rt : Runtime N) (data : Members N) : Prop where
  tokenId : ∃ text, TextField data "token_id" text
  purpose : ∃ purpose : TokenPurpose, TextField data "purpose" purpose.text
  audience : ∃ kind id, AudienceField data kind id
  time : OutOfRange rt data "issued_at" ∨
    (∃ time, TimeField rt data "issued_at" time) ∧ OutOfRange rt data "expires_at"

/-- **What leaves the token parser**: `OverflowError`, where it comes to such a timestamp. -/
theorem strays_token {data : Members N} :
    Strays own (EnrollmentToken.fromDict rt data) ↔ TokenStrays rt data := by
  unfold EnrollmentToken.fromDict
  simp only [strays_bind, own_requireString hown, own_literal (hown.raised _),
    own_audienceField hown,
    own_oneTimeUseField hown, strays_pure, strays_parseTime hown,
    requireString_iff, purpose_literal, parseTime_eq_ok, audienceField_iff, and_false, exists_false,
    or_false, false_or]
  constructor
  · rintro ⟨_, hid, _, hpurpose, purpose, rfl, audience, haudience, issued, hissued, htime⟩
    refine ⟨⟨_, hid⟩, ⟨purpose, hpurpose⟩, ⟨_, _, haudience⟩, ?_⟩
    obtain hlate | ⟨time, ht, expires, hexpires, hlate⟩ := htime
    · exact .inl ⟨issued, hissued, hlate⟩
    · exact .inr ⟨⟨time, issued, hissued, ht⟩, expires, hexpires, hlate⟩
  · rintro ⟨⟨_, hid⟩, ⟨purpose, hpurpose⟩, ⟨kind, id, haudience⟩, htime⟩
    refine ⟨_, hid, _, hpurpose, purpose, rfl, (kind, id), haudience, ?_⟩
    obtain ⟨issued, hissued, hlate⟩ | ⟨⟨time, issued, hissued, ht⟩, expires, hexpires, hlate⟩ :=
      htime
    · exact ⟨issued, hissued, .inl hlate⟩
    · exact ⟨issued, hissued, .inr ⟨time, ht, expires, hexpires, hlate⟩⟩

end

/-! ## Claims -/

/-- The claim parser comes to a timestamp that is out of range. -/
structure ClaimStrays (rt : Runtime N) (data : Members N) : Prop where
  deviceId : ∃ text, TextField data "device_id" text
  publicKeyPem : ∃ text, TextField data "public_key_pem" text
  nonce : ∃ text, TextField data "nonce" text
  time : OutOfRange rt data "claimed_at"

/-- **What leaves the claim parser**: `OverflowError`, where it comes to such a timestamp. -/
theorem strays_claim {own : PyError → Prop} (hown : OwnErrors own .device) {data : Members N} :
    Strays own (DeviceClaim.fromDict rt data) ↔ ClaimStrays rt data := by
  unfold DeviceClaim.fromDict
  simp only [strays_bind, own_requireString hown, strays_check, hown.raised, not_true_eq_false,
    strays_pure, strays_parseTime hown, requireString_iff, and_false,
    exists_false, or_false, false_or]
  constructor
  · rintro ⟨_, hid, _, hpem, _, hnonce, text, htext, hlate⟩
    exact ⟨⟨_, hid⟩, ⟨_, hpem⟩, ⟨_, hnonce⟩, text, htext, hlate⟩
  · rintro ⟨⟨_, hid⟩, ⟨_, hpem⟩, ⟨_, hnonce⟩, text, htext, hlate⟩
    exact ⟨_, hid, _, hpem, _, hnonce, text, htext, hlate⟩

/-! ## Trusted keys -/

/-- The key parser comes to a status no set can be asked for, or to a timestamp that is out of
range, or the key is complete and the time it is judged at is out of range. -/
structure EntryStrays (rt : Runtime N) (now : Option Moment) (entry : Members N) : Prop where
  keyRef : ∃ ref, entry.get "key_ref" = some (.str ref) ∧ ref ≠ ""
  algorithm : entry.get "algorithm" = some (.str fipsReadyAlgorithm)
  publicKeyPem : ∃ pem, entry.get "public_key_pem" = some (.str pem) ∧
    contains pem "BEGIN PUBLIC KEY" = true
  stuck : Unhashable (entry.get "status") ∨
    (∃ status, keyStatus (entry.get "status") = .ok status) ∧
      ¬ WrongType (entry.get "revocation_reason") ∧
      (StringOutOfRange rt (entry.get "not_before") ∨ TimeOrNothing rt (entry.get "not_before") ∧
        (StringOutOfRange rt (entry.get "not_after") ∨ TimeOrNothing rt (entry.get "not_after") ∧
          (StringOutOfRange rt (entry.get "revoked_at") ∨
            TimeOrNothing rt (entry.get "revoked_at") ∧ ∃ t ∈ now, t.Untimely)))

theorem optionalTime_isOk {value : Option (Json N)} (field : String) :
    (∃ o, optionalTime rt value field = .ok o) ↔ TimeOrNothing rt value := by
  have hiff : (∃ o, optionalTime rt value field = .ok o ∧ ∀ time ∈ o, True) ↔ _ :=
    optionalTime_isOk_iff field
  simpa [TimeOrNothing] using hiff

/-- What `from_dict` of a key returns, if anything. -/
theorem trustedKey_isOk {entry : Members N} :
    (∃ key, TrustedKey.fromDict rt entry = .ok key) ↔
      (∃ ref, entry.get "key_ref" = some (.str ref) ∧ ref ≠ "") ∧
      entry.get "algorithm" = some (.str fipsReadyAlgorithm) ∧
      (∃ pem, entry.get "public_key_pem" = some (.str pem) ∧
        contains pem "BEGIN PUBLIC KEY" = true) ∧
      (∃ status, keyStatus (entry.get "status") = .ok status) ∧
      ¬ WrongType (entry.get "revocation_reason") ∧ TimeOrNothing rt (entry.get "not_before") ∧
      TimeOrNothing rt (entry.get "not_after") ∧ TimeOrNothing rt (entry.get "revoked_at") := by
  constructor
  · rintro ⟨key, hkey⟩
    obtain ⟨href, halg, hpem, hstatus, hreason, hnotBefore, hnotAfter, hrevoked, -⟩ :=
      TrustedKey.fromDict_eq_ok.mp hkey
    exact ⟨⟨_, href⟩, halg, ⟨_, hpem⟩, ⟨_, hstatus⟩, reasonField_isOk_iff.mp ⟨_, hreason⟩,
      (optionalTime_isOk _).mp ⟨_, hnotBefore⟩, (optionalTime_isOk _).mp ⟨_, hnotAfter⟩,
      (optionalTime_isOk _).mp ⟨_, hrevoked⟩⟩
  · rintro ⟨⟨ref, href⟩, halg, ⟨pem, hpem⟩, ⟨status, hstatus⟩, hreason, hnotBefore, hnotAfter,
      hrevoked⟩
    obtain ⟨reason, hreason⟩ := reasonField_isOk_iff.mpr hreason
    obtain ⟨notBefore, hnotBefore⟩ := (optionalTime_isOk "not_before").mpr hnotBefore
    obtain ⟨notAfter, hnotAfter⟩ := (optionalTime_isOk "not_after").mpr hnotAfter
    obtain ⟨revokedAt, hrevoked⟩ := (optionalTime_isOk "revoked_at").mpr hrevoked
    let key : TrustedKey :=
      { keyRef := ref, algorithm := fipsReadyAlgorithm, publicKeyPem := pem, status, notBefore,
        notAfter, revokedAt, revocationReason := reason }
    exact ⟨key, TrustedKey.fromDict_eq_ok.mpr ⟨href, halg, hpem, hstatus, hreason, hnotBefore,
      hnotAfter, hrevoked, rfl⟩⟩

theorem own_nonEmptyString {own : PyError → Prop} {error : PyError} (herror : own error)
    {value : Option (Json N)} : ¬ Strays own (nonEmptyString error value) := by
  unfold nonEmptyString
  split <;> simp [herror]

section

variable {own : PyError → Prop} (hown : OwnErrors own .verification)

include hown

theorem strays_keyStatus {value : Option (Json N)} :
    Strays own (keyStatus value) ↔ Unhashable value := by
  unfold keyStatus Unhashable
  split
  · simp
  · simp [hown.raised]
  · simp [hown.type]
  · simp [hown.type]
  · rename_i v hstr harr hobj
    simp only [strays_throw, hown.raised, not_true_eq_false, Option.some.injEq, exists_eq_left',
      false_iff, not_or, not_exists]
    exact ⟨fun items h => harr items (h ▸ rfl), fun members h => hobj members (h ▸ rfl)⟩

theorem own_reasonField {value : Option (Json N)} :
    ¬ Strays own (reasonField value) := by
  unfold reasonField
  split <;> simp [hown.raised]

theorem strays_optionalTime {value : Option (Json N)} {field : String} :
    Strays own (optionalTime rt value field) ↔ StringOutOfRange rt value := by
  unfold optionalTime StringOutOfRange
  split
  · simp [strays_parseTime hown]
  · rename_i hne
    simp only [strays_pure, false_iff]
    rintro ⟨text, h, -⟩
    exact hne text h

theorem own_trustedPem {value : Option (Json N)} :
    ¬ Strays own (TrustedKey.fromDict.trustedPem value) := by
  unfold TrustedKey.fromDict.trustedPem
  split <;> simp [hown.raised]

theorem strays_validateLifecycle {now : Option Moment} (hvalue : ∀ t ∈ now, ¬ own .value)
    {key : TrustedKey} :
    Strays own (key.validateLifecycle rt clock now) ↔ ∃ t ∈ now, t.Untimely := by
  unfold TrustedKey.validateLifecycle
  simp only [strays_bind, strays_check, hown.raised, not_true_eq_false, and_false, exists_false,
    or_false, strays_currentTime hown hvalue]

/-- What leaves `from_dict` of a key. -/
theorem strays_trustedKey {entry : Members N} :
    Strays own (TrustedKey.fromDict rt entry) ↔ EntryStrays rt none entry := by
  unfold TrustedKey.fromDict
  simp only [strays_bind, own_nonEmptyString (hown.raised _), strays_check, hown.raised,
    not_true_eq_false, own_trustedPem hown, strays_keyStatus hown, own_reasonField hown,
    strays_optionalTime hown,
    strays_pure, nonEmptyString_eq_ok, check_eq_ok, equalsText_iff, trustedPem_eq_ok, and_false,
    exists_false, or_false, false_or]
  constructor
  · rintro ⟨ref, href, _, halg, pem, hpem, hstuck⟩
    refine ⟨⟨ref, href⟩, halg, ⟨pem, hpem⟩, hstuck.imp_right ?_⟩
    rintro ⟨status, hstatus, reason, hreason, htimes⟩
    refine ⟨⟨status, hstatus⟩, reasonField_isOk_iff.mp ⟨reason, hreason⟩, htimes.imp_right ?_⟩
    rintro ⟨notBefore, hnotBefore, hlater⟩
    refine ⟨(optionalTime_isOk _).mp ⟨notBefore, hnotBefore⟩, hlater.imp_right ?_⟩
    rintro ⟨notAfter, hnotAfter, hrevoked⟩
    exact ⟨(optionalTime_isOk _).mp ⟨notAfter, hnotAfter⟩, .inl hrevoked⟩
  · rintro ⟨⟨ref, href⟩, halg, ⟨pem, hpem⟩, hstuck⟩
    refine ⟨ref, href, (), halg, pem, hpem, hstuck.imp_right ?_⟩
    rintro ⟨⟨status, hstatus⟩, hreason, htimes⟩
    obtain ⟨reason, hreason⟩ := reasonField_isOk_iff.mpr hreason
    refine ⟨status, hstatus, reason, hreason, htimes.imp_right ?_⟩
    rintro ⟨hnotBefore, hlater⟩
    obtain ⟨notBefore, hnotBefore⟩ := (optionalTime_isOk "not_before").mpr hnotBefore
    refine ⟨notBefore, hnotBefore, hlater.imp_right ?_⟩
    rintro ⟨hnotAfter, hrevoked⟩
    obtain ⟨notAfter, hnotAfter⟩ := (optionalTime_isOk "not_after").mpr hnotAfter
    refine ⟨notAfter, hnotAfter, hrevoked.resolve_right ?_⟩
    rintro ⟨-, t, ht, -⟩
    exact absurd ht (by simp)

/-- **A turn of the loop** lets through what the parser of the key does, or the normalisation of the
time it is judged at. -/
theorem strays_loadEntry {now : Option Moment} (hvalue : ∀ t ∈ now, ¬ own .value)
    {entry : Members N} :
    Strays own (loadEntry rt clock now (.obj entry)) ↔
      EntryStrays rt now entry := by
  unfold loadEntry
  simp only [strays_bind, strays_trustedKey hown, strays_validateLifecycle hown hvalue, strays_pure,
    and_false,
    exists_false, or_false, exists_and_right, trustedKey_isOk]
  constructor
  · rintro (h | ⟨⟨href, halg, hpem, hstatus, hreason, hnotBefore, hnotAfter, hrevoked⟩, hnow⟩)
    · refine ⟨h.keyRef, h.algorithm, h.publicKeyPem, ?_⟩
      have hstuck := h.stuck
      simp only [Option.mem_def, reduceCtorEq, false_and, exists_false, and_false,
        or_false] at hstuck
      tauto
    · exact ⟨href, halg, hpem, .inr ⟨hstatus, hreason, .inr ⟨hnotBefore, .inr ⟨hnotAfter,
        .inr ⟨hrevoked, hnow⟩⟩⟩⟩⟩
  · intro h
    obtain hstatus | ⟨hstatus, hreason, hnotBefore | ⟨hnotBefore, hnotAfter | ⟨hnotAfter,
      hrevoked | ⟨hrevoked, hnow⟩⟩⟩⟩ := h.stuck
    · exact .inl ⟨h.keyRef, h.algorithm, h.publicKeyPem, .inl hstatus⟩
    · exact .inl ⟨h.keyRef, h.algorithm, h.publicKeyPem, .inr ⟨hstatus, hreason, .inl hnotBefore⟩⟩
    · exact .inl ⟨h.keyRef, h.algorithm, h.publicKeyPem, .inr ⟨hstatus, hreason,
        .inr ⟨hnotBefore, .inl hnotAfter⟩⟩⟩
    · exact .inl ⟨h.keyRef, h.algorithm, h.publicKeyPem, .inr ⟨hstatus, hreason,
        .inr ⟨hnotBefore, .inr ⟨hnotAfter, .inl hrevoked⟩⟩⟩⟩
    · exact .inr ⟨⟨h.keyRef, h.algorithm, h.publicKeyPem, hstatus, hreason, hnotBefore, hnotAfter,
        hrevoked⟩, hnow⟩

end

/-- The loop over the keys comes, after accepted ones, to one at which something else is raised. -/
def KeysStray (rt : Runtime N) (clock : UtcTime) (now : Option Moment) (data : Members N) :
    Prop :=
  ∃ keys before entry after, data.get "keys" = some (.arr keys) ∧
    keys = before ++ .obj entry :: after ∧ (∀ item ∈ before, AcceptedKey rt clock now item) ∧
    EntryStrays rt now entry

/-- **What leaves `load_trusted_keys`.** -/
theorem strays_trustedKeys {own : PyError → Prop} (hown : OwnErrors own .verification)
    {now : Option Moment} (hvalue : ∀ t ∈ now, ¬ own .value) {data : Members N} :
    Strays own (loadTrustedKeys rt clock now data) ↔ KeysStray rt clock now data := by
  have hobject : ∀ item, Strays own (loadEntry rt clock now item) ↔
      ∃ entry, item = .obj entry ∧ EntryStrays rt now entry := by
    intro item
    cases item with
    | obj entry => simp [strays_loadEntry hown hvalue]
    | null | bool | num | str | arr => simp [loadEntry, hown.raised]
  unfold loadTrustedKeys KeysStray
  split
  · rename_i keys hkeys
    rw [strays_foldlM (loadEntry rt clock now) (fun d m => dictSet d m.1 m.2) fun _ _ => rfl]
    simp only [hobject, hkeys, Option.some.injEq, Json.arr.injEq, loadEntry_isOk]
    constructor
    · rintro ⟨before, _, after, hsplit, hbefore, entry, rfl, hstrays⟩
      exact ⟨keys, before, entry, after, rfl, hsplit, hbefore, hstrays⟩
    · rintro ⟨_, before, entry, after, rfl, hsplit, hbefore, hstrays⟩
      exact ⟨before, _, after, hsplit, hbefore, entry, rfl, hstrays⟩
  · rename_i hne
    simp only [strays_throw, hown.raised, not_true_eq_false, false_iff]
    rintro ⟨keys, _, _, _, hkeys, -⟩
    exact hne keys hkeys

end Nlboot.Reference
