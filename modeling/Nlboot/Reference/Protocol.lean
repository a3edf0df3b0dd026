import Nlboot.Reference.Verify

/-!
# Manifests, tokens and plans

Model of `src/nlboot/protocol.py`: the parsers of boot menus, signed boot manifests and enrollment
tokens, the validation of a token for a manifest, and `build_boot_plan`. Every parser runs its
checks in the order of the source.

The literal types of the source (`BootMode`, `BootEntryRole`, `TokenPurpose` and the token status)
are inductive types here; a parser reads one from its text and refuses any other text.

* `EnrollmentToken` keeps `release_set_ref` and `boot_release_set_ref` as the document has them:
  `from_dict` reads them without a type check.
* `BootPlan.toDict` and the two below it are the `to_dict` methods.
* `str(v)` of an artifact value keeps a string (`pyStr`); other values are rendered by the runtime.
-/

namespace Nlboot.Reference

open Nlboot.Lib

variable {N K : Type}

/-! ## Literal types -/

inductive BootMode where
  | installer
  | recovery
  | ephemeral
  | bootstrap
  deriving DecidableEq

inductive BootEntryRole where
  | normal
  | recovery
  | installer
  | rollback
  | ephemeral
  | bootstrap
  deriving DecidableEq

inductive TokenPurpose where
  | enroll
  | boot
  | repair
  | recovery
  deriving DecidableEq

inductive TokenStatus where
  | issued
  | redeemed
  | expired
  | revoked
  deriving DecidableEq

def BootMode.text : BootMode → String
  | .installer => "installer"
  | .recovery => "recovery"
  | .ephemeral => "ephemeral"
  | .bootstrap => "bootstrap"

def BootEntryRole.text : BootEntryRole → String
  | .normal => "normal"
  | .recovery => "recovery"
  | .installer => "installer"
  | .rollback => "rollback"
  | .ephemeral => "ephemeral"
  | .bootstrap => "bootstrap"

def TokenPurpose.text : TokenPurpose → String
  | .enroll => "enroll"
  | .boot => "boot"
  | .repair => "repair"
  | .recovery => "recovery"

def TokenStatus.text : TokenStatus → String
  | .issued => "issued"
  | .redeemed => "redeemed"
  | .expired => "expired"
  | .revoked => "revoked"

def BootMode.all : List BootMode := [.installer, .recovery, .ephemeral, .bootstrap]

def BootEntryRole.all : List BootEntryRole :=
  [.normal, .recovery, .installer, .rollback, .ephemeral, .bootstrap]

def TokenPurpose.all : List TokenPurpose := [.enroll, .boot, .repair, .recovery]

def TokenStatus.all : List TokenStatus := [.issued, .redeemed, .expired, .revoked]

/-- `value not in {…}` and the literal it then is: the literal of `all` with text `s`. -/
def literal {α : Type} (all : List α) (text : α → String) (error : PyError) (s : String) :
    Except PyError α :=
  match all.find? fun a => text a == s with
  | some a => pure a
  | none => throw error

theorem literal_eq_ok {α : Type} {all : List α} {text : α → String} (hall : ∀ a, a ∈ all)
    (hinj : ∀ a b, text a = text b → a = b) {error : PyError} {s : String} {a : α} :
    literal all text error s = .ok a ↔ s = text a := by
  unfold literal
  cases h : all.find? fun a => text a == s with
  | none =>
    simp only [throw_ne_ok, false_iff]
    rintro rfl
    exact absurd (List.find?_eq_none.mp h a (hall a)) (by simp)
  | some b =>
    have hb : text b = s := by simpa using List.find?_some h
    simp only [pure_eq_ok]
    constructor
    · rintro rfl; exact hb.symm
    · rintro rfl; exact hinj b a hb

@[simp] theorem bootMode_literal {error : PyError} {s : String} {m : BootMode} :
    literal BootMode.all BootMode.text error s = .ok m ↔ s = m.text :=
  literal_eq_ok (fun a => by cases a <;> decide)
    (fun a b h => by revert h; cases a <;> cases b <;> decide)

@[simp] theorem role_literal {error : PyError} {s : String} {r : BootEntryRole} :
    literal BootEntryRole.all BootEntryRole.text error s = .ok r ↔ s = r.text :=
  literal_eq_ok (fun a => by cases a <;> decide)
    (fun a b h => by revert h; cases a <;> cases b <;> decide)

@[simp] theorem purpose_literal {error : PyError} {s : String} {p : TokenPurpose} :
    literal TokenPurpose.all TokenPurpose.text error s = .ok p ↔ s = p.text :=
  literal_eq_ok (fun a => by cases a <;> decide)
    (fun a b h => by revert h; cases a <;> cases b <;> decide)

@[simp] theorem status_literal {error : PyError} {s : String} {t : TokenStatus} :
    literal TokenStatus.all TokenStatus.text error s = .ok t ↔ s = t.text :=
  literal_eq_ok (fun a => by cases a <;> decide)
    (fun a b h => by revert h; cases a <;> cases b <;> decide)

/-! ## The records -/

/-- `BootMenuEntry`. -/
structure BootMenuEntry where
  entryId : String
  label : String
  bootReleaseSetId : String
  releaseSetRef : String
  bootMode : BootMode
  role : BootEntryRole
  default : Bool
  rollbackEligible : Bool
  deriving DecidableEq

/-- `BootMenu`. -/
structure BootMenu where
  menuId : String
  defaultEntryId : String
  entries : List BootMenuEntry
  deriving DecidableEq

/-- `SignedBootManifest`. -/
structure SignedBootManifest where
  manifestId : String
  bootReleaseSetId : String
  baseReleaseSetRef : String
  bootMode : BootMode
  artifacts : List (String × String)
  signatureRef : String
  signerRef : String
  signatureAlgorithm : String
  cryptoProfile : String
  signatureHex : String
  bootMenu : Option BootMenu
  deriving DecidableEq

/-- `EnrollmentToken`. -/
structure EnrollmentToken (N : Type) where
  tokenId : String
  purpose : TokenPurpose
  subjectKind : String
  subjectId : Option String
  releaseSetRef : Option (Json N)
  bootReleaseSetRef : Option (Json N)
  oneTimeUse : Bool
  issuedAt : UtcTime
  expiresAt : UtcTime
  status : TokenStatus

/-- The dictionary `_offline_fallback_for_mode` returns. -/
structure OfflineFallback where
  enabled : Bool
  strategy : String
  requiresSignatureVerification : Bool
  allowsUnsignedArtifacts : Bool
  deriving DecidableEq

/-- `BootPlan`, with the default of `required_proofs`. -/
structure BootPlan where
  action : String
  manifestId : String
  bootReleaseSetId : String
  releaseSetRef : String
  artifacts : List (String × String)
  authorizedBy : String
  signatureAlgorithm : String
  cryptoProfile : String
  policyRef : String
  allowedOperations : List String
  proofRequirements : List String
  offlineFallback : OfflineFallback
  execute : Bool
  selectedEntryId : Option String
  bootMenu : Option BootMenu
  requiredProofs : List String :=
    ["manifest-signature-verified", "enrollment-token-bound", "boot-menu-bound-when-present",
      "execute-false"]
  deriving DecidableEq

/-! ## Boot menus -/

/-- `data.get(key, False)` with its `isinstance(…, bool)` check. -/
def boolField (error : PyError) (value : Option (Json N)) : Except PyError Bool :=
  match value with
  | none => pure false
  | some (.bool b) => pure b
  | some _ => throw error

/-- `BootMenuEntry.from_dict`. -/
def BootMenuEntry.fromDict (rt : Runtime N) (data : Members N) : Except PyError BootMenuEntry := do
  let entryId ← requireString .nlboot data "entry_id"
  let label ← requireString .nlboot data "label"
  let bootReleaseSetId ← requireString .nlboot data "boot_release_set_id"
  let releaseSetRef ← requireString .nlboot data "release_set_ref"
  let modeText ← requireString .nlboot data "boot_mode"
  let bootMode ← literal BootMode.all BootMode.text
    (.nlboot ("unsupported boot_menu entry boot_mode=" ++ rt.repr modeText)) modeText
  let roleText ← requireString .nlboot data "role"
  let role ← literal BootEntryRole.all BootEntryRole.text
    (.nlboot ("unsupported boot_menu entry role=" ++ rt.repr roleText)) roleText
  let default ← boolField (.nlboot "boot_menu entry default must be boolean") (data.get "default")
  let rollbackEligible ← boolField (.nlboot "boot_menu entry rollback_eligible must be boolean")
    (data.get "rollback_eligible")
  check (¬ (role = .rollback ∧ rollbackEligible = false))
    (.nlboot "boot_menu rollback entries must be rollback_eligible")
  pure { entryId, label, bootReleaseSetId, releaseSetRef, bootMode, role, default,
         rollbackEligible }

/-- The loop of `BootMenu.from_dict`; the identifiers in `entries` are its `seen` set. -/
def BootMenu.readEntries (rt : Runtime N) :
    List (Json N) → List BootMenuEntry → Except PyError (List BootMenuEntry)
  | [], entries => pure entries
  | .obj data :: items, entries => do
    let entry ← BootMenuEntry.fromDict rt data
    check (entry.entryId ∉ entries.map BootMenuEntry.entryId)
      (.nlboot ("duplicate boot_menu entry_id=" ++ rt.repr entry.entryId))
    readEntries rt items (entries ++ [entry])
  | _ :: _, _ => throw (.nlboot "boot_menu entries must be objects")

/-- `BootMenu.from_dict`. -/
def BootMenu.fromDict (rt : Runtime N) (data : Members N) : Except PyError BootMenu := do
  let menuId ← requireString .nlboot data "menu_id"
  let defaultEntryId ← requireString .nlboot data "default_entry_id"
  match data.get "entries" with
  | some (.arr (item :: items)) => do
    let entries ← readEntries rt (item :: items) []
    check (defaultEntryId ∈ entries.map BootMenuEntry.entryId)
      (.nlboot "boot_menu default_entry_id must reference an entry")
    let markedDefault := (entries.filter BootMenuEntry.default).map BootMenuEntry.entryId
    check (markedDefault.length ≤ 1)
      (.nlboot "boot_menu must not mark more than one entry as default")
    check (∀ id ∈ markedDefault.head?, id = defaultEntryId)
      (.nlboot "boot_menu marked default must match default_entry_id")
    pure { menuId, defaultEntryId, entries }
  | _ => throw (.nlboot "boot_menu entries must be a non-empty array")

/-- `BootMenu.default_entry`. -/
def BootMenu.defaultEntry (menu : BootMenu) : Except PyError BootMenuEntry :=
  match menu.entries.find? fun e => e.entryId == menu.defaultEntryId with
  | some entry => pure entry
  | none => throw (.nlboot "boot_menu default entry is missing")

/-- `BootMenuEntry.matches_manifest`. -/
def BootMenuEntry.matchesManifest (entry : BootMenuEntry) (manifest : SignedBootManifest) : Bool :=
  entry.bootReleaseSetId == manifest.bootReleaseSetId &&
    entry.releaseSetRef == manifest.baseReleaseSetRef && entry.bootMode == manifest.bootMode

/-- `BootMenu.validate_for_manifest`. -/
def BootMenu.validateForManifest (menu : BootMenu) (manifest : SignedBootManifest) :
    Except PyError Unit := do
  let default ← menu.defaultEntry
  check (default.matchesManifest manifest)
    (.nlboot "boot_menu default entry must match manifest boot release and mode")

/-! ## Manifests -/

/-- `str(v)` of a JSON value. -/
def pyStr (rt : Runtime N) : Json N → String
  | .str s => s
  | .null => "None"
  | .bool true => "True"
  | .bool false => "False"
  | v => rt.str v

/-- The artifact references every manifest needs, sorted. -/
def requiredArtifacts : List String := ["initrd_ref", "kernel_ref", "rootfs_ref"]

/-- `isinstance(value, str) and value`. -/
def isNonEmptyText (value : Option (Json N)) : Bool :=
  match value with
  | some (.str s) => s != ""
  | _ => false

/-- The `boot_menu` member: absent, null or an object that parses. -/
def menuField (rt : Runtime N) (value : Option (Json N)) : Except PyError (Option BootMenu) :=
  match value with
  | none | some .null => pure none
  | some (.obj doc) => some <$> BootMenu.fromDict rt doc
  | some _ => throw (.nlboot "boot_menu must be an object when present")

/-- The `artifacts` member, with the required references present. -/
def artifactsField (value : Option (Json N)) : Except PyError (Members N) :=
  match value with
  | some (.obj artifacts) => do
    let missing := requiredArtifacts.filter fun k => !isNonEmptyText (Members.get artifacts k)
    check (missing = [])
      (.nlboot ("artifacts missing required refs: " ++ ", ".intercalate missing))
    pure artifacts
  | _ => throw (.nlboot "artifacts must be an object")

/-- The limit that `str` of the artifacts exceeds, in their order, if any. -/
def Limits.artifacts (limits : Limits N) (artifacts : Members N) : Option Exceeded :=
  artifacts.findSome? fun m => limits.str m.2

/-- `SignedBootManifest.from_dict`. -/
def SignedBootManifest.fromDict (rt : Runtime N) (data : Members N)
    (limits : Limits N := .none) : Except PyError SignedBootManifest := do
  let manifestId ← requireString .nlboot data "manifest_id"
  let bootReleaseSetId ← requireString .nlboot data "boot_release_set_id"
  let baseReleaseSetRef ← requireString .nlboot data "base_release_set_ref"
  let signatureRef ← requireString .nlboot data "signature_ref"
  let signerRef ← requireString .nlboot data "signer_ref"
  let signatureAlgorithm ← requireString .nlboot data "signature_algorithm"
  let cryptoProfile ← requireString .nlboot data "crypto_profile"
  let signatureHex ← requireString .nlboot data "signature_hex"
  check (signatureAlgorithm = fipsReadyAlgorithm)
    (.nlboot "signature_algorithm must be rsa-pss-sha256")
  check (cryptoProfile = fipsReadyProfile)
    (.nlboot "crypto_profile must be fips-140-3-compatible")
  let modeText ← requireString .nlboot data "boot_mode"
  let bootMode ← literal BootMode.all BootMode.text
    (.nlboot ("unsupported boot_mode=" ++ rt.repr modeText)) modeText
  let artifacts ← artifactsField (data.get "artifacts")
  check (startswith signatureRef "urn:srcos:signature:")
    (.nlboot "signature_ref must be a SourceOS signature URN")
  let bootMenu ← menuField rt (data.get "boot_menu")
  within (limits.artifacts artifacts)
  let manifest : SignedBootManifest :=
    { manifestId, bootReleaseSetId, baseReleaseSetRef, bootMode,
      artifacts := artifacts.map fun m => (m.1, pyStr rt m.2),
      signatureRef, signerRef, signatureAlgorithm, cryptoProfile, signatureHex, bootMenu }
  match bootMenu with
  | none => pure manifest
  | some menu => do
    menu.validateForManifest manifest
    pure manifest

/-! ## Enrollment tokens -/

/-- `audience.subject_id`: absent, null or a string. -/
def subjectIdField (value : Option (Json N)) : Except PyError (Option String) :=
  match value with
  | none | some .null => pure none
  | some (.str s) => pure (some s)
  | some _ => throw (.nlboot "audience.subject_id must be null or string")

/-- `one_time_use`: a boolean. -/
def oneTimeUseField (value : Option (Json N)) : Except PyError Bool :=
  match value with
  | some (.bool b) => pure b
  | _ => throw (.nlboot "one_time_use must be boolean")

/-- `audience`: an object with a subject kind and an optional subject id. -/
def audienceField (value : Option (Json N)) : Except PyError (String × Option String) :=
  match value with
  | some (.obj audience) => do
    let subjectKind ← requireString .nlboot audience "subject_kind"
    let subjectId ← subjectIdField (Members.get audience "subject_id")
    pure (subjectKind, subjectId)
  | _ => throw (.nlboot "audience must be an object")

/-- `EnrollmentToken.from_dict`. -/
def EnrollmentToken.fromDict (rt : Runtime N) (data : Members N) :
    Except PyError (EnrollmentToken N) := do
  let tokenId ← requireString .nlboot data "token_id"
  let purposeText ← requireString .nlboot data "purpose"
  let purpose ← literal TokenPurpose.all TokenPurpose.text
    (.nlboot ("unsupported purpose=" ++ rt.repr purposeText)) purposeText
  let audience ← audienceField (data.get "audience")
  let issuedText ← requireString .nlboot data "issued_at"
  let issuedAt ← parseTime rt .nlboot issuedText "issued_at"
  let expiresText ← requireString .nlboot data "expires_at"
  let expiresAt ← parseTime rt .nlboot expiresText "expires_at"
  let oneTimeUse ← oneTimeUseField (data.get "one_time_use")
  let statusText ← requireString .nlboot data "status"
  let status ← literal TokenStatus.all TokenStatus.text
    (.nlboot ("unsupported status=" ++ rt.repr statusText)) statusText
  pure { tokenId, purpose, subjectKind := audience.1, subjectId := audience.2,
         releaseSetRef := data.get "release_set_ref",
         bootReleaseSetRef := data.get "boot_release_set_ref", oneTimeUse, issuedAt, expiresAt,
         status }

/-- `purpose_by_mode`. -/
def purposeByMode : BootMode → List TokenPurpose
  | .recovery => [.recovery, .repair]
  | .installer => [.enroll, .boot]
  | .ephemeral => [.boot]
  | .bootstrap => [.enroll, .boot]

/-- `EnrollmentToken.validate_for_manifest`. -/
def EnrollmentToken.validateForManifest (rt : Runtime N) (clock : UtcTime)
    (now : Option Moment) (token : EnrollmentToken N) (manifest : SignedBootManifest) :
    Except PyError Unit := do
  let current ← currentTime clock now
  check (token.status = .issued)
    (.nlboot ("token status must be issued, got " ++ rt.repr token.status.text))
  check (current.micros < token.expiresAt.micros) (.nlboot "token is expired")
  check (token.oneTimeUse = true) (.nlboot "token must be one-time use")
  check (equalsText token.bootReleaseSetRef manifest.bootReleaseSetId)
    (.nlboot "token boot_release_set_ref does not match manifest")
  check (equalsText token.releaseSetRef manifest.baseReleaseSetRef)
    (.nlboot "token release_set_ref does not match manifest base release")
  check (token.purpose ∈ purposeByMode manifest.bootMode)
    (.nlboot ("token purpose " ++ rt.repr token.purpose.text ++ " is not valid for boot_mode " ++
      rt.repr manifest.bootMode.text))

/-! ## Plans -/

/-- `action_by_mode`. -/
def actionByMode : BootMode → String
  | .recovery => "boot-recovery"
  | .installer => "boot-installer"
  | .ephemeral => "boot-ephemeral"
  | .bootstrap => "bootstrap-only"

/-- `_policy_ref_for_mode`. -/
def policyRefForMode (mode : BootMode) : String :=
  "policy://sourceos/nlboot/" ++ mode.text ++ "/safe-plan-v1"

/-- `_allowed_operations_for_mode`. -/
def allowedOperationsForMode : BootMode → List String
  | .recovery => ["present-menu", "verify-artifacts", "plan-recovery", "plan-rollback"]
  | .installer => ["present-menu", "verify-artifacts", "plan-install"]
  | .ephemeral => ["present-menu", "verify-artifacts", "plan-ephemeral-boot"]
  | .bootstrap => ["present-menu", "verify-artifacts", "plan-bootstrap"]

/-- `_proof_requirements_for_mode`. -/
def proofRequirementsForMode (mode : BootMode) : List String :=
  ["verified_manifest_signature", "validated_one_time_token", "artifact_ref_manifest",
    "boot_plan_record"] ++
    if mode = .recovery ∨ mode = .installer then ["device_claim_record", "post_action_fingerprint"]
    else ["session_fingerprint"]

/-- `_offline_fallback_for_mode`. -/
def offlineFallbackForMode (mode : BootMode) : OfflineFallback where
  enabled := mode = .recovery ∨ mode = .ephemeral
  strategy :=
    if mode = .recovery ∨ mode = .ephemeral then "last-known-good-signed-boot-release-set"
    else "none"
  requiresSignatureVerification := true
  allowsUnsignedArtifacts := false

/-- The entry `build_boot_plan` selects: the default of the boot menu, when there is one. -/
def selectEntry (manifest : SignedBootManifest) : Except PyError (Option String) :=
  match manifest.bootMenu with
  | none => pure none
  | some menu => do
    menu.validateForManifest manifest
    let default ← menu.defaultEntry
    pure (some default.entryId)

/-- `build_boot_plan`. -/
def buildBootPlan (rt : Runtime N) (clock : UtcTime) (now : Option Moment)
    (manifest : SignedBootManifest) (token : EnrollmentToken N) : Except PyError BootPlan := do
  token.validateForManifest rt clock now manifest
  let selectedEntryId ← selectEntry manifest
  pure {
    action := actionByMode manifest.bootMode
    manifestId := manifest.manifestId
    bootReleaseSetId := manifest.bootReleaseSetId
    releaseSetRef := manifest.baseReleaseSetRef
    artifacts := manifest.artifacts
    authorizedBy := token.tokenId
    signatureAlgorithm := manifest.signatureAlgorithm
    cryptoProfile := manifest.cryptoProfile
    policyRef := policyRefForMode manifest.bootMode
    allowedOperations := allowedOperationsForMode manifest.bootMode
    proofRequirements := proofRequirementsForMode manifest.bootMode
    offlineFallback := offlineFallbackForMode manifest.bootMode
    execute := false
    selectedEntryId
    bootMenu := manifest.bootMenu }

/-! ## Plans as dictionaries -/

/-- A list of texts. -/
def textList (texts : List String) : Json N := .arr (texts.map .str)

/-- `BootMenuEntry.to_dict`. -/
def BootMenuEntry.toDict (entry : BootMenuEntry) : Members N := [
  ("entry_id", .str entry.entryId),
  ("label", .str entry.label),
  ("boot_release_set_id", .str entry.bootReleaseSetId),
  ("release_set_ref", .str entry.releaseSetRef),
  ("boot_mode", .str entry.bootMode.text),
  ("role", .str entry.role.text),
  ("default", .bool entry.default),
  ("rollback_eligible", .bool entry.rollbackEligible)]

/-- `BootMenu.to_dict`. -/
def BootMenu.toDict (menu : BootMenu) : Members N := [
  ("menu_id", .str menu.menuId),
  ("default_entry_id", .str menu.defaultEntryId),
  ("entries", .arr (menu.entries.map fun entry => .obj entry.toDict))]

/-- The fallback as a dictionary. -/
def OfflineFallback.toDict (fallback : OfflineFallback) : Members N := [
  ("enabled", .bool fallback.enabled),
  ("strategy", .str fallback.strategy),
  ("requires_signature_verification", .bool fallback.requiresSignatureVerification),
  ("allows_unsigned_artifacts", .bool fallback.allowsUnsignedArtifacts)]

/-- A text or `None`. -/
def textOrNone (text : Option String) : Json N :=
  match text with
  | some s => .str s
  | none => .null

/-- `BootPlan.to_dict`. -/
def BootPlan.toDict (plan : BootPlan) : Members N := [
  ("action", .str plan.action),
  ("manifest_id", .str plan.manifestId),
  ("boot_release_set_id", .str plan.bootReleaseSetId),
  ("release_set_ref", .str plan.releaseSetRef),
  ("artifacts", .obj (plan.artifacts.map fun m => (m.1, .str m.2))),
  ("authorized_by", .str plan.authorizedBy),
  ("signature_algorithm", .str plan.signatureAlgorithm),
  ("crypto_profile", .str plan.cryptoProfile),
  ("policy_ref", .str plan.policyRef),
  ("allowed_operations", textList plan.allowedOperations),
  ("proof_requirements", textList plan.proofRequirements),
  ("offline_fallback", .obj plan.offlineFallback.toDict),
  ("execute", .bool plan.execute),
  ("selected_entry_id", textOrNone plan.selectedEntryId),
  ("boot_menu", match plan.bootMenu with
    | some menu => .obj menu.toDict
    | none => .null),
  ("required_proofs", textList plan.requiredProofs)]

end Nlboot.Reference
