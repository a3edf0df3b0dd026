import Nlboot.Client.CacheCheck
import Nlboot.Client.Main
import Nlboot.Client.Remains

/-!
# The verdict of the planner

What `Commands::Plan` of `rust/nlboot-client/src/main.rs` accepts. The checks are spread over the
reading of three documents, the shape of the manifest, the choice of the key and its lifecycle, the
signature and the token; here they are one statement about the documents, and the clock enters it in
three places.

* `SignedUnder`: the signature of the manifest is one of the key, over the whole document.
* `Accepts`: everything that holds when a plan is accepted.
* `InWindow`: the time is in the window of the key and before the token expires.

Results:
* `planOutput_eq_ok`: the planner accepts iff all of that holds, and what it comes to then.
* **`planner_speaks`**: what `plan` prints and writes, and that it does neither otherwise.
* **`planOutput_window`**: at which other times the planner accepts the same request.
-/

namespace Nlboot.Client

open Nlboot.Lib Nlboot.Lib.Path

variable {N K D : Type} [DecidableEq D] {host : Host N K D} {env : Env D} {files : Files D}
  {args : PlanArgs}

/-- The signature of the manifest is one of the key, over the document without the signature. -/
def SignedUnder (host : Host N K D) (manifestValue : Json N) (manifest : SignedBootManifest)
    (key : TrustedKey) : Prop :=
  ∃ payload signature publicKey,
    canonicalManifestPayload host.num manifestValue = .ok payload ∧
    hexDecode manifest.signatureHex.toList = some signature ∧
    host.fromPublicKeyPem key.publicKeyPem = some publicKey ∧
    host.signatureError signature = none ∧ host.verify publicKey payload signature = true

/-- A plan is accepted: the documents are read, the manifest has its shape, the first key of its
signer is live and its signature is one of that key, and the token authorises a plan for it. -/
structure Accepts (host : Host N K D) (env : Env D) (files : Files D) (args : PlanArgs)
    (manifestValue : Json N) (manifest : SignedBootManifest) (token : EnrollmentToken)
    (keys : TrustedKeyDocument) (key : TrustedKey) (now : Int) : Prop where
  manifestReads : readValue host env files args.manifest = .ok manifestValue
  manifestDecodes : SignedBootManifest.deserialize manifestValue = some manifest
  tokenReads : readJson host env files (EnrollmentToken.deserialize host) args.token = .ok token
  keysRead : readJson host env files (TrustedKeyDocument.deserialize host) args.trustedKeys =
    .ok keys
  time : parseNow host (env.utcNow 0) args.now = .ok now
  shaped : Shaped manifest args.requireFips
  first : ∃ i, FirstKey keys.keys manifest.signerRef i key
  live : LiveKey key now
  algorithm : key.algorithm = manifest.signatureAlgorithm
  signed : SignedUnder host manifestValue manifest key
  authorised : TokenFor token manifest now

/-- What the planner comes to. -/
def outputFor (manifest : SignedBootManifest) (token : EnrollmentToken) : PlanOutput where
  ok := true
  plan := buildPlan manifest token
  implementationNote := "Rust planner verifies RSA-PSS/SHA-256 manifest signatures and " ++
    "remains non-mutating with execute=false."

omit [DecidableEq D] in
theorem verifyRsaPssSha256_eq_ok {payload : List UInt8} {signatureHex : String} {key : TrustedKey}
    {u : Unit} : verifyRsaPssSha256 host payload signatureHex key = .ok u ↔
      ∃ signature publicKey, hexDecode signatureHex.toList = some signature ∧
        host.fromPublicKeyPem key.publicKeyPem = some publicKey ∧
        host.signatureError signature = none ∧ host.verify publicKey payload signature = true := by
  unfold verifyRsaPssSha256
  simp only [bind_eq_ok, orThrow_eq_ok]
  constructor
  · rintro ⟨signature, hsignature, publicKey, hkey, hverify⟩
    cases herror : host.signatureError signature with
    | some e => exact absurd (herror ▸ hverify) throw_ne_ok
    | none =>
      rw [herror] at hverify
      exact ⟨signature, publicKey, hsignature, hkey, herror, check_eq_ok.mp hverify⟩
  · rintro ⟨signature, publicKey, hsignature, hkey, herror, hverify⟩
    refine ⟨signature, hsignature, publicKey, hkey, ?_⟩
    rw [herror]
    exact check_eq_ok.mpr hverify

omit [DecidableEq D] in
/-- A manifest is validated iff it has its shape and is signed by the live first key. -/
theorem validateManifest_ok_iff {manifest : SignedBootManifest} {manifestValue : Json N}
    {requireFips : Bool} {keys : TrustedKeyDocument} {now : Int} {u : Unit} :
    validateManifest host manifest manifestValue requireFips keys now = .ok u ↔
      Shaped manifest requireFips ∧ ∃ key, (∃ i, FirstKey keys.keys manifest.signerRef i key) ∧
        LiveKey key now ∧ key.algorithm = manifest.signatureAlgorithm ∧
        SignedUnder host manifestValue manifest key := by
  rw [validateManifest_eq_ok]
  refine and_congr_right fun _ => exists_congr fun key => ?_
  simp only [trustedKeyFor_eq_ok, verifyRsaPssSha256_eq_ok, SignedUnder]
  constructor
  · rintro ⟨payload, ⟨hfirst, hlive⟩, halgorithm, hpayload, signature, publicKey, hverify⟩
    exact ⟨hfirst, hlive, halgorithm, payload, signature, publicKey, hpayload, hverify⟩
  · rintro ⟨hfirst, hlive, halgorithm, payload, signature, publicKey, hpayload, hverify⟩
    exact ⟨payload, ⟨hfirst, hlive⟩, halgorithm, hpayload, signature, publicKey, hverify⟩

omit [DecidableEq D] in
/-- The verdict of the planner. -/
theorem planOutput_eq_ok {output : PlanOutput} : planOutput host env files args = .ok output ↔
    ∃ manifestValue manifest token keys key now,
      Accepts host env files args manifestValue manifest token keys key now ∧
        output = outputFor manifest token := by
  unfold planOutput
  simp only [bind_eq_ok, orThrow_eq_ok, validateManifest_ok_iff, validateToken_eq_ok, exists_const,
    pure_eq_ok]
  constructor
  · rintro ⟨manifestValue, hvalue, manifest, hmanifest, token, htoken, keys, hkeys, now, hnow,
      ⟨hshaped, key, hfirst, hlive, halgorithm, hsigned⟩, hauthorised, rfl⟩
    exact ⟨manifestValue, manifest, token, keys, key, now,
      ⟨hvalue, hmanifest, htoken, hkeys, hnow, hshaped, hfirst, hlive, halgorithm, hsigned,
        hauthorised⟩, rfl⟩
  · rintro ⟨manifestValue, manifest, token, keys, key, now, h, rfl⟩
    exact ⟨manifestValue, h.manifestReads, manifest, h.manifestDecodes, token, h.tokenReads, keys,
      h.keysRead, now, h.time, ⟨h.shaped, key, h.first, h.live, h.algorithm, h.signed⟩,
      h.authorised, rfl⟩

omit [DecidableEq D] in
theorem MakesDir.ne_print {path : List Component} {event : Event D} {text : List Char}
    (h : MakesDir host path event) : event ≠ .print text := by
  obtain ⟨_, -, _, -, rfl⟩ := h
  simp

omit [DecidableEq D] in
theorem WritesFile.ne_print {path : String} {bytes : List UInt8} {event : Event D}
    {text : List Char} (h : WritesFile host env path bytes event) : event ≠ .print text := by
  obtain ⟨_, -, rfl⟩ := h
  simp

/-- `writeOut` logs directories on the path and the file, where it is told a path. -/
theorem occurs_writeOut {value : Json N} {out : Option String} {before : List (Event D)}
    {event : Event D} (h : (writeOut host env value out).Occurs files before event) :
    ∃ path ∈ out, MakesDir host (components path).dropLast event ∨
      WritesFile host env path (jsonBytes host value) event := by
  cases out with
  | some path => exact ⟨path, rfl, occurs_writeJson h⟩
  | none => exact absurd h Act.not_occurs_pure

/-- **What `plan` says.** It prints a plan iff everything about the documents is checked and the
file `--out` names, if any, was written, and then the plan of the manifest and the token that were
checked. Before the checks are done it makes nothing, and after them only that file, the
directories on its path, and the plan on the standard output. -/
theorem planner_speaks :
    (∀ text, (∃ before, (runPlan host env args).Occurs files before (.print text)) ↔
      ∃ manifestValue manifest token keys key now,
        Accepts host env files args manifestValue manifest token keys key now ∧
        (∃ log, writeOut host env (outputFor manifest token).serialize args.out files =
          (.ok (), log)) ∧
        text = toStringPretty host (outputFor manifest token).serialize ++ ['\n']) ∧
    ∀ before event, (runPlan host env args).Occurs files before event →
      ∃ manifestValue manifest token keys key now,
        Accepts host env files args manifestValue manifest token keys key now ∧
        ((∃ out ∈ args.out, MakesDir host (components out).dropLast event ∨
            WritesFile host env out (jsonBytes host (outputFor manifest token).serialize) event) ∨
          ∃ text, event = .print text) := by
  refine ⟨fun text => ⟨?_, ?_⟩, fun before event h => ?_⟩
  · rintro ⟨before, h⟩
    unfold runPlan at h
    obtain ⟨output, houtput, h⟩ := Act.occurs_except_bind.mp (Act.occurs_get_bind.mp h)
    obtain ⟨manifestValue, manifest, token, keys, key, now, haccepts, rfl⟩ :=
      planOutput_eq_ok.mp houtput
    rcases Act.occurs_bind.mp h with h | ⟨_, log, _, hout, -, h⟩
    · obtain ⟨_, -, hdir | hfile⟩ := occurs_writeOut h
      · exact absurd rfl hdir.ne_print
      · exact absurd rfl hfile.ne_print
    · have htext := (Act.occurs_emit.mp h).2
      exact ⟨_, _, _, _, _, _, haccepts, ⟨log, hout⟩, Event.print.inj htext⟩
  · rintro ⟨manifestValue, manifest, token, keys, key, now, haccepts, ⟨log, hout⟩, rfl⟩
    have houtput := planOutput_eq_ok.mpr ⟨_, _, _, _, _, _, haccepts, rfl⟩
    refine ⟨log, Act.occurs_get_bind.mpr (Act.occurs_except_bind.mpr ⟨_, houtput, ?_⟩)⟩
    refine Act.occurs_bind.mpr (.inr ⟨(), log, [], hout, (List.append_nil log).symm, ?_⟩)
    exact Act.occurs_emit.mpr ⟨rfl, rfl⟩
  · obtain ⟨output, houtput, hevent⟩ := occurs_runPlan h
    obtain ⟨manifestValue, manifest, token, keys, key, now, haccepts, rfl⟩ :=
      planOutput_eq_ok.mp houtput
    exact ⟨_, _, _, _, _, _, haccepts, hevent⟩

/-! ## The clock -/

/-- The time is in the window of the key and before the token expires. -/
structure InWindow (key : TrustedKey) (token : EnrollmentToken) (time : Int) : Prop where
  notBefore : ∀ notBefore ∈ key.notBefore, notBefore ≤ time
  notAfter : ∀ notAfter ∈ key.notAfter, time < notAfter
  expiresAt : time < token.expiresAt

omit [DecidableEq D] in
/-- Whether the key is live and the token authorises depends on the time by the window only. -/
theorem Accepts.at_time {env' : Env D} {manifestValue : Json N} {manifest : SignedBootManifest}
    {token : EnrollmentToken} {keys : TrustedKeyDocument} {key : TrustedKey} {now : Int}
    (h : Accepts host env files args manifestValue manifest token keys key now)
    (hnow : args.now = none) (hreadable : env'.readable = env.readable)
    (hwindow : InWindow key token (env'.utcNow 0)) :
    Accepts host env' files args manifestValue manifest token keys key (env'.utcNow 0) where
  manifestReads := by
    rw [← h.manifestReads]
    exact readJson_env hreadable _ _
  manifestDecodes := h.manifestDecodes
  tokenReads := by rw [readJson_env hreadable, h.tokenReads]
  keysRead := by rw [readJson_env hreadable, h.keysRead]
  time := by
    rw [hnow]
    rfl
  shaped := h.shaped
  first := h.first
  live := { h.live with notBefore := hwindow.notBefore, notAfter := hwindow.notAfter }
  algorithm := h.algorithm
  signed := h.signed
  authorised := { h.authorised with notExpired := hwindow.expiresAt }

omit [DecidableEq D] in
/-- **The window of a request.** A request that was accepted by the system clock is accepted at the
times in the window of its key before its token expires, and comes to the same plan; at all other
times it is refused. -/
theorem planOutput_window {output : PlanOutput} (hnow : args.now = none)
    (h : planOutput host env files args = .ok output) :
    ∃ manifestValue manifest token keys key,
      Accepts host env files args manifestValue manifest token keys key (env.utcNow 0) ∧
      ∀ env' : Env D, env'.readable = env.readable →
        (InWindow key token (env'.utcNow 0) → planOutput host env' files args = .ok output) ∧
        (¬ InWindow key token (env'.utcNow 0) →
          ∀ output', planOutput host env' files args ≠ .ok output') := by
  obtain ⟨manifestValue, manifest, token, keys, key, now, haccepts, rfl⟩ := planOutput_eq_ok.mp h
  have htime : now = env.utcNow 0 := by
    have htime := haccepts.time
    rw [hnow] at htime
    exact (pure_eq_ok.mp htime).symm
  subst htime
  refine ⟨manifestValue, manifest, token, keys, key, haccepts, fun env' hreadable =>
    ⟨fun hwindow => ?_, fun hnot output' h' => hnot ?_⟩⟩
  · exact planOutput_eq_ok.mpr ⟨_, _, _, _, _, _, haccepts.at_time hnow hreadable hwindow, rfl⟩
  · obtain ⟨manifestValue', manifest', token', keys', key', now', h', -⟩ := planOutput_eq_ok.mp h'
    -- The documents are the same, so the key and the token are.
    obtain rfl : manifestValue' = manifestValue := by
      have hreads := h'.manifestReads
      rw [readValue, readJson_env hreadable] at hreads
      exact Except.ok.inj (hreads.symm.trans haccepts.manifestReads)
    obtain rfl := Option.some.inj (h'.manifestDecodes.symm.trans haccepts.manifestDecodes)
    obtain rfl : token' = token := by
      have hreads := h'.tokenReads
      rw [readJson_env hreadable] at hreads
      exact Except.ok.inj (hreads.symm.trans haccepts.tokenReads)
    obtain rfl : keys' = keys := by
      have hreads := h'.keysRead
      rw [readJson_env hreadable] at hreads
      exact Except.ok.inj (hreads.symm.trans haccepts.keysRead)
    obtain ⟨i, hfirst⟩ := haccepts.first
    obtain ⟨i', hfirst'⟩ := h'.first
    obtain ⟨-, rfl⟩ := hfirst.unique hfirst'
    have htime := h'.time
    rw [hnow] at htime
    obtain rfl := pure_eq_ok.mp htime
    exact ⟨h'.live.notBefore, h'.live.notAfter, h'.authorised.notExpired⟩

/-! ## A release -/

/-- The host of a library and of a table of signatures: which texts a key signed. -/
def signingHost (library : Library) (signatures : List (String × List UInt8 × List UInt8)) :
    Host Int String (List String) :=
  { lexicalHost library with
    verify := fun key payload signature => decide ((key, payload, signature) ∈ signatures) }

theorem verify_signingHost {library : Library}
    {signatures : List (String × List UInt8 × List UInt8)} {key : String}
    {payload signature : List UInt8} :
    (signingHost library signatures).verify key payload signature = true ↔
      (key, payload, signature) ∈ signatures :=
  decide_eq_true_iff

/-- The manifest of a release. -/
def releaseDoc : Json Int :=
  .obj [("manifest_id", .str "manifest-1"), ("boot_release_set_id", .str "boot-1"),
    ("base_release_set_ref", .str "release-1"), ("boot_mode", .str "recovery"),
    ("artifacts", .obj [("initrd_ref", .str "initrd"), ("kernel_ref", .str "kernel"),
      ("rootfs_ref", .str "rootfs")]),
    ("signature_ref", .str "urn:srcos:signature:1"), ("signer_ref", .str "signer-1"),
    ("signature_algorithm", .str fipsReadyAlgorithm), ("crypto_profile", .str fipsReadyProfile),
    ("signature_hex", .str "00")]

def releaseManifest : SignedBootManifest where
  manifestId := "manifest-1"
  bootReleaseSetId := "boot-1"
  baseReleaseSetRef := "release-1"
  bootMode := "recovery"
  artifacts := [("initrd_ref", "initrd"), ("kernel_ref", "kernel"), ("rootfs_ref", "rootfs")]
  signatureRef := "urn:srcos:signature:1"
  signerRef := "signer-1"
  signatureAlgorithm := fipsReadyAlgorithm
  cryptoProfile := fipsReadyProfile
  signatureHex := "00"

/-- A token for it, of one hour. -/
def hourDoc : Json Int :=
  .obj [("token_id", .str "token-1"), ("purpose", .str "recovery"),
    ("audience", .obj [("subject_kind", .str "device")]), ("release_set_ref", .str "release-1"),
    ("boot_release_set_ref", .str "boot-1"), ("one_time_use", .bool true),
    ("issued_at", .str "2026-01-01T00:00:00Z"), ("expires_at", .str "2026-01-01T01:00:00Z"),
    ("status", .str "issued")]

def hourToken : EnrollmentToken where
  tokenId := "token-1"
  purpose := "recovery"
  audience := ⟨"device", none⟩
  releaseSetRef := some "release-1"
  bootReleaseSetRef := some "boot-1"
  oneTimeUse := true
  issuedAt := stageTime
  expiresAt := stageTime + 3600000000000
  status := "issued"

/-- The key of its signer. -/
def signerDoc : Json Int :=
  .obj [("keys", .arr [.obj [("key_ref", .str "signer-1"), ("algorithm", .str fipsReadyAlgorithm),
    ("public_key_pem", .str "-----BEGIN PUBLIC KEY-----"),
    ("not_before", .str "2026-01-01T00:00:00Z")]])]

def signerKey : TrustedKey where
  keyRef := "signer-1"
  algorithm := fipsReadyAlgorithm
  publicKeyPem := "-----BEGIN PUBLIC KEY-----"
  status := defaultActiveStatus
  notBefore := some stageTime
  notAfter := none
  revokedAt := none
  revocationReason := none

/-- What the signer signed. -/
def releasePayload : List UInt8 :=
  (canonicalManifestPayload decimal releaseDoc).toOption.getD []

theorem canonicalPayload_release :
    canonicalManifestPayload decimal releaseDoc = .ok releasePayload := rfl

def releaseSignatures : List (String × List UInt8 × List UInt8) :=
  [("-----BEGIN PUBLIC KEY-----", releasePayload, [0])]

/-- The library of the release: these documents and others, the digests of the three artifacts and
the two times. -/
def releaseLibrary (others : List (Json Int)) : Library where
  documents := [releaseDoc, hourDoc, signerDoc] ++ others
  digests := [([107], kernelDigest), ([105], initrdDigest), ([114], rootfsDigest)]
  times := [("2026-01-01T00:00:00Z", stageTime),
    ("2026-01-01T01:00:00Z", stageTime + 3600000000000)]

def releaseHost (others : List (Json Int)) : Host Int String (List String) :=
  signingHost (releaseLibrary others) releaseSignatures

/-- The files of the release: its documents, three artifacts, and the two directories. -/
def releaseFiles (others : List (Location (List String) × Entry)) : Files (List String) :=
  fun location => List.lookup location
    ([(⟨["srv"], "manifest"⟩, .file (printed releaseDoc)),
      (⟨["srv"], "token"⟩, .file (printed hourDoc)), (⟨["srv"], "keys"⟩, .file (printed signerDoc)),
      (⟨["srv"], "cache"⟩, .dir), (⟨["srv"], "evidence"⟩, .dir),
      (⟨["srv"], "k"⟩, .file [107]), (⟨["srv"], "i"⟩, .file [105]),
      (⟨["srv"], "r"⟩, .file [114])] ++ others)

/-- The request for a plan of it. -/
def releaseArgs : PlanArgs where
  manifest := "manifest"
  token := "token"
  trustedKeys := "keys"
  requireFips := true
  now := none
  out := some "plan"

section

variable {others : List (Json Int)} {rest : List (Location (List String) × Entry)}

/-- A document in the working directory is read. -/
theorem readJson_release {files : Files (List String)} {α : Type} {decode : Json Int → Option α}
    {name : String} {document : Json Int} {a : α} (hname : Plain name)
    (hmem : document ∈ (releaseLibrary others).documents)
    (hfile : files ⟨["srv"], name⟩ = some (.file (printed document)))
    (hdecode : decode document = some a) :
    readJson (releaseHost others) Stage.env files decode name = .ok a := by
  have hlexical : readFile (lexicalHost (releaseLibrary others)) Stage.env files name =
      some (printed document) := readFile_srv hname hfile
  have hread : readFile (releaseHost others) Stage.env files name = some (printed document) :=
    hlexical
  have hparse : (releaseHost others).parse (printed document) = .json document :=
    parse_of_mem hmem
  exact readJson_of_readFile hread hparse hdecode

theorem releaseManifest_shaped : Shaped releaseManifest true where
  manifestId := by decide
  bootReleaseSetId := by decide
  baseReleaseSetRef := by decide
  bootMode := by decide
  artifacts := by
    intro key hkey
    simp only [requiredRefs, List.mem_cons, List.not_mem_nil, or_false] at hkey
    obtain rfl | rfl | rfl := hkey
    · exact ⟨"kernel", rfl, by decide⟩
    · exact ⟨"initrd", rfl, by decide⟩
    · exact ⟨"rootfs", rfl, by decide⟩
  signatureRef := by decide
  fips := fun _ => ⟨rfl, rfl⟩
  signerRef := by decide
  signatureHex := by decide

theorem signerKey_live : LiveKey signerKey stageTime where
  keyRef := by decide
  algorithm := rfl
  publicKeyPem := by decide
  status := rfl
  revokedAt := rfl
  notBefore := by simp [signerKey]
  notAfter := by simp [signerKey]
  revocationReason := by simp [signerKey]

theorem hourToken_authorises : TokenFor hourToken releaseManifest stageTime where
  tokenId := by decide
  known := by decide
  status := rfl
  notExpired := by decide
  ordered := by decide
  oneTimeUse := rfl
  bootReleaseSetRef := rfl
  releaseSetRef := rfl
  purpose := by decide
  subjectKind := by decide
  subjectId := by simp [hourToken]

/-- A plan of the release is accepted. -/
theorem release_accepts : Accepts (releaseHost others) Stage.env (releaseFiles rest) releaseArgs
    releaseDoc releaseManifest hourToken ⟨[signerKey]⟩ signerKey stageTime where
  manifestReads := by
    refine readJson_release (by decide) (by simp [releaseLibrary]) rfl ?_
    rw [toValue_eq_self (by decide)]
  manifestDecodes := rfl
  tokenReads := readJson_release (by decide) (by simp [releaseLibrary]) rfl rfl
  keysRead := readJson_release (by decide) (by simp [releaseLibrary]) rfl rfl
  time := rfl
  shaped := releaseManifest_shaped
  first := ⟨0, rfl, rfl, fun j hj => absurd hj (Nat.not_lt_zero j)⟩
  live := signerKey_live
  algorithm := rfl
  signed := by
    refine ⟨releasePayload, [0], "-----BEGIN PUBLIC KEY-----", canonicalPayload_release,
      by decide, rfl, rfl, ?_⟩
    exact verify_signingHost.mpr (by simp [releaseSignatures])
  authorised := hourToken_authorises

theorem release_output : planOutput (releaseHost others) Stage.env (releaseFiles rest) releaseArgs =
    .ok (outputFor releaseManifest hourToken) :=
  planOutput_eq_ok.mpr ⟨_, _, _, _, _, _, release_accepts, rfl⟩

end

/-- The request for a plan of the release, and at which times it is accepted. -/
theorem release_window : releaseArgs.now = none ∧
    planOutput (releaseHost []) Stage.env (releaseFiles []) releaseArgs =
      .ok (outputFor releaseManifest hourToken) ∧
    ∃ manifestValue manifest token keys key,
      Accepts (releaseHost []) Stage.env (releaseFiles []) releaseArgs manifestValue manifest token
        keys key (Stage.env.utcNow 0) ∧
      ∀ env' : Env (List String), env'.readable = Stage.env.readable →
        (InWindow key token (env'.utcNow 0) →
          planOutput (releaseHost []) env' (releaseFiles []) releaseArgs =
            .ok (outputFor releaseManifest hourToken)) ∧
        (¬ InWindow key token (env'.utcNow 0) →
          ∀ output', planOutput (releaseHost []) env' (releaseFiles []) releaseArgs ≠
            .ok output') :=
  ⟨rfl, release_output, planOutput_window rfl release_output⟩

end Nlboot.Client
