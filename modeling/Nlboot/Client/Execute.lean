import Nlboot.Client.Fetch

/-!
# Executing a handoff

Model of the `execute` command of `rust/nlboot-client/src/main.rs` below its dispatch: the two
`linux-kexec` executors, the `apple-silicon-m2` proof lane and what they share.

* `refuse`: record a refusal and fail. `requireMutationAck`, `requireRootOrDryRun`: the gates.
* `verifyCachedKernelInitrd`: the check of the cache record against the cached files.
* `preExecProof`, `execProof`: the evidence written before the command.
* `executeLinuxKexecLoadOnly`, `executeLinuxKexecExec`, `executeM2AdapterDryRun`.

Results:
* **`verifyCachedKernelInitrd_eq_ok`**: what the check establishes.
* **`occurs_loadOnly`**, **`occurs_exec`**: where the events of an executor come from, and what had
  been established by then.
* `occurs_m2`: the proof lane writes its records and runs nothing.
-/

namespace Nlboot.Client

open Nlboot.Lib Nlboot.Lib.Path

variable {N K D : Type} [DecidableEq D]

/-- An object of `json!`: the `Map` it builds is sorted by name. -/
def jsonObject (members : Members N) : Json N := .obj (btreeMap members)

/-! ## Refusals -/

/-- The name of a refusal record in the evidence directory. -/
def refusalRecordName : String := "refusal-record.json"

/-- The record of a refusal. -/
def refusalRecord (host : Host N K D) (env : Env D) (reason : String) : Json N :=
  jsonObject [("ok", .bool false), ("kind", .str "refusal-record"),
    ("created_at", .str (host.rfc3339 (env.utcNow 0))), ("reason", .str reason)]

/-- `write_refusal`: what fails here is forgotten. -/
def writeRefusal (host : Host N K D) (env : Env D) (evidence reason : String) : Proc D Unit := do
  Act.ignore (createDirAll host env evidence "")
  Act.ignore (writeFile host env (join evidence refusalRecordName)
    (jsonBytes host (refusalRecord host env reason)) "")

/-- `write_refusal` and `bail!`. -/
def refuse {α : Type} (host : Host N K D) (env : Env D) (evidence reason message : String) :
    Proc D α := do
  writeRefusal host env evidence reason
  Act.fail message

/-- `write_refusal` and `bail!` unless a condition holds. -/
def refuseUnless (host : Host N K D) (env : Env D) (evidence : String) (c : Prop) [Decidable c]
    (reason message : String) : Proc D Unit :=
  if c then pure () else refuse host env evidence reason message

/-- `require_mutation_ack`. -/
def requireMutationAck (host : Host N K D) (env : Env D) (evidence : String)
    (mutationAck : Bool) : Proc D Unit :=
  refuseUnless host env evidence (mutationAck = true)
    "missing explicit host-mutation acknowledgement"
    "refusing host mutation without --i-understand-this-mutates-host"

/-- `require_root_or_dry_run`. -/
def requireRootOrDryRun (host : Host N K D) (env : Env D) (evidence : String) (dryRun : Bool)
    (operation : String) : Proc D Unit :=
  refuseUnless host env evidence (dryRun = true ∨ env.euid = 0)
    (operation ++ " requires root or equivalent capability")
    (operation ++ " requires root or equivalent capability")

/-! ## The cache record -/

/-- `load_cache_record`. -/
def loadCacheRecord (host : Host N K D) (env : Env D) (files : Files D) (evidence : String) :
    Except String ArtifactCacheRecord :=
  let path := join evidence cacheRecordName
  match readJson host env files (ArtifactCacheRecord.deserialize host) path with
  | .ok record => pure record
  | .error _ => throw ("missing artifact cache evidence at " ++ path)

/-- `artifact_record_by_kind`. -/
def artifactRecordByKind (record : ArtifactCacheRecord) (kind : String) :
    Except String CachedArtifactRecord :=
  orThrow ("cached " ++ kind ++ " artifact missing")
    (record.artifacts.find? fun artifact => artifact.kind = kind)

/-- The check of one cached file in `verify_cached_kernel_initrd`. -/
def verifyCached (host : Host N K D) (env : Env D) (files : Files D)
    (artifact : CachedArtifactRecord) : Except String Unit := do
  let bytes ← orThrow ("failed to read cached artifact " ++ artifact.cachePath)
    (readFile host env files artifact.cachePath)
  check (sha256Hex host bytes = artifact.sha256)
    ("cached artifact hash mismatch for " ++ artifact.artifactRef)

/-- `verify_cached_kernel_initrd`. -/
def verifyCachedKernelInitrd (host : Host N K D) (env : Env D) (files : Files D)
    (cache evidence : String) : Except String (CachedArtifactRecord × CachedArtifactRecord) := do
  let cacheRecord ← loadCacheRecord host env files evidence
  let kernel ← artifactRecordByKind cacheRecord "kernel"
  let initrd ← artifactRecordByKind cacheRecord "initrd"
  check (Path.startsWith kernel.cachePath cache = true ∧
      Path.startsWith initrd.cachePath cache = true)
    "cached artifact path is outside provided cache directory"
  verifyCached host env files kernel
  verifyCached host env files initrd
  pure (kernel, initrd)

/-! ## Handoffs -/

/-- The evidence of a handoff. -/
def handoffProof (host : Host N K D) (env : Env D) (kind mode : String) (plan : BootPlan)
    (dryRun : Bool) (command : List String) (executeExec : Bool) : Json N :=
  jsonObject [("ok", .bool true), ("kind", .str kind),
    ("created_at", .str (host.rfc3339 (env.utcNow 0))), ("adapter", .str "linux-kexec"),
    ("mode", .str mode), ("dry_run", .bool dryRun),
    ("plan_manifest_id", .str plan.manifestId),
    ("boot_release_set_id", .str plan.bootReleaseSetId),
    ("release_set_ref", .str plan.releaseSetRef), ("command", .arr (command.map .str)),
    ("execute_exec", .bool executeExec)]

/-- The evidence of the load-only phase. -/
def preExecProof (host : Host N K D) (env : Env D) (plan : BootPlan) (dryRun : Bool)
    (command : List String) : Json N :=
  handoffProof host env "pre-exec-proof" "load-only" plan dryRun command false

/-- The evidence of the exec phase. -/
def execProof (host : Host N K D) (env : Env D) (plan : BootPlan) (dryRun : Bool)
    (command : List String) : Json N :=
  handoffProof host env "exec-proof" "exec" plan dryRun command true

def preExecProofName : String := "pre-exec-proof.json"

def execProofName : String := "exec-proof.json"

/-- The arguments that load a kernel. -/
def loadArgs (kernel initrd : CachedArtifactRecord) : List String :=
  ["--load", kernel.cachePath, "--initrd", initrd.cachePath]

/-- `execute_linux_kexec_load_only`. -/
def executeLinuxKexecLoadOnly (host : Host N K D) (env : Env D)
    (planPath cache evidence : String) (mutationAck dryRun : Bool) : Proc D Unit := do
  requireMutationAck host env evidence mutationAck
  requireRootOrDryRun host env evidence dryRun "linux-kexec load-only"
  let files ← Act.get
  let plan ← Act.except (loadPlan host env files planPath)
  let cached ← Act.except (verifyCachedKernelInitrd host env files cache evidence)
  let args := loadArgs cached.1 cached.2
  let proof := preExecProof host env plan dryRun ("kexec" :: args)
  writeJson host env (join evidence preExecProofName) proof
  if dryRun then println (toStringPretty host proof)
  else do
    invokeKexec env args "kexec --load"
    println (toStringPretty host proof)

/-- `execute_linux_kexec_exec`. -/
def executeLinuxKexecExec (host : Host N K D) (env : Env D)
    (planPath cache evidence : String) (mutationAck rebootAck dryRun : Bool) : Proc D Unit := do
  requireMutationAck host env evidence mutationAck
  refuseUnless host env evidence (rebootAck = true) "missing explicit reboot acknowledgement"
    "refusing kexec --exec without --i-understand-this-reboots-host"
  requireRootOrDryRun host env evidence dryRun "linux-kexec exec"
  let files ← Act.get
  let plan ← Act.except (loadPlan host env files planPath)
  let _ ← Act.except (verifyCachedKernelInitrd host env files cache evidence)
  refuseUnless host env evidence
    (pathExists host env files (join evidence preExecProofName) = true)
    "missing pre-exec-proof.json from prior load-only phase"
    "missing pre-exec-proof.json from prior load-only phase"
  let proof := execProof host env plan dryRun ["kexec", "--exec"]
  writeJson host env (join evidence execProofName) proof
  if dryRun then println (toStringPretty host proof)
  else invokeKexec env ["--exec"] "kexec --exec"

/-! ## The M2 proof lane -/

def adapterRecordName : String := "adapter-plan-record.json"

def entryRecordName : String := "boot-entry-record.json"

/-- The records of `execute`. -/
def recordNames : List String :=
  [refusalRecordName, preExecProofName, execProofName, adapterRecordName, entryRecordName]

/-- The record of what the adapter would do. -/
def adapterRecord (host : Host N K D) (env : Env D) (plan : BootPlan) : Json N :=
  jsonObject [("ok", .bool true), ("kind", .str "adapter-plan-record"),
    ("created_at", .str (host.rfc3339 (env.utcNow 0))), ("adapter", .str "apple-silicon-m2"),
    ("mode", .str "recovery-entry-dry-run"), ("dry_run", .bool true),
    ("plan_manifest_id", .str plan.manifestId),
    ("boot_release_set_id", .str plan.bootReleaseSetId),
    ("release_set_ref", .str plan.releaseSetRef), ("mutation_performed", .bool false),
    ("portable_core_preserved", .bool true)]

/-- A boot entry of the record. -/
def bootEntry (plan : BootPlan) (id label role : String) : Json N :=
  jsonObject [("id", .str id), ("label", .str label), ("role", .str role),
    ("boot_release_set_id", .str plan.bootReleaseSetId),
    ("release_set_ref", .str plan.releaseSetRef), ("mutation_performed", .bool false)]

/-- The record of the boot entries. -/
def entryRecord (host : Host N K D) (env : Env D) (plan : BootPlan) : Json N :=
  jsonObject [("ok", .bool true), ("kind", .str "boot-entry-record"),
    ("created_at", .str (host.rfc3339 (env.utcNow 1))), ("adapter", .str "apple-silicon-m2"),
    ("entries", .arr [bootEntry plan "sourceos-normal" "SourceOS" "normal",
      bootEntry plan "sourceos-recovery-installer" "SourceOS Recovery/Installer"
        "recovery-installer"])]

/-- `execute_m2_adapter_dry_run`. -/
def executeM2AdapterDryRun (host : Host N K D) (env : Env D) (planPath evidence : String)
    (mutationAck dryRun : Bool) : Proc D Unit := do
  requireMutationAck host env evidence mutationAck
  refuseUnless host env evidence (dryRun = true)
    "m2 adapter proof currently requires dry-run mode"
    "m2 adapter proof currently requires dry-run mode"
  let files ← Act.get
  let plan ← Act.except (loadPlan host env files planPath)
  createDirAll host env evidence ("failed to create evidence dir " ++ evidence)
  writeJson host env (join evidence adapterRecordName) (adapterRecord host env plan)
  writeJson host env (join evidence entryRecordName) (entryRecord host env plan)
  println (toStringPretty host (adapterRecord host env plan))

/-! ## What the checks establish -/

variable {host : Host N K D} {env : Env D} {files : Files D} {before : List (Event D)}
  {event : Event D}

/-- The cached file is there and has the recorded digest. -/
def Cached (host : Host N K D) (env : Env D) (files : Files D)
    (artifact : CachedArtifactRecord) : Prop :=
  ∃ bytes, readFile host env files artifact.cachePath = some bytes ∧
    sha256Hex host bytes = artifact.sha256

/-- The record of the evidence directory names the two artifacts first of their kinds, their paths
are under the cache, and the files there have the recorded digests. -/
structure Verified (host : Host N K D) (env : Env D) (files : Files D) (cache evidence : String)
    (kernel initrd : CachedArtifactRecord) : Prop where
  record : ∃ record, loadCacheRecord host env files evidence = .ok record ∧
    record.artifacts.find? (fun artifact => artifact.kind = "kernel") = some kernel ∧
    record.artifacts.find? (fun artifact => artifact.kind = "initrd") = some initrd
  kernelPath : Path.startsWith kernel.cachePath cache = true
  initrdPath : Path.startsWith initrd.cachePath cache = true
  kernel : Cached host env files kernel
  initrd : Cached host env files initrd

omit [DecidableEq D] in
theorem verifyCached_eq_ok {artifact : CachedArtifactRecord} {u : Unit} :
    verifyCached host env files artifact = .ok u ↔ Cached host env files artifact := by
  unfold verifyCached Cached
  simp only [bind_eq_ok, orThrow_eq_ok, check_eq_ok]

omit [DecidableEq D] in
/-- **The check of the cache** passes iff the artifacts are verified. -/
theorem verifyCachedKernelInitrd_eq_ok {cache evidence : String}
    {cached : CachedArtifactRecord × CachedArtifactRecord} :
    verifyCachedKernelInitrd host env files cache evidence = .ok cached ↔
      Verified host env files cache evidence cached.1 cached.2 := by
  unfold verifyCachedKernelInitrd artifactRecordByKind
  simp only [bind_eq_ok, orThrow_eq_ok, check_eq_ok, verifyCached_eq_ok, exists_const, pure_eq_ok]
  constructor
  · rintro ⟨record, hrecord, kernel, hkernel, initrd, hinitrd, ⟨hkpath, hipath⟩, hk, hi, rfl⟩
    exact ⟨⟨record, hrecord, hkernel, hinitrd⟩, hkpath, hipath, hk, hi⟩
  · rintro ⟨⟨record, hrecord, hkernel, hinitrd⟩, hkpath, hipath, hk, hi⟩
    exact ⟨record, hrecord, _, hkernel, _, hinitrd, ⟨hkpath, hipath⟩, hk, hi, rfl⟩

/-! ## Where the events come from -/

/-- A refusal is recorded. -/
def RefusalEvent (host : Host N K D) (env : Env D) (evidence : String) (event : Event D) : Prop :=
  MakesDir host (components evidence) event ∨ ∃ reason,
    WritesFile host env (join evidence refusalRecordName)
      (jsonBytes host (refusalRecord host env reason)) event

/-- A document is written, with the directory it is in. -/
def RecordEvent (host : Host N K D) (env : Env D) (evidence name : String) (value : Json N)
    (event : Event D) : Prop :=
  MakesDir host (components evidence) event ∨
    WritesFile host env (join evidence name) (jsonBytes host value) event

theorem occurs_writeRecord {evidence name : String} {value : Json N} (hname : Plain name)
    (h : (writeJson host env (join evidence name) value).Occurs files before event) :
    RecordEvent host env evidence name value event := by
  rcases occurs_writeJson h with hdir | hwrite
  · rw [dropLast_components_join hname] at hdir
    exact .inl hdir
  · exact .inr hwrite

theorem occurs_refuse {α : Type} {evidence reason message : String}
    (h : (refuse host env evidence reason message : Proc D α).Occurs files before event) :
    RefusalEvent host env evidence event := by
  unfold refuse writeRefusal at h
  rcases Act.occurs_bind.mp h with h | ⟨_, _, _, -, -, h⟩
  · rcases Act.occurs_bind.mp h with h | ⟨_, _, _, -, -, h⟩
    · exact .inl (occurs_createDirAll (Act.occurs_ignore.mp h))
    · exact .inr ⟨reason, (occurs_writeFile (Act.occurs_ignore.mp h)).2⟩
  · exact absurd h Act.not_occurs_fail

/-- A gate records a refusal, or it is passed and does nothing. -/
theorem occurs_refuseUnless_bind {β : Type} {evidence reason message : String} {c : Prop}
    [Decidable c] {f : Unit → Proc D β}
    (h : (refuseUnless host env evidence c reason message >>= f).Occurs files before event) :
    RefusalEvent host env evidence event ∨ c ∧ (f ()).Occurs files before event := by
  unfold refuseUnless at h
  by_cases hc : c
  · rw [if_pos hc] at h
    rcases Act.occurs_bind.mp h with h | ⟨_, _, _, heq, rfl, h⟩
    · exact absurd h Act.not_occurs_pure
    · obtain ⟨-, rfl⟩ := Prod.mk.inj heq
      exact .inr ⟨hc, h⟩
  · rw [if_neg hc] at h
    rcases Act.occurs_bind.mp h with h | ⟨_, _, _, heq, -, -⟩
    · exact .inl (occurs_refuse h)
    · unfold refuse at heq
      obtain ⟨_, _, _, -, hfail, -⟩ := Act.bind_eq_ok.mp heq
      exact absurd hfail Act.fail_ne_ok

theorem plain_refusalRecordName : Plain refusalRecordName := by decide

theorem plain_preExecProofName : Plain preExecProofName := by decide

theorem plain_execProofName : Plain execProofName := by decide

theorem plain_adapterRecordName : Plain adapterRecordName := by decide

theorem plain_entryRecordName : Plain entryRecordName := by decide

/-- The checks of an executor passed: the mutation is acknowledged, a real run has the rights, the
plan loads and its artifacts are verified. -/
structure Ready (host : Host N K D) (env : Env D) (files : Files D)
    (planPath cache evidence : String) (mutationAck dryRun : Bool) (plan : BootPlan)
    (kernel initrd : CachedArtifactRecord) : Prop where
  mutationAck : mutationAck = true
  root : dryRun = true ∨ env.euid = 0
  plan : loadPlan host env files planPath = .ok plan
  verified : Verified host env files cache evidence kernel initrd

/-- What an executor does once its checks passed: it writes its proof, and in a real run it runs
its command when the proof is written. -/
inductive HandoffEvent (host : Host N K D) (env : Env D) (files : Files D) (evidence name : String)
    (proof : Json N) (dryRun : Bool) (command : List String) (before : List (Event D)) :
    Event D → Prop where
  | record {event : Event D} (h : RecordEvent host env evidence name proof event) :
      HandoffEvent host env files evidence name proof dryRun command before event
  | print (text : List Char) :
      HandoffEvent host env files evidence name proof dryRun command before (.print text)
  | kexec (hreal : dryRun = false)
      (hwritten : writeJson host env (join evidence name) proof files = (.ok (), before)) :
      HandoffEvent host env files evidence name proof dryRun command before (.kexec command)

/-- The last steps of both executors. -/
theorem occurs_handoff {evidence name : String} {proof : Json N} {dryRun : Bool}
    {command : List String} {run : Proc D Unit} (hname : Plain name)
    (hrun : ∀ {files before event}, run.Occurs files before event →
      before = [] ∧ event = .kexec command ∨ ∃ text, event = .print text)
    (h : (do
      writeJson host env (join evidence name) proof
      if dryRun then println (toStringPretty host proof) else run : Proc D Unit).Occurs files before
        event) :
    HandoffEvent host env files evidence name proof dryRun command before event := by
  rcases Act.occurs_bind.mp h with hwrite | ⟨_, log, rest, hwritten, rfl, hend⟩
  · exact .record (occurs_writeRecord hname hwrite)
  · cases dryRun with
    | true =>
      rw [if_pos rfl] at hend
      obtain ⟨-, rfl⟩ := Act.occurs_emit.mp hend
      exact .print _
    | false =>
      rw [if_neg Bool.false_ne_true] at hend
      obtain ⟨rfl, rfl⟩ | ⟨text, rfl⟩ := hrun hend
      · rw [List.append_nil]
        exact .kexec rfl hwritten
      · exact .print text

/-- A command, and a text once it succeeded. -/
theorem occurs_invokeKexec_println {args : List String} {what : String} {text : List Char}
    (h : (do
      invokeKexec env args what
      println text : Proc D Unit).Occurs files before event) :
    before = [] ∧ event = .kexec ("kexec" :: args) ∨ ∃ text, event = .print text := by
  rcases Act.occurs_bind.mp h with h | ⟨_, _, _, -, -, h⟩
  · exact .inl (occurs_invokeKexec h)
  · exact .inr ⟨_, (Act.occurs_emit.mp h).2⟩

/-- **Where the events of the load-only executor come from**: a refusal, or a handoff of verified
artifacts. -/
theorem occurs_loadOnly {planPath cache evidence : String} {mutationAck dryRun : Bool}
    (h : (executeLinuxKexecLoadOnly host env planPath cache evidence mutationAck dryRun).Occurs
      files before event) :
    RefusalEvent host env evidence event ∨ ∃ plan kernel initrd,
      Ready host env files planPath cache evidence mutationAck dryRun plan kernel initrd ∧
      HandoffEvent host env files evidence preExecProofName
        (preExecProof host env plan dryRun ("kexec" :: loadArgs kernel initrd)) dryRun
        ("kexec" :: loadArgs kernel initrd) before event := by
  unfold executeLinuxKexecLoadOnly at h
  obtain h | ⟨hack, h⟩ := occurs_refuseUnless_bind h
  · exact .inl h
  obtain h | ⟨hroot, h⟩ := occurs_refuseUnless_bind h
  · exact .inl h
  rw [Act.occurs_get_bind] at h
  obtain ⟨plan, hplan, h⟩ := Act.occurs_except_bind.mp h
  obtain ⟨cached, hcached, h⟩ := Act.occurs_except_bind.mp h
  have hverified := verifyCachedKernelInitrd_eq_ok.mp hcached
  refine .inr ⟨plan, cached.1, cached.2, ⟨hack, hroot, hplan, hverified⟩, ?_⟩
  exact occurs_handoff plain_preExecProofName occurs_invokeKexec_println h

/-- **Where the events of the exec executor come from**: a refusal, or a handoff of verified
artifacts with both acknowledgements and an earlier proof in place. -/
theorem occurs_exec {planPath cache evidence : String} {mutationAck rebootAck dryRun : Bool}
    (h : (executeLinuxKexecExec host env planPath cache evidence mutationAck rebootAck
      dryRun).Occurs files before event) :
    RefusalEvent host env evidence event ∨ ∃ plan kernel initrd,
      Ready host env files planPath cache evidence mutationAck dryRun plan kernel initrd ∧
      rebootAck = true ∧ pathExists host env files (join evidence preExecProofName) = true ∧
      HandoffEvent host env files evidence execProofName
        (execProof host env plan dryRun ["kexec", "--exec"]) dryRun ["kexec", "--exec"] before
        event := by
  unfold executeLinuxKexecExec at h
  obtain h | ⟨hack, h⟩ := occurs_refuseUnless_bind h
  · exact .inl h
  obtain h | ⟨hreboot, h⟩ := occurs_refuseUnless_bind h
  · exact .inl h
  obtain h | ⟨hroot, h⟩ := occurs_refuseUnless_bind h
  · exact .inl h
  rw [Act.occurs_get_bind] at h
  obtain ⟨plan, hplan, h⟩ := Act.occurs_except_bind.mp h
  obtain ⟨cached, hcached, h⟩ := Act.occurs_except_bind.mp h
  have hverified := verifyCachedKernelInitrd_eq_ok.mp hcached
  obtain h | ⟨hexists, h⟩ := occurs_refuseUnless_bind h
  · exact .inl h
  refine .inr ⟨plan, cached.1, cached.2, ⟨hack, hroot, hplan, hverified⟩, hreboot, hexists, ?_⟩
  exact occurs_handoff plain_execProofName (fun hrun => .inl (occurs_invokeKexec hrun)) h

/-- The proof lane writes its two records and prints one of them. -/
theorem occurs_m2 {planPath evidence : String} {mutationAck dryRun : Bool}
    (h : (executeM2AdapterDryRun host env planPath evidence mutationAck dryRun).Occurs files before
      event) :
    RefusalEvent host env evidence event ∨ (∃ plan,
      RecordEvent host env evidence adapterRecordName (adapterRecord host env plan) event ∨
        RecordEvent host env evidence entryRecordName (entryRecord host env plan) event) ∨
      ∃ text, event = .print text := by
  unfold executeM2AdapterDryRun at h
  obtain h | ⟨-, h⟩ := occurs_refuseUnless_bind h
  · exact .inl h
  obtain h | ⟨-, h⟩ := occurs_refuseUnless_bind h
  · exact .inl h
  rw [Act.occurs_get_bind] at h
  obtain ⟨plan, -, h⟩ := Act.occurs_except_bind.mp h
  rcases Act.occurs_bind.mp h with h | ⟨_, _, _, -, -, h⟩
  · exact .inl (.inl (occurs_createDirAll h))
  rcases Act.occurs_bind.mp h with h | ⟨_, _, _, -, -, h⟩
  · exact .inr (.inl ⟨plan, .inl (occurs_writeRecord plain_adapterRecordName h)⟩)
  rcases Act.occurs_bind.mp h with h | ⟨_, _, _, -, -, h⟩
  · exact .inr (.inl ⟨plan, .inr (occurs_writeRecord plain_entryRecordName h)⟩)
  · exact .inr (.inr ⟨_, (Act.occurs_emit.mp h).2⟩)

end Nlboot.Client
