import Nlboot.Client.HandoffGate

/-!
# Which plan the evidence is about

A handoff of `rust/nlboot-client/src/main.rs` brings three documents together: the plan it is given,
the record a fetch left and the proof it writes. The proof names the plan and the command names the
artifacts of the record, but nothing compares the plan with the record.

* `MadeFor`: the record carries the identifiers of the plan, and its kernel and initrd are the ones
  the plan refers to.
* `LeftByFetch`: the record of an evidence directory is what a fetch for a plan left.
* **`madeFor_of_leftByFetch`**: what a fetch for a plan left was made for it.
* **`handoff_attribution`**: what the documents of a handoff have to do with each other.
* `otherRelease_executed`: the plan of one release with the kernel of another.
-/

namespace Nlboot.Client

open Nlboot.Lib Nlboot.Lib.Path

variable {N K D : Type} [DecidableEq D] {host : Host N K D} {env : Env D} {files : Files D}

/-- The record was made for the plan. -/
structure MadeFor (plan : BootPlan) (record : ArtifactCacheRecord)
    (kernel initrd : CachedArtifactRecord) : Prop where
  planManifestId : record.planManifestId = plan.manifestId
  bootReleaseSetId : record.bootReleaseSetId = plan.bootReleaseSetId
  releaseSetRef : record.releaseSetRef = plan.releaseSetRef
  kernelRef : plan.artifacts.lookup "kernel_ref" = some kernel.artifactRef
  initrdRef : plan.artifacts.lookup "initrd_ref" = some initrd.artifactRef

/-- The first artifact of a kind was recorded for the reference of its key. -/
theorem lookup_of_fetchedFor {key kind : String} (hkey : planKeyToArtifactKind key = .ok kind)
    {artifact : CachedArtifactRecord} : ∀ {planned : List (String × String)}
      {cached : List CachedArtifactRecord}, List.Forall₂ FetchedFor planned cached →
        cached.find? (fun artifact => artifact.kind = kind) = some artifact →
          planned.lookup key = some artifact.artifactRef
  | _, _, .nil, h => absurd h (by simp)
  | (planKey, ref) :: planned, first :: cached, .cons hfirst hrest, h => by
    obtain ⟨hkind, href⟩ := hfirst
    by_cases hsame : first.kind = kind
    · rw [List.find?_cons_of_pos (by simpa using hsame)] at h
      obtain rfl := Option.some.inj h
      obtain rfl : key = planKey := planKeyToArtifactKind_inj hkey (hsame ▸ hkind)
      rw [List.lookup_cons, beq_self_eq_true]
      exact congrArg some href.symm
    · rw [List.find?_cons_of_neg (by simpa using hsame)] at h
      have hne : (key == planKey) = false := by
        refine beq_eq_false_iff_ne.mpr ?_
        rintro rfl
        exact hsame (Except.ok.inj (hkind.symm.trans hkey))
      rw [List.lookup_cons, hne]
      exact lookup_of_fetchedFor hkey hrest h

/-- What a fetch found makes records for the references of the plan. -/
theorem Fetched.fetchedFor {planPath artifactMapPath cache evidence : String} {plan : BootPlan}
    {artifactMap : ArtifactMap} {found : List (ArtifactDescriptor × List UInt8)}
    {made after : Files D}
    (h : Fetched host env files planPath artifactMapPath cache evidence plan artifactMap found made
      after) : List.Forall₂ FetchedFor plan.artifacts (cachedArtifacts cache found) := by
  unfold cachedArtifacts
  rw [List.forall₂_map_right_iff]
  refine h.fetchable.imp fun planned f hf => ?_
  obtain ⟨_, -, hfetchable⟩ := hf
  exact hfetchable.fetchedFor

/-- The record of the evidence directory is what a fetch for the plan left there or elsewhere. -/
def LeftByFetch (host : Host N K D) (env : Env D) (files : Files D) (evidence : String)
    (plan : BootPlan) : Prop :=
  ∃ env₀ files₀ planPath artifactMapPath cache evidence₀ log artifactMap found made bytes,
    fetchArtifacts host env₀ planPath artifactMapPath cache evidence₀ files₀ = (.ok (), log) ∧
    Fetched host env₀ files₀ planPath artifactMapPath cache evidence₀ plan artifactMap found made
      (replay files₀ log) ∧
    ReadsBack host (cacheRecord env₀ plan artifactMap (cachedArtifacts cache found)) ∧
    replay files₀ log (recordPlace host evidence₀) = some (.file bytes) ∧
    readFile host env files (join evidence cacheRecordName) = some bytes

/-- **What a fetch for a plan left was made for it.** -/
theorem madeFor_of_leftByFetch {evidence : String} {plan : BootPlan} {record : ArtifactCacheRecord}
    {kernel initrd : CachedArtifactRecord} (hleft : LeftByFetch host env files evidence plan)
    (hrecord : loadCacheRecord host env files evidence = .ok record)
    (hkernel : record.artifacts.find? (fun artifact => artifact.kind = "kernel") = some kernel)
    (hinitrd : record.artifacts.find? (fun artifact => artifact.kind = "initrd") = some initrd) :
    MadeFor plan record kernel initrd := by
  obtain ⟨env₀, files₀, planPath, artifactMapPath, cache, evidence₀, log, artifactMap, found, made,
    bytes, -, hfetched, hback, hplace, hread⟩ := hleft
  rw [hfetched.recorded] at hplace
  obtain rfl := Entry.file.inj (Option.some.inj hplace)
  obtain rfl := Except.ok.inj ((loadCacheRecord_of_readsBack hread hback).symm.trans hrecord)
  exact ⟨rfl, rfl, rfl, lookup_of_fetchedFor rfl hfetched.fetchedFor hkernel,
    lookup_of_fetchedFor rfl hfetched.fetchedFor hinitrd⟩

/-- What the documents of a handoff have to do with each other: the proof names the plan and, in the
load-only phase, the files of the record's first kernel and first initrd, which are verified. The
record was made for the plan if a fetch for the plan left it. -/
structure Attributed (host : Host N K D) (env : Env D) (files : Files D) (args : ExecuteArgs)
    (plan : BootPlan) (record : ArtifactCacheRecord) (kernel initrd : CachedArtifactRecord)
    (proof : Json N) (command : List String) : Prop where
  planLoads : loadPlan host env files args.plan = .ok plan
  recordLoads : loadCacheRecord host env files args.evidence = .ok record
  firstKernel : record.artifacts.find? (fun artifact => artifact.kind = "kernel") = some kernel
  firstInitrd : record.artifacts.find? (fun artifact => artifact.kind = "initrd") = some initrd
  verified : Verified host env files args.cache args.evidence kernel initrd
  names : Names proof plan command
  command : args.loadOnly = true → command = "kexec" :: loadArgs kernel initrd
  madeFor : LeftByFetch host env files args.evidence plan → MadeFor plan record kernel initrd

theorem attributed_of_ready {args : ExecuteArgs} {plan : BootPlan}
    {kernel initrd : CachedArtifactRecord} {proof : Json N} {command : List String}
    (hready : Ready host env files args.plan args.cache args.evidence args.mutationAck args.dryRun
      plan kernel initrd) (hnames : Names proof plan command)
    (hcommand : args.loadOnly = true → command = "kexec" :: loadArgs kernel initrd) :
    ∃ record, Attributed host env files args plan record kernel initrd proof command := by
  obtain ⟨record, hrecord, hkernel, hinitrd⟩ := hready.verified.record
  exact ⟨record,
    { planLoads := hready.plan
      recordLoads := hrecord
      firstKernel := hkernel
      firstInitrd := hinitrd
      verified := hready.verified
      names := hnames
      command := hcommand
      madeFor := fun hleft => madeFor_of_leftByFetch hleft hrecord hkernel hinitrd }⟩

/-- **What a handoff attributes.** Whatever the `linux-kexec` executors do is to record a refusal,
or comes after their checks passed: then the documents are attributed as `Attributed` says. -/
theorem handoff_attribution {args : ExecuteArgs} (hadapter : args.adapter = "linux-kexec")
    {before : List (Event D)} {event : Event D}
    (h : (runExecute host env args).Occurs files before event) :
    RefusalEvent host env args.evidence event ∨
      ∃ plan record kernel initrd name proof command,
        Attributed host env files args plan record kernel initrd proof command ∧
          HandoffEvent host env files args.evidence name proof args.dryRun command before
            event := by
  obtain h | ⟨hm2, -⟩ | ⟨-, ⟨-, -, h⟩ | ⟨hload, -, h⟩⟩ := occurs_runExecute h
  · exact .inl h
  · exact absurd (hadapter.symm.trans hm2) (by decide)
  · obtain h | ⟨plan, kernel, initrd, hready, h⟩ := occurs_loadOnly h
    · exact .inl h
    obtain ⟨record, hattributed⟩ :=
      attributed_of_ready hready names_handoffProof fun _ => rfl
    exact .inr ⟨plan, record, kernel, initrd, _, _, _, hattributed, h⟩
  · obtain h | ⟨plan, kernel, initrd, hready, -, -, h⟩ := occurs_exec h
    · exact .inl h
    obtain ⟨record, hattributed⟩ := attributed_of_ready hready names_handoffProof fun hload' =>
      absurd (hload.symm.trans hload') (by simp)
    exact .inr ⟨plan, record, kernel, initrd, _, _, _, hattributed, h⟩

/-! ## The kernel of another release -/

/-- The plan is of one release, the record of another. -/
def otherRelease : Setting where
  release := "r1"
  recorded := "r2"
  kernelRef := "kernel-2"
  kernelPath := "c/k"
  initrdPath := "c/i"

def otherStage : Stage :=
  otherRelease.stage [] [(⟨["srv"], "c"⟩, .dir), (⟨["srv", "c"], "k"⟩, .file [107]),
    (⟨["srv", "c"], "i"⟩, .file [105])]

/-- A real load-only run. -/
def otherArgs : ExecuteArgs where
  plan := "plan"
  cache := "c"
  adapter := "linux-kexec"
  loadOnly := true
  execNow := false
  evidence := "evidence"
  mutationAck := true
  rebootAck := false
  dryRun := false

/-- The command that loads the kernel of the other release. -/
def otherCommand : List String := "kexec" :: loadArgs otherRelease.kernel otherRelease.initrd

theorem otherStage_ready :
    Ready otherStage.host Stage.env otherStage.files "plan" "c" "evidence" true
    false (planFor "r1") otherRelease.kernel otherRelease.initrd := by
  have hkernel : locate otherStage.host (components "c/k") = some ⟨["srv", "c"], "k"⟩ := by
    decide
  have hinitrd : locate otherStage.host (components "c/i") = some ⟨["srv", "c"], "i"⟩ := by
    decide
  exact ⟨rfl, .inr rfl, Stage.loadPlan_stage rfl,
    Setting.verified rfl (by decide) (by decide) hkernel hinitrd rfl rfl⟩

theorem otherStage_occurs : ∃ before,
    (runExecute otherStage.host Stage.env otherArgs).Occurs otherStage.files before
      (.kexec otherCommand) := by
  have hmissing : otherStage.files ⟨["srv", "evidence"], preExecProofName⟩ = none := by
    decide
  have hwritten := otherStage.writeJson_evidence otherStage.files
    (preExecProof otherStage.host Stage.env (planFor "r1") false otherCommand)
    plain_preExecProofName rfl (by rw [hmissing]; simp)
  have hrun : runExecute otherStage.host Stage.env otherArgs =
      executeLinuxKexecLoadOnly otherStage.host Stage.env "plan" "c" "evidence" true false :=
    runExecute_loadOnly rfl rfl rfl
  rw [hrun]
  exact ⟨_, occurs_loadOnly_of_ready otherStage_ready hwritten⟩

/-- The run of the other release is attributed. -/
theorem otherRelease_attributed : ∃ before,
    RefusalEvent otherStage.host Stage.env "evidence" (.kexec otherCommand) ∨
      ∃ plan record kernel initrd name proof command,
        Attributed otherStage.host Stage.env otherStage.files otherArgs plan record kernel initrd
          proof command ∧
          HandoffEvent otherStage.host Stage.env otherStage.files "evidence" name proof false
            command
            before (.kexec otherCommand) := by
  obtain ⟨before, hoccurs⟩ := otherStage_occurs
  exact ⟨before, handoff_attribution rfl hoccurs⟩

/-- The run loads a kernel for a plan that neither the record nor the kernel was made for. -/
theorem otherRelease_executed :
    (∃ before, (runExecute otherStage.host Stage.env otherArgs).Occurs otherStage.files before
      (.kexec otherCommand)) ∧
    loadPlan otherStage.host Stage.env otherStage.files "plan" = .ok (planFor "r1") ∧
    ∃ record, loadCacheRecord otherStage.host Stage.env otherStage.files "evidence" = .ok record ∧
      record.planManifestId ≠ (planFor "r1").manifestId ∧
      record.bootReleaseSetId ≠ (planFor "r1").bootReleaseSetId ∧
      record.releaseSetRef ≠ (planFor "r1").releaseSetRef ∧
      (planFor "r1").artifacts.lookup "kernel_ref" ≠ some otherRelease.kernel.artifactRef :=
  ⟨otherStage_occurs, Stage.loadPlan_stage rfl, _, Stage.loadCacheRecord_stage rfl,
    show "r2" ≠ "r1" by decide, show "r2" ≠ "r1" by decide, show "r2" ≠ "r1" by decide,
    show some "kernel" ≠ some "kernel-2" by decide⟩

end Nlboot.Client
