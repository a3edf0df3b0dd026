import Nlboot.Client.Decision

/-!
# Refusals on record

The gates of `execute` (`rust/nlboot-client/src/main.rs`) write `refusal-record.json` before they
end the invocation. The checks that share helpers with `fetch` (`load_plan`, and
`verify_cached_kernel_initrd` with `load_cache_record` and `artifact_record_by_kind`) end it with
`?` or `bail!`, and nothing is written.

* `Writable`: the records of `execute` can be written to the evidence directory.
* `RefusalRecorded`, `LeavesEvidence`: the last thing an invocation did is the record of a refusal;
  an invocation that fails without having run its command did that.

Results:
* `refuse_of_writable`, `writeJson_of_writable`: what is written.
* `run_of_writable`: a handoff fails by its command only.
* **`leavesEvidence_iff`**: a failed invocation leaves evidence exactly if the plan loads and the
  cache holds its artifacts whenever the flags pass their gates.
* `missingRecord_leavesNoEvidence`: no cache record, and no refusal record.
-/

namespace Nlboot.Client

open Nlboot.Lib Nlboot.Lib.Path

variable {N K D : Type} [DecidableEq D]

/-- The place of a record in the evidence directory. -/
def evidencePlace (host : Host N K D) (evidence name : String) : Location D :=
  ⟨host.dirOf (components evidence), name⟩

/-- The evidence directory is there or can be made, with these directories, and then the records can
be written to it. -/
def Writable (host : Host N K D) (env : Env D) (files : Files D) (evidence : String)
    (dirs : List (Event D)) : Prop :=
  createDirAll host env evidence "" files = (.ok (), dirs) ∧
    ∀ name ∈ recordNames, replay files dirs (evidencePlace host evidence name) ≠ some .dir ∧
      env.writes (evidencePlace host evidence name) = .done

/-- The log ends with the record of a refusal. -/
def RefusalRecorded (host : Host N K D) (evidence : String) (log : List (Event D)) : Prop :=
  ∃ earlier record,
    log = earlier ++
        [.write (evidencePlace host evidence refusalRecordName) (jsonBytes host record)] ∧
      valueGet record "kind" = some (.str "refusal-record") ∧
      valueGet record "ok" = some (.bool false)

/-- If the invocation fails and has not run its command, it leaves the record of a refusal. -/
def LeavesEvidence (host : Host N K D) (env : Env D) (files : Files D) (args : ExecuteArgs) :
    Prop :=
  ∀ e log, runExecute host env args files = (.error e, log) →
    (∀ event ∈ log, event.isKexec = false) → RefusalRecorded host args.evidence log

/-! ## Writing to the evidence directory -/

variable {host : Host N K D} {env : Env D} {files : Files D} {args : ExecuteArgs}
  {evidence : String} {dirs log : List (Event D)}

/-- Making directories succeeds one by one: each is there, or it is made. -/
theorem makeDirs_cons_eq_ok {error : String} {path : List Component} {paths : List (List Component)}
    {u : Unit} : makeDirs host env error (path :: paths) files = (.ok u, log) ↔
      (∀ location, locate host path = some location → files location = some .dir) ∧
          makeDirs host env error paths files = (.ok u, log) ∨
        ∃ location rest, locate host path = some location ∧ files location = none ∧
          env.mkdirFails location = false ∧ log = .mkdir location :: rest ∧
            makeDirs host env error paths (Replay.apply files (.mkdir location)) =
              (.ok u, rest) := by
  conv_lhs => unfold makeDirs
  cases hloc : locate host path with
  | none => simp
  | some location =>
    simp only [Act.get_bind_apply]
    cases hmade : files location with
    | some found =>
      cases found with
      | dir => simp [hmade]
      | file bytes => simp [hmade, Act.fail]
    | none =>
      simp only [Option.some.injEq, forall_eq', hmade, reduceCtorEq, false_and, false_or,
        exists_and_left, exists_eq_left', true_and]
      rw [Act.except_bind_eq_ok]
      constructor
      · rintro ⟨_, hcheck, h⟩
        obtain ⟨_, _, rest, hemit, hrest, rfl⟩ := Act.bind_eq_ok.mp h
        obtain ⟨-, rfl⟩ := Prod.mk.inj hemit
        exact ⟨check_eq_ok.mp hcheck, rest, rfl, hrest⟩
      · rintro ⟨hfails, rest, rfl, hrest⟩
        exact ⟨(), check_eq_ok.mpr hfails,
          Act.bind_eq_ok.mpr ⟨(), [.mkdir location], rest, rfl, hrest, rfl⟩⟩

/-- The directories that are made do not depend on the message of a failure. -/
theorem makeDirs_error_irrel {error error' : String} : ∀ {paths : List (List Component)}
    {files : Files D} {dirs : List (Event D)},
      makeDirs host env error paths files = (.ok (), dirs) →
        makeDirs host env error' paths files = (.ok (), dirs)
  | [], _, _, h => h
  | _ :: _, _, _, h => by
    rw [makeDirs_cons_eq_ok] at h ⊢
    obtain ⟨hthere, hrest⟩ | ⟨location, rest, hloc, hnone, hmade, rfl, hrest⟩ := h
    · exact .inl ⟨hthere, makeDirs_error_irrel hrest⟩
    · exact .inr ⟨location, rest, hloc, hnone, hmade, rfl, makeDirs_error_irrel hrest⟩

/-- What was made is there. -/
theorem dirs_of_makeDirs {error : String} : ∀ {paths : List (List Component)} {files : Files D}
    {dirs : List (Event D)}, makeDirs host env error paths files = (.ok (), dirs) →
      ∀ path ∈ paths, ∀ location, locate host path = some location →
        replay files dirs location = some .dir
  | [], _, _, _ => fun _ hmem => absurd hmem List.not_mem_nil
  | first :: paths, files, dirs, h => by
    have hkeeps : ∀ {files : Files D} {dirs : List (Event D)} {location : Location D},
        makeDirs host env error paths files = (.ok (), dirs) → files location = some .dir →
          replay files dirs location = some .dir := by
      intro files dirs location hdirs hdir
      have hkept : (makeDirs host env error paths).stateAfter files location = some .dir :=
        makeDirs_keeps hdir
      rwa [Act.stateAfter, hdirs] at hkept
    intro path hpath location hlocation
    obtain ⟨hthere, hrest⟩ | ⟨made, rest, hloc, -, -, rfl, hrest⟩ := makeDirs_cons_eq_ok.mp h
    · rcases List.mem_cons.mp hpath with rfl | hpath
      · exact hkeeps hrest (hthere location hlocation)
      · exact dirs_of_makeDirs hrest path hpath location hlocation
    · rw [replay_cons]
      rcases List.mem_cons.mp hpath with rfl | hpath
      · obtain rfl := Option.some.inj (hloc.symm.trans hlocation)
        exact hkeeps hrest (if_pos rfl)
      · exact dirs_of_makeDirs hrest path hpath location hlocation

theorem plain_of_mem_recordNames {name : String} (h : name ∈ recordNames) : Plain name := by
  simp only [recordNames, List.mem_cons, List.not_mem_nil, or_false] at h
  obtain rfl | rfl | rfl | rfl | rfl := h
  · exact plain_refusalRecordName
  · exact plain_preExecProofName
  · exact plain_execProofName
  · exact plain_adapterRecordName
  · exact plain_entryRecordName

theorem Writable.createDirAll_apply (h : Writable host env files evidence dirs) (error : String) :
    createDirAll host env evidence error files = (.ok (), dirs) :=
  makeDirs_error_irrel h.1

/-- Once they were made, the directories of the evidence are there. -/
theorem Writable.dirsExist (h : Writable host env files evidence dirs) :
    DirsExist host (replay files dirs) (components evidence) := by
  intro path hprefix location hlocation
  exact dirs_of_makeDirs h.1 path ((List.mem_inits _ _).mpr hprefix) location hlocation

/-- **A record is written** to a writable evidence directory. -/
theorem writeJson_of_writable (h : Writable host env files evidence dirs) {name : String}
    (hname : name ∈ recordNames) (value : Json N) :
    writeJson host env (join evidence name) value files =
      (.ok (), dirs ++ [.write (evidencePlace host evidence name) (jsonBytes host value)]) := by
  have hplain := plain_of_mem_recordNames hname
  obtain ⟨dir, hdir, hcomponents⟩ := exists_parent_join evidence hplain
  have hparent : createParent host env (join evidence name) files = (.ok (), dirs) := by
    unfold createParent
    rw [hdir]
    show makeDirs host env _ (components dir).inits files = _
    rw [hcomponents]
    exact h.createDirAll_apply _
  obtain ⟨hentry, hdone⟩ := h.2 name hname
  unfold writeJson
  rw [Act.bind_apply_ok hparent, writeFile_apply hplain h.dirsExist hentry hdone]
  rfl

/-- **A refusal is recorded** in a writable evidence directory. -/
theorem refuse_of_writable (h : Writable host env files evidence dirs) (reason message : String) :
    (refuse host env evidence reason message : Proc D Unit) files = (.error message, dirs ++
      [.write (evidencePlace host evidence refusalRecordName)
        (jsonBytes host (refusalRecord host env reason))]) := by
  obtain ⟨hentry, hdone⟩ := h.2 refusalRecordName (by simp [recordNames])
  have hmakes : Act.ignore (createDirAll host env evidence "") files = (.ok (), dirs) := by
    unfold Act.ignore
    rw [h.1]
  have hwrites : Act.ignore (writeFile host env (join evidence refusalRecordName)
      (jsonBytes host (refusalRecord host env reason)) "") (replay files dirs) =
        (.ok (), [.write (evidencePlace host evidence refusalRecordName)
          (jsonBytes host (refusalRecord host env reason))]) := by
    unfold Act.ignore
    rw [writeFile_apply plain_refusalRecordName h.dirsExist hentry hdone]
    rfl
  have hrecord : writeRefusal host env evidence reason files = (.ok (), dirs ++
      [.write (evidencePlace host evidence refusalRecordName)
        (jsonBytes host (refusalRecord host env reason))]) := by
    unfold writeRefusal
    rw [Act.bind_apply_ok hmakes, hwrites]
  unfold refuse
  rw [Act.bind_apply_ok hrecord]
  show (Except.error message, _ ++ []) = _
  rw [List.append_nil]

omit [DecidableEq D] in
theorem refusalRecorded_of_refuse (reason : String) : RefusalRecorded host evidence (dirs ++
    [.write (evidencePlace host evidence refusalRecordName)
      (jsonBytes host (refusalRecord host env reason))]) := by
  have hnodup : ["ok", "kind", "created_at", "reason"].Nodup := by decide
  have hget : ∀ name, valueGet (refusalRecord host env reason) name = _ :=
    valueGet_jsonObject hnodup
  exact ⟨dirs, refusalRecord host env reason, rfl, hget "kind", hget "ok"⟩

/-! ## Handoffs -/

omit [DecidableEq D] in
theorem not_refusalRecorded_nil : ¬ RefusalRecorded host evidence [] := by
  rintro ⟨earlier, record, hlog, -⟩
  exact absurd hlog (by simp)

/-- A handoff to a writable evidence directory fails in its real part only. -/
theorem handOver_of_writable (h : Writable host env files evidence dirs) {name : String}
    (hname : name ∈ recordNames) {proof : Json N} {dryRun : Bool} {run : Proc D Unit}
    (hrun : ∀ files e log, run files = (.error e, log) → ∃ event ∈ log, event.isKexec = true)
    {e : String}
    (hfails : handOver host env evidence name proof dryRun run files = (.error e, log)) :
    ∃ event ∈ log, event.isKexec = true := by
  unfold handOver at hfails
  obtain hwrite | ⟨_, log₁, log₂, -, hend, rfl⟩ := Act.bind_eq_error.mp hfails
  · rw [writeJson_of_writable h hname] at hwrite
    exact absurd (Prod.mk.inj hwrite).1 (by simp)
  · split_ifs at hend
    · exact absurd (Prod.mk.inj hend).1 (by simp)
    · obtain ⟨event, hevent, hkexec⟩ := hrun _ e log₂ hend
      exact ⟨event, List.mem_append_right log₁ hevent, hkexec⟩

/-- **A handoff fails by its command only**, if the evidence directory is writable. -/
theorem run_of_writable (h : Writable host env files evidence dirs) {dryRun : Bool}
    {handoff : Handoff} {e : String}
    (hfails : handoff.run host env evidence dryRun files = (.error e, log)) :
    ∃ event ∈ log, event.isKexec = true := by
  have hlogged : ∀ (args : List String) (what : String) (files : Files D),
      ∃ event ∈ (invokeKexec env args what files).2, event.isKexec = true := by
    intro args what files
    rw [invokeKexec_log]
    exact ⟨_, List.mem_singleton_self _, rfl⟩
  cases handoff with
  | load plan kernel initrd =>
    refine handOver_of_writable h (by simp [recordNames]) (fun files e log hrun => ?_) hfails
    obtain hcommand | ⟨_, _, _, -, hprint, -⟩ := Act.bind_eq_error.mp hrun
    · obtain ⟨event, hevent, hkexec⟩ := hlogged _ _ files
      rw [hcommand] at hevent
      exact ⟨event, hevent, hkexec⟩
    · exact absurd (Prod.mk.inj hprint).1 (by simp)
  | exec plan =>
    refine handOver_of_writable h (by simp [recordNames]) (fun files e log hrun => ?_) hfails
    obtain ⟨event, hevent, hkexec⟩ := hlogged _ _ files
    rw [hrun] at hevent
    exact ⟨event, hevent, hkexec⟩
  | lane plan =>
    -- The second record is written where the first one was, and neither write fails.
    obtain hmakes | ⟨_, made, _, hmade, hrest, -⟩ := Act.bind_eq_error.mp hfails
    · rw [h.createDirAll_apply] at hmakes
      exact absurd (Prod.mk.inj hmakes).1 (by simp)
    rw [h.createDirAll_apply] at hmade
    obtain rfl := (Prod.mk.inj hmade).2
    obtain ⟨hadapter, hadapterDone⟩ := h.2 adapterRecordName (by simp [recordNames])
    have hfirst : ∀ value : Json N, writeJson host env (join evidence adapterRecordName) value
        (replay files dirs) = _ :=
      fun value => writeJson_apply plain_adapterRecordName h.dirsExist hadapter hadapterDone
    obtain hwrite | ⟨_, wrote, _, hwrote, hrest, -⟩ := Act.bind_eq_error.mp hrest
    · rw [hfirst] at hwrite
      exact absurd (Prod.mk.inj hwrite).1 (by simp)
    rw [hfirst] at hwrote
    obtain rfl := (Prod.mk.inj hwrote).2
    obtain ⟨hentry, hentryDone⟩ := h.2 entryRecordName (by simp [recordNames])
    have hentry' : replay (replay files dirs) [.write (evidencePlace host evidence
        adapterRecordName) (jsonBytes host (adapterRecord host env plan))]
          (evidencePlace host evidence entryRecordName) ≠ some .dir := write_ne_dir hentry
    have hsecond : writeJson host env (join evidence entryRecordName) (entryRecord host env plan)
        (replay (replay files dirs) [.write (evidencePlace host evidence adapterRecordName)
          (jsonBytes host (adapterRecord host env plan))]) = _ :=
      writeJson_apply plain_entryRecordName (h.dirsExist.write hadapter) hentry' hentryDone
    obtain hwrite | ⟨_, _, _, -, hprint, -⟩ := Act.bind_eq_error.mp hrest
    · exact absurd (Prod.mk.inj (hsecond.symm.trans hwrite)).1 (by simp)
    · exact absurd (Prod.mk.inj hprint).1 (by simp)

/-! ## Evidence of every failure -/

/-- An invocation leaves evidence exactly if its checks do not end it without a record. -/
theorem leavesEvidence_iff_decision (h : Writable host env files args.evidence dirs) :
    LeavesEvidence host env files args ↔ ¬ Unrecorded (executeDecision host env files args) := by
  unfold LeavesEvidence
  rw [runExecute_apply]
  cases hdecision : executeDecision host env files args with
  | error exit =>
    obtain ⟨reason, message⟩ := exit
    cases reason with
    | some reason =>
      refine iff_of_true (fun e log hrun _ => ?_) fun ⟨_, hexit⟩ => ?_
      · have hrefuse : (refuse host env args.evidence reason message : Proc D Unit) files =
            (.error e, log) := hrun
        rw [refuse_of_writable h] at hrefuse
        obtain ⟨-, rfl⟩ := Prod.mk.inj hrefuse
        exact refusalRecorded_of_refuse reason
      · exact absurd (congrArg Exit.reason (Except.error.inj hexit)) (by simp)
    | none =>
      refine iff_of_false (fun hleaves => ?_) fun hno => hno ⟨message, rfl⟩
      exact not_refusalRecorded_nil (hleaves message [] rfl fun _ hmem => absurd hmem (by simp))
  | ok handoff =>
    refine iff_of_true (fun e log hrun hquiet => ?_) fun ⟨_, hexit⟩ => absurd hexit (by simp)
    obtain ⟨event, hevent, hkexec⟩ := run_of_writable h hrun
    rw [hquiet event hevent] at hkexec
    exact absurd hkexec (by simp)

/-- **Evidence of every failure.** With a writable evidence directory, an invocation of `execute`
that fails without having run its command leaves a refusal record exactly if, whenever its flags
pass the gates, the plan loads and the cache holds the kernel and the initrd of the record. -/
theorem leavesEvidence_iff (h : Writable host env files args.evidence dirs) :
    LeavesEvidence host env files args ↔ (Admitted env args → Supplied host env files args) := by
  rw [leavesEvidence_iff_decision h, executeDecision_unrecorded_iff]
  tauto

/-! ## An execution without a cache record -/

/-- A plan, and an evidence directory nothing was fetched to. -/
def unfetched : Setting where
  release := "r1"
  recorded := "r1"
  kernelRef := "kernel"
  kernelPath := "cache/k"
  initrdPath := "cache/i"

def unfetchedStage : Stage := unfetched.stage [] []

def unfetchedFiles : Files (List String) := fun location =>
  if location = Stage.recordPlace then none else unfetchedStage.files location

/-- A dry run with every flag it needs. -/
def unfetchedArgs : ExecuteArgs where
  plan := "plan"
  cache := "cache"
  adapter := "linux-kexec"
  loadOnly := true
  execNow := false
  evidence := "evidence"
  mutationAck := true
  rebootAck := false
  dryRun := true

theorem unfetched_writable :
    Writable unfetchedStage.host Stage.env unfetchedFiles unfetchedArgs.evidence [] := by
  refine ⟨createDirAll_of_dirs (dirsExist_evidence unfetchedStage.library rfl), ?_⟩
  have hplace : ∀ name, evidencePlace unfetchedStage.host unfetchedArgs.evidence name =
      ⟨["srv", "evidence"], name⟩ := fun name => by
    unfold evidencePlace
    exact congrArg (Location.mk · name) (dirOf_evidence unfetchedStage.library)
  intro name hname
  rw [hplace]
  refine ⟨?_, rfl⟩
  simp only [recordNames, List.mem_cons, List.not_mem_nil, or_false] at hname
  obtain rfl | rfl | rfl | rfl | rfl := hname <;> exact fun hdir => absurd hdir (by simp; decide)

/-- The invocation leaves evidence exactly if the cache can be verified. -/
theorem unfetched_iff :
    LeavesEvidence unfetchedStage.host Stage.env unfetchedFiles unfetchedArgs ↔
      (Admitted Stage.env unfetchedArgs →
        Supplied unfetchedStage.host Stage.env unfetchedFiles unfetchedArgs) :=
  leavesEvidence_iff unfetched_writable

theorem loadCacheRecord_unfetched :
    loadCacheRecord unfetchedStage.host Stage.env unfetchedFiles "evidence" =
      .error "missing artifact cache evidence at evidence/artifact-cache-record.json" := by
  have hplace := unfetchedStage.locate_evidence plain_cacheRecordName
  have hread : readFile unfetchedStage.host Stage.env unfetchedFiles
      (join "evidence" cacheRecordName) = none := by
    unfold readFile
    rw [hplace]
    rfl
  have hpath : join "evidence" cacheRecordName = "evidence/artifact-cache-record.json" := by
    decide
  unfold loadCacheRecord readJson
  simp only [hread]
  rw [hpath]
  rfl

/-- No cache record, and no refusal record: the invocation fails and writes nothing. -/
theorem missingRecord_leavesNoEvidence :
    Writable unfetchedStage.host Stage.env unfetchedFiles unfetchedArgs.evidence [] ∧
      runExecute unfetchedStage.host Stage.env unfetchedArgs unfetchedFiles =
        (.error "missing artifact cache evidence at evidence/artifact-cache-record.json", []) ∧
      ¬ LeavesEvidence unfetchedStage.host Stage.env unfetchedFiles unfetchedArgs := by
  have hplan : loadPlan unfetchedStage.host Stage.env unfetchedFiles unfetchedArgs.plan =
      .ok unfetchedStage.plan := Stage.loadPlan_stage rfl
  have hverify : verifyCachedKernelInitrd unfetchedStage.host Stage.env unfetchedFiles
      unfetchedArgs.cache unfetchedArgs.evidence =
        .error "missing artifact cache evidence at evidence/artifact-cache-record.json" := by
    have hrecord : loadCacheRecord unfetchedStage.host Stage.env unfetchedFiles
        unfetchedArgs.evidence = _ := loadCacheRecord_unfetched
    unfold verifyCachedKernelInitrd
    rw [hrecord]
    rfl
  have hrun : runExecute unfetchedStage.host Stage.env unfetchedArgs unfetchedFiles =
      (.error "missing artifact cache evidence at evidence/artifact-cache-record.json", []) := by
    rw [runExecute_loadOnly rfl rfl rfl]
    unfold executeLinuxKexecLoadOnly requireMutationAck requireRootOrDryRun
    have hmutation : unfetchedArgs.mutationAck = true := rfl
    have hroot : unfetchedArgs.dryRun = true ∨ Stage.env.euid = 0 := .inl rfl
    rw [refuseUnless_bind_apply hmutation, refuseUnless_bind_apply hroot, Act.get_bind_apply]
    rw [hplan, Act.except_ok_bind_apply, hverify, Act.except_error_bind_apply]
  refine ⟨unfetched_writable, hrun, fun hleaves => ?_⟩
  exact not_refusalRecorded_nil (hleaves _ _ hrun fun _ hmem => absurd hmem (by simp))

end Nlboot.Client
