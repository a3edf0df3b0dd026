import Nlboot.Client.FetchRuns

/-!
# What stands before an exec

The exec phase of `rust/nlboot-client/src/main.rs` asks for `pre-exec-proof.json` of an earlier
load-only phase, and for no more than that it is there. A run of invocations is read backwards from
an exec to the invocation that brought the file about.

* `Commands.writtenPaths`, `GoesThrough`: where an invocation was told to write.
* `LoadPhase`: a load-only phase that wrote the proof.
* **`made_preExecProof`**: where the proof comes from.
* **`exec_afterProof`**: before every exec of a run there was a load-only phase on its evidence
  directory, if no invocation was told to write to the proof itself.
* `dryLoad_authorisesExec`: that phase may have been a dry run.
-/

namespace Nlboot.Client

open Nlboot.Lib Nlboot.Lib.Path

variable {N K D : Type} [DecidableEq D] {host : Host N K D} {env : Env D} {files : Files D}
  {before : List (Event D)} {event : Event D} {place : Location D} {entry : Entry}

/-- The paths an invocation is told to write to. -/
def Commands.writtenPaths : Commands → List String
  | .plan args => args.out.toList
  | .fetch args => [args.cache, args.evidence]
  | .execute args => [args.evidence]

/-- The path is one of this place, or goes through it. -/
def GoesThrough (host : Host N K D) (path : String) (place : Location D) : Prop :=
  ∃ dir, dir <+: components path ∧ locate host dir = some place

/-- The place of the proof in a directory. -/
def proofPlace (host : Host N K D) (evidence : String) : Location D :=
  ⟨host.dirOf (components evidence), preExecProofName⟩

/-- The load-only phase passed its checks and wrote its proof; in a real run it went on to load the
kernel, unless the write was broken off. -/
structure LoadPhase (host : Host N K D) (env : Env D) (files : Files D) (command : Commands)
    (place : Location D) (args : ExecuteArgs) (plan : BootPlan)
    (kernel initrd : CachedArtifactRecord) : Prop where
  executes : command = .execute args
  adapter : args.adapter = "linux-kexec"
  loadOnly : args.loadOnly = true ∧ args.execNow = false
  evidence : proofPlace host args.evidence = place
  ready : Ready host env files args.plan args.cache args.evidence args.mutationAck args.dryRun plan
    kernel initrd
  wrote : ∃ before, (main host env command).Occurs files before (.write place (kept env place
    (jsonBytes host (preExecProof host env plan args.dryRun ("kexec" :: loadArgs kernel initrd)))))
  loads : args.dryRun = false →
    (∃ before, (main host env command).Occurs files before
      (.kexec ("kexec" :: loadArgs kernel initrd))) ∨ ∃ n, env.writes place = .broken n

/-! ## Where the proof comes from -/

omit [DecidableEq D] in
theorem MakesDir.goesThrough {path : String} {dir : List Component} (h : MakesDir host dir event)
    (hdir : dir <+: components path) (hmade : event.made = some (place, entry)) :
    GoesThrough host path place := by
  obtain ⟨found, hfound, location, hlocation, rfl⟩ := h
  obtain ⟨rfl, -⟩ := Prod.mk.inj (Option.some.inj hmade)
  exact ⟨found, hfound.trans hdir, hlocation⟩

omit [DecidableEq D] in
theorem WritesFile.goesThrough {path : String} {bytes : List UInt8}
    (h : WritesFile host env path bytes event) (hmade : event.made = some (place, entry)) :
    GoesThrough host path place := by
  obtain ⟨location, hlocation, rfl⟩ := h
  obtain ⟨rfl, -⟩ := Prod.mk.inj (Option.some.inj hmade)
  exact ⟨_, List.prefix_rfl, hlocation⟩

omit [DecidableEq D] in
/-- A file with a plain name is written under that name in its directory. -/
theorem WritesFile.place_eq {base name : String} {bytes : List UInt8} (hname : Plain name)
    (h : WritesFile host env (join base name) bytes event)
    (hmade : event.made = some (place, entry)) : place = ⟨host.dirOf (components base), name⟩ := by
  obtain ⟨location, hlocation, rfl⟩ := h
  obtain ⟨rfl, -⟩ := Prod.mk.inj (Option.some.inj hmade)
  exact Option.some.inj (hlocation.symm.trans (locate_join hname))

omit [DecidableEq D] in
theorem RecordEvent.made {evidence name : String} {value : Json N} (hname : Plain name)
    (h : RecordEvent host env evidence name value event)
    (hmade : event.made = some (place, entry)) :
    GoesThrough host evidence place ∨ place.name = name := by
  obtain h | h := h
  · exact .inl (h.goesThrough List.prefix_rfl hmade)
  · exact .inr (congrArg Location.name (h.place_eq hname hmade))

omit [DecidableEq D] in
theorem RefusalEvent.made {evidence : String} (h : RefusalEvent host env evidence event)
    (hmade : event.made = some (place, entry)) :
    GoesThrough host evidence place ∨ place.name = refusalRecordName := by
  obtain h | ⟨_, h⟩ := h
  · exact .inl (h.goesThrough List.prefix_rfl hmade)
  · exact .inr (congrArg Location.name (h.place_eq plain_refusalRecordName hmade))

/-- A handoff writes the proof of its phase. -/
theorem HandoffEvent.made {evidence name : String} {proof : Json N} {dryRun : Bool}
    {command : List String} (hname : Plain name)
    (h : HandoffEvent host env files evidence name proof dryRun command before event)
    (hmade : event.made = some (place, entry)) :
    GoesThrough host evidence place ∨ place = ⟨host.dirOf (components evidence), name⟩ ∧
      event = .write place (kept env place (jsonBytes host proof)) := by
  cases h with
  | record h =>
    obtain h | h := h
    · exact .inl (h.goesThrough List.prefix_rfl hmade)
    · obtain rfl := h.place_eq hname hmade
      obtain ⟨location, hlocation, rfl⟩ := h
      obtain rfl := Option.some.inj (hlocation.symm.trans (locate_join hname))
      exact .inr ⟨rfl, rfl⟩
  | print text => exact absurd hmade (by simp [Event.made])
  | kexec hreal hwritten => exact absurd hmade (by simp [Event.made])

/-- The names of what a fetch writes. -/
def FetchName (name : String) : Prop :=
  name = cacheRecordName ∨ ∃ kind ∈ artifactKinds, ∃ sha256, name = cacheName kind sha256

theorem not_fetchName {name : String} (hrecord : name ≠ cacheRecordName)
    (hname : ∀ kind ∈ artifactKinds, kind.toList.take 1 ≠ name.toList.take 1) :
    ¬ FetchName name := by
  rintro (rfl | ⟨kind, hkind, sha256, rfl⟩)
  · exact hrecord rfl
  · exact cacheName_ne hkind hname rfl

theorem not_fetchName_preExecProof : ¬ FetchName preExecProofName :=
  not_fetchName (by decide) (by decide)

omit [DecidableEq D] in
theorem FetchEvent.made {cache evidence : String} (h : FetchEvent host env cache evidence event)
    (hmade : event.made = some (place, entry)) :
    entry = .dir ∧ (∃ path ∈ [cache, evidence], GoesThrough host path place) ∨
      FetchName place.name := by
  have directory : ∀ {path : String}, path ∈ [cache, evidence] →
      MakesDir host (components path) event →
        entry = .dir ∧ ∃ path ∈ [cache, evidence], GoesThrough host path place := by
    intro path hpath hmakes
    refine ⟨?_, path, hpath, hmakes.goesThrough List.prefix_rfl hmade⟩
    obtain ⟨_, -, _, -, rfl⟩ := hmakes
    exact (Prod.mk.inj (Option.some.inj hmade)).2.symm
  obtain ⟨h | h⟩ | ⟨kind, hkind, bytes, h⟩ | ⟨value, h⟩ | text := h
  · exact .inl (directory (by simp) h)
  · exact .inl (directory (by simp) h)
  · rw [sha256Hex] at h
    rw [h.place_eq (plain_cacheName hkind _) hmade]
    exact .inr (.inr ⟨kind, hkind, _, rfl⟩)
  · rw [h.place_eq plain_cacheRecordName hmade]
    exact .inr (.inl rfl)
  · exact absurd hmade (by simp [Event.made])

/-- A write that left something and failed was broken off. -/
theorem broken_of_writeFile {path error e : String} {bytes : List UInt8} {log : List (Event D)}
    (h : writeFile host env path bytes error files = (.error e, log)) (hevent : event ∈ log) :
    ∃ location, locate host (components path) = some location ∧
      ∃ n, env.writes location = .broken n := by
  unfold writeFile at h
  rw [Act.get_bind_apply] at h
  obtain ⟨-, rfl⟩ | ⟨_, -, h⟩ := Act.except_bind_eq_error.mp h
  · exact absurd hevent List.not_mem_nil
  obtain ⟨-, rfl⟩ | ⟨location, hlocation, h⟩ := Act.except_bind_eq_error.mp h
  · exact absurd hevent List.not_mem_nil
  rw [orThrow_eq_ok] at hlocation
  obtain ⟨-, rfl⟩ | ⟨_, -, h⟩ := Act.except_bind_eq_error.mp h
  · exact absurd hevent List.not_mem_nil
  cases houtcome : env.writes location with
  | done =>
    rw [houtcome] at h
    exact absurd (Prod.mk.inj h).1 (by simp)
  | refused =>
    rw [houtcome] at h
    obtain ⟨-, rfl⟩ := Prod.mk.inj h
    exact absurd hevent List.not_mem_nil
  | broken n => exact ⟨location, hlocation, n, houtcome⟩

theorem broken_of_writeJson {base name e : String} {value : Json N} {bytes : List UInt8}
    {log : List (Event D)} (hname : Plain name)
    (h : writeJson host env (join base name) value files = (.error e, log))
    (hevent : .write place bytes ∈ log) :
    ∃ n, env.writes ⟨host.dirOf (components base), name⟩ = .broken n := by
  have hparent : ∀ {r : Except String Unit} {log : List (Event D)},
      createParent host env (join base name) files = (r, log) → .write place bytes ∉ log := by
    intro r log hrun hmem
    obtain ⟨_, hoccurs⟩ := Act.occurs_of_mem_log hrun hmem
    obtain ⟨_, -, _, -, hmkdir⟩ := occurs_createParent hoccurs
    cases hmkdir
  unfold writeJson at h
  obtain h | ⟨_, log₁, log₂, hdirs, hwrite, rfl⟩ := Act.bind_eq_error.mp h
  · exact absurd hevent (hparent h)
  · have hwritten := (List.mem_append.mp hevent).resolve_left (hparent hdirs)
    obtain ⟨location, hlocation, hbroken⟩ := broken_of_writeFile hwrite hwritten
    obtain rfl := Option.some.inj (hlocation.symm.trans (locate_join hname))
    exact hbroken

/-- A real load-only phase that wrote something of its proof went on to load the kernel, unless the
write was broken off. -/
theorem loads_or_broken {planPath cache evidence : String} {mutationAck : Bool} {plan : BootPlan}
    {kernel initrd : CachedArtifactRecord} {bytes : List UInt8}
    (hready : Ready host env files planPath cache evidence mutationAck false plan kernel initrd)
    (h : (executeLinuxKexecLoadOnly host env planPath cache evidence mutationAck false).Occurs files
      before (.write place bytes)) :
    (∃ before, (executeLinuxKexecLoadOnly host env planPath cache evidence mutationAck false).Occurs
      files before (.kexec ("kexec" :: loadArgs kernel initrd))) ∨
      ∃ n, env.writes (proofPlace host evidence) = .broken n := by
  rcases hwrite : writeJson host env (join evidence preExecProofName)
    (preExecProof host env plan false ("kexec" :: loadArgs kernel initrd)) files with ⟨e | u, log⟩
  · unfold Act.Occurs at h
    rw [loadOnly_of_ready hready] at h
    obtain h | ⟨_, _, _, hok, -, -⟩ := Act.occurs_bind.mp h
    · have hmem := Act.mem_of_occurs h
      rw [hwrite] at hmem
      exact .inr (broken_of_writeJson plain_preExecProofName hwrite hmem)
    · exact absurd (Prod.mk.inj (hwrite.symm.trans hok)).1 (by simp)
  · exact .inl ⟨log, occurs_loadOnly_of_ready hready hwrite⟩

/-- **Where the proof comes from**: a load-only phase on its directory, or an invocation that was
told to write to the very file. -/
theorem made_preExecProof {command : Commands} {dir : D}
    (h : (main host env command).Occurs files before event)
    (hmade : event.made = some (⟨dir, preExecProofName⟩, entry)) :
    (∃ path ∈ command.writtenPaths, GoesThrough host path ⟨dir, preExecProofName⟩) ∨
      ∃ args plan kernel initrd,
        LoadPhase host env files command ⟨dir, preExecProofName⟩ args plan kernel initrd := by
  cases command with
  | plan args =>
    obtain ⟨_, -, ⟨out, hout, h⟩ | ⟨_, rfl⟩⟩ := occurs_runPlan h
    · refine .inl ⟨out, by simpa [Commands.writtenPaths] using hout, ?_⟩
      obtain h | h := h
      · exact h.goesThrough (List.dropLast_prefix _) hmade
      · exact h.goesThrough hmade
    · exact absurd hmade (by simp [Event.made])
  | fetch args =>
    obtain ⟨-, h⟩ | h := (occurs_fetchArtifacts h).made hmade
    · exact .inl h
    · exact absurd h not_fetchName_preExecProof
  | execute args =>
    -- Every other document is written under a name of its own.
    have told : ∀ {name : String}, preExecProofName ≠ name →
        GoesThrough host args.evidence ⟨dir, preExecProofName⟩ ∨ preExecProofName = name →
        ∃ path ∈ (Commands.execute args).writtenPaths,
          GoesThrough host path ⟨dir, preExecProofName⟩ :=
      fun hne h => ⟨args.evidence, List.mem_singleton_self _, h.resolve_right hne⟩
    obtain h | ⟨-, h⟩ | ⟨hadapter, ⟨hload, hexec, h⟩ | ⟨-, -, h⟩⟩ := occurs_runExecute h
    · exact .inl (told (by decide) (h.made hmade))
    · obtain h | ⟨_, h | h⟩ | ⟨_, rfl⟩ := occurs_m2 h
      · exact .inl (told (by decide) (h.made hmade))
      · exact .inl (told (by decide) (h.made plain_adapterRecordName hmade))
      · exact .inl (told (by decide) (h.made plain_entryRecordName hmade))
      · exact absurd hmade (by simp [Event.made])
    · have hrun : runExecute host env args = executeLinuxKexecLoadOnly host env args.plan args.cache
          args.evidence args.mutationAck args.dryRun := runExecute_loadOnly hadapter hload hexec
      obtain hrefuse | ⟨plan, kernel, initrd, hready, hevent⟩ := occurs_loadOnly h
      · exact .inl (told (by decide) (hrefuse.made hmade))
      obtain hgoes | ⟨hplace, rfl⟩ := hevent.made plain_preExecProofName hmade
      · exact .inl ⟨args.evidence, List.mem_singleton_self _, hgoes⟩
      refine .inr ⟨args, plan, kernel, initrd,
        { executes := rfl
          adapter := hadapter
          loadOnly := ⟨hload, hexec⟩
          evidence := hplace.symm
          ready := hready
          wrote := ⟨before, by rw [main, hrun]; exact h⟩
          loads := fun hreal => ?_ }⟩
      rw [hreal] at hready h hrun
      rw [main, hrun, hplace]
      exact loads_or_broken hready h
    · obtain h | ⟨_, _, _, -, -, -, h⟩ := occurs_exec h
      · exact .inl (told (by decide) (h.made hmade))
      · have hne : preExecProofName ≠ execProofName := by decide
        exact .inl (told hne ((h.made plain_execProofName hmade).imp_right fun hplace =>
          congrArg Location.name hplace.1))

/-! ## Before an exec -/

/-- Something is there. -/
def Present (place : Location D) (files : Files D) : Prop := files place ≠ none

theorem made_of_present {files : Files D} (hnone : ¬ Present place files)
    (h : Present place (Replay.apply files event)) : ∃ entry, event.made = some (place, entry) := by
  by_contra hno
  refine hnone ?_
  unfold Present at h
  rwa [apply_of_made fun entry hmade => hno ⟨entry, hmade⟩] at h

omit [DecidableEq D] in
/-- An exec found the proof. -/
theorem Phase.present {args : ExecuteArgs} {plan : BootPlan} {kernel initrd : CachedArtifactRecord}
    {name : String} {proof : Json N} {command : List String}
    (h : Phase host env files args plan kernel initrd name proof command)
    (hexec : command = ["kexec", "--exec"]) : Present (proofPlace host args.evidence) files := by
  cases h with
  | load => exact absurd hexec (by simp [loadArgs])
  | exec hload hexec' hreboot hexists =>
    intro hnone
    unfold pathExists at hexists
    rw [locate_join plain_preExecProofName, Option.bind_some] at hexists
    unfold proofPlace at hnone
    rw [hnone] at hexists
    exact absurd hexists (by simp)

/-- **Before every exec of a run** whose evidence directory held no proof in the beginning, an
earlier invocation was a load-only phase on that directory, or was told to write to the proof
itself. -/
theorem exec_afterProof {start : Files D} {earlier : List (Invocation D)} {exec : Invocation D}
    {args : ExecuteArgs} (hargs : exec.command = .execute args)
    (hstart : start (proofPlace host args.evidence) = none)
    (hexec : (exec.proc host).Occurs (filesAfter host start earlier) before
      (.kexec ["kexec", "--exec"])) :
    ∃ first prior rest, earlier = first ++ prior :: rest ∧
      ((∃ path ∈ prior.command.writtenPaths,
          GoesThrough host path (proofPlace host args.evidence)) ∨
        ∃ args' plan kernel initrd, LoadPhase host prior.env (filesAfter host start first)
          prior.command (proofPlace host args.evidence) args' plan kernel initrd) := by
  obtain ⟨-, args', argv, plan, kernel, initrd, name, proof, location, hargs', hargv, hgate⟩ :=
    gate_of_occurs hexec rfl
  obtain rfl := Commands.execute.inj (hargs.symm.trans hargs')
  obtain rfl := Event.kexec.inj hargv
  have hpresent := hgate.phase.present rfl
  have habsent : ¬ Present (proofPlace host args.evidence) start := not_not_intro hstart
  obtain ⟨procs, proc, procs', before', event, hsplit, hoccurs, hnone, hsome⟩ :=
    Act.exists_occurs_of_changed habsent hpresent
  obtain ⟨first, tail, rfl, rfl, htail⟩ := List.map_eq_append_iff.mp hsplit
  obtain ⟨prior, rest, rfl, rfl, rfl⟩ := List.map_eq_cons_iff.mp htail
  obtain ⟨entry, hmade⟩ := made_of_present hnone hsome
  exact ⟨first, prior, rest, rfl, made_preExecProof hoccurs hmade⟩

/-! ## A dry run that authorises an exec -/

theorem filesAfter_fetch {start : Files D} {args : FetchArgs} :
    filesAfter host start [⟨env, .fetch args⟩] =
      (fetchArtifacts host env args.plan args.artifactMap args.cache args.evidence).stateAfter
        start :=
  rfl

theorem filesAfter_concat {start : Files D} {earlier : List (Invocation D)}
    {invocation : Invocation D} : filesAfter host start (earlier ++ [invocation]) =
      (invocation.proc host).stateAfter (filesAfter host start earlier) := by
  unfold filesAfter
  rw [List.map_append, Act.run_append, List.map_singleton, Act.run_cons, Act.run_nil]

/-- A dry run of the load-only phase leaves its proof. -/
theorem dryLoad_apply {args : ExecuteArgs} {plan : BootPlan} {kernel initrd : CachedArtifactRecord}
    {bytes : List UInt8} (hadapter : args.adapter = "linux-kexec") (hload : args.loadOnly = true)
    (hexec : args.execNow = false) (hdry : args.dryRun = true)
    (hready : Ready host env files args.plan args.cache args.evidence args.mutationAck true plan
      kernel initrd)
    (hwritten : writeJson host env (join args.evidence preExecProofName)
      (preExecProof host env plan true ("kexec" :: loadArgs kernel initrd)) files =
        (.ok (), [.write place bytes])) :
    (Invocation.proc host ⟨env, .execute args⟩).stateAfter files =
      Replay.apply files (.write place bytes) := by
  have hrun : Invocation.proc host ⟨env, .execute args⟩ =
      executeLinuxKexecLoadOnly host env args.plan args.cache args.evidence args.mutationAck true :=
    hdry ▸ runExecute_loadOnly hadapter hload hexec
  rw [hrun, Act.stateAfter, loadOnly_of_ready hready, Act.bind_apply_ok hwritten]
  rfl

/-- Where the proof is, a real exec runs. -/
theorem exec_occurs {args : ExecuteArgs} {plan : BootPlan} {kernel initrd : CachedArtifactRecord}
    {log : List (Event D)} (hadapter : args.adapter = "linux-kexec") (hload : args.loadOnly = false)
    (hexec : args.execNow = true) (hreal : args.dryRun = false) (hreboot : args.rebootAck = true)
    (hready : Ready host env files args.plan args.cache args.evidence args.mutationAck false plan
      kernel initrd)
    (hreadable : env.readable (join args.evidence preExecProofName) = true)
    (hproof : Present (proofPlace host args.evidence) files)
    (hwritten : writeJson host env (join args.evidence execProofName)
      (execProof host env plan false ["kexec", "--exec"]) files = (.ok (), log)) :
    (Invocation.proc host ⟨env, .execute args⟩).Occurs files log (.kexec ["kexec", "--exec"]) := by
  have hrun : Invocation.proc host ⟨env, .execute args⟩ =
      executeLinuxKexecExec host env args.plan args.cache args.evidence args.mutationAck true
        false := by
    rw [← hreal, ← hreboot]
    exact runExecute_exec hadapter hload hexec
  have hexists : pathExists host env files (join args.evidence preExecProofName) = true := by
    unfold pathExists
    rw [hreadable, locate_join plain_preExecProofName, Option.bind_some, Bool.true_and,
      Option.isSome_iff_ne_none]
    exact hproof
  rw [hrun]
  exact occurs_exec_of_ready hready hexists hwritten

/-- A fetch, a dry run of the load-only phase and a real exec. -/
def fetchInvocation : Invocation (List String) := ⟨Stage.env, .fetch againArgs⟩

def dryLoadArgs : ExecuteArgs where
  plan := "plan"
  cache := "cache"
  adapter := "linux-kexec"
  loadOnly := true
  execNow := false
  evidence := "evidence"
  mutationAck := true
  rebootAck := false
  dryRun := true

def dryLoadInvocation : Invocation (List String) := ⟨Stage.env, .execute dryLoadArgs⟩

def realExecArgs : ExecuteArgs where
  plan := "plan"
  cache := "cache"
  adapter := "linux-kexec"
  loadOnly := false
  execNow := true
  evidence := "evidence"
  mutationAck := true
  rebootAck := true
  dryRun := false

def realExecInvocation : Invocation (List String) := ⟨Stage.env, .execute realExecArgs⟩

/-- The files are ready for both phases. -/
structure Prepared (files : Files (List String)) (kernel initrd : CachedArtifactRecord) : Prop where
  plan : files ⟨["srv"], "plan"⟩ =
    some (.file (jsonBytes (lexicalHost fetchLibrary) (planFor "r1").serialize))
  evidence : files ⟨["srv"], "evidence"⟩ = some .dir
  verified : Verified (lexicalHost fetchLibrary) Stage.env files "cache" "evidence" kernel initrd
  kernelKept : KeptByDigest (lexicalHost fetchLibrary) kernel
  initrdKept : KeptByDigest (lexicalHost fetchLibrary) initrd

section

variable {files : Files (List String)} {kernel initrd : CachedArtifactRecord}

theorem Prepared.ready (h : Prepared files kernel initrd) (dryRun : Bool) :
    Ready (lexicalHost fetchLibrary) Stage.env files "plan" "cache" "evidence" true dryRun
      (planFor "r1") kernel initrd :=
  ⟨rfl, .inr rfl, loadPlan_srv h.plan, h.verified⟩

/-- Writing the proof leaves the files ready. -/
theorem Prepared.write (h : Prepared files kernel initrd) (bytes : List UInt8) :
    Prepared (Replay.apply files (.write ⟨["srv", "evidence"], preExecProofName⟩ bytes)) kernel
      initrd where
  plan := h.plan
  evidence := h.evidence
  verified := by
    refine h.verified.frame fun location hrests => apply_of_made fun _ hmade => ?_
    obtain ⟨rfl, -⟩ := Prod.mk.inj (Option.some.inj hmade)
    have kept : ∀ {artifact}, KeptByDigest (lexicalHost fetchLibrary) artifact →
        locate (lexicalHost fetchLibrary) (components artifact.cachePath) ≠
          some ⟨["srv", "evidence"], preExecProofName⟩ := by
      rintro artifact ⟨dir, kind, hkind, hlocate⟩ hproof
      rw [hlocate] at hproof
      exact cacheName_ne hkind (by decide) (congrArg Location.name (Option.some.inj hproof))
    obtain hrecord | hkernel | hinitrd := hrests
    · exact absurd (congrArg Location.name hrecord)
        (show preExecProofName ≠ cacheRecordName by decide)
    · exact kept h.kernelKept hkernel
    · exact kept h.initrdKept hinitrd
  kernelKept := h.kernelKept
  initrdKept := h.initrdKept

end

theorem goesThrough_srv {library : Library} {name : String} {place : Location (List String)}
    (hname : Plain name) (h : GoesThrough (lexicalHost library) name place) :
    place = ⟨["srv"], name⟩ := by
  obtain ⟨dir, hdir, hlocate⟩ := h
  rw [components_of_plain hname, List.prefix_cons_iff] at hdir
  obtain rfl | ⟨rest, rfl, hrest⟩ := hdir
  · exact absurd hlocate (by simp [locate])
  · obtain rfl := List.prefix_nil.mp hrest
    exact (Option.some.inj hlocate).symm

/-- The evidence directory is empty in the beginning. -/
theorem evidence_fetchFiles (name : String) : fetchFiles ⟨["srv", "evidence"], name⟩ = none := by
  have hdirs : ∀ other : String, ((⟨["srv", "evidence"], name⟩ : Location (List String)) ==
      ⟨["srv"], other⟩) = false := fun other =>
    beq_eq_false_iff_ne.mpr fun h =>
      absurd (congrArg Location.dir h) (show ["srv", "evidence"] ≠ ["srv"] by decide)
  unfold fetchFiles
  simp only [List.lookup_cons, hdirs, List.lookup_nil]

theorem prepared_fetchedFiles : ∃ kernel initrd, Prepared fetchedFiles kernel initrd ∧
    ∀ name, ¬ FetchName name → fetchedFiles ⟨["srv", "evidence"], name⟩ = none := by
  obtain ⟨kernel, initrd, hverify, hkernel, hinitrd⟩ := verify_fetchedFiles
  obtain ⟨made, hfetched⟩ := fetched_fetchFiles
  have hevents : ∀ event ∈ (fetchArtifacts (lexicalHost fetchLibrary) Stage.env "plan" "map" "cache"
      "evidence" fetchFiles).2,
      FetchEvent (lexicalHost fetchLibrary) Stage.env "cache" "evidence" event := by
    intro event hevent
    obtain ⟨before, hoccurs⟩ := Act.occurs_of_mem hevent
    exact occurs_fetchArtifacts hoccurs
  have hcache : (lexicalHost fetchLibrary).dirOf (components "cache") = ["srv", "cache"] := by
    rw [components_of_plain (by decide)]
    rfl
  refine ⟨kernel, initrd, ⟨?_, ?_, verifyCachedKernelInitrd_eq_ok.mp hverify, hkernel, hinitrd⟩, ?_⟩
  · refine hfetched.untouched ?_ ?_ rfl
    · rw [hcache]
      decide
    · exact fun hplace => absurd (congrArg Location.name hplace)
        (show "plan" ≠ cacheRecordName by decide)
  · refine replay_dir (fun event hevent entry hmade => ?_) _ rfl
    obtain ⟨hdir, -⟩ | hname := (hevents event hevent).made hmade
    · exact hdir
    · exact absurd hname (not_fetchName (by decide) (by decide))
  · intro name hname
    refine (replay_of_made (fun event hevent entry hmade => ?_) _).trans ?_
    · obtain ⟨-, path, hpath, hgoes⟩ | hfetch := (hevents event hevent).made hmade
      · have hplain : Plain path := by
          have hall : ∀ path ∈ ["cache", "evidence"], Plain path := by decide
          exact hall path hpath
        exact absurd (congrArg Location.dir (goesThrough_srv hplain hgoes))
          (show ["srv", "evidence"] ≠ ["srv"] by decide)
      · exact hname hfetch
    · exact evidence_fetchFiles name

theorem dryLoad_exec : ∃ before, (realExecInvocation.proc (lexicalHost fetchLibrary)).Occurs
    (filesAfter (lexicalHost fetchLibrary) fetchFiles [fetchInvocation, dryLoadInvocation]) before
    (.kexec ["kexec", "--exec"]) := by
  obtain ⟨kernel, initrd, hprepared, hnone⟩ := prepared_fetchedFiles
  have hproof := hnone preExecProofName not_fetchName_preExecProof
  have hwritten :=
    writeJson_evidence fetchLibrary (preExecProof (lexicalHost fetchLibrary) Stage.env
    (planFor "r1") true ("kexec" :: loadArgs kernel initrd)) plain_preExecProofName
    hprepared.evidence (by rw [hproof]; simp) (rfl : Stage.env.writes _ = .done)
  generalize jsonBytes (lexicalHost fetchLibrary) (preExecProof (lexicalHost fetchLibrary) Stage.env
    (planFor "r1") true ("kexec" :: loadArgs kernel initrd)) = bytes at hwritten
  have hloaded : (dryLoadInvocation.proc (lexicalHost fetchLibrary)).stateAfter fetchedFiles =
      Replay.apply fetchedFiles (.write ⟨["srv", "evidence"], preExecProofName⟩ bytes) :=
    dryLoad_apply rfl rfl rfl rfl (hprepared.ready true) hwritten
  have hready := hprepared.write bytes
  have hexec : Replay.apply fetchedFiles (.write ⟨["srv", "evidence"], preExecProofName⟩ bytes :
      Event (List String)) ⟨["srv", "evidence"], execProofName⟩ = none := by
    rw [apply_of_made, hnone execProofName (not_fetchName (by decide) (by decide))]
    intro _ hmade
    exact absurd (congrArg Location.name (Prod.mk.inj (Option.some.inj hmade)).1)
      (show preExecProofName ≠ execProofName by decide)
  have hwritten' := writeJson_evidence fetchLibrary (execProof (lexicalHost fetchLibrary) Stage.env
    (planFor "r1") false ["kexec", "--exec"]) plain_execProofName hready.evidence
    (by rw [hexec]; simp) (rfl : Stage.env.writes _ = .done)
  have hpresent : Present (proofPlace (lexicalHost fetchLibrary) "evidence") (Replay.apply
      fetchedFiles (.write ⟨["srv", "evidence"], preExecProofName⟩ bytes)) := by
    unfold Present proofPlace
    rw [dirOf_evidence, apply_write]
    simp
  have hfiles : filesAfter (lexicalHost fetchLibrary) fetchFiles
      [fetchInvocation, dryLoadInvocation] =
        Replay.apply fetchedFiles (.write ⟨["srv", "evidence"], preExecProofName⟩ bytes) := by
    have hfetched : filesAfter (lexicalHost fetchLibrary) fetchFiles [fetchInvocation] =
        fetchedFiles := filesAfter_fetch
    have hconcat : [fetchInvocation, dryLoadInvocation] =
        [fetchInvocation] ++ [dryLoadInvocation] := rfl
    rw [hconcat, filesAfter_concat, hfetched, hloaded]
  rw [hfiles]
  exact ⟨_, exec_occurs rfl rfl rfl rfl rfl (hready.ready false) rfl hpresent hwritten'⟩

/-- **A dry run authorises an exec.** The run begins with an empty evidence directory and loads no
kernel before the exec. -/
theorem dryLoad_authorisesExec :
    (∀ name, fetchFiles ⟨["srv", "evidence"], name⟩ = none) ∧
    (∀ prior ∈ [fetchInvocation, dryLoadInvocation], ∀ files before argv,
      ¬ (prior.proc (lexicalHost fetchLibrary)).Occurs files before (.kexec argv)) ∧
    ∃ before, (realExecInvocation.proc (lexicalHost fetchLibrary)).Occurs
      (filesAfter (lexicalHost fetchLibrary) fetchFiles [fetchInvocation, dryLoadInvocation]) before
      (.kexec ["kexec", "--exec"]) := by
  refine ⟨evidence_fetchFiles, ?_, dryLoad_exec⟩
  intro prior hprior files before argv hoccurs
  obtain ⟨-, args, _, _, _, _, _, _, _, hcommand, -, hgate⟩ := gate_of_occurs hoccurs rfl
  simp only [List.mem_cons, List.not_mem_nil, or_false] at hprior
  obtain rfl | rfl := hprior
  · cases hcommand
  · obtain rfl := Commands.execute.inj hcommand
    exact absurd hgate.real (show true ≠ false by decide)

/-- What stands before the exec of that run. -/
theorem dryLoad_beforeExec : ∃ before, (realExecInvocation.proc (lexicalHost fetchLibrary)).Occurs
      (filesAfter (lexicalHost fetchLibrary) fetchFiles [fetchInvocation, dryLoadInvocation]) before
      (.kexec ["kexec", "--exec"]) ∧
    ∃ first prior rest, [fetchInvocation, dryLoadInvocation] = first ++ prior :: rest ∧
      ((∃ path ∈ prior.command.writtenPaths, GoesThrough (lexicalHost fetchLibrary) path
          (proofPlace (lexicalHost fetchLibrary) realExecArgs.evidence)) ∨
        ∃ args' plan kernel initrd, LoadPhase (lexicalHost fetchLibrary) prior.env
          (filesAfter (lexicalHost fetchLibrary) fetchFiles first) prior.command
          (proofPlace (lexicalHost fetchLibrary) realExecArgs.evidence) args' plan kernel
          initrd) := by
  obtain ⟨before, hoccurs⟩ := dryLoad_exec
  have hcommand : realExecInvocation.command = .execute realExecArgs := rfl
  have hevidence : realExecArgs.evidence = "evidence" := rfl
  have hstart :
      fetchFiles (proofPlace (lexicalHost fetchLibrary) realExecArgs.evidence) = none := by
    unfold proofPlace
    rw [hevidence, dirOf_evidence]
    exact evidence_fetchFiles _
  exact ⟨before, hoccurs, exec_afterProof hcommand hstart hoccurs⟩

end Nlboot.Client
