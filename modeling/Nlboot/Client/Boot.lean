import Nlboot.Client.EvidenceOrder
import Nlboot.Client.PlanVerdict

/-!
# A boot, also after interrupted ones

The four commands of `rust/nlboot-client/src/main.rs` in the order a boot takes them: plan, fetch,
load, exec. Where the planner accepts the request and the artifacts can be fetched they go through
to the handoff if nothing goes wrong, and they do so too after other invocations, killed wherever
they were. An attempt that was interrupted leaves nothing behind that the next one trips over.

* `Boot`: what the four commands are given.
* `Calm`: an invocation that nothing goes wrong for.
* `Prospect`: what a boot rests on.
* `Harmless`: a command that makes nothing of what a boot rests on.
* `Succeeds`: a run in which every invocation succeeds, and its `kexec` commands.

Results:
* `Prospect.planned`, `Planned.fetched`, `Stocked.loaded`, `Stocked.executed`: the four steps.
* `Prospect.own`: the commands of the boot are harmless to it.
* **`boot_recovers`**: after any run of harmless commands, wherever they are killed, the boot goes
  through.
-/

namespace Nlboot.Client

open Nlboot.Lib Nlboot.Lib.Path

variable {N K D : Type} [DecidableEq D] {host : Host N K D} {env env' : Env D}
  {files files' : Files D} {place : Location D}

/-- What the four commands are given. -/
structure Boot where
  manifest : String
  token : String
  trustedKeys : String
  requireFips : Bool
  now : Option String
  planDir : String
  planName : String
  plain : Plain planName
  artifactMap : String
  cache : String
  evidence : String

namespace Boot

def planPath (boot : Boot) : String := join boot.planDir boot.planName

def planArgs (boot : Boot) : PlanArgs where
  manifest := boot.manifest
  token := boot.token
  trustedKeys := boot.trustedKeys
  requireFips := boot.requireFips
  now := boot.now
  out := some boot.planPath

def fetchArgs (boot : Boot) : FetchArgs where
  plan := boot.planPath
  artifactMap := boot.artifactMap
  cache := boot.cache
  evidence := boot.evidence

/-- A real handoff of one of the two phases. -/
def executeArgs (boot : Boot) (loadOnly : Bool) : ExecuteArgs where
  plan := boot.planPath
  cache := boot.cache
  adapter := "linux-kexec"
  loadOnly
  execNow := !loadOnly
  evidence := boot.evidence
  mutationAck := true
  rebootAck := !loadOnly
  dryRun := false

/-- The four commands. -/
def commands (boot : Boot) : List Commands :=
  [.plan boot.planArgs, .fetch boot.fetchArgs, .execute (boot.executeArgs true),
    .execute (boot.executeArgs false)]

/-- The place of the plan. -/
def planPlace (host : Host N K D) (boot : Boot) : Location D :=
  ⟨host.dirOf (components boot.planDir), boot.planName⟩

/-- The places of the proof of the exec phase, and of what is written after the plan. -/
def execProofPlace (host : Host N K D) (boot : Boot) : Location D :=
  ⟨host.dirOf (components boot.evidence), execProofName⟩

def laterPlaces (host : Host N K D) (boot : Boot)
    (found : List (ArtifactDescriptor × List UInt8)) : List (Location D) :=
  found.map (fun f => cachePlace host boot.cache f.1) ++
    [recordPlace host boot.evidence, proofPlace host boot.evidence, boot.execProofPlace host]

/-- The place is one that the four commands read and another party wrote. -/
def Reads (host : Host N K D) (boot : Boot) (artifactMap : ArtifactMap) (place : Location D) :
    Prop :=
  (∃ path ∈ [boot.manifest, boot.token, boot.trustedKeys, boot.artifactMap],
      locate host (components path) = some place) ∨
    ∃ descriptor ∈ artifactMap.artifacts,
      sourcePlace host boot.artifactMap descriptor.source = some place

end Boot

variable {boot : Boot} {planEnv fetchEnv loadEnv execEnv : Env D} {output : PlanOutput}
  {artifactMap : ArtifactMap} {found : List (ArtifactDescriptor × List UInt8)} {plan : BootPlan}
  {kernel initrd : CachedArtifactRecord}

/-- Nothing goes wrong: everything can be read, writes are done, commands succeed, and the user is
root. -/
structure Calm (env : Env D) : Prop where
  readable : ∀ path, env.readable path = true
  writes : ∀ place, env.writes place = .done
  status : ∀ command, ∃ line, env.status command = .exited true line
  root : env.euid = 0

/-- What a boot rests on: the request is accepted, the artifacts of its plan can be fetched, the
documents the commands write for each other can be read back, and the directories are there, with no
directory in the place of a file. What the commands read none of them writes to. -/
structure Prospect (host : Host N K D) (boot : Boot) (planEnv fetchEnv : Env D) (files : Files D)
    (output : PlanOutput) (artifactMap : ArtifactMap)
    (found : List (ArtifactDescriptor × List UInt8)) : Prop where
  accepted : planOutput host planEnv files boot.planArgs = .ok output
  mapReads : readJson host fetchEnv files (ArtifactMap.deserialize host) boot.artifactMap =
    .ok artifactMap
  fetchable : List.Forall₂ (fun planned f =>
    Fetchable host fetchEnv files artifactMap boot.artifactMap planned f.1 f.2)
    output.plan.artifacts found
  planParses : host.parse (jsonBytes host output.serialize) = .json output.serialize
  readsBack : ReadsBack host
    (cacheRecord fetchEnv output.plan artifactMap (cachedArtifacts boot.cache found))
  dirs : ∀ path ∈ [boot.planDir, boot.cache, boot.evidence],
    DirsExist host files (components path)
  free : ∀ place ∈ boot.planPlace host :: boot.laterPlaces host found, files place ≠ some .dir
  distinct : boot.planPlace host ∉ boot.laterPlaces host found
  reads : ∀ place, boot.Reads host artifactMap place → ∀ command ∈ boot.commands, ∀ entry,
    ¬ command.MayMake host place entry
  apart : SourcesApart host artifactMap boot.artifactMap (host.dirOf (components boot.cache))

/-- The command makes nothing of what the boot reads, and no directory in the place of a file of
it. -/
structure Harmless (host : Host N K D) (boot : Boot) (artifactMap : ArtifactMap)
    (found : List (ArtifactDescriptor × List UInt8)) (command : Commands) : Prop where
  reads : ∀ place, boot.Reads host artifactMap place → ∀ entry, ¬ command.MayMake host place entry
  free : ∀ place ∈ boot.planPlace host :: boot.laterPlaces host found,
    ¬ command.MayMake host place .dir

/-! ## What the steps depend on -/

omit [DecidableEq D] in
theorem readJson_congr {α : Type} {decode : Json N → Option α} {path : String}
    (h : ∀ location ∈ locate host (components path), files' location = files location) :
    readJson host env files' decode path = readJson host env files decode path := by
  unfold readJson
  rw [readFile_congr fun location hlocation bytes => by rw [h location hlocation]]

omit [DecidableEq D] in
/-- The planner depends on its three documents only. -/
theorem planOutput_congr {args : PlanArgs}
    (h : ∀ path ∈ [args.manifest, args.token, args.trustedKeys],
      ∀ location ∈ locate host (components path), files' location = files location) :
    planOutput host env files' args = planOutput host env files args := by
  unfold planOutput readValue
  rw [readJson_congr (h args.manifest (by simp)), readJson_congr (h args.token (by simp)),
    readJson_congr (h args.trustedKeys (by simp))]

omit [DecidableEq D] in
/-- What is verified does not depend on who verifies it. -/
theorem Verified.transfer {cache evidence : String} (hreadable : env'.readable = env.readable)
    (h : Verified host env files cache evidence kernel initrd) :
    Verified host env' files cache evidence kernel initrd where
  record := by
    obtain ⟨record, hrecord, hfirst⟩ := h.record
    refine ⟨record, loadCacheRecord_eq_ok.mpr ?_, hfirst⟩
    rw [readJson_env hreadable]
    exact loadCacheRecord_eq_ok.mp hrecord
  kernelPath := h.kernelPath
  initrdPath := h.initrdPath
  kernel := by
    obtain ⟨bytes, hread, hdigest⟩ := h.kernel
    exact ⟨bytes, (readFile_env hreadable _).trans hread, hdigest⟩
  initrd := by
    obtain ⟨bytes, hread, hdigest⟩ := h.initrd
    exact ⟨bytes, (readFile_env hreadable _).trans hread, hdigest⟩

omit [DecidableEq D] in
theorem Calm.readable_eq (h : Calm env) (h' : Calm env') : env'.readable = env.readable := by
  funext path
  rw [h.readable, h'.readable]

omit [DecidableEq D] in
/-- Where its directories are, a command makes none. -/
theorem not_mayMake_dir {command : Commands}
    (hdirs : ∀ path ∈ command.madeDirs, DirsExist host files path)
    (hplace : files place ≠ some .dir) : ¬ command.MayMake host place .dir := by
  rintro (⟨hpath, hdir, hlocate⟩ | _ | _ | _ | _)
  exact hplace (hdirs _ hpath _ hdir _ hlocate)

/-- A run of one invocation that is not killed. -/
theorem afterKills_single {command : Commands} :
    afterKills host files [(⟨env, command⟩, (main host env command files).2.length)] =
      (main host env command).stateAfter files := by
  show replay files ((main host env command files).2.take _) = _
  rw [List.take_length]
  rfl

/-- The files an invocation leaves have the directories they had. -/
theorem DirsExist.stateAfter {command : Commands} {path : List Component}
    (h : DirsExist host files path) :
    DirsExist host ((main host env command).stateAfter files) path := by
  intro dir hprefix location hlocation
  rw [← afterKills_single]
  exact afterKills_dir (h dir hprefix location hlocation)

/-- An invocation whose directories are there makes no directory. -/
theorem stateAfter_ne_dir {command : Commands}
    (hdirs : ∀ path ∈ command.madeDirs, DirsExist host files path)
    (hplace : files place ≠ some .dir) :
    (main host env command).stateAfter files place ≠ some .dir := by
  rw [← afterKills_single]
  refine afterKills_ne_dir (fun step hstep => ?_) hplace
  obtain rfl := List.mem_singleton.mp hstep
  exact not_mayMake_dir hdirs hplace

/-! ## The plan -/

/-- The `kexec` commands of a log. -/
def kexecs (log : List (Event D)) : List (List String) :=
  log.filterMap fun event =>
    match event with
    | .kexec command => some command
    | _ => none

omit [DecidableEq D] in
theorem kexecs_eq_nil {log : List (Event D)} (h : ∀ event ∈ log, event.isKexec = false) :
    kexecs log = [] := by
  refine List.filterMap_eq_nil_iff.mpr fun event hevent => ?_
  cases event with
  | kexec command => exact absurd (h _ hevent) (by simp [Event.isKexec])
  | mkdir | write | print => rfl

/-- Whoever can read everything loads the plan. -/
def PlanLoads (host : Host N K D) (boot : Boot) (files : Files D) (plan : BootPlan) : Prop :=
  ∀ env, Calm env → loadPlan host env files boot.planPath = .ok plan

omit [DecidableEq D] in
/-- It is loaded as long as its file is left alone. -/
theorem PlanLoads.frame (h : PlanLoads host boot files plan)
    (hsame : files' (boot.planPlace host) = files (boot.planPlace host)) :
    PlanLoads host boot files' plan := by
  intro env hcalm
  have hplace : ∀ location ∈ locate host (components boot.planPath),
      files' location = files location := by
    intro location hlocation
    obtain rfl := Option.some.inj (hlocation.symm.trans (locate_join boot.plain))
    exact hsame
  rw [← h env hcalm]
  unfold loadPlan readValue
  rw [readJson_congr hplace]

/-- The plan is there, and its artifacts can be fetched. -/
structure Planned (host : Host N K D) (boot : Boot) (fetchEnv : Env D) (files : Files D)
    (plan : BootPlan) (artifactMap : ArtifactMap)
    (found : List (ArtifactDescriptor × List UInt8)) : Prop where
  planLoads : PlanLoads host boot files plan
  refs : ∀ key ∈ requiredRefs, ∃ ref, plan.artifacts.lookup key = some ref
  mapReads : readJson host fetchEnv files (ArtifactMap.deserialize host) boot.artifactMap =
    .ok artifactMap
  fetchable : List.Forall₂ (fun planned f =>
    Fetchable host fetchEnv files artifactMap boot.artifactMap planned f.1 f.2) plan.artifacts found
  readsBack : ReadsBack host
    (cacheRecord fetchEnv plan artifactMap (cachedArtifacts boot.cache found))
  dirs : ∀ path ∈ [boot.cache, boot.evidence], DirsExist host files (components path)
  free : ∀ place ∈ boot.laterPlaces host found, files place ≠ some .dir
  distinct : boot.planPlace host ∉ boot.laterPlaces host found
  apart : SourcesApart host artifactMap boot.artifactMap (host.dirOf (components boot.cache))

omit [DecidableEq D] in
/-- An accepted plan has the three references, and its artifacts are a map. -/
theorem artifacts_of_planOutput {args : PlanArgs}
    (h : planOutput host env files args = .ok output) :
    (∀ key ∈ requiredRefs, ∃ ref, output.plan.artifacts.lookup key = some ref) ∧
      btreeMap output.plan.artifacts = output.plan.artifacts := by
  obtain ⟨_, manifest, token, _, _, _, haccepts, rfl⟩ := planOutput_eq_ok.mp h
  refine ⟨fun key hkey => ?_, ?_⟩
  · obtain ⟨ref, href, -⟩ := haccepts.shaped.artifacts key hkey
    exact ⟨ref, href⟩
  · obtain ⟨pairs, hpairs⟩ :=
      SignedBootManifest.artifacts_of_deserialize haccepts.manifestDecodes
    show btreeMap manifest.artifacts = manifest.artifacts
    rw [hpairs, btreeMap_btreeMap]

omit [DecidableEq D] in
/-- What a boot reads is not where the plan is written. -/
theorem Prospect.ne_planPlace
    (h : Prospect host boot planEnv fetchEnv files output artifactMap found)
    (hreads : boot.Reads host artifactMap place) : place ≠ boot.planPlace host := by
  rintro rfl
  refine h.reads _ hreads (.plan boot.planArgs) (by simp [Boot.commands]) (.file []) ?_
  have hout : boot.planPath ∈ boot.planArgs.out := rfl
  exact .planned hout (locate_join boot.plain) []

/-- **The plan is made.** -/
theorem Prospect.planned (h : Prospect host boot planEnv fetchEnv files output artifactMap found)
    (hcalm : Calm planEnv) :
    ∃ log, main host planEnv (.plan boot.planArgs) files = (.ok (), log) ∧ kexecs log = [] ∧
      Planned host boot fetchEnv (replay files log) output.plan artifactMap found := by
  have hdirs := h.dirs boot.planDir (by simp)
  have hfree := h.free _ List.mem_cons_self
  have hwrite : writeJson host planEnv boot.planPath output.serialize files =
      (.ok (), [.write (boot.planPlace host) (jsonBytes host output.serialize)]) :=
    writeJson_apply boot.plain hdirs hfree (hcalm.writes _)
  have hout : writeOut host planEnv output.serialize boot.planArgs.out files =
      (.ok (), [.write (boot.planPlace host) (jsonBytes host output.serialize)]) := hwrite
  have hrun : main host planEnv (.plan boot.planArgs) files =
      (.ok (), [.write (boot.planPlace host) (jsonBytes host output.serialize),
        .print (toStringPretty host (output.serialize : Json N) ++ ['\n'])]) := by
    show runPlan host planEnv boot.planArgs files = _
    unfold runPlan
    rw [Act.get_bind_apply, h.accepted, Act.except_ok_bind_apply, Act.bind_apply_ok hout]
    rfl
  obtain ⟨hrefs, hsorted⟩ := artifacts_of_planOutput h.accepted
  have hothers : ∀ place, boot.Reads host artifactMap place →
      Replay.apply files (.write (boot.planPlace host) (jsonBytes host output.serialize)) place =
        files place := by
    intro place hreads
    refine apply_of_made fun entry hmade => ?_
    exact h.ne_planPlace hreads (eq_of_made_write hmade).1
  refine ⟨_, hrun, rfl, ?_⟩
  show Planned host boot fetchEnv
    (replay files [.write (boot.planPlace host) (jsonBytes host output.serialize)]) output.plan
    artifactMap found
  exact
    { planLoads := by
        intro env hcalm'
        exact loadPlan_of_output (readFile_eq_some.mpr ⟨hcalm'.readable _, boot.planPlace host,
          locate_join boot.plain, apply_write⟩) h.planParses hsorted
      refs := hrefs
      mapReads := by
        rw [← h.mapReads]
        exact readJson_congr fun location hlocation =>
          hothers location (.inl ⟨boot.artifactMap, by simp, hlocation⟩)
      fetchable := h.fetchable.imp fun planned f hf => (fetchable_congr fun descriptor hmem =>
        readArtifactSource_congr fun location hlocation bytes => by
          rw [← hothers location (.inr ⟨descriptor, hmem, hlocation⟩)]
          rfl).mpr hf
      readsBack := h.readsBack
      dirs := fun path hpath => (h.dirs path (List.mem_cons_of_mem _ hpath)).write hfree
      free := fun place hplace => write_ne_dir (h.free place (List.mem_cons_of_mem _ hplace))
      distinct := h.distinct
      apart := h.apart }

/-! ## The cache -/

/-- The plan is there, the kernel and the initrd are verified, and nothing is in the way of the two
proofs. -/
structure Stocked (host : Host N K D) (boot : Boot) (files : Files D) (plan : BootPlan)
    (kernel initrd : CachedArtifactRecord) : Prop where
  planLoads : PlanLoads host boot files plan
  verified : ∀ env, Calm env → Verified host env files boot.cache boot.evidence kernel initrd
  kernelKept : KeptByDigest host kernel
  initrdKept : KeptByDigest host initrd
  dirs : DirsExist host files (components boot.evidence)
  free : ∀ place ∈ [proofPlace host boot.evidence, boot.execProofPlace host],
    files place ≠ some .dir
  distinct : boot.planPlace host ∉ [proofPlace host boot.evidence, boot.execProofPlace host]

omit [DecidableEq D] in
/-- A plan that loads is a file. -/
theorem PlanLoads.file (h : PlanLoads host boot files plan) (hcalm : Calm env) :
    ∃ bytes, files (boot.planPlace host) = some (.file bytes) := by
  obtain ⟨value, hvalue, -⟩ := bind_eq_ok.mp (h env hcalm)
  obtain ⟨bytes, _, hread, -, -⟩ := readJson_eq_ok.mp hvalue
  obtain ⟨-, location, hlocation, hfile⟩ := readFile_eq_some.mp hread
  obtain rfl := Option.some.inj (hlocation.symm.trans (locate_join boot.plain))
  exact ⟨bytes, hfile⟩

/-- **The artifacts are fetched.** -/
theorem Planned.fetched (h : Planned host boot fetchEnv files plan artifactMap found)
    (hcalm : Calm fetchEnv) {kernelRef initrdRef : String}
    (hkernelRef : plan.artifacts.lookup "kernel_ref" = some kernelRef)
    (hinitrdRef : plan.artifacts.lookup "initrd_ref" = some initrdRef) :
    ∃ log, main host fetchEnv (.fetch boot.fetchArgs) files = (.ok (), log) ∧ kexecs log = [] ∧
      ∃ kernel ∈ cachedArtifacts boot.cache found, ∃ initrd ∈ cachedArtifacts boot.cache found,
        FetchedFor ("kernel_ref", kernelRef) kernel ∧
          FetchedFor ("initrd_ref", initrdRef) initrd ∧
          Stocked host boot (replay files log) plan kernel initrd := by
  have hclear : Clear host fetchEnv files boot.cache boot.evidence found :=
    { cacheDirs := h.dirs boot.cache (by simp)
      evidenceDirs := h.dirs boot.evidence (by simp)
      artifacts := fun f hf => h.free _ (List.mem_append_left _ (List.mem_map_of_mem hf))
      record := h.free _ (by simp [Boot.laterPlaces])
      writes := hcalm.writes }
  have hok : (fetchArtifacts host fetchEnv boot.planPath boot.artifactMap boot.cache boot.evidence
      files).1 = .ok () :=
    fetchArtifacts_of_fetchable (h.planLoads fetchEnv hcalm) h.mapReads h.apart hclear h.fetchable
  obtain ⟨plan', artifactMap', found', made, hfetched⟩ := fetched_stateAfter hok
  obtain rfl := Except.ok.inj ((h.planLoads fetchEnv hcalm).symm.trans hfetched.planLoads)
  obtain rfl := Except.ok.inj (h.mapReads.symm.trans hfetched.mapLoads)
  obtain rfl : found = found' := (hfetched.found_eq h.apart h.fetchable).symm
  obtain ⟨kernel, hkernel, initrd, hinitrd, hverify, hkernelFor, hinitrdFor⟩ :=
    (hfetched.truthful h.apart).verifies h.readsBack fetchEnv (hcalm.readable _)
      (fun _ _ => hcalm.readable _) kernelRef initrdRef hkernelRef hinitrdRef
  have hmadeDirs : ∀ path ∈ (Commands.fetch boot.fetchArgs).madeDirs,
      DirsExist host files path := by
    simp only [Commands.madeDirs, Boot.fetchArgs, List.forall_mem_cons, List.not_mem_nil,
      false_implies, implies_true, and_true]
    exact ⟨hclear.cacheDirs, hclear.evidenceDirs⟩
  -- The fetch writes to its own places only, and the plan is at none of them.
  have hplan : (main host fetchEnv (.fetch boot.fetchArgs)).stateAfter files
      (boot.planPlace host) = files (boot.planPlace host) := by
    obtain ⟨bytes, hbytes⟩ := h.planLoads.file hcalm
    have hdistinct := h.distinct
    simp only [Boot.laterPlaces, List.mem_append, List.mem_map, List.mem_cons, not_or] at hdistinct
    rw [hbytes]
    refine hfetched.kept _ hdistinct.2.1 _ ?_
    rw [replay_of_made, (hfetched.sameFiles _ bytes).mpr hbytes]
    intro event hevent entry hmade
    obtain ⟨f, hf, rfl⟩ := List.mem_map.mp hevent
    exact hdistinct.1 ⟨f, hf, (eq_of_made_write hmade).1.symm⟩
  have hlater : ∀ place ∈ [proofPlace host boot.evidence, boot.execProofPlace host],
      place ∈ boot.laterPlaces host found := by
    intro place hplace
    exact List.mem_append_right _ (List.mem_cons_of_mem _ hplace)
  have hdirs : DirsExist host ((main host fetchEnv (.fetch boot.fetchArgs)).stateAfter files)
      (components boot.evidence) := hclear.evidenceDirs.stateAfter
  have hfree : ∀ place ∈ [proofPlace host boot.evidence, boot.execProofPlace host],
      (main host fetchEnv (.fetch boot.fetchArgs)).stateAfter files place ≠ some .dir :=
    fun place hplace => stateAfter_ne_dir hmadeDirs (h.free place (hlater place hplace))
  have hrun : main host fetchEnv (.fetch boot.fetchArgs) =
      fetchArtifacts host fetchEnv boot.planPath boot.artifactMap boot.cache boot.evidence := rfl
  rw [hrun] at hplan hdirs hfree ⊢
  refine ⟨(fetchArtifacts host fetchEnv boot.planPath boot.artifactMap boot.cache boot.evidence
    files).2, Prod.ext hok rfl, kexecs_eq_nil fun event hevent => ?_, kernel, hkernel, initrd,
    hinitrd, hkernelFor, hinitrdFor, ?_⟩
  · obtain ⟨before, hoccurs⟩ := Act.occurs_of_mem hevent
    exact not_kexec_of_fetchEvent (occurs_fetchArtifacts hoccurs)
  · exact
      { planLoads := h.planLoads.frame hplan
        verified := fun env hcalm' =>
          (verifyCachedKernelInitrd_eq_ok.mp hverify).transfer (hcalm.readable_eq hcalm')
        kernelKept := hfetched.keptByDigest kernel hkernel
        initrdKept := hfetched.keptByDigest initrd hinitrd
        dirs := hdirs
        free := hfree
        distinct := fun hmem => h.distinct (hlater _ hmem) }

/-! ## The handoff -/

omit [DecidableEq D] in
/-- A kept artifact is under none of the names of the proofs. -/
theorem KeptByDigest.name_ne {artifact : CachedArtifactRecord} {name : String}
    (h : KeptByDigest host artifact) (hname : name ∈ [preExecProofName, execProofName])
    (hlocate : locate host (components artifact.cachePath) = some place) : place.name ≠ name := by
  obtain ⟨dir, kind, hkind, hkept⟩ := h
  obtain rfl := Option.some.inj (hlocate.symm.trans hkept)
  have hfirst : ∀ name ∈ [preExecProofName, execProofName], ∀ kind ∈ artifactKinds,
      kind.toList.take 1 ≠ name.toList.take 1 := by decide
  exact cacheName_ne hkind (hfirst name hname)

/-- A proof leaves everything as it is. -/
theorem Stocked.write (h : Stocked host boot files plan kernel initrd) {name : String}
    (hname : name ∈ [preExecProofName, execProofName]) (bytes : List UInt8) :
    Stocked host boot
      (Replay.apply files (.write ⟨host.dirOf (components boot.evidence), name⟩ bytes)) plan kernel
      initrd := by
  have hplace : (⟨host.dirOf (components boot.evidence), name⟩ : Location D) ∈
      [proofPlace host boot.evidence, boot.execProofPlace host] := by
    simp only [List.mem_cons, List.not_mem_nil, or_false] at hname
    obtain rfl | rfl := hname
    · exact List.mem_cons_self
    · exact List.mem_cons_of_mem _ List.mem_cons_self
  have hentry := h.free _ hplace
  have hothers : ∀ place ≠ (⟨host.dirOf (components boot.evidence), name⟩ : Location D),
      Replay.apply files (.write ⟨host.dirOf (components boot.evidence), name⟩ bytes) place =
        files place := by
    intro place hne
    exact apply_of_made fun entry hmade => hne (eq_of_made_write hmade).1
  exact
    { planLoads := h.planLoads.frame (hothers _ fun heq => h.distinct (heq ▸ hplace))
      verified := fun env hcalm => (h.verified env hcalm).frame fun location hrests => by
        refine hothers location ?_
        rintro rfl
        obtain hrecord | hkernel | hinitrd := hrests
        · have hne : ∀ name ∈ [preExecProofName, execProofName], name ≠ cacheRecordName := by decide
          exact hne name hname (congrArg Location.name hrecord)
        · exact h.kernelKept.name_ne hname hkernel rfl
        · exact h.initrdKept.name_ne hname hinitrd rfl
      kernelKept := h.kernelKept
      initrdKept := h.initrdKept
      dirs := h.dirs.write hentry
      free := fun place hmem => write_ne_dir (h.free place hmem)
      distinct := h.distinct }

theorem invokeKexec_apply (hcalm : Calm env) (args : List String) (what : String) :
    invokeKexec env args what files = (.ok (), [.kexec ("kexec" :: args)]) := by
  obtain ⟨line, hline⟩ := hcalm.status ("kexec" :: args)
  have hemit : (Act.emit (.kexec ("kexec" :: args)) : Proc D Unit) files =
      (.ok (), [.kexec ("kexec" :: args)]) := rfl
  unfold invokeKexec
  rw [Act.bind_apply_ok hemit, hline]
  rfl

omit [DecidableEq D] in
/-- A phase of the handoff is ready. -/
theorem Stocked.ready (h : Stocked host boot files plan kernel initrd) (hcalm : Calm env) :
    Ready host env files boot.planPath boot.cache boot.evidence true false plan kernel initrd where
  mutationAck := rfl
  root := .inr hcalm.root
  plan := h.planLoads env hcalm
  verified := h.verified env hcalm

/-- **The kernel and the initrd are loaded.** -/
theorem Stocked.loaded (h : Stocked host boot files plan kernel initrd) (hcalm : Calm loadEnv) :
    ∃ log, main host loadEnv (.execute (boot.executeArgs true)) files = (.ok (), log) ∧
      kexecs log = ["kexec" :: loadArgs kernel initrd] ∧
      Stocked host boot (replay files log) plan kernel initrd ∧
      Present (proofPlace host boot.evidence) (replay files log) := by
  have hrun : main host loadEnv (.execute (boot.executeArgs true)) =
      executeLinuxKexecLoadOnly host loadEnv boot.planPath boot.cache boot.evidence true false :=
    runExecute_loadOnly rfl rfl rfl
  have hwrite : writeJson host loadEnv (join boot.evidence preExecProofName)
      (preExecProof host loadEnv plan false ("kexec" :: loadArgs kernel initrd)) files = _ :=
    writeJson_apply plain_preExecProofName h.dirs (h.free _ List.mem_cons_self) (hcalm.writes _)
  refine ⟨[.write (proofPlace host boot.evidence) (jsonBytes host
      (preExecProof host loadEnv plan false ("kexec" :: loadArgs kernel initrd))),
    .kexec ("kexec" :: loadArgs kernel initrd), .print (toStringPretty host
      (preExecProof host loadEnv plan false ("kexec" :: loadArgs kernel initrd)) ++ ['\n'])],
    ?_, rfl, h.write List.mem_cons_self _, ?_⟩
  · rw [hrun, loadOnly_of_ready (h.ready hcalm), Act.bind_apply_ok hwrite,
      if_neg Bool.false_ne_true, Act.bind_apply_ok (invokeKexec_apply hcalm _ _)]
    rfl
  · show Replay.apply files (.write (proofPlace host boot.evidence) _) _ ≠ none
    rw [apply_write]
    simp

/-- **The kernel is executed.** -/
theorem Stocked.executed (h : Stocked host boot files plan kernel initrd) (hcalm : Calm execEnv)
    (hproof : Present (proofPlace host boot.evidence) files) :
    ∃ log, main host execEnv (.execute (boot.executeArgs false)) files = (.ok (), log) ∧
      kexecs log = [["kexec", "--exec"]] := by
  have hrun : main host execEnv (.execute (boot.executeArgs false)) =
      executeLinuxKexecExec host execEnv boot.planPath boot.cache boot.evidence true true false :=
    runExecute_exec rfl rfl rfl
  have hready := h.ready hcalm
  have hverify : verifyCachedKernelInitrd host execEnv files boot.cache boot.evidence =
      .ok (kernel, initrd) := verifyCachedKernelInitrd_eq_ok.mpr hready.verified
  have hexists : pathExists host execEnv files (join boot.evidence preExecProofName) = true := by
    unfold pathExists
    rw [hcalm.readable, locate_join plain_preExecProofName, Option.bind_some, Bool.true_and,
      Option.isSome_iff_ne_none]
    exact hproof
  have hwrite : writeJson host execEnv (join boot.evidence execProofName)
      (execProof host execEnv plan false ["kexec", "--exec"]) files = _ :=
    writeJson_apply plain_execProofName h.dirs
      (h.free _ (List.mem_cons_of_mem _ List.mem_cons_self)) (hcalm.writes _)
  refine ⟨[.write (boot.execProofPlace host)
      (jsonBytes host (execProof host execEnv plan false ["kexec", "--exec"])),
    .kexec ["kexec", "--exec"]], ?_, rfl⟩
  rw [hrun]
  unfold executeLinuxKexecExec requireMutationAck requireRootOrDryRun
  rw [refuseUnless_bind_apply rfl, refuseUnless_bind_apply rfl, refuseUnless_bind_apply hready.root,
    Act.get_bind_apply, hready.plan, Act.except_ok_bind_apply, hverify, Act.except_ok_bind_apply,
    refuseUnless_bind_apply hexists, Act.bind_apply_ok hwrite, if_neg Bool.false_ne_true,
    invokeKexec_apply hcalm]
  rfl

/-! ## The boot -/

/-- Each invocation of the run succeeds, and these are the `kexec` commands of all of them. -/
inductive Succeeds (host : Host N K D) : Files D → List (Invocation D) → List (List String) → Prop
  | nil {files : Files D} : Succeeds host files [] []
  | cons {files : Files D} {env : Env D} {command : Commands} {run : List (Invocation D)}
      {log : List (Event D)} {kexecs₁ kexecs₂ : List (List String)}
      (hfirst : main host env command files = (.ok (), log)) (hkexecs : kexecs log = kexecs₁)
      (hrest : Succeeds host (replay files log) run kexecs₂) :
      Succeeds host files (⟨env, command⟩ :: run) (kexecs₁ ++ kexecs₂)

/-- The invocations of a boot. -/
def Boot.run (boot : Boot) (planEnv fetchEnv loadEnv execEnv : Env D) : List (Invocation D) :=
  [⟨planEnv, .plan boot.planArgs⟩, ⟨fetchEnv, .fetch boot.fetchArgs⟩,
    ⟨loadEnv, .execute (boot.executeArgs true)⟩, ⟨execEnv, .execute (boot.executeArgs false)⟩]

/-- The boot completes: its invocations succeed, and they run `kexec` twice, to load the kernel
and the initrd that were fetched for the references of the plan, and to execute them. -/
def Boot.Completes (host : Host N K D) (boot : Boot) (files : Files D) (run : List (Invocation D))
    (plan : BootPlan) (found : List (ArtifactDescriptor × List UInt8)) : Prop :=
  ∃ kernelRef initrdRef, plan.artifacts.lookup "kernel_ref" = some kernelRef ∧
    plan.artifacts.lookup "initrd_ref" = some initrdRef ∧
    ∃ kernel ∈ cachedArtifacts boot.cache found, ∃ initrd ∈ cachedArtifacts boot.cache found,
      FetchedFor ("kernel_ref", kernelRef) kernel ∧ FetchedFor ("initrd_ref", initrdRef) initrd ∧
      Succeeds host files run ["kexec" :: loadArgs kernel initrd, ["kexec", "--exec"]]

/-- **A boot goes through** where nothing goes wrong. -/
theorem Prospect.completes
    (h : Prospect host boot planEnv fetchEnv files output artifactMap found)
    (hplan : Calm planEnv) (hfetch : Calm fetchEnv) (hload : Calm loadEnv) (hexec : Calm execEnv) :
    boot.Completes host files (boot.run planEnv fetchEnv loadEnv execEnv) output.plan found := by
  obtain ⟨planLog, hplanRun, hplanQuiet, hplanned⟩ := h.planned hplan
  obtain ⟨kernelRef, hkernelRef⟩ := hplanned.refs "kernel_ref" (by decide)
  obtain ⟨initrdRef, hinitrdRef⟩ := hplanned.refs "initrd_ref" (by decide)
  obtain ⟨fetchLog, hfetchRun, hfetchQuiet, kernel, hkernel, initrd, hinitrd, hkernelFor,
    hinitrdFor, hstocked⟩ := hplanned.fetched hfetch hkernelRef hinitrdRef
  obtain ⟨loadLog, hloadRun, hloads, hstocked', hproof⟩ := hstocked.loaded hload
  obtain ⟨execLog, hexecRun, hexecs⟩ := hstocked'.executed hexec hproof
  exact ⟨kernelRef, initrdRef, hkernelRef, hinitrdRef, kernel, hkernel, initrd, hinitrd,
    hkernelFor, hinitrdFor, .cons hplanRun hplanQuiet (.cons hfetchRun hfetchQuiet
      (.cons hloadRun hloads (.cons hexecRun hexecs .nil)))⟩

/-! ## Interrupted invocations -/

omit [DecidableEq D] in
/-- **The commands of a boot are harmless** to it. -/
theorem Prospect.own (h : Prospect host boot planEnv fetchEnv files output artifactMap found)
    {command : Commands} (hmem : command ∈ boot.commands) :
    Harmless host boot artifactMap found command where
  reads place hreads := h.reads place hreads command hmem
  free place hplace := by
    refine not_mayMake_dir (fun path hpath => ?_) (h.free place hplace)
    have hplanDir : (components boot.planPath).dropLast = components boot.planDir :=
      dropLast_components_join boot.plain
    have hdirs : DirsExist host files (components boot.planDir) ∧
        DirsExist host files (components boot.cache) ∧
        DirsExist host files (components boot.evidence) := by
      simpa only [List.forall_mem_cons, List.not_mem_nil, false_implies, implies_true, and_true]
        using h.dirs
    simp only [Boot.commands, List.mem_cons, List.not_mem_nil, or_false] at hmem
    obtain rfl | rfl | rfl | rfl := hmem
    · obtain rfl : path = (components boot.planPath).dropLast := List.mem_singleton.mp hpath
      exact hplanDir ▸ hdirs.1
    · have hpath : path ∈ [components boot.cache, components boot.evidence] := hpath
      simp only [List.mem_cons, List.not_mem_nil, or_false] at hpath
      obtain rfl | rfl := hpath
      · exact hdirs.2.1
      · exact hdirs.2.2
    · obtain rfl : path = components boot.evidence := List.mem_singleton.mp hpath
      exact hdirs.2.2
    · obtain rfl : path = components boot.evidence := List.mem_singleton.mp hpath
      exact hdirs.2.2

/-- **Harmless commands**, killed wherever they are, leave what the boot rests on. -/
theorem Prospect.kept {start : Files D} {run : List (Invocation D × Nat)}
    (h : Prospect host boot planEnv fetchEnv start output artifactMap found)
    (hharmless : ∀ step ∈ run, Harmless host boot artifactMap found step.1.command) :
    Prospect host boot planEnv fetchEnv (afterKills host start run) output artifactMap found := by
  have hsame : ∀ place, boot.Reads host artifactMap place →
      afterKills host start run place = start place := fun place hreads =>
    afterKills_unmade fun step hstep => (hharmless step hstep).reads place hreads
  have hpath : ∀ path ∈ [boot.manifest, boot.token, boot.trustedKeys, boot.artifactMap],
      ∀ location ∈ locate host (components path),
        afterKills host start run location = start location :=
    fun path hpath location hlocation => hsame location (.inl ⟨path, hpath, hlocation⟩)
  exact
    { h with
      accepted := by
        rw [← h.accepted]
        refine planOutput_congr fun path hmem => hpath path ?_
        simp only [Boot.planArgs, List.mem_cons, List.not_mem_nil, or_false] at hmem ⊢
        tauto
      mapReads := by
        rw [← h.mapReads]
        exact readJson_congr (hpath boot.artifactMap (by simp))
      fetchable := h.fetchable.imp fun planned f hf => (fetchable_congr fun descriptor hmem =>
        readArtifactSource_congr fun location hlocation bytes => by
          rw [hsame location (.inr ⟨descriptor, hmem, hlocation⟩)]).mpr hf
      dirs := fun path hmem dir hprefix location hlocation =>
        afterKills_dir (h.dirs path hmem dir hprefix location hlocation)
      free := fun place hmem => afterKills_ne_dir
        (fun step hstep => (hharmless step hstep).free place hmem) (h.free place hmem) }

/-- **A boot recovers.** After any run of harmless commands, its own among them, wherever each of
them ended or was killed, the boot goes through, with the plan and the artifacts that it would have
had before the run. -/
theorem boot_recovers {start : Files D} {run : List (Invocation D × Nat)}
    (h : Prospect host boot planEnv fetchEnv start output artifactMap found)
    (hharmless : ∀ step ∈ run, Harmless host boot artifactMap found step.1.command)
    (hplan : Calm planEnv) (hfetch : Calm fetchEnv) (hload : Calm loadEnv) (hexec : Calm execEnv) :
    boot.Completes host (afterKills host start run)
      (boot.run planEnv fetchEnv loadEnv execEnv) output.plan found :=
  (h.kept hharmless).completes hplan hfetch hload hexec

/-! ## The boot of a release -/

/-- The boot of the release, with the plan in the working directory. -/
def releaseBoot : Boot where
  manifest := "manifest"
  token := "token"
  trustedKeys := "keys"
  requireFips := true
  now := none
  planDir := ""
  planName := "plan"
  plain := by decide
  artifactMap := "map"
  cache := "cache"
  evidence := "evidence"

/-- What its planner comes to, and the record of its fetch. -/
def releaseOutput : PlanOutput := outputFor releaseManifest hourToken

def releaseRecord : ArtifactCacheRecord :=
  cacheRecord Stage.env releaseOutput.plan rootfsMap (cachedArtifacts "cache" rootfsFound)

/-- The documents that come about on the way, and the map. -/
def bootDocuments : List (Json Int) :=
  [rootfsMapDoc, releaseOutput.serialize, releaseRecord.serialize (releaseHost [])]

def bootFiles : Files (List String) :=
  releaseFiles [(⟨["srv"], "map"⟩, .file (printed rootfsMapDoc))]

theorem calm_stage : Calm Stage.env where
  readable _ := rfl
  writes _ := rfl
  status _ := ⟨_, rfl⟩
  root := rfl

theorem fetchable_release : List.Forall₂ (fun planned f =>
    Fetchable (releaseHost bootDocuments) Stage.env bootFiles rootfsMap "map" planned f.1 f.2)
    releaseOutput.plan.artifacts rootfsFound := by
  have hsource : ∀ {source : String} {bytes : List UInt8}, source ∈ ["i", "k", "r"] →
      bootFiles ⟨["srv"], source⟩ = some (.file bytes) →
        readArtifactSource (lexicalHost (releaseLibrary bootDocuments)) Stage.env bootFiles source
          "map" = .ok bytes := by
    intro source bytes hsource hfile
    simp only [List.mem_cons, List.not_mem_nil, or_false] at hsource
    obtain rfl | rfl | rfl := hsource <;>
      exact readArtifactSource_srv (by decide) (by decide) (by decide) (by decide) hfile
  exact .cons ⟨rfl, rfl, hsource (by simp [descriptorFor]) rfl, rfl, by decide⟩
    (.cons ⟨rfl, rfl, hsource (by simp [descriptorFor]) rfl, rfl, by decide⟩
      (.cons ⟨rfl, rfl, hsource (by simp [descriptorFor]) rfl, rfl, by decide⟩ .nil))

section

variable {others : List (Json Int)}

theorem jsonBytes_release (document : Json Int) :
    jsonBytes (releaseHost others) document = printed document := rfl

theorem asU64_release {n : Nat} (h : n < 2 ^ 64) :
    (releaseHost others).asU64 ((releaseHost others).ofU64 n) = some n := by
  have hread : (releaseHost others).asU64 = (lexicalHost (releaseLibrary others)).asU64 := rfl
  have hwrite : (releaseHost others).ofU64 = (lexicalHost (releaseLibrary others)).ofU64 := rfl
  rw [hread, hwrite, asU64_ofU64 _ h]

theorem serialize_release (record : ArtifactCacheRecord) :
    record.serialize (releaseHost others) = record.serialize (releaseHost []) := rfl

/-- A document of the boot is read back. -/
theorem parse_release {document : Json Int} (h : document ∈ others) :
    (releaseHost others).parse (printed document) = .json document := by
  have hmem : document ∈ (releaseLibrary others).documents := List.mem_append_right _ h
  exact parse_of_mem hmem

theorem timestamp_release :
    (releaseHost others).timestamp ((releaseHost others).rfc3339 stageTime) = some stageTime := by
  have htime : (releaseHost []).timestamp ((releaseHost []).rfc3339 stageTime) =
      some stageTime := by decide
  exact htime

end

theorem readsBack_release : ReadsBack (releaseHost bootDocuments) releaseRecord where
  parse := by
    rw [serialize_release, jsonBytes_release]
    exact parse_release (by simp [bootDocuments])
  createdAt := timestamp_release
  sizeBytes := by
    intro artifact hartifact
    obtain ⟨f, hf, rfl⟩ := List.mem_map.mp hartifact
    exact asU64_release (Nat.mod_lt _ (by decide))

/-- What the boot reads is in the working directory. -/
theorem reads_release {place : Location (List String)}
    (h : releaseBoot.Reads (releaseHost bootDocuments) rootfsMap place) :
    place.dir = ["srv"] ∧ place.name ∈ ["manifest", "token", "keys", "map", "i", "k", "r"] := by
  obtain ⟨path, hpath, hplace⟩ | ⟨descriptor, hdescriptor, hplace⟩ := h
  · have hlocate : ∀ path ∈ ["manifest", "token", "keys", "map"],
        locate (releaseHost []) (components path) = some ⟨["srv"], path⟩ := by decide
    obtain rfl := Option.some.inj ((hlocate path hpath).symm.trans hplace)
    have hnames : ∀ path ∈ ["manifest", "token", "keys", "map"],
        path ∈ ["manifest", "token", "keys", "map", "i", "k", "r"] := by decide
    exact ⟨rfl, hnames path hpath⟩
  · have hlocate : ∀ descriptor ∈ rootfsMap.artifacts,
        sourcePlace (releaseHost []) "map" descriptor.source = some ⟨["srv"], descriptor.source⟩ ∧
          descriptor.source ∈ ["manifest", "token", "keys", "map", "i", "k", "r"] := by decide
    obtain ⟨hsource, hname⟩ := hlocate descriptor hdescriptor
    obtain rfl := Option.some.inj (hsource.symm.trans hplace)
    exact ⟨rfl, hname⟩

/-- What the boot makes is in other directories, or has another name. -/
theorem mayMake_release {command : Commands} {place : Location (List String)} {entry : Entry}
    (hcommand : command ∈ releaseBoot.commands)
    (h : command.MayMake (releaseHost bootDocuments) place entry) :
    place.dir ≠ ["srv"] ∨ place.name ∈ ["plan", "cache", "evidence"] := by
  have hdirs : ∀ command ∈ releaseBoot.commands, ∀ path ∈ command.madeDirs, ∀ dir ∈ path.inits,
      ∀ place ∈ locate (releaseHost []) dir, place.name ∈ ["plan", "cache", "evidence"] := by decide
  have hdir : ∀ name ∈ ["cache", "evidence"], (releaseHost []).dirOf (components name) ≠ ["srv"] :=
    by decide
  cases h with
  | dir hpath hprefix hplace =>
    exact .inr (hdirs _ hcommand _ hpath _ ((List.mem_inits _ _).mpr hprefix) _ hplace)
  | planned hout hplace =>
    have hargs : ∀ command ∈ releaseBoot.commands, ∀ out ∈ command.writtenPaths,
        ∀ place ∈ locate (releaseHost []) (components out),
          place.name ∈ ["plan", "cache", "evidence"] := by decide
    exact .inr (hargs _ hcommand _ (by simpa [Commands.writtenPaths] using hout) _ hplace)
  | @cached args =>
    obtain rfl : args = releaseBoot.fetchArgs := by simpa [Boot.commands] using hcommand
    exact .inl (hdir "cache" (by simp))
  | @fetched args =>
    obtain rfl : args = releaseBoot.fetchArgs := by simpa [Boot.commands] using hcommand
    exact .inl (hdir "evidence" (by simp))
  | @executed args =>
    have hargs : args = releaseBoot.executeArgs true ∨ args = releaseBoot.executeArgs false := by
      simpa [Boot.commands] using hcommand
    obtain rfl | rfl := hargs <;> exact .inl (hdir "evidence" (by simp))

/-- A boot of the release has what it needs. -/
theorem prospect_release : Prospect (releaseHost bootDocuments) releaseBoot Stage.env Stage.env
    bootFiles releaseOutput rootfsMap rootfsFound where
  accepted := release_output
  mapReads := readJson_release (by decide) (by simp [releaseLibrary, bootDocuments]) rfl rfl
  fetchable := fetchable_release
  planParses := by
    rw [jsonBytes_release]
    exact parse_release (by simp [bootDocuments])
  readsBack := readsBack_release
  dirs := by
    have hsrv : ∀ name ∈ ["cache", "evidence"],
        DirsExist (releaseHost bootDocuments) bootFiles (components name) := by
      intro name hname
      simp only [List.mem_cons, List.not_mem_nil, or_false] at hname
      obtain rfl | rfl := hname <;>
        exact dirsExist_srv (releaseLibrary bootDocuments) (by decide) rfl
    have hhere : DirsExist (releaseHost bootDocuments) bootFiles (components "") := by
      intro dir hprefix location hlocation
      obtain rfl := List.prefix_nil.mp (show dir <+: [] from hprefix)
      exact absurd hlocation (by simp [locate])
    exact List.forall_mem_cons.mpr ⟨hhere, hsrv⟩
  free := by decide
  distinct := by decide
  reads := by
    intro place hreads command hcommand entry hmakes
    obtain ⟨hdir, hname⟩ := reads_release hreads
    obtain hne | hmade := mayMake_release hcommand hmakes
    · exact hne hdir
    · have hnames : ∀ name ∈ ["manifest", "token", "keys", "map", "i", "k", "r"],
          name ∉ ["plan", "cache", "evidence"] := by decide
      exact hnames _ hname hmade
  apart := by
    have hplaces : ∀ descriptor ∈ rootfsMap.artifacts,
        (sourcePlace (releaseHost []) "map" descriptor.source).map Location.dir =
          some ["srv"] := by decide
    exact sourcesApart_of_dir hplaces (by decide)

/-- Attempts at the boot: a plan that is killed when its file is written, a fetch that is killed
before its record is, and a load that fails for want of it. -/
def interruptedBoot : List (Invocation (List String) × Nat) :=
  [(⟨Stage.env, .plan releaseBoot.planArgs⟩, 1), (⟨Stage.env, .fetch releaseBoot.fetchArgs⟩, 2),
    (⟨Stage.env, .execute (releaseBoot.executeArgs true)⟩, 3)]

/-- After them the boot of the release goes through. -/
theorem release_recovers :
    Prospect (releaseHost bootDocuments) releaseBoot Stage.env Stage.env bootFiles releaseOutput
      rootfsMap rootfsFound ∧
    (∀ step ∈ interruptedBoot,
      Harmless (releaseHost bootDocuments) releaseBoot rootfsMap rootfsFound step.1.command) ∧
    Calm Stage.env ∧
    releaseBoot.Completes (releaseHost bootDocuments)
      (afterKills (releaseHost bootDocuments) bootFiles interruptedBoot)
      (releaseBoot.run Stage.env Stage.env Stage.env Stage.env) releaseOutput.plan rootfsFound := by
  have hown : ∀ step ∈ interruptedBoot, step.1.command ∈ releaseBoot.commands := by
    simp [interruptedBoot, Boot.commands]
  have hharmless : ∀ step ∈ interruptedBoot,
      Harmless (releaseHost bootDocuments) releaseBoot rootfsMap rootfsFound step.1.command :=
    fun step hstep => prospect_release.own (hown step hstep)
  exact ⟨prospect_release, hharmless, calm_stage, boot_recovers prospect_release hharmless
    calm_stage calm_stage calm_stage calm_stage⟩

end Nlboot.Client
