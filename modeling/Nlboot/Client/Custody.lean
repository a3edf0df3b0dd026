import Nlboot.Client.Boot

/-!
# From the signature to the command

What `kexec` of `rust/nlboot-client/src/main.rs` is given can be traced back over a run of
invocations: the files of the cache to the record they are checked against, the record to the fetch
that wrote it, the plan of that fetch to the planner that accepted it, and so to a signed manifest.
Each link is a file, and any invocation may be killed or have its writes broken off; what is left of
a document is the text of no other (`Client/Remains.lean`), so the links hold nevertheless.

The artifact map is not signed: the manifest says which references are booted, and the map which
digests they have.

* `OnlyFrom`: a place that only commands of a kind make a file of.
* `Gathered`: a fetch that got as far as its record.
* `Stated`: what the map says about a reference of the manifest.
* `Chain`: the planner and the fetcher behind a record.

Results:
* `gathered_of_record`, `planned_of_made`: who writes a record, and who writes a plan.
* `exists_fetch`, `exists_planner`: the fetch behind a record, and the planner behind a plan.
* **`custody`**: what stands behind every command.
-/

namespace Nlboot.Client

open Nlboot.Lib Nlboot.Lib.Path

variable {N K D : Type} [DecidableEq D] {host : Host N K D} {env : Env D} {files start : Files D}
  {before : List (Event D)} {event : Event D} {place : Location D} {bytes : List UInt8}
  {run : List (Invocation D × Nat)} {plan : BootPlan} {artifactMap : ArtifactMap}
  {found : List (ArtifactDescriptor × List UInt8)} {kernel initrd : CachedArtifactRecord}

/-! ## Who writes what -/

/-- A fetch read its plan and its map, and found every artifact of the plan. -/
structure Gathered (host : Host N K D) (env : Env D) (files : Files D) (args : FetchArgs)
    (plan : BootPlan) (artifactMap : ArtifactMap)
    (found : List (ArtifactDescriptor × List UInt8)) : Prop where
  planLoads : loadPlan host env files args.plan = .ok plan
  mapReads : readJson host env files (ArtifactMap.deserialize host) args.artifactMap =
    .ok artifactMap
  fetchable : List.Forall₂ (fun planned f => ∃ files',
    Fetchable host env files' artifactMap args.artifactMap planned f.1 f.2) plan.artifacts found

omit [DecidableEq D] in
theorem MakesDir.not_file {path : List Component} (h : MakesDir host path event) :
    event.made ≠ some (place, .file bytes) := by
  obtain ⟨_, -, _, -, rfl⟩ := h
  simp [Event.made]

/-- **A record is written by a fetch** that gathered what it says, up to where its write broke
off. -/
theorem gathered_of_record {args : FetchArgs} (hname : place.name = cacheRecordName)
    (h : (main host env (.fetch args)).Occurs files before event)
    (hmade : event.made = some (place, .file bytes)) :
    ∃ plan artifactMap found, Gathered host env files args plan artifactMap found ∧
      bytes <+: jsonBytes host
        ((cacheRecord env plan artifactMap (cachedArtifacts args.cache found)).serialize host) := by
  have h : (fetchArtifacts host env args.plan args.artifactMap args.cache args.evidence).Occurs
      files before event := h
  unfold fetchArtifacts at h
  rw [Act.occurs_get_bind] at h
  obtain ⟨plan, hplan, h⟩ := Act.occurs_except_bind.mp h
  obtain ⟨artifactMap, hmap, h⟩ := Act.occurs_except_bind.mp h
  rcases Act.occurs_bind.mp h with h | ⟨_, _, _, -, -, h⟩
  · exact absurd hmade (occurs_createDirAll h).not_file
  rcases Act.occurs_bind.mp h with h | ⟨_, _, _, -, -, h⟩
  · exact absurd hmade (occurs_createDirAll h).not_file
  rcases Act.occurs_bind.mp h with h | ⟨cached, _, _, hcached, -, h⟩
  · -- The files of the cache have other names.
    obtain ⟨kind, hkind, content, h⟩ := occurs_fetchAll h
    rw [sha256Hex] at h
    obtain ⟨rfl, -⟩ := h.made (plain_cacheName hkind _) hmade
    exact absurd hname (cacheName_ne_record hkind)
  rcases Act.occurs_bind.mp h with h | ⟨_, _, _, -, -, h⟩
  · obtain ⟨found, hfound, rfl, -⟩ := fetchAll_eq_ok hcached
    refine ⟨plan, artifactMap, found, ⟨hplan, hmap, hfound.imp fun planned f hf => ?_⟩, ?_⟩
    · obtain ⟨earlier, -, hfetchable⟩ := hf
      exact ⟨_, hfetchable⟩
    · obtain hdir | ⟨location, -, rfl⟩ := occurs_writeJson h
      · exact absurd hmade hdir.not_file
      · obtain ⟨-, hbytes⟩ := eq_of_made_write hmade
        rw [Entry.file.inj hbytes]
        exact kept_prefix env location _
  · obtain ⟨-, rfl⟩ := Act.occurs_emit.mp h
    exact absurd hmade (by simp [Event.made])

/-- **A plan is written by a planner** that accepted it, up to where its write broke off. -/
theorem planned_of_made {args : PlanArgs} (h : (main host env (.plan args)).Occurs files before
    event) (hmade : event.made = some (place, .file bytes)) :
    ∃ output, planOutput host env files args = .ok output ∧
      bytes <+: jsonBytes host output.serialize := by
  obtain ⟨output, houtput, ⟨out, -, hdir | ⟨location, -, rfl⟩⟩ | ⟨_, rfl⟩⟩ := occurs_runPlan h
  · exact absurd hmade hdir.not_file
  · obtain ⟨-, hbytes⟩ := eq_of_made_write hmade
    rw [Entry.file.inj hbytes]
    exact ⟨output, houtput, kept_prefix env location _⟩
  · exact absurd hmade (by simp [Event.made])

/-! ## Reading a run backwards -/

/-- In the beginning there is no such file, and only commands of the kind may make it one. -/
structure OnlyFrom (host : Host N K D) (start : Files D) (run : List (Invocation D × Nat))
    (place : Location D) (kind : Commands → Prop) : Prop where
  fresh : ∀ bytes, start place ≠ some (.file bytes)
  made : ∀ step ∈ run, ∀ bytes, step.1.command.MayMake host place (.file bytes) →
    kind step.1.command

omit [DecidableEq D] in
theorem OnlyFrom.earlier {earlier later : List (Invocation D × Nat)} {kind : Commands → Prop}
    (h : OnlyFrom host start (earlier ++ later) place kind) :
    OnlyFrom host start earlier place kind where
  fresh := h.fresh
  made := fun step hstep => h.made step (List.mem_append_left later hstep)

/-- What such a file holds was written by a command of the kind. -/
theorem OnlyFrom.exists_made {kind : Commands → Prop} (h : OnlyFrom host start run place kind)
    (hfile : afterKills host start run place = some (.file bytes)) :
    ∃ earlier step later before event, run = earlier ++ step :: later ∧ kind step.1.command ∧
      (main host step.1.env step.1.command).Occurs (afterKills host start earlier) before event ∧
      event.made = some (place, .file bytes) := by
  obtain ⟨earlier, step, later, before, event, rfl, hoccurs, hnone, hsome⟩ :=
    exists_occurs_of_afterKills (P := fun files => files place = some (.file bytes)) (h.fresh bytes)
      hfile
  have hmade : event.made = some (place, .file bytes) := by
    by_cases hentry : ∃ entry, event.made = some (place, entry)
    · obtain ⟨entry, hentry⟩ := hentry
      rw [apply_made hentry] at hsome
      rw [hentry, Option.some.inj hsome]
    · rw [apply_of_made fun entry hmade => hentry ⟨entry, hmade⟩] at hsome
      exact absurd hsome hnone
  exact ⟨earlier, step, later, before, event, rfl,
    h.made step (by simp) bytes (mayMake_of_occurs hoccurs hmade), hoccurs, hmade⟩

/-- **The planner behind a plan** that is loaded. -/
theorem exists_planner (hfaithful : Faithful host) {path : String}
    (honly : ∀ place ∈ locate host (components path),
      OnlyFrom host start run place fun command => ∃ args, command = .plan args)
    (hload : loadPlan host env (afterKills host start run) path = .ok plan) :
    ∃ earlier planner later args output, run = earlier ++ planner :: later ∧
      planner.1.command = .plan args ∧
      planOutput host planner.1.env (afterKills host start earlier) args = .ok output ∧
      plan = output.plan := by
  obtain ⟨value, hvalue, -⟩ := bind_eq_ok.mp hload
  obtain ⟨raw, _, hread, -, -⟩ := readJson_eq_ok.mp hvalue
  obtain ⟨-, place, hplace, hfile⟩ := readFile_eq_some.mp hread
  obtain ⟨earlier, planner, later, before, event, rfl, ⟨args, hargs⟩, hoccurs, hmade⟩ :=
    (honly place hplace).exists_made hfile
  rw [hargs] at hoccurs
  obtain ⟨output, houtput, hraw⟩ := planned_of_made hoccurs hmade
  obtain ⟨-, hsorted⟩ := artifacts_of_planOutput houtput
  exact ⟨earlier, planner, later, args, output, rfl, hargs, houtput,
    plan_of_remains hfaithful hsorted hraw hread hload⟩

/-- **The fetch behind a record** that is loaded. -/
theorem exists_fetch (hfaithful : Faithful host) {evidence : String} {record : ArtifactCacheRecord}
    (honly : OnlyFrom host start run (recordPlace host evidence) fun command =>
      ∃ args, command = .fetch args)
    (hload : loadCacheRecord host env (afterKills host start run) evidence = .ok record) :
    ∃ earlier fetcher later args plan artifactMap found, run = earlier ++ fetcher :: later ∧
      fetcher.1.command = .fetch args ∧
      Gathered host fetcher.1.env (afterKills host start earlier) args plan artifactMap found ∧
      record = cacheRecord fetcher.1.env plan artifactMap (cachedArtifacts args.cache found) := by
  obtain ⟨raw, _, hread, -, -⟩ := readJson_eq_ok.mp (loadCacheRecord_eq_ok.mp hload)
  obtain ⟨-, place, hplace, hfile⟩ := readFile_eq_some.mp hread
  obtain rfl := Option.some.inj (hplace.symm.trans (locate_join plain_cacheRecordName))
  obtain ⟨earlier, fetcher, later, before, event, rfl, ⟨args, hargs⟩, hoccurs, hmade⟩ :=
    honly.exists_made hfile
  rw [hargs] at hoccurs
  obtain ⟨plan, artifactMap, found, hgathered, hraw⟩ := gathered_of_record rfl hoccurs hmade
  refine ⟨earlier, fetcher, later, args, plan, artifactMap, found, rfl, hargs, hgathered,
    record_of_remains hfaithful (fun artifact hartifact => ?_) hraw hread hload⟩
  obtain ⟨f, -, rfl⟩ := List.mem_map.mp hartifact
  exact Nat.mod_lt _ (by decide)

/-! ## The chain -/

/-- The artifact is what the map states for the reference of the key: under the kind of the key,
with the digest of the first descriptor of the reference. -/
def Stated (artifacts : List (String × String)) (artifactMap : ArtifactMap) (key : String)
    (artifact : CachedArtifactRecord) : Prop :=
  ∃ descriptor, artifacts.lookup key = some artifact.artifactRef ∧
    artifactMap.artifacts.find? (fun candidate => candidate.artifactRef = artifact.artifactRef) =
      some descriptor ∧
    planKeyToArtifactKind key = .ok descriptor.kind ∧ artifact.sha256 = descriptor.sha256

/-- In the run a planner accepted the manifest, and a fetch after it took the artifacts of its plan
from the map. -/
inductive Chain (host : Host N K D) (start : Files D) :
    List (Invocation D × Nat) → SignedBootManifest → ArtifactMap → Prop
  | intro {earlier between later : List (Invocation D × Nat)} {planner fetcher : Invocation D × Nat}
      {planArgs : PlanArgs} {fetchArgs : FetchArgs} {manifestValue : Json N}
      {manifest : SignedBootManifest} {token : EnrollmentToken} {keys : TrustedKeyDocument}
      {key : TrustedKey} {now : Int} {artifactMap : ArtifactMap}
      (plans : planner.1.command = .plan planArgs)
      (accepts : Accepts host planner.1.env (afterKills host start earlier) planArgs manifestValue
        manifest token keys key now)
      (fetches : fetcher.1.command = .fetch fetchArgs)
      (planLoads : loadPlan host fetcher.1.env
        (afterKills host start (earlier ++ planner :: between)) fetchArgs.plan =
          .ok (buildPlan manifest token))
      (mapReads : readJson host fetcher.1.env
        (afterKills host start (earlier ++ planner :: between)) (ArtifactMap.deserialize host)
          fetchArgs.artifactMap = .ok artifactMap) :
      Chain host start (earlier ++ planner :: between ++ fetcher :: later) manifest artifactMap

omit [DecidableEq D] in
/-- The artifacts a fetch gathers are those its map states for its plan, and it keeps them by their
digests. -/
theorem Gathered.stated {args : FetchArgs} {key kind : String} {artifact : CachedArtifactRecord}
    (h : Gathered host env files args plan artifactMap found)
    (hkey : planKeyToArtifactKind key = .ok kind)
    (hfirst : (cachedArtifacts args.cache found).find? (fun artifact => artifact.kind = kind) =
      some artifact) :
    Stated plan.artifacts artifactMap key artifact ∧ KeptByDigest host artifact := by
  have hfetched : List.Forall₂ FetchedFor plan.artifacts (cachedArtifacts args.cache found) := by
    unfold cachedArtifacts
    rw [List.forall₂_map_right_iff]
    refine h.fetchable.imp fun planned f hf => ?_
    obtain ⟨_, hfetchable⟩ := hf
    exact hfetchable.fetchedFor
  have hlookup := lookup_of_fetchedFor hkey hfetched hfirst
  have hkind : artifact.kind = kind := by simpa using List.find?_some hfirst
  obtain ⟨f, hf, rfl⟩ := List.mem_map.mp (List.mem_of_find?_eq_some hfirst)
  obtain ⟨planned, -, files', hfetchable⟩ := exists_mem_of_forall₂ h.fetchable f hf
  have hdescribed := hfetchable.first
  rw [← (hfetchable.fetchedFor : FetchedFor planned (cachedArtifact args.cache f.1 f.2)).2]
    at hdescribed
  have hkey' : planKeyToArtifactKind key = .ok f.1.kind :=
    hkey.trans (congrArg Except.ok hkind.symm)
  exact ⟨⟨f.1, hlookup, hdescribed, hkey', rfl⟩,
    _, f.1.kind, hfetchable.mem_artifactKinds, hfetchable.locate⟩

omit [DecidableEq D] in
/-- What is kept by its digest is not where a proof is. -/
theorem StillCached.cached {artifact : CachedArtifactRecord} {proof : Location D}
    (hkept : KeptByDigest host artifact) (hname : proof.name ∈ [preExecProofName, execProofName])
    (h : StillCached host env files proof artifact) : Cached host env files artifact := by
  obtain h | hplace := h
  · exact h
  · exact absurd rfl (hkept.name_ne hname hplace)

/-- **Custody.** Let the record of an execution be at a place that only fetches make a file of, and
the plans of the fetches at places that only planners do. Then behind every `kexec` command, however
the invocations before it ended or were killed, stands a manifest that a planner accepted and a map
from which its artifacts were fetched, and the kernel and the initrd that were checked are, when the
command is run, files with the digests that the map states for the references of the manifest. -/
theorem custody (hfaithful : Faithful host) {last : Invocation D} {argv : List String}
    (hoccurs : (main host last.env last.command).Occurs (afterKills host start run) before
      (.kexec argv))
    (hrecords : ∀ args, last.command = .execute args →
      OnlyFrom host start run (recordPlace host args.evidence) fun command =>
        ∃ args, command = .fetch args)
    (hplans : ∀ step ∈ run, ∀ args, step.1.command = .fetch args →
      ∀ place ∈ locate host (components args.plan), OnlyFrom host start run place fun command =>
        ∃ args, command = .plan args) :
    ∃ args plan kernel initrd name proof location manifest artifactMap,
      last.command = .execute args ∧
      Gate host last.env (afterKills host start run) args before argv plan kernel initrd name proof
        location ∧
      Chain host start run manifest artifactMap ∧
      (Stated manifest.artifacts artifactMap "kernel_ref" kernel ∧
        Cached host last.env (replay (afterKills host start run) before) kernel) ∧
      Stated manifest.artifacts artifactMap "initrd_ref" initrd ∧
        Cached host last.env (replay (afterKills host start run) before) initrd := by
  obtain ⟨-, args, _, plan, kernel, initrd, name, proof, location, hargs, heq, hgate⟩ :=
    gate_of_occurs hoccurs rfl
  obtain rfl := Event.kexec.inj heq
  obtain ⟨record, hrecord, hkernel, hinitrd⟩ := hgate.verified.record
  obtain ⟨untilFetch, fetcher, later, fetchArgs, fetchPlan, artifactMap, found, rfl, hfetch,
    hgathered, rfl⟩ := exists_fetch hfaithful (hrecords args hargs) hrecord
  obtain ⟨earlier, planner, between, planArgs, output, rfl, hplan, houtput, rfl⟩ :=
    exists_planner hfaithful (fun place hplace =>
      (hplans fetcher (by simp) fetchArgs hfetch place hplace).earlier) hgathered.planLoads
  obtain ⟨manifestValue, manifest, token, keys, key, now, haccepts, rfl⟩ :=
    planOutput_eq_ok.mp houtput
  have hkernelKey : planKeyToArtifactKind "kernel_ref" = .ok "kernel" := rfl
  have hinitrdKey : planKeyToArtifactKind "initrd_ref" = .ok "initrd" := rfl
  obtain ⟨hkernelStated, hkernelKept⟩ := hgathered.stated hkernelKey hkernel
  obtain ⟨hinitrdStated, hinitrdKept⟩ := hgathered.stated hinitrdKey hinitrd
  have hname : location.name ∈ [preExecProofName, execProofName] := by
    have hplace := hgate.place
    cases hgate.phase with
    | load =>
      obtain rfl := Option.some.inj ((locate_join plain_preExecProofName).symm.trans hplace)
      exact List.mem_cons_self
    | exec =>
      obtain rfl := Option.some.inj ((locate_join plain_execProofName).symm.trans hplace)
      exact List.mem_cons_of_mem _ List.mem_cons_self
  exact ⟨args, plan, kernel, initrd, name, proof, location, manifest, artifactMap, hargs, hgate,
    .intro hplan haccepts hfetch hgathered.planLoads hgathered.mapReads,
    ⟨hkernelStated, hgate.kernelFile.cached hkernelKept hname⟩,
    hinitrdStated, hgate.initrdFile.cached hinitrdKept hname⟩

/-! ## The release -/

/-- The times of the release are read back as they were printed. -/
theorem time_of_timestamp {others : List (Json Int)} {time time' : Int}
    (h : (releaseHost others).timestamp ((releaseHost others).rfc3339 time) = some time') :
    time' = time := by
  have h : (releaseHost []).timestamp ((releaseHost []).rfc3339 time) = some time' := h
  by_cases hstart : time = stageTime
  · subst hstart
    exact Option.some.inj (h.symm.trans timestamp_release)
  by_cases hend : time = stageTime + 3600000000000
  · subst hend
    have hread : (releaseHost []).timestamp
        ((releaseHost []).rfc3339 (stageTime + 3600000000000)) =
          some (stageTime + 3600000000000) := by decide
    exact Option.some.inj (h.symm.trans hread)
  · -- Any other time is printed as nothing.
    have hprinted : (releaseHost []).rfc3339 time = "" := by
      show (((releaseLibrary []).times.find? fun entry => entry.2 = time).map Prod.fst).getD "" = ""
      have hnone : (releaseLibrary []).times.find? (fun entry => entry.2 = time) = none := by
        simp [releaseLibrary, Ne.symm hstart, Ne.symm hend]
      rw [hnone]
      rfl
    rw [hprinted] at h
    have hread : (releaseHost []).timestamp "" = none := by decide
    exact absurd (h.symm.trans hread) (by simp)

theorem faithful_release (others : List (Json Int)) : Faithful (releaseHost others) := by
  refine faithful_of_printed lineTexts_decimal (fun raw value h => ?_)
    (fun _ _ => time_of_timestamp) (fun n n' hn h => ?_)
  · rw [jsonBytes_release]
    exact printed_of_parse h
  · exact Option.some.inj (h.symm.trans (asU64_release hn))

omit [DecidableEq D] in
/-- A fetch makes files of its two directories only. -/
theorem dir_of_fetch {args : FetchArgs}
    (h : (Commands.fetch args).MayMake host place (.file bytes)) :
    place.dir = host.dirOf (components args.cache) ∨
      place.dir = host.dirOf (components args.evidence) := by
  cases h with
  | cached => exact .inl rfl
  | fetched => exact .inr rfl

/-- A plan and a fetch of the release. -/
def gatheringRun (planKill fetchKill : Nat) : List (Invocation (List String) × Nat) :=
  [(⟨Stage.env, .plan releaseBoot.planArgs⟩, planKill),
    (⟨Stage.env, .fetch releaseBoot.fetchArgs⟩, fetchKill)]

/-- Only the fetch makes a file of the place of the record, and only the planner of that of the
plan. -/
theorem onlyFrom_record (planKill fetchKill : Nat) : OnlyFrom (releaseHost bootDocuments) bootFiles
    (gatheringRun planKill fetchKill) (recordPlace (releaseHost bootDocuments) "evidence")
    fun command => ∃ args, command = .fetch args where
  fresh bytes := by
    have hnone : bootFiles (recordPlace (releaseHost []) "evidence") = none := by decide
    intro h
    exact absurd (hnone.symm.trans h) (by simp)
  made := by
    simp only [gatheringRun, List.forall_mem_cons, List.not_mem_nil, false_implies, implies_true,
      and_true]
    refine ⟨fun bytes h => ?_, fun _ _ => ⟨_, rfl⟩⟩
    cases h with
    | planned hout hplace =>
      obtain rfl := Option.some.inj hout
      have hlocate : locate (releaseHost []) (components releaseBoot.planPath) =
          some ⟨["srv"], "plan"⟩ := by decide
      have heq := Option.some.inj (hlocate.symm.trans hplace)
      exact absurd (congrArg Location.name heq) (by decide)

theorem onlyFrom_plan (planKill fetchKill : Nat) : OnlyFrom (releaseHost bootDocuments) bootFiles
    (gatheringRun planKill fetchKill) ⟨["srv"], "plan"⟩
    fun command => ∃ args, command = .plan args where
  fresh bytes := by
    have hnone : bootFiles ⟨["srv"], "plan"⟩ = none := by decide
    intro h
    exact absurd (hnone.symm.trans h) (by simp)
  made := by
    simp only [gatheringRun, List.forall_mem_cons, List.not_mem_nil, false_implies, implies_true,
      and_true]
    refine ⟨fun _ _ => ⟨_, rfl⟩, fun bytes h => ?_⟩
    have hdirs : ∀ path ∈ ["cache", "evidence"],
        (⟨["srv"], "plan"⟩ : Location (List String)).dir ≠
          (releaseHost []).dirOf (components path) := by decide
    obtain hdir | hdir := dir_of_fetch h
    · exact absurd hdir (hdirs "cache" (by simp))
    · exact absurd hdir (hdirs "evidence" (by simp))

omit [DecidableEq D] in
theorem mem_of_mem_kexecs {command : List String} {log : List (Event D)}
    (h : command ∈ kexecs log) : .kexec command ∈ log := by
  obtain ⟨event, hevent, hcommand⟩ := List.mem_filterMap.mp h
  cases event with
  | kexec other => exact Option.some.inj hcommand ▸ hevent
  | mkdir | write | print => exact absurd hcommand (by simp)

/-- The load of the release. -/
def loadInvocation : Invocation (List String) :=
  ⟨Stage.env, .execute (releaseBoot.executeArgs true)⟩

/-- What stands behind the kernel that the release loads. -/
theorem release_custody : ∃ planKill fetchKill before argv,
    Act.Occurs (main (releaseHost bootDocuments) loadInvocation.env loadInvocation.command)
      (afterKills (releaseHost bootDocuments) bootFiles (gatheringRun planKill fetchKill)) before
      (.kexec argv) ∧
    ∃ args plan kernel initrd name proof location manifest artifactMap,
      loadInvocation.command = .execute args ∧
      Gate (releaseHost bootDocuments) loadInvocation.env
        (afterKills (releaseHost bootDocuments) bootFiles (gatheringRun planKill fetchKill)) args
        before argv plan kernel initrd name proof location ∧
      Chain (releaseHost bootDocuments) bootFiles (gatheringRun planKill fetchKill) manifest
        artifactMap ∧
      (Stated manifest.artifacts artifactMap "kernel_ref" kernel ∧
        Cached (releaseHost bootDocuments) loadInvocation.env
          (replay (afterKills (releaseHost bootDocuments) bootFiles
            (gatheringRun planKill fetchKill)) before) kernel) ∧
      Stated manifest.artifacts artifactMap "initrd_ref" initrd ∧
        Cached (releaseHost bootDocuments) loadInvocation.env
          (replay (afterKills (releaseHost bootDocuments) bootFiles
            (gatheringRun planKill fetchKill)) before) initrd := by
  obtain ⟨planLog, hplanRun, -, hplanned⟩ := prospect_release.planned calm_stage
  obtain ⟨kernelRef, hkernelRef⟩ := hplanned.refs "kernel_ref" (by decide)
  obtain ⟨initrdRef, hinitrdRef⟩ := hplanned.refs "initrd_ref" (by decide)
  obtain ⟨fetchLog, hfetchRun, -, kernel, -, initrd, -, -, -, hstocked⟩ :=
    hplanned.fetched calm_stage hkernelRef hinitrdRef
  obtain ⟨loadLog, hloadRun, hkexecs, -⟩ := hstocked.loaded calm_stage
  have hfiles : afterKills (releaseHost bootDocuments) bootFiles
      (gatheringRun planLog.length fetchLog.length) =
        replay (replay bootFiles planLog) fetchLog := by
    show replay (replay bootFiles ((main (releaseHost bootDocuments) Stage.env
      (.plan releaseBoot.planArgs) bootFiles).2.take planLog.length)) ((main _ Stage.env
      (.fetch releaseBoot.fetchArgs) (replay bootFiles ((main (releaseHost bootDocuments) Stage.env
      (.plan releaseBoot.planArgs) bootFiles).2.take planLog.length))).2.take fetchLog.length) = _
    rw [hplanRun, List.take_length, hfetchRun, List.take_length]
  have hmem : .kexec ("kexec" :: loadArgs kernel initrd) ∈ loadLog := by
    refine mem_of_mem_kexecs ?_
    rw [hkexecs]
    exact List.mem_singleton_self _
  obtain ⟨before, hoccurs⟩ := Act.occurs_of_mem_log hloadRun hmem
  rw [← hfiles] at hoccurs
  refine ⟨planLog.length, fetchLog.length, before, _, hoccurs, custody (faithful_release _) hoccurs
    (fun args hargs => ?_) (fun step hstep args hargs place hplace => ?_)⟩
  · obtain rfl := Commands.execute.inj hargs
    exact onlyFrom_record _ _
  · have hsteps : step.1.command = .plan releaseBoot.planArgs ∨
        step.1.command = .fetch releaseBoot.fetchArgs := by
      simp only [gatheringRun, List.mem_cons, List.not_mem_nil, or_false] at hstep
      obtain rfl | rfl := hstep
      · exact .inl rfl
      · exact .inr rfl
    rw [hargs] at hsteps
    obtain hplan | hfetch := hsteps
    · exact absurd hplan (by simp)
    · obtain rfl := Commands.fetch.inj hfetch
      have hlocate : locate (releaseHost []) (components releaseBoot.planPath) =
          some ⟨["srv"], "plan"⟩ := by decide
      obtain rfl := Option.some.inj (hlocate.symm.trans hplace)
      exact onlyFrom_plan _ _

end Nlboot.Client
