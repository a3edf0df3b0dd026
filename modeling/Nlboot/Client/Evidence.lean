import Nlboot.Client.Execute
import Nlboot.Client.LexicalHost

/-!
# Reading back what was written

The commands of the client talk to each other through files: a plan that one printed, the record
that another left in the evidence directory. What they find there is what was written, as long as
`serde_json` and `chrono` read what they print.

* `ReadsBack`: the libraries read a record back.
* **`loadCacheRecord_of_readsBack`**, **`loadPlan_of_serialize`**: a record and a plan that were
  written are loaded again.
* `writeJson_apply`: writing a document where the directories are there.
* `occurs_loadOnly_of_ready`, `occurs_exec_of_ready`: runs that get as far as their command.
* `Stage`, `Setting`: a plan and a record on a machine without links.
-/

namespace Nlboot.Client

open Nlboot.Lib Nlboot.Lib.Path

/-! ## Documents -/

section

variable {N K D : Type} {host : Host N K D} {env : Env D} {files : Files D}

/-- The libraries read the record back. -/
structure ReadsBack (host : Host N K D) (record : ArtifactCacheRecord) : Prop where
  parse : host.parse (jsonBytes host (record.serialize host)) = .json (record.serialize host)
  createdAt : host.timestamp (host.rfc3339 record.createdAt) = some record.createdAt
  sizeBytes : ∀ artifact ∈ record.artifacts,
    host.asU64 (host.ofU64 artifact.sizeBytes) = some artifact.sizeBytes

theorem readJson_of_readFile {α : Type} {decode : Json N → Option α} {path : String}
    {raw : List UInt8} {value : Json N} {a : α} (hread : readFile host env files path = some raw)
    (hparse : host.parse raw = .json value) (hdecode : decode value = some a) :
    readJson host env files decode path = .ok a := by
  unfold readJson
  simp only [hread, hparse, hdecode]
  rfl

/-- A record is loaded iff the document in its place is read. -/
theorem loadCacheRecord_eq_ok {evidence : String} {record : ArtifactCacheRecord} :
    loadCacheRecord host env files evidence = .ok record ↔
      readJson host env files (ArtifactCacheRecord.deserialize host)
        (join evidence cacheRecordName) = .ok record := by
  unfold loadCacheRecord
  cases hread : readJson host env files (ArtifactCacheRecord.deserialize host)
      (join evidence cacheRecordName) with
  | ok found => simp [pure, Except.pure, hread]
  | error e => simp [throw, throwThe, MonadExceptOf.throw, hread]

/-- **A record that was written** is loaded again. -/
theorem loadCacheRecord_of_readsBack {evidence : String} {record : ArtifactCacheRecord}
    (hread : readFile host env files (join evidence cacheRecordName) =
      some (jsonBytes host (record.serialize host))) (hback : ReadsBack host record) :
    loadCacheRecord host env files evidence = .ok record := by
  have hjson : readJson host env files (ArtifactCacheRecord.deserialize host)
      (join evidence cacheRecordName) = .ok record :=
    readJson_of_readFile hread hback.parse
      (ArtifactCacheRecord.deserialize_serialize hback.createdAt hback.sizeBytes)
  unfold loadCacheRecord
  simp only [hjson]
  rfl

theorem distinctNames_serialize {plan : BootPlan} (h : btreeMap plan.artifacts = plan.artifacts) :
    (plan.serialize : Json N).distinctNames = true := by
  have hkeys : ["action", "manifest_id", "boot_release_set_id", "release_set_ref", "artifacts",
      "authorized_by", "signature_algorithm", "crypto_profile", "policy_ref", "allowed_operations",
      "proof_requirements", "offline_fallback", "execute"].Nodup := by decide
  have hfallback : (plan.offlineFallback.serialize : Json N).distinctNames = true := by
    have hkeys : ["enabled", "strategy", "requires_signature_verification",
      "allows_unsigned_artifacts"].Nodup := by decide
    exact Bool.and_eq_true_iff.mpr ⟨decide_eq_true hkeys, rfl⟩
  have htexts : ∀ texts : List String, (.arr (texts.map .str) : Json N).distinctNames = true := by
    intro texts
    refine Json.distinctNames_arr.mpr fun j hj => ?_
    obtain ⟨text, -, rfl⟩ := List.mem_map.mp hj
    rfl
  have hartifacts : (.obj (plan.artifacts.map fun m => (m.1, .str m.2)) : Json N).distinctNames =
      true := by
    refine Json.distinctNames_obj.mpr ⟨?_, fun m hm => ?_⟩
    · rw [List.map_map]
      exact h ▸ nodup_btreeMap plan.artifacts
    · obtain ⟨e, -, rfl⟩ := List.mem_map.mp hm
      rfl
  refine Json.distinctNames_obj.mpr ⟨hkeys, ?_⟩
  simp only [List.forall_mem_cons, hartifacts, hfallback, htexts]
  simp [Json.distinctNames]

/-- **A plan that was written** is loaded again. -/
theorem loadPlan_of_serialize {path : String} {raw : List UInt8} {plan : BootPlan}
    (hread : readFile host env files path = some raw)
    (hparse : host.parse raw = .json plan.serialize)
    (h : btreeMap plan.artifacts = plan.artifacts) :
    loadPlan host env files path = .ok plan := by
  have hvalue : readValue host env files path = .ok plan.serialize := by
    refine readJson_of_readFile hread hparse ?_
    rw [toValue_eq_self (distinctNames_serialize h)]
  have hbare : valueGet (plan.serialize : Json N) "plan" = none := rfl
  unfold loadPlan
  rw [hvalue]
  refine bind_eq_ok.mpr ⟨_, rfl, ?_⟩
  rw [hbare]
  exact orThrow_eq_ok.mpr (BootPlan.deserialize_serialize h)

/-! ## Writing and running -/

variable [DecidableEq D] {log : List (Event D)}

/-- The directories a path goes through are there. -/
def DirsExist (host : Host N K D) (files : Files D) (path : List Component) : Prop :=
  ∀ dir, dir <+: path → ∀ location, locate host dir = some location → files location = some .dir

/-- The directories stay where they are, whatever is made at other places. -/
theorem DirsExist.replay {path : List Component} (h : DirsExist host files path)
    (hlog : ∀ event ∈ log, ∀ location entry, event.made = some (location, entry) →
      files location ≠ some .dir) : DirsExist host (replay files log) path := by
  intro dir hprefix location hlocation
  have hdir := h dir hprefix location hlocation
  rw [replay_of_made fun event hevent entry hmade => hlog event hevent location entry hmade hdir]
  exact hdir

/-- Writing a file leaves the directories where they are. -/
theorem DirsExist.write {path : List Component} {place : Location D} {bytes : List UInt8}
    (h : DirsExist host files path) (hplace : files place ≠ some .dir) :
    DirsExist host (Lib.replay files [.write place bytes]) path := by
  refine h.replay fun event hevent location entry hmade => ?_
  obtain rfl := List.mem_singleton.mp hevent
  obtain ⟨rfl, -⟩ := eq_of_made_write hmade
  exact hplace

/-- Where a file is written no directory comes to be. -/
theorem write_ne_dir {place location : Location D} {bytes : List UInt8}
    (h : files location ≠ some .dir) :
    Lib.replay files [.write place bytes] location ≠ some .dir := by
  refine replay_ne_dir (fun event hevent entry hmade => ?_) files h
  obtain rfl := List.mem_singleton.mp hevent
  obtain ⟨-, rfl⟩ := eq_of_made_write hmade
  simp

theorem makeDirs_of_dirs {error : String} : ∀ {dirs : List (List Component)},
    (∀ dir ∈ dirs, ∀ location, locate host dir = some location → files location = some .dir) →
      makeDirs host env error dirs files = (.ok (), [])
  | [], _ => rfl
  | dir :: dirs, h => by
    have hrest : makeDirs host env error dirs files = (.ok (), []) :=
      makeDirs_of_dirs fun dir' hdir' => h dir' (List.mem_cons_of_mem dir hdir')
    unfold makeDirs
    cases hloc : locate host dir with
    | none => exact hrest
    | some location =>
      simp only [Act.get_bind_apply, h dir List.mem_cons_self location hloc]
      exact hrest

/-- Where the directories are, none is made. -/
theorem createDirAll_of_dirs {path error : String} (h : DirsExist host files (components path)) :
    createDirAll host env path error files = (.ok (), []) :=
  makeDirs_of_dirs fun dir hdir => h dir ((List.mem_inits _ _).mp hdir)

/-- Where the directories are, a file is written as the write ends. -/
theorem writeFile_outcome {base name error : String} {bytes : List UInt8} (hname : Plain name)
    (hdirs : DirsExist host files (components base))
    (hentry : files ⟨host.dirOf (components base), name⟩ ≠ some .dir) :
    writeFile host env (join base name) bytes error files =
      match env.writes ⟨host.dirOf (components base), name⟩ with
      | .done => (.ok (), [.write ⟨host.dirOf (components base), name⟩ bytes])
      | .refused => (.error error, [])
      | .broken n =>
        (.error error, [.write ⟨host.dirOf (components base), name⟩ (bytes.take n)]) := by
  have hlocate : locate host (components (join base name)) =
      some ⟨host.dirOf (components base), name⟩ := locate_join hname
  have hexists : parentExists host files (components (join base name)) = true := by
    unfold parentExists
    rw [components_join base hname, List.dropLast_concat]
    cases hloc : locate host (components base) with
    | none => rfl
    | some location => exact decide_eq_true (hdirs _ List.prefix_rfl location hloc)
  unfold writeFile
  simp only [Act.get_bind_apply, hexists, hlocate, check, orThrow, if_pos hentry, if_true,
    Act.except_ok_bind_apply]
  cases env.writes ⟨host.dirOf (components base), name⟩ <;> rfl

/-- Where the directories are, a file is written. -/
theorem writeFile_apply {base name error : String} {bytes : List UInt8} (hname : Plain name)
    (hdirs : DirsExist host files (components base))
    (hentry : files ⟨host.dirOf (components base), name⟩ ≠ some .dir)
    (hdone : env.writes ⟨host.dirOf (components base), name⟩ = .done) :
    writeFile host env (join base name) bytes error files =
      (.ok (), [.write ⟨host.dirOf (components base), name⟩ bytes]) := by
  rw [writeFile_outcome hname hdirs hentry, hdone]

/-- Where the directories are, a document is all that is written. -/
theorem writeJson_apply {base name : String} {value : Json N} (hname : Plain name)
    (hdirs : DirsExist host files (components base))
    (hentry : files ⟨host.dirOf (components base), name⟩ ≠ some .dir)
    (hdone : env.writes ⟨host.dirOf (components base), name⟩ = .done) :
    writeJson host env (join base name) value files =
      (.ok (), [.write ⟨host.dirOf (components base), name⟩ (jsonBytes host value)]) := by
  obtain ⟨dir, hdir, hcomponents⟩ := exists_parent_join base hname
  have hparent : createParent host env (join base name) files = (.ok (), []) := by
    unfold createParent
    rw [hdir]
    refine makeDirs_of_dirs fun prefix_ hprefix => hdirs prefix_ ?_
    rw [hcomponents] at hprefix
    exact (List.mem_inits _ _).mp hprefix
  unfold writeJson
  rw [Act.bind_apply_ok hparent, replay_nil, writeFile_apply hname hdirs hentry hdone]
  rfl

/-- A gate that is passed does nothing. -/
theorem refuseUnless_bind_apply {β : Type} {evidence reason message : String} {c : Prop}
    [Decidable c] {f : Unit → Proc D β} (hc : c) :
    (refuseUnless host env evidence c reason message >>= f) files = f () files := by
  unfold refuseUnless
  rw [if_pos hc, Act.pure_bind_apply]

/-- A load-only run whose checks pass writes its proof and goes on. -/
theorem loadOnly_of_ready {planPath cache evidence : String} {mutationAck dryRun : Bool}
    {plan : BootPlan} {kernel initrd : CachedArtifactRecord}
    (hready : Ready host env files planPath cache evidence mutationAck dryRun plan kernel initrd) :
    executeLinuxKexecLoadOnly host env planPath cache evidence mutationAck dryRun files = (do
      writeJson host env (join evidence preExecProofName)
        (preExecProof host env plan dryRun ("kexec" :: loadArgs kernel initrd))
      if dryRun then
        println (toStringPretty host
          (preExecProof host env plan dryRun ("kexec" :: loadArgs kernel initrd)))
      else do
        invokeKexec env (loadArgs kernel initrd) "kexec --load"
        println (toStringPretty host
          (preExecProof host env plan dryRun ("kexec" :: loadArgs kernel initrd))) :
        Proc D Unit) files := by
  have hverify : verifyCachedKernelInitrd host env files cache evidence = .ok (kernel, initrd) :=
    verifyCachedKernelInitrd_eq_ok.mpr hready.verified
  unfold executeLinuxKexecLoadOnly requireMutationAck requireRootOrDryRun
  rw [refuseUnless_bind_apply hready.mutationAck, refuseUnless_bind_apply hready.root,
    Act.get_bind_apply, hready.plan, Act.except_ok_bind_apply, hverify, Act.except_ok_bind_apply]

/-- **A real load-only run** whose checks pass and whose proof is written runs the command. -/
theorem occurs_loadOnly_of_ready {planPath cache evidence : String} {mutationAck : Bool}
    {plan : BootPlan} {kernel initrd : CachedArtifactRecord}
    (hready : Ready host env files planPath cache evidence mutationAck false plan kernel initrd)
    (hwritten : writeJson host env (join evidence preExecProofName)
      (preExecProof host env plan false ("kexec" :: loadArgs kernel initrd)) files =
        (.ok (), log)) :
    (executeLinuxKexecLoadOnly host env planPath cache evidence mutationAck false).Occurs files log
      (.kexec ("kexec" :: loadArgs kernel initrd)) := by
  unfold Act.Occurs
  rw [loadOnly_of_ready hready]
  refine Act.occurs_bind.mpr (.inr ⟨(), log, [], hwritten, (List.append_nil log).symm, ?_⟩)
  refine Act.occurs_bind.mpr (.inl (Act.occurs_bind.mpr (.inl ?_)))
  exact Act.occurs_emit.mpr ⟨rfl, rfl⟩

/-- **A real exec run** whose checks pass and whose proof is written runs the command. -/
theorem occurs_exec_of_ready {planPath cache evidence : String} {mutationAck : Bool}
    {plan : BootPlan} {kernel initrd : CachedArtifactRecord}
    (hready : Ready host env files planPath cache evidence mutationAck false plan kernel initrd)
    (hexists : pathExists host env files (join evidence preExecProofName) = true)
    (hwritten : writeJson host env (join evidence execProofName)
      (execProof host env plan false ["kexec", "--exec"]) files = (.ok (), log)) :
    (executeLinuxKexecExec host env planPath cache evidence mutationAck true false).Occurs files log
      (.kexec ["kexec", "--exec"]) := by
  have hverify : verifyCachedKernelInitrd host env files cache evidence = .ok (kernel, initrd) :=
    verifyCachedKernelInitrd_eq_ok.mpr hready.verified
  unfold Act.Occurs executeLinuxKexecExec requireMutationAck requireRootOrDryRun
  rw [refuseUnless_bind_apply hready.mutationAck, refuseUnless_bind_apply rfl,
    refuseUnless_bind_apply hready.root, Act.get_bind_apply, hready.plan, Act.except_ok_bind_apply,
    hverify, Act.except_ok_bind_apply, refuseUnless_bind_apply hexists]
  refine Act.occurs_bind.mpr (.inr ⟨(), log, [], hwritten, (List.append_nil log).symm, ?_⟩)
  exact Act.occurs_bind.mpr (.inl (Act.occurs_emit.mpr ⟨rfl, rfl⟩))

end

/-! ## A stage -/

/-- The time on the stage. -/
def stageTime : Int := 1767225600000000000

/-- The host that knows the time on the stage. -/
def clockHost : Host Int String (List String) :=
  lexicalHost ⟨[], [], [("2026-01-01T00:00:00Z", stageTime)]⟩

theorem dirOf_evidence (library : Library) :
    (lexicalHost library).dirOf (components "evidence") = ["srv", "evidence"] := by
  rw [components_of_plain (by decide)]
  rfl

/-- Where a directory of the working directory is, its path is there. -/
theorem dirsExist_srv (library : Library) {files : Files (List String)} {name : String}
    (hname : Plain name) (hdir : files ⟨["srv"], name⟩ = some .dir) :
    DirsExist (lexicalHost library) files (components name) := by
  intro dir hprefix location hlocation
  rw [components_of_plain hname, List.prefix_cons_iff] at hprefix
  obtain rfl | ⟨rest, rfl, hrest⟩ := hprefix
  · exact absurd hlocation (by simp [locate])
  · obtain rfl := List.prefix_nil.mp hrest
    obtain rfl := Option.some.inj hlocation
    exact hdir

theorem dirsExist_evidence (library : Library) {files : Files (List String)}
    (hdir : files ⟨["srv"], "evidence"⟩ = some .dir) :
    DirsExist (lexicalHost library) files (components "evidence") :=
  dirsExist_srv library (by decide) hdir

/-- Where the evidence directory is, a document of it is all that is written. -/
theorem writeJson_evidence (library : Library) {env : Env (List String)}
    {files : Files (List String)} {name : String} (value : Json Int) (hname : Plain name)
    (hdir : files ⟨["srv"], "evidence"⟩ = some .dir)
    (hentry : files ⟨["srv", "evidence"], name⟩ ≠ some .dir)
    (hdone : env.writes ⟨["srv", "evidence"], name⟩ = .done) :
    writeJson (lexicalHost library) env (join "evidence" name) value files =
      (.ok (), [.write ⟨["srv", "evidence"], name⟩ (jsonBytes (lexicalHost library) value)]) := by
  have hdirs := dirsExist_evidence library hdir
  rw [← dirOf_evidence library] at hentry hdone ⊢
  exact writeJson_apply hname hdirs hentry hdone

/-- A plan and a record of the evidence directory, with the digests and the other files of a machine
without links. -/
structure Stage where
  plan : BootPlan
  record : ArtifactCacheRecord
  digests : List (List UInt8 × List UInt8)
  others : List (Location (List String) × Entry)
  sorted : btreeMap plan.artifacts = plan.artifacts
  createdAt : record.createdAt = stageTime
  sizeBytes : ∀ artifact ∈ record.artifacts, artifact.sizeBytes < 2 ^ 64

namespace Stage

def library (stage : Stage) : Library where
  documents := [stage.plan.serialize, stage.record.serialize clockHost]
  digests := stage.digests
  times := [("2026-01-01T00:00:00Z", stageTime)]

def host (stage : Stage) : Host Int String (List String) := lexicalHost stage.library

/-- The environment of the stage. -/
abbrev env : Env (List String) := calm stageTime

/-- The place of the plan, and of the record. -/
def planPlace : Location (List String) := ⟨["srv"], "plan"⟩

def recordPlace : Location (List String) := ⟨["srv", "evidence"], cacheRecordName⟩

/-- What `plan` and `fetch` wrote. -/
def planBytes (stage : Stage) : List UInt8 := jsonBytes stage.host stage.plan.serialize

def recordBytes (stage : Stage) : List UInt8 :=
  jsonBytes stage.host (stage.record.serialize stage.host)

/-- The files of the stage. -/
def files (stage : Stage) : Files (List String) := fun location =>
  List.lookup location ([(planPlace, .file stage.planBytes), (⟨["srv"], "evidence"⟩, .dir),
    (recordPlace, .file stage.recordBytes)] ++ stage.others)

theorem locate_plan (stage : Stage) : locate stage.host (components "plan") = some planPlace := by
  rw [components_of_plain (by decide)]
  rfl

theorem locate_evidence (stage : Stage) {name : String} (h : Plain name) :
    locate stage.host (components (join "evidence" name)) = some ⟨["srv", "evidence"], name⟩ := by
  rw [locate_join h, components_of_plain (by decide)]
  rfl

/-- A document of the evidence directory is written. -/
theorem writeJson_evidence (stage : Stage) (files : Files (List String)) {name : String}
    (value : Json Int) (hname : Plain name) (hdir : files ⟨["srv"], "evidence"⟩ = some .dir)
    (hentry : files ⟨["srv", "evidence"], name⟩ ≠ some .dir) :
    writeJson stage.host env (join "evidence" name) value files =
      (.ok (), [.write ⟨["srv", "evidence"], name⟩ (jsonBytes stage.host value)]) :=
  Client.writeJson_evidence stage.library value hname hdir hentry rfl

theorem readFile_of_locate {stage : Stage} {files : Files (List String)} {path : String}
    {location : Location (List String)} {bytes : List UInt8}
    (hloc : locate stage.host (components path) = some location)
    (hfile : files location = some (.file bytes)) :
    readFile stage.host env files path = some bytes :=
  readFile_eq_some.mpr ⟨rfl, location, hloc, hfile⟩

theorem timestamp_stageTime :
    clockHost.timestamp (clockHost.rfc3339 stageTime) = some stageTime := by
  decide

/-- A proof that is written on the stage. -/
theorem jsonBytes_preExecProof (stage : Stage) (plan : BootPlan) (dryRun : Bool)
    (command : List String) :
    jsonBytes stage.host (preExecProof stage.host env plan dryRun command) =
      printed (preExecProof clockHost env plan dryRun command) := by
  have hrfc3339 : stage.host.rfc3339 = clockHost.rfc3339 := rfl
  unfold preExecProof handoffProof
  rw [hrfc3339]
  unfold host
  exact jsonBytes_lexicalHost _ _

/-- The plan and the record begin differently. -/
theorem printed_ne (stage : Stage) :
    printed stage.plan.serialize ≠ printed (stage.record.serialize clockHost) :=
  Client.printed_ne (by decide) (by decide)

theorem parse_plan (stage : Stage) :
    stage.host.parse stage.planBytes = .json stage.plan.serialize := by
  have hdocuments : stage.library.documents =
      [] ++ stage.plan.serialize :: [stage.record.serialize clockHost] := rfl
  unfold planBytes host
  exact parse_jsonBytes [] hdocuments fun _ h => absurd h List.not_mem_nil

theorem parse_record (stage : Stage) :
    stage.host.parse stage.recordBytes = .json (stage.record.serialize stage.host) := by
  have hdocuments : stage.library.documents =
      [stage.plan.serialize] ++ stage.record.serialize clockHost :: [] := rfl
  have hdoc : stage.record.serialize stage.host = stage.record.serialize clockHost := rfl
  unfold recordBytes
  rw [hdoc]
  unfold host
  refine parse_jsonBytes [stage.plan.serialize] hdocuments fun other hother => ?_
  rw [List.mem_singleton.mp hother]
  exact stage.printed_ne

/-- The plan of the stage is loaded. -/
theorem loadPlan_stage {stage : Stage} {files : Files (List String)}
    (h : files planPlace = some (.file stage.planBytes)) :
    loadPlan stage.host env files "plan" = .ok stage.plan :=
  loadPlan_of_serialize (readFile_of_locate stage.locate_plan h) stage.parse_plan stage.sorted

theorem readsBack (stage : Stage) : ReadsBack stage.host stage.record where
  parse := by
    have hparse := stage.parse_record
    unfold recordBytes at hparse
    exact hparse
  createdAt := by
    have htimestamp : stage.host.timestamp = clockHost.timestamp := rfl
    have hrfc3339 : stage.host.rfc3339 = clockHost.rfc3339 := rfl
    rw [stage.createdAt, htimestamp, hrfc3339]
    exact timestamp_stageTime
  sizeBytes := fun artifact hartifact => asU64_ofU64 _ (stage.sizeBytes artifact hartifact)

/-- The record of the stage is loaded. -/
theorem loadCacheRecord_stage {stage : Stage} {files : Files (List String)}
    (h : files recordPlace = some (.file stage.recordBytes)) :
    loadCacheRecord stage.host env files "evidence" = .ok stage.record :=
  loadCacheRecord_of_readsBack
    (readFile_of_locate (stage.locate_evidence plain_cacheRecordName) h) stage.readsBack

end Stage

/-- A plan of this release. -/
def planFor (release : String) : BootPlan where
  action := "boot-recovery"
  manifestId := release
  bootReleaseSetId := release
  releaseSetRef := release
  artifacts := [("initrd_ref", "initrd"), ("kernel_ref", "kernel")]
  authorizedBy := "token"
  signatureAlgorithm := fipsReadyAlgorithm
  cryptoProfile := fipsReadyProfile
  policyRef := "policy://sourceos/nlboot/recovery/safe-plan-v1"
  allowedOperations := operationsForMode "recovery"
  proofRequirements := proofRequirementsForMode "recovery"
  offlineFallback := fallbackForMode "recovery"
  execute := false

/-- The SHA-256 digests of the texts `k` and `i`. -/
def kernelDigest : List UInt8 :=
  [130, 84, 195, 41, 169, 40, 80, 246, 213, 57, 221, 55, 111, 72, 22, 238, 39, 100, 81, 125, 165,
    224, 35, 85, 20, 175, 67, 49, 100, 72, 13, 122]

def initrdDigest : List UInt8 :=
  [222, 125, 27, 114, 26, 30, 6, 50, 183, 207, 4, 237, 245, 3, 44, 142, 207, 250, 159, 154, 8,
    73, 33, 82, 185, 38, 241, 165, 167, 231, 101, 215]

/-- An artifact of one byte in the file of this path. -/
def artifactAt (kind ref path : String) (digest : List UInt8) : CachedArtifactRecord where
  artifactRef := ref
  kind
  sha256 := hexdigest digest
  sizeBytes := 1
  contentType := "application/octet-stream"
  source := ref
  cachePath := path

/-- The record of a fetch for a release. -/
def recordFor (release : String) (kernel initrd : CachedArtifactRecord) : ArtifactCacheRecord where
  ok := true
  planManifestId := release
  bootReleaseSetId := release
  releaseSetRef := release
  artifactMapId := "map"
  createdAt := stageTime
  artifacts := [initrd, kernel]

/-- What is chosen on a stage: the release of the plan, the release of the record, and what the
record says about the kernel and the initrd. -/
structure Setting where
  release : String
  recorded : String
  kernelRef : String
  kernelPath : String
  initrdPath : String

namespace Setting

def kernel (setting : Setting) : CachedArtifactRecord :=
  artifactAt "kernel" setting.kernelRef setting.kernelPath kernelDigest

def initrd (setting : Setting) : CachedArtifactRecord :=
  artifactAt "initrd" "initrd" setting.initrdPath initrdDigest

/-- The stage of a setting. -/
def stage (setting : Setting) (digests : List (List UInt8 × List UInt8))
    (others : List (Location (List String) × Entry)) : Stage where
  plan := planFor setting.release
  record := recordFor setting.recorded setting.kernel setting.initrd
  digests := ([107], kernelDigest) :: ([105], initrdDigest) :: digests
  others
  sorted := show btreeMap [("initrd_ref", "initrd"), ("kernel_ref", "kernel")] =
    [("initrd_ref", "initrd"), ("kernel_ref", "kernel")] by decide
  createdAt := rfl
  sizeBytes := by
    intro artifact hartifact
    simp only [recordFor, List.mem_cons, List.not_mem_nil, or_false] at hartifact
    obtain rfl | rfl := hartifact <;> exact show 1 < 2 ^ 64 by decide

/-- The record of a setting is verified where its paths are under the cache and lead to the two
bytes. -/
theorem verified {setting : Setting} {digests : List (List UInt8 × List UInt8)}
    {others : List (Location (List String) × Entry)} {files : Files (List String)} {cache : String}
    {kernelPlace initrdPlace : Location (List String)}
    (hrecord : files Stage.recordPlace = some (.file (setting.stage digests others).recordBytes))
    (hkernelPath : Path.startsWith setting.kernelPath cache = true)
    (hinitrdPath : Path.startsWith setting.initrdPath cache = true)
    (hkernelPlace : locate (setting.stage digests others).host (components setting.kernelPath) =
      some kernelPlace)
    (hinitrdPlace : locate (setting.stage digests others).host (components setting.initrdPath) =
      some initrdPlace)
    (hkernel : files kernelPlace = some (.file [107]))
    (hinitrd : files initrdPlace = some (.file [105])) :
    Verified (setting.stage digests others).host Stage.env files cache "evidence" setting.kernel
      setting.initrd where
  record := ⟨_, Stage.loadCacheRecord_stage hrecord, rfl, rfl⟩
  kernelPath := hkernelPath
  initrdPath := hinitrdPath
  kernel := ⟨[107], Stage.readFile_of_locate hkernelPlace hkernel, rfl⟩
  initrd := ⟨[105], Stage.readFile_of_locate hinitrdPlace hinitrd, rfl⟩

/-- A digest that was added to those of the two bytes. -/
theorem sha256_stage (setting : Setting) {bytes digest : List UInt8}
    {others : List (Location (List String) × Entry)} (hkernel : bytes ≠ [107])
    (hinitrd : bytes ≠ [105]) :
    (setting.stage [(bytes, digest)] others).host.sha256 bytes = digest := by
  show (([([107], kernelDigest), ([105], initrdDigest), (bytes, digest)] :
    List (List UInt8 × List UInt8)).lookup bytes).getD [] = digest
  rw [List.lookup_cons, beq_eq_false_iff_ne.mpr hkernel, List.lookup_cons,
    beq_eq_false_iff_ne.mpr hinitrd, List.lookup_cons, beq_self_eq_true]
  rfl

end Setting

end Nlboot.Client
