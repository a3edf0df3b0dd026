import Nlboot.Client.Decision
import Nlboot.Client.FetchRuns

/-!
# Which cached files an execution checks

`fetch_artifacts` of `rust/nlboot-client/src/main.rs` records every artifact of the plan with its
digest. `verify_cached_kernel_initrd` goes back to two of them: the kernel and the initrd, which are
what `kexec --load` is given. A rootfs is recorded, and nothing looks at it again.

* `RecordedBy`: the record of a fetch that succeeded.

Results:
* `eq_of_kind`: the record of a fetch has one artifact of a kind.
* **`execute_checksCache`**: an execution that gets past its checks found the recorded kernel and
  initrd, and one whose kernel or initrd was changed or deleted refuses.
* `deletedRootfs_passes`: a rootfs is deleted, and the execution goes on.
-/

namespace Nlboot.Client

open Nlboot.Lib Nlboot.Lib.Path

variable {N K D : Type} [DecidableEq D] {host : Host N K D} {env : Env D} {files : Files D}
  {record : ArtifactCacheRecord}

/-- A fetch succeeded and left this record. -/
def RecordedBy (host : Host N K D) (env : Env D) (files : Files D) (args : FetchArgs)
    (record : ArtifactCacheRecord) : Prop :=
  (fetchArtifacts host env args.plan args.artifactMap args.cache args.evidence files).1 = .ok () ∧
    ∃ plan artifactMap found made,
      Fetched host env files args.plan args.artifactMap args.cache args.evidence plan artifactMap
        found made ((fetchArtifacts host env args.plan args.artifactMap args.cache
          args.evidence).stateAfter files) ∧
      record = cacheRecord env plan artifactMap (cachedArtifacts args.cache found)

/-- **One artifact of a kind**: the record of a fetch has no two of them. -/
theorem eq_of_kind {args : FetchArgs} (h : RecordedBy host env files args record)
    {artifact artifact' : CachedArtifactRecord} (hmem : artifact ∈ record.artifacts)
    (hmem' : artifact' ∈ record.artifacts) (hkind : artifact.kind = artifact'.kind) :
    artifact = artifact' := by
  obtain ⟨-, plan, artifactMap, found, made, hfetched, rfl⟩ := h
  have hnodup := nodup_kinds hfetched.fetchedFor
    ((ascending_of_loadPlan hfetched.planLoads).imp And.right)
  exact List.inj_on_of_nodup_map hnodup hmem hmem' hkind

omit [DecidableEq D] in
/-- The record that is read is the one that was written. -/
theorem loadCacheRecord_unchanged {evidence : String} {record' : ArtifactCacheRecord}
    (hback : ReadsBack host record)
    (hkept : files (recordPlace host evidence) =
      some (.file (jsonBytes host (record.serialize host))))
    (h : loadCacheRecord host env files evidence = .ok record') : record' = record := by
  cases hread : readFile host env files (join evidence cacheRecordName) with
  | none =>
    unfold loadCacheRecord readJson at h
    simp only [hread] at h
    exact absurd h (by simp [throw, throwThe, MonadExceptOf.throw])
  | some bytes =>
    obtain ⟨-, location, hlocation, hfile⟩ := readFile_eq_some.mp hread
    obtain rfl := Option.some.inj ((locate_join plain_cacheRecordName).symm.trans hlocation)
    obtain rfl := Entry.file.inj (Option.some.inj (hkept.symm.trans hfile))
    exact Except.ok.inj (h.symm.trans (loadCacheRecord_of_readsBack hread hback))

/-- What is verified on the record of a fetch: its kernel and its initrd. -/
theorem cached_of_verified {fetchEnv : Env D} {start : Files D} {fetchArgs : FetchArgs}
    (hfetch : RecordedBy host fetchEnv start fetchArgs record) (hback : ReadsBack host record)
    {cache evidence : String} {kernel initrd : CachedArtifactRecord}
    (hkept : files (recordPlace host evidence) =
      some (.file (jsonBytes host (record.serialize host))))
    (h : Verified host env files cache evidence kernel initrd) :
    ∀ artifact ∈ record.artifacts, artifact.kind = "kernel" ∨ artifact.kind = "initrd" →
      Cached host env files artifact := by
  obtain ⟨record', hrecord, hkernel, hinitrd⟩ := h.record
  obtain rfl := loadCacheRecord_unchanged hback hkept hrecord
  have hkernelKind : kernel.kind = "kernel" := by simpa using List.find?_some hkernel
  have hinitrdKind : initrd.kind = "initrd" := by simpa using List.find?_some hinitrd
  rintro artifact hmem (hkind | hkind)
  · rw [eq_of_kind hfetch hmem (List.mem_of_find?_eq_some hkernel) (hkind.trans hkernelKind.symm)]
    exact h.kernel
  · rw [eq_of_kind hfetch hmem (List.mem_of_find?_eq_some hinitrd) (hkind.trans hinitrdKind.symm)]
    exact h.initrd

/-- An invocation whose checks do not pass does nothing but record a refusal. -/
theorem refusalEvent_of_error {args : ExecuteArgs} {exit : Exit}
    (h : executeDecision host env files args = .error exit) :
    ∃ log, runExecute host env args files = (.error exit.message, log) ∧
      ∀ event ∈ log, RefusalEvent host env args.evidence event := by
  rw [runExecute_apply, h]
  obtain ⟨reason, message⟩ := exit
  cases reason with
  | none => exact ⟨[], rfl, fun _ hmem => absurd hmem List.not_mem_nil⟩
  | some reason =>
    obtain ⟨log, hlog⟩ := refuse_apply host env files args.evidence reason message
    refine ⟨log, hlog Unit, fun event hevent => ?_⟩
    obtain ⟨before, hoccurs⟩ := Act.occurs_of_mem_log (hlog Unit) hevent
    exact occurs_refuse hoccurs

/-- **An execution checks the kernel and the initrd.** After a fetch, and whatever happened to the
files since then but for the record: a `linux-kexec` execution that gets past its checks finds the
kernel and the initrd of the record with their recorded digests; and if one of them was changed or
deleted, it fails, and does nothing but record a refusal. -/
theorem execute_checksCache {fetchEnv : Env D} {start : Files D} {fetchArgs : FetchArgs}
    (hfetch : RecordedBy host fetchEnv start fetchArgs record) (hback : ReadsBack host record)
    {args : ExecuteArgs} (hlinux : args.adapter = "linux-kexec")
    (hkept : files (recordPlace host args.evidence) =
      some (.file (jsonBytes host (record.serialize host)))) :
    (∀ handoff, executeDecision host env files args = .ok handoff →
      ∀ artifact ∈ record.artifacts, artifact.kind = "kernel" ∨ artifact.kind = "initrd" →
        Cached host env files artifact) ∧
    ∀ artifact ∈ record.artifacts, artifact.kind = "kernel" ∨ artifact.kind = "initrd" →
      ¬ Cached host env files artifact →
        ∃ e log, runExecute host env args files = (.error e, log) ∧
          ∀ event ∈ log, RefusalEvent host env args.evidence event := by
  have hpassed : ∀ handoff, executeDecision host env files args = .ok handoff →
      ∀ artifact ∈ record.artifacts, artifact.kind = "kernel" ∨ artifact.kind = "initrd" →
        Cached host env files artifact := by
    intro handoff hdecision
    obtain ⟨-, plan, kernel, initrd, -, hready⟩ | ⟨-, plan, kernel, initrd, -, hready, -⟩ :=
      (executeDecision_eq_ok hlinux).mp hdecision
    · exact cached_of_verified hfetch hback hkept hready.verified
    · exact cached_of_verified hfetch hback hkept hready.verified
  refine ⟨hpassed, fun artifact hmem hkind hchanged => ?_⟩
  cases hdecision : executeDecision host env files args with
  | ok handoff => exact absurd (hpassed handoff hdecision artifact hmem hkind) hchanged
  | error exit => exact ⟨exit.message, refusalEvent_of_error hdecision⟩

/-! ## The rootfs -/

/-- Where the record says an artifact is. -/
theorem place_of_recorded {args : FetchArgs} (h : RecordedBy host env files args record)
    {artifact : CachedArtifactRecord} (hmem : artifact ∈ record.artifacts) :
    artifact.kind ∈ artifactKinds ∧ locate host (components artifact.cachePath) =
      some ⟨host.dirOf (components args.cache), cacheName artifact.kind artifact.sha256⟩ := by
  obtain ⟨-, plan, artifactMap, found, made, hfetched, rfl⟩ := h
  obtain ⟨f, hf, rfl⟩ := List.mem_map.mp hmem
  obtain ⟨planned, -, earlier, -, hfetchable⟩ := exists_mem_of_forall₂ hfetched.fetchable f hf
  exact ⟨hfetchable.mem_artifactKinds, hfetchable.locate⟩

/-- Artifacts of two kinds are in two places. -/
theorem place_ne_of_kind {args : FetchArgs} (h : RecordedBy host env files args record)
    {artifact artifact' : CachedArtifactRecord} (hmem : artifact ∈ record.artifacts)
    (hmem' : artifact' ∈ record.artifacts) (hkind : artifact.kind ≠ artifact'.kind)
    {location location' : Location D}
    (hlocation : locate host (components artifact.cachePath) = some location)
    (hlocation' : locate host (components artifact'.cachePath) = some location') :
    location ≠ location' := by
  obtain ⟨hknown, hplace⟩ := place_of_recorded h hmem
  obtain ⟨hknown', hplace'⟩ := place_of_recorded h hmem'
  obtain rfl := Option.some.inj (hplace.symm.trans hlocation)
  obtain rfl := Option.some.inj (hplace'.symm.trans hlocation')
  exact fun heq => hkind (cacheName_inj hknown hknown' (congrArg Location.name heq)).1

/-- **The rootfs is not looked at**: whatever becomes of its file, what was verified is verified. -/
theorem verified_whatever_rootfs {fetchEnv : Env D} {start files' : Files D} {fetchArgs : FetchArgs}
    (hfetch : RecordedBy host fetchEnv start fetchArgs record) (hback : ReadsBack host record)
    {cache evidence : String} {kernel initrd rootfs : CachedArtifactRecord}
    (hkept : files (recordPlace host evidence) =
      some (.file (jsonBytes host (record.serialize host))))
    (h : Verified host env files cache evidence kernel initrd) (hmem : rootfs ∈ record.artifacts)
    (hkind : rootfs.kind = "rootfs") {place : Location D}
    (hplace : locate host (components rootfs.cachePath) = some place)
    (hothers : ∀ location ≠ place, files' location = files location) :
    Verified host env files' cache evidence kernel initrd := by
  obtain ⟨record', hrecord, hkernel, hinitrd⟩ := h.record
  obtain rfl := loadCacheRecord_unchanged hback hkept hrecord
  have hkernelKind : kernel.kind = "kernel" := by simpa using List.find?_some hkernel
  have hinitrdKind : initrd.kind = "initrd" := by simpa using List.find?_some hinitrd
  refine h.frame fun location hrests => hothers location ?_
  obtain rfl | hlocation | hlocation := hrests
  · obtain ⟨hknown, hplace'⟩ := place_of_recorded hfetch hmem
    obtain rfl := Option.some.inj (hplace'.symm.trans hplace)
    exact fun heq => cacheName_ne_record hknown (congrArg Location.name heq).symm
  · exact place_ne_of_kind hfetch (List.mem_of_find?_eq_some hkernel) hmem
      (by rw [hkernelKind, hkind]; decide) hlocation hplace
  · exact place_ne_of_kind hfetch (List.mem_of_find?_eq_some hinitrd) hmem
      (by rw [hinitrdKind, hkind]; decide) hlocation hplace

/-! ## A deleted rootfs -/

/-- The SHA-256 digest of the text `r`. -/
def rootfsDigest : List UInt8 :=
  [69, 67, 73, 228, 34, 240, 82, 151, 25, 30, 173, 19, 226, 29, 61, 181, 32, 229, 171, 239, 82, 5,
    94, 73, 100, 184, 47, 178, 19, 245, 147, 161]

/-- A plan with a rootfs. -/
def rootfsPlan : BootPlan :=
  { planFor "r1" with
    artifacts := [("initrd_ref", "initrd"), ("kernel_ref", "kernel"), ("rootfs_ref", "rootfs")] }

/-- The document of its artifact map, and the map. -/
def rootfsMapDoc : Json Int :=
  .obj [("artifact_map_id", .str "map"),
    ("artifacts", .arr [descriptorDoc "initrd" "i" initrdDigest,
      descriptorDoc "kernel" "k" kernelDigest, descriptorDoc "rootfs" "r" rootfsDigest])]

def rootfsMap : ArtifactMap where
  artifactMapId := "map"
  artifacts := [descriptorFor "initrd" "i" initrdDigest, descriptorFor "kernel" "k" kernelDigest,
    descriptorFor "rootfs" "r" rootfsDigest]

/-- What a fetch finds, and its record. -/
def rootfsFound : List (ArtifactDescriptor × List UInt8) :=
  [(descriptorFor "initrd" "i" initrdDigest, [105]),
    (descriptorFor "kernel" "k" kernelDigest, [107]),
    (descriptorFor "rootfs" "r" rootfsDigest, [114])]

/-- The SHA-256 digest of nothing. -/
def emptyDigest : List UInt8 :=
  [227, 176, 196, 66, 152, 252, 28, 20, 154, 251, 244, 200, 153, 111, 185, 36, 39, 174, 65, 228,
    100, 155, 147, 76, 164, 149, 153, 27, 120, 82, 184, 85]

def rootfsRecord : ArtifactCacheRecord :=
  cacheRecord Stage.env rootfsPlan rootfsMap (cachedArtifacts "cache" rootfsFound)

def rootfsLibrary : Library where
  documents := [rootfsPlan.serialize, rootfsMapDoc, rootfsRecord.serialize clockHost]
  digests := [([107], kernelDigest), ([105], initrdDigest), ([114], rootfsDigest),
    ([], emptyDigest)]
  times := [("2026-01-01T00:00:00Z", stageTime)]

/-- The files a fetch begins with. -/
def rootfsFiles : Files (List String) := fun location =>
  List.lookup location [
    (⟨["srv"], "plan"⟩, .file (jsonBytes (lexicalHost rootfsLibrary) rootfsPlan.serialize)),
    (⟨["srv"], "map"⟩, .file (jsonBytes (lexicalHost rootfsLibrary) rootfsMapDoc)),
    (⟨["srv"], "cache"⟩, .dir),
    (⟨["srv"], "evidence"⟩, .dir), (⟨["srv"], "k"⟩, .file [107]), (⟨["srv"], "i"⟩, .file [105]),
    (⟨["srv"], "r"⟩, .file [114])]

def rootfsFetch : FetchArgs where
  plan := "plan"
  artifactMap := "map"
  cache := "cache"
  evidence := "evidence"

/-- The files after the fetch, and without the rootfs. -/
def rootfsFetched : Files (List String) :=
  (fetchArtifacts (lexicalHost rootfsLibrary) Stage.env "plan" "map" "cache"
    "evidence").stateAfter rootfsFiles

def rootfsPlace : Location (List String) :=
  ⟨["srv", "cache"], cacheName "rootfs" (hexdigest rootfsDigest)⟩

def rootfsDeleted : Files (List String) := fun location =>
  if location = rootfsPlace then none else rootfsFetched location

theorem loadPlan_rootfs {files : Files (List String)}
    (hfile : files ⟨["srv"], "plan"⟩ =
      some (.file (jsonBytes (lexicalHost rootfsLibrary) rootfsPlan.serialize))) :
    loadPlan (lexicalHost rootfsLibrary) Stage.env files "plan" = .ok rootfsPlan := by
  have hdocuments : rootfsLibrary.documents =
      [] ++ rootfsPlan.serialize :: [rootfsMapDoc, rootfsRecord.serialize clockHost] := rfl
  have hparse := parse_jsonBytes [] hdocuments fun _ h => absurd h List.not_mem_nil
  exact loadPlan_of_serialize (readFile_srv (by decide) hfile) hparse (by decide)

theorem readJson_rootfs : readJson (lexicalHost rootfsLibrary) Stage.env rootfsFiles
    (ArtifactMap.deserialize (lexicalHost rootfsLibrary)) "map" = .ok rootfsMap := by
  have hdocuments : rootfsLibrary.documents =
      [rootfsPlan.serialize] ++ rootfsMapDoc :: [rootfsRecord.serialize clockHost] := rfl
  have hparse := parse_jsonBytes [rootfsPlan.serialize] hdocuments fun other hother => by
    rw [List.mem_singleton.mp hother]
    exact printed_ne (by decide) (by decide)
  exact readJson_of_readFile (readFile_srv (by decide) rfl) hparse rfl

theorem readsBack_rootfs : ReadsBack (lexicalHost rootfsLibrary) rootfsRecord where
  parse := by
    have hdocuments : rootfsLibrary.documents =
        [rootfsPlan.serialize, rootfsMapDoc] ++ rootfsRecord.serialize clockHost :: [] := rfl
    have hdoc : ∀ record : ArtifactCacheRecord,
        record.serialize (lexicalHost rootfsLibrary) = record.serialize clockHost := fun _ => rfl
    rw [hdoc]
    have hne : ∀ other ∈ [rootfsPlan.serialize, rootfsMapDoc],
        printed other ≠ printed (rootfsRecord.serialize clockHost) := by
      simp only [List.forall_mem_cons, List.not_mem_nil, false_implies, implies_true, and_true]
      exact ⟨printed_ne (by decide) (by decide),
        printed_ne (by decide) (by decide)⟩
    exact parse_jsonBytes [rootfsPlan.serialize, rootfsMapDoc] hdocuments hne
  createdAt := by decide
  sizeBytes := by
    intro artifact hartifact
    obtain ⟨f, hf, rfl⟩ := List.mem_map.mp hartifact
    exact asU64_ofU64 _ (Nat.mod_lt _ (by decide))

theorem fetchable_rootfs : List.Forall₂ (fun planned f =>
    Fetchable (lexicalHost rootfsLibrary) Stage.env rootfsFiles rootfsMap "map" planned f.1 f.2)
    rootfsPlan.artifacts rootfsFound := by
  have hsource : ∀ {source : String} {bytes : List UInt8}, source ∈ ["i", "k", "r"] →
      rootfsFiles ⟨["srv"], source⟩ = some (.file bytes) →
        readArtifactSource (lexicalHost rootfsLibrary) Stage.env rootfsFiles source "map" =
          .ok bytes := by
    intro source bytes hsource hfile
    simp only [List.mem_cons, List.not_mem_nil, or_false] at hsource
    obtain rfl | rfl | rfl := hsource <;>
      exact readArtifactSource_srv (by decide) (by decide) (by decide)
        (by decide) hfile
  exact .cons ⟨rfl, rfl, hsource (by simp [descriptorFor]) rfl, by decide, by decide⟩
    (.cons ⟨rfl, rfl, hsource (by simp [descriptorFor]) rfl, by decide, by decide⟩
      (.cons ⟨rfl, rfl, hsource (by simp [descriptorFor]) rfl, by decide, by decide⟩
        .nil))

theorem sourcesApart_rootfs : SourcesApart (lexicalHost rootfsLibrary) rootfsMap "map"
    ((lexicalHost rootfsLibrary).dirOf (components "cache")) := by
  have hplaces : ∀ descriptor ∈ rootfsMap.artifacts,
      (sourcePlace (lexicalHost rootfsLibrary) "map" descriptor.source).map Location.dir =
        some ["srv"] := by decide
  exact sourcesApart_of_dir hplaces (by decide)

theorem clear_rootfs : Clear (lexicalHost rootfsLibrary) Stage.env rootfsFiles "cache" "evidence"
    rootfsFound where
  cacheDirs := dirsExist_srv rootfsLibrary (by decide) rfl
  evidenceDirs := dirsExist_srv rootfsLibrary (by decide) rfl
  artifacts := by decide
  record := by decide
  writes _ := rfl

theorem fetchArtifacts_rootfs :
    (fetchArtifacts (lexicalHost rootfsLibrary) Stage.env "plan" "map" "cache" "evidence"
      rootfsFiles).1 = .ok () :=
  fetchArtifacts_of_fetchable (loadPlan_rootfs rfl) readJson_rootfs sourcesApart_rootfs clear_rootfs
    fetchable_rootfs

theorem fetched_rootfs : ∃ made, Fetched (lexicalHost rootfsLibrary) Stage.env rootfsFiles "plan"
    "map" "cache" "evidence" rootfsPlan rootfsMap rootfsFound made rootfsFetched := by
  obtain ⟨plan, artifactMap, found, made, h⟩ := fetched_stateAfter fetchArtifacts_rootfs
  obtain rfl := Except.ok.inj ((loadPlan_rootfs rfl).symm.trans h.planLoads)
  obtain rfl := Except.ok.inj (readJson_rootfs.symm.trans h.mapLoads)
  obtain rfl := h.found_eq sourcesApart_rootfs fetchable_rootfs
  exact ⟨made, h⟩

theorem recordedBy_rootfs :
    RecordedBy (lexicalHost rootfsLibrary) Stage.env rootfsFiles rootfsFetch rootfsRecord := by
  obtain ⟨made, h⟩ := fetched_rootfs
  exact ⟨fetchArtifacts_rootfs, rootfsPlan, rootfsMap, rootfsFound, made, h, rfl⟩

/-- The execution that follows. -/
def rootfsExecute : ExecuteArgs where
  plan := "plan"
  cache := "cache"
  evidence := "evidence"
  adapter := "linux-kexec"
  mutationAck := true
  rebootAck := false
  loadOnly := true
  execNow := false
  dryRun := false

/-- After the fetch the kernel and the initrd are verified. -/
theorem verified_rootfs : ∃ kernel initrd, Verified (lexicalHost rootfsLibrary) Stage.env
    rootfsFetched "cache" "evidence" kernel initrd := by
  obtain ⟨made, h⟩ := fetched_rootfs
  obtain ⟨kernel, hkernel, initrd, hinitrd, hverify, -⟩ :=
    (h.truthful sourcesApart_rootfs).verifies readsBack_rootfs Stage.env rfl
      (fun _ _ => rfl) "kernel" "initrd" rfl rfl
  exact ⟨kernel, initrd, verifyCachedKernelInitrd_eq_ok.mp hverify⟩

/-- The artifact of the rootfs in the record. -/
def rootfsArtifact : CachedArtifactRecord :=
  cachedArtifact "cache" (descriptorFor "rootfs" "r" rootfsDigest) [114]

/-- After the fetch, and with the rootfs deleted, the plan and the record are what they were. -/
theorem rootfsDeleted_files :
    rootfsDeleted (recordPlace (lexicalHost rootfsLibrary) "evidence") = some (.file
      (jsonBytes (lexicalHost rootfsLibrary)
        (rootfsRecord.serialize (lexicalHost rootfsLibrary)))) ∧
    rootfsDeleted ⟨["srv"], "plan"⟩ =
      some (.file (jsonBytes (lexicalHost rootfsLibrary) rootfsPlan.serialize)) := by
  obtain ⟨made, h⟩ := fetched_rootfs
  have hothers : ∀ location ≠ rootfsPlace, rootfsDeleted location = rootfsFetched location :=
    fun location hne => if_neg hne
  constructor
  · rw [hothers _ (by decide)]
    exact h.recorded
  · rw [hothers _ (by decide)]
    exact h.untouched (by decide) (by decide) rfl

/-- A fetch records a rootfs, the rootfs is deleted, and the execution gets past its checks. -/
theorem deletedRootfs_passes :
    RecordedBy (lexicalHost rootfsLibrary) Stage.env rootfsFiles rootfsFetch rootfsRecord ∧
    ReadsBack (lexicalHost rootfsLibrary) rootfsRecord ∧
    (∀ location ≠ rootfsPlace, rootfsDeleted location =
      (fetchArtifacts (lexicalHost rootfsLibrary) Stage.env "plan" "map" "cache"
        "evidence").stateAfter rootfsFiles location) ∧
    (∃ kernel initrd, executeDecision (lexicalHost rootfsLibrary) Stage.env rootfsDeleted
      rootfsExecute = .ok (.load rootfsPlan kernel initrd)) ∧
    rootfsArtifact ∈ rootfsRecord.artifacts ∧
    ¬ Cached (lexicalHost rootfsLibrary) Stage.env rootfsDeleted rootfsArtifact := by
  have hmem : rootfsArtifact ∈ cachedArtifacts "cache" rootfsFound :=
    List.mem_map.mpr ⟨(descriptorFor "rootfs" "r" rootfsDigest, [114]), by simp [rootfsFound], rfl⟩
  have hdir : (lexicalHost rootfsLibrary).dirOf (components "cache") = ["srv", "cache"] := by
    decide
  have hplace : locate (lexicalHost rootfsLibrary) (components rootfsArtifact.cachePath) =
      some rootfsPlace := by
    rw [rootfsPlace, ← hdir]
    exact locate_join (plain_cacheName (by decide) rootfsDigest)
  have hothers : ∀ location ≠ rootfsPlace, rootfsDeleted location = rootfsFetched location :=
    fun location hne => if_neg hne
  refine ⟨recordedBy_rootfs, readsBack_rootfs, hothers, ?_, hmem, ?_⟩
  · obtain ⟨kernel, initrd, hverified⟩ := verified_rootfs
    obtain ⟨made, h⟩ := fetched_rootfs
    have hstill := verified_whatever_rootfs recordedBy_rootfs readsBack_rootfs h.recorded hverified
      hmem rfl hplace hothers
    refine ⟨kernel, initrd, (executeDecision_eq_ok rfl).mpr (.inl ⟨⟨rfl, rfl⟩, rootfsPlan, kernel,
      initrd, rfl, ?_⟩)⟩
    exact
      { mutationAck := rfl
        root := .inr rfl
        plan := loadPlan_rootfs rootfsDeleted_files.2
        verified := hstill }
  · rintro ⟨bytes, hread, -⟩
    obtain ⟨-, location, hlocation, hfile⟩ := readFile_eq_some.mp hread
    obtain rfl := Option.some.inj (hplace.symm.trans hlocation)
    exact absurd hfile (by rw [rootfsDeleted, if_pos rfl]; simp)

/-- With the rootfs deleted the kernel and the initrd are still checked. -/
theorem rootfsDeleted_checked :
    (∀ handoff, executeDecision (lexicalHost rootfsLibrary) Stage.env rootfsDeleted rootfsExecute =
        .ok handoff →
      ∀ artifact ∈ rootfsRecord.artifacts, artifact.kind = "kernel" ∨ artifact.kind = "initrd" →
        Cached (lexicalHost rootfsLibrary) Stage.env rootfsDeleted artifact) ∧
    ∀ artifact ∈ rootfsRecord.artifacts, artifact.kind = "kernel" ∨ artifact.kind = "initrd" →
      ¬ Cached (lexicalHost rootfsLibrary) Stage.env rootfsDeleted artifact →
        ∃ e log, runExecute (lexicalHost rootfsLibrary) Stage.env rootfsExecute rootfsDeleted =
          (.error e, log) ∧ ∀ event ∈ log,
            RefusalEvent (lexicalHost rootfsLibrary) Stage.env "evidence" event :=
  execute_checksCache recordedBy_rootfs readsBack_rootfs rfl rootfsDeleted_files.1

end Nlboot.Client
