import Nlboot.Client.Attribution

/-!
# What a fetch leaves

`fetch_artifacts` of `rust/nlboot-client/src/main.rs` and the `verify_cached_kernel_initrd` that
reads what it left are two commands: one writes files and a record of them, the other goes from the
record back to the files.

* `WriteError`: the messages of the writes of a fetch.
* `SourcesApart`: no source is a file of a directory.
* `Truthful`: what the record of a fetch says holds of the files.
* **`fetch_complete`**: a fetch whose writes succeed succeeds iff every artifact of the plan can be
  fetched, and leaves a truthful record.
-/

namespace Nlboot.Client

open Nlboot.Lib Nlboot.Lib.Path

variable {N K D : Type} [DecidableEq D] {host : Host N K D} {env : Env D} {files files' : Files D}
  {artifactMap : ArtifactMap} {artifactMapPath cache evidence planPath : String} {plan : BootPlan}

/-! ## Sources -/

/-- The file a source names, where it names one. -/
def sourcePlace (host : Host N K D) (artifactMapPath source : String) : Option (Location D) :=
  if startsWith source "https://" || startsWith source "http://" then none
  else locate host (components (join ((parent artifactMapPath).getD ".") source))

/-- No source of the map is a file of the directory. -/
def SourcesApart (host : Host N K D) (artifactMap : ArtifactMap) (artifactMapPath : String)
    (dir : D) : Prop :=
  ∀ descriptor ∈ artifactMap.artifacts,
    ∀ location ∈ sourcePlace host artifactMapPath descriptor.source, location.dir ≠ dir

omit [DecidableEq D] in
/-- What is read depends on the files only. -/
theorem readFile_congr {path : String} (h : ∀ location ∈ locate host (components path), ∀ bytes,
    files' location = some (.file bytes) ↔ files location = some (.file bytes)) :
    readFile host env files' path = readFile host env files path := by
  ext bytes
  rw [readFile_eq_some, readFile_eq_some]
  refine and_congr_right fun _ => exists_congr fun location => and_congr_right fun hloc => ?_
  exact h location hloc bytes

omit [DecidableEq D] in
theorem readArtifactSource_congr {source : String}
    (h : ∀ location ∈ sourcePlace host artifactMapPath source, ∀ bytes,
      files' location = some (.file bytes) ↔ files location = some (.file bytes)) :
    readArtifactSource host env files' source artifactMapPath =
      readArtifactSource host env files source artifactMapPath := by
  unfold readArtifactSource
  unfold sourcePlace at h
  split_ifs with hurl
  · rfl
  · rw [if_neg hurl] at h
    simp only [readFile_congr h]

omit [DecidableEq D] in
/-- Where the sources are the same, the same artifacts can be fetched. -/
theorem fetchable_congr {planned : String × String} {descriptor : ArtifactDescriptor}
    {bytes : List UInt8} (h : ∀ descriptor ∈ artifactMap.artifacts,
      readArtifactSource host env files' descriptor.source artifactMapPath =
        readArtifactSource host env files descriptor.source artifactMapPath) :
    Fetchable host env files' artifactMap artifactMapPath planned descriptor bytes ↔
      Fetchable host env files artifactMap artifactMapPath planned descriptor bytes := by
  constructor
  · intro hf
    refine ⟨hf.kind, hf.first, ?_, hf.sha256, hf.sizeBytes⟩
    rw [← h descriptor (List.mem_of_find?_eq_some hf.first)]
    exact hf.source
  · intro hf
    refine ⟨hf.kind, hf.first, ?_, hf.sha256, hf.sizeBytes⟩
    rw [h descriptor (List.mem_of_find?_eq_some hf.first)]
    exact hf.source

omit [DecidableEq D] in
/-- A file of the cache is written in the directory of the cache. -/
theorem WritesArtifact.dir {event : Event D} (h : WritesArtifact host env cache event) :
    ∀ location entry, event.made = some (location, entry) →
      location.dir = host.dirOf (components cache) := by
  obtain ⟨kind, hkind, bytes, place, hplace, rfl⟩ := h
  intro location entry hmade
  obtain ⟨rfl, -⟩ := Prod.mk.inj (Option.some.inj hmade)
  rw [sha256Hex, locate_join (plain_cacheName hkind _)] at hplace
  rw [← Option.some.inj hplace]

/-- Making directories and writing to the cache leaves the sources as they were. -/
theorem sources_kept {made : Files D} {log : List (Event D)}
    (hapart : SourcesApart host artifactMap artifactMapPath (host.dirOf (components cache)))
    (hmade : ∀ location bytes, made location = some (.file bytes) ↔
      files location = some (.file bytes))
    (hlog : ∀ event ∈ log, ∀ location entry, event.made = some (location, entry) →
      location.dir = host.dirOf (components cache)) :
    ∀ descriptor ∈ artifactMap.artifacts,
      readArtifactSource host env (replay made log) descriptor.source artifactMapPath =
        readArtifactSource host env files descriptor.source artifactMapPath := by
  intro descriptor hdescriptor
  refine readArtifactSource_congr fun location hlocation bytes => ?_
  rw [replay_of_made, hmade]
  intro event hevent entry hevent'
  exact hapart descriptor hdescriptor location hlocation (hlog event hevent location entry hevent')

/-! ## Success -/

/-- The message of a write of a fetch that failed. -/
inductive WriteError (cache evidence : String) : String → Prop where
  | cache : WriteError cache evidence ("failed to create cache " ++ cache)
  | evidence : WriteError cache evidence ("failed to create evidence dir " ++ evidence)
  | artifact {e : String} (h : UnwrittenArtifact cache e) : WriteError cache evidence e
  | parent (dir : String) : WriteError cache evidence ("failed to create " ++ dir)
  | record : WriteError cache evidence ("failed to write " ++ join evidence cacheRecordName)

theorem writeJson_eq_error {path : String} {value : Json N} {e : String} {log : List (Event D)}
    (h : writeJson host env path value files = (.error e, log)) :
    (∃ dir, e = "failed to create " ++ dir) ∨ e = "failed to write " ++ path := by
  unfold writeJson at h
  obtain h | ⟨_, _, _, -, h, -⟩ := Act.bind_eq_error.mp h
  · unfold createParent at h
    cases hdir : Path.parent path with
    | none =>
      rw [hdir] at h
      exact absurd (Prod.mk.inj h).1 (by simp)
    | some dir =>
      rw [hdir] at h
      exact .inl ⟨dir, makeDirs_eq_error h⟩
  · exact .inr (writeFile_eq_error h)

/-- **A fetch failed**: one of its writes failed, or an artifact of the plan cannot be fetched. -/
theorem fetchArtifacts_eq_error {e : String} {log : List (Event D)}
    (hplan : loadPlan host env files planPath = .ok plan)
    (hmap : readJson host env files (ArtifactMap.deserialize host) artifactMapPath =
      .ok artifactMap)
    (hapart : SourcesApart host artifactMap artifactMapPath (host.dirOf (components cache)))
    (h : fetchArtifacts host env planPath artifactMapPath cache evidence files = (.error e, log)) :
    WriteError cache evidence e ∨ ∃ planned ∈ plan.artifacts, ∀ descriptor bytes,
      ¬ Fetchable host env files artifactMap artifactMapPath planned descriptor bytes := by
  unfold fetchArtifacts at h
  rw [Act.get_bind_apply, hplan, Act.except_ok_bind_apply, hmap, Act.except_ok_bind_apply] at h
  obtain hcache | ⟨_, dirs, _, hdirs, hrest, -⟩ := Act.bind_eq_error.mp h
  · exact .inl (makeDirs_eq_error hcache ▸ .cache)
  obtain hevidence | ⟨_, dirs', _, hdirs', hrest, -⟩ := Act.bind_eq_error.mp hrest
  · exact .inl (makeDirs_eq_error hevidence ▸ .evidence)
  obtain hloop | ⟨cached, _, _, -, hrest, -⟩ := Act.bind_eq_error.mp hrest
  · obtain hwrite | ⟨planned, hplanned, hnot⟩ := fetchAll_eq_error hloop
    · exact .inl (.artifact hwrite)
    · refine .inr ⟨planned, hplanned, fun descriptor bytes hfetchable => hnot descriptor bytes ?_⟩
      refine (fetchable_congr ?_).mpr hfetchable
      refine sources_kept hapart (files_of_dirs hdirs hdirs') fun event hevent => ?_
      obtain ⟨before, hoccurs⟩ := Act.occurs_of_mem_log hloop hevent
      exact (occurs_fetchAll hoccurs).dir
  obtain hrecord | ⟨_, _, _, -, hprint, -⟩ := Act.bind_eq_error.mp hrest
  · obtain ⟨dir, rfl⟩ | rfl := writeJson_eq_error hrecord
    · exact .inl (.parent dir)
    · exact .inl .record
  · exact absurd (Prod.mk.inj hprint).1 (by simp)

/-! ## A fetch nothing is in the way of -/

/-- The directories of a fetch are there, no directory has the name of a file of it, and every write
is done. -/
structure Clear (host : Host N K D) (env : Env D) (files : Files D) (cache evidence : String)
    (found : List (ArtifactDescriptor × List UInt8)) : Prop where
  cacheDirs : DirsExist host files (components cache)
  evidenceDirs : DirsExist host files (components evidence)
  artifacts : ∀ f ∈ found, files (cachePlace host cache f.1) ≠ some .dir
  record : files (recordPlace host evidence) ≠ some .dir
  writes : ∀ place, env.writes place = .done

/-- The loop writes what can be fetched. -/
theorem fetchAll_of_fetchable
    (hapart : SourcesApart host artifactMap artifactMapPath (host.dirOf (components cache)))
    (hdone : ∀ place, env.writes place = .done) : ∀ {artifacts : List (String × String)}
    {found : List (ArtifactDescriptor × List UInt8)} {files : Files D},
      List.Forall₂ (fun planned f =>
        Fetchable host env files artifactMap artifactMapPath planned f.1 f.2) artifacts found →
      DirsExist host files (components cache) →
      (∀ f ∈ found, files (cachePlace host cache f.1) ≠ some .dir) →
        fetchAll host env artifactMap artifactMapPath cache artifacts files =
          (.ok (cachedArtifacts cache found), artifactWrites host cache found)
  | [], [], _, .nil, _, _ => rfl
  | planned :: artifacts, f :: found, files, .cons hf hrest, hdirs, hfree => by
    have hplain : Plain (cacheName f.1.kind f.1.sha256) :=
      hf.sha256 ▸ plain_cacheName hf.mem_artifactKinds _
    have hentry := hfree f List.mem_cons_self
    have hturn :
        fetchArtifact host env artifactMap artifactMapPath cache planned.1 planned.2 files =
        (.ok (cachedArtifact cache f.1 f.2), [.write (cachePlace host cache f.1) f.2]) := by
      rw [fetchArtifact_of_fetchable hf,
        Act.bind_apply_ok (writeFile_apply hplain hdirs hentry (hdone _))]
      rfl
    -- the write of this turn is to the cache, so it leaves the sources of the others
    have hsources : ∀ descriptor ∈ artifactMap.artifacts,
        readArtifactSource host env (replay files [.write (cachePlace host cache f.1) f.2])
            descriptor.source artifactMapPath =
          readArtifactSource host env files descriptor.source artifactMapPath := by
      refine sources_kept hapart (fun _ _ => Iff.rfl) fun event hevent location entry hmade => ?_
      obtain rfl := List.mem_singleton.mp hevent
      obtain ⟨rfl, -⟩ := eq_of_made_write hmade
      rfl
    have hloop := fetchAll_of_fetchable hapart hdone
      (hrest.imp fun _ _ hf' => (fetchable_congr hsources).mpr hf') (hdirs.write hentry)
      fun f' hf' => write_ne_dir (hfree f' (List.mem_cons_of_mem f hf'))
    unfold fetchAll
    rw [Act.bind_apply_ok hturn, Act.bind_apply_ok hloop, Act.pure_apply, List.append_nil]
    rfl

/-- **A fetch succeeds** if every artifact of the plan can be fetched and nothing is in its way. -/
theorem fetchArtifacts_of_fetchable {found : List (ArtifactDescriptor × List UInt8)}
    (hplan : loadPlan host env files planPath = .ok plan)
    (hmap : readJson host env files (ArtifactMap.deserialize host) artifactMapPath =
      .ok artifactMap)
    (hapart : SourcesApart host artifactMap artifactMapPath (host.dirOf (components cache)))
    (hclear : Clear host env files cache evidence found)
    (hfetchable : List.Forall₂ (fun planned f =>
      Fetchable host env files artifactMap artifactMapPath planned f.1 f.2) plan.artifacts found) :
    (fetchArtifacts host env planPath artifactMapPath cache evidence files).1 = .ok () := by
  have hloop :=
    fetchAll_of_fetchable hapart hclear.writes hfetchable hclear.cacheDirs hclear.artifacts
  have hwrites : ∀ event ∈ artifactWrites host cache found, ∀ location entry,
      event.made = some (location, entry) → files location ≠ some .dir ∧ entry ≠ .dir := by
    intro event hevent location entry hmade
    obtain ⟨f, hf, rfl⟩ := List.mem_map.mp hevent
    obtain ⟨rfl, rfl⟩ := eq_of_made_write hmade
    exact ⟨hclear.artifacts f hf, by simp⟩
  have hevidence : DirsExist host (replay files (artifactWrites host cache found))
      (components evidence) :=
    hclear.evidenceDirs.replay fun event hevent location entry hmade =>
      (hwrites event hevent location entry hmade).1
  have hrecord : replay files (artifactWrites host cache found) (recordPlace host evidence) ≠
      some .dir :=
    replay_ne_dir (fun event hevent entry hmade => (hwrites event hevent _ entry hmade).2) files
      hclear.record
  unfold fetchArtifacts
  rw [Act.get_bind_apply, hplan, Act.except_ok_bind_apply, hmap, Act.except_ok_bind_apply,
    Act.bind_apply_nil (createDirAll_of_dirs hclear.cacheDirs),
    Act.bind_apply_nil (createDirAll_of_dirs hclear.evidenceDirs), Act.bind_apply_ok hloop,
    Act.bind_apply_ok (writeJson_apply plain_cacheRecordName hevidence hrecord (hclear.writes _))]
  rfl

/-! ## Truth -/

/-- What the record says of an artifact holds of the file it names. -/
def Kept (host : Host N K D) (after : Files D) (artifact : CachedArtifactRecord) : Prop :=
  ∃ location bytes, locate host (components artifact.cachePath) = some location ∧
    after location = some (.file bytes) ∧ bytes.length % 2 ^ 64 = artifact.sizeBytes ∧
    sha256Hex host bytes = artifact.sha256

/-- The artifact is recorded for the planned one, from the descriptor that makes it fetchable. -/
def RecordedFor (host : Host N K D) (env : Env D) (files : Files D) (artifactMap : ArtifactMap)
    (artifactMapPath cache : String) (planned : String × String) (artifact : CachedArtifactRecord) :
    Prop :=
  ∃ descriptor bytes,
    Fetchable host env files artifactMap artifactMapPath planned descriptor bytes ∧
      artifact = cachedArtifact cache descriptor bytes

/-- The record that a fetch for the plan left is truthful: it carries the plan's identifiers, and
one artifact for each of the plan's, in ascending order of the keys, of distinct kinds and each in
its file; and what verifies a cache finds in it the plan's kernel and initrd. -/
structure Truthful (host : Host N K D) (env : Env D) (files : Files D) (plan : BootPlan)
    (artifactMap : ArtifactMap) (artifactMapPath cache evidence : String) (after : Files D)
    (record : ArtifactCacheRecord) : Prop where
  recorded : after (recordPlace host evidence) =
    some (.file (jsonBytes host (record.serialize host)))
  planManifestId : record.planManifestId = plan.manifestId
  bootReleaseSetId : record.bootReleaseSetId = plan.bootReleaseSetId
  releaseSetRef : record.releaseSetRef = plan.releaseSetRef
  ascending : Ascending (plan.artifacts.map Prod.fst)
  entries : List.Forall₂ (RecordedFor host env files artifactMap artifactMapPath cache)
    plan.artifacts record.artifacts
  kinds : (record.artifacts.map fun artifact => artifact.kind).Nodup
  kept : ∀ artifact ∈ record.artifacts, Kept host after artifact
  verifies : ReadsBack host record → ∀ later : Env D,
    later.readable (join evidence cacheRecordName) = true →
    (∀ artifact ∈ record.artifacts, later.readable artifact.cachePath = true) →
    ∀ kernelRef initrdRef, plan.artifacts.lookup "kernel_ref" = some kernelRef →
      plan.artifacts.lookup "initrd_ref" = some initrdRef →
      ∃ kernel ∈ record.artifacts, ∃ initrd ∈ record.artifacts,
        verifyCachedKernelInitrd host later after cache evidence = .ok (kernel, initrd) ∧
          FetchedFor ("kernel_ref", kernelRef) kernel ∧ FetchedFor ("initrd_ref", initrdRef) initrd

/-- Artifacts of distinct keys are of distinct kinds. -/
theorem nodup_kinds : ∀ {planned : List (String × String)} {cached : List CachedArtifactRecord},
    List.Forall₂ FetchedFor planned cached → (planned.map Prod.fst).Nodup →
      (cached.map fun artifact => artifact.kind).Nodup
  | _, _, .nil, _ => List.nodup_nil
  | p :: planned, a :: cached, .cons hfirst hrest, h => by
    rw [List.map_cons, List.nodup_cons] at h ⊢
    refine ⟨fun hmem => h.1 ?_, nodup_kinds hrest h.2⟩
    obtain ⟨a', ha', hkind⟩ := List.mem_map.mp hmem
    obtain ⟨p', hp', hfetched⟩ := exists_mem_of_forall₂ hrest a' ha'
    have hkey : p'.1 = p.1 := planKeyToArtifactKind_inj (hkind ▸ hfetched.1) hfirst.1
    exact hkey ▸ List.mem_map_of_mem hp'

/-- The artifact of a planned reference is the first of its kind. -/
theorem find_of_fetchedFor {key kind ref : String} (hkey : planKeyToArtifactKind key = .ok kind) :
    ∀ {planned : List (String × String)} {cached : List CachedArtifactRecord},
      List.Forall₂ FetchedFor planned cached → planned.lookup key = some ref →
        ∃ artifact ∈ cached, cached.find? (fun artifact => artifact.kind = kind) = some artifact ∧
          FetchedFor (key, ref) artifact
  | _, _, .nil, h => absurd h (by simp)
  | (planKey, ref') :: planned, first :: cached, .cons hfirst hrest, h => by
    rw [List.lookup_cons] at h
    by_cases hsame : key = planKey
    · subst hsame
      rw [beq_self_eq_true] at h
      obtain rfl := Option.some.inj h
      have hkind : first.kind = kind := (Except.ok.inj (hkey.symm.trans hfirst.1)).symm
      exact ⟨first, List.mem_cons_self, List.find?_cons_of_pos (by simpa using hkind), hfirst⟩
    · rw [beq_eq_false_iff_ne.mpr hsame] at h
      have hkind : first.kind ≠ kind := by
        rintro rfl
        exact hsame (planKeyToArtifactKind_inj hkey hfirst.1)
      obtain ⟨artifact, hmem, hfind, hfor⟩ := find_of_fetchedFor hkey hrest h
      exact ⟨artifact, List.mem_cons_of_mem first hmem,
        (List.find?_cons_of_neg (by simpa using hkind)).trans hfind, hfor⟩

section

variable {found : List (ArtifactDescriptor × List UInt8)} {made after : Files D}

/-- What was found when its turn came is fetchable from the start. -/
theorem Fetched.fromStart
    (h : Fetched host env files planPath artifactMapPath cache evidence plan artifactMap found made
      after)
    (hapart : SourcesApart host artifactMap artifactMapPath (host.dirOf (components cache))) :
    List.Forall₂ (fun planned f =>
      Fetchable host env files artifactMap artifactMapPath planned f.1 f.2)
      plan.artifacts found := by
  refine h.fetchable.imp fun planned f hf => ?_
  obtain ⟨earlier, hearlier, hfetchable⟩ := hf
  refine (fetchable_congr (sources_kept hapart h.sameFiles fun event hevent => ?_)).mp hfetchable
  obtain ⟨f', -, rfl⟩ := List.mem_map.mp (hearlier.subset hevent)
  rintro _ _ ⟨⟩
  rfl

/-- A fetch leaves the files outside of its cache, but for its record. -/
theorem Fetched.untouched
    (h : Fetched host env files planPath artifactMapPath cache evidence plan artifactMap found made
      after) {location : Location D} {bytes : List UInt8}
    (hdir : location.dir ≠ host.dirOf (components cache))
    (hrecord : location ≠ recordPlace host evidence)
    (hfile : files location = some (.file bytes)) : after location = some (.file bytes) := by
  refine h.kept location hrecord _ ?_
  rw [replay_of_made, (h.sameFiles location bytes).mpr hfile]
  intro event hevent entry hmade
  obtain ⟨f, -, rfl⟩ := List.mem_map.mp hevent
  obtain ⟨rfl, -⟩ := Prod.mk.inj (Option.some.inj hmade)
  exact hdir rfl

/-- What was found is in the cache in the end. -/
theorem Fetched.keptFiles
    (h : Fetched host env files planPath artifactMapPath cache evidence plan artifactMap found made
      after) : ∀ artifact ∈ cachedArtifacts cache found, Kept host after artifact := by
  have hfetchable : ∀ f ∈ found, ∃ files', ∃ planned ∈ plan.artifacts,
      Fetchable host env files' artifactMap artifactMapPath planned f.1 f.2 := by
    intro f hf
    obtain ⟨planned, hplanned, earlier, -, hfetchable⟩ := exists_mem_of_forall₂ h.fetchable f hf
    exact ⟨_, planned, hplanned, hfetchable⟩
  have hkinds : (found.map fun f => f.1.kind).Nodup := by
    have hnodup := nodup_kinds h.fetchedFor ((ascending_of_loadPlan h.planLoads).imp And.right)
    rwa [cachedArtifacts, List.map_map] at hnodup
  have hplaces : ((found.map fun f => (cachePlace host cache f.1, f.2)).map Prod.fst).Nodup := by
    rw [List.map_map]
    refine List.Nodup.map_on ?_ (List.Nodup.of_map _ hkinds)
    intro f hf f' hf' hplace
    obtain ⟨_, _, -, hfetch⟩ := hfetchable f hf
    obtain ⟨_, _, -, hfetch'⟩ := hfetchable f' hf'
    have hname : cacheName f.1.kind f.1.sha256 = cacheName f'.1.kind f'.1.sha256 :=
      congrArg Location.name hplace
    exact List.inj_on_of_nodup_map hkinds hf hf'
      (cacheName_inj hfetch.mem_artifactKinds hfetch'.mem_artifactKinds hname).1
  intro artifact hartifact
  obtain ⟨f, hf, rfl⟩ := List.mem_map.mp hartifact
  obtain ⟨_, _, -, hfetch⟩ := hfetchable f hf
  have hwritten := replay_writes hplaces (List.mem_map_of_mem hf) made
  rw [List.map_map] at hwritten
  refine ⟨cachePlace host cache f.1, f.2, hfetch.locate, h.kept _ ?_ _ hwritten, rfl, hfetch.sha256⟩
  intro hplace
  have hname : cacheName f.1.kind f.1.sha256 = cacheRecordName := congrArg Location.name hplace
  exact cacheName_ne_record hfetch.mem_artifactKinds hname

/-- **The record of a fetch is truthful.** -/
theorem Fetched.truthful
    (h : Fetched host env files planPath artifactMapPath cache evidence plan artifactMap found made
      after)
    (hapart : SourcesApart host artifactMap artifactMapPath (host.dirOf (components cache))) :
    Truthful host env files plan artifactMap artifactMapPath cache evidence after
      (cacheRecord env plan artifactMap (cachedArtifacts cache found)) where
  recorded := h.recorded
  planManifestId := rfl
  bootReleaseSetId := rfl
  releaseSetRef := rfl
  ascending := ascending_of_loadPlan h.planLoads
  entries := List.forall₂_map_right_iff.mpr
    ((h.fromStart hapart).imp fun planned f hf => ⟨f.1, f.2, hf, rfl⟩)
  kinds := nodup_kinds h.fetchedFor ((ascending_of_loadPlan h.planLoads).imp And.right)
  kept := h.keptFiles
  verifies := by
    intro hback later hreadable hcached kernelRef initrdRef hkernelRef hinitrdRef
    obtain ⟨kernel, hkernel, hfirst, hkernelFor⟩ := find_of_fetchedFor rfl h.fetchedFor hkernelRef
    obtain ⟨initrd, hinitrd, hfirst', hinitrdFor⟩ := find_of_fetchedFor rfl h.fetchedFor hinitrdRef
    have hrecord : readFile host later after (join evidence cacheRecordName) = some _ :=
      readFile_eq_some.mpr
        ⟨hreadable, recordPlace host evidence, locate_join plain_cacheRecordName, h.recorded⟩
    have hfile : ∀ artifact ∈ cachedArtifacts cache found, Cached host later after artifact := by
      intro artifact hartifact
      obtain ⟨location, bytes, hlocation, hbytes, -, hdigest⟩ := h.keptFiles artifact hartifact
      exact ⟨bytes, readFile_eq_some.mpr ⟨hcached artifact hartifact, location, hlocation, hbytes⟩,
        hdigest⟩
    have hpath : ∀ artifact ∈ cachedArtifacts cache found,
        Path.startsWith artifact.cachePath cache = true := by
      intro artifact hartifact
      obtain ⟨f, hf, rfl⟩ := List.mem_map.mp hartifact
      obtain ⟨planned, -, earlier, -, hfetch⟩ := exists_mem_of_forall₂ h.fetchable f hf
      exact startsWith_join cache (hfetch.sha256 ▸ plain_cacheName hfetch.mem_artifactKinds _)
    refine ⟨kernel, hkernel, initrd, hinitrd, verifyCachedKernelInitrd_eq_ok.mpr ?_, hkernelFor,
      hinitrdFor⟩
    exact
      { record := ⟨_, loadCacheRecord_of_readsBack hrecord hback, hfirst, hfirst'⟩
        kernelPath := hpath kernel hkernel
        initrdPath := hpath initrd hinitrd
        kernel := hfile kernel hkernel
        initrd := hfile initrd hinitrd }

end

/-- **Fetching is complete and truthful.** If the plan and the map load, no write fails and no
source is a file of the cache, a fetch succeeds iff every artifact of the plan can be fetched, and a
fetch that succeeds leaves a truthful record. -/
theorem fetch_complete (hplan : loadPlan host env files planPath = .ok plan)
    (hmap : readJson host env files (ArtifactMap.deserialize host) artifactMapPath =
      .ok artifactMap)
    (hapart : SourcesApart host artifactMap artifactMapPath (host.dirOf (components cache)))
    (hwrites : ∀ e, (fetchArtifacts host env planPath artifactMapPath cache evidence files).1 =
      .error e → ¬ WriteError cache evidence e) :
    ((fetchArtifacts host env planPath artifactMapPath cache evidence files).1 = .ok () ↔
      ∀ planned ∈ plan.artifacts, ∃ descriptor bytes,
        Fetchable host env files artifactMap artifactMapPath planned descriptor bytes) ∧
    ((fetchArtifacts host env planPath artifactMapPath cache evidence files).1 = .ok () →
      ∃ record, Truthful host env files plan artifactMap artifactMapPath cache evidence
        ((fetchArtifacts host env planPath artifactMapPath cache evidence).stateAfter files)
        record) := by
  have htruth : (fetchArtifacts host env planPath artifactMapPath cache evidence files).1 = .ok () →
      ∃ record, Truthful host env files plan artifactMap artifactMapPath cache evidence
        ((fetchArtifacts host env planPath artifactMapPath cache evidence).stateAfter files)
        record := by
    intro hok
    obtain ⟨plan', artifactMap', found, made, h⟩ := fetched_stateAfter hok
    obtain rfl := Except.ok.inj (hplan.symm.trans h.planLoads)
    obtain rfl := Except.ok.inj (hmap.symm.trans h.mapLoads)
    exact ⟨_, h.truthful hapart⟩
  refine ⟨⟨fun hok planned hplanned => ?_, fun hall => ?_⟩, htruth⟩
  · obtain ⟨record, hrecord⟩ := htruth hok
    obtain ⟨artifact, -, descriptor, bytes, hfetchable, -⟩ :=
      exists_mem_right_of_forall₂ hrecord.entries planned hplanned
    exact ⟨descriptor, bytes, hfetchable⟩
  · cases hresult : (fetchArtifacts host env planPath artifactMapPath cache evidence files).1 with
    | ok u => rfl
    | error e =>
      rcases fetchArtifacts_eq_error hplan hmap hapart (Prod.ext hresult rfl) with hwrite | hnot
      · exact absurd hwrite (hwrites e hresult)
      · obtain ⟨planned, hplanned, hnot⟩ := hnot
        obtain ⟨descriptor, bytes, hfetchable⟩ := hall planned hplanned
        exact absurd hfetchable (hnot descriptor bytes)

/-! ## A fetch -/

/-- A descriptor of a file of one byte. -/
def descriptorDoc (kind source : String) (digest : List UInt8) : Json Int :=
  .obj [("artifact_ref", .str kind), ("kind", .str kind), ("source", .str source),
    ("sha256", .str (hexdigest digest)), ("size_bytes", .num 1),
    ("content_type", .str "application/octet-stream")]

/-- The document of an artifact map. -/
def mapDoc : Json Int :=
  .obj [("artifact_map_id", .str "map"),
    ("artifacts", .arr [descriptorDoc "initrd" "i" initrdDigest,
      descriptorDoc "kernel" "k" kernelDigest])]

/-- The descriptor as it is decoded. -/
def descriptorFor (kind source : String) (digest : List UInt8) : ArtifactDescriptor where
  artifactRef := kind
  kind
  source
  sha256 := hexdigest digest
  sizeBytes := some 1
  contentType := "application/octet-stream"

/-- The artifact map. -/
def fetchMap : ArtifactMap where
  artifactMapId := "map"
  artifacts := [descriptorFor "initrd" "i" initrdDigest, descriptorFor "kernel" "k" kernelDigest]

/-- What the fetch finds. -/
def fetchFound : List (ArtifactDescriptor × List UInt8) :=
  [(descriptorFor "initrd" "i" initrdDigest, [105]),
    (descriptorFor "kernel" "k" kernelDigest, [107])]

/-- The record of the fetch. -/
def fetchRecord : ArtifactCacheRecord :=
  cacheRecord Stage.env (planFor "r1") fetchMap (cachedArtifacts "cache" fetchFound)

/-- The library that knows the plan, the map and the record. -/
def fetchLibrary : Library where
  documents := [(planFor "r1").serialize, mapDoc, fetchRecord.serialize clockHost]
  digests := [([107], kernelDigest), ([105], initrdDigest)]
  times := [("2026-01-01T00:00:00Z", stageTime)]

/-- The files a fetch begins with. -/
def fetchFiles : Files (List String) := fun location =>
  List.lookup location [
    (⟨["srv"], "plan"⟩, .file (jsonBytes (lexicalHost fetchLibrary) (planFor "r1").serialize)),
    (⟨["srv"], "map"⟩, .file (jsonBytes (lexicalHost fetchLibrary) mapDoc)),
    (⟨["srv"], "cache"⟩, .dir),
    (⟨["srv"], "evidence"⟩, .dir), (⟨["srv"], "k"⟩, .file [107]), (⟨["srv"], "i"⟩, .file [105])]

/-- A file of the working directory is read. -/
theorem readFile_srv {library : Library} {files : Files (List String)} {name : String}
    {bytes : List UInt8} (hname : Plain name)
    (hfile : files ⟨["srv"], name⟩ = some (.file bytes)) :
    readFile (lexicalHost library) Stage.env files name = some bytes := by
  refine readFile_eq_some.mpr ⟨rfl, ⟨["srv"], name⟩, ?_, hfile⟩
  rw [components_of_plain hname]
  rfl

theorem loadPlan_srv {files : Files (List String)} (hfile : files ⟨["srv"], "plan"⟩ =
      some (.file (jsonBytes (lexicalHost fetchLibrary) (planFor "r1").serialize))) :
    loadPlan (lexicalHost fetchLibrary) Stage.env files "plan" = .ok (planFor "r1") := by
  have hdocuments : fetchLibrary.documents =
      [] ++ (planFor "r1").serialize :: [mapDoc, fetchRecord.serialize clockHost] := rfl
  have hparse := parse_jsonBytes [] hdocuments fun _ h => absurd h List.not_mem_nil
  exact loadPlan_of_serialize (readFile_srv (by decide) hfile) hparse (by decide)

theorem loadPlan_fetchFiles :
    loadPlan (lexicalHost fetchLibrary) Stage.env fetchFiles "plan" = .ok (planFor "r1") :=
  loadPlan_srv rfl

theorem readJson_fetchFiles : readJson (lexicalHost fetchLibrary) Stage.env fetchFiles
    (ArtifactMap.deserialize (lexicalHost fetchLibrary)) "map" = .ok fetchMap := by
  have hne : printed (planFor "r1").serialize ≠ printed mapDoc :=
    printed_ne (by decide) (by decide)
  have hdocuments : fetchLibrary.documents =
      [(planFor "r1").serialize] ++ mapDoc :: [fetchRecord.serialize clockHost] := rfl
  have hparse := parse_jsonBytes [(planFor "r1").serialize] hdocuments fun other hother => by
    rw [List.mem_singleton.mp hother]
    exact hne
  exact readJson_of_readFile (readFile_srv (by decide) rfl) hparse rfl

omit [DecidableEq D] in
/-- Sources in one directory are apart from another one. -/
theorem sourcesApart_of_dir {artifactMap : ArtifactMap} {artifactMapPath : String} {dir dir' : D}
    (h : ∀ descriptor ∈ artifactMap.artifacts,
      (sourcePlace host artifactMapPath descriptor.source).map Location.dir = some dir)
    (hne : dir ≠ dir') : SourcesApart host artifactMap artifactMapPath dir' := by
  intro descriptor hdescriptor location hlocation hdir
  have hplace := h descriptor hdescriptor
  rw [hlocation, Option.map_some, hdir] at hplace
  exact hne (Option.some.inj hplace).symm

theorem sourcesApart_fetchMap : SourcesApart (lexicalHost fetchLibrary) fetchMap "map"
    ((lexicalHost fetchLibrary).dirOf (components "cache")) := by
  have hplaces : ∀ descriptor ∈ fetchMap.artifacts,
      (sourcePlace (lexicalHost fetchLibrary) "map" descriptor.source).map Location.dir =
        some ["srv"] := by decide
  exact sourcesApart_of_dir hplaces (by decide)

/-- A source in the working directory is read. -/
theorem readArtifactSource_srv {library : Library} {files : Files (List String)} {source : String}
    {bytes : List UInt8} (hhttps : startsWith source "https://" = false)
    (hhttp : startsWith source "http://" = false) (hjoin : join "" source = source)
    (hplain : Plain source) (hfile : files ⟨["srv"], source⟩ = some (.file bytes)) :
    readArtifactSource (lexicalHost library) Stage.env files source "map" = .ok bytes := by
  have hparent : parent "map" = some "" := by decide
  unfold readArtifactSource
  rw [hhttps, hhttp, hparent]
  simp only [Bool.or_self, Bool.false_eq_true, if_false, Option.getD_some, hjoin,
    readFile_srv hplain hfile]
  rfl

theorem fetchable_fetchFound : List.Forall₂ (fun planned f =>
    Fetchable (lexicalHost fetchLibrary) Stage.env fetchFiles fetchMap "map" planned f.1 f.2)
    (planFor "r1").artifacts fetchFound := by
  refine .cons ⟨rfl, rfl, ?_, by decide, by decide⟩
    (.cons ⟨rfl, rfl, ?_, by decide, by decide⟩ .nil)
  · exact readArtifactSource_srv (by decide) (by decide) (by decide)
      (by decide) rfl
  · exact readArtifactSource_srv (by decide) (by decide) (by decide)
      (by decide) rfl

theorem clear_fetchFiles : Clear (lexicalHost fetchLibrary) Stage.env fetchFiles "cache" "evidence"
    fetchFound where
  cacheDirs := dirsExist_srv fetchLibrary (by decide) rfl
  evidenceDirs := dirsExist_srv fetchLibrary (by decide) rfl
  artifacts := by decide
  record := by decide
  writes _ := rfl

theorem fetchArtifacts_fetchFiles :
    (fetchArtifacts (lexicalHost fetchLibrary) Stage.env "plan" "map" "cache" "evidence"
      fetchFiles).1 = .ok () :=
  fetchArtifacts_of_fetchable loadPlan_fetchFiles readJson_fetchFiles sourcesApart_fetchMap
    clear_fetchFiles fetchable_fetchFound

/-- The fetch succeeds, and what it leaves is truthful. -/
theorem fetchFiles_complete :
    ((fetchArtifacts (lexicalHost fetchLibrary) Stage.env "plan" "map" "cache" "evidence"
        fetchFiles).1 = .ok () ↔
      ∀ planned ∈ (planFor "r1").artifacts, ∃ descriptor bytes,
        Fetchable (lexicalHost fetchLibrary) Stage.env fetchFiles fetchMap "map" planned descriptor
          bytes) ∧
    ((fetchArtifacts (lexicalHost fetchLibrary) Stage.env "plan" "map" "cache" "evidence"
        fetchFiles).1 = .ok () →
      ∃ record, Truthful (lexicalHost fetchLibrary) Stage.env fetchFiles (planFor "r1") fetchMap
        "map" "cache" "evidence"
        ((fetchArtifacts (lexicalHost fetchLibrary) Stage.env "plan" "map" "cache"
          "evidence").stateAfter fetchFiles) record) :=
  fetch_complete loadPlan_fetchFiles readJson_fetchFiles sourcesApart_fetchMap fun e he => by
    rw [fetchArtifacts_fetchFiles] at he
    exact absurd he (by simp)

end Nlboot.Client
