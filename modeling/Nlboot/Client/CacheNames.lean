import Nlboot.Client.CacheCheck
import Nlboot.Client.Main
import Nlboot.Lib.Guards

/-!
# The names of cached files

A fetch of `rust/nlboot-client/src/main.rs` names what it writes by kind and digest. Both come from
a map nobody vouches for, and both are checked before the name is built: the kind against the key of
the plan, the digest against the bytes.

* `CachedUnder`: the content of a file is of the digest in its name, or a beginning of such content
  where a write may have broken off.
* `WritesCached`, `WritesRecord`: the two kinds of writes.

Results:
* `guarded_fetchArtifacts`: a fetch makes directories only where nothing is.
* `write_fetchArtifacts`: what a fetch writes, and when it writes its record.
* **`fetches_writeByDigest`**: that, and what the files hold after any sequence of fetches.
* `brokenWrite_misnamed`: a write that breaks off leaves content of another digest.
-/

namespace Nlboot.Client

open Nlboot.Lib Nlboot.Lib.Path

variable {N K D : Type} [DecidableEq D] {host : Host N K D} {env : Env D} {files : Files D}
  {before : List (Event D)} {event : Event D} {location place : Location D}

/-! ## Directories are made where nothing is -/

/-- A directory is made where nothing is. -/
def NewDir (files : Files D) (event : Event D) : Prop :=
  ∀ location, event = .mkdir location → files location = none

omit [DecidableEq D] in
theorem newDir_write {bytes : List UInt8} : NewDir files (.write location bytes) :=
  fun _ h => absurd h (by simp)

theorem guarded_makeDirs {error : String} : ∀ {dirs : List (List Component)} {files : Files D},
    Act.GuardedFrom NewDir files (makeDirs host env error dirs)
  | [], _ => Act.guarded_pure
  | dir :: dirs, files => by
    unfold makeDirs
    cases locate host dir with
    | none => exact guarded_makeDirs
    | some made =>
      refine Act.guarded_get_bind ?_
      cases hmade : files made with
      | some entry =>
        cases entry with
        | dir => exact guarded_makeDirs
        | file _ => exact Act.guarded_fail
      | none =>
        refine Act.guarded_except_bind fun _ _ => Act.guarded_bind ?_ fun _ _ _ => guarded_makeDirs
        refine Act.guarded_emit fun location h => ?_
        obtain rfl := Event.mkdir.inj h
        exact hmade

/-- What makes no directory is guarded. -/
theorem guarded_of_write {α : Type} {x : Proc D α}
    (h : ∀ before event, x.Occurs files before event → ∃ location bytes,
      event = .write location bytes) : Act.GuardedFrom NewDir files x := by
  intro before event hoccurs
  obtain ⟨location, bytes, rfl⟩ := h before event hoccurs
  exact newDir_write

theorem guarded_writeFile {path error : String} {bytes : List UInt8} :
    Act.GuardedFrom NewDir files (writeFile host env path bytes error) :=
  guarded_of_write fun _ _ h => by
    obtain ⟨-, location, -, rfl⟩ := occurs_writeFile h
    exact ⟨_, _, rfl⟩

theorem guarded_writeJson {path : String} {value : Json N} :
    Act.GuardedFrom NewDir files (writeJson host env path value) := by
  refine Act.guarded_bind ?_ fun _ _ _ => guarded_writeFile
  unfold createParent
  cases parent path with
  | some dir => exact guarded_makeDirs
  | none => exact Act.guarded_pure

theorem guarded_fetchAll {artifactMap : ArtifactMap} {artifactMapPath cache : String}
    {artifacts : List (String × String)} :
    Act.GuardedFrom NewDir files (fetchAll host env artifactMap artifactMapPath cache artifacts) :=
  guarded_of_write fun _ _ h => by
    obtain ⟨_, -, _, location, -, rfl⟩ := occurs_fetchAll h
    exact ⟨_, _, rfl⟩

/-- **A fetch makes directories only where nothing is.** -/
theorem guarded_fetchArtifacts {planPath artifactMapPath cache evidence : String} :
    Act.GuardedFrom NewDir files
      (fetchArtifacts host env planPath artifactMapPath cache evidence) := by
  refine Act.guarded_get_bind (Act.guarded_except_bind fun plan _ => Act.guarded_except_bind
    fun artifactMap _ => Act.guarded_bind guarded_makeDirs fun _ _ _ => Act.guarded_bind
      guarded_makeDirs fun _ _ _ => Act.guarded_bind guarded_fetchAll fun _ _ _ => Act.guarded_bind
        guarded_writeJson fun _ _ _ => Act.guarded_emit fun _ h => absurd h (by simp))

/-- A file stays one, and what is written to it next is its content. -/
theorem file_kept {good : List UInt8 → Prop} (hnew : NewDir files event)
    (hgood : ∀ bytes, event = .write place bytes → good bytes)
    (h : ∃ bytes, files place = some (.file bytes) ∧ good bytes) :
    ∃ bytes, Replay.apply files event place = some (.file bytes) ∧ good bytes := by
  obtain ⟨bytes, hfile, hbytes⟩ := h
  by_cases hmade : ∃ entry, event.made = some (place, entry)
  · obtain ⟨entry, hmade⟩ := hmade
    cases event with
    | mkdir location =>
      obtain ⟨rfl, -⟩ := Prod.mk.inj (Option.some.inj hmade)
      exact absurd (hfile.symm.trans (hnew _ rfl)) (by simp)
    | write location bytes' =>
      obtain ⟨rfl, -⟩ := Prod.mk.inj (Option.some.inj hmade)
      exact ⟨bytes', apply_write, hgood bytes' rfl⟩
    | print text => exact absurd hmade (by simp [Event.made])
    | kexec command => exact absurd hmade (by simp [Event.made])
  · rw [apply_of_made fun entry hentry => hmade ⟨entry, hentry⟩]
    exact ⟨bytes, hfile, hbytes⟩

/-! ## What a fetch writes -/

/-- The event writes an artifact to the cache: its bytes, or what a broken write keeps of them,
under their kind and digest. -/
def WritesCached (host : Host N K D) (env : Env D) (cache : String) (location : Location D)
    (content : List UInt8) : Prop :=
  ∃ kind ∈ artifactKinds, ∃ bytes,
    location = ⟨host.dirOf (components cache), cacheName kind (sha256Hex host bytes)⟩ ∧
      content = kept env location bytes

/-- The event writes the record of a fetch: the document, or what a broken write keeps of it. -/
def WritesRecord (host : Host N K D) (env : Env D) (evidence : String) (location : Location D)
    (content : List UInt8) : Prop :=
  location = recordPlace host evidence ∧
    ∃ record : ArtifactCacheRecord,
      content = kept env location (jsonBytes host (record.serialize host))

omit [DecidableEq D] in
theorem WritesArtifact.cached {cache : String} {content : List UInt8}
    (h : WritesArtifact host env cache (.write location content)) :
    WritesCached host env cache location content := by
  obtain ⟨kind, hkind, bytes, location', hlocation, hevent⟩ := h
  obtain ⟨rfl, rfl⟩ := Event.write.inj hevent
  refine ⟨kind, hkind, bytes, ?_, rfl⟩
  exact Option.some.inj (hlocation.symm.trans (locate_join (plain_cacheName hkind _)))

omit [DecidableEq D] in
theorem MakesDir.not_write {path : List Component} {content : List UInt8}
    (h : MakesDir host path (.write location content)) : False := by
  obtain ⟨_, -, _, -, hevent⟩ := h
  exact absurd hevent (by simp)

/-- A write that was begun is done, or broken off. -/
theorem writeFile_begun {path error : String} {bytes : List UInt8}
    (h : (writeFile host env path bytes error).Occurs files before event) :
    (writeFile host env path bytes error files).1 = .ok () ∨
      ∃ location n, locate host (components path) = some location ∧
        env.writes location = .broken n := by
  unfold writeFile at h ⊢
  rw [Act.occurs_get_bind] at h
  rw [Act.get_bind_apply]
  obtain ⟨_, hparent, h⟩ := Act.occurs_except_bind.mp h
  obtain ⟨location, hloc, h⟩ := Act.occurs_except_bind.mp h
  obtain ⟨_, hentry, h⟩ := Act.occurs_except_bind.mp h
  simp only [hparent, hloc, hentry, Act.except_ok_bind_apply]
  cases houtcome : env.writes location with
  | done => exact .inl rfl
  | refused =>
    rw [houtcome] at h
    exact absurd h Act.not_occurs_fail
  | broken n => exact .inr ⟨location, n, orThrow_eq_ok.mp hloc, houtcome⟩

/-- A document that was begun is written, or its write broke off. -/
theorem writeJson_begun {path : String} {value : Json N} {content : List UInt8}
    (h : (writeJson host env path value).Occurs files before (.write location content)) :
    WritesFile host env path (jsonBytes host value) (.write location content) ∧
      ((writeJson host env path value files).1 = .ok () ∨
        ∃ n, env.writes location = .broken n) := by
  unfold writeJson at h ⊢
  rcases Act.occurs_bind.mp h with h | ⟨_, _, _, hparent, -, h⟩
  · exact (occurs_createParent h).not_write.elim
  have hwrites := (occurs_writeFile h).2
  refine ⟨hwrites, ?_⟩
  rw [Act.bind_apply_ok hparent]
  obtain hdone | ⟨location', n, hlocation', hbroken⟩ := writeFile_begun h
  · exact .inl hdone
  · obtain ⟨_, hlocation, hevent⟩ := hwrites
    obtain ⟨rfl, -⟩ := Event.write.inj hevent
    obtain rfl := Option.some.inj (hlocation.symm.trans hlocation')
    exact .inr ⟨n, hbroken⟩

/-- **What a fetch writes**: artifacts under their kinds and digests, and its record if it succeeds,
unless the write of the record breaks off. -/
theorem write_fetchArtifacts {planPath artifactMapPath cache evidence : String}
    {content : List UInt8}
    (h : (fetchArtifacts host env planPath artifactMapPath cache evidence).Occurs files before
      (.write location content)) :
    WritesCached host env cache location content ∨
      WritesRecord host env evidence location content ∧
        ((fetchArtifacts host env planPath artifactMapPath cache evidence files).1 = .ok () ∨
          ∃ n, env.writes location = .broken n) := by
  unfold fetchArtifacts at h ⊢
  rw [Act.occurs_get_bind] at h
  rw [Act.get_bind_apply]
  obtain ⟨plan, hplan, h⟩ := Act.occurs_except_bind.mp h
  obtain ⟨artifactMap, hmap, h⟩ := Act.occurs_except_bind.mp h
  rw [hplan, Act.except_ok_bind_apply, hmap, Act.except_ok_bind_apply]
  rcases Act.occurs_bind.mp h with h | ⟨_, _, _, hcache, -, h⟩
  · exact (occurs_createDirAll h).not_write.elim
  rw [Act.bind_apply_ok hcache]
  rcases Act.occurs_bind.mp h with h | ⟨_, _, _, hevidence, -, h⟩
  · exact (occurs_createDirAll h).not_write.elim
  rw [Act.bind_apply_ok hevidence]
  rcases Act.occurs_bind.mp h with h | ⟨_, _, _, hfetched, -, h⟩
  · exact .inl (occurs_fetchAll h).cached
  rw [Act.bind_apply_ok hfetched]
  rcases Act.occurs_bind.mp h with h | ⟨_, _, _, -, -, h⟩
  · obtain ⟨⟨_, hlocation, hevent⟩, hend⟩ := writeJson_begun h
    obtain ⟨rfl, rfl⟩ := Event.write.inj hevent
    have hplace := Option.some.inj (hlocation.symm.trans (locate_join plain_cacheRecordName))
    refine .inr ⟨⟨hplace, _, rfl⟩, hend.imp_left fun hdone => ?_⟩
    rw [Act.bind_apply_ok (Prod.ext hdone rfl)]
    rfl
  · exact absurd (Act.occurs_emit.mp h).2 (by simp)

/-! ## Any sequence of fetches -/

/-- The files after a sequence of fetches. -/
def afterFetches (host : Host N K D) (start : Files D) (fetches : List (Env D × FetchArgs)) :
    Files D :=
  filesAfter host start (fetches.map fun f => ⟨f.1, .fetch f.2⟩)

/-- The content is of the digest in the name or, unless it is `whole`, a beginning of such
content. -/
structure CachedUnder (host : Host N K D) (whole : Prop) (name : String)
    (content bytes : List UInt8) (kind : String) : Prop where
  known : kind ∈ artifactKinds
  named : name = cacheName kind (sha256Hex host bytes)
  begins : content <+: bytes
  all : whole → content = bytes

/-- No write of the fetches to this place breaks off. -/
def WholeAt (fetches : List (Env D × FetchArgs)) (location : Location D) : Prop :=
  ∀ f ∈ fetches, ∀ n, f.1.writes location ≠ .broken n

omit [DecidableEq D] in
theorem kept_prefix (env : Env D) (location : Location D) (bytes : List UInt8) :
    kept env location bytes <+: bytes := by
  unfold kept
  cases env.writes location with
  | broken n => exact List.take_prefix n bytes
  | done => exact List.prefix_rfl
  | refused => exact List.prefix_rfl

omit [DecidableEq D] in
theorem kept_eq {bytes : List UInt8} (h : ∀ n, env.writes location ≠ .broken n) :
    kept env location bytes = bytes := by
  unfold kept
  cases houtcome : env.writes location with
  | broken n => exact absurd houtcome (h n)
  | done => rfl
  | refused => rfl

omit [DecidableEq D] in
/-- What is written to the cache has the name of its digest. -/
theorem WritesCached.cachedUnder {fetches : List (Env D × FetchArgs)} {args : FetchArgs}
    {cache : String} {content : List UInt8} (hmem : (env, args) ∈ fetches)
    (h : WritesCached host env cache location content) :
    ∃ bytes kind, CachedUnder host (WholeAt fetches location) location.name content bytes kind := by
  obtain ⟨kind, hkind, bytes, hlocation, rfl⟩ := h
  exact ⟨bytes, kind, hkind, congrArg Location.name hlocation, kept_prefix env location bytes,
    fun hwhole => kept_eq (hwhole _ hmem)⟩

/-- A file of the cache stays one under its digest through a fetch. -/
theorem guarded_cachedUnder {fetches : List (Env D × FetchArgs)} {args : FetchArgs}
    (hmem : (env, args) ∈ fetches) {kind sha256 : String} (hkind : kind ∈ artifactKinds)
    (hname : location.name = cacheName kind sha256) :
    Act.GuardedFrom (fun files event => NewDir files event ∧ ∀ content,
        event = .write location content → ∃ bytes kind,
          CachedUnder host (WholeAt fetches location) location.name content bytes kind) files
      (fetchArtifacts host env args.plan args.artifactMap args.cache args.evidence) := by
  intro before event hoccurs
  refine ⟨guarded_fetchArtifacts before event hoccurs, fun content hevent => ?_⟩
  subst hevent
  obtain hcached | ⟨⟨hrecord, -⟩, -⟩ := write_fetchArtifacts hoccurs
  · exact hcached.cachedUnder hmem
  · have hplace := congrArg Location.name hrecord
    exact absurd (hname.symm.trans hplace) (cacheName_ne_record hkind)

/-- The file holds content of the digest in its name. -/
def HoldsCached (host : Host N K D) (fetches : List (Env D × FetchArgs)) (location : Location D)
    (files : Files D) : Prop :=
  ∃ content, files location = some (.file content) ∧ ∃ bytes kind,
    CachedUnder host (WholeAt fetches location) location.name content bytes kind

/-- **A step**: one more fetch. -/
theorem holdsCached_fetch {fetches : List (Env D × FetchArgs)} {args : FetchArgs}
    (hmem : (env, args) ∈ fetches) (h : HoldsCached host fetches location files) :
    HoldsCached host fetches location
      ((fetchArtifacts host env args.plan args.artifactMap args.cache args.evidence).stateAfter
        files) := by
  obtain ⟨content, hfile, bytes, kind, hcached⟩ := h
  exact (guarded_cachedUnder hmem hcached.known hcached.named).invariant
    (fun _ _ hguard => file_kept hguard.1 hguard.2) ⟨content, hfile, bytes, kind, hcached⟩

/-- **A run**: any number of them. -/
theorem holdsCached_fetches {fetches : List (Env D × FetchArgs)} :
    ∀ {later : List (Env D × FetchArgs)} {files : Files D}, (∀ f ∈ later, f ∈ fetches) →
      HoldsCached host fetches location files →
        HoldsCached host fetches location (afterFetches host files later)
  | [], _, _, h => h
  | f :: later, _, hall, h => by
    have hlater : ∀ f ∈ later, f ∈ fetches := fun f hf => hall f (List.mem_cons_of_mem _ hf)
    have hfetches := holdsCached_fetches hlater (holdsCached_fetch (hall f List.mem_cons_self) h)
    exact hfetches

/-- A SHA-256 digest in hexadecimal. -/
def HexSha256 (text : String) : Prop := text.toList.length = 64 ∧ ∀ c ∈ text.toList, c ∈ hexDigits

/-- **Fetches write by digest.** Whatever the plan, the map and the sources, and wherever it ends, a
fetch writes artifacts directly in its cache, under their kind and the digest of the bytes it
writes, and its record, which it writes in the end: it succeeds then, unless the write breaks off.
After any sequence of fetches, each file of a cache that one of them wrote holds content of the
digest in its name, or a beginning of it if a write to that file broke off. -/
theorem fetches_writeByDigest {start : Files D} (earlier later : List (Env D × FetchArgs))
    (args : FetchArgs) {content : List UInt8}
    (h : (fetchArtifacts host env args.plan args.artifactMap args.cache args.evidence).Occurs
      (afterFetches host start earlier) before (.write location content)) :
    (WritesCached host env args.cache location content ∧
        HoldsCached host (earlier ++ (env, args) :: later) location
          (afterFetches host start (earlier ++ (env, args) :: later)) ∨
      WritesRecord host env args.evidence location content ∧
        ((fetchArtifacts host env args.plan args.artifactMap args.cache args.evidence
            (afterFetches host start earlier)).1 = .ok () ∨ ∃ n, env.writes location = .broken n)) ∧
    ∀ bytes, (host.sha256 bytes).length = 32 → HexSha256 (sha256Hex host bytes) := by
  refine ⟨?_, fun bytes hlength => ⟨?_, fun c hc => mem_hexDigits hc⟩⟩
  · refine (write_fetchArtifacts h).imp_left fun hcached => ⟨hcached, ?_⟩
    have hmem : (env, args) ∈ earlier ++ (env, args) :: later := by simp
    obtain ⟨bytes, kind, hunder⟩ := hcached.cachedUnder hmem
    have hafter : HoldsCached host (earlier ++ (env, args) :: later) location
        ((fetchArtifacts host env args.plan args.artifactMap args.cache args.evidence).stateAfter
          (afterFetches host start earlier)) :=
      (guarded_cachedUnder hmem hunder.known hunder.named).after
        (fun _ _ hguard => file_kept hguard.1 hguard.2) h
        ⟨content, apply_write, bytes, kind, hunder⟩
    have hsplit : afterFetches host start (earlier ++ (env, args) :: later) =
        afterFetches host ((fetchArtifacts host env args.plan args.artifactMap args.cache
          args.evidence).stateAfter (afterFetches host start earlier)) later := by
      unfold afterFetches filesAfter
      rw [List.map_append, List.map_append, Act.run_append]
      rfl
    rw [hsplit]
    exact holdsCached_fetches (fun f hf => by simp [hf]) hafter
  · rw [sha256Hex, length_hexdigest, hlength]

/-! ## A write that breaks off -/

/-- The machine of the fetch, where every write ends alike. -/
def endingEnv (outcome : WriteOutcome) : Env (List String) :=
  { Stage.env with writes := fun _ => outcome }

/-- Where the initrd of the fetch is kept. -/
def initrdPlace : Location (List String) :=
  ⟨["srv", "cache"], cacheName "initrd" (hexdigest initrdDigest)⟩

/-- The first turn of the loop writes the initrd, as the write ends. -/
theorem writeFile_initrd (outcome : WriteOutcome) (error : String) :
    writeFile (lexicalHost rootfsLibrary) (endingEnv outcome)
        (join "cache" (cacheName "initrd" (hexdigest initrdDigest))) [105] error rootfsFiles =
      match outcome with
      | .done => (.ok (), [.write initrdPlace [105]])
      | .refused => (.error error, [])
      | .broken n => (.error error, [.write initrdPlace (List.take n [105])]) := by
  have hdir : (lexicalHost rootfsLibrary).dirOf (components "cache") = ["srv", "cache"] := by
    decide
  have hplain : Plain (cacheName "initrd" (hexdigest initrdDigest)) :=
    plain_cacheName (by decide) initrdDigest
  rw [writeFile_outcome hplain clear_rootfs.cacheDirs (by decide), hdir]
  rfl

/-- The fetch comes to its loop. -/
theorem fetchArtifacts_begins (outcome : WriteOutcome) :
    ∃ rest : List CachedArtifactRecord → Proc (List String) Unit,
      fetchArtifacts (lexicalHost rootfsLibrary) (endingEnv outcome) "plan" "map" "cache" "evidence"
          rootfsFiles =
        (fetchAll (lexicalHost rootfsLibrary) (endingEnv outcome) rootfsMap "map" "cache"
          rootfsPlan.artifacts >>= rest) rootfsFiles := by
  have hsame : (endingEnv outcome).readable = Stage.env.readable := rfl
  have hplan : loadPlan (lexicalHost rootfsLibrary) (endingEnv outcome) rootfsFiles "plan" =
      .ok rootfsPlan := (loadPlan_env hsame "plan").trans (loadPlan_rootfs rfl)
  have hmap :=
    (readJson_env hsame (ArtifactMap.deserialize (lexicalHost rootfsLibrary)) "map").trans
    readJson_rootfs
  unfold fetchArtifacts
  rw [Act.get_bind_apply, hplan, Act.except_ok_bind_apply, hmap, Act.except_ok_bind_apply,
    Act.bind_apply_nil (createDirAll_of_dirs clear_rootfs.cacheDirs),
    Act.bind_apply_nil (createDirAll_of_dirs clear_rootfs.evidenceDirs)]
  exact ⟨_, rfl⟩

/-- Computations that do the same log the same. -/
theorem occurs_of_eq {α : Type} {x y : Proc D α} (h : x files = y files)
    (hy : y.Occurs files before event) : x.Occurs files before event := by
  obtain ⟨after, hlog⟩ := hy
  exact ⟨after, (congrArg Prod.snd h).trans hlog⟩

section

variable {artifactMap : ArtifactMap} {artifactMapPath cache : String} {planned : String × String}
  (artifacts : List (String × String))

theorem fetchAll_first_error {e : String} {log : List (Event D)}
    (h : fetchArtifact host env artifactMap artifactMapPath cache planned.1 planned.2 files =
      (.error e, log)) :
    fetchAll host env artifactMap artifactMapPath cache (planned :: artifacts) files =
      (.error e, log) :=
  Act.bind_apply_error h

theorem occurs_fetchAll_first
    (h : (fetchArtifact host env artifactMap artifactMapPath cache planned.1 planned.2).Occurs files
      before event) :
    (fetchAll host env artifactMap artifactMapPath cache (planned :: artifacts)).Occurs files before
      event :=
  Act.occurs_bind.mpr (.inl h)

theorem occurs_fetchArtifact_of_fetchable {descriptor : ArtifactDescriptor} {bytes : List UInt8}
    (h : Fetchable host env files artifactMap artifactMapPath planned descriptor bytes)
    (hwrite : (writeFile host env (join cache (cacheName descriptor.kind descriptor.sha256)) bytes
      ("failed to write cache artifact " ++
        join cache (cacheName descriptor.kind descriptor.sha256))).Occurs files before event) :
    (fetchArtifact host env artifactMap artifactMapPath cache planned.1 planned.2).Occurs files
      before event :=
  occurs_of_eq (fetchArtifact_of_fetchable h) (Act.occurs_bind.mpr (.inl hwrite))

end

/-- The initrd of the plan can be fetched. -/
theorem fetchable_initrd (outcome : WriteOutcome) : Fetchable (lexicalHost rootfsLibrary)
    (endingEnv outcome) rootfsFiles rootfsMap "map" ("initrd_ref", "initrd")
      (descriptorFor "initrd" "i" initrdDigest) [105] := by
  have hcalm : Fetchable (lexicalHost rootfsLibrary) Stage.env rootfsFiles rootfsMap "map"
      ("initrd_ref", "initrd") (descriptorFor "initrd" "i" initrdDigest) [105] := by
    cases fetchable_rootfs with
    | cons hfirst _ => exact hfirst
  exact { hcalm with source := hcalm.source }

/-- The message of a fetch that cannot write the initrd. -/
def initrdError : String :=
  "failed to write cache artifact " ++ join "cache" (cacheName "initrd" (hexdigest initrdDigest))

/-- The plan has the initrd and two more artifacts. -/
theorem artifacts_rootfsPlan : rootfsPlan.artifacts =
    ("initrd_ref", "initrd") :: [("kernel_ref", "kernel"), ("rootfs_ref", "rootfs")] :=
  rfl

/-- A fetch on a disk that is full fails when it writes the initrd, and leaves an empty file under
the name of its digest. -/
theorem brokenWrite_misnamed :
    fetchArtifacts (lexicalHost rootfsLibrary) (endingEnv (.broken 0)) "plan" "map" "cache"
        "evidence" rootfsFiles = (.error initrdError, [.write initrdPlace []]) ∧
      initrdPlace.name = cacheName "initrd" (hexdigest initrdDigest) ∧
      sha256Hex (lexicalHost rootfsLibrary) [] ≠ hexdigest initrdDigest := by
  refine ⟨?_, rfl, by decide⟩
  obtain ⟨rest, hbegins⟩ := fetchArtifacts_begins (.broken 0)
  have hturn : fetchArtifact (lexicalHost rootfsLibrary) (endingEnv (.broken 0)) rootfsMap "map"
      "cache" ("initrd_ref", "initrd").1 ("initrd_ref", "initrd").2 rootfsFiles =
        (.error initrdError, [.write initrdPlace []]) :=
    (fetchArtifact_of_fetchable (fetchable_initrd _)).trans
      (Act.bind_apply_error (writeFile_initrd (.broken 0) _))
  rw [hbegins, artifacts_rootfsPlan]
  exact Act.bind_apply_error (fetchAll_first_error _ hturn)

/-- Two fetches on a disk with room write the initrd by its digest. -/
theorem rootfsFiles_writeByDigest :
    (WritesCached (lexicalHost rootfsLibrary) (endingEnv .done) "cache" initrdPlace [105] ∧
        HoldsCached (lexicalHost rootfsLibrary)
          [(endingEnv .done, rootfsFetch), (endingEnv .done, rootfsFetch)] initrdPlace
          (afterFetches (lexicalHost rootfsLibrary) rootfsFiles
            [(endingEnv .done, rootfsFetch), (endingEnv .done, rootfsFetch)]) ∨
      WritesRecord (lexicalHost rootfsLibrary) (endingEnv .done) "evidence" initrdPlace [105] ∧
        ((fetchArtifacts (lexicalHost rootfsLibrary) (endingEnv .done) "plan" "map" "cache"
            "evidence" rootfsFiles).1 = .ok () ∨
          ∃ n, (endingEnv .done).writes initrdPlace = .broken n)) ∧
    ∀ bytes, ((lexicalHost rootfsLibrary).sha256 bytes).length = 32 →
      HexSha256 (sha256Hex (lexicalHost rootfsLibrary) bytes) := by
  have hwrite : ∀ error, (writeFile (lexicalHost rootfsLibrary) (endingEnv .done)
      (join "cache" (cacheName (descriptorFor "initrd" "i" initrdDigest).kind
        (descriptorFor "initrd" "i" initrdDigest).sha256)) [105] error).Occurs rootfsFiles []
        (.write initrdPlace [105]) := by
    have hkind : (descriptorFor "initrd" "i" initrdDigest).kind = "initrd" := rfl
    have hsha : (descriptorFor "initrd" "i" initrdDigest).sha256 = hexdigest initrdDigest := rfl
    intro error
    rw [hkind, hsha]
    exact ⟨[], congrArg Prod.snd (writeFile_initrd .done error)⟩
  have hturn := occurs_fetchArtifact_of_fetchable (fetchable_initrd .done) (hwrite _)
  have hloop := occurs_fetchAll_first [("kernel_ref", "kernel"), ("rootfs_ref", "rootfs")] hturn
  rw [← artifacts_rootfsPlan] at hloop
  obtain ⟨rest, hbegins⟩ := fetchArtifacts_begins .done
  have hoccurs := occurs_of_eq hbegins (Act.occurs_bind.mpr (.inl hloop))
  have hstart : afterFetches (lexicalHost rootfsLibrary) rootfsFiles [] = rootfsFiles := rfl
  rw [← hstart] at hoccurs
  exact fetches_writeByDigest [] [(endingEnv .done, rootfsFetch)] rootfsFetch hoccurs

end Nlboot.Client
