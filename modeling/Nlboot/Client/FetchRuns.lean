import Nlboot.Client.FetchRecord
import Nlboot.Lib.Triple

/-!
# Fetching again and again

One cache serves many fetches of `rust/nlboot-client/src/main.rs`. The name of a cached file holds
its digest, so a later fetch can only write what is there already, and a record is written last, so
a fetch that fails writes none.

* `Holds`: a file is there, and its bytes are good; `Spares`: whatever a fetch writes to its cache
  is good for that file.
* **`triple_fetchArtifacts`**: what a fetch spares it leaves good, however it ends, up to the record
  of a fetch that succeeds.
* `LaterFetches`: what later fetches make of the files, while everything but the evidence may change
  between them.
* **`laterFetches_keepEvidence`**: what was verified on the record of a fetch is verified after
  them.
-/

namespace Nlboot.Client

open Nlboot.Lib Nlboot.Lib.Path

variable {N K D : Type} [DecidableEq D] {host : Host N K D} {env : Env D} {files : Files D}

/-- A write happens wholly or not at all. -/
def Atomic (env : Env D) : Prop := ∀ location n, env.writes location ≠ .broken n

/-- The file is there, and its bytes are good. -/
def Holds (place : Location D) (good : List UInt8 → Prop) (files : Files D) : Prop :=
  ∃ bytes, files place = some (.file bytes) ∧ good bytes

/-- A file of the cache that is written in this place is good. -/
def Spares (host : Host N K D) (cache : String) (place : Location D) (good : List UInt8 → Prop) :
    Prop :=
  ∀ kind ∈ artifactKinds, ∀ bytes,
    ⟨host.dirOf (components cache), cacheName kind (sha256Hex host bytes)⟩ = place → good bytes

section

variable {place : Location D} {good : List UInt8 → Prop}

/-! ## What a fetch spares -/

theorem Holds.write {location : Location D} {bytes : List UInt8} (h : Holds place good files)
    (hgood : location = place → good bytes) :
    Holds place good (Replay.apply files (.write location bytes)) := by
  by_cases hplace : location = place
  · subst hplace
    exact ⟨bytes, apply_write, hgood rfl⟩
  · obtain ⟨old, hold, holdGood⟩ := h
    refine ⟨old, ?_, holdGood⟩
    rw [apply_of_made, hold]
    rintro _ hmade
    exact hplace (Prod.mk.inj (Option.some.inj hmade)).1

theorem triple_createDirAll {path error : String} :
    Act.Triple (Holds place good) (createDirAll host env path error) (fun _ => Holds place good)
      (Holds place good) := by
  have hkeeps : ∀ files, Holds place good files →
      Holds place good ((createDirAll host env path error).stateAfter files) := by
    rintro files ⟨bytes, hfile, hgood⟩
    exact ⟨bytes, makeDirs_keeps hfile, hgood⟩
  exact fun files h => ⟨fun _ _ => hkeeps files h, fun _ _ => hkeeps files h⟩

theorem triple_createParent {path : String} :
    Act.Triple (Holds place good) (createParent host env path) (fun _ => Holds place good)
      (Holds place good) := by
  unfold createParent
  cases Path.parent path with
  | some dir => exact triple_createDirAll
  | none => exact Act.triple_pure fun _ h => h

/-- A write that is not broken off leaves the file good if it fails, and if the bytes are good. -/
theorem triple_writeFile (hatomic : Atomic env) {path error : String} {bytes : List UInt8} :
    Act.Triple (Holds place good) (writeFile host env path bytes error)
      (fun _ files => (locate host (components path) = some place → good bytes) →
        Holds place good files) (Holds place good) := by
  unfold writeFile
  refine Act.triple_get_bind fun files => ?_
  refine Act.triple_except_bind (fun _ h => h) fun _ _ => ?_
  refine Act.triple_except_bind (fun _ h => h) fun location hlocation => ?_
  rw [orThrow_eq_ok] at hlocation
  refine Act.triple_except_bind (fun _ h => h) fun _ _ => ?_
  cases houtcome : env.writes location with
  | done =>
    refine Act.triple_emit fun files h hgood => h.write fun hplace => hgood ?_
    rw [hlocation, hplace]
  | refused => exact Act.triple_fail fun _ h => h
  | broken n => exact absurd houtcome (hatomic location n)

theorem triple_fetchArtifact (hatomic : Atomic env) {artifactMap : ArtifactMap}
    {artifactMapPath cache planKey artifactRef : String} (hspares : Spares host cache place good) :
    Act.Triple (Holds place good)
      (fetchArtifact host env artifactMap artifactMapPath cache planKey artifactRef)
      (fun _ => Holds place good) (Holds place good) := by
  unfold fetchArtifact
  refine Act.triple_except_bind (fun _ h => h) fun kind hkind => ?_
  refine Act.triple_except_bind (fun _ h => h) fun descriptor _ => ?_
  refine Act.triple_except_bind (fun _ h => h) fun _ hmatch => ?_
  rw [check_eq_ok] at hmatch
  refine Act.triple_get_bind fun files => ?_
  refine Act.triple_except_bind (fun _ h => h) fun bytes _ => ?_
  refine Act.triple_except_bind (fun _ h => h) fun _ hsha256 => ?_
  rw [check_eq_ok] at hsha256
  refine Act.triple_except_bind (fun _ h => h) fun _ _ => ?_
  refine Act.triple_bind (triple_writeFile hatomic) fun _ => Act.triple_pure fun files h => h ?_
  -- The name of the file is made of the digest of the bytes that are written.
  have hmem : descriptor.kind ∈ artifactKinds := mem_artifactKinds (hmatch ▸ hkind)
  rw [← hsha256, sha256Hex, locate_join (plain_cacheName hmem _)]
  exact fun hplace => hspares descriptor.kind hmem bytes (Option.some.inj hplace)

theorem triple_fetchAll (hatomic : Atomic env) {artifactMap : ArtifactMap}
    {artifactMapPath cache : String} (hspares : Spares host cache place good) :
    ∀ artifacts : List (String × String), Act.Triple (Holds place good)
      (fetchAll host env artifactMap artifactMapPath cache artifacts) (fun _ => Holds place good)
      (Holds place good)
  | [] => Act.triple_pure fun _ h => h
  | _ :: artifacts => by
    unfold fetchAll
    refine Act.triple_bind (triple_fetchArtifact hatomic hspares) fun _ => ?_
    exact Act.triple_bind (triple_fetchAll hatomic hspares artifacts) fun _ =>
      Act.triple_pure fun _ h => h

/-- **A fetch leaves what it spares**: if it fails, and if it succeeds with its record elsewhere. -/
theorem triple_fetchArtifacts (hatomic : Atomic env)
    {planPath artifactMapPath cache evidence : String} (hspares : Spares host cache place good) :
    Act.Triple (Holds place good) (fetchArtifacts host env planPath artifactMapPath cache evidence)
      (fun _ files => recordPlace host evidence ≠ place → Holds place good files)
      (Holds place good) := by
  unfold fetchArtifacts
  refine Act.triple_get_bind fun files => ?_
  refine Act.triple_except_bind (fun _ h => h) fun plan _ => ?_
  refine Act.triple_except_bind (fun _ h => h) fun artifactMap _ => ?_
  refine Act.triple_bind triple_createDirAll fun _ => ?_
  refine Act.triple_bind triple_createDirAll fun _ => ?_
  refine Act.triple_bind (triple_fetchAll hatomic hspares plan.artifacts) fun cached => ?_
  refine Act.triple_bind (Act.triple_bind triple_createParent fun _ => triple_writeFile hatomic)
    fun _ => ?_
  refine Act.triple_emit fun files h helsewhere => ?_
  have hprinted : ∀ text, Replay.apply files (.print text : Event D) = files := fun _ => rfl
  rw [hprinted]
  refine h fun hplace => absurd ?_ helsewhere
  exact Option.some.inj ((locate_join plain_cacheRecordName).symm.trans hplace)

/-- A fetch that fails, or whose record is elsewhere, leaves what it spares. -/
theorem holds_fetchArtifacts (hatomic : Atomic env)
    {planPath artifactMapPath cache evidence : String} (hspares : Spares host cache place good)
    (hharmless : (∃ e, (fetchArtifacts host env planPath artifactMapPath cache evidence files).1 =
      .error e) ∨ recordPlace host evidence ≠ place) (h : Holds place good files) :
    Holds place good
      ((fetchArtifacts host env planPath artifactMapPath cache evidence).stateAfter files) := by
  obtain ⟨hok, herror⟩ := triple_fetchArtifacts hatomic hspares files h
  cases hresult : (fetchArtifacts host env planPath artifactMapPath cache evidence files).1 with
  | error e => exact herror e hresult
  | ok u =>
    obtain ⟨e, he⟩ | helsewhere := hharmless
    · exact absurd (he.symm.trans hresult) (by simp)
    · exact hok u hresult helsewhere

end

omit [DecidableEq D] in
/-- No fetch writes a record to its cache. -/
theorem spares_record {dir : D} {cache : String} {good : List UInt8 → Prop} :
    Spares host cache ⟨dir, cacheRecordName⟩ good := by
  intro kind hkind bytes hplace
  exact absurd (congrArg Location.name hplace) (cacheName_ne_record hkind)

omit [DecidableEq D] in
/-- What a fetch writes over a cached file has the digest of its name. -/
theorem spares_cached {dir : D} {cache kind sha256 : String} (hkind : kind ∈ artifactKinds)
    {good : List UInt8 → Prop} (hgood : ∀ bytes, sha256Hex host bytes = sha256 → good bytes) :
    Spares host cache ⟨dir, cacheName kind sha256⟩ good := by
  intro kind' hkind' bytes hplace
  exact hgood bytes (cacheName_inj hkind' hkind (congrArg Location.name hplace)).2

/-! ## Evidence -/

/-- The files that verified evidence rests on: the record, and the two artifacts. -/
def RestsOn (host : Host N K D) (evidence : String)
    (cached : CachedArtifactRecord × CachedArtifactRecord) (location : Location D) : Prop :=
  location = recordPlace host evidence ∨
    locate host (components cached.1.cachePath) = some location ∨
    locate host (components cached.2.cachePath) = some location

omit [DecidableEq D] in
/-- What the evidence rests on decides whether it is verified. -/
theorem Verified.frame {files' : Files D} {cache evidence : String}
    {kernel initrd : CachedArtifactRecord}
    (h : Verified host env files cache evidence kernel initrd)
    (hsame : ∀ location, RestsOn host evidence (kernel, initrd) location →
      files' location = files location) :
      Verified host env files' cache evidence kernel initrd := by
  have hread : readFile host env files' (join evidence cacheRecordName) =
      readFile host env files (join evidence cacheRecordName) := by
    refine readFile_congr fun location hlocation bytes => ?_
    have hplace := Option.some.inj ((locate_join plain_cacheRecordName).symm.trans hlocation)
    rw [hsame location (.inl hplace.symm)]
  have hrecord : loadCacheRecord host env files' evidence =
      loadCacheRecord host env files evidence := by
    simp only [loadCacheRecord, readJson, hread]
  have hcached : ∀ artifact,
    (∀ location, locate host (components artifact.cachePath) = some location →
      RestsOn host evidence (kernel, initrd) location) →
    Cached host env files artifact → Cached host env files' artifact := by
    rintro artifact hrests ⟨bytes, hread, hdigest⟩
    refine ⟨bytes, ?_, hdigest⟩
    rw [readFile_congr fun location hlocation bytes => by rw [hsame location (hrests _ hlocation)]]
    exact hread
  exact
    { record := hrecord ▸ h.record
      kernelPath := h.kernelPath
      initrdPath := h.initrdPath
      kernel := hcached kernel (fun _ hlocation => .inr (.inl hlocation)) h.kernel
      initrd := hcached initrd (fun _ hlocation => .inr (.inr hlocation)) h.initrd }

/-- What later fetches make of the files. Each of them fails or records elsewhere; between them
everything may change but the files that the evidence rests on. -/
inductive LaterFetches (host : Host N K D) (evidence : String)
    (cached : CachedArtifactRecord × CachedArtifactRecord) (files : Files D) : Files D → Prop where
  | none : LaterFetches host evidence cached files files
  | fetch {before began : Files D} {env : Env D} {args : FetchArgs}
      (earlier : LaterFetches host evidence cached files before)
      (untouched : ∀ location, RestsOn host evidence cached location →
        began location = before location)
      (atomic : Atomic env)
      (harmless : (∃ e, (fetchArtifacts host env args.plan args.artifactMap args.cache args.evidence
          began).1 = .error e) ∨
        host.dirOf (components args.evidence) ≠ host.dirOf (components evidence)) :
      LaterFetches host evidence cached files
        ((fetchArtifacts host env args.plan args.artifactMap args.cache args.evidence).stateAfter
          began)

/-- What no fetch in a run damages is there after the run. -/
theorem LaterFetches.holds {evidence : String}
    {cached : CachedArtifactRecord × CachedArtifactRecord}
    {after : Files D} {place : Location D} {good : List UInt8 → Prop}
    (hplace : RestsOn host evidence cached place)
    (hspares : ∀ cache, Spares host cache place good)
    (hname : place.name = cacheRecordName → place = recordPlace host evidence)
    (h : LaterFetches host evidence cached files after) (hfiles : Holds place good files) :
    Holds place good after := by
  induction h with
  | none => exact hfiles
  | fetch earlier untouched atomic harmless ih =>
    refine holds_fetchArtifacts atomic (hspares _) (harmless.imp_right fun helsewhere hrecord => ?_)
      ?_
    · rw [hname (congrArg Location.name hrecord).symm] at hrecord
      exact helsewhere (congrArg Location.dir hrecord)
    · obtain ⟨bytes, hbytes, hgood⟩ := ih
      exact ⟨bytes, (untouched place hplace).trans hbytes, hgood⟩

/-- The artifact is kept in a file whose name holds its digest. -/
def KeptByDigest (host : Host N K D) (artifact : CachedArtifactRecord) : Prop :=
  ∃ dir, ∃ kind ∈ artifactKinds, locate host (components artifact.cachePath) =
    some ⟨dir, cacheName kind artifact.sha256⟩

/-- What a fetch records it keeps by its digest. -/
theorem Fetched.keptByDigest {planPath artifactMapPath cache evidence : String} {plan : BootPlan}
    {artifactMap : ArtifactMap} {found : List (ArtifactDescriptor × List UInt8)}
    {made after : Files D}
    (h : Fetched host env files planPath artifactMapPath cache evidence plan artifactMap found made
      after) : ∀ artifact ∈ cachedArtifacts cache found, KeptByDigest host artifact := by
  intro artifact hartifact
  obtain ⟨f, hf, rfl⟩ := List.mem_map.mp hartifact
  obtain ⟨planned, -, earlier, -, hfetchable⟩ := exists_mem_of_forall₂ h.fetchable f hf
  exact ⟨_, f.1.kind, hfetchable.mem_artifactKinds, hfetchable.locate⟩

/-- A cached file is verified after later fetches. -/
theorem LaterFetches.cached {evidence : String}
    {cached : CachedArtifactRecord × CachedArtifactRecord}
    {after : Files D} {artifact : CachedArtifactRecord}
    (hplace : ∀ location, locate host (components artifact.cachePath) = some location →
      RestsOn host evidence cached location) (hkept : KeptByDigest host artifact)
    (h : LaterFetches host evidence cached files after) (hcached : Cached host env files artifact) :
    Cached host env after artifact := by
  obtain ⟨dir, kind, hkind, hlocate⟩ := hkept
  obtain ⟨bytes, hread, hdigest⟩ := hcached
  obtain ⟨hreadable, location, hlocation, hbytes⟩ := readFile_eq_some.mp hread
  obtain rfl := Option.some.inj (hlocate.symm.trans hlocation)
  have hspares : ∀ cache, Spares host cache ⟨dir, cacheName kind artifact.sha256⟩
      fun bytes => sha256Hex host bytes = artifact.sha256 :=
    fun cache => spares_cached hkind fun _ hbytes => hbytes
  obtain ⟨bytes', hbytes', hdigest'⟩ := h.holds (hplace _ hlocation) hspares
    (fun hname => absurd hname (cacheName_ne_record hkind)) ⟨bytes, hbytes, hdigest⟩
  exact ⟨bytes', readFile_eq_some.mpr ⟨hreadable, _, hlocation, hbytes'⟩, hdigest'⟩

/-- A fetch replaces no cached file by bytes of another digest and, if it fails, no record. -/
structure DamagesNothing (host : Host N K D) (began after : Files D) (failed : Prop) : Prop where
  records : failed → ∀ evidence bytes, began (recordPlace host evidence) = some (.file bytes) →
    after (recordPlace host evidence) = some (.file bytes)
  cachedFiles : ∀ dir, ∀ kind ∈ artifactKinds, ∀ sha256 bytes,
    began ⟨dir, cacheName kind sha256⟩ = some (.file bytes) →
      ∃ bytes', after ⟨dir, cacheName kind sha256⟩ = some (.file bytes') ∧
        (bytes' = bytes ∨ sha256Hex host bytes' = sha256)

theorem fetch_damagesNothing (hatomic : Atomic env)
    {planPath artifactMapPath cache evidence : String} :
    DamagesNothing host files
      ((fetchArtifacts host env planPath artifactMapPath cache evidence).stateAfter files)
      (∃ e, (fetchArtifacts host env planPath artifactMapPath cache evidence files).1 =
        .error e) where
  records := by
    intro hfailed evidence' bytes hbytes
    have hholds : Holds (recordPlace host evidence') (· = bytes) files := ⟨bytes, hbytes, rfl⟩
    obtain ⟨bytes', hbytes', rfl⟩ :=
      holds_fetchArtifacts hatomic spares_record (.inl hfailed) hholds
    exact hbytes'
  cachedFiles := by
    intro dir kind hkind sha256 bytes hbytes
    have hspares : Spares host cache ⟨dir, cacheName kind sha256⟩
        fun bytes' => bytes' = bytes ∨ sha256Hex host bytes' = sha256 :=
      spares_cached hkind fun _ => .inr
    refine holds_fetchArtifacts hatomic hspares (.inr fun hrecord => ?_) ⟨bytes, hbytes, .inl rfl⟩
    exact cacheName_ne_record hkind (congrArg Location.name hrecord).symm

/-- **Later fetches keep verified evidence.** If the record of a fetch verifies, it is unchanged and
verifies after any later fetches that fail or record elsewhere. A fetch that fails replaces no
record, and none replaces a cached file by bytes of another digest. -/
theorem laterFetches_keepEvidence {cache evidence : String} {plan : BootPlan}
    {cached : CachedArtifactRecord × CachedArtifactRecord}
    (hleft : LeftByFetch host env files evidence plan)
    (hverify : verifyCachedKernelInitrd host env files cache evidence = .ok cached) :
    (∀ after, LaterFetches host evidence cached files after →
      after (recordPlace host evidence) = files (recordPlace host evidence) ∧
        verifyCachedKernelInitrd host env after cache evidence = .ok cached) ∧
    ∀ (later : Env D) (began : Files D) (args : FetchArgs), Atomic later →
      DamagesNothing host began ((fetchArtifacts host later args.plan args.artifactMap args.cache
          args.evidence).stateAfter began)
        (∃ e, (fetchArtifacts host later args.plan args.artifactMap args.cache args.evidence
          began).1 = .error e) := by
  refine ⟨fun after hlater => ?_, fun later began args hatomic => fetch_damagesNothing hatomic⟩
  rw [verifyCachedKernelInitrd_eq_ok] at hverify
  obtain ⟨env₀, files₀, planPath, artifactMapPath, cache₀, evidence₀, log, artifactMap, found, made,
    bytes, -, hfetched, hback, hplace, hread⟩ := hleft
  rw [hfetched.recorded] at hplace
  obtain rfl := Entry.file.inj (Option.some.inj hplace)
  obtain ⟨record, hrecord, hkernel, hinitrd⟩ := hverify.record
  obtain rfl := Except.ok.inj ((loadCacheRecord_of_readsBack hread hback).symm.trans hrecord)
  have hkept : ∀ artifact ∈ cachedArtifacts cache₀ found, KeptByDigest host artifact :=
    hfetched.keptByDigest
  -- The record is the same bytes in the same place.
  obtain ⟨hreadable, location, hlocation, hbytes⟩ := readFile_eq_some.mp hread
  obtain rfl := Option.some.inj ((locate_join plain_cacheRecordName).symm.trans hlocation)
  obtain ⟨bytes', hbytes', rfl⟩ := hlater.holds (.inl rfl) (fun _ => spares_record) (fun _ => rfl)
    ⟨_, hbytes, rfl⟩
  refine ⟨hbytes'.trans hbytes.symm, verifyCachedKernelInitrd_eq_ok.mpr ?_⟩
  have hread' := readFile_eq_some.mpr ⟨hreadable, _, hlocation, hbytes'⟩
  exact
    { record := ⟨_, loadCacheRecord_of_readsBack hread' hback, hkernel, hinitrd⟩
      kernelPath := hverify.kernelPath
      initrdPath := hverify.initrdPath
      kernel := hlater.cached (fun _ h => .inr (.inl h))
        (hkept _ (List.mem_of_find?_eq_some hkernel)) hverify.kernel
      initrd := hlater.cached (fun _ h => .inr (.inr h))
        (hkept _ (List.mem_of_find?_eq_some hinitrd)) hverify.initrd }

/-- A fetch that succeeded left its record. -/
theorem leftByFetch_stateAfter {planPath artifactMapPath cache evidence : String} {plan : BootPlan}
    {artifactMap : ArtifactMap} {found : List (ArtifactDescriptor × List UInt8)} {made : Files D}
    {later : Env D}
    (hok : (fetchArtifacts host env planPath artifactMapPath cache evidence files).1 = .ok ())
    (h : Fetched host env files planPath artifactMapPath cache evidence plan artifactMap found made
      ((fetchArtifacts host env planPath artifactMapPath cache evidence).stateAfter files))
    (hback : ReadsBack host (cacheRecord env plan artifactMap (cachedArtifacts cache found)))
    (hreadable : later.readable (join evidence cacheRecordName) = true) :
    LeftByFetch host later
      ((fetchArtifacts host env planPath artifactMapPath cache evidence).stateAfter files) evidence
      plan :=
  ⟨env, files, planPath, artifactMapPath, cache, evidence, _, artifactMap, found, made, _,
    Prod.ext hok rfl, h, hback, h.recorded,
    readFile_eq_some.mpr ⟨hreadable, _, locate_join plain_cacheRecordName, h.recorded⟩⟩

/-! ## Two fetches after one -/

omit [DecidableEq D] in
/-- There is one way to fetch an artifact. -/
theorem Fetchable.unique {artifactMap : ArtifactMap} {artifactMapPath : String}
    {planned : String × String} {f f' : ArtifactDescriptor × List UInt8}
    (h : Fetchable host env files artifactMap artifactMapPath planned f.1 f.2)
    (h' : Fetchable host env files artifactMap artifactMapPath planned f'.1 f'.2) : f = f' := by
  have hdescriptor : f.1 = f'.1 := Option.some.inj (h.first.symm.trans h'.first)
  have hsource := h.source
  rw [hdescriptor] at hsource
  exact Prod.ext hdescriptor (Except.ok.inj (hsource.symm.trans h'.source))

/-- What a fetch finds is what can be fetched. -/
theorem Fetched.found_eq {planPath artifactMapPath cache evidence : String} {plan : BootPlan}
    {artifactMap : ArtifactMap} {found found' : List (ArtifactDescriptor × List UInt8)}
    {made after : Files D}
    (h : Fetched host env files planPath artifactMapPath cache evidence plan artifactMap found made
      after)
    (hapart : SourcesApart host artifactMap artifactMapPath (host.dirOf (components cache)))
    (hfetchable : List.Forall₂ (fun planned f =>
      Fetchable host env files artifactMap artifactMapPath planned f.1 f.2) plan.artifacts found') :
    found = found' := by
  have hunique : Relator.RightUnique fun planned (f : ArtifactDescriptor × List UInt8) =>
      Fetchable host env files artifactMap artifactMapPath planned f.1 f.2 :=
    fun _ _ _ => Fetchable.unique
  exact List.right_unique_forall₂' hunique (h.fromStart hapart) hfetchable

theorem readsBack_fetchRecord : ReadsBack (lexicalHost fetchLibrary) fetchRecord where
  parse := by
    have hdocuments : fetchLibrary.documents =
        [(planFor "r1").serialize, mapDoc] ++ fetchRecord.serialize clockHost :: [] := rfl
    have hdoc : ∀ record : ArtifactCacheRecord,
        record.serialize (lexicalHost fetchLibrary) = record.serialize clockHost := fun _ => rfl
    rw [hdoc]
    have hne : ∀ other ∈ [(planFor "r1").serialize, mapDoc],
        printed other ≠ printed (fetchRecord.serialize clockHost) := by
      simp only [List.forall_mem_cons, List.not_mem_nil, false_implies, implies_true, and_true]
      exact ⟨printed_ne (by decide) (by decide),
        printed_ne (by decide) (by decide)⟩
    exact parse_jsonBytes [(planFor "r1").serialize, mapDoc] hdocuments hne
  createdAt := by decide
  sizeBytes := by
    intro artifact hartifact
    obtain ⟨f, hf, rfl⟩ := List.mem_map.mp hartifact
    exact asU64_ofU64 _ (Nat.mod_lt _ (by decide))

/-- The files after the fetch. -/
def fetchedFiles : Files (List String) :=
  (fetchArtifacts (lexicalHost fetchLibrary) Stage.env "plan" "map" "cache" "evidence").stateAfter
    fetchFiles

theorem fetched_fetchFiles : ∃ made, Fetched (lexicalHost fetchLibrary) Stage.env fetchFiles "plan"
    "map" "cache" "evidence" (planFor "r1") fetchMap fetchFound made fetchedFiles := by
  obtain ⟨plan, artifactMap, found, made, h⟩ := fetched_stateAfter fetchArtifacts_fetchFiles
  obtain rfl := Except.ok.inj (loadPlan_fetchFiles.symm.trans h.planLoads)
  obtain rfl := Except.ok.inj (readJson_fetchFiles.symm.trans h.mapLoads)
  obtain rfl := h.found_eq sourcesApart_fetchMap fetchable_fetchFound
  exact ⟨made, h⟩

theorem leftByFetch_fetchedFiles : LeftByFetch (lexicalHost fetchLibrary) Stage.env fetchedFiles
    "evidence" (planFor "r1") := by
  obtain ⟨made, h⟩ := fetched_fetchFiles
  exact leftByFetch_stateAfter fetchArtifacts_fetchFiles h readsBack_fetchRecord rfl

theorem verify_fetchedFiles : ∃ kernel initrd,
    verifyCachedKernelInitrd (lexicalHost fetchLibrary) Stage.env fetchedFiles "cache" "evidence" =
        .ok (kernel, initrd) ∧
      KeptByDigest (lexicalHost fetchLibrary) kernel ∧
      KeptByDigest (lexicalHost fetchLibrary) initrd := by
  obtain ⟨made, h⟩ := fetched_fetchFiles
  obtain ⟨kernel, hkernel, initrd, hinitrd, hverify, -⟩ :=
    (h.truthful sourcesApart_fetchMap).verifies readsBack_fetchRecord Stage.env rfl
      (fun _ _ => rfl) "kernel" "initrd" rfl rfl
  exact ⟨kernel, initrd, hverify, h.keptByDigest kernel hkernel, h.keptByDigest initrd hinitrd⟩

/-- A fetch with its evidence elsewhere. -/
def elsewhereArgs : FetchArgs where
  plan := "plan"
  artifactMap := "map"
  cache := "cache"
  evidence := "elsewhere"

/-- The fetch of a user who can read nothing. -/
def blindEnv : Env (List String) := { Stage.env with readable := fun _ => false }

def againArgs : FetchArgs where
  plan := "plan"
  artifactMap := "map"
  cache := "cache"
  evidence := "evidence"

/-- After a fetch that records elsewhere and one that fails, the evidence of the first is
verified. -/
theorem laterFetches_fetchedFiles : ∃ cached after,
    LaterFetches (lexicalHost fetchLibrary) "evidence" cached fetchedFiles after ∧
      after (recordPlace (lexicalHost fetchLibrary) "evidence") =
        fetchedFiles (recordPlace (lexicalHost fetchLibrary) "evidence") ∧
      verifyCachedKernelInitrd (lexicalHost fetchLibrary) Stage.env after "cache" "evidence" =
        .ok cached := by
  obtain ⟨kernel, initrd, hverify, -⟩ := verify_fetchedFiles
  have hatomic : Atomic Stage.env := by
    intro _ _ h
    cases h
  have hatomic' : Atomic blindEnv := by
    intro _ _ h
    cases h
  have helsewhere : (lexicalHost fetchLibrary).dirOf (components elsewhereArgs.evidence) ≠
      (lexicalHost fetchLibrary).dirOf (components "evidence") := by decide
  have hfirst := LaterFetches.fetch (.none : LaterFetches (lexicalHost fetchLibrary) "evidence"
    (kernel, initrd) fetchedFiles fetchedFiles) (fun _ _ => rfl) hatomic (.inr helsewhere)
  have hfails : ∀ began, ∃ e, (fetchArtifacts (lexicalHost fetchLibrary) blindEnv againArgs.plan
      againArgs.artifactMap againArgs.cache againArgs.evidence began).1 = .error e :=
    fun _ => ⟨_, rfl⟩
  have hsecond := hfirst.fetch (fun _ _ => rfl) hatomic' (.inl (hfails _))
  exact ⟨(kernel, initrd), _, hsecond,
    (laterFetches_keepEvidence leftByFetch_fetchedFiles hverify).1 _ hsecond⟩

end Nlboot.Client
