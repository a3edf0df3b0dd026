import Nlboot.Client.Planner

/-!
# Fetching

Model of `load_plan`, `read_artifact_source` and `fetch_artifacts` of
`rust/nlboot-client/src/main.rs`. A fetch goes through the plan's artifacts in the order of their
keys, writes the bytes of each to the cache under its kind and digest, and records them in the
evidence directory once all of them are there. `len() as u64` is the length modulo `2 ^ 64`.

* `loadPlan`, `readArtifactSource`, `fetchArtifact`, `fetchArtifacts`.
* `cacheName`: the name of a cached artifact.
* `FetchedFor`: an artifact record made for a reference of a plan.
* `Fetchable`, `Fetched`: what makes an artifact fetchable, and what a fetch leaves.

Results:
* `fetchArtifact_eq_ok`, **`fetchAll_eq_ok`**, **`fetchArtifacts_eq_ok`**: what a turn of the loop,
  the loop and the fetch did when they succeeded.
* **`fetchAll_eq_error`**: why the loop failed.
* **`occurs_fetchArtifacts`**: what a fetch writes, and where.
-/

namespace Nlboot.Client

open Nlboot.Lib Nlboot.Lib.Path

variable {N K D : Type} [DecidableEq D]

/-- `value.get(name)`. -/
def valueGet (value : Json N) (name : String) : Option (Json N) :=
  match value with
  | .obj members => Members.get members name
  | _ => none

/-- `load_plan`. -/
def loadPlan (host : Host N K D) (env : Env D) (files : Files D) (path : String) :
    Except String BootPlan := do
  let value ← readValue host env files path
  match valueGet value "plan" with
  | some _ => do
    let output ← orThrow "failed to parse plan output" (PlanOutput.deserialize value)
    pure output.plan
  | none => orThrow "failed to parse boot plan" (BootPlan.deserialize value)

omit [DecidableEq D] in
theorem loadPlan_env {host : Host N K D} {env env' : Env D} {files : Files D}
    (h : env'.readable = env.readable) (path : String) :
    loadPlan host env' files path = loadPlan host env files path := by
  unfold loadPlan readValue
  rw [readJson_env h]

/-- `sha256_hex`. -/
def sha256Hex (host : Host N K D) (data : List UInt8) : String := hexdigest (host.sha256 data)

/-- `read_artifact_source`. -/
def readArtifactSource (host : Host N K D) (env : Env D) (files : Files D) (source : String)
    (artifactMapPath : String) : Except String (List UInt8) :=
  if startsWith source "https://" || startsWith source "http://" then
    match env.get source with
    | .failed => throw ("failed to fetch " ++ source)
    | .status line => throw ("artifact fetch failed for " ++ source ++ ": HTTP " ++ line)
    | .brokenBody message => throw message
    | .body bytes => pure bytes
  else
    let path := join ((parent artifactMapPath).getD ".") source
    orThrow ("failed to read artifact source " ++ path) (readFile host env files path)

/-- `plan_key_to_artifact_kind`. -/
def planKeyToArtifactKind : String → Except String String
  | "kernel_ref" => pure "kernel"
  | "initrd_ref" => pure "initrd"
  | "rootfs_ref" => pure "rootfs"
  | other => throw ("unsupported artifact key in plan: " ++ other)

/-- `format!("{}-{}", kind, sha256)`. -/
def cacheName (kind sha256 : String) : String := kind ++ "-" ++ sha256

/-- One turn of the loop of `fetch_artifacts`. -/
def fetchArtifact (host : Host N K D) (env : Env D) (artifactMap : ArtifactMap)
    (artifactMapPath cache planKey artifactRef : String) : Proc D CachedArtifactRecord := do
  let expectedKind ← Act.except (planKeyToArtifactKind planKey)
  let descriptor ← Act.except (orThrow
    ("artifact ref " ++ artifactRef ++ " missing from artifact map")
    (artifactMap.artifacts.find? fun candidate => candidate.artifactRef = artifactRef))
  Act.except (check (descriptor.kind = expectedKind)
    ("artifact kind mismatch for " ++ artifactRef ++
    ": plan key expects " ++ expectedKind ++ ", map has " ++ descriptor.kind))
  let files ← Act.get
  let bytes ← Act.except (readArtifactSource host env files descriptor.source artifactMapPath)
  Act.except (check (sha256Hex host bytes = descriptor.sha256) ("sha256 mismatch for " ++
    artifactRef ++ ": expected " ++ descriptor.sha256 ++ ", got " ++ sha256Hex host bytes))
  Act.except (check (∀ size ∈ descriptor.sizeBytes, bytes.length % 2 ^ 64 = size)
    ("size mismatch for " ++ artifactRef ++ ": expected " ++
      toString (descriptor.sizeBytes.getD 0) ++ ", got " ++ toString bytes.length))
  let cachePath := join cache (cacheName descriptor.kind descriptor.sha256)
  writeFile host env cachePath bytes ("failed to write cache artifact " ++ cachePath)
  pure
    { artifactRef := descriptor.artifactRef
      kind := descriptor.kind
      sha256 := descriptor.sha256
      sizeBytes := bytes.length % 2 ^ 64
      contentType := descriptor.contentType
      source := descriptor.source
      cachePath }

/-- The loop of `fetch_artifacts`. -/
def fetchAll (host : Host N K D) (env : Env D) (artifactMap : ArtifactMap)
    (artifactMapPath cache : String) :
    List (String × String) → Proc D (List CachedArtifactRecord)
  | [] => pure []
  | (planKey, artifactRef) :: artifacts => do
    let artifact ← fetchArtifact host env artifactMap artifactMapPath cache planKey artifactRef
    let cached ← fetchAll host env artifactMap artifactMapPath cache artifacts
    pure (artifact :: cached)

/-- The record of a fetch. -/
def cacheRecord (env : Env D) (plan : BootPlan) (artifactMap : ArtifactMap)
    (cached : List CachedArtifactRecord) : ArtifactCacheRecord where
  ok := true
  planManifestId := plan.manifestId
  bootReleaseSetId := plan.bootReleaseSetId
  releaseSetRef := plan.releaseSetRef
  artifactMapId := artifactMap.artifactMapId
  createdAt := env.utcNow 0
  artifacts := cached

/-- The name of the record of a fetch in the evidence directory. -/
def cacheRecordName : String := "artifact-cache-record.json"

/-- `fetch_artifacts`. -/
def fetchArtifacts (host : Host N K D) (env : Env D)
    (planPath artifactMapPath cache evidence : String) : Proc D Unit := do
  let files ← Act.get
  let plan ← Act.except (loadPlan host env files planPath)
  let artifactMap ← Act.except
    (readJson host env files (ArtifactMap.deserialize host) artifactMapPath)
  createDirAll host env cache ("failed to create cache " ++ cache)
  createDirAll host env evidence ("failed to create evidence dir " ++ evidence)
  let cached ← fetchAll host env artifactMap artifactMapPath cache plan.artifacts
  let record := (cacheRecord env plan artifactMap cached).serialize host
  writeJson host env (join evidence cacheRecordName) record
  println (toStringPretty host record)

omit [DecidableEq D] in
/-- The artifacts of a plan that loads are in strictly ascending order of their keys. -/
theorem ascending_of_loadPlan {host : Host N K D} {env : Env D} {files : Files D} {path : String}
    {plan : BootPlan} (h : loadPlan host env files path = .ok plan) :
    Ascending (plan.artifacts.map Prod.fst) := by
  have hplan : ∃ v : Json N, BootPlan.deserialize v = some plan := by
    obtain ⟨value, -, h⟩ := bind_eq_ok.mp h
    cases hget : valueGet value "plan" with
    | none =>
      rw [hget] at h
      exact ⟨value, orThrow_eq_ok.mp h⟩
    | some _ =>
      rw [hget] at h
      obtain ⟨output, houtput, h⟩ := bind_eq_ok.mp h
      obtain rfl := pure_eq_ok.mp h
      exact PlanOutput.plan_of_deserialize (orThrow_eq_ok.mp houtput)
  obtain ⟨v, hv⟩ := hplan
  obtain ⟨pairs, hpairs⟩ := BootPlan.artifacts_of_deserialize hv
  exact hpairs ▸ ascending_btreeMap pairs

/-! ## What a fetch records -/

variable {host : Host N K D} {env : Env D} {files : Files D} {log before : List (Event D)}
  {event : Event D}

theorem plain_cacheRecordName : Plain cacheRecordName := by decide

/-- The artifact was recorded for a reference of the plan: under the kind its key stands for. -/
def FetchedFor (planned : String × String) (artifact : CachedArtifactRecord) : Prop :=
  planKeyToArtifactKind planned.1 = .ok artifact.kind ∧ artifact.artifactRef = planned.2

/-- The kinds of the artifacts of a plan. -/
def artifactKinds : List String := ["kernel", "initrd", "rootfs"]

theorem planKeyToArtifactKind_eq_ok {planKey kind : String}
    (h : planKeyToArtifactKind planKey = .ok kind) :
    (planKey, kind) ∈ [("kernel_ref", "kernel"), ("initrd_ref", "initrd"),
      ("rootfs_ref", "rootfs")] := by
  unfold planKeyToArtifactKind at h
  split at h
  · obtain rfl := pure_eq_ok.mp h
    simp
  · obtain rfl := pure_eq_ok.mp h
    simp
  · obtain rfl := pure_eq_ok.mp h
    simp
  · exact absurd h throw_ne_ok

theorem mem_artifactKinds {planKey kind : String} (h : planKeyToArtifactKind planKey = .ok kind) :
    kind ∈ artifactKinds := by
  have hmem := planKeyToArtifactKind_eq_ok h
  simp only [List.mem_cons, Prod.mk.injEq, List.not_mem_nil, or_false] at hmem
  simp only [artifactKinds, List.mem_cons, List.not_mem_nil, or_false]
  tauto

/-- The name of a cached file is one file name. -/
theorem plain_cacheName {kind : String} (h : kind ∈ artifactKinds) (bytes : List UInt8) :
    Plain (cacheName kind (hexdigest bytes)) := by
  have htext : (cacheName kind (hexdigest bytes)).toList =
      kind.toList ++ '-' :: (hexdigest bytes).toList := by
    simp [cacheName]
  have hdash : '-' ∈ (cacheName kind (hexdigest bytes)).toList := by
    rw [htext]
    simp
  refine ⟨?_, ?_⟩
  · rw [htext, List.mem_append, List.mem_cons, not_or, not_or]
    have hkinds : ∀ kind ∈ artifactKinds, '/' ∉ kind.toList := by decide
    exact ⟨hkinds kind h, by decide, notMem_hexdigest (by decide) bytes⟩
  · have hne : ∀ other : String, '-' ∉ other.toList → cacheName kind (hexdigest bytes) ≠ other := by
      rintro other hother rfl
      exact hother hdash
    unfold component
    rw [if_neg, if_neg (hne ".." (by decide))]
    exact not_or.mpr ⟨hne "" (by decide), hne "." (by decide)⟩

/-- The name of a cached file determines the kind and the digest. -/
theorem cacheName_inj {kind kind' sha256 sha256' : String} (h : kind ∈ artifactKinds)
    (h' : kind' ∈ artifactKinds) (heq : cacheName kind sha256 = cacheName kind' sha256') :
    kind = kind' ∧ sha256 = sha256' := by
  have hlength : ∀ kind ∈ artifactKinds, kind.toList.length = 6 := by decide
  have htext : kind.toList ++ '-' :: sha256.toList = kind'.toList ++ '-' :: sha256'.toList := by
    simpa [cacheName] using congrArg String.toList heq
  obtain ⟨hkind, hsha⟩ := List.append_inj htext ((hlength kind h).trans (hlength kind' h').symm)
  exact ⟨String.toList_inj.mp hkind, String.toList_inj.mp (List.cons.inj hsha).2⟩

/-- A file whose name begins otherwise is no cached file. -/
theorem cacheName_ne {kind sha256 name : String} (h : kind ∈ artifactKinds)
    (hname : ∀ kind ∈ artifactKinds, kind.toList.take 1 ≠ name.toList.take 1) :
    cacheName kind sha256 ≠ name := by
  intro heq
  have hlength : ∀ kind ∈ artifactKinds, 1 ≤ kind.toList.length := by decide
  refine hname kind h ?_
  rw [← heq, cacheName, String.append_assoc, String.toList_append,
    List.take_append_of_le_length (hlength kind h)]

/-- The record is no cached file. -/
theorem cacheName_ne_record {kind sha256 : String} (h : kind ∈ artifactKinds) :
    cacheName kind sha256 ≠ cacheRecordName :=
  cacheName_ne h (by decide)

theorem planKeyToArtifactKind_inj {planKey planKey' kind : String}
    (h : planKeyToArtifactKind planKey = .ok kind)
    (h' : planKeyToArtifactKind planKey' = .ok kind) : planKey = planKey' := by
  have hmem := planKeyToArtifactKind_eq_ok h
  have hmem' := planKeyToArtifactKind_eq_ok h'
  simp only [List.mem_cons, Prod.mk.injEq, List.not_mem_nil, or_false] at hmem hmem'
  obtain ⟨rfl, rfl⟩ | ⟨rfl, rfl⟩ | ⟨rfl, rfl⟩ := hmem <;> simp_all

/-- The planned artifact can be fetched: the first descriptor of its reference has the kind its key
stands for, and a source that can be read, of the stated digest and size. -/
structure Fetchable (host : Host N K D) (env : Env D) (files : Files D) (artifactMap : ArtifactMap)
    (artifactMapPath : String) (planned : String × String) (descriptor : ArtifactDescriptor)
    (bytes : List UInt8) : Prop where
  kind : planKeyToArtifactKind planned.1 = .ok descriptor.kind
  first : artifactMap.artifacts.find? (fun candidate => candidate.artifactRef = planned.2) =
    some descriptor
  source : readArtifactSource host env files descriptor.source artifactMapPath = .ok bytes
  sha256 : sha256Hex host bytes = descriptor.sha256
  sizeBytes : ∀ size ∈ descriptor.sizeBytes, bytes.length % 2 ^ 64 = size

/-- The record of a fetched artifact. -/
def cachedArtifact (cache : String) (descriptor : ArtifactDescriptor) (bytes : List UInt8) :
    CachedArtifactRecord where
  artifactRef := descriptor.artifactRef
  kind := descriptor.kind
  sha256 := descriptor.sha256
  sizeBytes := bytes.length % 2 ^ 64
  contentType := descriptor.contentType
  source := descriptor.source
  cachePath := join cache (cacheName descriptor.kind descriptor.sha256)

/-- Where a fetched artifact is kept. -/
def cachePlace (host : Host N K D) (cache : String) (descriptor : ArtifactDescriptor) :
    Location D :=
  ⟨host.dirOf (components cache), cacheName descriptor.kind descriptor.sha256⟩

section

variable {artifactMap : ArtifactMap} {artifactMapPath cache : String} {planned : String × String}
  {descriptor : ArtifactDescriptor} {bytes : List UInt8}

omit [DecidableEq D] in
theorem Fetchable.mem_artifactKinds
    (h : Fetchable host env files artifactMap artifactMapPath planned descriptor bytes) :
    descriptor.kind ∈ artifactKinds :=
  Client.mem_artifactKinds h.kind

omit [DecidableEq D] in
theorem Fetchable.fetchedFor
    (h : Fetchable host env files artifactMap artifactMapPath planned descriptor bytes) :
    FetchedFor planned (cachedArtifact cache descriptor bytes) := by
  have href : descriptor.artifactRef = planned.2 := by simpa using List.find?_some h.first
  exact ⟨h.kind, href⟩

omit [DecidableEq D] in
theorem Fetchable.locate
    (h : Fetchable host env files artifactMap artifactMapPath planned descriptor bytes) :
    locate host (components (join cache (cacheName descriptor.kind descriptor.sha256))) =
      some (cachePlace host cache descriptor) := by
  refine locate_join ?_
  rw [← h.sha256]
  exact plain_cacheName h.mem_artifactKinds _

/-- One turn of the loop writes the artifact if it can be fetched. -/
theorem fetchArtifact_of_fetchable
    (h : Fetchable host env files artifactMap artifactMapPath planned descriptor bytes) :
    fetchArtifact host env artifactMap artifactMapPath cache planned.1 planned.2 files =
      (do
        writeFile host env (join cache (cacheName descriptor.kind descriptor.sha256)) bytes
          ("failed to write cache artifact " ++
            join cache (cacheName descriptor.kind descriptor.sha256))
        pure (cachedArtifact cache descriptor bytes) : Proc D CachedArtifactRecord) files := by
  unfold fetchArtifact
  simp only [h.kind, h.first, h.source, h.sha256, check, orThrow, if_pos h.sizeBytes, if_true,
    Act.except_ok_bind_apply, Act.get_bind_apply]
  rfl

/-- One turn of the loop fails and does nothing if the artifact cannot be fetched. -/
theorem fetchArtifact_of_not
    (h : ∀ descriptor bytes,
      ¬ Fetchable host env files artifactMap artifactMapPath planned descriptor bytes) :
    ∃ e, fetchArtifact host env artifactMap artifactMapPath cache planned.1 planned.2 files =
      (.error e, []) := by
  unfold fetchArtifact
  cases hkind : planKeyToArtifactKind planned.1 with
  | error e => exact ⟨e, rfl⟩
  | ok kind =>
    rw [Act.except_ok_bind_apply]
    cases hfirst : artifactMap.artifacts.find? (fun candidate =>
        candidate.artifactRef = planned.2) with
    | none => exact ⟨_, rfl⟩
    | some descriptor =>
      by_cases hmatch : descriptor.kind = kind
      · subst hmatch
        simp only [orThrow, check, if_true, Act.except_ok_bind_apply, Act.get_bind_apply]
        cases hsource : readArtifactSource host env files descriptor.source artifactMapPath with
        | error e => exact ⟨e, rfl⟩
        | ok bytes =>
          rw [Act.except_ok_bind_apply]
          by_cases hsha : sha256Hex host bytes = descriptor.sha256
          · rw [if_pos hsha, Act.except_ok_bind_apply, if_neg]
            · exact ⟨_, rfl⟩
            · exact fun hsize => h descriptor bytes ⟨hkind, hfirst, hsource, hsha, hsize⟩
          · rw [if_neg hsha]
            exact ⟨_, rfl⟩
      · simp only [orThrow, check, if_neg hmatch, Act.except_ok_bind_apply]
        exact ⟨_, rfl⟩

/-- **A turn of the loop** writes an artifact that can be fetched, or fails and does nothing. -/
theorem fetchArtifact_eq_ok {artifact : CachedArtifactRecord}
    (h : fetchArtifact host env artifactMap artifactMapPath cache planned.1 planned.2 files =
      (.ok artifact, log)) : ∃ descriptor bytes,
      Fetchable host env files artifactMap artifactMapPath planned descriptor bytes ∧
        artifact = cachedArtifact cache descriptor bytes ∧
        log = [.write (cachePlace host cache descriptor) bytes] := by
  by_cases hfetch : ∃ descriptor bytes,
      Fetchable host env files artifactMap artifactMapPath planned descriptor bytes
  · obtain ⟨descriptor, bytes, hfetch⟩ := hfetch
    rw [fetchArtifact_of_fetchable hfetch] at h
    obtain ⟨_, log₁, log₂, hwrite, hpure, rfl⟩ := Act.bind_eq_ok.mp h
    obtain ⟨location, hloc, rfl⟩ := writeFile_eq_ok hwrite
    obtain ⟨hartifact, rfl⟩ := Prod.mk.inj hpure
    obtain rfl := Option.some.inj (hfetch.locate.symm.trans hloc)
    exact ⟨descriptor, bytes, hfetch, (Except.ok.inj hartifact).symm, rfl⟩
  · simp only [not_exists] at hfetch
    have hfails : ∃ e, fetchArtifact host env artifactMap artifactMapPath cache planned.1 planned.2
        files = (.error e, []) := fetchArtifact_of_not hfetch
    obtain ⟨e, he⟩ := hfails
    exact absurd (Prod.mk.inj (he.symm.trans h)).1 (by simp)

/-- The message of a file of the cache that was not written. -/
def UnwrittenArtifact (cache e : String) : Prop :=
  ∃ name, e = "failed to write cache artifact " ++ join cache name

theorem fetchArtifact_eq_error {e : String}
    (h : fetchArtifact host env artifactMap artifactMapPath cache planned.1 planned.2 files =
      (.error e, log)) : UnwrittenArtifact cache e ∨ log = [] ∧ ∀ descriptor bytes,
        ¬ Fetchable host env files artifactMap artifactMapPath planned descriptor bytes := by
  by_cases hfetch : ∃ descriptor bytes,
      Fetchable host env files artifactMap artifactMapPath planned descriptor bytes
  · obtain ⟨descriptor, bytes, hfetch⟩ := hfetch
    rw [fetchArtifact_of_fetchable hfetch] at h
    obtain hwrite | ⟨_, _, _, -, hpure, -⟩ := Act.bind_eq_error.mp h
    · exact .inl ⟨_, writeFile_eq_error hwrite⟩
    · exact absurd (Prod.mk.inj hpure).1 (by simp)
  · simp only [not_exists] at hfetch
    have hfails : ∃ e, fetchArtifact host env artifactMap artifactMapPath cache planned.1 planned.2
        files = (.error e, []) := fetchArtifact_of_not hfetch
    obtain ⟨e', he⟩ := hfails
    exact .inr ⟨(Prod.mk.inj (he.symm.trans h)).2.symm, hfetch⟩

/-- **The loop succeeded**: each artifact could be fetched when its turn came, and was written. -/
theorem fetchAll_eq_ok : ∀ {artifacts : List (String × String)} {files : Files D}
    {cached : List CachedArtifactRecord} {log : List (Event D)},
      fetchAll host env artifactMap artifactMapPath cache artifacts files = (.ok cached, log) →
        ∃ found : List (ArtifactDescriptor × List UInt8),
          List.Forall₂ (fun planned f => ∃ earlier, earlier <+: log ∧
            Fetchable host env (replay files earlier) artifactMap artifactMapPath planned f.1 f.2)
            artifacts found ∧
          cached = found.map (fun f => cachedArtifact cache f.1 f.2) ∧
          log = found.map fun f => .write (cachePlace host cache f.1) f.2
  | [], _, _, _, h => by
    obtain ⟨hcached, rfl⟩ := Prod.mk.inj h
    exact ⟨[], .nil, (Except.ok.inj hcached).symm, rfl⟩
  | planned :: artifacts, files, _, _, h => by
    unfold fetchAll at h
    obtain ⟨artifact, log₁, _, hartifact, hrest, rfl⟩ := Act.bind_eq_ok.mp h
    obtain ⟨cached, log₂, _, hcached, hpure, rfl⟩ := Act.bind_eq_ok.mp hrest
    obtain ⟨hlist, rfl⟩ := Prod.mk.inj hpure
    obtain ⟨descriptor, bytes, hfetch, rfl, rfl⟩ := fetchArtifact_eq_ok hartifact
    obtain ⟨found, hfound, rfl, rfl⟩ := fetchAll_eq_ok hcached
    refine ⟨(descriptor, bytes) :: found, .cons ⟨[], List.nil_prefix, hfetch⟩ ?_,
      (Except.ok.inj hlist).symm, by simp⟩
    refine hfound.imp fun planned' f hf => ?_
    obtain ⟨earlier, hearlier, hfetch'⟩ := hf
    exact ⟨.write (cachePlace host cache descriptor) bytes :: earlier,
      by simpa using hearlier, hfetch'⟩

/-- **The loop failed**: a file of the cache was not written, or an artifact could not be fetched
when its turn came. -/
theorem fetchAll_eq_error : ∀ {artifacts : List (String × String)} {files : Files D} {e : String}
    {log : List (Event D)},
      fetchAll host env artifactMap artifactMapPath cache artifacts files = (.error e, log) →
        UnwrittenArtifact cache e ∨ ∃ planned ∈ artifacts, ∀ descriptor bytes,
          ¬ Fetchable host env (replay files log) artifactMap artifactMapPath planned descriptor
            bytes
  | [], _, _, _, h => absurd (Prod.mk.inj h).1 (by simp)
  | planned :: artifacts, files, _, _, h => by
    unfold fetchAll at h
    obtain hturn | ⟨artifact, log₁, log₂, -, hrest, rfl⟩ := Act.bind_eq_error.mp h
    · obtain hwrite | ⟨rfl, hnot⟩ := fetchArtifact_eq_error hturn
      · exact .inl hwrite
      · exact .inr ⟨planned, List.mem_cons_self, hnot⟩
    obtain hloop | ⟨_, _, _, -, hpure, -⟩ := Act.bind_eq_error.mp hrest
    · obtain hwrite | ⟨planned', hmem, hnot⟩ := fetchAll_eq_error hloop
      · exact .inl hwrite
      · refine .inr ⟨planned', List.mem_cons_of_mem planned hmem, ?_⟩
        rwa [replay_append]
    · exact absurd (Prod.mk.inj hpure).1 (by simp)

end

/-- The place of the record in the evidence directory. -/
def recordPlace (host : Host N K D) (evidence : String) : Location D :=
  ⟨host.dirOf (components evidence), cacheRecordName⟩

/-- The writes of the loop. -/
def artifactWrites (host : Host N K D) (cache : String)
    (found : List (ArtifactDescriptor × List UInt8)) : List (Event D) :=
  found.map fun f => .write (cachePlace host cache f.1) f.2

/-- The artifacts a fetch records. -/
def cachedArtifacts (cache : String) (found : List (ArtifactDescriptor × List UInt8)) :
    List CachedArtifactRecord :=
  found.map fun f => cachedArtifact cache f.1 f.2

/-- A fetch succeeded: with the directories made, it found every artifact of the plan and wrote it,
and `after` holds the record and everything that was written before it. -/
structure Fetched (host : Host N K D) (env : Env D) (files : Files D)
    (planPath artifactMapPath cache evidence : String) (plan : BootPlan) (artifactMap : ArtifactMap)
    (found : List (ArtifactDescriptor × List UInt8)) (made after : Files D) : Prop where
  planLoads : loadPlan host env files planPath = .ok plan
  mapLoads : readJson host env files (ArtifactMap.deserialize host) artifactMapPath =
    .ok artifactMap
  sameFiles : ∀ location bytes,
    made location = some (.file bytes) ↔ files location = some (.file bytes)
  fetchable :
    List.Forall₂ (fun planned f => ∃ earlier, earlier <+: artifactWrites host cache found ∧
    Fetchable host env (replay made earlier) artifactMap artifactMapPath planned f.1 f.2)
    plan.artifacts found
  recorded : after (recordPlace host evidence) = some (.file (jsonBytes host
    ((cacheRecord env plan artifactMap (cachedArtifacts cache found)).serialize host)))
  kept : ∀ location ≠ recordPlace host evidence, ∀ entry,
    replay made (artifactWrites host cache found) location = some entry →
      after location = some entry

/-- The directories of a fetch are no files. -/
theorem files_of_dirs {cache evidence error error' : String} {dirs dirs' : List (Event D)}
    {u u' : Except String Unit}
    (hdirs : createDirAll host env cache error files = (u, dirs))
    (hdirs' : createDirAll host env evidence error' (replay files dirs) = (u', dirs')) :
    ∀ location bytes, replay (replay files dirs) dirs' location = some (.file bytes) ↔
      files location = some (.file bytes) := by
  intro location bytes
  have hfirst : (createDirAll host env cache error).stateAfter files location =
      some (.file bytes) ↔ files location = some (.file bytes) := makeDirs_file_iff
  have hsecond : (createDirAll host env evidence error').stateAfter (replay files dirs) location =
      some (.file bytes) ↔ replay files dirs location = some (.file bytes) := makeDirs_file_iff
  rw [Act.stateAfter, hdirs] at hfirst
  rw [Act.stateAfter, hdirs'] at hsecond
  exact hsecond.trans hfirst

/-- **A fetch that succeeded** left what it fetched, and the record of it. -/
theorem fetchArtifacts_eq_ok {planPath artifactMapPath cache evidence : String} {u : Unit}
    (h : fetchArtifacts host env planPath artifactMapPath cache evidence files = (.ok u, log)) :
    ∃ plan artifactMap found made, Fetched host env files planPath artifactMapPath cache evidence
      plan artifactMap found made (replay files log) := by
  unfold fetchArtifacts at h
  rw [Act.get_bind_apply] at h
  obtain ⟨plan, hplan, h⟩ := Act.except_bind_eq_ok.mp h
  obtain ⟨artifactMap, hmap, h⟩ := Act.except_bind_eq_ok.mp h
  obtain ⟨_, dirs, _, hdirs, hrest, rfl⟩ := Act.bind_eq_ok.mp h
  obtain ⟨_, dirs', _, hdirs', hloop, rfl⟩ := Act.bind_eq_ok.mp hrest
  obtain ⟨cached, _, _, hcached, hend, rfl⟩ := Act.bind_eq_ok.mp hloop
  obtain ⟨_, _, _, hwrite, hprint, rfl⟩ := Act.bind_eq_ok.mp hend
  obtain ⟨found, hfound, rfl, rfl⟩ := fetchAll_eq_ok hcached
  obtain ⟨parents, location, hloc, rfl, -, hkeeps⟩ := writeJson_eq_ok hwrite
  obtain rfl := Option.some.inj ((locate_join plain_cacheRecordName).symm.trans hloc)
  obtain ⟨-, rfl⟩ := Prod.mk.inj hprint
  refine ⟨plan, artifactMap, found, replay (replay files dirs) dirs', hplan, hmap,
    files_of_dirs hdirs hdirs', hfound, ?_, ?_⟩
  · simp only [replay_append, replay_cons, replay_nil]
    rw [apply_of_made (by simp [Event.made])]
    exact apply_write
  · intro other hother entry hentry
    have hkept := hkeeps other entry hentry
    simp only [replay_append, replay_cons, replay_nil] at hkept ⊢
    rw [apply_of_made (by simp [Event.made]), apply_of_made, hkept]
    rintro _ heq
    exact hother (Prod.mk.inj (Option.some.inj heq)).1.symm

theorem fetched_stateAfter {planPath artifactMapPath cache evidence : String} {u : Unit}
    (h : (fetchArtifacts host env planPath artifactMapPath cache evidence files).1 = .ok u) :
    ∃ plan artifactMap found made, Fetched host env files planPath artifactMapPath cache evidence
      plan artifactMap found made
      ((fetchArtifacts host env planPath artifactMapPath cache evidence).stateAfter files) :=
  fetchArtifacts_eq_ok (Prod.ext h rfl)

/-! ## What a fetch writes -/

/-- A file of the cache is written: bytes, or a beginning of them, under their kind and digest. -/
def WritesArtifact (host : Host N K D) (env : Env D) (cache : String) (event : Event D) : Prop :=
  ∃ kind ∈ artifactKinds, ∃ bytes,
    WritesFile host env (join cache (cacheName kind (sha256Hex host bytes))) bytes event

theorem occurs_fetchArtifact {artifactMap : ArtifactMap}
    {artifactMapPath cache planKey artifactRef : String}
    (h : (fetchArtifact host env artifactMap artifactMapPath cache planKey artifactRef).Occurs files
      before event) : WritesArtifact host env cache event := by
  unfold fetchArtifact at h
  obtain ⟨kind, hkind, h⟩ := Act.occurs_except_bind.mp h
  obtain ⟨descriptor, -, h⟩ := Act.occurs_except_bind.mp h
  obtain ⟨_, hcheck, h⟩ := Act.occurs_except_bind.mp h
  rw [check_eq_ok] at hcheck
  rw [Act.occurs_get_bind] at h
  obtain ⟨bytes, -, h⟩ := Act.occurs_except_bind.mp h
  obtain ⟨_, hsha, h⟩ := Act.occurs_except_bind.mp h
  rw [check_eq_ok] at hsha
  obtain ⟨_, -, h⟩ := Act.occurs_except_bind.mp h
  rcases Act.occurs_bind.mp h with h | ⟨_, _, _, -, -, h⟩
  · refine ⟨descriptor.kind, mem_artifactKinds (hcheck ▸ hkind), bytes, ?_⟩
    rw [hsha]
    exact (occurs_writeFile h).2
  · exact absurd h Act.not_occurs_pure

theorem occurs_fetchAll {artifactMap : ArtifactMap} {artifactMapPath cache : String} :
    ∀ {artifacts : List (String × String)} {files : Files D} {before : List (Event D)},
      (fetchAll host env artifactMap artifactMapPath cache artifacts).Occurs files before event →
        WritesArtifact host env cache event
  | [], _, _, h => absurd h Act.not_occurs_pure
  | _ :: _, _, _, h => by
    unfold fetchAll at h
    rcases Act.occurs_bind.mp h with h | ⟨_, _, _, -, -, h⟩
    · exact occurs_fetchArtifact h
    · rcases Act.occurs_bind.mp h with h | ⟨_, _, _, -, -, h⟩
      · exact occurs_fetchAll h
      · exact absurd h Act.not_occurs_pure

/-- What a fetch may do. -/
inductive FetchEvent (host : Host N K D) (env : Env D) (cache evidence : String) :
    Event D → Prop where
  | dir {event : Event D} (h : MakesDir host (components cache) event ∨
      MakesDir host (components evidence) event) : FetchEvent host env cache evidence event
  | artifact {event : Event D} (h : WritesArtifact host env cache event) :
      FetchEvent host env cache evidence event
  | record {event : Event D} (value : Json N)
      (h : WritesFile host env (join evidence cacheRecordName) (jsonBytes host value) event) :
      FetchEvent host env cache evidence event
  | print (text : List Char) : FetchEvent host env cache evidence (.print text)

/-- The directory of a file with a plain name is the directory it was joined to. -/
theorem dropLast_components_join {base name : String} (h : Plain name) :
    (components (join base name)).dropLast = components base := by
  rw [components_join base h, List.dropLast_concat]

/-- **What a fetch writes**: files of the cache under their digests, the record in the evidence
directory, and the directories themselves. -/
theorem occurs_fetchArtifacts {planPath artifactMapPath cache evidence : String}
    (h : (fetchArtifacts host env planPath artifactMapPath cache evidence).Occurs files before
      event) : FetchEvent host env cache evidence event := by
  unfold fetchArtifacts at h
  rw [Act.occurs_get_bind] at h
  obtain ⟨plan, -, h⟩ := Act.occurs_except_bind.mp h
  obtain ⟨artifactMap, -, h⟩ := Act.occurs_except_bind.mp h
  rcases Act.occurs_bind.mp h with h | ⟨_, _, _, -, -, h⟩
  · exact .dir (.inl (occurs_createDirAll h))
  rcases Act.occurs_bind.mp h with h | ⟨_, _, _, -, -, h⟩
  · exact .dir (.inr (occurs_createDirAll h))
  rcases Act.occurs_bind.mp h with h | ⟨_, _, _, -, -, h⟩
  · exact .artifact (occurs_fetchAll h)
  rcases Act.occurs_bind.mp h with h | ⟨_, _, _, -, -, h⟩
  · rcases occurs_writeJson h with hdir | hwrite
    · rw [dropLast_components_join plain_cacheRecordName] at hdir
      exact .dir (.inr hdir)
    · exact .record _ hwrite
  · obtain ⟨-, rfl⟩ := Act.occurs_emit.mp h
    exact .print _

end Nlboot.Client
