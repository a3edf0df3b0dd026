import Nlboot.Client.PlanReading
import Nlboot.Lib.PrettyCode

/-!
# What is left of a document

`fs::write` of `rust/nlboot-client/src/main.rs` is no replacement of a file at once: it can break
off, and what is left is a beginning of the bytes. The documents are printed over several lines,
and no beginning of one is another one, so a later invocation reads the document that was to be
written, or none.

* `Written`: the documents of the client that its other commands read.
* `Faithful`: what is read of such a document is that document.

Results:
* **`jsonBytes_prefix_free`**: what is left of one document is the text of no other.
* `loadPlan_of_output`: a plan output that was written is loaded.
* `record_of_remains`, `plan_of_remains`: the record and the plan that are read of what is left.
* `faithful_of_printed`: a host that parses only what it prints is faithful.
-/

namespace Nlboot.Client

open Nlboot.Lib Nlboot.Lib.Path

variable {N K D : Type} {host : Host N K D} {env : Env D} {files : Files D}

/-- **What is left of one document is the text of no other.** -/
theorem jsonBytes_prefix_free (hnum : LineTexts host.num) {document other : Json N}
    (h : jsonBytes host document <+: jsonBytes host other) : document = other :=
  printed_prefix_free escapes_minimal hnum h

/-- A record or a plan output, with sizes that fit `u64`. -/
inductive Written (host : Host N K D) : Json N → Prop where
  | record (record : ArtifactCacheRecord)
      (hsizes : ∀ artifact ∈ record.artifacts, artifact.sizeBytes < 2 ^ 64) :
      Written host (record.serialize host)
  | plan (output : PlanOutput) : Written host output.serialize

/-- What is read of what is left of a document is the document, and times and sizes that are read
back are the ones that were written. -/
structure Faithful (host : Host N K D) : Prop where
  parse : ∀ document raw value, Written host document → raw <+: jsonBytes host document →
    host.parse raw = .json value → value = document
  timestamp : ∀ time time', host.timestamp (host.rfc3339 time) = some time' → time' = time
  asU64 : ∀ n n', n < 2 ^ 64 → host.asU64 (host.ofU64 n) = some n' → n' = n

/-! ## Records -/

/-- The size of an artifact that is decoded at all is read back. -/
theorem CachedArtifactRecord.size_of_deserialize (hfaithful : Faithful host)
    {artifact artifact' : CachedArtifactRecord} (hsize : artifact.sizeBytes < 2 ^ 64)
    (h : deserialize host (artifact.serialize host) = some artifact') :
    host.asU64 (host.ofU64 artifact.sizeBytes) = some artifact.sizeBytes := by
  unfold deserialize serialize at h
  obtain ⟨_, hstruct, h⟩ := Option.bind_eq_some_iff.mp h
  obtain ⟨-, rfl⟩ := structMembers_obj_eq_some.mp hstruct
  obtain ⟨_, -, h⟩ := Option.bind_eq_some_iff.mp h
  obtain ⟨_, -, h⟩ := Option.bind_eq_some_iff.mp h
  obtain ⟨_, -, h⟩ := Option.bind_eq_some_iff.mp h
  obtain ⟨n, hn, -⟩ := Option.bind_eq_some_iff.mp h
  obtain ⟨_, hget, hread⟩ := required_eq_some.mp hn
  obtain rfl := Option.some.inj hget
  have hread : host.asU64 (host.ofU64 artifact.sizeBytes) = some n := hread
  rw [hread, hfaithful.asU64 _ n hsize hread]

/-- **The record** that is decoded from what a record is encoded to is that record. -/
theorem ArtifactCacheRecord.eq_of_deserialize (hfaithful : Faithful host)
    {record record' : ArtifactCacheRecord}
    (hsizes : ∀ artifact ∈ record.artifacts, artifact.sizeBytes < 2 ^ 64)
    (h : deserialize host (record.serialize host) = some record') : record' = record := by
  have hdecoded := h
  unfold deserialize serialize at h
  obtain ⟨_, hstruct, h⟩ := Option.bind_eq_some_iff.mp h
  obtain ⟨-, rfl⟩ := structMembers_obj_eq_some.mp hstruct
  obtain ⟨_, -, h⟩ := Option.bind_eq_some_iff.mp h
  obtain ⟨_, -, h⟩ := Option.bind_eq_some_iff.mp h
  obtain ⟨_, -, h⟩ := Option.bind_eq_some_iff.mp h
  obtain ⟨_, -, h⟩ := Option.bind_eq_some_iff.mp h
  obtain ⟨_, -, h⟩ := Option.bind_eq_some_iff.mp h
  obtain ⟨time, htime, h⟩ := Option.bind_eq_some_iff.mp h
  obtain ⟨artifacts, hartifacts, -⟩ := Option.bind_eq_some_iff.mp h
  obtain ⟨_, hget, htime⟩ := required_eq_some.mp htime
  obtain rfl := Option.some.inj hget
  obtain ⟨_, hget, hartifacts⟩ := required_eq_some.mp hartifacts
  obtain rfl := Option.some.inj hget
  have htime : host.timestamp (host.rfc3339 record.createdAt) = some time := htime
  have hall : List.Forall₂ (fun artifact artifact' => CachedArtifactRecord.deserialize host
      (artifact.serialize host) = some artifact') record.artifacts artifacts :=
    List.forall₂_map_left_iff.mp (mapM_eq_some.mp hartifacts)
  have hback : deserialize host (record.serialize host) = some record := by
    refine deserialize_serialize ?_ fun artifact hmem => ?_
    · rw [htime, hfaithful.timestamp _ _ htime]
    · obtain ⟨artifact', -, hread⟩ := exists_mem_right_of_forall₂ hall artifact hmem
      exact CachedArtifactRecord.size_of_deserialize hfaithful (hsizes artifact hmem) hread
  exact Option.some.inj (hdecoded.symm.trans hback)

/-- **The record of what is left** of a record is that record. -/
theorem record_of_remains (hfaithful : Faithful host) {evidence : String}
    {record record' : ArtifactCacheRecord} {raw : List UInt8}
    (hsizes : ∀ artifact ∈ record.artifacts, artifact.sizeBytes < 2 ^ 64)
    (hraw : raw <+: jsonBytes host (record.serialize host))
    (hread : readFile host env files (join evidence cacheRecordName) = some raw)
    (hload : loadCacheRecord host env files evidence = .ok record') : record' = record := by
  obtain ⟨raw', value, hread', hparse, hdecode⟩ :=
    readJson_eq_ok.mp (loadCacheRecord_eq_ok.mp hload)
  obtain rfl := Option.some.inj (hread.symm.trans hread')
  obtain rfl := hfaithful.parse _ _ _ (.record record hsizes) hraw hparse
  exact ArtifactCacheRecord.eq_of_deserialize hfaithful hsizes hdecode

/-! ## Plans -/

/-- **A plan output that was written** is loaded as its plan. -/
theorem loadPlan_of_output {path : String} {raw : List UInt8} {output : PlanOutput}
    (hread : readFile host env files path = some raw)
    (hparse : host.parse raw = .json output.serialize)
    (hsorted : btreeMap output.plan.artifacts = output.plan.artifacts) :
    loadPlan host env files path = .ok output.plan := by
  have hdistinct : (output.serialize : Json N).distinctNames = true := by
    refine Json.distinctNames_obj.mpr ⟨show ["ok", "plan", "implementation_note"].Nodup by decide,
      ?_⟩
    simp only [List.forall_mem_cons, distinctNames_serialize hsorted]
    simp [Json.distinctNames]
  have hvalue : readValue host env files path = .ok output.serialize := by
    refine readJson_of_readFile hread hparse ?_
    rw [toValue_eq_self hdistinct]
  have hget : valueGet (output.serialize : Json N) "plan" = some output.plan.serialize := rfl
  unfold loadPlan
  rw [hvalue]
  refine bind_eq_ok.mpr ⟨_, rfl, ?_⟩
  rw [hget]
  exact bind_eq_ok.mpr ⟨_, orThrow_eq_ok.mpr (PlanOutput.deserialize_serialize hsorted), rfl⟩

/-- **The plan of what is left** of a plan output is its plan. -/
theorem plan_of_remains (hfaithful : Faithful host) {path : String} {output : PlanOutput}
    {plan : BootPlan} {raw : List UInt8}
    (hsorted : btreeMap output.plan.artifacts = output.plan.artifacts)
    (hraw : raw <+: jsonBytes host output.serialize)
    (hread : readFile host env files path = some raw)
    (hload : loadPlan host env files path = .ok plan) : plan = output.plan := by
  obtain ⟨value, hvalue, -⟩ := bind_eq_ok.mp hload
  obtain ⟨raw', read, hread', hparse, -⟩ := readJson_eq_ok.mp hvalue
  obtain rfl := Option.some.inj (hread.symm.trans hread')
  obtain rfl := hfaithful.parse _ _ _ (.plan output) hraw hparse
  exact Except.ok.inj (hload.symm.trans (loadPlan_of_output hread hparse hsorted))

/-! ## Hosts that are faithful -/

/-- **A host that parses only what it prints** reads no other document for what is left of one. -/
theorem faithful_of_printed (hnum : LineTexts host.num)
    (hparse : ∀ raw value, host.parse raw = .json value → jsonBytes host value = raw)
    (htimes : ∀ time time', host.timestamp (host.rfc3339 time) = some time' → time' = time)
    (hsizes : ∀ n n', n < 2 ^ 64 → host.asU64 (host.ofU64 n) = some n' → n' = n) :
    Faithful host where
  parse document raw value _ hraw hvalue := by
    obtain rfl := hparse raw value hvalue
    exact jsonBytes_prefix_free hnum hraw
  timestamp := htimes
  asU64 := hsizes

theorem decimal_eq (n : Int) : decimal n = decimalInt n := by
  cases n with
  | ofNat n => exact Nat.toList_repr
  | negSucc n =>
    show ("-" ++ (n + 1).repr).toList = '-' :: Nat.toDigits 10 (n + 1)
    rw [String.toList_append, Nat.toList_repr]
    rfl

theorem lineTexts_decimal : LineTexts decimal := by
  have hdecimal : decimal = decimalInt := funext decimal_eq
  rw [hdecimal]
  exact lineTexts_decimalInt

theorem parse_eq_json {library : Library} {raw : List UInt8} {value : Json Int} :
    (lexicalHost library).parse raw = .json value ↔
      library.documents.find? (fun document => printed document = raw) = some value := by
  unfold lexicalHost
  simp only
  cases library.documents.find? (fun document => printed document = raw) <;> simp

/-- A printed document of the table is read back. -/
theorem parse_of_mem {library : Library} {document : Json Int}
    (h : document ∈ library.documents) :
    (lexicalHost library).parse (printed document) = .json document := by
  rw [parse_eq_json]
  cases hfound : library.documents.find? (fun other => printed other = printed document) with
  | none => exact absurd (List.find?_eq_none.mp hfound document h) (by simp)
  | some other =>
    have hsame : printed other = printed document := by simpa using List.find?_some hfound
    have hprefix : printed other <+: printed document := hsame ▸ List.prefix_rfl
    exact congrArg some (printed_prefix_free escapes_minimal lineTexts_decimal hprefix)

/-- What the table is asked for is what it printed. -/
theorem printed_of_parse {library : Library} {raw : List UInt8} {value : Json Int}
    (h : (lexicalHost library).parse raw = .json value) : printed value = raw := by
  simpa using List.find?_some (parse_eq_json.mp h)

end Nlboot.Client
