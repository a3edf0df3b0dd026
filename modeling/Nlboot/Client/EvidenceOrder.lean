import Nlboot.Client.Footprint

/-!
# The order of the evidence

The records that `rust/nlboot-client/src/main.rs` leaves in an evidence directory come in an order:
the exec phase asks for the proof of the load-only phase, the load-only phase for the record of a
fetch, and the proof lane writes its adapter record before its entry record. Nothing is deleted, so
the order can be read off the directory at any time, also where invocations were killed halfway.

* `rungs`: which record asks for which.
* `Ladder`: a record is there only together with the one it asks for; `Climbs`: an event that makes
  a record comes where that one is.
* `Spared`: an invocation is told no path that leads to the records themselves.

Results:
* `climbs_main`: every invocation climbs.
* **`ladder_kept`**: the order holds after every run, wherever its invocations are killed.
-/

namespace Nlboot.Client

open Nlboot.Lib Nlboot.Lib.Path

variable {N K D : Type} [DecidableEq D] {host : Host N K D} {env : Env D} {files : Files D}
  {before : List (Event D)} {event : Event D} {dir : D}

/-- Each record with the one it asks for. -/
def rungs : List (String × String) :=
  [(execProofName, preExecProofName), (preExecProofName, cacheRecordName),
    (entryRecordName, adapterRecordName)]

/-- A record is in the directory only together with the one it asks for. -/
def Ladder (dir : D) (files : Files D) : Prop :=
  ∀ rung ∈ rungs, Present ⟨dir, rung.1⟩ files → Present ⟨dir, rung.2⟩ files

/-- An event that makes a record comes where the one it asks for is. -/
def Climbs (dir : D) (files : Files D) (event : Event D) : Prop :=
  ∀ rung ∈ rungs, ∀ entry, event.made = some (⟨dir, rung.1⟩, entry) →
    Present ⟨dir, rung.2⟩ files

/-- The invocation is told no path that leads to a record or through it. -/
def Spared (host : Host N K D) (dir : D) (command : Commands) : Prop :=
  ∀ rung ∈ rungs, ∀ path ∈ command.writtenPaths, ¬ GoesThrough host path ⟨dir, rung.1⟩

/-- **A step**: a proper event that climbs keeps the order. -/
theorem Ladder.step (hproper : Proper files event) (hclimbs : Climbs dir files event)
    (h : Ladder dir files) : Ladder dir (Replay.apply files event) := by
  intro rung hrung hthere
  refine hproper.keeps_present ?_
  by_cases hbefore : Present ⟨dir, rung.1⟩ files
  · exact h rung hrung hbefore
  · obtain ⟨entry, hmade⟩ := made_of_present hbefore hthere
    exact hclimbs rung hrung entry hmade

/-! ## Every invocation climbs -/

/-- What an invocation found in the beginning is there before each of its events. -/
theorem present_before {command : Commands} {place : Location D}
    (h : (main host env command).Occurs files before event) (hthere : Present place files) :
    Present place (replay files before) :=
  guarded_main.before (fun _ _ hproper => hproper.keeps_present) h hthere

/-- A document that was written is there. -/
theorem present_of_writeJson {base name : String} {value : Json N} {u : Unit}
    {log : List (Event D)} (hname : Plain name)
    (h : writeJson host env (join base name) value files = (.ok u, log)) :
    Present ⟨host.dirOf (components base), name⟩ (replay files log) := by
  obtain ⟨dirs, location, hlocation, rfl, -, -⟩ := writeJson_eq_ok h
  obtain rfl := Option.some.inj (hlocation.symm.trans (locate_join hname))
  unfold Present
  rw [replay_append, replay_cons, replay_nil, apply_write]
  simp

omit [DecidableEq D] in
/-- What was verified rests on a record that is there. -/
theorem Verified.present {cache evidence : String} {kernel initrd : CachedArtifactRecord}
    (h : Verified host env files cache evidence kernel initrd) :
    Present (recordPlace host evidence) files := by
  obtain ⟨record, hrecord, -, -⟩ := h.record
  obtain ⟨raw, _, hread, -, -⟩ := readJson_eq_ok.mp (loadCacheRecord_eq_ok.mp hrecord)
  obtain ⟨-, location, hlocation, hfile⟩ := readFile_eq_some.mp hread
  obtain rfl := Option.some.inj (hlocation.symm.trans (locate_join plain_cacheRecordName))
  intro hnone
  exact absurd (hfile.symm.trans hnone) (by simp)

omit [DecidableEq D] in
theorem present_of_pathExists {base name : String} (hname : Plain name)
    (h : pathExists host env files (join base name) = true) :
    Present ⟨host.dirOf (components base), name⟩ files := by
  unfold pathExists at h
  rw [locate_join hname, Option.bind_some, Bool.and_eq_true, Option.isSome_iff_ne_none] at h
  exact h.2

/-- The proof lane makes its entry record where its adapter record is. -/
theorem climbs_m2 {planPath evidence : String} {mutationAck dryRun : Bool} {entry : Entry}
    (h : (executeM2AdapterDryRun host env planPath evidence mutationAck dryRun).Occurs files before
      event) (hmade : event.made = some (⟨dir, entryRecordName⟩, entry)) :
    GoesThrough host evidence ⟨dir, entryRecordName⟩ ∨
      Present ⟨dir, adapterRecordName⟩ (replay files before) := by
  have other : ∀ {name : String}, entryRecordName ≠ name →
      GoesThrough host evidence ⟨dir, entryRecordName⟩ ∨ entryRecordName = name →
      GoesThrough host evidence ⟨dir, entryRecordName⟩ ∨
        Present ⟨dir, adapterRecordName⟩ (replay files before) :=
    fun hne h => .inl (h.resolve_right hne)
  unfold executeM2AdapterDryRun at h
  obtain h | ⟨-, h⟩ := occurs_refuseUnless_bind h
  · exact other (by decide) (h.made hmade)
  obtain h | ⟨-, h⟩ := occurs_refuseUnless_bind h
  · exact other (by decide) (h.made hmade)
  rw [Act.occurs_get_bind] at h
  obtain ⟨plan, -, h⟩ := Act.occurs_except_bind.mp h
  rcases Act.occurs_bind.mp h with h | ⟨_, log, _, -, hbefore, h⟩
  · exact .inl ((occurs_createDirAll h).goesThrough List.prefix_rfl hmade)
  rcases Act.occurs_bind.mp h with h | ⟨_, log', rest, hadapter, hrest, h⟩
  · exact other (by decide) ((occurs_writeRecord plain_adapterRecordName h).made
      plain_adapterRecordName hmade)
  rcases Act.occurs_bind.mp h with h | ⟨_, _, _, -, -, h⟩
  · obtain hdir | hwrite := occurs_writeRecord plain_entryRecordName h
    · exact .inl (hdir.goesThrough List.prefix_rfl hmade)
    -- The adapter record of this very invocation is there by now.
    · have hplace := hwrite.place_eq plain_entryRecordName hmade
      obtain rfl : dir = host.dirOf (components evidence) := congrArg Location.dir hplace
      have hthere := present_of_writeJson plain_adapterRecordName hadapter
      rw [hbefore, hrest, replay_append, replay_append]
      exact .inr (properly_writeJson.before (fun _ _ hproper => hproper.keeps_present) h hthere)
  · obtain ⟨-, rfl⟩ := Act.occurs_emit.mp h
    exact absurd hmade (by simp [Event.made])

/-- **Every invocation climbs**, unless it is told to write to the records themselves. -/
theorem climbs_main {command : Commands} (hspared : Spared host dir command) :
    Act.GuardedFrom (Climbs dir) files (main host env command) := by
  intro before event h rung hrung entry hmade
  have spared : ∀ {path : String}, path ∈ command.writtenPaths →
      ¬ GoesThrough host path ⟨dir, rung.1⟩ := fun hpath => hspared rung hrung _ hpath
  have hthere : ∀ {place : Location D}, Present place files → Present place (replay files before) :=
    present_before h
  cases command with
  | plan args =>
    obtain ⟨_, -, ⟨out, hout, h⟩ | ⟨_, rfl⟩⟩ := occurs_runPlan h
    · have hpath : out ∈ (Commands.plan args).writtenPaths := by
        simpa [Commands.writtenPaths] using hout
      obtain h | h := h
      · exact absurd (h.goesThrough (List.dropLast_prefix _) hmade) (spared hpath)
      · exact absurd (h.goesThrough hmade) (spared hpath)
    · exact absurd hmade (by simp [Event.made])
  | fetch args =>
    obtain ⟨-, _, hpath, hgoes⟩ | hname := (occurs_fetchArtifacts h).made hmade
    · exact absurd hgoes (spared hpath)
    · have hnot : ∀ rung ∈ rungs, ¬ FetchName rung.1 := by
        intro rung hrung
        have hfacts : ∀ rung ∈ rungs, rung.1 ≠ cacheRecordName ∧
            ∀ kind ∈ artifactKinds, kind.toList.take 1 ≠ rung.1.toList.take 1 := by decide
        exact not_fetchName (hfacts rung hrung).1 (hfacts rung hrung).2
      exact absurd hname (hnot rung hrung)
  | execute args =>
    have hgoes : ¬ GoesThrough host args.evidence ⟨dir, rung.1⟩ :=
      spared (List.mem_singleton_self _)
    -- Every other document of the directory has a name that asks for nothing.
    have other : ∀ {name : String} {P : Prop}, (∀ rung ∈ rungs, rung.1 ≠ name) →
        GoesThrough host args.evidence ⟨dir, rung.1⟩ ∨ rung.1 = name → P :=
      fun hne h => absurd (h.resolve_left hgoes) (hne rung hrung)
    have refused : RefusalEvent host env args.evidence event →
        Present ⟨dir, rung.2⟩ (replay files before) :=
      fun h => other (by decide) (h.made hmade)
    obtain hr | ⟨-, hm⟩ | ⟨-, ⟨-, -, hl⟩ | ⟨-, -, he⟩⟩ := occurs_runExecute h
    · exact refused hr
    · obtain hr | ⟨_, ha | hentry⟩ | ⟨_, rfl⟩ := occurs_m2 hm
      · exact refused hr
      · exact other (by decide) (ha.made plain_adapterRecordName hmade)
      · have hname := (hentry.made plain_entryRecordName hmade).resolve_left hgoes
        have hrung' : rung = (entryRecordName, adapterRecordName) := by
          have hfacts : ∀ rung ∈ rungs, rung.1 = entryRecordName →
              rung = (entryRecordName, adapterRecordName) := by decide
          exact hfacts rung hrung hname
        subst hrung'
        exact (climbs_m2 hm hmade).resolve_left hgoes
      · exact absurd hmade (by simp [Event.made])
    · obtain hr | ⟨_, _, _, hready, hevent⟩ := occurs_loadOnly hl
      · exact refused hr
      obtain ⟨hplace, -⟩ := (hevent.made plain_preExecProofName hmade).resolve_left hgoes
      have hrung' : rung = (preExecProofName, cacheRecordName) := by
        have hfacts : ∀ rung ∈ rungs, rung.1 = preExecProofName →
            rung = (preExecProofName, cacheRecordName) := by decide
        exact hfacts rung hrung (congrArg Location.name hplace)
      obtain rfl : dir = host.dirOf (components args.evidence) := congrArg Location.dir hplace
      subst hrung'
      exact hthere hready.verified.present
    · obtain hr | ⟨_, _, _, -, -, hexists, hevent⟩ := occurs_exec he
      · exact refused hr
      obtain ⟨hplace, -⟩ := (hevent.made plain_execProofName hmade).resolve_left hgoes
      have hrung' : rung = (execProofName, preExecProofName) := by
        have hfacts : ∀ rung ∈ rungs, rung.1 = execProofName →
            rung = (execProofName, preExecProofName) := by decide
        exact hfacts rung hrung (congrArg Location.name hplace)
      obtain rfl : dir = host.dirOf (components args.evidence) := congrArg Location.dir hplace
      subst hrung'
      exact hthere (present_of_pathExists plain_preExecProofName hexists)

/-- **The order of the evidence.** From a directory in which it holds, an empty one among them, it
holds after every run of invocations that are told no path to the records themselves, wherever each
of them ends or is killed. -/
theorem ladder_kept (host : Host N K D) {dir : D} {start : Files D}
    {run : List (Invocation D × Nat)} (hstart : Ladder dir start)
    (hspared : ∀ step ∈ run, Spared host dir step.1.command) :
    Ladder dir (afterKills host start run) := by
  refine Act.invariant_runKilled (G := fun files event => Proper files event ∧
    Climbs dir files event) (fun _ _ h => Ladder.step h.1 h.2) (fun x hx files _ => ?_) hstart
  obtain ⟨step, hstep, rfl⟩ := List.mem_map.mp hx
  exact guarded_main.and (climbs_main (hspared step hstep))

/-- A fetch, a dry run of the load-only phase and an exec that is killed before its command. -/
def killedRun : List (Invocation (List String) × Nat) :=
  [(fetchInvocation, 6), (dryLoadInvocation, 2), (realExecInvocation, 1)]

/-- The order holds after it. -/
theorem ladder_killedRun : Ladder ["srv", "evidence"] fetchFiles ∧
    (∀ step ∈ killedRun,
      Spared (lexicalHost fetchLibrary) ["srv", "evidence"] step.1.command) ∧
    Ladder ["srv", "evidence"] (afterKills (lexicalHost fetchLibrary) fetchFiles killedRun) := by
  have hstart : Ladder ["srv", "evidence"] fetchFiles :=
    fun rung _ hthere => absurd (evidence_fetchFiles rung.1) hthere
  have hpaths : ∀ step ∈ killedRun, ∀ path ∈ step.1.command.writtenPaths, Plain path := by decide
  have hspared : ∀ step ∈ killedRun,
      Spared (lexicalHost fetchLibrary) ["srv", "evidence"] step.1.command := by
    intro step hstep rung _ path hpath hgoes
    exact absurd (congrArg Location.dir (goesThrough_srv (hpaths step hstep path hpath) hgoes))
      (show ["srv", "evidence"] ≠ ["srv"] by decide)
  exact ⟨hstart, hspared, ladder_kept (lexicalHost fetchLibrary) hstart hspared⟩

end Nlboot.Client
