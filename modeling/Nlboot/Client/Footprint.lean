import Nlboot.Client.CacheNames
import Nlboot.Client.TwoPhase
import Nlboot.Lib.Killed

/-!
# What the client leaves alone

Everything `rust/nlboot-client/src/main.rs` does to the file system, over any run of invocations,
each of which may be killed between two of its calls. It makes directories where nothing is and
writes files where no directory is, and both only where its arguments say: a name of its own in the
cache or in the evidence directory, or a path it was told to write to. It deletes nothing.

* `Proper`: a directory is made where nothing is, a file is written where no directory is.
* `guarded_main`: every invocation is proper.
* `Commands.MayMake`: what an invocation may make, and of which places.
* `afterKills`: the files after a run of invocations that may be killed.

Results:
* `mayMake_of_occurs`: an invocation makes nothing else.
* **`footprint`**: what a run leaves alone, and what it cannot take away.
-/

namespace Nlboot.Client

open Nlboot.Lib Nlboot.Lib.Path

variable {N K D : Type} [DecidableEq D] {host : Host N K D} {env : Env D} {files : Files D}
  {before : List (Event D)} {event : Event D} {place : Location D} {entry : Entry}

/-! ## Nothing is replaced by something else -/

/-- A directory is made where nothing is, and a file is written where no directory is. -/
structure Proper (files : Files D) (event : Event D) : Prop where
  mkdir : NewDir files event
  write : ∀ location bytes, event = .write location bytes → files location ≠ some .dir

omit [DecidableEq D] in
theorem proper_print {text : List Char} : Proper files (.print text) :=
  ⟨fun _ h => absurd h (by simp), fun _ _ h => absurd h (by simp)⟩

omit [DecidableEq D] in
theorem proper_kexec {command : List String} : Proper files (.kexec command) :=
  ⟨fun _ h => absurd h (by simp), fun _ _ h => absurd h (by simp)⟩

omit [DecidableEq D] in
theorem proper_write {location : Location D} {bytes : List UInt8}
    (h : files location ≠ some .dir) : Proper files (.write location bytes) := by
  refine ⟨newDir_write, fun other _ heq => ?_⟩
  obtain ⟨rfl, -⟩ := Event.write.inj heq
  exact h

theorem properly_makeDirs {error : String} {dirs : List (List Component)} :
    Act.GuardedFrom Proper files (makeDirs host env error dirs) := by
  intro before event h
  refine ⟨guarded_makeDirs before event h, fun location bytes heq => ?_⟩
  obtain ⟨_, -, _, -, rfl⟩ := occurs_makeDirs h
  exact absurd heq (by simp)

theorem properly_createParent {path : String} :
    Act.GuardedFrom Proper files (createParent host env path) := by
  unfold createParent
  cases parent path with
  | some dir => exact properly_makeDirs
  | none => exact Act.guarded_pure

theorem properly_writeFile {path error : String} {bytes : List UInt8} :
    Act.GuardedFrom Proper files (writeFile host env path bytes error) := by
  refine Act.guarded_get_bind (Act.guarded_except_bind fun _ _ =>
    Act.guarded_except_bind fun location _ => Act.guarded_except_bind fun _ hentry => ?_)
  rw [check_eq_ok] at hentry
  cases env.writes location with
  | done => exact Act.guarded_emit (proper_write hentry)
  | refused => exact Act.guarded_fail
  | broken n =>
    exact Act.guarded_bind (Act.guarded_emit (proper_write hentry)) fun _ _ _ => Act.guarded_fail

theorem properly_writeJson {path : String} {value : Json N} :
    Act.GuardedFrom Proper files (writeJson host env path value) :=
  Act.guarded_bind properly_createParent fun _ _ _ => properly_writeFile

theorem properly_println {text : List Char} :
    Act.GuardedFrom Proper files (println text : Proc D Unit) :=
  Act.guarded_emit proper_print

theorem properly_invokeKexec {args : List String} {what : String} :
    Act.GuardedFrom Proper files (invokeKexec env args what) := by
  refine Act.guarded_bind (Act.guarded_emit proper_kexec) fun _ _ _ => ?_
  split
  · exact Act.guarded_fail
  · exact Act.guarded_pure
  · exact Act.guarded_fail

theorem properly_fetchAll {artifactMap : ArtifactMap} {artifactMapPath cache : String} :
    ∀ {artifacts : List (String × String)} {files : Files D},
      Act.GuardedFrom Proper files (fetchAll host env artifactMap artifactMapPath cache artifacts)
  | [], _ => Act.guarded_pure
  | _ :: _, _ => by
    refine Act.guarded_bind ?_ fun _ _ _ => Act.guarded_bind properly_fetchAll fun _ _ _ =>
      Act.guarded_pure
    refine Act.guarded_except_bind fun _ _ => Act.guarded_except_bind fun _ _ =>
      Act.guarded_except_bind fun _ _ => Act.guarded_get_bind (Act.guarded_except_bind fun _ _ =>
        Act.guarded_except_bind fun _ _ => Act.guarded_except_bind fun _ _ =>
          Act.guarded_bind properly_writeFile fun _ _ _ => Act.guarded_pure)

theorem properly_fetchArtifacts {planPath artifactMapPath cache evidence : String} :
    Act.GuardedFrom Proper files
      (fetchArtifacts host env planPath artifactMapPath cache evidence) :=
  Act.guarded_get_bind (Act.guarded_except_bind fun _ _ => Act.guarded_except_bind fun _ _ =>
    Act.guarded_bind properly_makeDirs fun _ _ _ => Act.guarded_bind properly_makeDirs fun _ _ _ =>
      Act.guarded_bind properly_fetchAll fun _ _ _ =>
        Act.guarded_bind properly_writeJson fun _ _ _ => properly_println)

theorem properly_refuse {α : Type} {evidence reason message : String} :
    Act.GuardedFrom Proper files (refuse host env evidence reason message : Proc D α) :=
  Act.guarded_bind (Act.guarded_bind (Act.guarded_ignore.mpr properly_makeDirs) fun _ _ _ =>
    Act.guarded_ignore.mpr properly_writeFile) fun _ _ _ => Act.guarded_fail

theorem properly_refuseUnless {evidence reason message : String} {c : Prop} [Decidable c] :
    Act.GuardedFrom Proper files (refuseUnless host env evidence c reason message) := by
  unfold refuseUnless
  split
  · exact Act.guarded_pure
  · exact properly_refuse

theorem properly_loadOnly {planPath cache evidence : String} {mutationAck dryRun : Bool} :
    Act.GuardedFrom Proper files
      (executeLinuxKexecLoadOnly host env planPath cache evidence mutationAck dryRun) := by
  refine Act.guarded_bind properly_refuseUnless fun _ _ _ =>
    Act.guarded_bind properly_refuseUnless fun _ _ _ => Act.guarded_get_bind
      (Act.guarded_except_bind fun _ _ => Act.guarded_except_bind fun _ _ =>
        Act.guarded_bind properly_writeJson fun _ _ _ => ?_)
  split
  · exact properly_println
  · exact Act.guarded_bind properly_invokeKexec fun _ _ _ => properly_println

theorem properly_exec {planPath cache evidence : String} {mutationAck rebootAck dryRun : Bool} :
    Act.GuardedFrom Proper files
      (executeLinuxKexecExec host env planPath cache evidence mutationAck rebootAck dryRun) := by
  refine Act.guarded_bind properly_refuseUnless fun _ _ _ =>
    Act.guarded_bind properly_refuseUnless fun _ _ _ =>
      Act.guarded_bind properly_refuseUnless fun _ _ _ => Act.guarded_get_bind
        (Act.guarded_except_bind fun _ _ => Act.guarded_except_bind fun _ _ =>
          Act.guarded_bind properly_refuseUnless fun _ _ _ =>
            Act.guarded_bind properly_writeJson fun _ _ _ => ?_)
  split
  · exact properly_println
  · exact properly_invokeKexec

theorem properly_m2 {planPath evidence : String} {mutationAck dryRun : Bool} :
    Act.GuardedFrom Proper files
      (executeM2AdapterDryRun host env planPath evidence mutationAck dryRun) :=
  Act.guarded_bind properly_refuseUnless fun _ _ _ =>
    Act.guarded_bind properly_refuseUnless fun _ _ _ => Act.guarded_get_bind
      (Act.guarded_except_bind fun _ _ => Act.guarded_bind properly_makeDirs fun _ _ _ =>
        Act.guarded_bind properly_writeJson fun _ _ _ =>
          Act.guarded_bind properly_writeJson fun _ _ _ => properly_println)

theorem properly_runExecute {args : ExecuteArgs} :
    Act.GuardedFrom Proper files (runExecute host env args) := by
  unfold runExecute
  split_ifs
  · exact properly_refuse
  · exact properly_refuse
  · exact properly_m2
  · exact properly_refuse
  · exact properly_loadOnly
  · exact properly_exec
  · exact properly_refuse
  · exact properly_refuse

theorem properly_runPlan {args : PlanArgs} :
    Act.GuardedFrom Proper files (runPlan host env args) := by
  refine Act.guarded_get_bind (Act.guarded_except_bind fun _ _ => Act.guarded_bind ?_ fun _ _ _ =>
    properly_println)
  cases args.out with
  | some out => exact properly_writeJson
  | none => exact Act.guarded_pure

/-- **Every invocation is proper.** -/
theorem guarded_main {command : Commands} :
    Act.GuardedFrom Proper files (main host env command) := by
  cases command with
  | plan args => exact properly_runPlan
  | fetch args => exact properly_fetchArtifacts
  | execute args => exact properly_runExecute

/-- A proper event leaves directories and files what they are. -/
theorem Proper.keeps_dir (h : Proper files event) (hdir : files place = some .dir) :
    Replay.apply files event place = some .dir := by
  rw [apply_of_made, hdir]
  intro entry hmade
  cases event with
  | mkdir location =>
    obtain ⟨rfl, -⟩ := Prod.mk.inj (Option.some.inj hmade)
    exact absurd (hdir.symm.trans (h.mkdir _ rfl)) (by simp)
  | write location bytes =>
    obtain ⟨rfl, -⟩ := Prod.mk.inj (Option.some.inj hmade)
    exact h.write _ _ rfl hdir
  | print text => exact absurd hmade (by simp [Event.made])
  | kexec command => exact absurd hmade (by simp [Event.made])

theorem Proper.keeps_file (h : Proper files event)
    (hfile : ∃ bytes, files place = some (.file bytes)) :
    ∃ bytes, Replay.apply files event place = some (.file bytes) := by
  obtain ⟨bytes, hfile⟩ := hfile
  have hany : ∃ bytes, files place = some (.file bytes) ∧ True := ⟨bytes, hfile, trivial⟩
  obtain ⟨bytes', hfile', -⟩ := file_kept h.mkdir (fun _ _ => trivial) hany
  exact ⟨bytes', hfile'⟩

/-- What is there stays there. -/
theorem Proper.keeps_present (h : Proper files event) (hthere : Present place files) :
    Present place (Replay.apply files event) := by
  unfold Present at hthere ⊢
  cases hentry : files place with
  | none => exact absurd hentry hthere
  | some entry =>
    cases entry with
    | dir => rw [h.keeps_dir hentry]; simp
    | file bytes =>
      obtain ⟨bytes', hfile⟩ := h.keeps_file ⟨bytes, hentry⟩
      rw [hfile]
      simp

/-! ## Where something is made -/

/-- The directories an invocation makes. -/
def Commands.madeDirs : Commands → List (List Component)
  | .plan args => args.out.toList.map fun out => (components out).dropLast
  | .fetch args => [components args.cache, components args.evidence]
  | .execute args => [components args.evidence]

/-- What an invocation may make, and of which places: the directories its paths lead through, the
file it was told to write, and files under names of its own in the cache and in the evidence
directory. -/
inductive Commands.MayMake (host : Host N K D) : Commands → Location D → Entry → Prop where
  | dir {command : Commands} {path dir : List Component} {place : Location D}
      (hpath : path ∈ command.madeDirs) (hdir : dir <+: path)
      (hplace : locate host dir = some place) : MayMake host command place .dir
  | planned {args : PlanArgs} {out : String} {place : Location D} (hout : out ∈ args.out)
      (hplace : locate host (components out) = some place) (bytes : List UInt8) :
      MayMake host (.plan args) place (.file bytes)
  | cached {args : FetchArgs} {kind : String} (hkind : kind ∈ artifactKinds) (sha256 : String)
      (bytes : List UInt8) : MayMake host (.fetch args)
        ⟨host.dirOf (components args.cache), cacheName kind sha256⟩ (.file bytes)
  | fetched {args : FetchArgs} (bytes : List UInt8) :
      MayMake host (.fetch args) (recordPlace host args.evidence) (.file bytes)
  | executed {args : ExecuteArgs} {name : String} (hname : name ∈ recordNames)
      (bytes : List UInt8) : MayMake host (.execute args)
        ⟨host.dirOf (components args.evidence), name⟩ (.file bytes)

omit [DecidableEq D] in
theorem MakesDir.mayMake {command : Commands} {path : List Component}
    (hpath : path ∈ command.madeDirs) (h : MakesDir host path event)
    (hmade : event.made = some (place, entry)) : command.MayMake host place entry := by
  obtain ⟨dir, hdir, location, hlocation, rfl⟩ := h
  obtain ⟨rfl, rfl⟩ := Prod.mk.inj (Option.some.inj hmade)
  exact .dir hpath hdir hlocation

omit [DecidableEq D] in
/-- A file that is written under a plain name. -/
theorem WritesFile.made {base name : String} {bytes : List UInt8} (hname : Plain name)
    (h : WritesFile host env (join base name) bytes event)
    (hmade : event.made = some (place, entry)) :
    place = ⟨host.dirOf (components base), name⟩ ∧ ∃ bytes', entry = .file bytes' := by
  obtain ⟨location, hlocation, rfl⟩ := h
  obtain ⟨rfl, rfl⟩ := eq_of_made_write hmade
  exact ⟨Option.some.inj (hlocation.symm.trans (locate_join hname)), _, rfl⟩

omit [DecidableEq D] in
theorem FetchEvent.mayMake {args : FetchArgs}
    (h : FetchEvent host env args.cache args.evidence event)
    (hmade : event.made = some (place, entry)) :
    (Commands.fetch args).MayMake host place entry := by
  obtain ⟨h | h⟩ | ⟨kind, hkind, bytes, h⟩ | ⟨value, h⟩ | text := h
  · exact h.mayMake (by simp [Commands.madeDirs]) hmade
  · exact h.mayMake (by simp [Commands.madeDirs]) hmade
  · rw [sha256Hex] at h
    obtain ⟨rfl, bytes', rfl⟩ := h.made (plain_cacheName hkind _) hmade
    exact .cached hkind _ bytes'
  · obtain ⟨rfl, bytes', rfl⟩ := h.made plain_cacheRecordName hmade
    exact .fetched bytes'
  · exact absurd hmade (by simp [Event.made])

section

variable {args : ExecuteArgs} {name : String}

omit [DecidableEq D] in
theorem WritesFile.mayMake {bytes : List UInt8} (hname : name ∈ recordNames)
    (hplain : Plain name) (h : WritesFile host env (join args.evidence name) bytes event)
    (hmade : event.made = some (place, entry)) :
    (Commands.execute args).MayMake host place entry := by
  obtain ⟨rfl, bytes', rfl⟩ := h.made hplain hmade
  exact .executed hname bytes'

omit [DecidableEq D] in
theorem RefusalEvent.mayMake (h : RefusalEvent host env args.evidence event)
    (hmade : event.made = some (place, entry)) :
    (Commands.execute args).MayMake host place entry := by
  obtain h | ⟨_, h⟩ := h
  · exact h.mayMake (List.mem_singleton_self _) hmade
  · exact h.mayMake (by simp [recordNames]) plain_refusalRecordName hmade

omit [DecidableEq D] in
theorem RecordEvent.mayMake {value : Json N} (hname : name ∈ recordNames) (hplain : Plain name)
    (h : RecordEvent host env args.evidence name value event)
    (hmade : event.made = some (place, entry)) :
    (Commands.execute args).MayMake host place entry := by
  obtain h | h := h
  · exact h.mayMake (List.mem_singleton_self _) hmade
  · exact h.mayMake hname hplain hmade

theorem HandoffEvent.mayMake {proof : Json N} {dryRun : Bool} {command : List String}
    (hname : name ∈ recordNames) (hplain : Plain name)
    (h : HandoffEvent host env files args.evidence name proof dryRun command before event)
    (hmade : event.made = some (place, entry)) :
    (Commands.execute args).MayMake host place entry := by
  cases h with
  | record h => exact h.mayMake hname hplain hmade
  | print text => exact absurd hmade (by simp [Event.made])
  | kexec hreal hwritten => exact absurd hmade (by simp [Event.made])

end

/-- **An invocation makes only what it may.** -/
theorem mayMake_of_occurs {command : Commands}
    (h : (main host env command).Occurs files before event)
    (hmade : event.made = some (place, entry)) : command.MayMake host place entry := by
  cases command with
  | plan args =>
    obtain ⟨_, -, ⟨out, hout, h⟩ | ⟨_, rfl⟩⟩ := occurs_runPlan h
    · obtain h | h := h
      · have hpath : (components out).dropLast ∈ (Commands.plan args).madeDirs :=
          List.mem_map.mpr ⟨out, by simpa using hout, rfl⟩
        exact h.mayMake hpath hmade
      · obtain ⟨location, hlocation, rfl⟩ := h
        obtain ⟨rfl, rfl⟩ := eq_of_made_write hmade
        exact .planned hout hlocation _
    · exact absurd hmade (by simp [Event.made])
  | fetch args => exact (occurs_fetchArtifacts h).mayMake hmade
  | execute args =>
    obtain h | ⟨-, h⟩ | ⟨-, ⟨-, -, h⟩ | ⟨-, -, h⟩⟩ := occurs_runExecute h
    · exact h.mayMake hmade
    · obtain h | ⟨_, h | h⟩ | ⟨_, rfl⟩ := occurs_m2 h
      · exact h.mayMake hmade
      · exact h.mayMake (by simp [recordNames]) plain_adapterRecordName hmade
      · exact h.mayMake (by simp [recordNames]) plain_entryRecordName hmade
      · exact absurd hmade (by simp [Event.made])
    · obtain h | ⟨_, _, _, -, h⟩ := occurs_loadOnly h
      · exact h.mayMake hmade
      · exact h.mayMake (by simp [recordNames]) plain_preExecProofName hmade
    · obtain h | ⟨_, _, _, -, -, -, h⟩ := occurs_exec h
      · exact h.mayMake hmade
      · exact h.mayMake (by simp [recordNames]) plain_execProofName hmade

/-! ## Runs in which invocations are killed -/

/-- The files after a run of invocations, each killed after that many of its events. -/
def afterKills (host : Host N K D) (start : Files D) (run : List (Invocation D × Nat)) : Files D :=
  Act.runKilled start (run.map fun step => (step.1.proc host, step.2))

@[simp] theorem afterKills_nil {start : Files D} : afterKills host start [] = start := rfl

/-- What proper events keep, a run keeps. -/
theorem afterKills_invariant {I : Files D → Prop}
    (hkeeps : ∀ files event, Proper files event → I files → I (Replay.apply files event))
    {start : Files D} {run : List (Invocation D × Nat)} (hstart : I start) :
    I (afterKills host start run) := by
  refine Act.invariant_runKilled hkeeps (fun x hx _ _ => ?_) hstart
  obtain ⟨step, -, rfl⟩ := List.mem_map.mp hx
  exact guarded_main

/-- **What a run changed** was changed by an event of one of its invocations. -/
theorem exists_occurs_of_afterKills {P : Files D → Prop} {start : Files D}
    {run : List (Invocation D × Nat)} (h₀ : ¬ P start) (h : P (afterKills host start run)) :
    ∃ earlier step later before event, run = earlier ++ step :: later ∧
      (step.1.proc host).Occurs (afterKills host start earlier) before event ∧
      ¬ P (replay (afterKills host start earlier) before) ∧
      P (Replay.apply (replay (afterKills host start earlier) before) event) := by
  obtain ⟨procs, proc, procs', before, event, hsplit, hoccurs, hnone, hsome⟩ :=
    Act.exists_occurs_of_changed_killed h₀ h
  obtain ⟨earlier, tail, rfl, rfl, htail⟩ := List.map_eq_append_iff.mp hsplit
  obtain ⟨step, later, rfl, rfl, rfl⟩ := List.map_eq_cons_iff.mp htail
  exact ⟨earlier, step, later, before, event, rfl, hoccurs, hnone, hsome⟩

/-- A place none of the invocations may make anything of keeps what it holds. -/
theorem afterKills_unmade {start : Files D} {run : List (Invocation D × Nat)}
    (hfree : ∀ step ∈ run, ∀ entry, ¬ step.1.command.MayMake host place entry) :
    afterKills host start run place = start place := by
  by_contra hchanged
  obtain ⟨earlier, step, later, before, event, rfl, hoccurs, hsame, hother⟩ :=
    exists_occurs_of_afterKills (P := fun files => files place ≠ start place) (by simp) hchanged
  refine hother ?_
  rw [apply_of_made fun entry hmade => ?_]
  · exact not_not.mp hsame
  · exact hfree step (by simp) entry (mayMake_of_occurs hoccurs hmade)

theorem afterKills_dir {start : Files D} {run : List (Invocation D × Nat)}
    (hdir : start place = some .dir) : afterKills host start run place = some .dir :=
  afterKills_invariant (I := fun files => files place = some .dir)
    (fun _ _ hproper => hproper.keeps_dir) hdir

/-- No directory comes to be where none of the invocations may make one. -/
theorem afterKills_ne_dir {start : Files D} {run : List (Invocation D × Nat)}
    (hfree : ∀ step ∈ run, ¬ step.1.command.MayMake host place .dir)
    (hdir : start place ≠ some .dir) : afterKills host start run place ≠ some .dir := by
  intro hchanged
  obtain ⟨earlier, step, later, before, event, rfl, hoccurs, hnone, hsome⟩ :=
    exists_occurs_of_afterKills (P := fun files => files place = some .dir) hdir hchanged
  by_cases hmade : ∃ entry, event.made = some (place, entry)
  · obtain ⟨entry, hmade⟩ := hmade
    rw [apply_made hmade] at hsome
    obtain rfl := Option.some.inj hsome
    exact hfree step (by simp) (mayMake_of_occurs hoccurs hmade)
  · rw [apply_of_made fun entry hentry => hmade ⟨entry, hentry⟩] at hsome
    exact hnone hsome

/-- **The footprint of a run.** However its invocations end or are killed, a place none of them may
make anything of keeps what it holds, a place none of them may make a directory of becomes none, a
directory stays a directory and a file stays a file. -/
theorem footprint (host : Host N K D) (start : Files D) (run : List (Invocation D × Nat))
    (place : Location D) :
    ((∀ step ∈ run, ∀ entry, ¬ step.1.command.MayMake host place entry) →
        afterKills host start run place = start place) ∧
      ((∀ step ∈ run, ¬ step.1.command.MayMake host place .dir) → start place ≠ some .dir →
        afterKills host start run place ≠ some .dir) ∧
      (start place = some .dir → afterKills host start run place = some .dir) ∧
      ((∃ bytes, start place = some (.file bytes)) →
        ∃ bytes, afterKills host start run place = some (.file bytes)) := by
  refine ⟨afterKills_unmade, afterKills_ne_dir, afterKills_dir, fun hfile => ?_⟩
  exact afterKills_invariant (I := fun files => ∃ bytes, files place = some (.file bytes))
    (fun _ _ hproper => hproper.keeps_file) hfile

end Nlboot.Client
