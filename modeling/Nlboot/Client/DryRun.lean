import Nlboot.Client.Decision
import Nlboot.Lib.Lockstep

/-!
# Dry runs

A dry run of `execute --adapter linux-kexec` (`rust/nlboot-client/src/main.rs`) and the real run of
root on the same machine make the same checks and write the same evidence; where the one prints its
proof, the other runs the command.

* `SameMachine`: the file system answers both runs alike. Users, clocks and commands may differ.
* `SameBut`: the same object but for the values of some names; `Twin`: the same event, up to the
  times and the `dry_run` of what is written.
* `SameShape`: the same places with files and directories, whatever the files hold.
* `Predicts`: what a dry run says of a real one.

Results:
* `executeDecision_dryRun`: both runs come to one decision.
* `lockstep_writeJson`, `lockstep_refuse`: they write in lockstep.
* **`dryRun_predicts`**: the dry run predicts the real run.
-/

namespace Nlboot.Client

open Nlboot.Lib Nlboot.Lib.Path

variable {N K D : Type}

/-- The file system answers both invocations alike. -/
structure SameMachine (env env' : Env D) : Prop where
  readable : env'.readable = env.readable
  mkdirFails : env'.mkdirFails = env.mkdirFails
  writes : env'.writes = env.writes

/-- The same object but for the values of these names. -/
def SameBut (names : List String) (value value' : Json N) : Prop :=
  ∃ members members' : Members N, value = .obj members ∧ value' = .obj members' ∧
    List.Forall₂ (fun m m' => m.1 = m'.1 ∧ (m.1 ∈ names ∨ m.2 = m'.2)) members members'

/-- The members of a record that may differ: a refusal has no `dry_run`. -/
def volatile (name : String) : List String :=
  if name = refusalRecordName then ["created_at"] else ["created_at", "dry_run"]

/-- The same event in two runs: a document may differ in its volatile members. -/
inductive Twin (host : Host N K D) (env env' : Env D) : Event D → Event D → Prop
  | mkdir (place : Location D) : Twin host env env' (.mkdir place) (.mkdir place)
  | write (place : Location D) (value value' : Json N)
      (h : SameBut (volatile place.name) value value') :
      Twin host env env' (.write place (kept env place (jsonBytes host value)))
        (.write place (kept env' place (jsonBytes host value')))

/-- The event changes the files. -/
def Event.changes (event : Event D) : Bool := event.made.isSome

/-- What a dry run says of the real run: it succeeds iff the real run reaches its command; both make
the same directories and documents; the command is the one on record in the dry run; and what ends
one of them before the command ends the other. -/
structure Predicts (host : Host N K D) (env env' : Env D)
    (dry real : Except String Unit × List (Event D)) : Prop where
  reaches : dry.1 = .ok () ↔ ∃ command, .kexec command ∈ real.2
  evidence : List.Forall₂ (Twin host env env') (dry.2.filter Event.changes)
    (real.2.filter Event.changes)
  command : ∀ command, .kexec command ∈ real.2 → ∃ place proof,
    .write place (jsonBytes host proof) ∈ dry.2 ∧
      valueGet proof "command" = some (.arr (command.map .str))
  refuses : ∀ e, dry.1 = .error e ↔ real.1 = .error e ∧ ∀ command, .kexec command ∉ real.2

/-! ## Records -/

/-- Records of the same names differ where their members do. -/
theorem sameBut_jsonObject {names : List String} {members members' : Members N}
    (hnames : (members.map Prod.fst).Nodup)
    (h : List.Forall₂ (fun m m' => m.1 = m'.1 ∧ (m.1 ∈ names ∨ m.2 = m'.2)) members members') :
    SameBut names (jsonObject members) (jsonObject members') := by
  have hsame : members.map Prod.fst = members'.map Prod.fst :=
    map_eq_of_forall₂ h fun _ _ _ _ hm => hm.1
  refine ⟨btreeMap members, btreeMap members', rfl, rfl, ?_⟩
  show List.Forall₂ _ (sortByKey rustLe (collectMap members))
    (sortByKey rustLe (collectMap members'))
  rw [collectMap_of_nodup hnames, collectMap_of_nodup (hsame ▸ hnames)]
  exact forall₂_sortByKey (fun _ _ hm => hm.1) h

/-- The records of a refusal differ in their times. -/
theorem sameBut_refusalRecord (host : Host N K D) (env env' : Env D) (reason : String) :
    SameBut (volatile refusalRecordName) (refusalRecord host env reason)
      (refusalRecord host env' reason) := by
  have hvolatile : volatile refusalRecordName = ["created_at"] := if_pos rfl
  rw [hvolatile]
  refine sameBut_jsonObject (show ["ok", "kind", "created_at", "reason"].Nodup by decide) ?_
  simp

/-- The proofs of a handoff differ in their times and in `dry_run`. -/
theorem sameBut_handoffProof (host : Host N K D) (env env' : Env D) {name : String}
    (hname : name ≠ refusalRecordName) (kind mode : String) (plan : BootPlan)
    (dryRun dryRun' : Bool)
    (command : List String) (executeExec : Bool) :
    SameBut (volatile name) (handoffProof host env kind mode plan dryRun command executeExec)
      (handoffProof host env' kind mode plan dryRun' command executeExec) := by
  have hvolatile : volatile name = ["created_at", "dry_run"] := if_neg hname
  have hnodup : ["ok", "kind", "created_at", "adapter", "mode", "dry_run", "plan_manifest_id",
      "boot_release_set_id", "release_set_ref", "command", "execute_exec"].Nodup := by decide
  rw [hvolatile]
  refine sameBut_jsonObject hnodup ?_
  simp

/-! ## One decision -/

section

variable {host : Host N K D} {env env' : Env D} {files : Files D}

theorem verifyCachedKernelInitrd_env (h : SameMachine env env') (cache evidence : String) :
    verifyCachedKernelInitrd host env' files cache evidence =
      verifyCachedKernelInitrd host env files cache evidence := by
  unfold verifyCachedKernelInitrd loadCacheRecord verifyCached
  simp only [readJson_env h.readable, readFile_env h.readable]

/-- **One decision**: the dry run and the real run of root check the same. -/
theorem executeDecision_dryRun (h : SameMachine env env') (hroot : env'.euid = 0)
    {args : ExecuteArgs} (hlinux : args.adapter = "linux-kexec") :
    executeDecision host env' files { args with dryRun := false } =
      executeDecision host env files { args with dryRun := true } := by
  have hm2 : args.adapter ≠ "apple-silicon-m2" := by rw [hlinux]; decide
  have hgate : ∀ operation, rootGate env' false operation = rootGate env true operation := by
    intro operation
    have hreal : false = true ∨ env'.euid = 0 := .inr hroot
    have hdry : true = true ∨ env.euid = 0 := .inl rfl
    unfold rootGate gate check
    rw [if_pos hreal, if_pos hdry]
  have hexists : ∀ path, pathExists host env' files path = pathExists host env files path := by
    intro path
    unfold pathExists
    rw [h.readable]
  unfold executeDecision loadDecision execDecision
  simp only [if_neg hm2, if_pos hlinux, hgate, loadPlan_env h.readable,
    verifyCachedKernelInitrd_env h,
    hexists]

end

/-! ## Writing in lockstep -/

section

variable [DecidableEq D] {host : Host N K D} {env env' : Env D} {files files' : Files D}

/-- The entry is a directory. -/
def Entry.isDir : Entry → Bool
  | .dir => true
  | .file _ => false

/-- The same places hold files and directories. -/
def SameShape (files files' : Files D) : Prop :=
  ∀ place, (files place).map Entry.isDir = (files' place).map Entry.isDir

omit [DecidableEq D] in
theorem SameShape.dir_iff (h : SameShape files files') (place : Location D) :
    files place = some .dir ↔ files' place = some .dir := by
  have hplace := h place
  cases hl : files place with
  | none => cases hr : files' place <;> simp_all
  | some entry =>
    cases hr : files' place with
    | none => simp_all
    | some entry' => cases entry <;> cases entry' <;> simp_all [Entry.isDir]

theorem compatible_twin :
    Act.Compatible (SameShape : Files D → Files D → Prop) (Twin host env env') := by
  intro files files' event event' hshape htwin place
  cases htwin with
  | mkdir made =>
    by_cases hplace : place = made
    · subst hplace
      rw [show Replay.apply files (.mkdir place) place = some .dir from if_pos rfl,
        show Replay.apply files' (.mkdir place) place = some .dir from if_pos rfl]
    · rw [apply_of_made, apply_of_made, hshape place] <;> simp [Event.made, Ne.symm hplace]
  | write written value value' h =>
    by_cases hplace : place = written
    · subst hplace
      rw [apply_write, apply_write]
      rfl
    · rw [apply_of_made, apply_of_made, hshape place] <;> simp [Event.made, Ne.symm hplace]

theorem lockstep_makeDirs (h : SameMachine env env') (error : String) :
    ∀ dirs : List (List Component), Act.Lockstep SameShape (Twin host env env')
      (makeDirs host env error dirs) (makeDirs host env' error dirs)
  | [] => Act.lockstep_pure ()
  | dir :: dirs => by
    unfold makeDirs
    cases locate host dir with
    | none => exact lockstep_makeDirs h error dirs
    | some place =>
      refine Act.lockstep_get_bind fun files files' hshape => ?_
      have hplace := hshape place
      cases hl : files place with
      | none =>
        rw [hl] at hplace
        rw [Option.map_eq_none_iff.mp hplace.symm]
        simp only [h.mkdirFails]
        refine Act.lockstep_except_bind fun _ _ => ?_
        exact Act.lockstep_bind compatible_twin (Act.lockstep_emit (.mkdir place)) fun _ =>
          lockstep_makeDirs h error dirs
      | some entry =>
        rw [hl] at hplace
        obtain ⟨entry', hr, hkind⟩ := Option.map_eq_some_iff.mp hplace.symm
        rw [hr]
        cases entry with
        | dir =>
          cases entry' with
          | dir => exact lockstep_makeDirs h error dirs
          | file bytes => exact absurd hkind (by simp [Entry.isDir])
        | file bytes =>
          cases entry' with
          | dir => exact absurd hkind (by simp [Entry.isDir])
          | file bytes' => exact Act.lockstep_fail error

omit [DecidableEq D] in
theorem parentExists_of_sameShape (h : SameShape files files') (path : List Component) :
    parentExists host files path = parentExists host files' path := by
  unfold parentExists
  cases locate host path.dropLast with
  | none => rfl
  | some place => exact decide_eq_decide.mpr (h.dir_iff place)

/-- A document is written in lockstep. -/
theorem lockstep_writeFile (h : SameMachine env env') {base name : String} (hname : Plain name)
    {value value' : Json N} (hsame : SameBut (volatile name) value value') (error : String) :
    Act.Lockstep SameShape (Twin host env env')
      (writeFile host env (join base name) (jsonBytes host value) error)
      (writeFile host env' (join base name) (jsonBytes host value') error) := by
  unfold writeFile
  refine Act.lockstep_get_bind fun files files' hshape => ?_
  rw [parentExists_of_sameShape hshape]
  refine Act.lockstep_except_bind fun _ _ => Act.lockstep_except_bind fun place hplace => ?_
  obtain rfl := Option.some.inj ((locate_join hname).symm.trans (orThrow_eq_ok.mp hplace))
  have hcheck : check (files' ⟨host.dirOf (components base), name⟩ ≠ some .dir) error =
      check (files ⟨host.dirOf (components base), name⟩ ≠ some .dir) error := by
    unfold check
    simp only [ne_eq, hshape.dir_iff]
  rw [hcheck]
  refine Act.lockstep_except_bind fun _ _ => ?_
  have htwin : Twin host env env'
      (.write ⟨host.dirOf (components base), name⟩
        (kept env ⟨host.dirOf (components base), name⟩ (jsonBytes host value)))
      (.write ⟨host.dirOf (components base), name⟩
        (kept env' ⟨host.dirOf (components base), name⟩ (jsonBytes host value'))) :=
    .write _ value value' hsame
  unfold kept at htwin
  rw [h.writes] at htwin ⊢
  cases houtcome : env.writes ⟨host.dirOf (components base), name⟩ with
  | done =>
    simp only [houtcome] at htwin
    exact Act.lockstep_emit htwin
  | refused => exact Act.lockstep_fail error
  | broken n =>
    simp only [houtcome] at htwin
    exact Act.lockstep_bind compatible_twin (Act.lockstep_emit htwin) fun _ =>
      Act.lockstep_fail error

/-- **A record is written in lockstep**, with its directories. -/
theorem lockstep_writeJson (h : SameMachine env env') {base name : String} (hname : Plain name)
    {value value' : Json N} (hsame : SameBut (volatile name) value value') :
    Act.Lockstep SameShape (Twin host env env') (writeJson host env (join base name) value)
      (writeJson host env' (join base name) value') := by
  have hparent : Act.Lockstep SameShape (Twin host env env')
      (createParent host env (join base name)) (createParent host env' (join base name)) := by
    unfold createParent
    cases Path.parent (join base name) with
    | some dir => exact lockstep_makeDirs h _ _
    | none => exact Act.lockstep_pure ()
  exact Act.lockstep_bind compatible_twin hparent fun _ => lockstep_writeFile h hname hsame _

/-- **A refusal is recorded in lockstep**, and fails with the same error. -/
theorem lockstep_refuse (h : SameMachine env env') (evidence reason message : String) :
    Act.Lockstep SameShape (Twin host env env')
      (refuse host env evidence reason message : Proc D Unit)
      (refuse host env' evidence reason message) := by
  have hsame := sameBut_refusalRecord host env env' reason
  refine Act.lockstep_bind compatible_twin ?_ fun _ => Act.lockstep_fail message
  refine Act.lockstep_bind compatible_twin
    (Act.lockstep_ignore (lockstep_makeDirs h "" (components evidence).inits)) fun _ => ?_
  exact Act.lockstep_ignore (lockstep_writeFile h plain_refusalRecordName hsame "")

/-! ## The prediction -/

/-- The computation runs the command first, and only prints afterwards. -/
def Invokes (command : List String) (run : Proc D Unit) : Prop :=
  ∀ files, ∃ prints, (run files).2 = .kexec command :: prints ∧
    ∀ event ∈ prints, ∃ text, event = .print text

theorem invokes_invokeKexec (args : List String) (what : String) :
    Invokes ("kexec" :: args) (invokeKexec env args what) :=
  fun _ => ⟨[], invokeKexec_log args what, fun _ hmem => absurd hmem List.not_mem_nil⟩

theorem Invokes.println {command : List String} {run : Proc D Unit} (h : Invokes command run)
    (text : List Char) : Invokes command (do run; println text) := by
  intro files
  obtain ⟨prints, hlog, hprints⟩ := h files
  rcases hrun : run files with ⟨e | u, log⟩
  · rw [hrun] at hlog
    exact ⟨prints, by rw [Act.bind_apply_error hrun]; exact hlog, hprints⟩
  · rw [hrun] at hlog
    obtain rfl : log = .kexec command :: prints := hlog
    refine ⟨prints ++ [.print (text ++ ['\n'])], by rw [Act.bind_apply_ok hrun]; rfl, ?_⟩
    intro event hevent
    rcases List.mem_append.mp hevent with hevent | hevent
    · exact hprints event hevent
    · exact ⟨_, List.mem_singleton.mp hevent⟩

omit [DecidableEq D] in
theorem changes_of_twin {event event' : Event D} (h : Twin host env env' event event') :
    event.changes = true ∧ event'.changes = true := by
  cases h with
  | mkdir | write => exact ⟨rfl, rfl⟩

omit [DecidableEq D] in
/-- Twins are all they are filtered for. -/
theorem filter_of_twins {log log' : List (Event D)}
    (h : List.Forall₂ (Twin host env env') log log') :
    log.filter Event.changes = log ∧ log'.filter Event.changes = log' := by
  induction h with
  | nil => exact ⟨rfl, rfl⟩
  | cons htwin _ ih =>
    obtain ⟨hl, hr⟩ := changes_of_twin htwin
    rw [List.filter_cons_of_pos hl, List.filter_cons_of_pos hr, ih.1, ih.2]
    exact ⟨rfl, rfl⟩

omit [DecidableEq D] in
/-- No twin is a command. -/
theorem not_kexec_of_twins {log log' : List (Event D)}
    (h : List.Forall₂ (Twin host env env') log log') (command : List String) :
    .kexec command ∉ log' := by
  intro hmem
  obtain ⟨event, -, htwin⟩ := exists_mem_of_forall₂ h _ hmem
  exact absurd (changes_of_twin htwin).2 (by simp [Event.changes, Event.made])

omit [DecidableEq D] in
/-- Two failures in lockstep predict each other. -/
theorem predicts_of_error {e : String} {log log' : List (Event D)}
    (h : List.Forall₂ (Twin host env env') log log') :
    Predicts host env env' (.error e, log) (.error e, log') := by
  have hno := not_kexec_of_twins h
  obtain ⟨hl, hr⟩ := filter_of_twins h
  exact
    { reaches := iff_of_false (by simp) fun ⟨command, hmem⟩ => hno command hmem
      evidence := by rw [hl, hr]; exact h
      command := fun command hmem => absurd hmem (hno command)
      refuses := fun e' => ⟨fun heq => ⟨heq, hno⟩, And.left⟩ }

/-- **A handoff**: the dry run stops where the real one runs its command. -/
theorem predicts_handOver (h : SameMachine env env') {evidence name : String} (hname : Plain name)
    {proof proof' : Json N} (hsame : SameBut (volatile name) proof proof') {command : List String}
    (hcommand : valueGet proof "command" = some (.arr (command.map .str)))
    {run run' : Proc D Unit} (hrun : Invokes command run') :
    Predicts host env env' (handOver host env evidence name proof true run files)
      (handOver host env' evidence name proof' false run' files) := by
  have hlockstep : Act.Lockstep SameShape (Twin host env env')
      (writeJson host env (join evidence name) proof)
      (writeJson host env' (join evidence name) proof') := lockstep_writeJson h hname hsame
  obtain ⟨hresult, htwins⟩ := hlockstep files files fun _ => rfl
  rcases hdry : writeJson host env (join evidence name) proof files with ⟨e | u, log⟩
  · rcases hreal : writeJson host env' (join evidence name) proof' files with ⟨e' | u', log'⟩
    · rw [hdry, hreal] at hresult htwins
      obtain rfl := Except.error.inj hresult
      unfold handOver
      rw [Act.bind_apply_error hdry, Act.bind_apply_error hreal]
      exact predicts_of_error htwins
    · rw [hdry, hreal] at hresult
      exact absurd hresult (by simp)
  · rcases hreal : writeJson host env' (join evidence name) proof' files with ⟨e' | u', log'⟩
    · rw [hdry, hreal] at hresult
      exact absurd hresult (by simp)
    rw [hdry, hreal] at htwins
    obtain ⟨dirs, place, -, hlog, -, -⟩ := writeJson_eq_ok hdry
    have hwrote : .write place (jsonBytes host proof) ∈ log := by
      rw [hlog]
      simp
    obtain ⟨prints, hprints, honly⟩ := hrun (replay files log')
    have hdryRun : handOver host env evidence name proof true run files =
        (.ok (), log ++ [.print (toStringPretty host proof ++ ['\n'])]) := by
      unfold handOver
      rw [Act.bind_apply_ok hdry]
      rfl
    have hrealLog : (handOver host env' evidence name proof' false run' files).2 =
        log' ++ .kexec command :: prints := by
      unfold handOver
      rw [Act.bind_apply_ok hreal, ← hprints]
      rfl
    obtain ⟨hl, hr⟩ : log.filter Event.changes = log ∧ log'.filter Event.changes = log' :=
      filter_of_twins htwins
    have hquiet : (.kexec command :: prints).filter Event.changes = [] := by
      refine List.filter_eq_nil_iff.mpr fun event hevent => ?_
      rcases List.mem_cons.mp hevent with rfl | hevent
      · simp [Event.changes, Event.made]
      · obtain ⟨text, rfl⟩ := honly event hevent
        simp [Event.changes, Event.made]
    rw [hdryRun]
    refine ⟨?_, ?_, fun command' hmem => ?_, fun e => ?_⟩
    · exact iff_of_true rfl ⟨command, by rw [hrealLog]; simp⟩
    · rw [hrealLog, List.filter_append, List.filter_append, hl, hr, hquiet, List.append_nil]
      have hprint : [.print (toStringPretty host proof ++ ['\n'])].filter Event.changes =
          ([] : List (Event D)) := rfl
      rw [hprint, List.append_nil]
      exact htwins
    · obtain rfl : command' = command := by
        rw [hrealLog, List.mem_append, List.mem_cons] at hmem
        rcases hmem with hmem | heq | hmem
        · exact absurd hmem (not_kexec_of_twins htwins command')
        · exact Event.kexec.inj heq
        · obtain ⟨text, htext⟩ := honly _ hmem
          exact absurd htext (by simp)
      exact ⟨place, proof, List.mem_append_left _ hwrote, hcommand⟩
    · refine iff_of_false (by simp) fun hstops => hstops.2 command ?_
      rw [hrealLog]
      simp

/-- **A dry run predicts the real run.** For `linux-kexec` it succeeds iff the run of root without
`--dry-run` reaches its command, the evidence of both is the same but for the times and `dry_run`,
the command is the one on record, and each fails before the command as the other does. -/
theorem dryRun_predicts (host : Host N K D) (h : SameMachine env env') (hroot : env'.euid = 0)
    (files : Files D) {args : ExecuteArgs} (hlinux : args.adapter = "linux-kexec") :
    Predicts host env env' (runExecute host env { args with dryRun := true } files)
      (runExecute host env' { args with dryRun := false } files) := by
  rw [runExecute_apply, runExecute_apply, executeDecision_dryRun h hroot hlinux]
  cases hdecision : executeDecision host env files { args with dryRun := true } with
  | error exit =>
    obtain ⟨reason, message⟩ := exit
    cases reason with
    | some reason =>
      obtain ⟨log, hlog⟩ := refuse_apply host env files args.evidence reason message
      obtain ⟨log', hlog'⟩ := refuse_apply host env' files args.evidence reason message
      have hlockstep : Act.Lockstep SameShape (Twin host env env')
          (refuse host env args.evidence reason message : Proc D Unit)
          (refuse host env' args.evidence reason message) :=
        lockstep_refuse h args.evidence reason message
      obtain ⟨-, htwins⟩ := hlockstep files files fun _ => rfl
      rw [hlog Unit, hlog' Unit] at htwins
      show Predicts host env env'
        ((refuse host env args.evidence reason message : Proc D Unit) files)
        ((refuse host env' args.evidence reason message : Proc D Unit) files)
      rw [hlog Unit, hlog' Unit]
      exact predicts_of_error htwins
    | none => exact predicts_of_error .nil
  | ok handoff =>
    have hlinux' : ({ args with dryRun := true } : ExecuteArgs).adapter = "linux-kexec" := hlinux
    obtain ⟨-, plan, kernel, initrd, rfl, -⟩ | ⟨-, plan, kernel, initrd, rfl, -⟩ :=
      (executeDecision_eq_ok hlinux').mp hdecision
    · exact predicts_handOver h plain_preExecProofName
        (sameBut_handoffProof host env env' (by decide) _ _ plan true false _ false)
        names_handoffProof.command ((invokes_invokeKexec _ _).println _)
    · exact predicts_handOver h plain_execProofName
        (sameBut_handoffProof host env env' (by decide) _ _ plan true false _ true)
        names_handoffProof.command (invokes_invokeKexec _ _)

end

/-- A user who looks first what root would do on the stage. -/
def onlooker : Env (List String) := { Stage.env with euid := 1000, utcNow := fun _ => 0 }

theorem ownStage_predicted : Predicts ownStage.host onlooker Stage.env
    (runExecute ownStage.host onlooker { ownArgs with dryRun := true } ownStage.files)
    (runExecute ownStage.host Stage.env { ownArgs with dryRun := false } ownStage.files) := by
  have hsame : SameMachine onlooker Stage.env := ⟨rfl, rfl, rfl⟩
  have hroot : Stage.env.euid = 0 := rfl
  have hlinux : ownArgs.adapter = "linux-kexec" := rfl
  exact dryRun_predicts ownStage.host hsame hroot ownStage.files hlinux

end Nlboot.Client
