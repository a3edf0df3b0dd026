import Nlboot.Client.Evidence
import Nlboot.Client.Main

/-!
# The gate before the host is changed

What has been established whenever the client runs `kexec`, whatever its arguments are and
whatever the files hold. The one command that changes the host is run by `execute` with the
`linux-kexec` adapter, for real, by root, with the acknowledgements, for a plan that loads and
cached artifacts that verify, and after the evidence was written.

Writing the evidence is a write: where the cache and the evidence directory are one and a recorded
path is that of the proof, the proof replaces the verified file before the command runs.

* `Names`: what a proof says about a handoff.
* `StillCached`: a verified file at the moment of the command.
* `Gate`: what holds when the command runs.
* **`hostMutationGate`**: there is at most one command, and it passed the gate.
* `ownEvidence_replacesKernel`: the proof replaces the kernel.
-/

namespace Nlboot.Client

open Nlboot.Lib Nlboot.Lib.Path

variable {N K D : Type} [DecidableEq D]

/-- The command runs. -/
def Event.isKexec : Event D → Bool
  | .kexec _ => true
  | _ => false

/-- The proof names the plan and the command. -/
structure Names (proof : Json N) (plan : BootPlan) (command : List String) : Prop where
  manifestId : valueGet proof "plan_manifest_id" = some (.str plan.manifestId)
  bootReleaseSetId : valueGet proof "boot_release_set_id" = some (.str plan.bootReleaseSetId)
  releaseSetRef : valueGet proof "release_set_ref" = some (.str plan.releaseSetRef)
  command : valueGet proof "command" = some (.arr (command.map .str))

/-- The file of the artifact has the recorded digest, unless it is the proof itself. -/
def StillCached (host : Host N K D) (env : Env D) (files : Files D) (proof : Location D)
    (artifact : CachedArtifactRecord) : Prop :=
  Cached host env files artifact ∨ locate host (components artifact.cachePath) = some proof

/-- The command is the one the arguments ask for, with the proof that goes before it. -/
inductive Phase (host : Host N K D) (env : Env D) (files : Files D) (args : ExecuteArgs)
    (plan : BootPlan) (kernel initrd : CachedArtifactRecord) :
    String → Json N → List String → Prop where
  | load (hload : args.loadOnly = true) (hexec : args.execNow = false) :
      Phase host env files args plan kernel initrd preExecProofName
        (preExecProof host env plan false ("kexec" :: loadArgs kernel initrd))
        ("kexec" :: loadArgs kernel initrd)
  | exec (hload : args.loadOnly = false) (hexec : args.execNow = true)
      (hreboot : args.rebootAck = true)
      (hexists : pathExists host env files (join args.evidence preExecProofName) = true) :
      Phase host env files args plan kernel initrd execProofName
        (execProof host env plan false ["kexec", "--exec"]) ["kexec", "--exec"]

/-- What holds when an invocation runs the command after `before`. -/
structure Gate (host : Host N K D) (env : Env D) (files : Files D) (args : ExecuteArgs)
    (before : List (Event D)) (command : List String) (plan : BootPlan)
    (kernel initrd : CachedArtifactRecord) (name : String) (proof : Json N)
    (location : Location D) : Prop where
  adapter : args.adapter = "linux-kexec"
  mutationAck : args.mutationAck = true
  real : args.dryRun = false
  root : env.euid = 0
  loads : loadPlan host env files args.plan = .ok plan
  verified : Verified host env files args.cache args.evidence kernel initrd
  phase : Phase host env files args plan kernel initrd name proof command
  names : Names proof plan command
  place : locate host (components (join args.evidence name)) = some location
  written : before.getLast? = some (.write location (jsonBytes host proof))
  kernelFile : StillCached host env (replay files before) location kernel
  initrdFile : StillCached host env (replay files before) location initrd

/-! ## Proofs -/

variable {host : Host N K D} {env : Env D} {files : Files D} {before : List (Event D)}
  {event : Event D}

theorem valueGet_jsonObject {members : Members N} (h : (members.map Prod.fst).Nodup)
    (name : String) : valueGet (jsonObject members) name = members.lookup name := by
  show (btreeMap members).lookup name = _
  rw [lookup_btreeMap, lastFor]
  exact (lookup_perm (List.reverse_perm members).symm h name).symm

omit [DecidableEq D] in
theorem names_handoffProof {kind mode : String} {plan : BootPlan} {dryRun executeExec : Bool}
    {command : List String} :
    Names (handoffProof host env kind mode plan dryRun command executeExec) plan command := by
  have hnodup : ["ok", "kind", "created_at", "adapter", "mode", "dry_run", "plan_manifest_id",
      "boot_release_set_id", "release_set_ref", "command", "execute_exec"].Nodup := by decide
  have hget : ∀ name, valueGet (handoffProof host env kind mode plan dryRun command executeExec)
      name = _ := valueGet_jsonObject hnodup
  exact ⟨hget _, hget _, hget _, hget _⟩

/-- A file the invocation did not write keeps its digest. -/
theorem stillCached_of_cached {path : String} {value : Json N} {artifact : CachedArtifactRecord}
    {location : Location D} {u : Unit}
    (hwritten : writeJson host env path value files = (.ok u, before))
    (hplace : locate host (components path) = some location)
    (h : Cached host env files artifact) :
    StillCached host env (replay files before) location artifact := by
  obtain ⟨dirs, location', hloc, rfl, -, hkeeps⟩ := writeJson_eq_ok hwritten
  obtain rfl := Option.some.inj (hplace.symm.trans hloc)
  obtain ⟨bytes, hread, hdigest⟩ := h
  obtain ⟨hreadable, found, hart, hfound⟩ := readFile_eq_some.mp hread
  by_cases hsame : found = location
  · exact .inr (hsame ▸ hart)
  · refine .inl ⟨bytes, readFile_eq_some.mpr ⟨hreadable, found, hart, ?_⟩, hdigest⟩
    rw [replay_append, replay_cons, replay_nil, apply_of_made]
    · exact hkeeps found _ hfound
    · rintro _ heq
      exact hsame (Prod.mk.inj (Option.some.inj heq)).1.symm

omit [DecidableEq D] in
theorem not_kexec_of_makesDir {path : List Component} (h : MakesDir host path event) :
    event.isKexec = false := by
  obtain ⟨_, -, _, -, rfl⟩ := h
  rfl

omit [DecidableEq D] in
theorem not_kexec_of_writesFile {path : String} {bytes : List UInt8}
    (h : WritesFile host env path bytes event) : event.isKexec = false := by
  obtain ⟨_, -, rfl⟩ := h
  rfl

omit [DecidableEq D] in
theorem not_kexec_of_recordEvent {evidence name : String} {value : Json N}
    (h : RecordEvent host env evidence name value event) : event.isKexec = false := by
  obtain h | h := h
  · exact not_kexec_of_makesDir h
  · exact not_kexec_of_writesFile h

omit [DecidableEq D] in
theorem not_kexec_of_refusalEvent {evidence : String} (h : RefusalEvent host env evidence event) :
    event.isKexec = false := by
  obtain h | ⟨_, h⟩ := h
  · exact not_kexec_of_makesDir h
  · exact not_kexec_of_writesFile h

omit [DecidableEq D] in
theorem not_kexec_of_fetchEvent {cache evidence : String}
    (h : FetchEvent host env cache evidence event) : event.isKexec = false := by
  obtain ⟨h | h⟩ | ⟨_, _, _, h⟩ | ⟨_, h⟩ | _ := h
  · exact not_kexec_of_makesDir h
  · exact not_kexec_of_makesDir h
  · exact not_kexec_of_writesFile h
  · exact not_kexec_of_writesFile h
  · rfl

/-- The command of a handoff: it is a real run, and nothing but the proof was written before. -/
theorem kexec_of_handoffEvent {evidence name : String} {proof : Json N} {dryRun : Bool}
    {command : List String} (h : HandoffEvent host env files evidence name proof dryRun command
      before event) (hkexec : event.isKexec = true) :
    dryRun = false ∧ event = .kexec command ∧
      writeJson host env (join evidence name) proof files = (.ok (), before) := by
  cases h with
  | record h => exact absurd hkexec (by rw [not_kexec_of_recordEvent h]; simp)
  | print text => exact absurd hkexec (by simp [Event.isKexec])
  | kexec hreal hwritten => exact ⟨hreal, rfl, hwritten⟩

/-- A handoff that got as far as its command passed the gate. -/
theorem gate_of_handoff {args : ExecuteArgs} {plan : BootPlan}
    {kernel initrd : CachedArtifactRecord}
    {name : String} {proof : Json N} {command : List String}
    (hadapter : args.adapter = "linux-kexec")
    (hready : Ready host env files args.plan args.cache args.evidence args.mutationAck args.dryRun
      plan kernel initrd)
    (hreal : args.dryRun = false)
    (hphase : Phase host env files args plan kernel initrd name proof command)
    (hnames : Names proof plan command)
    (hwritten : writeJson host env (join args.evidence name) proof files = (.ok (), before)) :
    ∃ location, Gate host env files args before command plan kernel initrd name proof location := by
  obtain ⟨dirs, location, hplace, hlog, -, -⟩ := writeJson_eq_ok hwritten
  have hroot : env.euid = 0 := by
    rcases hready.root with hdry | hroot
    · exact absurd hdry (by simp [hreal])
    · exact hroot
  exact ⟨location,
    { adapter := hadapter
      mutationAck := hready.mutationAck
      real := hreal
      root := hroot
      loads := hready.plan
      verified := hready.verified
      phase := hphase
      names := hnames
      place := hplace
      written := by rw [hlog, List.getLast?_concat]
      kernelFile := stillCached_of_cached hwritten hplace hready.verified.kernel
      initrdFile := stillCached_of_cached hwritten hplace hready.verified.initrd }⟩

/-- Nothing that goes before a written document is a command. -/
theorem not_kexec_of_writeJson {path : String} {value : Json N} {u : Unit}
    (h : writeJson host env path value files = (.ok u, before)) :
    ∀ event ∈ before, event.isKexec = false := by
  obtain ⟨dirs, location, -, rfl, hdirs, -⟩ := writeJson_eq_ok h
  intro event hevent
  rcases List.mem_append.mp hevent with hdir | hwrite
  · exact not_kexec_of_makesDir (hdirs event hdir)
  · rw [List.mem_singleton.mp hwrite]
    rfl

/-- **The command of an invocation passed the gate**, and it is the first. -/
theorem gate_of_occurs {command : Commands} (h : (main host env command).Occurs files before event)
    (hkexec : event.isKexec = true) :
    (∀ earlier ∈ before, earlier.isKexec = false) ∧
      ∃ args argv plan kernel initrd name proof location, command = .execute args ∧
        event = .kexec argv ∧
        Gate host env files args before argv plan kernel initrd name proof location := by
  have refused : ∀ {P : Prop}, event.isKexec = false → P := fun hno => by
    rw [hkexec] at hno
    exact absurd hno (by simp)
  cases command with
  | plan args =>
    obtain ⟨_, -, ⟨_, -, h | h⟩ | ⟨_, rfl⟩⟩ := occurs_runPlan h
    · exact refused (not_kexec_of_makesDir h)
    · exact refused (not_kexec_of_writesFile h)
    · exact refused rfl
  | fetch args => exact refused (not_kexec_of_fetchEvent (occurs_fetchArtifacts h))
  | execute args =>
    obtain h | ⟨-, h⟩ | ⟨hadapter, ⟨hload, hexec, h⟩ | ⟨hload, hexec, h⟩⟩ := occurs_runExecute h
    · exact refused (not_kexec_of_refusalEvent h)
    · obtain h | ⟨_, h | h⟩ | ⟨_, rfl⟩ := occurs_m2 h
      · exact refused (not_kexec_of_refusalEvent h)
      · exact refused (not_kexec_of_recordEvent h)
      · exact refused (not_kexec_of_recordEvent h)
      · exact refused rfl
    · obtain h | ⟨plan, kernel, initrd, hready, h⟩ := occurs_loadOnly h
      · exact refused (not_kexec_of_refusalEvent h)
      obtain ⟨hreal, rfl, hwritten⟩ := kexec_of_handoffEvent h hkexec
      rw [hreal] at hwritten
      obtain ⟨location, hgate⟩ :=
        gate_of_handoff hadapter hready hreal (.load hload hexec) names_handoffProof hwritten
      exact ⟨not_kexec_of_writeJson hwritten,
        args, _, plan, kernel, initrd, _, _, location, rfl, rfl, hgate⟩
    · obtain h | ⟨plan, kernel, initrd, hready, hreboot, hexists, h⟩ := occurs_exec h
      · exact refused (not_kexec_of_refusalEvent h)
      obtain ⟨hreal, rfl, hwritten⟩ := kexec_of_handoffEvent h hkexec
      rw [hreal] at hwritten
      obtain ⟨location, hgate⟩ := gate_of_handoff hadapter hready hreal
        (.exec hload hexec hreboot hexists) names_handoffProof hwritten
      exact ⟨not_kexec_of_writeJson hwritten,
        args, _, plan, kernel, initrd, _, _, location, rfl, rfl, hgate⟩

/-- **The gate before the host is changed.** An invocation runs at most one command, and it runs a
command only as a real `execute` that passed the gate; so `plan`, `fetch`, every dry run and every
other adapter run none. -/
theorem hostMutationGate (host : Host N K D) (env : Env D) (files : Files D) (command : Commands) :
    ((main host env command files).2.filter Event.isKexec).length ≤ 1 ∧
      ∀ before argv, (main host env command).Occurs files before (.kexec argv) →
        ∃ args plan kernel initrd name proof location, command = .execute args ∧
          Gate host env files args before argv plan kernel initrd name proof location := by
  constructor
  · exact Act.length_filter_le_one fun before event h hkexec => (gate_of_occurs h hkexec).1
  · intro before argv h
    obtain ⟨-, args, _, plan, kernel, initrd, name, proof, location, hargs, heq, hgate⟩ :=
      gate_of_occurs h rfl
    obtain rfl := Event.kexec.inj heq
    exact ⟨args, plan, kernel, initrd, name, proof, location, hargs, hgate⟩

/-! ## Evidence in the place of a kernel -/

/-- The evidence directory is the cache, and the kernel has the name of the proof. -/
def ownEvidence : Setting where
  release := "r1"
  recorded := "r1"
  kernelRef := "kernel"
  kernelPath := join "evidence" preExecProofName
  initrdPath := "evidence/i"

/-- The command that loads the kernel. -/
def ownCommand : List String := "kexec" :: loadArgs ownEvidence.kernel ownEvidence.initrd

/-- The proof, and its SHA-256 digest. -/
def ownProof : Json Int := preExecProof clockHost Stage.env (planFor "r1") false ownCommand

def ownProofDigest : List UInt8 :=
  [54, 113, 170, 137, 7, 135, 171, 86, 75, 197, 51, 211, 52, 0, 176, 34, 138, 227, 31, 215, 214, 92,
    242, 119, 42, 154, 200, 101, 117, 251, 216, 249]

/-- The place of the proof. -/
def ownPlace : Location (List String) := ⟨["srv", "evidence"], preExecProofName⟩

def ownStage : Stage :=
  ownEvidence.stage [(printed ownProof, ownProofDigest)] [(ownPlace, .file [107]),
    (⟨["srv", "evidence"], "i"⟩, .file [105])]

/-- A real load-only run on it. -/
def ownArgs : ExecuteArgs where
  plan := "plan"
  cache := "evidence"
  adapter := "linux-kexec"
  loadOnly := true
  execNow := false
  evidence := "evidence"
  mutationAck := true
  rebootAck := false
  dryRun := false

theorem ownStage_verified : Verified ownStage.host Stage.env ownStage.files "evidence" "evidence"
    ownEvidence.kernel ownEvidence.initrd := by
  have hinitrd : locate ownStage.host (components "evidence/i") =
      some ⟨["srv", "evidence"], "i"⟩ := by decide
  exact Setting.verified rfl (by decide) (by decide)
    (ownStage.locate_evidence plain_preExecProofName) hinitrd rfl rfl

theorem ownStage_digest : ownStage.host.sha256 (printed ownProof) = ownProofDigest :=
  ownEvidence.sha256_stage (printed_ne_singleton ownProof (by decide))
    (printed_ne_singleton ownProof (by decide))

/-- The run verifies the kernel and then loads a file that does not have the recorded digest: the
proof was written over it. -/
theorem ownEvidence_replacesKernel :
    Verified ownStage.host Stage.env ownStage.files "evidence" "evidence" ownEvidence.kernel
        ownEvidence.initrd ∧
      ∃ before, (main ownStage.host Stage.env (.execute ownArgs)).Occurs ownStage.files before
          (.kexec ownCommand) ∧
        ¬ Cached ownStage.host Stage.env (replay ownStage.files before) ownEvidence.kernel := by
  have hready : Ready ownStage.host Stage.env ownStage.files "plan" "evidence" "evidence" true false
      (planFor "r1") ownEvidence.kernel ownEvidence.initrd :=
    ⟨rfl, .inr rfl, Stage.loadPlan_stage rfl, ownStage_verified⟩
  have hentry : ownStage.files ownPlace = some (.file [107]) := rfl
  have hwritten := ownStage.writeJson_evidence ownStage.files
    (preExecProof ownStage.host Stage.env (planFor "r1") false ownCommand)
    plain_preExecProofName rfl
    fun hdir => absurd (hentry.symm.trans hdir) (by simp)
  rw [ownStage.jsonBytes_preExecProof] at hwritten
  have hdigest : sha256Hex ownStage.host (printed ownProof) ≠ ownEvidence.kernel.sha256 := by
    rw [sha256Hex, ownStage_digest]
    exact show hexdigest ownProofDigest ≠ hexdigest kernelDigest by decide
  have hmain : main ownStage.host Stage.env (.execute ownArgs) =
      executeLinuxKexecLoadOnly ownStage.host Stage.env "plan" "evidence" "evidence" true false :=
    runExecute_loadOnly rfl rfl rfl
  unfold ownProof at hdigest
  -- The text of the proof is long; nothing but its digest matters from here on.
  generalize printed (preExecProof clockHost Stage.env (planFor "r1") false ownCommand) = bytes at *
  refine ⟨ownStage_verified, [.write ownPlace bytes], ?_, ?_⟩
  · rw [hmain]
    exact occurs_loadOnly_of_ready hready hwritten
  · rintro ⟨found, hread, hfound⟩
    have hproof : readFile ownStage.host Stage.env (replay ownStage.files [.write ownPlace bytes])
        ownEvidence.kernel.cachePath = some bytes :=
      Stage.readFile_of_locate (ownStage.locate_evidence plain_preExecProofName) apply_write
    obtain rfl := Option.some.inj (hproof.symm.trans hread)
    exact hdigest hfound

end Nlboot.Client
