import Nlboot.Client.Execute

/-!
# The commands of the client

Model of `main` of `rust/nlboot-client/src/main.rs`, from the parsed arguments on, and of a machine
on which it is invoked again and again.

* `Commands`, `main`: the commands and the dispatch.
* `Invocation`, `filesAfter`: an invocation with what it meets, and the files after a run of them.

Results:
* **`occurs_runPlan`**, **`occurs_runExecute`**: where the events of an invocation come from.
-/

namespace Nlboot.Client

open Nlboot.Lib Nlboot.Lib.Path

/-- The arguments of `plan`. -/
structure PlanArgs where
  manifest : String
  token : String
  trustedKeys : String
  requireFips : Bool
  now : Option String
  out : Option String

/-- The arguments of `fetch`. -/
structure FetchArgs where
  plan : String
  artifactMap : String
  cache : String
  evidence : String

/-- The arguments of `execute`. -/
structure ExecuteArgs where
  plan : String
  cache : String
  adapter : String
  loadOnly : Bool
  execNow : Bool
  evidence : String
  mutationAck : Bool
  rebootAck : Bool
  dryRun : Bool

inductive Commands where
  | plan (args : PlanArgs)
  | fetch (args : FetchArgs)
  | execute (args : ExecuteArgs)

variable {N K D : Type} [DecidableEq D]

/-- What `plan` reads and checks. -/
def planOutput (host : Host N K D) (env : Env D) (files : Files D) (args : PlanArgs) :
    Except String PlanOutput := do
  let manifestValue ← readValue host env files args.manifest
  let manifestDoc ← orThrow ("failed to parse manifest object in " ++ args.manifest)
    (SignedBootManifest.deserialize manifestValue)
  let tokenDoc ← readJson host env files (EnrollmentToken.deserialize host) args.token
  let trustedKeysDoc ← readJson host env files (TrustedKeyDocument.deserialize host)
    args.trustedKeys
  let now ← parseNow host (env.utcNow 0) args.now
  validateManifest host manifestDoc manifestValue args.requireFips trustedKeysDoc now
  validateToken tokenDoc manifestDoc now
  pure
    { ok := true
      plan := buildPlan manifestDoc tokenDoc
      implementationNote := "Rust planner verifies RSA-PSS/SHA-256 manifest signatures and " ++
        "remains non-mutating with execute=false." }

/-- Write the plan where `--out` says, if it does. -/
def writeOut (host : Host N K D) (env : Env D) (value : Json N) : Option String → Proc D Unit
  | some outPath => writeJson host env outPath value
  | none => pure ()

/-- `Commands::Plan`. -/
def runPlan (host : Host N K D) (env : Env D) (args : PlanArgs) : Proc D Unit := do
  let files ← Act.get
  let output ← Act.except (planOutput host env files args)
  writeOut host env output.serialize args.out
  println (toStringPretty host output.serialize)

/-- `Commands::Execute`. -/
def runExecute (host : Host N K D) (env : Env D) (args : ExecuteArgs) : Proc D Unit :=
  if args.loadOnly = true ∧ args.execNow = true then
    refuse host env args.evidence "choose either --load-only or --exec, not both"
      "choose either --load-only or --exec, not both"
  else if args.adapter = "apple-silicon-m2" then
    if args.execNow then
      refuse host env args.evidence
        "apple-silicon-m2 adapter does not support --exec in this proof lane"
        "apple-silicon-m2 adapter does not support --exec in this proof lane"
    else if ¬ args.loadOnly then
      refuse host env args.evidence
        "apple-silicon-m2 adapter requires --load-only dry-run proof mode"
        "apple-silicon-m2 adapter requires --load-only dry-run proof mode"
    else executeM2AdapterDryRun host env args.plan args.evidence args.mutationAck args.dryRun
  else if args.adapter = "linux-kexec" then
    if args.loadOnly then
      executeLinuxKexecLoadOnly host env args.plan args.cache args.evidence args.mutationAck
        args.dryRun
    else if args.execNow then
      executeLinuxKexecExec host env args.plan args.cache args.evidence args.mutationAck
        args.rebootAck args.dryRun
    else
      refuse host env args.evidence "execute requires --load-only or --exec"
        "execute requires --load-only or --exec"
  else
    refuse host env args.evidence "unsupported platform adapter"
      ("unsupported adapter " ++ host.debug args.adapter ++
        "; supported: linux-kexec, apple-silicon-m2")

/-- `execute --adapter linux-kexec --load-only`. -/
theorem runExecute_loadOnly {host : Host N K D} {env : Env D} {args : ExecuteArgs}
    (hadapter : args.adapter = "linux-kexec") (hload : args.loadOnly = true)
    (hexec : args.execNow = false) : runExecute host env args =
      executeLinuxKexecLoadOnly host env args.plan args.cache args.evidence args.mutationAck
        args.dryRun := by
  have hboth : ¬ (args.loadOnly = true ∧ args.execNow = true) := by simp [hexec]
  have hm2 : args.adapter ≠ "apple-silicon-m2" := by rw [hadapter]; decide
  unfold runExecute
  rw [if_neg hboth, if_neg hm2, if_pos hadapter, if_pos hload]

/-- `execute --adapter linux-kexec --exec`. -/
theorem runExecute_exec {host : Host N K D} {env : Env D} {args : ExecuteArgs}
    (hadapter : args.adapter = "linux-kexec") (hload : args.loadOnly = false)
    (hexec : args.execNow = true) : runExecute host env args =
      executeLinuxKexecExec host env args.plan args.cache args.evidence args.mutationAck
        args.rebootAck args.dryRun := by
  have hboth : ¬ (args.loadOnly = true ∧ args.execNow = true) := by simp [hload]
  have hm2 : args.adapter ≠ "apple-silicon-m2" := by rw [hadapter]; decide
  unfold runExecute
  rw [if_neg hboth, if_neg hm2, if_pos hadapter, if_neg (by simp [hload]), if_pos hexec]

/-- `main`. -/
def main (host : Host N K D) (env : Env D) : Commands → Proc D Unit
  | .plan args => runPlan host env args
  | .fetch args => fetchArtifacts host env args.plan args.artifactMap args.cache args.evidence
  | .execute args => runExecute host env args

/-- An invocation, and what it meets. -/
structure Invocation (D : Type) where
  env : Env D
  command : Commands

/-- The invocation as a computation. -/
def Invocation.proc (host : Host N K D) (invocation : Invocation D) : Proc D Unit :=
  main host invocation.env invocation.command

/-- The files after a run of invocations. -/
def filesAfter (host : Host N K D) (start : Files D) (run : List (Invocation D)) : Files D :=
  Act.run start (run.map (Invocation.proc host))

/-! ## Where the events of an invocation come from -/

variable {host : Host N K D} {env : Env D} {files : Files D} {before : List (Event D)}
  {event : Event D}

theorem occurs_runPlan {args : PlanArgs}
    (h : (runPlan host env args).Occurs files before event) :
    ∃ output, planOutput host env files args = .ok output ∧
      ((∃ out ∈ args.out, MakesDir host (components out).dropLast event ∨
          WritesFile host env out (jsonBytes host output.serialize) event) ∨
        ∃ text, event = .print text) := by
  unfold runPlan at h
  rw [Act.occurs_get_bind] at h
  obtain ⟨output, houtput, h⟩ := Act.occurs_except_bind.mp h
  refine ⟨output, houtput, ?_⟩
  rcases Act.occurs_bind.mp h with h | ⟨_, _, _, -, -, h⟩
  · cases hout : args.out with
    | some out =>
      rw [hout] at h
      exact .inl ⟨out, rfl, occurs_writeJson h⟩
    | none =>
      rw [hout] at h
      exact absurd h Act.not_occurs_pure
  · exact .inr ⟨_, (Act.occurs_emit.mp h).2⟩

/-- The events of `execute`: those of the executor the arguments choose, or a refusal. -/
theorem occurs_runExecute {args : ExecuteArgs}
    (h : (runExecute host env args).Occurs files before event) :
    RefusalEvent host env args.evidence event ∨
      args.adapter = "apple-silicon-m2" ∧ (executeM2AdapterDryRun host env args.plan args.evidence
        args.mutationAck args.dryRun).Occurs files before event ∨
      args.adapter = "linux-kexec" ∧
        (args.loadOnly = true ∧ args.execNow = false ∧
            (executeLinuxKexecLoadOnly host env args.plan args.cache args.evidence args.mutationAck
              args.dryRun).Occurs files before event ∨
          args.loadOnly = false ∧ args.execNow = true ∧
            (executeLinuxKexecExec host env args.plan args.cache args.evidence args.mutationAck
              args.rebootAck args.dryRun).Occurs files before event) := by
  unfold runExecute at h
  by_cases hboth : args.loadOnly = true ∧ args.execNow = true
  · rw [if_pos hboth] at h
    exact .inl (occurs_refuse h)
  rw [if_neg hboth] at h
  by_cases hm2 : args.adapter = "apple-silicon-m2"
  · rw [if_pos hm2] at h
    split_ifs at h
    · exact .inl (occurs_refuse h)
    · exact .inr (.inl ⟨hm2, h⟩)
    · exact .inl (occurs_refuse h)
  rw [if_neg hm2] at h
  by_cases hlinux : args.adapter = "linux-kexec"
  · rw [if_pos hlinux] at h
    split_ifs at h with hload hexec
    · have hexec : args.execNow = false := by
        by_contra hno
        exact hboth ⟨hload, Bool.of_not_eq_false hno⟩
      exact .inr (.inr ⟨hlinux, .inl ⟨hload, hexec, h⟩⟩)
    · exact .inr (.inr ⟨hlinux, .inr ⟨Bool.of_not_eq_true hload, hexec, h⟩⟩)
    · exact .inl (occurs_refuse h)
  · rw [if_neg hlinux] at h
    exact .inl (occurs_refuse h)

end Nlboot.Client
