import Nlboot.Client.Evidence
import Nlboot.Client.HandoffGate

/-!
# What an execution decides

`execute` of `rust/nlboot-client/src/main.rs` checks first and acts afterwards: until its checks are
over it writes nothing but the record of a refusal. So every invocation is a decision, which depends
on the arguments, the user and the files, and then the handoff it decided on or the exit it came to.

* `Exit`: how the checks end an invocation, with or without a reason on record.
* `Handoff`: what they let it do.
* `executeDecision`: the checks; `settle`: what follows them.
* `Admitted`, `Supplied`: the flags pass their gates; the plan loads and its artifacts are verified.

Results:
* **`runExecute_apply`**: `execute` settles its decision.
* **`executeDecision_eq_ok`**: what `linux-kexec` goes on with.
* **`executeDecision_unrecorded_iff`**: the checks end without a reason on record exactly if the
  flags pass and something is not supplied.
-/

namespace Nlboot.Client

open Nlboot.Lib Nlboot.Lib.Path

variable {N K D : Type}

/-! ## Decisions -/

/-- How the checks end an invocation: the reason on record, if one is written, and the error. -/
structure Exit where
  reason : Option String
  message : String
  deriving DecidableEq

/-- What the checks let an invocation do. -/
inductive Handoff where
  | load (plan : BootPlan) (kernel initrd : CachedArtifactRecord)
  | exec (plan : BootPlan)
  | lane (plan : BootPlan)

/-- A check that goes on record. -/
def gate (c : Prop) [Decidable c] (reason message : String) : Except Exit Unit :=
  check c ⟨some reason, message⟩

/-- A check that does not: `?`. -/
def unrecorded {α : Type} (x : Except String α) : Except Exit α :=
  x.mapError fun message => ⟨none, message⟩

def mutationGate (mutationAck : Bool) : Except Exit Unit :=
  gate (mutationAck = true) "missing explicit host-mutation acknowledgement"
    "refusing host mutation without --i-understand-this-mutates-host"

def rootGate (env : Env D) (dryRun : Bool) (operation : String) : Except Exit Unit :=
  gate (dryRun = true ∨ env.euid = 0) (operation ++ " requires root or equivalent capability")
    (operation ++ " requires root or equivalent capability")

/-- The checks of the load-only phase. -/
def loadDecision (host : Host N K D) (env : Env D) (files : Files D) (args : ExecuteArgs) :
    Except Exit Handoff := do
  mutationGate args.mutationAck
  rootGate env args.dryRun "linux-kexec load-only"
  let plan ← unrecorded (loadPlan host env files args.plan)
  let cached ← unrecorded (verifyCachedKernelInitrd host env files args.cache args.evidence)
  pure (.load plan cached.1 cached.2)

/-- The checks of the exec phase. -/
def execDecision (host : Host N K D) (env : Env D) (files : Files D) (args : ExecuteArgs) :
    Except Exit Handoff := do
  mutationGate args.mutationAck
  gate (args.rebootAck = true) "missing explicit reboot acknowledgement"
    "refusing kexec --exec without --i-understand-this-reboots-host"
  rootGate env args.dryRun "linux-kexec exec"
  let plan ← unrecorded (loadPlan host env files args.plan)
  let _ ← unrecorded (verifyCachedKernelInitrd host env files args.cache args.evidence)
  gate (pathExists host env files (join args.evidence preExecProofName) = true)
    "missing pre-exec-proof.json from prior load-only phase"
    "missing pre-exec-proof.json from prior load-only phase"
  pure (.exec plan)

/-- The checks of the proof lane. -/
def laneDecision (host : Host N K D) (env : Env D) (files : Files D) (args : ExecuteArgs) :
    Except Exit Handoff := do
  gate (¬ args.execNow = true) "apple-silicon-m2 adapter does not support --exec in this proof lane"
    "apple-silicon-m2 adapter does not support --exec in this proof lane"
  gate (args.loadOnly = true) "apple-silicon-m2 adapter requires --load-only dry-run proof mode"
    "apple-silicon-m2 adapter requires --load-only dry-run proof mode"
  mutationGate args.mutationAck
  gate (args.dryRun = true) "m2 adapter proof currently requires dry-run mode"
    "m2 adapter proof currently requires dry-run mode"
  let plan ← unrecorded (loadPlan host env files args.plan)
  pure (.lane plan)

/-- The checks of `execute`. -/
def executeDecision (host : Host N K D) (env : Env D) (files : Files D) (args : ExecuteArgs) :
    Except Exit Handoff := do
  gate (¬ (args.loadOnly = true ∧ args.execNow = true))
    "choose either --load-only or --exec, not both" "choose either --load-only or --exec, not both"
  if args.adapter = "apple-silicon-m2" then laneDecision host env files args
  else if args.adapter = "linux-kexec" then
    if args.loadOnly = true then loadDecision host env files args
    else if args.execNow = true then execDecision host env files args
    else throw ⟨some "execute requires --load-only or --exec",
      "execute requires --load-only or --exec"⟩
  else throw ⟨some "unsupported platform adapter", "unsupported adapter " ++
    host.debug args.adapter ++ "; supported: linux-kexec, apple-silicon-m2"⟩

/-! ## What follows a decision -/

section

variable [DecidableEq D]

/-- Write a proof, and hand over in a real run. -/
def handOver (host : Host N K D) (env : Env D) (evidence name : String) (proof : Json N)
    (dryRun : Bool) (run : Proc D Unit) : Proc D Unit := do
  writeJson host env (join evidence name) proof
  if dryRun = true then println (toStringPretty host proof) else run

/-- What is done once the checks passed. -/
def Handoff.run (host : Host N K D) (env : Env D) (evidence : String) (dryRun : Bool) :
    Handoff → Proc D Unit
  | .load plan kernel initrd =>
    let args := loadArgs kernel initrd
    let proof := preExecProof host env plan dryRun ("kexec" :: args)
    handOver host env evidence preExecProofName proof dryRun do
      invokeKexec env args "kexec --load"
      println (toStringPretty host proof)
  | .exec plan =>
    handOver host env evidence execProofName (execProof host env plan dryRun ["kexec", "--exec"])
      dryRun (invokeKexec env ["--exec"] "kexec --exec")
  | .lane plan => do
    createDirAll host env evidence ("failed to create evidence dir " ++ evidence)
    writeJson host env (join evidence adapterRecordName) (adapterRecord host env plan)
    writeJson host env (join evidence entryRecordName) (entryRecord host env plan)
    println (toStringPretty host (adapterRecord host env plan))

/-- Leave, with the reason on record if there is one. -/
def Exit.leave (host : Host N K D) (env : Env D) (evidence : String) (exit : Exit) : Proc D Unit :=
  match exit.reason with
  | some reason => refuse host env evidence reason exit.message
  | none => Act.fail exit.message

/-- What follows the checks. -/
def settle (host : Host N K D) (env : Env D) (args : ExecuteArgs) :
    Except Exit Handoff → Proc D Unit
  | .error exit => exit.leave host env args.evidence
  | .ok handoff => handoff.run host env args.evidence args.dryRun

/-! ## The checks and the code -/

variable {host : Host N K D} {env : Env D} {files : Files D} {args : ExecuteArgs}

/-- A refusal fails with its message, whatever it does before. -/
theorem refuse_apply (host : Host N K D) (env : Env D) (files : Files D)
    (evidence reason message : String) : ∃ log, ∀ α : Type,
    (refuse host env evidence reason message : Proc D α) files = (.error message, log) := by
  cases hwrite : writeRefusal host env evidence reason files with
  | mk result log =>
    cases result with
    | ok u => exact ⟨log ++ [], fun α => Act.bind_apply_ok hwrite⟩
    | error e =>
      obtain h | ⟨_, _, _, -, h, -⟩ := Act.bind_eq_error.mp hwrite
      · exact absurd (Prod.mk.inj h).1 (by simp)
      · exact absurd (Prod.mk.inj h).1 (by simp)

/-- A command is logged, however it ends. -/
theorem invokeKexec_log (args : List String) (what : String) :
    (invokeKexec env args what files).2 = [.kexec ("kexec" :: args)] := by
  unfold invokeKexec
  have hemit : (Act.emit (.kexec ("kexec" :: args)) : Proc D Unit) files =
      (.ok (), [.kexec ("kexec" :: args)]) := rfl
  rw [Act.bind_apply_ok hemit]
  cases env.status ("kexec" :: args) with
  | notStarted => rfl
  | exited success status => cases success <;> rfl

/-- A gate that is not passed ends the invocation with its refusal. -/
theorem refuseUnless_bind_apply_neg {β : Type} {evidence reason message : String} {c : Prop}
    [Decidable c] {f : Unit → Proc D β} (hc : ¬ c) :
    (refuseUnless host env evidence c reason message >>= f) files =
      (refuse host env evidence reason message : Proc D β) files := by
  obtain ⟨log, hlog⟩ := refuse_apply host env files evidence reason message
  unfold refuseUnless
  rw [if_neg hc, hlog β, Act.bind_apply_error (hlog Unit)]

/-- A gate of the code is a gate of the decision. -/
theorem settle_gate {c : Prop} [Decidable c] {reason message : String} {f : Unit → Proc D Unit}
    {g : Unit → Except Exit Handoff}
    (h : c → f () files = settle host env args (g ()) files) :
    (refuseUnless host env args.evidence c reason message >>= f) files =
      settle host env args (gate c reason message >>= g) files := by
  unfold gate check
  by_cases hc : c
  · rw [refuseUnless_bind_apply hc, if_pos hc]
    exact h hc
  · rw [refuseUnless_bind_apply_neg hc, if_neg hc]
    rfl

/-- A check with `?` is an unrecorded check of the decision. -/
theorem settle_unrecorded {α : Type} {x : Except String α} {f : α → Proc D Unit}
    {g : α → Except Exit Handoff} (h : ∀ a, f a files = settle host env args (g a) files) :
    (Act.except x >>= f) files = settle host env args (unrecorded x >>= g) files := by
  cases x with
  | error message => rfl
  | ok a => exact h a

theorem executeLinuxKexecLoadOnly_apply :
    executeLinuxKexecLoadOnly host env args.plan args.cache args.evidence args.mutationAck
      args.dryRun files = settle host env args (loadDecision host env files args) files := by
  unfold executeLinuxKexecLoadOnly loadDecision requireMutationAck requireRootOrDryRun
  refine settle_gate fun _ => settle_gate fun _ => ?_
  rw [Act.get_bind_apply]
  exact settle_unrecorded fun plan => settle_unrecorded fun cached => rfl

theorem executeLinuxKexecExec_apply :
    executeLinuxKexecExec host env args.plan args.cache args.evidence args.mutationAck
      args.rebootAck args.dryRun files =
        settle host env args (execDecision host env files args) files := by
  unfold executeLinuxKexecExec execDecision requireMutationAck requireRootOrDryRun
  refine settle_gate fun _ => settle_gate fun _ => settle_gate fun _ => ?_
  rw [Act.get_bind_apply]
  refine settle_unrecorded fun plan => settle_unrecorded fun _ => settle_gate fun _ => ?_
  rfl

theorem executeM2AdapterDryRun_apply (hexec : args.execNow = false) (hload : args.loadOnly = true) :
    executeM2AdapterDryRun host env args.plan args.evidence args.mutationAck args.dryRun files =
      settle host env args (laneDecision host env files args) files := by
  have hpassed : laneDecision host env files args = (do
      mutationGate args.mutationAck
      gate (args.dryRun = true) "m2 adapter proof currently requires dry-run mode"
        "m2 adapter proof currently requires dry-run mode"
      let plan ← unrecorded (loadPlan host env files args.plan)
      pure (.lane plan)) := by
    unfold laneDecision gate check
    rw [if_pos (by simp [hexec]), if_pos hload]
    rfl
  rw [hpassed]
  unfold executeM2AdapterDryRun requireMutationAck
  refine settle_gate fun _ => settle_gate fun _ => ?_
  rw [Act.get_bind_apply]
  exact settle_unrecorded fun plan => rfl

/-- **`execute` settles its decision.** -/
theorem runExecute_apply (host : Host N K D) (env : Env D) (files : Files D) (args : ExecuteArgs) :
    runExecute host env args files =
      settle host env args (executeDecision host env files args) files := by
  unfold runExecute executeDecision
  by_cases hboth : args.loadOnly = true ∧ args.execNow = true
  · rw [if_pos hboth]
    unfold gate check
    rw [if_neg (not_not.mpr hboth)]
    rfl
  have hgate : ∀ g : Unit → Except Exit Handoff,
      (gate (¬ (args.loadOnly = true ∧ args.execNow = true))
        "choose either --load-only or --exec, not both"
        "choose either --load-only or --exec, not both" >>= g) = g () := by
    intro g
    unfold gate check
    rw [if_pos hboth]
    rfl
  rw [if_neg hboth, hgate]
  by_cases hm2 : args.adapter = "apple-silicon-m2"
  · rw [if_pos hm2, if_pos hm2]
    by_cases hexec : args.execNow = true
    · unfold laneDecision gate check
      rw [if_pos hexec, if_neg (not_not.mpr hexec)]
      rfl
    rw [if_neg hexec]
    by_cases hload : args.loadOnly = true
    · rw [if_neg (not_not.mpr hload)]
      exact executeM2AdapterDryRun_apply (Bool.of_not_eq_true hexec) hload
    · unfold laneDecision gate check
      rw [if_pos hload, if_pos hexec, if_neg hload]
      rfl
  rw [if_neg hm2, if_neg hm2]
  by_cases hlinux : args.adapter = "linux-kexec"
  · rw [if_pos hlinux, if_pos hlinux]
    by_cases hload : args.loadOnly = true
    · rw [if_pos hload, if_pos hload]
      exact executeLinuxKexecLoadOnly_apply
    rw [if_neg hload, if_neg hload]
    by_cases hexec : args.execNow = true
    · rw [if_pos hexec, if_pos hexec]
      exact executeLinuxKexecExec_apply
    · rw [if_neg hexec, if_neg hexec]
      rfl
  · rw [if_neg hlinux, if_neg hlinux]
    rfl

end

/-! ## Handoffs -/

section

variable {host : Host N K D} {env : Env D} {files : Files D} {args : ExecuteArgs}
  {handoff : Handoff}

theorem gate_bind_eq_ok {α : Type} {c : Prop} [Decidable c] {reason message : String}
    {g : Unit → Except Exit α} {a : α} :
    (gate c reason message >>= g) = .ok a ↔ c ∧ g () = .ok a := by
  unfold gate
  rw [bind_eq_ok]
  simp only [check_eq_ok, Unique.exists_iff, PUnit.default_eq_unit]

theorem unrecorded_bind_eq_ok {α β : Type} {x : Except String α} {g : α → Except Exit β} {b : β} :
    (unrecorded x >>= g) = .ok b ↔ ∃ a, x = .ok a ∧ g a = .ok b := by
  cases x with
  | error message => exact iff_of_false (by simp [unrecorded, Except.mapError]) (by simp)
  | ok a => exact ⟨fun h => ⟨a, rfl, h⟩, fun ⟨_, ha, h⟩ => Except.ok.inj ha ▸ h⟩

/-- The load-only phase goes on exactly with a plan and verified artifacts. -/
theorem loadDecision_eq_ok : loadDecision host env files args = .ok handoff ↔
    ∃ plan kernel initrd, handoff = .load plan kernel initrd ∧
      Ready host env files args.plan args.cache args.evidence args.mutationAck args.dryRun plan
        kernel initrd := by
  unfold loadDecision mutationGate rootGate
  simp only [gate_bind_eq_ok, unrecorded_bind_eq_ok, pure_eq_ok, verifyCachedKernelInitrd_eq_ok]
  constructor
  · rintro ⟨hack, hroot, plan, hplan, cached, hverified, rfl⟩
    exact ⟨plan, cached.1, cached.2, rfl, hack, hroot, hplan, hverified⟩
  · rintro ⟨plan, kernel, initrd, rfl, hack, hroot, hplan, hverified⟩
    exact ⟨hack, hroot, plan, hplan, (kernel, initrd), hverified, rfl⟩

/-- The exec phase needs the second acknowledgement and the earlier proof as well. -/
theorem execDecision_eq_ok : execDecision host env files args = .ok handoff ↔
    ∃ plan kernel initrd, handoff = .exec plan ∧
      Ready host env files args.plan args.cache args.evidence args.mutationAck args.dryRun plan
        kernel initrd ∧ args.rebootAck = true ∧
      pathExists host env files (join args.evidence preExecProofName) = true := by
  unfold execDecision mutationGate rootGate
  simp only [gate_bind_eq_ok, unrecorded_bind_eq_ok, pure_eq_ok, verifyCachedKernelInitrd_eq_ok]
  constructor
  · rintro ⟨hack, hreboot, hroot, plan, hplan, cached, hverified, hexists, rfl⟩
    exact ⟨plan, cached.1, cached.2, rfl, ⟨hack, hroot, hplan, hverified⟩, hreboot, hexists⟩
  · rintro ⟨plan, kernel, initrd, rfl, ⟨hack, hroot, hplan, hverified⟩, hreboot, hexists⟩
    exact ⟨hack, hreboot, hroot, plan, hplan, (kernel, initrd), hverified, hexists, rfl⟩

/-- **What `linux-kexec` goes on with**: one of its two phases. -/
theorem executeDecision_eq_ok (hlinux : args.adapter = "linux-kexec") :
    executeDecision host env files args = .ok handoff ↔
      (args.loadOnly = true ∧ args.execNow = false) ∧ (∃ plan kernel initrd,
          handoff = .load plan kernel initrd ∧ Ready host env files args.plan args.cache
            args.evidence args.mutationAck args.dryRun plan kernel initrd) ∨
        (args.loadOnly = false ∧ args.execNow = true) ∧ ∃ plan kernel initrd,
          handoff = .exec plan ∧ Ready host env files args.plan args.cache args.evidence
            args.mutationAck args.dryRun plan kernel initrd ∧ args.rebootAck = true ∧
          pathExists host env files (join args.evidence preExecProofName) = true := by
  have hm2 : args.adapter ≠ "apple-silicon-m2" := by rw [hlinux]; decide
  unfold executeDecision
  rw [gate_bind_eq_ok, if_neg hm2, if_pos hlinux]
  cases hload : args.loadOnly with
  | true =>
    rw [if_pos rfl, loadDecision_eq_ok]
    simp only [true_and, Bool.not_eq_true, Bool.true_eq_false, false_and, or_false]
  | false =>
    rw [if_neg Bool.false_ne_true]
    cases hexec : args.execNow with
    | true =>
      rw [if_pos rfl, execDecision_eq_ok]
      simp only [Bool.false_eq_true, false_and, not_false_eq_true, true_and, false_or, and_self]
    | false =>
      rw [if_neg Bool.false_ne_true]
      simp only [throw_ne_ok, Bool.false_eq_true, false_and, and_false, or_false]

end

/-! ## Exits without a record -/

section

variable {host : Host N K D} {env : Env D} {files : Files D} {args : ExecuteArgs}

/-- The checks end with an error and nothing on record. -/
def Unrecorded {α : Type} (decision : Except Exit α) : Prop :=
  ∃ message, decision = .error ⟨none, message⟩

theorem not_unrecorded_pure {α : Type} (a : α) : ¬ Unrecorded (pure a : Except Exit α) := by
  rintro ⟨_, h⟩
  exact absurd h (by simp [pure, Except.pure])

theorem not_unrecorded_throw {α : Type} (reason message : String) :
    ¬ Unrecorded (throw ⟨some reason, message⟩ : Except Exit α) := by
  rintro ⟨_, h⟩
  exact absurd (congrArg Exit.reason (Except.error.inj h)) (by simp)

/-- A gate records why it is not passed. -/
theorem unrecorded_gate_bind {α : Type} {c : Prop} [Decidable c] {reason message : String}
    {g : Unit → Except Exit α} :
    Unrecorded (gate c reason message >>= g) ↔ c ∧ Unrecorded (g ()) := by
  unfold gate check
  by_cases hc : c
  · rw [if_pos hc]
    exact (and_iff_right hc).symm
  · rw [if_neg hc]
    exact iff_of_false (not_unrecorded_throw reason message) fun h => hc h.1

/-- A check with `?` does not. -/
theorem unrecorded_bind {α β : Type} {x : Except String α} {g : α → Except Exit β} :
    Unrecorded (unrecorded x >>= g) ↔ (¬ ∃ a, x = .ok a) ∨ ∃ a, x = .ok a ∧ Unrecorded (g a) := by
  cases x with
  | error message =>
    have hleft : Unrecorded (unrecorded (.error message : Except String α) >>= g) := ⟨message, rfl⟩
    exact iff_of_true hleft (.inl fun ⟨_, h⟩ => absurd h (by simp))
  | ok a =>
    constructor
    · exact fun h => .inr ⟨a, rfl, h⟩
    · rintro (h | ⟨a', ha', h⟩)
      · exact absurd ⟨a, rfl⟩ h
      · obtain rfl := Except.ok.inj ha'
        exact h

/-- The flags pass the gates before the plan is read. -/
def Admitted (env : Env D) (args : ExecuteArgs) : Prop :=
  args.mutationAck = true ∧
    (args.adapter = "linux-kexec" ∧ (args.dryRun = true ∨ env.euid = 0) ∧
        (args.loadOnly = true ∧ args.execNow = false ∨
          args.loadOnly = false ∧ args.execNow = true ∧ args.rebootAck = true) ∨
      args.adapter = "apple-silicon-m2" ∧ args.loadOnly = true ∧ args.execNow = false ∧
        args.dryRun = true)

/-- The plan loads, and for `linux-kexec` the cache holds the artifacts of the record. -/
def Supplied (host : Host N K D) (env : Env D) (files : Files D) (args : ExecuteArgs) : Prop :=
  (∃ plan, loadPlan host env files args.plan = .ok plan) ∧
    (args.adapter = "linux-kexec" →
      ∃ kernel initrd, Verified host env files args.cache args.evidence kernel initrd)

/-- The check of the cache passes for some artifacts. -/
theorem exists_verified_iff {cache evidence : String} :
    (∃ cached, verifyCachedKernelInitrd host env files cache evidence = .ok cached) ↔
      ∃ kernel initrd, Verified host env files cache evidence kernel initrd := by
  constructor
  · rintro ⟨cached, h⟩
    exact ⟨cached.1, cached.2, verifyCachedKernelInitrd_eq_ok.mp h⟩
  · rintro ⟨kernel, initrd, h⟩
    exact ⟨(kernel, initrd), verifyCachedKernelInitrd_eq_ok.mpr h⟩

/-- The plan and the cache, as both executors check them. -/
theorem unrecorded_plan_and_cache {g : BootPlan → CachedArtifactRecord × CachedArtifactRecord →
      Except Exit Handoff} (hlinux : args.adapter = "linux-kexec")
    (hg : ∀ plan cached, ¬ Unrecorded (g plan cached)) :
    Unrecorded (do
      let plan ← unrecorded (loadPlan host env files args.plan)
      let cached ← unrecorded (verifyCachedKernelInitrd host env files args.cache args.evidence)
      g plan cached) ↔ ¬ Supplied host env files args := by
  unfold Supplied
  rw [unrecorded_bind, ← exists_verified_iff]
  simp only [unrecorded_bind, hg, and_false, exists_false, or_false, hlinux, true_imp_iff]
  tauto

theorem loadDecision_unrecorded_iff (hlinux : args.adapter = "linux-kexec") :
    Unrecorded (loadDecision host env files args) ↔ args.mutationAck = true ∧
      (args.dryRun = true ∨ env.euid = 0) ∧ ¬ Supplied host env files args := by
  unfold loadDecision mutationGate rootGate
  rw [unrecorded_gate_bind, unrecorded_gate_bind]
  rw [unrecorded_plan_and_cache hlinux fun _ _ => not_unrecorded_pure _]

theorem execDecision_unrecorded_iff (hlinux : args.adapter = "linux-kexec") :
    Unrecorded (execDecision host env files args) ↔ args.mutationAck = true ∧
      args.rebootAck = true ∧ (args.dryRun = true ∨ env.euid = 0) ∧
        ¬ Supplied host env files args := by
  unfold execDecision mutationGate rootGate
  rw [unrecorded_gate_bind, unrecorded_gate_bind, unrecorded_gate_bind]
  rw [unrecorded_plan_and_cache hlinux fun plan _ h =>
    not_unrecorded_pure (Handoff.exec plan) (unrecorded_gate_bind.mp h).2]

theorem laneDecision_unrecorded_iff (hm2 : args.adapter = "apple-silicon-m2") :
    Unrecorded (laneDecision host env files args) ↔ ¬ args.execNow = true ∧ args.loadOnly = true ∧
      args.mutationAck = true ∧ args.dryRun = true ∧ ¬ Supplied host env files args := by
  have hne : args.adapter ≠ "linux-kexec" := by rw [hm2]; decide
  unfold laneDecision mutationGate Supplied
  rw [unrecorded_gate_bind, unrecorded_gate_bind, unrecorded_gate_bind, unrecorded_gate_bind,
    unrecorded_bind]
  have hend : ∀ plan : BootPlan, ¬ Unrecorded (pure (.lane plan) : Except Exit Handoff) :=
    fun plan => not_unrecorded_pure _
  simp only [hend, and_false, exists_false, or_false, hne, false_imp_iff, and_true]

/-- **The exits without a record**: the flags pass, and the plan does not load or the cache does not
hold the artifacts. -/
theorem executeDecision_unrecorded_iff : Unrecorded (executeDecision host env files args) ↔
    Admitted env args ∧ ¬ Supplied host env files args := by
  unfold executeDecision Admitted
  rw [unrecorded_gate_bind]
  by_cases hm2 : args.adapter = "apple-silicon-m2"
  · have hne : args.adapter ≠ "linux-kexec" := by rw [hm2]; decide
    rw [if_pos hm2, laneDecision_unrecorded_iff hm2]
    simp only [eq_true hm2, eq_false hne, false_and, true_and, false_or, ← Bool.not_eq_true]
    tauto
  rw [if_neg hm2]
  by_cases hlinux : args.adapter = "linux-kexec"
  · rw [if_pos hlinux]
    simp only [eq_false hm2, eq_true hlinux, true_and, false_and, or_false]
    cases hload : args.loadOnly with
    | true =>
      rw [if_pos rfl, loadDecision_unrecorded_iff hlinux]
      simp only [true_and, Bool.not_eq_true, Bool.true_eq_false, false_and, or_false]
      tauto
    | false =>
      rw [if_neg Bool.false_ne_true]
      cases hexec : args.execNow with
      | true =>
        rw [if_pos rfl, execDecision_unrecorded_iff hlinux]
        simp only [Bool.false_eq_true, false_and, not_false_eq_true, true_and, false_or]
        tauto
      | false =>
        rw [if_neg Bool.false_ne_true]
        simp only [not_unrecorded_throw, Bool.false_eq_true, false_and, and_false, or_false]
  · rw [if_neg hlinux]
    simp only [not_unrecorded_throw, eq_false hm2, eq_false hlinux, false_and, and_false, or_false]

end

end Nlboot.Client
