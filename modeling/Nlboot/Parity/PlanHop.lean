import Nlboot.Client.FetchRecord
import Nlboot.Client.Main
import Nlboot.Client.PlanReading
import Nlboot.Parity.TokenPlan
import Nlboot.Reference.PlannerClock

/-!
# Plans on their way to the next phase

A plan is written by one of two planners, `nlboot-client plan` (`main.rs`) and `main` of `cli.py`,
each in an object of its own, and handed to `fetch` or `execute`, which read it with `load_plan`.
`load_plan` looks for a member `plan` and then wants the plan output of the client, whose
`implementation_note` the reference does not write.

* `PlanFile`: the four documents, and `PlanFile.Emitted`: a planner came to it.
* `PlanFile.Says`: a loaded plan has the value of the document in each of its fields.
* `PlanFile.IsReferenceOutput`: the object `cli.py` prints.

Results:
* `planMembers_serialize`, `planMembers_toDict`: the members the encoders write say the plan.
* **`planHop_iff`**: a plan survives the hop, unless it is in the object `cli.py` prints.
-/

namespace Nlboot.Parity

open Nlboot.Lib Nlboot.Reference

variable {N K D : Type}

/-! ## The documents -/

/-- A document of a planner: the object it writes, or the plan in it by itself. -/
inductive PlanFile where
  | clientOutput (output : Client.PlanOutput)
  | clientPlan (plan : Client.BootPlan)
  | referenceOutput (plan : BootPlan)
  | referencePlan (plan : BootPlan)

namespace PlanFile

def document : PlanFile → Json N
  | clientOutput output => output.serialize
  | clientPlan plan => plan.serialize
  | referenceOutput plan => planDocument plan
  | referencePlan plan => .obj plan.toDict

/-- The client came to the output. -/
def ByClient (output : Client.PlanOutput) : Prop :=
  ∃ (N K D : Type) (host : Client.Host N K D) (env : Client.Env D) (files : Client.Files D)
    (args : Client.PlanArgs), Client.planOutput host env files args = .ok output

/-- The reference came to the plan, from a manifest document as `json.loads` returns it. -/
def ByReference (plan : BootPlan) : Prop :=
  ∃ (N K : Type) (rt : Runtime N) (crypto : Crypto K) (clock : UtcTime) (args : PlanArgs N),
    args.manifest.value.distinctNames = true ∧
      planFromDocuments rt crypto clock args = .ok plan

/-- A planner came to the plan of the document. -/
def Emitted : PlanFile → Prop
  | clientOutput output => ByClient output
  | clientPlan plan => ∃ output, ByClient output ∧ output.plan = plan
  | referenceOutput plan => ByReference plan
  | referencePlan plan => ByReference plan

/-- The loaded plan has the value of the document in each of its fields. -/
def Says : PlanFile → Client.BootPlan → Prop
  | clientOutput output, loaded => loaded = output.plan
  | clientPlan plan, loaded => loaded = plan
  | referenceOutput plan, loaded => PlansAgree loaded plan
  | referencePlan plan, loaded => PlansAgree loaded plan

/-- The document is the object `cli.py` prints. -/
def IsReferenceOutput : PlanFile → Prop
  | referenceOutput _ => True
  | _ => False

end PlanFile

/-! ## What the encoders write -/

/-- The members of a plan the client writes. -/
theorem planMembers_serialize {plan : Client.BootPlan}
    (h : Client.btreeMap plan.artifacts = plan.artifacts) :
    ∃ members : Members N, plan.serialize = .obj members ∧ Client.PlanMembers members plan ∧
      members.get "plan" = none :=
  ⟨_, rfl,
    { distinct := show ["action", "manifest_id", "boot_release_set_id", "release_set_ref",
        "artifacts", "authorized_by", "signature_algorithm", "crypto_profile", "policy_ref",
        "allowed_operations", "proof_requirements", "offline_fallback", "execute"].Nodup by decide
      action := rfl
      manifestId := rfl
      bootReleaseSetId := rfl
      releaseSetRef := rfl
      artifacts := ⟨plan.artifacts, rfl, h ▸ Client.nodup_btreeMap plan.artifacts, h⟩
      authorizedBy := rfl
      signatureAlgorithm := rfl
      cryptoProfile := rfl
      policyRef := rfl
      allowedOperations := rfl
      proofRequirements := rfl
      offlineFallback := rfl
      execute := rfl }, rfl⟩

/-- The fields a plan of the reference has in common with the client's. -/
def clientFields (plan : BootPlan) : Client.BootPlan where
  action := plan.action
  manifestId := plan.manifestId
  bootReleaseSetId := plan.bootReleaseSetId
  releaseSetRef := plan.releaseSetRef
  artifacts := Client.btreeMap plan.artifacts
  authorizedBy := plan.authorizedBy
  signatureAlgorithm := plan.signatureAlgorithm
  cryptoProfile := plan.cryptoProfile
  policyRef := plan.policyRef
  allowedOperations := plan.allowedOperations
  proofRequirements := plan.proofRequirements
  offlineFallback :=
    { enabled := plan.offlineFallback.enabled
      strategy := plan.offlineFallback.strategy
      requiresSignatureVerification := plan.offlineFallback.requiresSignatureVerification
      allowsUnsignedArtifacts := plan.offlineFallback.allowsUnsignedArtifacts }
  execute := plan.execute

theorem clientFields_agree {plan : BootPlan} (h : (plan.artifacts.map Prod.fst).Nodup) :
    PlansAgree (clientFields plan) plan where
  action := rfl
  manifestId := rfl
  bootReleaseSetId := rfl
  releaseSetRef := rfl
  artifacts key := by
    show _ = (Client.btreeMap plan.artifacts).lookup key
    rw [Client.lookup_btreeMap, lastFor, lookup_perm (List.reverse_perm _).symm h]
  authorizedBy := rfl
  signatureAlgorithm := rfl
  cryptoProfile := rfl
  policyRef := rfl
  allowedOperations := rfl
  proofRequirements := rfl
  enabled := rfl
  strategy := rfl
  requiresSignatureVerification := rfl
  allowsUnsignedArtifacts := rfl
  execute := rfl

/-- The members of a plan the reference writes. -/
theorem planMembers_toDict {plan : BootPlan} (h : (plan.artifacts.map Prod.fst).Nodup) :
    Client.PlanMembers (plan.toDict : Members N) (clientFields plan) where
  distinct := show ["action", "manifest_id", "boot_release_set_id", "release_set_ref",
    "artifacts", "authorized_by", "signature_algorithm", "crypto_profile", "policy_ref",
    "allowed_operations", "proof_requirements", "offline_fallback", "execute",
    "selected_entry_id", "boot_menu", "required_proofs"].Nodup by decide
  action := rfl
  manifestId := rfl
  bootReleaseSetId := rfl
  releaseSetRef := rfl
  artifacts := ⟨plan.artifacts, rfl, h, rfl⟩
  authorizedBy := rfl
  signatureAlgorithm := rfl
  cryptoProfile := rfl
  policyRef := rfl
  allowedOperations := rfl
  proofRequirements := rfl
  offlineFallback := rfl
  execute := rfl

/-- A list of texts repeats no name. -/
theorem distinctNames_textList (texts : List String) :
    (textList texts : Json N).distinctNames = true := by
  refine Json.distinctNames_arr.mpr fun item hitem => ?_
  obtain ⟨text, -, rfl⟩ := List.mem_map.mp hitem
  rfl

theorem distinctNames_menu (menu : BootMenu) :
    (.obj menu.toDict : Json N).distinctNames = true := by
  have hentries : (.arr (menu.entries.map fun entry => .obj entry.toDict) : Json N).distinctNames =
      true := by
    refine Json.distinctNames_arr.mpr fun item hitem => ?_
    obtain ⟨entry, -, rfl⟩ := List.mem_map.mp hitem
    refine Json.distinctNames_obj.mpr ⟨show ["entry_id", "label", "boot_release_set_id",
      "release_set_ref", "boot_mode", "role", "default", "rollback_eligible"].Nodup by decide, ?_⟩
    simp [BootMenuEntry.toDict, Json.distinctNames]
  refine Json.distinctNames_obj.mpr
    ⟨show ["menu_id", "default_entry_id", "entries"].Nodup by decide, ?_⟩
  simp only [BootMenu.toDict, List.forall_mem_cons, hentries]
  simp [Json.distinctNames]

/-- **What `main` prints** repeats no name. -/
theorem distinctNames_planDocument {plan : BootPlan} (h : (plan.artifacts.map Prod.fst).Nodup) :
    (planDocument plan : Json N).distinctNames = true := by
  have hartifacts : (.obj (plan.artifacts.map fun m => (m.1, .str m.2)) : Json N).distinctNames =
      true := by
    refine Json.distinctNames_obj.mpr ⟨by rwa [List.map_map], fun m hm => ?_⟩
    obtain ⟨e, -, rfl⟩ := List.mem_map.mp hm
    rfl
  have hfallback : (.obj plan.offlineFallback.toDict : Json N).distinctNames = true := by
    refine Json.distinctNames_obj.mpr ⟨show ["enabled", "strategy",
      "requires_signature_verification", "allows_unsigned_artifacts"].Nodup by decide, ?_⟩
    simp [OfflineFallback.toDict, Json.distinctNames]
  have hplan : (.obj plan.toDict : Json N).distinctNames = true := by
    have hselected : (textOrNone plan.selectedEntryId : Json N).distinctNames = true := by
      cases plan.selectedEntryId <;> rfl
    refine Json.distinctNames_obj.mpr ⟨(planMembers_toDict h).distinct, ?_⟩
    simp only [BootPlan.toDict, List.forall_mem_cons, hartifacts, hfallback, hselected,
      distinctNames_textList]
    simp only [Json.distinctNames, true_and, List.not_mem_nil, false_implies, implies_true,
      and_true]
    cases plan.bootMenu with
    | none => rfl
    | some menu => exact distinctNames_menu menu
  refine Json.distinctNames_obj.mpr ⟨show ["ok", "plan"].Nodup by decide, ?_⟩
  simp only [List.forall_mem_cons, hplan]
  simp [Json.distinctNames]

/-! ## What the planners come to -/

/-- The artifacts of a manifest are a map. -/
theorem artifacts_of_deserialize {doc : Json N} {manifest : Client.SignedBootManifest}
    (h : Client.SignedBootManifest.deserialize doc = some manifest) :
    ∃ pairs, manifest.artifacts = Client.btreeMap pairs := by
  obtain ⟨_, -, h⟩ := Option.bind_eq_some_iff.mp h
  obtain ⟨_, -, h⟩ := Option.bind_eq_some_iff.mp h
  obtain ⟨_, -, h⟩ := Option.bind_eq_some_iff.mp h
  obtain ⟨_, -, h⟩ := Option.bind_eq_some_iff.mp h
  obtain ⟨_, -, h⟩ := Option.bind_eq_some_iff.mp h
  obtain ⟨_, hartifacts, h⟩ := Option.bind_eq_some_iff.mp h
  obtain ⟨_, -, hmap⟩ := Client.required_eq_some.mp hartifacts
  obtain ⟨_, -, h⟩ := Option.bind_eq_some_iff.mp h
  obtain ⟨_, -, h⟩ := Option.bind_eq_some_iff.mp h
  obtain ⟨_, -, h⟩ := Option.bind_eq_some_iff.mp h
  obtain ⟨_, -, h⟩ := Option.bind_eq_some_iff.mp h
  obtain ⟨_, -, h⟩ := Option.bind_eq_some_iff.mp h
  obtain rfl := Option.some.inj h
  exact Client.decodeMap_eq_some hmap

/-- The artifacts of the client's plan are a map. -/
theorem PlanFile.ByClient.sorted {output : Client.PlanOutput} (h : ByClient output) :
    Client.btreeMap output.plan.artifacts = output.plan.artifacts := by
  obtain ⟨N, K, D, host, env, files, args, houtput⟩ := h
  obtain ⟨_, -, houtput⟩ := bind_eq_ok.mp houtput
  obtain ⟨manifest, hmanifest, houtput⟩ := bind_eq_ok.mp houtput
  obtain ⟨_, -, houtput⟩ := bind_eq_ok.mp houtput
  obtain ⟨_, -, houtput⟩ := bind_eq_ok.mp houtput
  obtain ⟨_, -, houtput⟩ := bind_eq_ok.mp houtput
  obtain ⟨_, -, houtput⟩ := bind_eq_ok.mp houtput
  obtain ⟨_, -, houtput⟩ := bind_eq_ok.mp houtput
  obtain rfl := pure_eq_ok.mp houtput
  obtain ⟨pairs, hpairs⟩ := artifacts_of_deserialize (orThrow_eq_ok.mp hmanifest)
  show Client.btreeMap manifest.artifacts = manifest.artifacts
  rw [hpairs, Client.btreeMap_btreeMap]

/-- The artifacts of the reference's plan have distinct names. -/
theorem PlanFile.ByReference.nodup {plan : BootPlan} (h : ByReference plan) :
    (plan.artifacts.map Prod.fst).Nodup := by
  obtain ⟨N, K, rt, crypto, clock, args, hdistinct, hplan⟩ := h
  obtain ⟨data, _, _, manifest, token, hdata, -, -, -, hdoc, -, -, rfl⟩ :=
    planFromDocuments_eq_ok.mp hplan
  obtain ⟨refs, ⟨hrefs, -⟩, hartifacts⟩ := hdoc.artifacts
  rw [hdata] at hdistinct
  show (manifest.artifacts.map Prod.fst).Nodup
  rw [hartifacts, List.map_map]
  exact nodup_of_get hdistinct hrefs

/-! ## The hop -/

/-- **Plans survive the hop**, to `fetch` as to `execute`, but for those in the object `cli.py`
prints: `load_plan` accepts every other document of a planner, with the value of each field. -/
theorem planHop_iff {host : Client.Host N K D} {env : Client.Env D} {files : Client.Files D}
    {path : String} {raw : List UInt8} (file : PlanFile) (hemitted : file.Emitted)
    (hread : Client.readFile host env files path = some raw)
    (hreads : Client.ReadAs host raw file.document) :
    (∃ loaded, Client.loadPlan host env files path = .ok loaded ∧ file.Says loaded) ↔
      ¬ file.IsReferenceOutput := by
  cases file with
  | clientOutput output =>
    obtain ⟨members, hserialize, hplan, -⟩ := planMembers_serialize (N := N) hemitted.sorted
    have hinner : Members.get [("ok", .bool output.ok), ("plan", output.plan.serialize),
        ("implementation_note", .str output.implementationNote)] "plan" =
          some (.obj members) := congrArg some hserialize
    exact iff_of_true ⟨_, Client.loadPlan_output hread hreads rfl hinner rfl hplan, rfl⟩ not_false
  | clientPlan plan =>
    obtain ⟨output, houtput, rfl⟩ := hemitted
    obtain ⟨members, hserialize, hplan, hbare⟩ := planMembers_serialize (N := N) houtput.sorted
    have hreads' : Client.ReadAs host raw (.obj members) := hserialize ▸ hreads
    exact iff_of_true ⟨_, Client.loadPlan_bare hread hreads' hplan hbare, rfl⟩ not_false
  | referenceOutput plan =>
    have hrefused := Client.loadPlan_noNote (v := .obj plan.toDict) hread hreads
      (show ["ok", "plan"].Nodup by decide) rfl rfl
    refine iff_of_false ?_ (not_not.mpr trivial)
    rintro ⟨loaded, hloaded, -⟩
    exact absurd (hrefused.symm.trans hloaded) (by simp)
  | referencePlan plan =>
    exact iff_of_true ⟨_, Client.loadPlan_bare hread hreads (planMembers_toDict hemitted.nodup) rfl,
      clientFields_agree hemitted.nodup⟩ not_false

/-! ### The plan of `newYearRun` -/

/-- The document with its members sorted, as `json.dumps` prints it. -/
def sortedDocument (document : Json Int) : Json Int := document.sortKeys pyLe

/-- The library that knows this text only. -/
def textLibrary (document : Json Int) : Client.Library where
  documents := [sortedDocument document]
  digests := []
  times := []

/-- The text in a file of the working directory. -/
def textFiles (document : Json Int) : Client.Files (List String) := fun location =>
  List.lookup location
    [(⟨["srv"], "plan"⟩, .file (Client.printed (sortedDocument document)))]

theorem readAs_sorted {document : Json Int} (h : document.distinctNames = true) :
    Client.ReadAs (Client.lexicalHost (textLibrary document))
      (Client.printed (sortedDocument document)) document := by
  have hdocuments : (textLibrary document).documents = [] ++ sortedDocument document :: [] := rfl
  have hparse := Client.parse_jsonBytes [] hdocuments fun _ h => absurd h List.not_mem_nil
  exact ⟨_, hparse, Json.distinctNames_sortKeys h, Json.same_sortKeys h⟩

theorem readFile_textFiles (document : Json Int) :
    Client.readFile (Client.lexicalHost (textLibrary document)) Client.Stage.env
      (textFiles document) "plan" = some (Client.printed (sortedDocument document)) :=
  Client.readFile_srv (by decide) rfl

/-- The reference comes to a plan. -/
theorem exists_byReference : ∃ plan, PlanFile.ByReference plan := by
  obtain ⟨plan, hplan⟩ := newYearRun_yearEnd rfl
  exact ⟨plan, Int, String, pyRuntime, pyCrypto, yearEnd, _, by decide, hplan⟩

/-- The object `cli.py` prints of a plan is refused. And a plan with a surrogate in it is printed as
one of no text that the client has. -/
theorem printedPlan_refused : (∃ plan, PlanFile.ByReference plan ∧
    Client.loadPlan (Client.lexicalHost (textLibrary (planDocument plan))) Client.Stage.env
      (textFiles (planDocument plan)) "plan" = .error "failed to parse plan output") ∧
    ∀ s : String, pyLiteral loneSurrogate ≠ pyLiteral s := by
  obtain ⟨plan, hplan⟩ := exists_byReference
  have hreads := readAs_sorted (distinctNames_planDocument hplan.nodup)
  exact ⟨⟨plan, hplan, Client.loadPlan_noNote (readFile_textFiles _) hreads
    (show ["ok", "plan"].Nodup by decide) rfl rfl⟩, pyLiteral_loneSurrogate⟩

/-- The plan by itself is loaded. -/
theorem barePlan_loaded : ∃ plan, PlanFile.ByReference plan ∧
    ∃ loaded, Client.loadPlan (Client.lexicalHost (textLibrary (.obj plan.toDict))) Client.Stage.env
      (textFiles (.obj plan.toDict)) "plan" = .ok loaded ∧ PlansAgree loaded plan := by
  obtain ⟨plan, hplan⟩ := exists_byReference
  have hget : Members.get [("ok", .bool true), ("plan", .obj plan.toDict)] "plan" =
      some (.obj plan.toDict : Json Int) := rfl
  have hdistinct := distinctNames_of_get (distinctNames_planDocument hplan.nodup) hget
  exact ⟨plan, hplan, (planHop_iff (.referencePlan plan) hplan (readFile_textFiles _)
    (readAs_sorted hdistinct)).mpr not_false⟩

end Nlboot.Parity
