import Mathlib.Data.List.Perm.Basic
import Nlboot.Client.CanonicalMap
import Nlboot.Client.Evidence

/-!
# What `load_plan` reads

`load_plan` (`rust/nlboot-client/src/main.rs`) takes a plan by itself or under the member `plan` of
a plan output, whoever wrote it: further members are ignored, and the order of the members and of
the artifacts does not matter.

* `PlanMembers`: the members that say a plan.
* `ReadAs`: a text is read as a document with one value per name, up to the order of its members.

Results:
* `btreeMap_eq_of_perm`, `decodeMap_same`: a map forgets the order of its entries.
* `BootPlan.deserialize_same`: the same members say the same plan.
* **`loadPlan_bare`**, **`loadPlan_output`**, **`loadPlan_noNote`**: what is loaded from a plan,
  from a plan output, and from an object with a plan but no note.
-/

namespace Nlboot.Client

open Nlboot.Lib

variable {N K D α : Type}

/-! ## Maps -/

theorem btreeMap_of_nodup {entries : List (String × α)} (h : (entries.map Prod.fst).Nodup) :
    btreeMap entries = sortByKey rustLe entries := by
  unfold btreeMap
  rw [foldl_dictSet_of_nodup entries [] (by simpa using h), List.nil_append]

/-- **A map forgets the order** of entries with distinct keys. -/
theorem btreeMap_eq_of_perm {entries entries' : List (String × α)} (h : entries.Perm entries')
    (hn : (entries.map Prod.fst).Nodup) : btreeMap entries = btreeMap entries' := by
  rw [btreeMap_of_nodup hn, btreeMap_of_nodup ((h.map Prod.fst).nodup_iff.mp hn)]
  exact sortByKey_eq_of_perm rustLe_total rustLe_trans rustLe_antisymm h hn

/-- The entries of a map make the map again. -/
theorem btreeMap_btreeMap (entries : List (String × α)) :
    btreeMap (btreeMap entries) = btreeMap entries := by
  have hperm : (btreeMap entries).Perm (entries.foldl (fun map e => dictSet map e.1 e.2) []) :=
    sortByKey_perm rustLe _
  have hnodup := nodup_btreeMap entries
  rw [btreeMap_of_nodup hnodup]
  exact sortByKey_eq_of_perm rustLe_total rustLe_trans rustLe_antisymm hperm hnodup

/-- An object of texts. -/
def textMembers (entries : List (String × String)) : Members N :=
  entries.map fun e => (e.1, .str e.2)

theorem names_textMembers (entries : List (String × String)) :
    (textMembers entries : Members N).map Prod.fst = entries.map Prod.fst := by
  unfold textMembers
  rw [List.map_map]
  rfl

theorem decodeMap_textMembers (entries : List (String × String)) :
    decodeMap (.obj (textMembers entries) : Json N) = some (btreeMap entries) := by
  have hdecoded : (textMembers entries : Members N).mapM
      (fun m => (m.1, ·) <$> decodeString m.2) = some entries := by
    unfold textMembers
    rw [mapM_eq_some, List.forall₂_map_left_iff, List.forall₂_same]
    exact fun e _ => rfl
  show btreeMap <$> _ = _
  rw [hdecoded]
  rfl

/-- The same object of texts is one of the same texts in some order. -/
theorem same_textMembers {entries : List (String × String)} {v : Json N}
    (h : Json.Same (.obj (textMembers entries)) v) (hn : (entries.map Prod.fst).Nodup) :
    ∃ entries', v = .obj (textMembers entries') ∧ entries'.Perm entries := by
  cases v with
  | obj members =>
    obtain ⟨hlength, hmembers⟩ := h
    have hsub : (textMembers entries : Members N) ⊆ members := by
      intro m hm
      obtain ⟨e, -, rfl⟩ := List.mem_map.mp hm
      obtain ⟨v', hget, hsame⟩ := Json.sameMembers_iff.mp hmembers _ hm
      obtain rfl := Json.same_str.mp hsame
      obtain ⟨before, after, rfl, -⟩ := List.lookup_eq_some_iff.mp hget
      simp
    have hnodup : (textMembers entries : Members N).Nodup :=
      List.Nodup.of_map Prod.fst (by rwa [names_textMembers])
    have hperm : members.Perm (textMembers entries) :=
      ((List.subperm_of_subset hnodup hsub).perm_of_length_le (by omega)).symm
    obtain ⟨entries', hmap, hperm'⟩ :=
      (congrFun₂ (List.eq_map_comp_perm fun e : String × String => (e.1, (.str e.2 : Json N)))
        members entries).mpr hperm
    exact ⟨entries', congrArg Json.obj hmap, hperm'⟩
  | null | bool | num | str | arr => exact h.elim

/-- **The same object of texts** is decoded as the same map. -/
theorem decodeMap_same {entries : List (String × String)} {v : Json N}
    (h : Json.Same (.obj (textMembers entries)) v) (hn : (entries.map Prod.fst).Nodup) :
    decodeMap v = some (btreeMap entries) := by
  obtain ⟨entries', rfl, hperm⟩ := same_textMembers h hn
  rw [decodeMap_textMembers, btreeMap_eq_of_perm hperm.symm hn]

/-! ## Plans -/

/-- The members say the plan. -/
structure PlanMembers (members : Members N) (plan : BootPlan) : Prop where
  distinct : (members.map Prod.fst).Nodup
  action : members.get "action" = some (.str plan.action)
  manifestId : members.get "manifest_id" = some (.str plan.manifestId)
  bootReleaseSetId : members.get "boot_release_set_id" = some (.str plan.bootReleaseSetId)
  releaseSetRef : members.get "release_set_ref" = some (.str plan.releaseSetRef)
  artifacts : ∃ entries, members.get "artifacts" = some (.obj (textMembers entries)) ∧
    (entries.map Prod.fst).Nodup ∧ btreeMap entries = plan.artifacts
  authorizedBy : members.get "authorized_by" = some (.str plan.authorizedBy)
  signatureAlgorithm : members.get "signature_algorithm" = some (.str plan.signatureAlgorithm)
  cryptoProfile : members.get "crypto_profile" = some (.str plan.cryptoProfile)
  policyRef : members.get "policy_ref" = some (.str plan.policyRef)
  allowedOperations : members.get "allowed_operations" =
    some (.arr (plan.allowedOperations.map .str))
  proofRequirements : members.get "proof_requirements" =
    some (.arr (plan.proofRequirements.map .str))
  offlineFallback : members.get "offline_fallback" = some plan.offlineFallback.serialize
  execute : members.get "execute" = some (.bool plan.execute)

theorem same_bool {b : Bool} {v : Json N} (h : Json.Same (.bool b) v) : v = .bool b := by
  cases v with
  | bool b' => exact congrArg Json.bool (show b = b' from h).symm
  | null | num | str | arr | obj => exact h.elim

theorem same_texts : ∀ {texts : List String} {items : List (Json N)},
    List.Forall₂ Json.Same (texts.map .str) items → items = texts.map .str
  | [], _, h => List.forall₂_nil_left_iff.mp h
  | text :: texts, _, h => by
    obtain ⟨item, items, hitem, hitems, rfl⟩ := List.forall₂_cons_left_iff.mp h
    rw [Json.same_str.mp hitem, same_texts hitems, List.map_cons]

theorem decodeVec_same {texts : List String} {v : Json N}
    (h : Json.Same (.arr (texts.map .str)) v) : decodeVec decodeString v = some texts := by
  cases v with
  | arr items =>
    rw [same_texts (Json.sameItems_iff.mp h)]
    show (texts.map .str).mapM decodeString = some texts
    rw [mapM_eq_some, List.forall₂_map_left_iff, List.forall₂_same]
    exact fun text _ => rfl
  | null | bool | num | str | obj => exact h.elim

/-- A member of an object is one of the same object. -/
theorem get_of_same {members members' : Members N} (h : Json.Same (.obj members) (.obj members'))
    {name : String} {v : Json N} (hget : members.get name = some v) :
    ∃ v', members'.get name = some v' ∧ Json.Same v v' := by
  obtain ⟨before, after, hsplit, -⟩ := List.lookup_eq_some_iff.mp hget
  exact Json.sameMembers_iff.mp h.2 (name, v) (by rw [hsplit]; simp)

section

variable {members members' : Members N} (h : Json.Same (.obj members) (.obj members'))
  {name : String}

include h

theorem required_string_same {text : String} (hget : members.get name = some (.str text)) :
    required decodeString members' name = some text := by
  obtain ⟨v, hv, hsame⟩ := get_of_same h hget
  exact required_eq_some.mpr ⟨v, hv, decodeString_eq_some.mpr (Json.same_str.mp hsame)⟩

theorem required_bool_same {b : Bool} (hget : members.get name = some (.bool b)) :
    required decodeBool members' name = some b := by
  obtain ⟨v, hv, hsame⟩ := get_of_same h hget
  exact required_eq_some.mpr ⟨v, hv, decodeBool_eq_some.mpr (same_bool hsame)⟩

theorem required_texts_same {texts : List String}
    (hget : members.get name = some (.arr (texts.map .str))) :
    required (decodeVec decodeString) members' name = some texts := by
  obtain ⟨v, hv, hsame⟩ := get_of_same h hget
  exact required_eq_some.mpr ⟨v, hv, decodeVec_same hsame⟩

end

/-- A decoded field, and the decoding goes on. -/
theorem bind_of_eq_some {β : Type} {x : Option α} {f : α → Option β} {a : α} (h : x = some a) :
    (x >>= f) = f a := by
  rw [h]
  rfl

/-- The same fallback is decoded alike. -/
theorem OfflineFallback.deserialize_same {fallback : OfflineFallback} {v : Json N}
    (h : Json.Same fallback.serialize v) (hn : v.distinctNames = true) :
    deserialize v = some fallback := by
  cases v with
  | obj members =>
    exact (structMembers_bind (Json.distinctNames_obj.mp hn).1).trans <|
      (bind_of_eq_some (required_bool_same h rfl)).trans <|
      (bind_of_eq_some (required_string_same h rfl)).trans <|
      (bind_of_eq_some (required_bool_same h rfl)).trans <|
      (bind_of_eq_some (required_bool_same h rfl)).trans rfl
  | null | bool | num | str | arr => exact h.elim

/-- **The same members** say the same plan. -/
theorem BootPlan.deserialize_same {members : Members N} {plan : BootPlan} {v : Json N}
    (hplan : PlanMembers members plan) (h : Json.Same (.obj members) v)
    (hn : v.distinctNames = true) : deserialize v = some plan := by
  cases v with
  | obj members' =>
    obtain ⟨entries, hentries, hnodup, hmap⟩ := hplan.artifacts
    obtain ⟨refs, hrefs, hsameRefs⟩ := get_of_same h hentries
    have hartifacts : required decodeMap members' "artifacts" = some plan.artifacts :=
      required_eq_some.mpr ⟨refs, hrefs, hmap ▸ decodeMap_same hsameRefs hnodup⟩
    obtain ⟨inner, hinner, hsameInner⟩ := get_of_same h hplan.offlineFallback
    have hfallback : required OfflineFallback.deserialize members' "offline_fallback" =
        some plan.offlineFallback :=
      required_eq_some.mpr ⟨inner, hinner,
        OfflineFallback.deserialize_same hsameInner (distinctNames_of_get hn hinner)⟩
    exact (structMembers_bind (Json.distinctNames_obj.mp hn).1).trans <|
      (bind_of_eq_some (required_string_same h hplan.action)).trans <|
      (bind_of_eq_some (required_string_same h hplan.manifestId)).trans <|
      (bind_of_eq_some (required_string_same h hplan.bootReleaseSetId)).trans <|
      (bind_of_eq_some (required_string_same h hplan.releaseSetRef)).trans <|
      (bind_of_eq_some hartifacts).trans <|
      (bind_of_eq_some (required_string_same h hplan.authorizedBy)).trans <|
      (bind_of_eq_some (required_string_same h hplan.signatureAlgorithm)).trans <|
      (bind_of_eq_some (required_string_same h hplan.cryptoProfile)).trans <|
      (bind_of_eq_some (required_string_same h hplan.policyRef)).trans <|
      (bind_of_eq_some (required_texts_same h hplan.allowedOperations)).trans <|
      (bind_of_eq_some (required_texts_same h hplan.proofRequirements)).trans <|
      (bind_of_eq_some hfallback).trans <|
      (bind_of_eq_some (required_bool_same h hplan.execute)).trans rfl
  | null | bool | num | str | arr => exact h.elim

/-! ## `load_plan` -/

/-- A name that is not there is not in the same object either. -/
theorem get_none_of_same {members members' : Members N}
    (h : Json.Same (.obj members) (.obj members')) (hn : (members.map Prod.fst).Nodup)
    {name : String} (hget : members.get name = none) : members'.get name = none := by
  have hrel := h.get hn name
  rw [hget] at hrel
  cases hget' : members'.get name with
  | none => rfl
  | some v =>
    rw [hget'] at hrel
    cases hrel

/-- The text is read as the document: it repeats no name, and says the same value. -/
def ReadAs (host : Host N K D) (raw : List UInt8) (document : Json N) : Prop :=
  ∃ value, host.parse raw = .json value ∧ value.distinctNames = true ∧ Json.Same document value

section

variable {host : Host N K D} {env : Env D} {files : Files D} {path : String} {raw : List UInt8}
  {members : Members N}

/-- The value of a file that is read as an object. -/
theorem readValue_of_readAs (hread : readFile host env files path = some raw)
    (hreads : ReadAs host raw (.obj members)) :
    ∃ members', readValue host env files path = .ok (.obj members') ∧
      (Json.obj members').distinctNames = true ∧ Json.Same (.obj members) (.obj members') := by
  obtain ⟨value, hparse, hn, hsame⟩ := hreads
  cases value with
  | obj members' =>
    refine ⟨members', readJson_of_readFile hread hparse ?_, hn, hsame⟩
    rw [toValue_eq_self hn]
  | null | bool | num | str | arr => exact hsame.elim

/-- **A plan by itself** is loaded. -/
theorem loadPlan_bare {plan : BootPlan} (hread : readFile host env files path = some raw)
    (hreads : ReadAs host raw (.obj members)) (hplan : PlanMembers members plan)
    (hbare : members.get "plan" = none) : loadPlan host env files path = .ok plan := by
  obtain ⟨members', hvalue, hn, hsame⟩ := readValue_of_readAs hread hreads
  have hget : valueGet (.obj members') "plan" = none :=
    get_none_of_same hsame hplan.distinct hbare
  unfold loadPlan
  rw [hvalue]
  refine bind_eq_ok.mpr ⟨_, rfl, ?_⟩
  rw [hget]
  exact orThrow_eq_ok.mpr (BootPlan.deserialize_same hplan hsame hn)

/-- **A plan in a plan output** is loaded. -/
theorem loadPlan_output {inner : Members N} {plan : BootPlan} {ok : Bool} {note : String}
    (hread : readFile host env files path = some raw) (hreads : ReadAs host raw (.obj members))
    (hok : members.get "ok" = some (.bool ok)) (hinner : members.get "plan" = some (.obj inner))
    (hnote : members.get "implementation_note" = some (.str note))
    (hplan : PlanMembers inner plan) : loadPlan host env files path = .ok plan := by
  obtain ⟨members', hvalue, hn, hsame⟩ := readValue_of_readAs hread hreads
  obtain ⟨v, hv, hsameInner⟩ := get_of_same hsame hinner
  have hplan' : required BootPlan.deserialize members' "plan" = some plan :=
    required_eq_some.mpr ⟨v, hv,
      BootPlan.deserialize_same hplan hsameInner (distinctNames_of_get hn hv)⟩
  have houtput : PlanOutput.deserialize (.obj members') = some ⟨ok, plan, note⟩ :=
    (structMembers_bind (Json.distinctNames_obj.mp hn).1).trans <|
      (bind_of_eq_some (required_bool_same hsame hok)).trans <|
      (bind_of_eq_some hplan').trans <|
      (bind_of_eq_some (required_string_same hsame hnote)).trans rfl
  have hget : valueGet (.obj members') "plan" = some v := hv
  unfold loadPlan
  rw [hvalue]
  refine bind_eq_ok.mpr ⟨_, rfl, ?_⟩
  rw [hget]
  exact bind_eq_ok.mpr ⟨_, orThrow_eq_ok.mpr houtput, rfl⟩

/-- **An object with a plan but no note** is refused. -/
theorem loadPlan_noNote {v : Json N} (hread : readFile host env files path = some raw)
    (hreads : ReadAs host raw (.obj members)) (hdistinct : (members.map Prod.fst).Nodup)
    (hinner : members.get "plan" = some v) (hnote : members.get "implementation_note" = none) :
    loadPlan host env files path = .error "failed to parse plan output" := by
  obtain ⟨members', hvalue, hn, hsame⟩ := readValue_of_readAs hread hreads
  obtain ⟨v', hv', -⟩ := get_of_same hsame hinner
  have hmissing : required decodeString members' "implementation_note" = none := by
    unfold required
    rw [get_none_of_same hsame hdistinct hnote]
    rfl
  have houtput : PlanOutput.deserialize (.obj members') = none := by
    unfold PlanOutput.deserialize
    rw [structMembers_bind (Json.distinctNames_obj.mp hn).1, hmissing]
    cases required decodeBool members' "ok" with
    | none => rfl
    | some ok => cases required BootPlan.deserialize members' "plan" <;> rfl
  have hget : valueGet (.obj members') "plan" = some v' := hv'
  unfold loadPlan
  simp only [hvalue, bind, Except.bind, hget, houtput]
  rfl

end

end Nlboot.Client
