import Nlboot.Reference.ClaimDocuments
import Nlboot.Reference.KeyLifecycle
import Nlboot.Reference.SignedPart

/-!
# Trust bundles

A trust bundle is a trusted-key document that a root key signed (`load_verified_trust_bundle`,
`verify.py`). Its payload leaves out `signature_hex` and `signatures`, and sorts the rest.

* `signatureFields`: the members the signature is not made over.
* `Presented`: a bundle as the loader wants it, and the root it names.

Results:
* **`loadVerifiedTrustBundle_eq_ok`**: which bundles are loaded, and what they come to.
* `loadTrustedKeys_same`: the same documents load the same keys, or fail with the same error.
* **`bundle_covers`**: a payload and a signature settle the outcome.
-/

namespace Nlboot.Reference

open Nlboot.Lib

variable {N K : Type} {rt : Runtime N} {crypto : Crypto K} {clock : UtcTime}
  {now : Option Moment}

/-- The members that `canonical_trust_bundle_payload` leaves out. -/
def signatureFields : List String := ["signature_hex", "signatures"]

/-- The bundle names itself, its root and the FIPS profile, and has a signature. -/
structure Presented (data : Members N) (signerRef signatureHex : String) : Prop where
  bundleId : ∃ bundleId, data.get "bundle_id" = some (.str bundleId) ∧ bundleId ≠ ""
  signerRef : data.get "signer_ref" = some (.str signerRef) ∧ signerRef ≠ ""
  signatureHex : data.get "signature_hex" = some (.str signatureHex) ∧ signatureHex ≠ ""
  algorithm : data.get "signature_algorithm" = some (.str fipsReadyAlgorithm)
  profile : data.get "crypto_profile" = some (.str fipsReadyProfile)

/-- **A bundle is loaded** iff it is presented, its root is one of the root keys and live, the
signature is one of that root, and the keys load; it comes to these keys. -/
theorem loadVerifiedTrustBundle_eq_ok {rootKeys loaded : TrustedKeys} {data : Members N} :
    loadVerifiedTrustBundle rt crypto clock now rootKeys data = .ok loaded ↔
      ∃ signerRef signatureHex root, Presented data signerRef signatureHex ∧
        rootKeys.lookup signerRef = some root ∧ root.validateLifecycle rt clock now = .ok () ∧
        Verifies crypto root signatureHex (canonicalTrustBundlePayload rt.num data) ∧
        loadTrustedKeys rt clock now data = .ok loaded := by
  unfold loadVerifiedTrustBundle
  simp only [bind_eq_ok, nonEmptyString_eq_ok, check_eq_ok, equalsText_iff, exists_const]
  constructor
  · rintro ⟨bundleId, hbundle, signerRef, hsigner, signatureHex, hhex, halgorithm, hprofile, h⟩
    cases hlookup : rootKeys.lookup signerRef with
    | none => exact absurd (hlookup ▸ h) throw_ne_ok
    | some root =>
      rw [hlookup] at h
      simp only [bind_eq_ok, verifyRsaPssSha256_eq_ok] at h
      obtain ⟨_, hlive, _, hverifies, hload⟩ := h
      exact ⟨signerRef, signatureHex, root,
        ⟨⟨bundleId, hbundle⟩, hsigner, hhex, halgorithm, hprofile⟩, hlookup, hlive, hverifies,
        hload⟩
  · rintro ⟨signerRef, signatureHex, root, hpresented, hlookup, hlive, hverifies, hload⟩
    obtain ⟨bundleId, hbundle⟩ := hpresented.bundleId
    refine ⟨bundleId, hbundle, signerRef, hpresented.signerRef, signatureHex,
      hpresented.signatureHex, hpresented.algorithm, hpresented.profile, ?_⟩
    rw [hlookup]
    simp only [bind_eq_ok, verifyRsaPssSha256_eq_ok]
    exact ⟨(), hlive, (), hverifies, hload⟩

/-! ## Documents with the same members -/

/-- Values that are the same are read alike where only texts, numbers and the kind of a value
matter. -/
theorem SameField.read {data data' : Members N} {name : String} {α : Type}
    {read : Option (Json N) → α} (h : SameField data data' name)
    (harr : ∀ items items', read (some (.arr items)) = read (some (.arr items')))
    (hobj : ∀ members members', read (some (.obj members)) = read (some (.obj members'))) :
    read (data.get name) = read (data'.get name) := by
  cases hget : data.get name with
  | none => rw [h.missing hget]
  | some value =>
    obtain ⟨value', hget', hsame⟩ := h.present hget
    rw [hget']
    cases value with
    | null =>
      cases value' with
      | null => rfl
      | bool | num | str | arr | obj => exact hsame.elim
    | bool b =>
      cases value' with
      | bool b' => exact congrArg (fun b => read (some (.bool b))) hsame
      | null | num | str | arr | obj => exact hsame.elim
    | num n =>
      cases value' with
      | num n' => exact congrArg (fun n => read (some (.num n))) hsame
      | null | bool | str | arr | obj => exact hsame.elim
    | str s => rw [Json.same_str.mp hsame]
    | arr items =>
      cases value' with
      | arr items' => exact harr items items'
      | null | bool | num | str | obj => exact hsame.elim
    | obj members =>
      cases value' with
      | obj members' => exact hobj members members'
      | null | bool | num | str | arr => exact hsame.elim

/-- **The same entries** make the same key, or fail with the same error. -/
theorem fromDict_same {data data' : Members N} (h : ∀ name, SameField data data' name) :
    TrustedKey.fromDict rt data = TrustedKey.fromDict rt data' := by
  have hread : ∀ {α : Type} (name : String) (read : Option (Json N) → α),
      (∀ items items', read (some (.arr items)) = read (some (.arr items'))) →
      (∀ members members', read (some (.obj members)) = read (some (.obj members'))) →
        read (data.get name) = read (data'.get name) := fun name _ => (h name).read
  unfold TrustedKey.fromDict
  rw [hread "key_ref" (nonEmptyString _) (fun _ _ => rfl) (fun _ _ => rfl),
    hread "algorithm" (equalsText · _) (fun _ _ => rfl) (fun _ _ => rfl),
    hread "public_key_pem" TrustedKey.fromDict.trustedPem (fun _ _ => rfl) (fun _ _ => rfl),
    hread "status" keyStatus (fun _ _ => rfl) (fun _ _ => rfl),
    hread "revocation_reason" reasonField (fun _ _ => rfl) (fun _ _ => rfl),
    hread "not_before" (optionalTime rt · _) (fun _ _ => rfl) (fun _ _ => rfl),
    hread "not_after" (optionalTime rt · _) (fun _ _ => rfl) (fun _ _ => rfl),
    hread "revoked_at" (optionalTime rt · _) (fun _ _ => rfl) (fun _ _ => rfl)]

theorem loadEntry_same {item item' : Json N} (hn : item.distinctNames = true)
    (h : Json.Same item item') : loadEntry rt clock now item = loadEntry rt clock now item' := by
  cases item with
  | obj entry =>
    cases item' with
    | obj entry' =>
      unfold loadEntry
      simp only [fromDict_same (sameField_of_same hn h)]
    | null | bool | num | str | arr => exact h.elim
  | null | bool | num | str | arr =>
    cases item' with
    | obj => exact h.elim
    | null | bool | num | str | arr => rfl

/-- The same items are entries alike. -/
theorem loadEntries_same {items items' : List (Json N)}
    (hn : ∀ item ∈ items, item.distinctNames = true) (h : List.Forall₂ Json.Same items items') :
    List.Forall₂ (fun item item' => loadEntry rt clock now item = loadEntry rt clock now item')
      items items' := by
  induction h with
  | nil => exact .nil
  | cons hsame _ ih =>
    refine .cons (loadEntry_same (hn _ List.mem_cons_self) hsame) ?_
    exact ih fun item hitem => hn item (List.mem_cons_of_mem _ hitem)

/-- **The same documents** load the same keys, or fail with the same error. -/
theorem loadTrustedKeys_same {data data' : Members N} (hn : (Json.obj data).distinctNames = true)
    (h : SameField data data' "keys") :
    loadTrustedKeys rt clock now data = loadTrustedKeys rt clock now data' := by
  unfold loadTrustedKeys
  cases hget : data.get "keys" with
  | none => rw [h.missing hget]
  | some value =>
    obtain ⟨value', hget', hsame⟩ := h.present hget
    rw [hget']
    cases value with
    | arr items =>
      cases value' with
      | arr items' =>
        have hitems := Json.distinctNames_arr.mp (distinctNames_of_get hn hget)
        have hentries : List.Forall₂ (fun item item' => loadEntry rt clock now item =
            loadEntry rt clock now item') items items' :=
          loadEntries_same hitems (Json.sameItems_iff.mp hsame)
        exact foldlM_congr (hentries.imp fun _ _ hentry loaded => by rw [hentry]) []
      | null | bool | num | str | obj => exact hsame.elim
    | null | bool | num | str | obj =>
      cases value' with
      | arr => exact hsame.elim
      | null | bool | num | str | obj => rfl

/-! ## What a signature covers -/

/-- Objects that are dumped alike are the same. -/
theorem same_of_jsonDumps {num : N → List Char} (hnum : NumberTexts num) {data data' : Members N}
    (hn : (Json.obj data').distinctNames = true)
    (h : jsonDumps num (.obj data) = jsonDumps num (.obj data')) :
    Json.Same (.obj data) (.obj data') :=
  Json.same_of_sortKeys _ _ hn (compact_injective textCode_string hnum (utf8_injective h))

/-- Leaving members out leaves the names of the rest distinct. -/
theorem distinctNames_filter {data : Members N} (keep : String × Json N → Bool)
    (hn : (Json.obj data).distinctNames = true) :
    (Json.obj (data.filter keep)).distinctNames = true := by
  obtain ⟨hnodup, hvalues⟩ := Json.distinctNames_obj.mp hn
  refine Json.distinctNames_obj.mpr ⟨hnodup.sublist (List.filter_sublist.map _), fun m hm => ?_⟩
  exact hvalues m (List.mem_filter.mp hm).1

theorem get_filter {data : Members N} {keep : String × Json N → Bool} {name : String}
    (h : ∀ m ∈ data, m.1 = name → keep m = true) :
    Members.get (data.filter keep) name = data.get name := by
  unfold Members.get
  induction data with
  | nil => rfl
  | cons m data ih =>
    have hrest := ih fun m' hm' => h m' (List.mem_cons_of_mem _ hm')
    rw [List.filter_cons, List.lookup_cons]
    by_cases hm : keep m = true
    · rw [if_pos hm, List.lookup_cons, hrest]
    · have hne : name ≠ m.1 := fun heq => hm (h m List.mem_cons_self heq.symm)
      rw [if_neg hm, hrest, beq_eq_false_iff_ne.mpr hne]

/-- Documents with one payload have the same members, but for those left out of one of them. -/
theorem sameField_of_jsonDumps {num : N → List Char} (hnum : NumberTexts num)
    {data data' : Members N} {keep keep' : String × Json N → Bool} {name : String}
    (hn : (Json.obj data).distinctNames = true) (hn' : (Json.obj data').distinctNames = true)
    (h : jsonDumps num (.obj (data.filter keep)) = jsonDumps num (.obj (data'.filter keep')))
    (hkeep : ∀ m ∈ data, m.1 = name → keep m = true)
    (hkeep' : ∀ m ∈ data', m.1 = name → keep' m = true) : SameField data data' name := by
  have hsame := same_of_jsonDumps hnum (distinctNames_filter keep' hn') h
  have hfield := sameField_of_same (distinctNames_filter keep hn) hsame name
  unfold SameField at hfield ⊢
  rwa [get_filter hkeep, get_filter hkeep'] at hfield

/-- **What the signature of a bundle covers.** Bundles with one payload and one `signature_hex` are
loaded alike: the same keys, or the same error. Those with one payload that are accepted come to the
same keys, whatever signatures they carry. -/
theorem bundle_covers (hnum : NumberTexts rt.num) {bundle bundle' : JsonObject N}
    (h : canonicalTrustBundlePayload rt.num bundle.members =
      canonicalTrustBundlePayload rt.num bundle'.members) (rootKeys : TrustedKeys) :
    (bundle.members.get "signature_hex" = bundle'.members.get "signature_hex" →
      loadVerifiedTrustBundle rt crypto clock now rootKeys bundle.members =
        loadVerifiedTrustBundle rt crypto clock now rootKeys bundle'.members) ∧
    ∀ loaded loaded',
      loadVerifiedTrustBundle rt crypto clock now rootKeys bundle.members = .ok loaded →
        loadVerifiedTrustBundle rt crypto clock now rootKeys bundle'.members = .ok loaded' →
          loaded = loaded' := by
  have hfield : ∀ name ∉ signatureFields, SameField bundle.members bundle'.members name := by
    intro name hname
    refine sameField_of_jsonDumps hnum bundle.distinct bundle'.distinct h ?_ ?_
    · rintro m - rfl
      exact decide_eq_true hname
    · rintro m - rfl
      exact decide_eq_true hname
  have hkeys : loadTrustedKeys rt clock now bundle.members =
      loadTrustedKeys rt clock now bundle'.members :=
    loadTrustedKeys_same bundle.distinct (hfield _ (by decide))
  have hread : ∀ {α : Type} (name : String) (read : Option (Json N) → α),
      name ∉ signatureFields →
      (∀ items items', read (some (.arr items)) = read (some (.arr items'))) →
      (∀ members members', read (some (.obj members)) = read (some (.obj members'))) →
        read (bundle.members.get name) = read (bundle'.members.get name) :=
    fun name _ hname => (hfield name hname).read
  refine ⟨fun hhex => ?_, fun loaded loaded' hload hload' => ?_⟩
  · unfold loadVerifiedTrustBundle
    rw [h, hkeys, hhex,
      hread "bundle_id" (nonEmptyString _) (by decide) (fun _ _ => rfl) (fun _ _ => rfl),
      hread "signer_ref" (nonEmptyString _) (by decide) (fun _ _ => rfl) (fun _ _ => rfl),
      hread "signature_algorithm" (equalsText · _) (by decide) (fun _ _ => rfl) (fun _ _ => rfl),
      hread "crypto_profile" (equalsText · _) (by decide) (fun _ _ => rfl) (fun _ _ => rfl)]
  · have hloads := loadTrustedKeys_of_bundle hload
    rw [hkeys, loadTrustedKeys_of_bundle hload'] at hloads
    exact (Except.ok.inj hloads).symm

/-- A bundle with one key, and a list of signatures that nothing reads. -/
def demoBundle : JsonObject Int where
  members := [
    ("bundle_id", .str "urn:srcos:trust-bundle:demo"),
    ("signer_ref", .str "urn:srcos:key:root"),
    ("signature_algorithm", .str "rsa-pss-sha256"),
    ("crypto_profile", .str "fips-140-3-compatible"),
    ("keys", .arr [.obj [
      ("key_ref", .str "urn:srcos:key:demo"),
      ("algorithm", .str "rsa-pss-sha256"),
      ("public_key_pem", .str "-----BEGIN PUBLIC KEY-----demo")]]),
    ("signature_hex", .str "00"),
    ("signatures", .arr [])]
  distinct := by decide

/-- The bundle without the list. -/
def bareBundle : JsonObject Int where
  members := demoBundle.members.dropLast
  distinct := by decide

/-- A root key. -/
def demoRoot : TrustedKey where
  keyRef := "urn:srcos:key:root"
  algorithm := fipsReadyAlgorithm
  publicKeyPem := "-----BEGIN PUBLIC KEY-----demo"
  status := activeKeyStatus
  notBefore := none
  notAfter := none
  revokedAt := none
  revocationReason := none

def demoRoots : TrustedKeys := [("urn:srcos:key:root", demoRoot)]

/-- The list makes no difference to what is loaded. -/
theorem demoBundle_covered :
    loadVerifiedTrustBundle pyRuntime pyCrypto newYear none demoRoots demoBundle.members =
        loadVerifiedTrustBundle pyRuntime pyCrypto newYear none demoRoots bareBundle.members ∧
    ∀ loaded loaded',
      loadVerifiedTrustBundle pyRuntime pyCrypto newYear none demoRoots demoBundle.members =
        .ok loaded →
      loadVerifiedTrustBundle pyRuntime pyCrypto newYear none demoRoots bareBundle.members =
        .ok loaded' → loaded = loaded' :=
  (bundle_covers numberTexts_decimalInt rfl demoRoots).imp_left fun h => h rfl

end Nlboot.Reference
