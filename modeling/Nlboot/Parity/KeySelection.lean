import Nlboot.Parity.TokenPlan
import Nlboot.Reference.KeyLifecycle

/-!
# Which key a manifest is verified with

`trusted_key_for` (`main.rs`) and `load_trusted_keys` (`verify.py`) with the lookup of `cli.py`, on
one trusted-key document. The client takes the first entry of the signer and checks that one; the
reference checks every entry and keeps the last of each reference. The client takes RSA keys of any
size, the reference from 2048 bits on.

* `ClientSelects`, `ReferenceSelects`: the entry each of them verifies with.
* `KeysAgree`: they refuse both or select the same entry, and the reference takes the client's key.
* `referenceSelects_iff`: the reference selects the last entry of the signer, if it admits them all.
* `InLine`: the condition on the document.
* **`keysAgree_iff`**: they agree exactly when the document is in line.
* `retiredNeighbour_disagrees`: a retired key beside the signer's.
-/

namespace Nlboot.Parity

open Nlboot.Lib Nlboot.Reference

variable {N K K' D : Type}

/-- A time of the reference as the client counts it: nanoseconds since 1970. -/
def epochNanos (now : AwareTime) : Int := (now.instant - 62135596800000000) * 1000

/-- The client verifies with entry `i` of the document. -/
def ClientSelects (host : Client.Host N K D) (document : Json N) (signerRef : String)
    (now : AwareTime) (i : Nat) (key : Client.TrustedKey) : Prop :=
  ∃ trustedKeys, Client.TrustedKeyDocument.deserialize host document = some trustedKeys ∧
    Client.trustedKeyFor host signerRef (epochNanos now) trustedKeys.keys = .ok key ∧
    Client.FirstKey trustedKeys.keys signerRef i key

/-- The entries the reference goes through: those of the dictionary `json.loads` makes. -/
def ReferenceEntries (document : Json N) (entries : List (Json N)) : Prop :=
  ∃ data, Client.toValue document = .obj data ∧ Members.get data "keys" = some (.arr entries)

/-- The reference verifies with entry `i` of the document, the last that was loaded under the
reference. -/
def ReferenceSelects (rt : Runtime N) (clock : UtcTime) (now : AwareTime) (document : Json N)
    (signerRef : String) (i : Nat) (key : TrustedKey) : Prop :=
  ∃ data loaded entries item, Client.toValue document = .obj data ∧
    loadTrustedKeys rt clock (some now) data = .ok loaded ∧ loaded.lookup signerRef = some key ∧
    Members.get data "keys" = some (.arr entries) ∧ entries[i]? = some item ∧
    loadEntry rt clock (some now) item = .ok (signerRef, key) ∧
    ∀ j > i, ∀ later, entries[j]? = some later → ∀ key',
      loadEntry rt clock (some now) later ≠ .ok (signerRef, key')

/-- The reference verifies with this key: it is RSA of at least 2048 bits. -/
def ReferenceTakes (crypto : Crypto K') (publicKeyPem : String) : Prop :=
  ∃ key, crypto.loadPemPublicKey publicKeyPem = .rsa key ∧ 2048 ≤ crypto.keySize key

/-- Both refuse the document for the signer or select the same entry, and the reference takes every
key the client goes on to verify with. -/
structure KeysAgree (rt : Runtime N) (host : Client.Host N K D) (crypto : Crypto K')
    (clock : UtcTime) (now : AwareTime) (document : Json N) (signerRef : String) : Prop where
  selection : (¬ ∃ i key, ClientSelects host document signerRef now i key) ∧
      (¬ ∃ i key, ReferenceSelects rt clock now document signerRef i key) ∨
    ∃ i key key', ClientSelects host document signerRef now i key ∧
      ReferenceSelects rt clock now document signerRef i key'
  keys : ∀ i key publicKey, ClientSelects host document signerRef now i key →
    host.fromPublicKeyPem key.publicKeyPem = some publicKey → ReferenceTakes crypto key.publicKeyPem

/-- The entry passes all checks of the reference at this time. -/
def ReferenceAdmits (rt : Runtime N) (now : AwareTime) (item : Json N) : Prop :=
  ∃ entry current, item = .obj entry ∧ now.toUtc = some current ∧ Admitted rt entry current

/-- The entry has this reference. -/
def NamedBy (signerRef : String) (item : Json N) : Prop :=
  ∃ entry, item = .obj entry ∧ Members.get entry "key_ref" = some (.str signerRef)

/-- Entry `i` is the last of the reference. -/
structure LastNamed (entries : List (Json N)) (signerRef : String) (i : Nat) : Prop where
  entry : ∃ item, entries[i]? = some item ∧ NamedBy signerRef item
  last : ∀ j > i, ∀ later, entries[j]? = some later → ¬ NamedBy signerRef later

/-- The document is in line. Where the signer's first entry passes the client's checks, every entry
passes the reference's and no later one has the same reference. Where every entry passes the
reference's checks and one is the signer's, the client can read them all, the signer's first one has
no blank text, and its window holds the time for the client too. Where the client reads an RSA key
from an entry it accepts, the key is long enough. -/
structure InLine (rt : Runtime N) (host : Client.Host N K D) (crypto : Crypto K')
    (now : AwareTime) (document : Json N) (signerRef : String) : Prop where
  others : ∀ trustedKeys i key,
    Client.TrustedKeyDocument.deserialize host document = some trustedKeys →
    Client.FirstKey trustedKeys.keys signerRef i key → Client.LiveKey key (epochNanos now) →
    (∃ entries, ReferenceEntries document entries ∧
      ∀ item ∈ entries, ReferenceAdmits rt now item) ∧
    ∀ j > i, ∀ later, trustedKeys.keys[j]? = some later → later.keyRef ≠ signerRef
  readable : ∀ entries, ReferenceEntries document entries →
    (∀ item ∈ entries, ReferenceAdmits rt now item) → (∃ item ∈ entries, NamedBy signerRef item) →
    ∃ trustedKeys, Client.TrustedKeyDocument.deserialize host document = some trustedKeys ∧
      ∀ i key, Client.FirstKey trustedKeys.keys signerRef i key →
        Client.blank signerRef = false ∧
        (∀ reason ∈ key.revocationReason, Client.blank reason = false) ∧
        (∀ notBefore ∈ key.notBefore, notBefore ≤ epochNanos now) ∧
        ∀ notAfter ∈ key.notAfter, epochNanos now < notAfter
  longEnough : ∀ trustedKeys i key publicKey,
    Client.TrustedKeyDocument.deserialize host document = some trustedKeys →
    Client.FirstKey trustedKeys.keys signerRef i key → Client.LiveKey key (epochNanos now) →
    host.fromPublicKeyPem key.publicKeyPem = some publicKey → ReferenceTakes crypto key.publicKeyPem

/-! ## The entry the client selects -/

/-- The client selects the signer's first entry, if it is live. -/
theorem clientSelects_iff {host : Client.Host N K D} {document : Json N} {signerRef : String}
    {now : AwareTime} {i : Nat} {key : Client.TrustedKey} :
    ClientSelects host document signerRef now i key ↔ ∃ trustedKeys,
      Client.TrustedKeyDocument.deserialize host document = some trustedKeys ∧
      Client.FirstKey trustedKeys.keys signerRef i key ∧ Client.LiveKey key (epochNanos now) := by
  unfold ClientSelects
  refine exists_congr fun trustedKeys => and_congr_right fun _ => ?_
  rw [Client.trustedKeyFor_eq_ok]
  constructor
  · rintro ⟨⟨-, hlive⟩, hfirst⟩
    exact ⟨hfirst, hlive⟩
  · rintro ⟨hfirst, hlive⟩
    exact ⟨⟨⟨i, hfirst⟩, hlive⟩, hfirst⟩

/-! ## The entry the reference selects -/

theorem LastNamed.unique {entries : List (Json N)} {signerRef : String} {i i' : Nat}
    (h : LastNamed entries signerRef i) (h' : LastNamed entries signerRef i') : i = i' := by
  obtain ⟨item, hitem, hnamed⟩ := h.entry
  obtain ⟨item', hitem', hnamed'⟩ := h'.entry
  rcases Nat.lt_trichotomy i i' with hlt | heq | hgt
  · exact absurd hnamed' (h.last i' hlt item' hitem')
  · exact heq
  · exact absurd hnamed (h'.last i hgt item hitem)

section

variable {rt : Runtime N} {clock : UtcTime} {now : AwareTime} {signerRef : String}

/-- An entry is loaded under the reference it has. -/
theorem namedBy_of_loadEntry {item : Json N} {r : String × TrustedKey}
    (h : loadEntry rt clock (some now) item = .ok r) :
    NamedBy signerRef item ↔ r.1 = signerRef := by
  obtain ⟨entry, rfl, hkey, -, href⟩ := loadEntry_eq_ok.mp h
  have hname : Members.get entry "key_ref" = some (.str r.1) :=
    href ▸ (TrustedKey.fromDict_eq_ok.mp hkey).1.1
  constructor
  · rintro ⟨_, hobj, hnamed⟩
    obtain rfl := Json.obj.inj hobj
    exact Json.str.inj (Option.some.inj (hname.symm.trans hnamed))
  · rintro rfl
    exact ⟨entry, rfl, hname⟩

/-- Of entries that all load, the lookup finds the last that has the reference. -/
theorem lastNamed_of_loads {entries : List (Json N)} {loaded : List (String × TrustedKey)}
    {key : TrustedKey}
    (hall : List.Forall₂ (fun item r => loadEntry rt clock (some now) item = .ok r) entries loaded)
    (hlookup : lastFor signerRef loaded = some key) :
    ∃ (i : Nat) (item : Json N), LastNamed entries signerRef i ∧ entries[i]? = some item ∧
      loadEntry rt clock (some now) item = .ok (signerRef, key) := by
  obtain ⟨i, item, hitem, hload, hlater⟩ := exists_getElem?_of_lastFor hall hlookup
  refine ⟨i, item, ⟨⟨item, hitem, (namedBy_of_loadEntry hload).mpr rfl⟩, ?_⟩, hitem, hload⟩
  intro j hj later hentry hnamed
  obtain ⟨r, hr, hne⟩ := hlater j hj later hentry
  exact hne ((namedBy_of_loadEntry hr).mp hnamed)

/-- **The reference selects** the signer's last entry, if it admits every entry. -/
theorem referenceSelects_iff {document : Json N} {i : Nat} :
    (∃ key, ReferenceSelects rt clock now document signerRef i key) ↔
      ∃ entries, ReferenceEntries document entries ∧
        (∀ item ∈ entries, ReferenceAdmits rt now item) ∧ LastNamed entries signerRef i := by
  constructor
  · rintro ⟨key, data, loaded, entries, item, hdata, hload, -, hkeys, hitem, hentry, hlater⟩
    obtain ⟨pairs, hloads, -⟩ := loadTrustedKeys_eq_ok.mp hload
    have hadmitted := hloads.admitted hkeys
    refine ⟨entries, ⟨data, hdata, hkeys⟩, hadmitted, ⟨item, hitem, ?_⟩, ?_⟩
    · exact (namedBy_of_loadEntry hentry).mpr rfl
    · intro j hj later hget hnamed
      obtain ⟨⟨ref, key'⟩, hr⟩ :=
        loadEntry_isOk_iff.mpr (hadmitted later (List.mem_of_getElem? hget))
      have href : ref = signerRef := (namedBy_of_loadEntry hr).mp hnamed
      exact hlater j hj later hget key' (href ▸ hr)
  · rintro ⟨entries, ⟨data, hdata, hkeys⟩, hadmitted, hlast⟩
    have heach : ∀ item ∈ entries, ∃ r, loadEntry rt clock (some now) item = .ok r :=
      fun item hitem => loadEntry_isOk_iff.mpr (hadmitted item hitem)
    obtain ⟨pairs, hall⟩ := exists_forall₂ heach
    have hload := loadTrustedKeys_eq_ok.mpr ⟨pairs, ⟨entries, hkeys, hall⟩, rfl⟩
    obtain ⟨key, hkey⟩ : ∃ key, lastFor signerRef pairs = some key := by
      obtain ⟨item, hitem, hnamed⟩ := hlast.entry
      obtain ⟨r, hmem, hr⟩ := exists_mem_right_of_forall₂ hall item (List.mem_of_getElem? hitem)
      have href : r.1 = signerRef := (namedBy_of_loadEntry hr).mp hnamed
      exact href ▸ exists_lastFor_of_mem hmem
    obtain ⟨i', item, hlast', hitem, hentry⟩ := lastNamed_of_loads hall hkey
    obtain rfl := hlast.unique hlast'
    refine ⟨key, data, _, entries, item, hdata, hload, (lookup_loaded signerRef).trans hkey, hkeys,
      hitem, hentry, ?_⟩
    intro j hj later hget key' hr
    exact hlast.last j hj later hget ((namedBy_of_loadEntry hr).mpr rfl)

/-- A reference that occurs has a last entry. -/
theorem exists_lastNamed : ∀ {entries : List (Json N)}, (∃ item ∈ entries, NamedBy signerRef item) →
    ∃ i, LastNamed entries signerRef i
  | [], h => by
    obtain ⟨item, hmem, -⟩ := h
    exact absurd hmem List.not_mem_nil
  | item :: entries, h => by
    by_cases hrest : ∃ later ∈ entries, NamedBy signerRef later
    · obtain ⟨i, ⟨later, hget, hnamed⟩, hlast⟩ := exists_lastNamed hrest
      refine ⟨i + 1, ⟨later, hget, hnamed⟩, fun j hj => ?_⟩
      obtain ⟨n, rfl⟩ : ∃ n, j = n + 1 := ⟨j - 1, by omega⟩
      exact hlast n (by omega)
    · obtain ⟨first, hmem, hnamed⟩ := h
      rcases List.mem_cons.mp hmem with rfl | hlater
      · refine ⟨0, ⟨first, rfl, hnamed⟩, fun j hj later hget hother => hrest ⟨later, ?_, hother⟩⟩
        obtain ⟨n, rfl⟩ : ∃ n, j = n + 1 := ⟨j - 1, by omega⟩
        exact List.mem_of_getElem? (List.getElem?_cons_succ ▸ hget)
      · exact absurd ⟨first, hlater, hnamed⟩ hrest

end

/-! ## The same entries -/

section

variable {rt : Runtime N} {host : Client.Host N K D} {current : UtcTime} {document : Json N}
  {trustedKeys : Client.TrustedKeyDocument} {entries : List (Json N)} {now : AwareTime}
  {signerRef : String}

/-- The client decodes the entries the reference goes through, one by one. -/
theorem entries_of_decoded
    (hdecoded : Client.TrustedKeyDocument.deserialize host document = some trustedKeys)
    (hentries : ReferenceEntries document entries) :
    ∃ items, entries = items.map Client.toValue ∧
      List.Forall₂ (fun item key => Client.TrustedKey.deserialize host item = some key) items
        trustedKeys.keys := by
  obtain ⟨data, hdata, hget⟩ := hentries
  cases document with
  | obj members =>
    unfold Client.TrustedKeyDocument.deserialize at hdecoded
    simp only [Option.bind_eq_bind, Option.bind_eq_some_iff, Client.structMembers_obj_eq_some,
      Client.required_eq_some, Option.pure_def, Option.some.injEq] at hdecoded
    obtain ⟨_, ⟨honce, rfl⟩, keys, ⟨v, hv, hkeys⟩, rfl⟩ := hdecoded
    obtain rfl := Json.obj.inj hdata
    rw [Client.get_collectMap (honce "keys" (by simp)), hv] at hget
    cases v with
    | arr items =>
      refine ⟨items, ?_, Client.mapM_eq_some.mp hkeys⟩
      have harr := Json.arr.inj (Option.some.inj hget)
      rw [← harr, Client.toValueItems_eq]
    | null | bool | num | str | obj => exact absurd hkeys (by simp [Client.decodeVec])
  | null | bool | num | str | arr => exact absurd hdata (by simp [Client.toValue])

/-- The client's entry is the reference's. -/
theorem entry_of_key
    (hdecoded : Client.TrustedKeyDocument.deserialize host document = some trustedKeys)
    (hentries : ReferenceEntries document entries) {i : Nat} {key : Client.TrustedKey}
    (hkey : trustedKeys.keys[i]? = some key) : ∃ item, entries[i]? = some (Client.toValue item) ∧
      Client.TrustedKey.deserialize host item = some key := by
  obtain ⟨items, rfl, hall⟩ := entries_of_decoded hdecoded hentries
  obtain ⟨item, hitem, hread⟩ := exists_getElem?_of_forall₂ hall hkey
  exact ⟨item, by rw [List.getElem?_map, hitem]; rfl, hread⟩

/-- The reference's entry is the client's. -/
theorem key_of_entry
    (hdecoded : Client.TrustedKeyDocument.deserialize host document = some trustedKeys)
    (hentries : ReferenceEntries document entries) {i : Nat} {value : Json N}
    (hvalue : entries[i]? = some value) : ∃ item key, value = Client.toValue item ∧
      trustedKeys.keys[i]? = some key ∧ Client.TrustedKey.deserialize host item = some key := by
  obtain ⟨items, rfl, hall⟩ := entries_of_decoded hdecoded hentries
  rw [List.getElem?_map, Option.map_eq_some_iff] at hvalue
  obtain ⟨item, hitem, rfl⟩ := hvalue
  obtain ⟨key, hkey, hread⟩ := exists_getElem?_of_forall₂ (List.Forall₂.flip hall) hitem
  exact ⟨item, key, rfl, hkey, hread⟩

/-- What is decoded of an object is in its dictionary. -/
theorem decoded_dict {item : Json N} {key : Client.TrustedKey} {entry : Members N}
    (hread : Client.TrustedKey.deserialize host item = some key)
    (hentry : Client.toValue item = .obj entry) :
    ∃ members, Client.TrustedKey.DecodedFrom host members key ∧
      ∀ field ∈ Client.trustedKeyFields,
        Members.get entry field = (members.get field).map Client.toValue := by
  cases item with
  | obj members =>
    obtain ⟨hfrom, honce⟩ := Client.TrustedKey.decodedFrom hread
    obtain rfl := Json.obj.inj hentry
    exact ⟨members, hfrom, fun field hfield => Client.get_collectMap (honce field hfield)⟩
  | null | bool | num | str | arr => exact absurd hentry (by simp [Client.toValue])

/-- An entry has the reference it is decoded with. -/
theorem keyRef_of_decoded {item : Json N} {key : Client.TrustedKey} {entry : Members N}
    (hread : Client.TrustedKey.deserialize host item = some key)
    (hentry : Client.toValue item = .obj entry) :
    Members.get entry "key_ref" = some (.str key.keyRef) := by
  obtain ⟨members, hfrom, hget⟩ := decoded_dict hread hentry
  rw [hget "key_ref" (by simp [Client.trustedKeyFields]), hfrom.keyRef]
  rfl

/-- An entry that is an object has a reference exactly if its key does. -/
theorem namedBy_toValue_iff {item : Json N} {key : Client.TrustedKey} {entry : Members N}
    (hread : Client.TrustedKey.deserialize host item = some key)
    (hentry : Client.toValue item = .obj entry) :
    NamedBy signerRef (Client.toValue item) ↔ key.keyRef = signerRef := by
  have hname := keyRef_of_decoded hread hentry
  rw [hentry]
  constructor
  · rintro ⟨_, hobj, hnamed⟩
    obtain rfl := Json.obj.inj hobj
    exact Json.str.inj (Option.some.inj (hname.symm.trans hnamed))
  · rintro rfl
    exact ⟨entry, rfl, hname⟩

/-- **What the reference admits is live for the client**, but for its texts and its window. -/
theorem liveKey_of_admitted {item : Json N} {key : Client.TrustedKey} {entry : Members N}
    {at_ : Int}
    (hread : Client.TrustedKey.deserialize host item = some key)
    (hentry : Client.toValue item = .obj entry) (hadmitted : Admitted rt entry current)
    (hkeyRef : Client.blank key.keyRef = false)
    (hreason : ∀ reason ∈ key.revocationReason, Client.blank reason = false)
    (hnotBefore : ∀ notBefore ∈ key.notBefore, notBefore ≤ at_)
    (hnotAfter : ∀ notAfter ∈ key.notAfter, at_ < notAfter) : Client.LiveKey key at_ := by
  obtain ⟨members, hfrom, hget⟩ := decoded_dict hread hentry
  have htext : ∀ {field text : String}, field ∈ Client.trustedKeyFields →
      members.get field = some (.str text) → Members.get entry field = some (.str text) := by
    intro field text hfield hmember
    rw [hget field hfield, hmember]
    rfl
  have halgorithm : key.algorithm = Client.fipsReadyAlgorithm := by
    have hvalue := htext (by simp [Client.trustedKeyFields]) hfrom.algorithm
    rw [hadmitted.algorithm] at hvalue
    exact (Json.str.inj (Option.some.inj hvalue)).symm
  have hpem : Client.contains key.publicKeyPem "BEGIN PUBLIC KEY" = true := by
    obtain ⟨pem, hvalue, hmark⟩ := hadmitted.publicKeyPem
    rw [htext (by simp [Client.trustedKeyFields]) hfrom.publicKeyPem] at hvalue
    obtain rfl := Json.str.inj (Option.some.inj hvalue)
    exact hmark
  have hstatus : key.status = "active" := by
    have hfield := hfrom.status
    unfold Client.statusField at hfield
    cases hmember : members.get "status" with
    | none =>
      rw [hmember] at hfield
      exact (Option.some.inj hfield).symm
    | some v =>
      rw [hmember] at hfield
      obtain rfl := Client.decodeString_eq_some.mp hfield
      have hvalue := htext (by simp [Client.trustedKeyFields]) hmember
      rcases hadmitted.status with habsent | hactive
      · exact absurd (hvalue.symm.trans habsent) (by simp)
      · exact Json.str.inj (Option.some.inj (hvalue.symm.trans hactive))
  have hrevoked : key.revokedAt = none := by
    cases htime : key.revokedAt with
    | none => rfl
    | some time =>
      obtain ⟨v, hmember, -, hdecode⟩ := Client.optional_eq_some.mp (htime ▸ hfrom.revokedAt)
      obtain ⟨text, rfl, -⟩ := Client.decodeTime_eq_some.mp hdecode
      exact absurd (htext (by simp [Client.trustedKeyFields]) hmember) (hadmitted.revokedAt text)
  exact ⟨hkeyRef, halgorithm, hpem, hstatus, hrevoked, hnotBefore, hnotAfter, hreason⟩

/-- The first key of the reference is the last entry of it, if no later key has it. -/
theorem lastNamed_of_firstKey
    (hdecoded : Client.TrustedKeyDocument.deserialize host document = some trustedKeys)
    (hentries : ReferenceEntries document entries)
    (hadmitted : ∀ item ∈ entries, ReferenceAdmits rt now item) {i : Nat} {key : Client.TrustedKey}
    (hfirst : Client.FirstKey trustedKeys.keys signerRef i key) :
    LastNamed entries signerRef i ↔
      ∀ j > i, ∀ later, trustedKeys.keys[j]? = some later → later.keyRef ≠ signerRef := by
  constructor
  · intro hlast j hj later hlater href
    obtain ⟨item, hitem, hread⟩ := entry_of_key hdecoded hentries hlater
    obtain ⟨entry, -, hobj, -, -⟩ := hadmitted _ (List.mem_of_getElem? hitem)
    exact hlast.last j hj _ hitem ((namedBy_toValue_iff hread hobj).mpr href)
  · intro hlater
    refine ⟨?_, fun j hj value hvalue hnamed => ?_⟩
    · obtain ⟨item, hitem, hread⟩ := entry_of_key hdecoded hentries hfirst.entry
      obtain ⟨entry, -, hobj, -, -⟩ := hadmitted _ (List.mem_of_getElem? hitem)
      exact ⟨_, hitem, (namedBy_toValue_iff hread hobj).mpr hfirst.keyRef⟩
    · obtain ⟨item, later, rfl, hget, hread⟩ := key_of_entry hdecoded hentries hvalue
      obtain ⟨entry, -, hobj, -, -⟩ := hadmitted _ (List.mem_of_getElem? hvalue)
      exact hlater j hj later hget ((namedBy_toValue_iff hread hobj).mp hnamed)

end

/-! ## Agreement -/

/-- **The clients verify with the same key** exactly when the document is in line. -/
theorem keysAgree_iff {rt : Runtime N} {host : Client.Host N K D} {crypto : Crypto K'}
    {clock : UtcTime} {now : AwareTime} {document : Json N} {signerRef : String} :
    KeysAgree rt host crypto clock now document signerRef ↔
      InLine rt host crypto now document signerRef := by
  constructor
  · rintro ⟨hselection, hkeys⟩
    refine ⟨?_, ?_, ?_⟩
    · intro trustedKeys i key hdecoded hfirst hlive
      have hclient := clientSelects_iff.mpr ⟨trustedKeys, hdecoded, hfirst, hlive⟩
      rcases hselection with ⟨hnone, -⟩ | ⟨i', key', selected, hclient', hreference⟩
      · exact absurd ⟨i, key, hclient⟩ hnone
      · obtain ⟨trustedKeys', hdecoded', hfirst', -⟩ := clientSelects_iff.mp hclient'
        obtain rfl := Option.some.inj (hdecoded.symm.trans hdecoded')
        obtain ⟨rfl, rfl⟩ := hfirst.unique hfirst'
        obtain ⟨entries, hentries, hadmitted, hlast⟩ := referenceSelects_iff.mp ⟨_, hreference⟩
        exact ⟨⟨entries, hentries, hadmitted⟩,
          (lastNamed_of_firstKey hdecoded hentries hadmitted hfirst).mp hlast⟩
    · intro entries hentries hadmitted hnamed
      obtain ⟨j, hlast⟩ := exists_lastNamed hnamed
      obtain ⟨selected, hreference⟩ :
          ∃ selected, ReferenceSelects rt clock now document signerRef j selected :=
        referenceSelects_iff.mpr ⟨entries, hentries, hadmitted, hlast⟩
      rcases hselection with ⟨-, hnone⟩ | ⟨i, key, -, hclient, -⟩
      · exact absurd ⟨j, selected, hreference⟩ hnone
      · obtain ⟨trustedKeys, hdecoded, hfirst, hlive⟩ := clientSelects_iff.mp hclient
        refine ⟨trustedKeys, hdecoded, fun i' key' hfirst' => ?_⟩
        obtain ⟨rfl, rfl⟩ := hfirst.unique hfirst'
        exact ⟨hfirst.keyRef ▸ hlive.keyRef, hlive.revocationReason, hlive.notBefore,
          hlive.notAfter⟩
    · intro trustedKeys i key publicKey hdecoded hfirst hlive hread
      have hclient := clientSelects_iff.mpr ⟨trustedKeys, hdecoded, hfirst, hlive⟩
      exact hkeys i key publicKey hclient hread
  · intro hline
    refine ⟨?_, ?_⟩
    · by_cases hclient : ∃ i key, ClientSelects host document signerRef now i key
      · obtain ⟨i, key, hselects⟩ := id hclient
        obtain ⟨trustedKeys, hdecoded, hfirst, hlive⟩ := clientSelects_iff.mp hselects
        obtain ⟨⟨entries, hentries, hadmitted⟩, hlater⟩ :=
          hline.others trustedKeys i key hdecoded hfirst hlive
        have hlast := (lastNamed_of_firstKey hdecoded hentries hadmitted hfirst).mpr hlater
        obtain ⟨selected, hreference⟩ :
            ∃ selected, ReferenceSelects rt clock now document signerRef i selected :=
          referenceSelects_iff.mpr ⟨entries, hentries, hadmitted, hlast⟩
        exact Or.inr ⟨i, key, selected, hselects, hreference⟩
      · refine Or.inl ⟨hclient, ?_⟩
        rintro ⟨j, selected, hreference⟩
        -- the reference admits every entry, so the client decodes the signer's first one as live
        obtain ⟨entries, hentries, hadmitted, hlast⟩ := referenceSelects_iff.mp ⟨_, hreference⟩
        obtain ⟨value, hvalue, hnamed⟩ := hlast.entry
        obtain ⟨trustedKeys, hdecoded, hreadable⟩ :=
          hline.readable entries hentries hadmitted ⟨value, List.mem_of_getElem? hvalue, hnamed⟩
        obtain ⟨i, key, hfirst⟩ : ∃ i key, Client.FirstKey trustedKeys.keys signerRef i key := by
          obtain ⟨item, named, rfl, hget, hread⟩ := key_of_entry hdecoded hentries hvalue
          obtain ⟨entry, -, hobj, -, -⟩ := hadmitted _ (List.mem_of_getElem? hvalue)
          exact Client.exists_firstKey ⟨named, List.mem_of_getElem? hget,
            (namedBy_toValue_iff hread hobj).mp hnamed⟩
        obtain ⟨hblank, hreason, hnotBefore, hnotAfter⟩ := hreadable i key hfirst
        obtain ⟨item, hitem, hread⟩ := entry_of_key hdecoded hentries hfirst.entry
        obtain ⟨entry, current, hobj, -, hadmits⟩ := hadmitted _ (List.mem_of_getElem? hitem)
        have hlive : Client.LiveKey key (epochNanos now) :=
          liveKey_of_admitted hread hobj hadmits (hfirst.keyRef ▸ hblank) hreason hnotBefore
            hnotAfter
        exact hclient ⟨i, key, clientSelects_iff.mpr ⟨trustedKeys, hdecoded, hfirst, hlive⟩⟩
    · intro i key publicKey hselects hread
      obtain ⟨trustedKeys, hdecoded, hfirst, hlive⟩ := clientSelects_iff.mp hselects
      exact hline.longEnough trustedKeys i key publicKey hdecoded hfirst hlive hread

/-- An entry without a window. -/
def keyEntry (keyRef status : String) : Json Int := .obj [
  ("key_ref", .str keyRef),
  ("algorithm", .str "rsa-pss-sha256"),
  ("public_key_pem", .str "-----BEGIN PUBLIC KEY-----"),
  ("status", .str status)]

/-- The entry as the client holds it. -/
def clientKey (keyRef status : String) : Client.TrustedKey where
  keyRef
  algorithm := "rsa-pss-sha256"
  publicKeyPem := "-----BEGIN PUBLIC KEY-----"
  status
  notBefore := none
  notAfter := none
  revokedAt := none
  revocationReason := none

/-- The signer's key, and the retired one it replaced. -/
def retiredNeighbour : Json Int :=
  .obj [("keys", .arr [keyEntry "urn:srcos:key:demo" "active",
    keyEntry "urn:srcos:key:old" "retired"])]

/-- The client takes the signer's key, the reference refuses the document for the retired one. -/
theorem retiredNeighbour_disagrees :
    ¬ KeysAgree pyRuntime timeHost pyCrypto newYear newYear.toAware retiredNeighbour
      "urn:srcos:key:demo" := by
  intro hagree
  have hdecoded : Client.TrustedKeyDocument.deserialize timeHost retiredNeighbour =
      some ⟨[clientKey "urn:srcos:key:demo" "active",
        clientKey "urn:srcos:key:old" "retired"]⟩ := rfl
  have hlive : Client.LiveKey (clientKey "urn:srcos:key:demo" "active")
      (epochNanos newYear.toAware) :=
    ⟨by decide, rfl, by decide, rfl, rfl, by simp [clientKey], by simp [clientKey],
      by simp [clientKey]⟩
  rcases hagree.selection with ⟨hnone, -⟩ | ⟨i, key, selected, -, hreference⟩
  · exact hnone ⟨0, _, clientSelects_iff.mpr ⟨_, hdecoded,
      ⟨rfl, rfl, fun j hj => absurd hj (Nat.not_lt_zero j)⟩, hlive⟩⟩
  · obtain ⟨entries, ⟨data, hdata, hkeys⟩, hadmitted, -⟩ :=
      referenceSelects_iff.mp ⟨selected, hreference⟩
    obtain rfl := Json.obj.inj hdata
    obtain rfl := Json.arr.inj (Option.some.inj hkeys)
    obtain ⟨entry, current, hobj, -, hadmits⟩ := hadmitted _
      (List.mem_cons_of_mem _ List.mem_cons_self)
    obtain rfl := Json.obj.inj hobj
    rcases hadmits.status with habsent | hactive
    · exact absurd habsent (by decide)
    · have hretired : "retired" = activeKeyStatus := Json.str.inj (Option.some.inj hactive)
      exact absurd hretired (by decide)

end Nlboot.Parity
