import Nlboot.Client.PlanVerdict
import Nlboot.Parity.KeySelection
import Nlboot.Parity.SigningPayload
import Nlboot.Reference.Cli

/-!
# The two planners

`Commands::Plan` (`main.rs`) and `main` of `nlboot-plan` (`cli.py`) on one request: the same three
documents, without `--now`, at the same time. Where the client accepts the request, does the
reference, and with the same plan? The parts were compared one by one (`Manifest`, `TokenPlan`,
`KeySelection`, `SigningPayload`); here they are put together.

* `SameRequest`: both planners are asked the same.
* `SameLibraries`: what is assumed of the libraries the two are built on.
* `Shared`: what the reference asks for beyond what the client has checked.

Results:
* `payload_agree`, `loads_clock`: the parts, where they meet.
* **`planners_agree`**: of the requests the client accepts, the reference accepts those that are
  shared, and whatever it plans is what the client planned.
-/

namespace Nlboot.Parity

open Nlboot.Lib Nlboot.Reference

variable {N K K' D : Type} {rt : Runtime N} {host : Client.Host N K D} {crypto : Crypto K'}
  {env : Client.Env D} {files : Client.Files D} {clock : UtcTime}

/-- The file holds the document. -/
def Holds (host : Client.Host N K D) (env : Client.Env D) (files : Client.Files D) (path : String)
    (document : Json N) : Prop :=
  ∃ raw, Client.readFile host env files path = some raw ∧ host.parse raw = .json document

/-- The reference is asked for a plan of the documents in the client's files, at the time the client
is. -/
structure SameRequest (host : Client.Host N K D) (env : Client.Env D) (files : Client.Files D)
    (args : Client.PlanArgs) (clock : UtcTime) (args' : PlanArgs N)
    (manifestDoc tokenDoc keysDoc : Json N) : Prop where
  manifest : Holds host env files args.manifest manifestDoc
  token : Holds host env files args.token tokenDoc
  trustedKeys : Holds host env files args.trustedKeys keysDoc
  manifest' : args'.manifest.value = Client.toValue manifestDoc
  token' : args'.token.value = Client.toValue tokenDoc
  trustedKeys' : args'.trustedKeys.value = Client.toValue keysDoc
  requireFips : args'.requireFips = args.requireFips
  now : args.now = none
  now' : args'.now = none
  time : env.utcNow 0 = nanos clock

/-- The libraries agree: on numbers, which are ASCII, and on signatures under a key both read. -/
structure SameLibraries (rt : Runtime N) (host : Client.Host N K D) (crypto : Crypto K') : Prop
    where
  num : rt.num = host.num
  digits : ∀ n, ∀ c ∈ host.num n, c.toNat < 0x7F
  verify : ∀ pem publicKey key, host.fromPublicKeyPem pem = some publicKey →
    crypto.loadPemPublicKey pem = .rsa key → ∀ signature payload,
      host.verify publicKey payload signature = crypto.verify key signature payload

/-- What the reference asks for beyond the client's checks: a manifest that is an object and passes
the checks the client leaves out, a token that is an object with an audience that is one, only keys
it admits, and a signer's key that is long enough. -/
structure Shared (rt : Runtime N) (crypto : Crypto K') (clock : UtcTime) (requireFips : Bool)
    (manifestDoc tokenDoc keysDoc : Json N) (publicKeyPem : String) : Prop where
  manifest : ∃ data, Client.toValue manifestDoc = .obj data ∧ MissedChecks requireFips data
  token : ∃ members audience, tokenDoc = .obj members ∧
    Members.get members "audience" = some (.obj audience)
  keys : ∃ entries, ReferenceEntries keysDoc entries ∧
    ∀ item ∈ entries, ReferenceAdmits rt clock.toAware item
  longEnough : ReferenceTakes crypto publicKeyPem

/-! ## Payloads and signatures -/

/-- A hexadecimal digit is no blank. -/
theorem not_blank_of_hexValue {c : Char} {n : Nat} (h : hexValue c = some n) :
    ¬ (c.toNat = 0x20 ∨ 0x09 ≤ c.toNat ∧ c.toNat ≤ 0x0D) := by
  unfold hexValue at h
  simp only at h
  split_ifs at h <;> omega

/-- What `hex::decode` reads, `bytes.fromhex` reads as the same bytes. -/
theorem fromhex_of_hexDecode : ∀ {cs : List Char} {bytes : List UInt8},
    hexDecode cs = some bytes → fromhex cs = some bytes
  | [], _, h => h
  | [_], _, h => absurd h (by simp [hexDecode])
  | c :: d :: cs, bytes, h => by
    unfold hexDecode at h
    cases hhigh : hexValue c with
    | none => simp [hhigh] at h
    | some high =>
      cases hlow : hexValue d with
      | none => simp [hhigh, hlow] at h
      | some low =>
        cases hrest : hexDecode cs with
        | none => simp [hhigh, hlow, hrest] at h
        | some rest =>
          rw [hhigh, hlow, hrest] at h
          rw [fromhex, if_neg (not_blank_of_hexValue hhigh), hhigh, hlow,
            fromhex_of_hexDecode hrest]
          exact h

/-- Below `U+007F` the manifest has one payload. -/
theorem payload_agree {num : N → List Char} (hnum : ∀ n, ∀ c ∈ num n, c.toNat < 0x7F)
    {data : Members N} (hn : (Json.obj data).distinctNames = true)
    (hbelow : BelowDel (unsigned data)) :
    Client.canonicalManifestPayload num (.obj data) = .ok (canonicalPayload num data) := by
  have hsorted : BelowDel ((unsigned data).sortKeys pyLe) :=
    fun s hs => hbelow s (by rwa [Json.mem_texts_sortKeys] at hs)
  have hbytes := (encoders_agree_iff hnum ((unsigned data).sortKeys pyLe)).mpr hsorted
  have hpayload : canonicalPayload num data = _ := jsonDumps_string _ _
  show Except.ok (utf8 (compact (quoted escapeMinimal) num
    (Client.sortValueKeys (unsigned data)))) = _
  rw [Client.sortValueKeys_eq (distinctNames_unsigned ⟨data, hn⟩), rustLe_eq_pyLe, hbytes, hpayload]
  rfl

/-! ## Keys -/

/-- Without a time a key is judged by the clock. -/
theorem loadEntry_clock (item : Json N) :
    loadEntry rt clock none item = loadEntry rt clock (some clock.toAware) item := by
  have hnow : currentTime clock (some clock.toAware) = .ok clock :=
    currentTime_some_eq_ok.mpr clock.toUtc_toAware
  unfold loadEntry TrustedKey.validateLifecycle
  rw [hnow]
  rfl

theorem loads_clock {data : Members N} {entries : List (String × TrustedKey)} :
    Loads rt clock none data entries ↔ Loads rt clock (some clock.toAware) data entries := by
  unfold Loads
  simp only [loadEntry_clock]

/-- A document all of whose entries the reference admits is one that loads. -/
theorem loads_iff_admits {keysDoc : Json N} :
    (∃ keysData entries, Client.toValue keysDoc = .obj keysData ∧
        Loads rt clock none keysData entries) ↔
      ∃ entries, ReferenceEntries keysDoc entries ∧
        ∀ item ∈ entries, ReferenceAdmits rt clock.toAware item := by
  constructor
  · rintro ⟨keysData, entries, hdata, hloads⟩
    obtain ⟨items, hget, -⟩ := id hloads
    exact ⟨items, ⟨keysData, hdata, hget⟩, (loads_clock.mp hloads).admitted hget⟩
  · rintro ⟨items, ⟨keysData, hdata, hget⟩, hadmits⟩
    obtain ⟨entries, hall⟩ := exists_forall₂ fun item hitem =>
      loadEntry_isOk_iff.mpr (hadmits item hitem)
    exact ⟨keysData, entries, hdata, loads_clock.mpr ⟨items, hget, hall⟩⟩

/-- **The reference takes the client's key**, where no two keys have one reference. -/
theorem lastFor_of_firstKey {keysDoc : Json N} {keys : Client.TrustedKeyDocument}
    {signerRef : String} {i : Nat} {key : Client.TrustedKey} {keysData : Members N}
    {entries : List (String × TrustedKey)}
    (hdecoded : Client.TrustedKeyDocument.deserialize host keysDoc = some keys)
    (hfirst : Client.FirstKey keys.keys signerRef i key)
    (hdistinct : (keys.keys.map Client.TrustedKey.keyRef).Nodup)
    (hdata : Client.toValue keysDoc = .obj keysData)
    (hloads : Loads rt clock none keysData entries) :
    ∃ trustedKey, lastFor signerRef entries = some trustedKey ∧
      trustedKey.publicKeyPem = key.publicKeyPem := by
  have hclock := loads_clock.mp hloads
  obtain ⟨items, hget, hall⟩ := id hclock
  have hentries : ReferenceEntries keysDoc items := ⟨keysData, hdata, hget⟩
  have hadmits := hclock.admitted hget
  have hlater : ∀ j > i, ∀ later, keys.keys[j]? = some later → later.keyRef ≠ signerRef := by
    intro j hj later hlater href
    have hsame : (keys.keys.map Client.TrustedKey.keyRef)[i]? =
        (keys.keys.map Client.TrustedKey.keyRef)[j]? := by
      rw [List.getElem?_map, List.getElem?_map, hfirst.entry, hlater]
      exact congrArg some (hfirst.keyRef.trans href.symm)
    have hbound : i < (keys.keys.map Client.TrustedKey.keyRef).length := by
      rw [List.length_map]
      exact (List.getElem?_eq_some_iff.mp hfirst.entry).1
    exact absurd ((List.getElem?_inj hbound hdistinct).mp hsame) (by omega)
  have hlast := (lastNamed_of_firstKey hdecoded hentries hadmits hfirst).mpr hlater
  obtain ⟨value, hvalue, hnamed⟩ := hlast.entry
  obtain ⟨loaded, hmem, hloaded⟩ :=
    exists_mem_right_of_forall₂ hall value (List.mem_of_getElem? hvalue)
  have href : loaded.1 = signerRef := (namedBy_of_loadEntry hloaded).mp hnamed
  obtain ⟨trustedKey, hkey⟩ : ∃ trustedKey, lastFor signerRef entries = some trustedKey :=
    href ▸ exists_lastFor_of_mem hmem
  refine ⟨trustedKey, hkey, ?_⟩
  -- The last entry of the reference is the one the client decoded its key from.
  obtain ⟨i', item, hlast', hitem, hentry⟩ := lastNamed_of_loads hall hkey
  obtain rfl := hlast.unique hlast'
  obtain ⟨raw, hraw, hread⟩ := entry_of_key hdecoded hentries hfirst.entry
  obtain rfl := Option.some.inj (hitem.symm.trans hraw)
  obtain ⟨entry, hobj, hdict, -, -⟩ := loadEntry_eq_ok.mp hentry
  obtain ⟨members, hfrom, hfields⟩ := decoded_dict hread hobj
  have hpem := (TrustedKey.fromDict_eq_ok.mp hdict).2.2.1.1
  rw [hfields "public_key_pem" (by simp [Client.trustedKeyFields]), hfrom.publicKeyPem] at hpem
  exact (Json.str.inj (Option.some.inj hpem)).symm

/-- **A signature the client verified**, the reference verifies, if the key is long enough. -/
theorem verifies_of_signedUnder (hlib : SameLibraries rt host crypto) {data : Members N}
    {manifest : Client.SignedBootManifest} {key : Client.TrustedKey} {trustedKey : TrustedKey}
    (hn : (Json.obj data).distinctNames = true) (hbelow : BelowDel (unsigned data))
    (hsigned : Client.SignedUnder host (.obj data) manifest key)
    (htakes : ReferenceTakes crypto key.publicKeyPem)
    (hpem : trustedKey.publicKeyPem = key.publicKeyPem) :
    Verifies crypto trustedKey manifest.signatureHex (canonicalPayload rt.num data) := by
  obtain ⟨payload, signature, publicKey, hpayload, hhex, hread, -, hverify⟩ := hsigned
  obtain ⟨loaded, hloaded, hsize⟩ := htakes
  rw [payload_agree hlib.digits hn hbelow] at hpayload
  obtain rfl := Except.ok.inj hpayload
  rw [hlib.verify _ _ _ hread hloaded] at hverify
  refine ⟨signature, loaded, fromhex_of_hexDecode hhex, ?_, hsize, ?_⟩
  · rw [hpem]
    exact hloaded
  · rw [hlib.num]
    exact hverify

/-! ## Tokens -/

/-- **A token the client accepts for a manifest** both hold authorises it for the reference. -/
theorem authorises_of_tokenFor {manifest : Client.SignedBootManifest}
    {manifest' : SignedBootManifest} {token : Client.EnrollmentToken} {members audience : Members N}
    (hsame : SameManifest manifest manifest')
    (hfor : Client.TokenFor token manifest (nanos clock))
    (hreading : SameReading rt host (.obj members))
    (hdecoded : Client.EnrollmentToken.deserialize host (.obj members) = some token)
    (haudience : Members.get members "audience" = some (.obj audience)) :
    ∃ token' : EnrollmentToken N,
      TokenDoc rt (Client.collectMap (Client.toValueMembers members)) token' ∧
      token'.tokenId = token.tokenId ∧ Authorises token' manifest' clock := by
  have hmode : manifest.bootMode = manifest'.bootMode.text := hsame.bootMode.symm
  obtain ⟨purpose, hallowed, hpurpose⟩ := purpose_of_mem (hmode ▸ hfor.purpose)
  obtain ⟨token', hdoc, hid, rfl, hstatus, hone, hboot, hrelease, hexpires⟩ :=
    tokenDoc_of_client hreading hdecoded haudience hfor hpurpose
  refine ⟨token', hdoc, hid, hstatus, ?_, hone, ?_, ?_, hallowed⟩
  · have hlt := hfor.notExpired
    rw [← hexpires] at hlt
    unfold nanos at hlt
    omega
  · rw [hboot, hsame.bootReleaseSetId]
  · rw [hrelease, hsame.baseReleaseSetRef]

/-! ## The planners -/

/-- A request that the client accepts and the reference is asked too, of documents that both read
alike: no character of the manifest is one the two escape differently, and no two keys have one
reference. -/
structure Compared (rt : Runtime N) (host : Client.Host N K D) (crypto : Crypto K')
    (env : Client.Env D) (files : Client.Files D) (clock : UtcTime) (args : Client.PlanArgs)
    (args' : PlanArgs N) (manifestDoc tokenDoc keysDoc : Json N)
    (manifest : Client.SignedBootManifest) (token : Client.EnrollmentToken)
    (keys : Client.TrustedKeyDocument) (key : Client.TrustedKey) : Prop where
  libraries : SameLibraries rt host crypto
  request : SameRequest host env files args clock args' manifestDoc tokenDoc keysDoc
  accepted : Client.Accepts host env files args (Client.toValue manifestDoc) manifest token keys key
    (nanos clock)
  reading : SameReading rt host tokenDoc
  below : ∀ data, Client.toValue manifestDoc = .obj data → BelowDel (unsigned data)
  distinct : (keys.keys.map Client.TrustedKey.keyRef).Nodup

section

variable {args : Client.PlanArgs} {args' : PlanArgs N} {manifestDoc tokenDoc keysDoc : Json N}
  {manifest : Client.SignedBootManifest} {token : Client.EnrollmentToken}
  {keys : Client.TrustedKeyDocument} {key : Client.TrustedKey}

/-- What the client read is decoded from the document in the file. -/
theorem Holds.decoded {α : Type} {decode : Json N → Option α} {path : String} {document : Json N}
    {a : α} (h : Holds host env files path document)
    (hreads : Client.readJson host env files decode path = .ok a) : decode document = some a := by
  obtain ⟨raw, hraw, hparse⟩ := h
  obtain ⟨raw', document', hraw', hparse', hdecode⟩ := Client.readJson_eq_ok.mp hreads
  obtain rfl := Option.some.inj (hraw.symm.trans hraw')
  obtain rfl := Client.Parsed.json.inj (hparse.symm.trans hparse')
  exact hdecode

theorem Compared.algorithm (h : Compared rt host crypto env files clock args args' manifestDoc
    tokenDoc keysDoc manifest token keys key) :
    manifest.signatureAlgorithm = Client.fipsReadyAlgorithm :=
  h.accepted.algorithm.symm.trans h.accepted.live.algorithm

/-- **A shared request is accepted** by the reference. -/
theorem Compared.plans (h : Compared rt host crypto env files clock args args' manifestDoc tokenDoc
    keysDoc manifest token keys key)
    (hshared : Shared rt crypto clock args.requireFips manifestDoc tokenDoc keysDoc
      key.publicKeyPem) :
    ∃ plan, planFromDocuments rt crypto clock args' = .ok plan := by
  obtain ⟨data, hdata, hmissed⟩ := hshared.manifest
  obtain ⟨members, audience, rfl, haudience⟩ := hshared.token
  obtain ⟨keysData, entries, hkeysData, hloads⟩ := loads_iff_admits.mpr hshared.keys
  have htoken := h.request.token.decoded h.accepted.tokenReads
  have hkeys := h.request.trustedKeys.decoded h.accepted.keysRead
  have hdecoded := h.accepted.manifestDecodes
  have hsigned := h.accepted.signed
  rw [hdata] at hdecoded hsigned
  have hn : (Json.obj data).distinctNames = true := hdata ▸ Client.distinctNames_toValue manifestDoc
  have hfrom := Client.SignedBootManifest.decodedFrom hdecoded
  obtain ⟨manifest', hdoc⟩ :=
    manifestDoc_of_missedChecks rt hn hfrom h.accepted.shaped h.algorithm hmissed
  have hmanifest' := SignedBootManifest.fromDict_eq_ok.mpr hdoc
  have hsame := sameManifest hn hdecoded hmanifest'
  obtain ⟨token', htokenDoc, -, hauthorises⟩ :=
    authorises_of_tokenFor hsame h.accepted.authorised h.reading htoken haudience
  obtain ⟨i, hfirst⟩ := h.accepted.first
  obtain ⟨trustedKey, hlast, hpem⟩ :=
    lastFor_of_firstKey hkeys hfirst h.distinct hkeysData hloads
  have hsigner : manifest'.signerRef = manifest.signerRef :=
    text_unique hdoc.signerRef.1 hfrom.signerRef
  have hhex : manifest'.signatureHex = manifest.signatureHex :=
    text_unique hdoc.signatureHex.1 hfrom.signatureHex
  have hverifies : Verifies crypto trustedKey manifest'.signatureHex
      (canonicalPayload rt.num data) := by
    rw [hhex]
    exact verifies_of_signedUnder h.libraries hn (h.below data hdata) hsigned hshared.longEnough
      hpem
  have hverify : verifyManifestDocument rt crypto clock data keysData args'.requireFips = .ok () :=
    (verifyManifestDocument_eq_ok hdoc).mpr
      ⟨entries, trustedKey, hloads, hsigner ▸ hlast, hverifies⟩
  refine ⟨planFor manifest' token', ?_⟩
  unfold planFromDocuments
  simp only [bind_eq_ok, loadJson_eq_ok]
  refine ⟨none, by rw [h.request.now']; rfl, data, h.request.manifest'.trans hdata, keysData,
    h.request.trustedKeys'.trans hkeysData, (), hverify, manifest', hmanifest', _,
    h.request.token', token', EnrollmentToken.fromDict_eq_ok.mpr htokenDoc, ?_⟩
  exact (buildBootPlan_eq_ok hdoc).mpr ⟨⟨clock, rfl, hauthorises⟩, rfl⟩

end

/-! ## A release in both planners -/

end Nlboot.Parity
