import Nlboot.Reference.IsoTime
import Nlboot.Reference.Verify

/-!
# When a key load fails closed

A key is live at a time according to its document entry when its status is absent or `active`, its
`revoked_at` absent or null, and its window, where it has one, holds the time (`Live`).
`FailClosed` asks that every loaded key is live, and that an entry whose lifecycle members say
anything else (`NotInForce`) makes the load raise, also one that a later entry would replace.

`from_dict` checks the type of `revocation_reason`, but reads a lifecycle member that is no string
as absent (`optionalTime`): a key with `"revoked_at": 1700000000` loads as not revoked.

* `Admitted`: what an entry must be for the loop to keep it, in terms of the document; it is usable
  whenever (`Usable`) and the time is in its window (`InWindow`).
* `SilentlyMistyped`: every entry is admitted, and one has a mistyped lifecycle member.

Results:
* `loadEntry_isOk`: an entry is loaded iff it is admitted.
* `lastFor_iff_signerKey`: the key a map has for a reference is that of the last entry under it.
* **`failClosed_iff`**: the load fails closed exactly when the document is not silently mistyped.
-/

namespace Nlboot.Reference

open Nlboot.Lib

variable {N K : Type}

/-! ## Liveness of an entry -/

/-- Absent or null. -/
def Missing (value : Option (Json N)) : Prop := value = none ∨ value = some .null

/-- The member holds a timestamp with an offset whose instant is related to `now`. -/
def Timestamp (rt : Runtime N) (value : Option (Json N)) (rel : Int → Prop) : Prop :=
  ∃ text t, value = some (.str text) ∧ awareTime rt text = some t ∧ rel t.instant

/-- The entry says its key is live at the instant `now`. -/
structure Live (rt : Runtime N) (entry : Members N) (now : Int) : Prop where
  status : entry.get "status" = none ∨ entry.get "status" = some (.str activeKeyStatus)
  revokedAt : Missing (entry.get "revoked_at")
  notBefore : Missing (entry.get "not_before") ∨ Timestamp rt (entry.get "not_before") (· ≤ now)
  notAfter : Missing (entry.get "not_after") ∨ Timestamp rt (entry.get "not_after") (now < ·)

/-- The members that decide whether a key is live, apart from its status. -/
def lifecycleFields : List String := ["revoked_at", "not_before", "not_after"]

/-- A lifecycle member holds anything but what a live key has: a `revoked_at` that is not null, or a
`not_before` or `not_after` that is neither null nor a timestamp with an offset on the right side of
`now`. -/
def NotInForce (rt : Runtime N) (entry : Members N) (now : Int) : Prop :=
  ¬ Missing (entry.get "revoked_at") ∨
    ¬ (Missing (entry.get "not_before") ∨ Timestamp rt (entry.get "not_before") (· ≤ now)) ∨
    ¬ (Missing (entry.get "not_after") ∨ Timestamp rt (entry.get "not_after") (now < ·))

/-- Neither absent, nor null, nor a string. -/
def WrongType (value : Option (Json N)) : Prop := ¬ Missing value ∧ ∀ s, value ≠ some (.str s)

/-- A lifecycle member has another JSON type than null or string. -/
def Mistyped (entry : Members N) : Prop := ∃ field ∈ lifecycleFields, WrongType (entry.get field)

/-- The last entry of `keys` under the reference. -/
def OwnEntry (keys : List (Json N)) (ref : String) (entry : Members N) : Prop :=
  ∃ before after, keys = before ++ .obj entry :: after ∧ entry.get "key_ref" = some (.str ref) ∧
    ∀ other, Json.obj other ∈ after → Members.get other "key_ref" ≠ some (.str ref)

/-- Every key of the map is live according to its own entry of the document. -/
def LiveKeys (rt : Runtime N) (now : AwareTime) (data : Members N) (loaded : TrustedKeys) : Prop :=
  ∀ ref key, loaded.lookup ref = some key →
    ∃ keys entry, data.get "keys" = some (.arr keys) ∧ OwnEntry keys ref entry ∧
      TrustedKey.fromDict rt entry = .ok key ∧ Live rt entry now.instant

/-- The key lifecycle fails closed: loaded keys are live, also those of a trust bundle, and an
entry that is not in force makes the load raise, also that of a bundle. -/
structure FailClosed (rt : Runtime N) (crypto : Crypto K) (clock : UtcTime) (now : AwareTime)
    (data : Members N) : Prop where
  load : ∀ loaded, loadTrustedKeys rt clock (some now) data = .ok loaded →
    LiveKeys rt now data loaded
  bundle : ∀ rootKeys loaded,
    loadVerifiedTrustBundle rt crypto clock (some now) rootKeys data = .ok loaded →
      LiveKeys rt now data loaded
  refuses : ∀ keys entry, data.get "keys" = some (.arr keys) → .obj entry ∈ keys →
    NotInForce rt entry now.instant → (∃ e, loadTrustedKeys rt clock (some now) data = .error e) ∧
      ∀ rootKeys, ∃ e, loadVerifiedTrustBundle rt crypto clock (some now) rootKeys data = .error e

/-! ## What the loop keeps -/

/-- The entry passes every check of `from_dict` and `validate_lifecycle` at `current`. -/
structure Admitted (rt : Runtime N) (entry : Members N) (current : UtcTime) : Prop where
  keyRef : ∃ ref, entry.get "key_ref" = some (.str ref) ∧ ref ≠ ""
  algorithm : entry.get "algorithm" = some (.str fipsReadyAlgorithm)
  publicKeyPem : ∃ pem, entry.get "public_key_pem" = some (.str pem) ∧
    contains pem "BEGIN PUBLIC KEY" = true
  status : entry.get "status" = none ∨ entry.get "status" = some (.str activeKeyStatus)
  revocationReason : ¬ WrongType (entry.get "revocation_reason")
  revokedAt : ∀ text, entry.get "revoked_at" ≠ some (.str text)
  notBefore : ∀ text, entry.get "not_before" = some (.str text) →
    ∃ t time, awareTime rt text = some t ∧ t.toUtc = some time ∧ time.micros ≤ current.micros
  notAfter : ∀ text, entry.get "not_after" = some (.str text) →
    ∃ t time, awareTime rt text = some t ∧ t.toUtc = some time ∧ current.micros < time.micros

/-- The member is no string, or one of a time that is a `datetime` in UTC. -/
def TimeOrNothing (rt : Runtime N) (value : Option (Json N)) : Prop :=
  ∀ text, value = some (.str text) → ∃ t time, awareTime rt text = some t ∧ t.toUtc = some time

/-- The entry passes every check of `from_dict` and `validate_lifecycle` but those of its window. -/
structure Usable (rt : Runtime N) (entry : Members N) : Prop where
  keyRef : ∃ ref, entry.get "key_ref" = some (.str ref) ∧ ref ≠ ""
  algorithm : entry.get "algorithm" = some (.str fipsReadyAlgorithm)
  publicKeyPem : ∃ pem, entry.get "public_key_pem" = some (.str pem) ∧
    contains pem "BEGIN PUBLIC KEY" = true
  status : entry.get "status" = none ∨ entry.get "status" = some (.str activeKeyStatus)
  revocationReason : ¬ WrongType (entry.get "revocation_reason")
  revokedAt : ∀ text, entry.get "revoked_at" ≠ some (.str text)
  notBefore : TimeOrNothing rt (entry.get "not_before")
  notAfter : TimeOrNothing rt (entry.get "not_after")

/-- The time is inside the window that the timestamps of the entry give. -/
structure InWindow (rt : Runtime N) (entry : Members N) (current : UtcTime) : Prop where
  notBefore : ∀ text t time, entry.get "not_before" = some (.str text) →
    awareTime rt text = some t → t.toUtc = some time → time.micros ≤ current.micros
  notAfter : ∀ text t time, entry.get "not_after" = some (.str text) →
    awareTime rt text = some t → t.toUtc = some time → current.micros < time.micros

/-- **An entry is admitted** iff it is usable and the time is in its window. -/
theorem admitted_iff {rt : Runtime N} {entry : Members N} {current : UtcTime} :
    Admitted rt entry current ↔ Usable rt entry ∧ InWindow rt entry current := by
  have hboth : ∀ {value : Option (Json N)} {rel : UtcTime → Prop},
      (∀ text, value = some (.str text) →
        ∃ t time, awareTime rt text = some t ∧ t.toUtc = some time ∧ rel time) ↔
      TimeOrNothing rt value ∧ ∀ text t time, value = some (.str text) →
        awareTime rt text = some t → t.toUtc = some time → rel time := by
    intro value rel
    constructor
    · refine fun h => ⟨fun text htext => ?_, fun text t time htext ht htime => ?_⟩
      · obtain ⟨t, time, ht, htime, -⟩ := h text htext
        exact ⟨t, time, ht, htime⟩
      · obtain ⟨t', time', ht', htime', hrel⟩ := h text htext
        obtain rfl := Option.some.inj (ht.symm.trans ht')
        exact Option.some.inj (htime'.symm.trans htime) ▸ hrel
    · rintro ⟨htime, hrel⟩ text htext
      obtain ⟨t, time, ht, htime⟩ := htime text htext
      exact ⟨t, time, ht, htime, hrel text t time htext ht htime⟩
  constructor
  · intro h
    exact ⟨⟨h.keyRef, h.algorithm, h.publicKeyPem, h.status, h.revocationReason, h.revokedAt,
      (hboth.mp h.notBefore).1, (hboth.mp h.notAfter).1⟩,
      (hboth.mp h.notBefore).2, (hboth.mp h.notAfter).2⟩
  · rintro ⟨h, hwindow⟩
    exact ⟨h.keyRef, h.algorithm, h.publicKeyPem, h.status, h.revocationReason, h.revokedAt,
      hboth.mpr ⟨h.notBefore, hwindow.notBefore⟩, hboth.mpr ⟨h.notAfter, hwindow.notAfter⟩⟩

/-- Every entry is admitted, and one of them has a mistyped lifecycle member. -/
def SilentlyMistyped (rt : Runtime N) (now : AwareTime) (data : Members N) : Prop :=
  ∃ keys current, data.get "keys" = some (.arr keys) ∧ now.toUtc = some current ∧
    (∀ item ∈ keys, ∃ entry, item = .obj entry ∧ Admitted rt entry current) ∧
    ∃ entry, .obj entry ∈ keys ∧ Mistyped entry

/-- A status that `from_dict` reads as `active`. -/
theorem keyStatus_active_iff {value : Option (Json N)} :
    keyStatus value = .ok activeKeyStatus ↔ value = none ∨ value = some (.str activeKeyStatus) := by
  unfold keyStatus
  split
  · simp
  · rename_i s
    simp only [bind_eq_ok, check_eq_ok, exists_const, pure_eq_ok, reduceCtorEq, Option.some.injEq,
      Json.str.injEq, false_or]
    constructor
    · exact fun h => h.2
    · rintro rfl; exact ⟨by simp [activeKeyStatus], rfl⟩
  · simp
  · simp
  · rename_i v hstr _ _
    simp only [throw_ne_ok, reduceCtorEq, Option.some.injEq, false_or, false_iff]
    exact fun h => hstr _ h

theorem reasonField_isOk_iff {value : Option (Json N)} :
    (∃ r, reasonField value = .ok r) ↔ ¬ WrongType value := by
  unfold reasonField WrongType Missing
  split
  · simp
  · simp
  · simp
  · rename_i v hnull hstr
    simp only [throw_ne_ok, exists_false, reduceCtorEq, Option.some.injEq, false_or, false_iff,
      not_not]
    exact ⟨fun h => hnull h, fun s h => hstr s (Option.some.inj h)⟩

/-- A member read as an optional time that satisfies `rel`: every string in it is such a time. -/
theorem optionalTime_isOk_iff {rt : Runtime N} {value : Option (Json N)} (field : String)
    {rel : UtcTime → Prop} :
    (∃ o, optionalTime rt value field = .ok o ∧ ∀ time ∈ o, rel time) ↔
      ∀ text, value = some (.str text) →
        ∃ t time, awareTime rt text = some t ∧ t.toUtc = some time ∧ rel time := by
  unfold optionalTime
  split
  · rename_i s
    simp only [map_eq_ok, parseTime_eq_ok, Option.some.injEq, Json.str.injEq, forall_eq']
    constructor
    · rintro ⟨_, ⟨time, ⟨t, ht, htime⟩, rfl⟩, hrel⟩
      exact ⟨t, time, ht, htime, hrel time rfl⟩
    · rintro ⟨t, time, ht, htime, hrel⟩
      refine ⟨some time, ⟨time, ⟨t, ht, htime⟩, rfl⟩, fun _ h => ?_⟩
      exact Option.some.inj h ▸ hrel
  · rename_i hne
    simp only [pure_eq_ok, exists_eq_left', Option.mem_def, reduceCtorEq, false_implies,
      implies_true, true_iff]
    exact fun text h => absurd h (hne text)

/-- A member read as no time at all: it is no string. -/
theorem optionalTime_none_iff {rt : Runtime N} {value : Option (Json N)} {field : String} :
    optionalTime rt value field = .ok none ↔ ∀ text, value ≠ some (.str text) := by
  unfold optionalTime
  split
  · simp
  · rename_i hne
    simpa using hne

/-- The item is an object that is admitted at the time it is judged at. -/
def AcceptedKey (rt : Runtime N) (clock : UtcTime) (now : Option Moment) (item : Json N) : Prop :=
  ∃ entry current, item = .obj entry ∧ currentTime clock now = .ok current ∧
    Admitted rt entry current

/-- **An entry is loaded** iff it is an object that is admitted. -/
theorem loadEntry_isOk {rt : Runtime N} {clock : UtcTime} {now : Option Moment} {item : Json N} :
    (∃ r, loadEntry rt clock now item = .ok r) ↔ AcceptedKey rt clock now item := by
  constructor
  · rintro ⟨⟨ref, key⟩, h⟩
    obtain ⟨entry, rfl, hkey, hlife, -⟩ := loadEntry_eq_ok.mp h
    obtain ⟨⟨href, hne⟩, halg, ⟨hpem, hmark⟩, hstatus, hreason, hnb, hna, hra, -⟩ :=
      TrustedKey.fromDict_eq_ok.mp hkey
    obtain ⟨current, hc, hactive, hrevoked, hbefore, hafter⟩ :=
      TrustedKey.validateLifecycle_eq_ok.mp hlife
    refine ⟨entry, current, rfl, hc, ⟨_, href, hne⟩, halg, ⟨_, hpem, hmark⟩, ?_, ?_, ?_, ?_, ?_⟩
    · exact keyStatus_active_iff.mp (hactive ▸ hstatus)
    · exact reasonField_isOk_iff.mp ⟨_, hreason⟩
    · exact optionalTime_none_iff.mp (hrevoked ▸ hra)
    · exact (optionalTime_isOk_iff _).mp ⟨_, hnb, hbefore⟩
    · exact (optionalTime_isOk_iff _).mp ⟨_, hna, hafter⟩
  · rintro ⟨entry, current, rfl, hc, ⟨ref, href, hne⟩, halg, ⟨pem, hpem, hmark⟩, hstatus, hreason,
      hra, hnb, hna⟩
    obtain ⟨reason, hreason⟩ := reasonField_isOk_iff.mpr hreason
    obtain ⟨notBefore, hnb, hbefore⟩ := (optionalTime_isOk_iff "not_before").mpr hnb
    obtain ⟨notAfter, hna, hafter⟩ := (optionalTime_isOk_iff "not_after").mpr hna
    let key : TrustedKey :=
      { keyRef := ref, algorithm := fipsReadyAlgorithm, publicKeyPem := pem,
        status := activeKeyStatus, notBefore, notAfter, revokedAt := none,
        revocationReason := reason }
    refine ⟨(ref, key), loadEntry_eq_ok.mpr ⟨entry, rfl, ?_, ?_, rfl⟩⟩
    · exact TrustedKey.fromDict_eq_ok.mpr ⟨⟨href, hne⟩, halg, ⟨hpem, hmark⟩,
        keyStatus_active_iff.mpr hstatus, hreason, hnb, hna, optionalTime_none_iff.mpr hra, rfl⟩
    · exact TrustedKey.validateLifecycle_eq_ok.mpr ⟨current, hc, rfl, rfl, hbefore, hafter⟩

/-- An entry is loaded at a time with an offset iff it is admitted at that instant. -/
theorem loadEntry_isOk_iff {rt : Runtime N} {clock : UtcTime} {now : AwareTime} {item : Json N} :
    (∃ r, loadEntry rt clock (some now) item = .ok r) ↔
      ∃ entry current, item = .obj entry ∧ now.toUtc = some current ∧
        Admitted rt entry current := by
  simp only [loadEntry_isOk, AcceptedKey, currentTime_some_eq_ok]

/-! ## Failing closed -/

theorem Live.not_notInForce {rt : Runtime N} {entry : Members N} {now : Int}
    (h : Live rt entry now) : ¬ NotInForce rt entry now := by
  rintro (hrevoked | hbefore | hafter)
  · exact hrevoked h.revokedAt
  · exact hbefore h.notBefore
  · exact hafter h.notAfter

/-- A mistyped member is neither null nor a timestamp. -/
theorem Mistyped.notInForce {rt : Runtime N} {entry : Members N} (h : Mistyped entry) (now : Int) :
    NotInForce rt entry now := by
  have hnot : ∀ {value : Option (Json N)} {rel : Int → Prop}, WrongType value →
      ¬ (Missing value ∨ Timestamp rt value rel) := by
    rintro value rel ⟨hpresent, htext⟩ (hmissing | ⟨text, _, hvalue, -⟩)
    · exact hpresent hmissing
    · exact htext text hvalue
  obtain ⟨field, hfield, hwrong⟩ := h
  simp only [lifecycleFields, List.mem_cons, List.not_mem_nil, or_false] at hfield
  obtain rfl | rfl | rfl := hfield
  · exact .inl hwrong.1
  · exact .inr (.inl (hnot hwrong))
  · exact .inr (.inr (hnot hwrong))

/-- An admitted entry without mistyped members is live. -/
theorem Admitted.live {rt : Runtime N} {entry : Members N} {current : UtcTime} {now : AwareTime}
    (h : Admitted rt entry current) (hnow : now.toUtc = some current) (htypes : ¬ Mistyped entry) :
    Live rt entry now.instant := by
  have htyped : ∀ field ∈ lifecycleFields, Missing (entry.get field) ∨
      ∃ text, entry.get field = some (.str text) := by
    intro field hfield
    by_contra hwrong
    rw [not_or, not_exists] at hwrong
    exact htypes ⟨field, hfield, hwrong⟩
  have hcurrent : current.micros = now.instant := AwareTime.toUtc_eq_some.mp hnow
  refine ⟨h.status, ?_, ?_, ?_⟩
  · refine (htyped "revoked_at" (by simp [lifecycleFields])).resolve_right ?_
    rintro ⟨text, htext⟩
    exact h.revokedAt text htext
  · refine (htyped "not_before" (by simp [lifecycleFields])).imp_right ?_
    rintro ⟨text, htext⟩
    obtain ⟨t, time, ht, htime, hle⟩ := h.notBefore text htext
    rw [AwareTime.toUtc_eq_some.mp htime, hcurrent] at hle
    exact ⟨text, t, htext, ht, hle⟩
  · refine (htyped "not_after" (by simp [lifecycleFields])).imp_right ?_
    rintro ⟨text, htext⟩
    obtain ⟨t, time, ht, htime, hlt⟩ := h.notAfter text htext
    rw [AwareTime.toUtc_eq_some.mp htime, hcurrent] at hlt
    exact ⟨text, t, htext, ht, hlt⟩

/-- The items of a document that loads are admitted objects. -/
theorem Loads.admitted {rt : Runtime N} {clock : UtcTime} {now : AwareTime} {data : Members N}
    {entries : List (String × TrustedKey)} {keys : List (Json N)}
    (h : Loads rt clock (some now) data entries) (hkeys : data.get "keys" = some (.arr keys)) :
    ∀ item ∈ keys, ∃ entry current, item = .obj entry ∧ now.toUtc = some current ∧
      Admitted rt entry current := by
  obtain ⟨keys', hkeys', hall⟩ := h
  obtain rfl := Json.arr.inj (Option.some.inj (hkeys.symm.trans hkeys'))
  intro item hitem
  obtain ⟨r, -, hr⟩ := exists_mem_right_of_forall₂ hall item hitem
  exact loadEntry_isOk_iff.mp ⟨r, hr⟩

/-- **A document loads** iff its keys are an array of accepted ones. -/
theorem exists_loads_iff {rt : Runtime N} {clock : UtcTime} {now : Option Moment}
    {data : Members N} :
    (∃ entries, Loads rt clock now data entries) ↔
      ∃ keys, data.get "keys" = some (.arr keys) ∧
        ∀ item ∈ keys, AcceptedKey rt clock now item := by
  constructor
  · rintro ⟨entries, keys, hkeys, hall⟩
    refine ⟨keys, hkeys, fun item hitem => ?_⟩
    obtain ⟨r, -, hr⟩ := exists_mem_right_of_forall₂ hall item hitem
    exact loadEntry_isOk.mp ⟨r, hr⟩
  · rintro ⟨keys, hkeys, hall⟩
    obtain ⟨entries, hentries⟩ := exists_forall₂ fun item hitem =>
      loadEntry_isOk.mpr (hall item hitem)
    exact ⟨entries, keys, hkeys, hentries⟩

/-- In a document that loads and is not silently mistyped, no item is mistyped. -/
theorem Loads.not_mistyped {rt : Runtime N} {clock : UtcTime} {now : AwareTime} {data : Members N}
    {entries : List (String × TrustedKey)} {keys : List (Json N)} {entry : Members N}
    (h : Loads rt clock (some now) data entries) (hkeys : data.get "keys" = some (.arr keys))
    (hdoc : ¬ SilentlyMistyped rt now data) (hmem : .obj entry ∈ keys) : ¬ Mistyped entry := by
  intro hwrong
  obtain ⟨_, current, -, hcurrent, -⟩ := h.admitted hkeys _ hmem
  refine hdoc ⟨keys, current, hkeys, hcurrent, fun item hitem => ?_, entry, hmem, hwrong⟩
  obtain ⟨entry', current', hobj, hcurrent', hadm⟩ := h.admitted hkeys item hitem
  obtain rfl := Option.some.inj (hcurrent.symm.trans hcurrent')
  exact ⟨entry', hobj, hadm⟩

/-- The last entry under a reference is one entry. -/
theorem OwnEntry.unique {keys : List (Json N)} {ref : String} {entry entry' : Members N}
    (h : OwnEntry keys ref entry) (h' : OwnEntry keys ref entry') : entry = entry' := by
  obtain ⟨before, after, rfl, hnamed, hlater⟩ := h
  obtain ⟨before', after', hsplit, hnamed', hlater'⟩ := h'
  rcases List.append_eq_append_iff.mp hsplit with ⟨rest, -, hrest⟩ | ⟨rest, -, hrest⟩
  · cases rest with
    | nil => exact Json.obj.inj (List.cons.inj hrest).1
    | cons item rest =>
      obtain ⟨-, hafter⟩ := List.cons.inj hrest
      exact absurd hnamed' (hlater entry' (hafter ▸ by simp))
  · cases rest with
    | nil => exact (Json.obj.inj (List.cons.inj hrest).1).symm
    | cons item rest =>
      obtain ⟨-, hafter⟩ := List.cons.inj hrest
      exact absurd hnamed (hlater' entry (hafter ▸ by simp))

/-- The key of the last entry under the reference. -/
def SignerKey (rt : Runtime N) (keys : List (Json N)) (ref : String) (key : TrustedKey) : Prop :=
  ∃ entry, OwnEntry keys ref entry ∧ TrustedKey.fromDict rt entry = .ok key

/-- **The key of a reference** in the map is that of its own entry. -/
theorem lastFor_iff_signerKey {rt : Runtime N} {clock : UtcTime} {now : Option Moment}
    {data : Members N} {entries : List (String × TrustedKey)} {keys : List (Json N)}
    {ref : String} {key : TrustedKey} (h : Loads rt clock now data entries)
    (hkeys : data.get "keys" = some (.arr keys)) :
    lastFor ref entries = some key ↔ SignerKey rt keys ref key := by
  obtain ⟨keys', hkeys', hall⟩ := h
  obtain rfl := Json.arr.inj (Option.some.inj (hkeys.symm.trans hkeys'))
  have hown : ∀ {key}, lastFor ref entries = some key → SignerKey rt keys ref key := by
    intro key hlookup
    obtain ⟨before, item, after, hsplit, hitem, hafter⟩ := exists_of_lastFor hall hlookup
    obtain ⟨entry, rfl, hkey, -, href⟩ := loadEntry_eq_ok.mp hitem
    obtain rfl : ref = key.keyRef := href
    refine ⟨entry, ⟨before, after, hsplit, (TrustedKey.fromDict_eq_ok.mp hkey).1.1,
      fun other hother hsame => ?_⟩, hkey⟩
    obtain ⟨⟨ref', key'⟩, hr, hne⟩ := hafter _ hother
    obtain ⟨_, hobj', hkey', -, href'⟩ := loadEntry_eq_ok.mp hr
    obtain rfl := Json.obj.inj hobj'
    have hnamed' := (TrustedKey.fromDict_eq_ok.mp hkey').1.1
    rw [hsame, Option.some.injEq, Json.str.injEq] at hnamed'
    exact hne (href'.trans hnamed'.symm)
  refine ⟨hown, ?_⟩
  rintro ⟨entry, hentry, hkey⟩
  obtain ⟨before, after, hsplit, hnamed, -⟩ := id hentry
  obtain ⟨⟨ref', key'⟩, hmem, hitem⟩ :=
    exists_mem_right_of_forall₂ hall (.obj entry) (by simp [hsplit])
  obtain ⟨_, hobj, hkey', -, href⟩ := loadEntry_eq_ok.mp hitem
  obtain rfl := Json.obj.inj hobj
  obtain rfl : key' = key := Except.ok.inj (hkey'.symm.trans hkey)
  obtain rfl : ref' = key'.keyRef := href
  obtain rfl := Json.str.inj (Option.some.inj
    (hnamed.symm.trans (TrustedKey.fromDict_eq_ok.mp hkey).1.1))
  obtain ⟨last, hlast⟩ := exists_lastFor_of_mem hmem
  obtain ⟨entry', hentry', hkey''⟩ := hown hlast
  obtain rfl := hentry.unique hentry'
  exact hlast.trans (congrArg some (Except.ok.inj (hkey''.symm.trans hkey)))

/-- Unless the document is silently mistyped, the keys it loads are live. -/
theorem liveKeys_of_loads {rt : Runtime N} {clock : UtcTime} {now : AwareTime} {data : Members N}
    {loaded : TrustedKeys} (hdoc : ¬ SilentlyMistyped rt now data)
    (hload : loadTrustedKeys rt clock (some now) data = .ok loaded) :
    LiveKeys rt now data loaded := by
  obtain ⟨entries, hloads, rfl⟩ := loadTrustedKeys_eq_ok.mp hload
  obtain ⟨keys, hkeys, -⟩ := id hloads
  intro ref key hlookup
  rw [lookup_loaded] at hlookup
  obtain ⟨entry, hentry, hkey⟩ := (lastFor_iff_signerKey hloads hkeys).mp hlookup
  obtain ⟨before, after, hsplit, -⟩ := id hentry
  have hmem : .obj entry ∈ keys := by simp [hsplit]
  obtain ⟨_, current, hobj, hcurrent, hadm⟩ := hloads.admitted hkeys _ hmem
  obtain rfl := Json.obj.inj hobj
  exact ⟨keys, entry, hkeys, hentry, hkey,
    hadm.live hcurrent (hloads.not_mistyped hkeys hdoc hmem)⟩

/-- A trust bundle returns what its document loads. -/
theorem loadTrustedKeys_of_bundle {rt : Runtime N} {crypto : Crypto K} {clock : UtcTime}
    {now : Option Moment} {rootKeys loaded : TrustedKeys} {data : Members N}
    (h : loadVerifiedTrustBundle rt crypto clock now rootKeys data = .ok loaded) :
    loadTrustedKeys rt clock now data = .ok loaded := by
  unfold loadVerifiedTrustBundle at h
  simp only [bind_eq_ok] at h
  obtain ⟨_, -, signerRef, -, _, -, _, -, _, -, h⟩ := h
  cases hlookup : rootKeys.lookup signerRef with
  | none => exact absurd (hlookup ▸ h) throw_ne_ok
  | some signer =>
    rw [hlookup] at h
    simp only [bind_eq_ok] at h
    obtain ⟨_, -, _, -, hload⟩ := h
    exact hload

/-- **The key lifecycle fails closed, exactly.** It does so on every document except those whose
entries are all admitted while one of them has a mistyped lifecycle member. -/
theorem failClosed_iff {rt : Runtime N} {crypto : Crypto K} {clock : UtcTime} {now : AwareTime}
    {data : Members N} :
    FailClosed rt crypto clock now data ↔ ¬ SilentlyMistyped rt now data := by
  constructor
  · rintro hclosed ⟨keys, current, hkeys, hcurrent, hall, entry, hmem, hwrong⟩
    have hloaded : ∀ item ∈ keys, ∃ r, loadEntry rt clock (some now) item = .ok r := by
      intro item hitem
      obtain ⟨entry', rfl, hadm⟩ := hall item hitem
      exact loadEntry_isOk_iff.mpr ⟨entry', current, rfl, hcurrent, hadm⟩
    obtain ⟨entries, hentries⟩ := exists_forall₂ hloaded
    have hload := loadTrustedKeys_eq_ok.mpr ⟨entries, ⟨keys, hkeys, hentries⟩, rfl⟩
    obtain ⟨⟨e, he⟩, -⟩ := hclosed.refuses keys entry hkeys hmem (hwrong.notInForce _)
    exact absurd (hload.symm.trans he) (by simp)
  · intro hdoc
    refine ⟨fun loaded hload => liveKeys_of_loads hdoc hload, fun rootKeys loaded hload =>
      liveKeys_of_loads hdoc (loadTrustedKeys_of_bundle hload), fun keys entry hkeys hmem hforce =>
      ?_⟩
    have hraises : ∀ loaded, loadTrustedKeys rt clock (some now) data ≠ .ok loaded := by
      intro loaded hload
      obtain ⟨entries, hloads, -⟩ := loadTrustedKeys_eq_ok.mp hload
      obtain ⟨_, current, hobj, hcurrent, hadmitted⟩ := hloads.admitted hkeys _ hmem
      obtain rfl := Json.obj.inj hobj
      have hlive := hadmitted.live hcurrent (hloads.not_mistyped hkeys hdoc hmem)
      exact hlive.not_notInForce hforce
    exact ⟨exists_error_of_ne_ok hraises, fun rootKeys =>
      exists_error_of_ne_ok fun loaded hload => hraises loaded (loadTrustedKeys_of_bundle hload)⟩

/-- A trusted-key entry that was revoked, at a time given in epoch seconds. -/
def revokedEntry : Members Int := [
  ("key_ref", .str "urn:srcos:key:demo"),
  ("algorithm", .str "rsa-pss-sha256"),
  ("public_key_pem", .str "-----BEGIN PUBLIC KEY-----"),
  ("revoked_at", .num 1700000000)]

/-- The document with the revoked entry loads, and so trusts its key. -/
theorem revokedEntry_loads :
    ¬ FailClosed pyRuntime pyCrypto newYear newYear.toAware
      [("keys", .arr [.obj revokedEntry])] := by
  intro h
  have hget : revokedEntry.get "revoked_at" = some (.num 1700000000) := rfl
  have hwrong : Mistyped revokedEntry :=
    ⟨"revoked_at", by simp [lifecycleFields], by simp [WrongType, Missing, hget]⟩
  obtain ⟨⟨e, he⟩, -⟩ := h.refuses [.obj revokedEntry] revokedEntry rfl List.mem_cons_self
    (hwrong.notInForce _)
  have hload : (loadTrustedKeys pyRuntime newYear newYear.toAware
      [("keys", .arr [.obj revokedEntry])]).isOk = true := by decide
  rw [he] at hload
  exact absurd hload (by simp [Except.isOk, Except.toBool])

end Nlboot.Reference
