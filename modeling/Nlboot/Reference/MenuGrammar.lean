import Nlboot.Reference.Documents

/-!
# The grammar of boot menus

What `BootMenu.from_dict` of `protocol.py` accepts, said of the document alone, and the round trip
through `to_dict`.

* `Visible`, `Flagged`: a member that is a text, a member that is a flag or absent.
* `EntryGrammar`, `EntriesGrammar`, `MenuGrammar`: the documents of entries and menus.

Results:
* `entryDoc_iff`, `menuDoc_iff`: a document describes a record iff it is of the grammar.
* `EntryDoc.toDict`, `MenuDoc.toDict`: `to_dict` writes a document of the record.
* **`BootMenu.fromDict_grammar`**: what is accepted, and what of an accepted menu holds.
-/

namespace Nlboot.Reference

open Nlboot.Lib

variable {N : Type} {data : Members N}

/-! ## Documents -/

/-- The member is a string that is not blank. -/
def Visible (data : Members N) (key : String) : Prop := ∃ text, TextField data key text

/-- The member is a boolean, or absent. -/
def Flagged (data : Members N) (key : String) : Prop :=
  data.get key = none ∨ ∃ flag, data.get key = some (.bool flag)

/-- The document of a boot menu entry. -/
structure EntryGrammar (data : Members N) : Prop where
  entryId : Visible data "entry_id"
  label : Visible data "label"
  bootReleaseSetId : Visible data "boot_release_set_id"
  releaseSetRef : Visible data "release_set_ref"
  bootMode : ∃ mode : BootMode, data.get "boot_mode" = some (.str mode.text)
  role : ∃ role : BootEntryRole, data.get "role" = some (.str role.text)
  default : Flagged data "default"
  rollbackEligible : Flagged data "rollback_eligible"
  rollback : data.get "role" = some (.str "rollback") →
    data.get "rollback_eligible" = some (.bool true)

/-- The entry is marked as the default. -/
def MarkedDefault (item : Members N) : Prop := item.get "default" = some (.bool true)

/-- The entries of a boot menu with the default id `defaultId`. -/
structure EntriesGrammar (defaultId : Option (Json N)) (items : List (Members N)) : Prop where
  nonempty : items ≠ []
  each : ∀ item ∈ items, EntryGrammar item
  distinct : (items.map (·.get "entry_id")).Nodup
  default_mem : ∃ item ∈ items, item.get "entry_id" = defaultId
  marked_once : items.Pairwise fun a b => ¬ (MarkedDefault a ∧ MarkedDefault b)
  marked : ∀ item ∈ items, MarkedDefault item → item.get "entry_id" = defaultId

/-- The document of a boot menu. -/
structure MenuGrammar (data : Members N) : Prop where
  menuId : Visible data "menu_id"
  defaultEntryId : Visible data "default_entry_id"
  entries : ∃ items, data.get "entries" = some (.arr (items.map .obj)) ∧
    EntriesGrammar (data.get "default_entry_id") items

/-! ## Entries -/

theorem FlagField.flagged {key : String} {flag : Bool} (h : FlagField data key flag) :
    Flagged data key := by
  obtain htrue | ⟨hnone, -⟩ := h
  · exact .inr ⟨flag, htrue⟩
  · exact .inl hnone

theorem Flagged.exists_flagField {key : String} (h : Flagged data key) :
    ∃ flag, FlagField data key flag := by
  obtain hnone | ⟨flag, hflag⟩ := h
  · exact ⟨false, .inr ⟨hnone, rfl⟩⟩
  · exact ⟨flag, .inl hflag⟩

theorem FlagField.eq_true_iff {key : String} {flag : Bool} (h : FlagField data key flag) :
    data.get key = some (.bool true) ↔ flag = true := by
  obtain hflag | ⟨hnone, rfl⟩ := h
  · simp [hflag]
  · simp [hnone]

theorem EntryDoc.get_entryId {entry : BootMenuEntry} (h : EntryDoc data entry) :
    data.get "entry_id" = some (.str entry.entryId) := h.entryId.1

theorem EntryDoc.marked_iff {entry : BootMenuEntry} (h : EntryDoc data entry) :
    MarkedDefault data ↔ entry.default = true := h.default.eq_true_iff

theorem EntryDoc.grammar {entry : BootMenuEntry} (h : EntryDoc data entry) : EntryGrammar data where
  entryId := ⟨_, h.entryId⟩
  label := ⟨_, h.label⟩
  bootReleaseSetId := ⟨_, h.bootReleaseSetId⟩
  releaseSetRef := ⟨_, h.releaseSetRef⟩
  bootMode := ⟨_, h.bootMode.1⟩
  role := ⟨_, h.role.1⟩
  default := h.default.flagged
  rollbackEligible := h.rollbackEligible.flagged
  rollback hrole := by
    have htext : entry.role.text = BootEntryRole.rollback.text :=
      Json.str.inj (Option.some.inj (h.role.1.symm.trans hrole))
    have hrollback : entry.role = .rollback := by
      revert htext
      cases entry.role <;> decide
    exact h.rollbackEligible.eq_true_iff.mpr (h.rollback hrollback)

theorem blank_role (role : BootEntryRole) : blank role.text = false := by
  cases role <;> decide

/-- An object describes an entry iff it is of the grammar. -/
theorem entryDoc_iff : (∃ entry, EntryDoc data entry) ↔ EntryGrammar data := by
  constructor
  · rintro ⟨entry, h⟩
    exact h.grammar
  · intro h
    obtain ⟨entryId, hid⟩ := h.entryId
    obtain ⟨label, hlabel⟩ := h.label
    obtain ⟨release, hrelease⟩ := h.bootReleaseSetId
    obtain ⟨ref, href⟩ := h.releaseSetRef
    obtain ⟨bootMode, hmode⟩ := h.bootMode
    obtain ⟨role, hrole⟩ := h.role
    obtain ⟨default, hdefault⟩ := h.default.exists_flagField
    obtain ⟨rollbackEligible, hroll⟩ := h.rollbackEligible.exists_flagField
    exact ⟨⟨entryId, label, release, ref, bootMode, role, default, rollbackEligible⟩,
      { entryId := hid
        label := hlabel
        bootReleaseSetId := hrelease
        releaseSetRef := href
        bootMode := ⟨hmode, blank_bootMode bootMode⟩
        role := ⟨hrole, blank_role role⟩
        default := hdefault
        rollbackEligible := hroll
        rollback := by
          rintro rfl
          exact hroll.eq_true_iff.mp (h.rollback hrole) }⟩

/-- `to_dict` of an entry is a document of it. -/
theorem EntryDoc.toDict {entry : BootMenuEntry} (h : EntryDoc data entry) :
    EntryDoc (entry.toDict : Members N) entry where
  entryId := ⟨rfl, h.entryId.2⟩
  label := ⟨rfl, h.label.2⟩
  bootReleaseSetId := ⟨rfl, h.bootReleaseSetId.2⟩
  releaseSetRef := ⟨rfl, h.releaseSetRef.2⟩
  bootMode := ⟨rfl, h.bootMode.2⟩
  role := ⟨rfl, h.role.2⟩
  default := .inl rfl
  rollbackEligible := .inl rfl
  rollback := h.rollback

/-! ## Menus -/

/-- Items that describe entries are objects. -/
theorem forall₂_entryItem {items : List (Json N)} {entries : List BootMenuEntry}
    (h : List.Forall₂ EntryItem items entries) :
    ∃ docs : List (Members N), items = docs.map .obj ∧ List.Forall₂ EntryDoc docs entries := by
  induction h with
  | nil => exact ⟨[], rfl, .nil⟩
  | cons hitem _ ih =>
    obtain ⟨doc, rfl, hdoc⟩ := hitem
    obtain ⟨docs, rfl, hdocs⟩ := ih
    exact ⟨doc :: docs, rfl, .cons hdoc hdocs⟩

theorem entryItem_of_entryDoc {docs : List (Members N)} {entries : List BootMenuEntry}
    (h : List.Forall₂ EntryDoc docs entries) :
    List.Forall₂ EntryItem (docs.map .obj) entries := by
  rw [List.forall₂_map_left_iff]
  exact h.imp fun doc _ hdoc => ⟨doc, rfl, hdoc⟩

/-- Objects of the grammar describe entries. -/
theorem exists_entries {docs : List (Members N)} (h : ∀ doc ∈ docs, EntryGrammar doc) :
    ∃ entries, List.Forall₂ EntryDoc docs entries := by
  induction docs with
  | nil => exact ⟨[], .nil⟩
  | cons doc docs ih =>
    obtain ⟨entry, hentry⟩ := entryDoc_iff.mpr (h doc List.mem_cons_self)
    obtain ⟨entries, hentries⟩ := ih fun d hd => h d (List.mem_cons_of_mem doc hd)
    exact ⟨entry :: entries, .cons hentry hentries⟩

section

variable {docs : List (Members N)} {entries : List BootMenuEntry}
  (h : List.Forall₂ EntryDoc docs entries)

include h

theorem entryIds_eq : docs.map (·.get "entry_id") =
    (entries.map BootMenuEntry.entryId).map (some ∘ Json.str) := by
  induction h with
  | nil => rfl
  | cons hdoc _ ih => simp [hdoc.get_entryId, ih]

/-- The documents have distinct identifiers iff the entries have. -/
theorem distinct_iff : (docs.map (·.get "entry_id")).Nodup ↔
    (entries.map BootMenuEntry.entryId).Nodup := by
  rw [entryIds_eq h]
  exact List.nodup_map_iff fun a b hab => Json.str.inj (Option.some.inj hab)

theorem default_mem_iff {id : String} :
    (∃ doc ∈ docs, doc.get "entry_id" = some (.str id)) ↔
      id ∈ entries.map BootMenuEntry.entryId := by
  rw [← List.mem_map, entryIds_eq h, List.mem_map]
  simp

theorem marked_default_iff {id : String} :
    (∀ doc ∈ docs, MarkedDefault doc → doc.get "entry_id" = some (.str id)) ↔
      ∀ entry ∈ entries, entry.default = true → entry.entryId = id := by
  induction h with
  | nil => simp
  | cons hdoc _ ih =>
    simp only [List.forall_mem_cons, ih, hdoc.marked_iff, hdoc.get_entryId, Option.some.injEq,
      Json.str.injEq]

/-- What `to_dict` writes of the entries describes them. -/
theorem items_toDict :
    List.Forall₂ EntryItem (entries.map fun entry => (.obj entry.toDict : Json N)) entries := by
  induction h with
  | nil => exact .nil
  | cons hdoc _ ih => exact .cons ⟨_, rfl, hdoc.toDict⟩ ih

theorem grammar_of_docs : ∀ doc ∈ docs, EntryGrammar doc := by
  induction h with
  | nil => simp
  | cons hdoc _ ih => exact List.forall_mem_cons.mpr ⟨hdoc.grammar, ih⟩

end

/-- Under distinct identifiers two marked entries have two identifiers, and only one is the
default. -/
theorem marked_once {docs : List (Members N)} {defaultId : Option (Json N)}
    (hdistinct : (docs.map (·.get "entry_id")).Nodup)
    (hmarked : ∀ doc ∈ docs, MarkedDefault doc → doc.get "entry_id" = defaultId) :
    docs.Pairwise fun a b => ¬ (MarkedDefault a ∧ MarkedDefault b) := by
  rw [List.Nodup, List.pairwise_map] at hdistinct
  refine hdistinct.imp_of_mem fun ha hb hne hboth => hne ?_
  exact (hmarked _ ha hboth.1).trans (hmarked _ hb hboth.2).symm

/-- An object describes a menu iff it is of the grammar. -/
theorem menuDoc_iff : (∃ menu, MenuDoc data menu) ↔ MenuGrammar data := by
  constructor
  · rintro ⟨menu, h⟩
    obtain ⟨items, hitems, hall⟩ := h.entries
    obtain ⟨docs, rfl, hdocs⟩ := forall₂_entryItem hall
    have hdistinct := (distinct_iff hdocs).mpr h.distinct
    have hmarked := (marked_default_iff hdocs).mpr h.marked
    refine ⟨⟨_, h.menuId⟩, ⟨_, h.defaultEntryId⟩, docs, hitems, ?_⟩
    rw [h.defaultEntryId.1]
    refine ⟨?_, grammar_of_docs hdocs, hdistinct, (default_mem_iff hdocs).mpr h.default_mem,
      marked_once hdistinct hmarked, hmarked⟩
    rintro rfl
    obtain ⟨doc, hdoc, -⟩ := (default_mem_iff hdocs).mpr h.default_mem
    exact absurd hdoc List.not_mem_nil
  · rintro ⟨⟨menuId, hid⟩, ⟨defaultId, hdefault⟩, docs, hitems, hentries⟩
    obtain ⟨entries, hdocs⟩ := exists_entries hentries.each
    rw [hdefault.1] at hentries
    exact ⟨⟨menuId, defaultId, entries⟩,
      { menuId := hid
        defaultEntryId := hdefault
        entries := ⟨_, hitems, entryItem_of_entryDoc hdocs⟩
        distinct := (distinct_iff hdocs).mp hentries.distinct
        default_mem := (default_mem_iff hdocs).mp hentries.default_mem
        marked := (marked_default_iff hdocs).mp hentries.marked }⟩

/-- `to_dict` of a menu is a document of it. -/
theorem MenuDoc.toDict {menu : BootMenu} (h : MenuDoc data menu) :
    MenuDoc (menu.toDict : Members N) menu := by
  obtain ⟨items, -, hall⟩ := h.entries
  obtain ⟨docs, rfl, hdocs⟩ := forall₂_entryItem hall
  exact
    { menuId := ⟨rfl, h.menuId.2⟩
      defaultEntryId := ⟨rfl, h.defaultEntryId.2⟩
      entries := ⟨_, rfl, items_toDict hdocs⟩
      distinct := h.distinct
      default_mem := h.default_mem
      marked := h.marked }

/-- **The boot menu parser accepts exactly its grammar.** The entries of an accepted menu are those
of the document in order, `default_entry` returns the only one with the default id, and `to_dict`
parses back as the menu. -/
theorem BootMenu.fromDict_grammar (rt : Runtime N) (data : Members N) :
    ((∃ menu, BootMenu.fromDict rt data = .ok menu) ↔ MenuGrammar data) ∧
    ∀ menu, BootMenu.fromDict rt data = .ok menu →
      (∃ docs, data.get "entries" = some (.arr (docs.map .obj)) ∧
        List.Forall₂ EntryDoc docs menu.entries) ∧
      (∃ entry, menu.defaultEntry = .ok entry ∧ entry ∈ menu.entries ∧
        entry.entryId = menu.defaultEntryId ∧
        ∀ other ∈ menu.entries, other.entryId = menu.defaultEntryId → other = entry) ∧
      BootMenu.fromDict rt menu.toDict = .ok menu := by
  simp only [BootMenu.fromDict_eq_ok]
  refine ⟨menuDoc_iff, fun menu h => ⟨?_, ?_, h.toDict⟩⟩
  · obtain ⟨items, hitems, hall⟩ := h.entries
    obtain ⟨docs, rfl, hdocs⟩ := forall₂_entryItem hall
    exact ⟨docs, hitems, hdocs⟩
  · obtain ⟨entry, hmem, hid⟩ := List.mem_map.mp h.default_mem
    exact ⟨entry, (BootMenu.defaultEntry_eq_ok h.distinct).mpr ⟨hmem, hid⟩, hmem, hid,
      fun other hother hotherId =>
        List.inj_on_of_nodup_map h.distinct hother hmem (hotherId.trans hid.symm)⟩

end Nlboot.Reference
