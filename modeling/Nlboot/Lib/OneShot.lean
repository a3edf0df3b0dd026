import Mathlib.Data.List.Induction
import Mathlib.Data.List.Nodup
import Mathlib.Logic.Function.Basic

/-!
# Permits that work once

A table of permits: `grant` puts a fresh permit under a key, `use` presents a request under a key.
A request is accepted when the permit under its key is fresh and the request is valid for it, and
from then on the permit is spent. Whether a request is valid depends on the permit and the request
alone, so nobody can spend a permit with an invalid request, nor prevent a valid one.

* `run_apply`, `run_after_grant`: what a run does to one key, with no new grant of it.
* **`accepts_iff`**: after a grant, a request is accepted iff it is the first valid one.
* **`exists_grant`**: where an entry of the table comes from.
* **`accepted_unique`**: where every grant has a tag of its own, no two accepted requests are for
  permits of one tag.
-/

namespace Nlboot.Lib.OneShot

variable {κ π α τ : Type} [DecidableEq κ]

/-- A step of the table. -/
inductive Action (κ π α : Type) where
  | grant (key : κ) (permit : π)
  | use (key : κ) (request : α)

/-- The permit under each key, and whether it is fresh. -/
abbrev Table (κ π : Type) := κ → Option (π × Bool)

section
variable (valid : π → α → Bool)

/-- The request is accepted. -/
def Accepts (table : Table κ π) (key : κ) (request : α) : Prop :=
  ∃ permit, table key = some (permit, true) ∧ valid permit request = true

/-- One step: a grant replaces what is under its key, a valid request spends it. -/
def step (table : Table κ π) : Action κ π α → Table κ π
  | .grant key permit => Function.update table key (some (permit, true))
  | .use key request =>
    Function.update table key ((table key).map fun e => (e.1, e.2 && !valid e.1 request))

def run (actions : List (Action κ π α)) (table : Table κ π) : Table κ π :=
  actions.foldl (step valid) table

/-- The action presents a request that is valid for the permit under the key. -/
def spends (key : κ) (permit : π) : Action κ π α → Bool
  | .grant _ _ => false
  | .use key' request => key' == key && valid permit request

/-- Some request of the run is valid for the permit under the key. -/
def used (actions : List (Action κ π α)) (key : κ) (permit : π) : Bool :=
  actions.any (spends valid key permit)

end

/-- The run grants nothing under the key. -/
def NotGranted (actions : List (Action κ π α)) (key : κ) : Prop :=
  ∀ permit, .grant key permit ∉ actions

variable {valid : π → α → Bool}

theorem used_eq_true {actions : List (Action κ π α)} {key : κ} {permit : π} :
    used valid actions key permit = true ↔
      ∃ request, .use key request ∈ actions ∧ valid permit request = true := by
  unfold used
  rw [List.any_eq_true]
  constructor
  · rintro ⟨action, hmem, hspends⟩
    cases action with
    | grant => exact absurd hspends (by simp [spends])
    | use key' request =>
      simp only [spends, Bool.and_eq_true, beq_iff_eq] at hspends
      obtain ⟨rfl, hvalid⟩ := hspends
      exact ⟨request, hmem, hvalid⟩
  · rintro ⟨request, hmem, hvalid⟩
    exact ⟨_, hmem, by simp [spends, hvalid]⟩

theorem run_append (xs ys : List (Action κ π α)) (table : Table κ π) :
    run valid (xs ++ ys) table = run valid ys (run valid xs table) :=
  List.foldl_append

/-- An accepted request spends the permit. -/
theorem step_use_of_fresh {table : Table κ π} {key : κ} {permit : π} {request : α}
    (hentry : table key = some (permit, true)) (hvalid : valid permit request = true) :
    step valid table (.use key request) = Function.update table key (some (permit, false)) := by
  rw [step, hentry]
  simp [hvalid]

/-- A request that is not accepted changes nothing. -/
theorem step_use_of_not_accepts {table : Table κ π} {key : κ} {request : α}
    (h : ¬ Accepts valid table key request) : step valid table (.use key request) = table := by
  rw [step]
  refine Function.update_eq_self_iff.mpr ?_
  rcases hentry : table key with _ | ⟨permit, fresh⟩
  · rfl
  · by_cases hvalid : valid permit request = true
    · cases fresh with
      | false => rfl
      | true => exact absurd ⟨permit, hentry, hvalid⟩ h
    · simp [hvalid]

/-- What a step that grants nothing under a key does to that key. -/
theorem step_apply {table : Table κ π} {action : Action κ π α} {key : κ}
    (h : ∀ permit, action ≠ .grant key permit) :
    step valid table action key =
      (table key).map fun e => (e.1, e.2 && !spends valid key e.1 action) := by
  cases action with
  | grant key' permit =>
    have hne : key ≠ key' := by
      rintro rfl
      exact h permit rfl
    rw [step, Function.update_of_ne hne]
    simp [spends]
  | use key' request =>
    by_cases hkey : key' = key
    · subst hkey
      rw [step, Function.update_self]
      simp [spends]
    · have hbeq : (key' == key) = false := by simpa using hkey
      rw [step, Function.update_of_ne (Ne.symm hkey)]
      simp [spends, hbeq]

/-- What a run that grants nothing under a key does to that key: it spends the permit if it
presents a valid request. -/
theorem run_apply {key : κ} : ∀ {actions : List (Action κ π α)} {table : Table κ π},
    NotGranted actions key →
      run valid actions table key =
        (table key).map fun e => (e.1, e.2 && !used valid actions key e.1)
  | [], table, _ => by simp [run, used]
  | action :: actions, table, h => by
    have hhead : ∀ permit, action ≠ .grant key permit := by
      rintro permit rfl
      exact h permit List.mem_cons_self
    have htail : NotGranted actions key := fun permit hmem =>
      h permit (List.mem_cons_of_mem _ hmem)
    show run valid actions (step valid table action) key = _
    rw [run_apply htail, step_apply hhead, Option.map_map]
    congr 1
    funext e
    simp [used, Bool.and_assoc]

/-- What is under a key after a grant, with no new grant of the key. -/
theorem run_after_grant {before after : List (Action κ π α)} {table : Table κ π} {key : κ}
    {permit : π} (h : NotGranted after key) :
    run valid (before ++ .grant key permit :: after) table key =
      some (permit, !used valid after key permit) := by
  rw [run_append]
  show run valid after (step valid _ (.grant key permit)) key = _
  rw [run_apply h, step, Function.update_self]
  rfl

/-- **A permit works once.** After a grant, and with no new grant of the key, a request is
accepted iff it is valid and no request before it was. -/
theorem accepts_iff {before after : List (Action κ π α)} {table : Table κ π} {key : κ}
    {permit : π} {request : α} (h : NotGranted after key) :
    Accepts valid (run valid (before ++ .grant key permit :: after) table) key request ↔
      valid permit request = true ∧ used valid after key permit = false := by
  unfold Accepts
  rw [run_after_grant h]
  simp only [Option.some.injEq, Prod.mk.injEq, Bool.not_eq_true']
  constructor
  · rintro ⟨_, ⟨rfl, hused⟩, hvalid⟩
    exact ⟨hvalid, hused⟩
  · rintro ⟨hvalid, hused⟩
    exact ⟨permit, ⟨rfl, hused⟩, hvalid⟩

/-- Nothing is accepted under a key that was never granted. -/
theorem not_accepts_of_not_granted {actions : List (Action κ π α)} {key : κ} {request : α}
    (h : NotGranted actions key) :
    ¬ Accepts valid (run valid actions (fun _ => none)) key request := by
  rintro ⟨permit, hentry, -⟩
  rw [run_apply h] at hentry
  exact absurd hentry (by simp)

/-- Every entry comes from the last grant of its key, and is fresh iff nothing valid was presented
since. -/
theorem exists_grant {key : κ} {permit : π} {fresh : Bool} : ∀ {actions : List (Action κ π α)},
    run valid actions (fun _ => none) key = some (permit, fresh) →
      ∃ before after, actions = before ++ .grant key permit :: after ∧ NotGranted after key ∧
        fresh = !used valid after key permit := by
  intro actions
  induction actions using List.reverseRecOn generalizing permit fresh with
  | nil => exact fun h => absurd h (by simp [run])
  | append_singleton actions action ih =>
    intro h
    rw [run_append] at h
    by_cases hgrant : ∃ permit', action = .grant key permit'
    · obtain ⟨permit', rfl⟩ := hgrant
      rw [run, List.foldl_cons, List.foldl_nil, step, Function.update_self] at h
      obtain ⟨rfl, rfl⟩ := Prod.mk.inj (Option.some.inj h)
      exact ⟨actions, [], rfl, fun _ => List.not_mem_nil, rfl⟩
    · rw [run_apply fun permit' hmem => hgrant ⟨permit', (List.mem_singleton.mp hmem).symm⟩] at h
      obtain ⟨⟨permit', fresh'⟩, hentry, hmap⟩ := Option.map_eq_some_iff.mp h
      obtain ⟨rfl, rfl⟩ := Prod.mk.inj hmap
      obtain ⟨before, after, rfl, hnot, rfl⟩ := ih hentry
      refine ⟨before, after ++ [action], by simp, fun p hmem => ?_, ?_⟩
      · rcases List.mem_append.mp hmem with hmem | hmem
        · exact hnot p hmem
        · exact hgrant ⟨p, (List.mem_singleton.mp hmem).symm⟩
      · simp [used]

/-- The permits a run grants, in order. -/
def grants (actions : List (Action κ π α)) : List π :=
  actions.filterMap fun action =>
    match action with
    | .grant _ permit => some permit
    | .use _ _ => none

omit [DecidableEq κ] in
theorem grants_append (xs ys : List (Action κ π α)) : grants (xs ++ ys) = grants xs ++ grants ys :=
  List.filterMap_append

omit [DecidableEq κ] in
theorem grants_cons (key : κ) (permit : π) (actions : List (Action κ π α)) :
    grants (.grant key permit :: actions) = permit :: grants actions := rfl

omit [DecidableEq κ] in
/-- Where the tags of the grants are distinct, no two grants have one tag. -/
theorem not_nodup_tags {tag : π → τ} {xs ys zs : List (Action κ π α)} {key key' : κ}
    {permit permit' : π} (htag : tag permit = tag permit') :
    ¬ ((grants (xs ++ .grant key permit :: (ys ++ .grant key' permit' :: zs))).map tag).Nodup := by
  rw [grants_append, grants_cons, grants_append, grants_cons, List.map_append, List.map_cons,
    List.map_append, List.map_cons, htag]
  intro h
  have htail := (List.nodup_cons.mp (List.nodup_append.mp h).2.1).1
  exact htail (List.mem_append_right _ List.mem_cons_self)

omit [DecidableEq κ] in
/-- Two grants of one tag are the same grant, when the tags are distinct. -/
theorem grant_unique {tag : π → τ} {xs ys xs' ys' : List (Action κ π α)} {key key' : κ}
    {permit permit' : π} (hnodup : ((grants (xs ++ .grant key permit :: ys)).map tag).Nodup)
    (heq : xs ++ .grant key permit :: ys = xs' ++ .grant key' permit' :: ys')
    (htag : tag permit = tag permit') : key = key' ∧ permit = permit' ∧ ys = ys' := by
  rcases List.append_eq_append_iff.mp heq with ⟨mid, -, hmid⟩ | ⟨mid, hxs, hmid⟩
  · cases mid with
    | nil =>
      obtain ⟨hgrant, rfl⟩ := List.cons.inj hmid
      obtain ⟨rfl, rfl⟩ := Action.grant.inj hgrant
      exact ⟨rfl, rfl, rfl⟩
    | cons action mid =>
      obtain ⟨rfl, rfl⟩ := List.cons.inj hmid
      exact absurd hnodup (not_nodup_tags htag)
  · cases mid with
    | nil =>
      obtain ⟨hgrant, rfl⟩ := List.cons.inj hmid
      obtain ⟨rfl, rfl⟩ := Action.grant.inj hgrant
      exact ⟨rfl, rfl, rfl⟩
    | cons action mid =>
      obtain ⟨rfl, rfl⟩ := List.cons.inj hmid
      rw [hxs, List.append_assoc, List.cons_append] at hnodup
      exact absurd hnodup (not_nodup_tags htag.symm)

/-- **One accepted request for each tag.** When the grants of a run have distinct tags, after an
accepted request no request is accepted for a permit of the same tag. -/
theorem accepted_unique {tag : π → τ} {before mid : List (Action κ π α)} {key key' : κ}
    {request : α} {permit permit' : π}
    (hnodup : ((grants (before ++ .use key request :: mid)).map tag).Nodup)
    (hfirst : run valid before (fun _ => none) key = some (permit, true))
    (hvalid : valid permit request = true)
    (hsecond : run valid (before ++ .use key request :: mid) (fun _ => none) key' =
      some (permit', true)) : tag permit ≠ tag permit' := by
  intro htag
  obtain ⟨xs, ys, rfl, hnot, -⟩ := exists_grant hfirst
  obtain ⟨xs', ys', hsplit, hnot', hfresh⟩ := exists_grant hsecond
  rw [List.append_assoc, List.cons_append] at hnodup hsplit
  obtain ⟨rfl, rfl, rfl⟩ := grant_unique hnodup hsplit htag
  have hused : used valid (ys ++ .use key request :: mid) key permit = true :=
    used_eq_true.mpr ⟨request, by simp, hvalid⟩
  rw [hused] at hfresh
  exact absurd hfresh (by simp)

end Nlboot.Lib.OneShot
