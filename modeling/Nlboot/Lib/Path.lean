import Mathlib.Data.List.DropRight

/-!
# Unix paths

Path texts as `std::path` reads them. A text is split at every `/`; empty segments and `.` count
for nothing, except that a leading `/` is the root and a leading `.` the current directory, so two
texts with the same components name the same file. No component of a text is resolved: `..` stays.

* `components`, `join`, `parent`, `startsWith`: `Path::components`, `join`, `parent`,
  `starts_with`.
* `Plain`: a text that is one file name.
* **`components_join`**: joining a plain name adds it as the last component.
* **`components_parent`**: the parent is the path without its last component.
* `resolve`: the directory a list of components leads to where no link is involved.
* `Trail`: where a walk is, seen from the directory it began in.
* **`resolve_prefix_iff`**: a path below a directory stays in it iff its walk goes back down the
  directories it went up.
-/

namespace Nlboot.Lib.Path

/-- `std::path::Component`. -/
inductive Component where
  | rootDir
  | curDir
  | parentDir
  | normal (name : String)
  deriving DecidableEq

/-- The texts between the slashes. -/
def segments (path : String) : List String := (path.toList.splitOn '/').map String.ofList

/-- What a segment after the first contributes. -/
def component (segment : String) : Option Component :=
  if segment = "" ∨ segment = "." then none
  else if segment = ".." then some .parentDir
  else some (.normal segment)

/-- What the first segment contributes. -/
def leading (segment : String) : List Component :=
  if segment = "" then [.rootDir]
  else if segment = "." then [.curDir]
  else (component segment).toList

/-- The components of a list of segments; the empty text has a single, empty segment. -/
def ofSegments : List String → List Component
  | [] | [""] => []
  | head :: body => leading head ++ body.filterMap component

/-- `Path::components`. -/
def components (path : String) : List Component := ofSegments (segments path)

/-- `Path::join`: an absolute path replaces the base. -/
def join (base path : String) : String :=
  if path.toList.head? = some '/' then path
  else if base = "" ∨ base.toList.getLast? = some '/' then base ++ path
  else base ++ "/" ++ path

/-- The segments without those at the end that contribute nothing. -/
def trimEnd (body : List String) : List String := body.rdropWhile fun s => (component s).isNone

/-- The text of a leading segment and the segments after it. -/
def render (head : String) (body : List String) : String :=
  if head = "" ∧ body = [] then "/"
  else String.ofList (['/'].intercalate ((head :: body).map String.toList))

/-- `Path::parent`. -/
def parent (path : String) : Option String :=
  match segments path with
  | [] => none
  | head :: body =>
    if trimEnd body = [] then if head = "" then none else some ""
    else some (render head (trimEnd (trimEnd body).dropLast))

/-- `Path::starts_with`: component by component. -/
def startsWith (path base : String) : Bool := (components base).isPrefixOf (components path)

/-- A text that is one file name. -/
def Plain (name : String) : Prop :=
  '/' ∉ name.toList ∧ component name = some (.normal name)

instance (name : String) : Decidable (Plain name) :=
  inferInstanceAs (Decidable (_ ∧ _))

/-- One step of a walk through the directories. -/
def walk (dir : List String) : Component → List String
  | .rootDir => []
  | .curDir => dir
  | .parentDir => dir.dropLast
  | .normal name => dir ++ [name]

/-- The names from the root to where the components lead from `cwd`. -/
def resolve (cwd : List String) (path : List Component) : List String := path.foldl walk cwd

/-! ## Segments -/

theorem segments_ne_nil (path : String) : segments path ≠ [] := by
  unfold segments
  simp

/-- No segment has a slash in it. -/
theorem notMem_segments {path segment : String} (h : segment ∈ segments path) :
    '/' ∉ segment.toList := by
  have key : ∀ cs : List Char, ∀ l ∈ cs.splitOn '/', '/' ∉ l := by
    intro cs
    induction cs with
    | nil => simp
    | cons c cs ih =>
      rw [List.splitOn_cons_eq_if_modifyHead]
      by_cases hc : c = '/'
      · simpa [hc] using ih
      · rw [if_neg (by simpa using hc)]
        cases hcs : cs.splitOn '/' with
        | nil => simp
        | cons l ls =>
          rw [hcs] at ih
          have hl := ih l List.mem_cons_self
          intro l' hl'
          rcases List.mem_cons.mp hl' with rfl | hmem
          · simpa [Ne.symm hc] using hl
          · exact ih l' (List.mem_cons_of_mem l hmem)
  obtain ⟨l, hl, rfl⟩ := List.mem_map.mp h
  rw [String.toList_ofList]
  exact key _ l hl

/-- Segments put together again and split give the segments. -/
theorem segments_intercalate {segs : List String} (hne : segs ≠ [])
    (h : ∀ s ∈ segs, '/' ∉ s.toList) :
    segments (String.ofList (['/'].intercalate (segs.map String.toList))) = segs := by
  unfold segments
  rw [String.toList_ofList, List.splitOn_intercalate]
  · rw [List.map_map]
    conv_rhs => rw [← List.map_id segs]
    exact List.map_congr_left fun s _ => String.ofList_toList
  · intro l hl
    obtain ⟨s, hs, rfl⟩ := List.mem_map.mp hl
    exact h s hs
  · simpa using hne

theorem segments_of_plain {name : String} (h : '/' ∉ name.toList) : segments name = [name] := by
  unfold segments
  rw [List.splitOn_eq_singleton h, List.map_singleton, String.ofList_toList]

theorem segments_slash (base name : String) :
    segments (base ++ "/" ++ name) = segments base ++ segments name := by
  unfold segments
  have hlist : (base ++ "/" ++ name).toList = base.toList ++ '/' :: name.toList := by
    simp
  rw [hlist, List.splitOn_append_cons_self, List.map_append]

theorem ofSegments_cons {head : String} {body : List String} (h : head ≠ "" ∨ body ≠ []) :
    ofSegments (head :: body) = leading head ++ body.filterMap component := by
  unfold ofSegments
  split
  · contradiction
  · rename_i heq
    obtain ⟨rfl, rfl⟩ := List.cons.inj heq
    simp at h
  · rename_i heq
    obtain ⟨rfl, rfl⟩ := List.cons.inj heq
    rfl

/-- A segment added at the end adds its component. -/
theorem ofSegments_append {segs : List String} (h : segs ≠ []) (hempty : segs ≠ [""])
    (segment : String) :
    ofSegments (segs ++ [segment]) = ofSegments segs ++ (component segment).toList := by
  cases segs with
  | nil => exact absurd rfl h
  | cons head body =>
    have hhead : head ≠ "" ∨ body ≠ [] := by
      by_contra hno
      simp only [ne_eq, not_or, not_not] at hno
      exact hempty (by rw [hno.1, hno.2])
    rw [List.cons_append, ofSegments_cons (.inr (by simp)), ofSegments_cons hhead,
      List.filterMap_append, List.append_assoc]
    congr 2

/-! ## Joining and parents -/

theorem components_of_plain {name : String} (h : Plain name) :
    components name = [.normal name] := by
  obtain ⟨hslash, hc⟩ := h
  unfold components
  have hne : name ≠ "" := by rintro rfl; simp [component] at hc
  have hdot : name ≠ "." := by rintro rfl; simp [component] at hc
  rw [segments_of_plain hslash, ofSegments_cons (.inl hne), leading, if_neg hne, if_neg hdot, hc]
  rfl

/-- **Joining a plain name** adds it as the last component. -/
theorem components_join (base : String) {name : String} (h : Plain name) :
    components (join base name) = components base ++ [.normal name] := by
  have hhead : name.toList.head? ≠ some '/' := fun hs => h.1 (List.mem_of_mem_head? hs)
  unfold join
  rw [if_neg hhead]
  by_cases hbase : base = ""
  · subst hbase
    rw [if_pos (.inl rfl), String.empty_append, components_of_plain h]
    rfl
  by_cases hlast : base.toList.getLast? = some '/'
  · -- The base ends in a slash: its last segment is empty and contributes nothing.
    rw [if_pos (.inr hlast)]
    obtain ⟨cs, hcs⟩ := List.getLast?_eq_some_iff.mp hlast
    obtain rfl : base = String.ofList cs ++ "/" := by
      rw [← String.toList_inj, hcs]
      simp
    have hsplit : segments (String.ofList cs ++ "/") = segments (String.ofList cs) ++ [""] := by
      have happend : String.ofList cs ++ "/" = String.ofList cs ++ "/" ++ "" :=
        String.append_empty.symm
      rw [happend, segments_slash]
      rfl
    unfold components
    rw [segments_slash, hsplit, segments_of_plain h.1]
    cases hs : segments (String.ofList cs) with
    | nil => exact absurd hs (segments_ne_nil _)
    | cons head body =>
      rw [List.cons_append, List.cons_append, ofSegments_cons (.inr (by simp)),
        ofSegments_cons (.inr (by simp)), List.filterMap_append, List.filterMap_append,
        List.append_assoc, List.append_assoc]
      have hname : [name].filterMap component = [.normal name] := by
        rw [List.filterMap_cons_some h.2, List.filterMap_nil]
      rw [hname]
      simp [component]
  · rw [if_neg (by simp [hbase, hlast])]
    unfold components
    rw [segments_slash, segments_of_plain h.1, ofSegments_append (segments_ne_nil base), h.2]
    · rfl
    · intro hs
      have hlist := congrArg (List.map String.toList) hs
      unfold segments at hlist
      rw [List.map_map] at hlist
      have hid : (String.toList ∘ String.ofList) = id := by funext l; simp
      rw [hid, List.map_id] at hlist
      have : base.toList = [] := by
        have hsplit : ['/'].intercalate (base.toList.splitOn '/') = base.toList :=
          List.intercalate_splitOn '/'
        rw [hlist] at hsplit
        exact hsplit.symm
      exact hbase (by rwa [← String.toList_inj])

/-- A file of a directory is under it. -/
theorem startsWith_join (base : String) {name : String} (h : Plain name) :
    startsWith (join base name) base = true := by
  unfold startsWith
  rw [components_join base h, List.isPrefixOf_iff_prefix]
  exact List.prefix_append _ _

theorem filterMap_trimEnd (body : List String) :
    (trimEnd body).filterMap component = body.filterMap component := by
  unfold trimEnd
  induction body using List.reverseRecOn with
  | nil => rfl
  | append_singleton body s ih =>
    rw [List.rdropWhile_concat]
    by_cases hs : (component s).isNone
    · rw [if_pos hs, ih, List.filterMap_append]
      simp [Option.isNone_iff_eq_none.mp hs]
    · rw [if_neg hs]

/-- The last segment of a trimmed body contributes a component. -/
theorem exists_component_getLast {body : List String} (h : trimEnd body ≠ []) :
    ∃ c, component ((trimEnd body).getLast h) = some c := by
  have hlast := List.rdropWhile_last_not (fun s => (component s).isNone) body h
  rw [Option.isNone_iff_eq_none] at hlast
  exact Option.ne_none_iff_exists'.mp hlast

theorem filterMap_dropLast_trimEnd {body : List String} (h : trimEnd body ≠ []) :
    (trimEnd body).dropLast.filterMap component =
      ((trimEnd body).filterMap component).dropLast := by
  obtain ⟨c, hc⟩ := exists_component_getLast h
  conv_rhs => rw [← List.dropLast_append_getLast h, List.filterMap_append]
  simp only [List.filterMap_cons, List.filterMap_nil]
  rw [show component ((trimEnd body).getLast h) = some c from hc]
  simp

theorem mem_of_mem_trimEnd {body : List String} {s : String} (h : s ∈ trimEnd body) : s ∈ body :=
  (List.rdropWhile_prefix _ body).subset h

theorem components_render {head : String} {body : List String} (hhead : '/' ∉ head.toList)
    (hbody : ∀ s ∈ body, '/' ∉ s.toList) :
    components (render head body) = leading head ++ body.filterMap component := by
  unfold render
  by_cases h : head = "" ∧ body = []
  · obtain ⟨rfl, rfl⟩ := h
    rfl
  · rw [if_neg h]
    unfold components
    rw [segments_intercalate (by simp) (by simpa using ⟨hhead, hbody⟩), ofSegments_cons]
    by_contra hno
    simp only [ne_eq, not_or, not_not] at hno
    exact h hno

/-- **The parent** is the path without its last component. -/
theorem components_parent {path dir : String} (h : parent path = some dir) :
    components dir = (components path).dropLast := by
  unfold parent at h
  have hslash : ∀ s ∈ segments path, '/' ∉ s.toList := fun s hs => notMem_segments hs
  unfold components
  cases hs : segments path with
  | nil => exact absurd hs (segments_ne_nil path)
  | cons head body =>
    rw [hs] at h hslash
    simp only at h
    by_cases htrim : trimEnd body = []
    · rw [if_pos htrim] at h
      split_ifs at h with hhead
      obtain rfl := Option.some.inj h
      have hbody : body.filterMap component = [] := by rw [← filterMap_trimEnd, htrim]; rfl
      rw [ofSegments_cons (.inl hhead), hbody, List.append_nil, leading, if_neg hhead]
      have hempty : ofSegments (segments "") = [] := rfl
      rw [hempty]
      by_cases hdot : head = "."
      · rw [if_pos hdot]
        rfl
      · rw [if_neg hdot]
        cases component head <;> rfl
    · rw [if_neg htrim] at h
      obtain rfl := Option.some.inj h
      have hne : body ≠ [] := by rintro rfl; exact htrim rfl
      have hcomp : body.filterMap component ≠ [] := by
        rw [← filterMap_trimEnd]
        obtain ⟨c, hc⟩ := exists_component_getLast htrim
        exact List.ne_nil_of_mem (List.mem_filterMap.mpr ⟨_, List.getLast_mem htrim, hc⟩)
      show components (render head _) = _
      rw [components_render, filterMap_trimEnd, filterMap_dropLast_trimEnd htrim, filterMap_trimEnd,
        ofSegments_cons (.inr hne), List.dropLast_append_of_ne_nil hcomp]
      · exact hslash head List.mem_cons_self
      · intro s hmem
        have hmem' := mem_of_mem_trimEnd (List.dropLast_subset _ (mem_of_mem_trimEnd hmem))
        exact hslash s (List.mem_cons_of_mem head hmem')

/-- A path without a parent has no name in it. -/
theorem components_of_parent_eq_none {path : String} (h : parent path = none) :
    components path = [] ∨ components path = [.rootDir] := by
  unfold parent at h
  unfold components
  cases hs : segments path with
  | nil => exact absurd hs (segments_ne_nil path)
  | cons head body =>
    rw [hs] at h
    simp only at h
    split_ifs at h with htrim hhead
    subst hhead
    have hbody : body.filterMap component = [] := by rw [← filterMap_trimEnd, htrim]; rfl
    by_cases hempty : body = []
    · exact .inl (by rw [hempty]; rfl)
    · exact .inr (by rw [ofSegments_cons (.inr hempty), hbody]; rfl)

/-- A name joined to a directory has a parent. -/
theorem exists_parent_join (base : String) {name : String} (h : Plain name) :
    ∃ dir, parent (join base name) = some dir ∧ components dir = components base := by
  have hpath := components_join base h
  cases hparent : parent (join base name) with
  | some dir => exact ⟨dir, rfl, by rw [components_parent hparent, hpath, List.dropLast_concat]⟩
  | none =>
    have hlast : (components (join base name)).getLast? = some (.normal name) := by
      rw [hpath, List.getLast?_concat]
    obtain hnil | hroot := components_of_parent_eq_none hparent
    · rw [hnil] at hlast
      exact absurd hlast (by simp)
    · rw [hroot] at hlast
      exact absurd hlast (by simp)

/-! ## Walks that leave a directory -/

/-- Where a walk is, seen from the directory it began in: so many directories up, then down. -/
structure Trail where
  up : Nat
  down : List String

/-- One step of a walk that began `depth` directories below the root. -/
def Trail.step (depth : Nat) (trail : Trail) : Component → Trail
  | .rootDir => ⟨depth, []⟩
  | .curDir => trail
  | .parentDir =>
    if trail.down = [] then ⟨trail.up + 1, []⟩ else ⟨trail.up, trail.down.dropLast⟩
  | .normal name => ⟨trail.up, trail.down ++ [name]⟩

/-- The trail of a path. -/
def trailOf (depth : Nat) (path : List Component) : Trail :=
  path.foldl (Trail.step depth) ⟨0, []⟩

/-- The directory a trail from `dir` leads to. -/
def Trail.destination (dir : List String) (trail : Trail) : List String :=
  dir.take (dir.length - trail.up) ++ trail.down

/-- The walk went back down the directories it went up. -/
def Trail.Returns (dir : List String) (trail : Trail) : Prop :=
  dir.drop (dir.length - trail.up) <+: trail.down

instance (dir : List String) (trail : Trail) : Decidable (trail.Returns dir) :=
  inferInstanceAs (Decidable (_ <+: _))

theorem destination_step (dir : List String) (trail : Trail) (c : Component) :
    (trail.step dir.length c).destination dir = walk (trail.destination dir) c := by
  unfold Trail.destination
  cases c with
  | rootDir => simp [Trail.step, walk]
  | curDir => rfl
  | parentDir =>
    by_cases hdown : trail.down = []
    · -- Up from a directory of the beginning, where `dropLast` stops at the root.
      simp only [Trail.step, walk, hdown, if_true, List.append_nil]
      rw [List.dropLast_eq_take, List.take_take, List.length_take]
      congr 1
      omega
    · simp only [Trail.step, walk, hdown, if_false]
      rw [List.dropLast_append_of_ne_nil hdown]
  | normal name => simp [Trail.step, walk]

/-- A trail leads where the walk leads. -/
theorem destination_trailOf (dir : List String) (path : List Component) :
    (trailOf dir.length path).destination dir = path.foldl walk dir := by
  have key : ∀ (path : List Component) (trail : Trail),
      (path.foldl (Trail.step dir.length) trail).destination dir =
        path.foldl walk (trail.destination dir) := by
    intro path
    induction path with
    | nil => exact fun _ => rfl
    | cons c path ih =>
      intro trail
      rw [List.foldl_cons, ih, destination_step, List.foldl_cons]
  rw [trailOf, key]
  simp [Trail.destination]

theorem prefix_destination_iff {dir : List String} {trail : Trail} :
    dir <+: trail.destination dir ↔ trail.Returns dir := by
  unfold Trail.destination Trail.Returns
  conv_lhs => lhs; rw [← List.take_append_drop (dir.length - trail.up) dir]
  exact List.prefix_append_right_inj _

/-- **A path below a directory** leads into it iff its walk returns. -/
theorem resolve_prefix_iff {cwd : List String} {base rest : List Component} :
    resolve cwd base <+: resolve cwd (base ++ rest) ↔
      (trailOf (resolve cwd base).length rest).Returns (resolve cwd base) := by
  rw [← prefix_destination_iff, destination_trailOf]
  unfold resolve
  rw [List.foldl_append]

end Nlboot.Lib.Path
