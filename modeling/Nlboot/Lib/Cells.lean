import Mathlib.Data.List.Forall2

/-!
# Systems of cells

A system that keeps a value for each key, where an input reads and writes the cell of its own key
only. Then the inputs about one key are a run of their own: what comes between them, and in which
order the inputs of other keys come, is no matter to the cell or to the answers they get. Inputs can
be exchanged for others that the cell does not tell apart.

* `Cells`: such a system; `Cells.about`, `Cells.answers`: the inputs about a key, and their answers.
* `Cells.Local R`: inputs keep to their own cell, and do the same there if they are related by `R`.

Result:
* **`Cells.Local.isolated`**: runs with related inputs about a key leave one cell and get one answer
  each.
-/

namespace Nlboot.Lib

variable {σ ι κ ν ω : Type}

/-- A system with a cell for each key, whose inputs are about one key or none. -/
structure Cells (σ ι κ ν ω : Type) where
  step : σ → ι → σ
  answer : σ → ι → ω
  key : ι → Option κ
  cell : σ → κ → ν

namespace Cells

variable [DecidableEq κ] (system : Cells σ ι κ ν ω)

/-- The state after a run. -/
def run (s : σ) (inputs : List ι) : σ := inputs.foldl system.step s

/-- The inputs about the key. -/
def about (k : κ) (inputs : List ι) : List ι := inputs.filter fun i => system.key i = some k

/-- The answers to the inputs about the key. -/
def answers (k : κ) : σ → List ι → List ω
  | _, [] => []
  | s, i :: inputs =>
    if system.key i = some k then system.answer s i :: answers k (system.step s i) inputs
    else answers k (system.step s i) inputs

/-- Inputs leave other cells as they are; related inputs do the same with equal cells. -/
structure Local (R : ι → ι → Prop) : Prop where
  frame : ∀ s i k, system.key i ≠ some k → system.cell (system.step s i) k = system.cell s k
  own : ∀ s s' i i' k, R i i' → system.key i = some k → system.key i' = some k →
    system.cell s k = system.cell s' k →
      system.answer s i = system.answer s' i' ∧
        system.cell (system.step s i) k = system.cell (system.step s' i') k

variable {system} {R : ι → ι → Prop} {k : κ}

/-- Inputs about other keys leave the cell as it is, and get no answer about it. -/
theorem Local.skip (hlocal : system.Local R) : ∀ {skipped : List ι} (s : σ) (inputs : List ι),
    (∀ i ∈ skipped, system.key i ≠ some k) →
      system.cell (system.run s skipped) k = system.cell s k ∧
        system.answers k s (skipped ++ inputs) = system.answers k (system.run s skipped) inputs
  | [], _, _, _ => ⟨rfl, rfl⟩
  | i :: skipped, s, inputs, h => by
    have hi : system.key i ≠ some k := h i List.mem_cons_self
    obtain ⟨hcell, hanswers⟩ := hlocal.skip (system.step s i) inputs fun j hj =>
      h j (List.mem_cons_of_mem _ hj)
    refine ⟨hcell.trans (hlocal.frame s i k hi), ?_⟩
    rw [List.cons_append, answers, if_neg hi]
    exact hanswers

/-- **Isolation.** Runs whose inputs about a key are related one by one leave one cell if they begin
with one, and their inputs about the key get the same answers. -/
theorem Local.isolated (hlocal : system.Local R) : ∀ {inputs inputs' : List ι} {s s' : σ},
    system.cell s k = system.cell s' k →
      List.Forall₂ R (system.about k inputs) (system.about k inputs') →
        system.cell (system.run s inputs) k = system.cell (system.run s' inputs') k ∧
          system.answers k s inputs = system.answers k s' inputs' := by
  intro inputs
  induction inputs with
  | nil =>
    intro inputs' s s' hcell hrelated
    have hnone : system.about k inputs' = [] := List.forall₂_nil_left_iff.mp hrelated
    obtain ⟨hrest, hanswers⟩ := hlocal.skip s' [] fun i hi => by
      simpa using List.filter_eq_nil_iff.mp hnone i hi
    rw [List.append_nil] at hanswers
    exact ⟨hcell.trans hrest.symm, hanswers.symm⟩
  | cons i inputs ih =>
    intro inputs' s s' hcell hrelated
    by_cases hi : system.key i = some k
    · rw [about, List.filter_cons_of_pos (by simpa using hi)] at hrelated
      obtain ⟨i', rest, hR, hrest, habout⟩ := List.forall₂_cons_left_iff.mp hrelated
      obtain ⟨skipped, inputs'', rfl, hskipped, hi', rfl⟩ := List.filter_eq_cons_iff.mp habout
      obtain ⟨hsame, hanswers'⟩ := hlocal.skip s' (i' :: inputs'') fun j hj => by
        simpa using hskipped j hj
      have hi' : system.key i' = some k := by simpa using hi'
      obtain ⟨hanswer, hnext⟩ := hlocal.own s (system.run s' skipped) i i' k hR hi hi'
        (hcell.trans hsame.symm)
      obtain ⟨hfinal, hanswers⟩ := ih hnext hrest
      have hrun : system.run s' (skipped ++ i' :: inputs'') =
          system.run (system.step (system.run s' skipped) i') inputs'' := List.foldl_append
      rw [hrun, hanswers', answers, answers, if_pos hi, if_pos hi', hanswer, hanswers]
      exact ⟨hfinal, rfl⟩
    · rw [about, List.filter_cons_of_neg (by simpa using hi)] at hrelated
      rw [answers, if_neg hi]
      exact ih ((hlocal.frame s i k hi).trans hcell) hrelated

end Cells

end Nlboot.Lib
