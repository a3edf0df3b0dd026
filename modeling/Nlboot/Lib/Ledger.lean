import Mathlib.Data.Nat.Basic

/-!
# Balances over runs

A store holds a number of units, and the steps of a system put units in and take units out. If every
single step balances, so does every run.

* `tally`: how many units the steps of a run move, each counted in the state it meets.
* `tally_add`: two kinds of movement counted together.
* **`balance`**: what was there and what came in is what is there and what went out.
-/

namespace Nlboot.Lib

variable {σ ι : Type}

/-- The units the steps of a run move. -/
def tally (step : σ → ι → σ) (count : σ → ι → Nat) : σ → List ι → Nat
  | _, [] => 0
  | s, a :: as => count s a + tally step count (step s a) as

theorem tally_add (step : σ → ι → σ) (count count' : σ → ι → Nat) (s : σ) (as : List ι) :
    tally step (fun s a => count s a + count' s a) s as =
      tally step count s as + tally step count' s as := by
  induction as generalizing s with
  | nil => rfl
  | cons a as ih =>
    simp only [tally, ih]
    omega

/-- **Runs balance** if every step does in the states an invariant allows. -/
theorem balance {step : σ → ι → σ} (level : σ → Nat) {inflow outflow : σ → ι → Nat} {I : σ → Prop}
    (hkeeps : ∀ s a, I s → I (step s a))
    (hstep : ∀ s a, I s → level s + inflow s a = level (step s a) + outflow s a) {s : σ} (hI : I s)
    (as : List ι) :
    level s + tally step inflow s as = level (as.foldl step s) + tally step outflow s as := by
  induction as generalizing s with
  | nil => rfl
  | cons a as ih =>
    have hone := hstep s a hI
    have hrest := ih (hkeeps s a hI)
    simp only [tally, List.foldl_cons]
    omega

end Nlboot.Lib
