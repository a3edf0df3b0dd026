import Nlboot.Client.Evidence

/-!
# Where the cached files are

`verify_cached_kernel_initrd` of `rust/nlboot-client/src/main.rs` refuses a recorded path that does
not start with the components of the cache directory. A path that does may still lead out of it:
`..` is a component like any other to `Path::starts_with`.

* `Inside`: a path leads into the cache directory, with `.` and `..` resolved by the texts.
* `below`: what follows the cache directory in a path under it.
* `Strays`: the walk of the rest goes up out of the cache directory and does not come back.
* **`confined_iff`**: every verified path is inside iff none strays.
* `inside_join`: what `fetch` records is inside.
-/

namespace Nlboot.Client

open Nlboot.Lib Nlboot.Lib.Path

variable {N K D : Type}

/-- The path leads into the cache directory, from the working directory `cwd`. -/
def Inside (cwd : List String) (cache path : String) : Prop :=
  resolve cwd (components cache) <+: resolve cwd (components path)

instance (cwd : List String) (cache path : String) : Decidable (Inside cwd cache path) :=
  inferInstanceAs (Decidable (_ <+: _))

/-- What follows the cache directory in a path under it. -/
def below (cache path : String) : List Component :=
  (components path).drop (components cache).length

/-- Below the cache directory the path goes up out of it, and does not go back down the directories
it went up. -/
def Strays (cwd : List String) (cache path : String) : Prop :=
  let dir := resolve cwd (components cache)
  ¬ (trailOf dir.length (below cache path)).Returns dir

theorem components_of_startsWith {cache path : String} (h : Path.startsWith path cache = true) :
    components path = components cache ++ below cache path := by
  obtain ⟨rest, hrest⟩ := List.isPrefixOf_iff_prefix.mp h
  rw [below, ← hrest, List.drop_left]

/-- A path under the cache is inside iff it does not stray. -/
theorem inside_iff {cwd : List String} {cache path : String}
    (h : Path.startsWith path cache = true) : Inside cwd cache path ↔ ¬ Strays cwd cache path := by
  unfold Inside Strays
  rw [components_of_startsWith h, resolve_prefix_iff, not_not]

/-- A file of the cache directory is inside. -/
theorem inside_join (cwd : List String) (cache : String) {name : String} (h : Plain name) :
    Inside cwd cache (join cache name) := by
  unfold Inside resolve
  rw [components_join cache h, List.foldl_append]
  exact List.prefix_append _ [name]

/-- **The cached files are confined** to the cache directory, for every record of the evidence
directory, unless the record names existing files of the recorded digests by paths of which one
starts with the cache directory and strays from it. -/
theorem confined_iff (host : Host N K D) (env : Env D) (files : Files D) (cwd : List String)
    (cache evidence : String) :
    (∀ kernel initrd,
      verifyCachedKernelInitrd host env files cache evidence = .ok (kernel, initrd) →
        Inside cwd cache kernel.cachePath ∧ Inside cwd cache initrd.cachePath) ↔
      ¬ ∃ kernel initrd, Verified host env files cache evidence kernel initrd ∧
        (Strays cwd cache kernel.cachePath ∨ Strays cwd cache initrd.cachePath) := by
  constructor
  · rintro hinside ⟨kernel, initrd, hverified, hstrays⟩
    obtain ⟨hkernel, hinitrd⟩ :=
      hinside kernel initrd (verifyCachedKernelInitrd_eq_ok.mpr hverified)
    rcases hstrays with h | h
    · exact (inside_iff hverified.kernelPath).mp hkernel h
    · exact (inside_iff hverified.initrdPath).mp hinitrd h
  · intro hno kernel initrd hok
    have hverified := verifyCachedKernelInitrd_eq_ok.mp hok
    refine ⟨(inside_iff hverified.kernelPath).mpr fun h => hno ?_,
      (inside_iff hverified.initrdPath).mpr fun h => hno ?_⟩
    · exact ⟨kernel, initrd, hverified, .inl h⟩
    · exact ⟨kernel, initrd, hverified, .inr h⟩

/-! ## A record that leaves its cache -/

/-- The kernel of the record is next to the cache directory, and its path starts in it. -/
def strayingSetting : Setting where
  release := "r1"
  recorded := "r1"
  kernelRef := "kernel"
  kernelPath := "c/../k"
  initrdPath := "c/i"

def strayingStage : Stage :=
  strayingSetting.stage [] [(⟨["srv"], "c"⟩, .dir), (⟨["srv"], "k"⟩, .file [107]),
    (⟨["srv", "c"], "i"⟩, .file [105])]

/-- The record is verified against a cache directory that its kernel is not in. -/
theorem strayingStage_verified :
    verifyCachedKernelInitrd strayingStage.host Stage.env strayingStage.files "c" "evidence" =
        .ok (strayingSetting.kernel, strayingSetting.initrd) ∧
      ¬ Inside ["srv"] "c" strayingSetting.kernel.cachePath := by
  have hkernel : locate strayingStage.host (components "c/../k") = some ⟨["srv"], "k"⟩ := by
    decide
  have hinitrd : locate strayingStage.host (components "c/i") = some ⟨["srv", "c"], "i"⟩ := by
    decide
  have hverified : Verified strayingStage.host Stage.env strayingStage.files "c" "evidence"
      strayingSetting.kernel strayingSetting.initrd :=
    Setting.verified rfl (by decide) (by decide) hkernel hinitrd rfl rfl
  exact ⟨verifyCachedKernelInitrd_eq_ok.mpr hverified, by decide⟩

end Nlboot.Client
