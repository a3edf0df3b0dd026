import Nlboot.Client.Canonical
import Nlboot.Reference.Verify

/-!
# The two clients sign the same bytes, except above `U+007E`

`canonical_payload` (`verify.py`) and `canonical_manifest_payload` (`main.rs`) over the same
manifest. They sort names alike at every depth and render integers alike; what differs is the
escape. `json.dumps` runs with its default `ensure_ascii`, `serde_json` copies every character
from `U+007F` on, so a manifest with such a character has two payloads and a signature made over
one does not verify over the other.

* `WireInt`: the integers both clients hold exactly, `-2^63 ≤ n < 2^64`.
* `menuManifest`: a manifest whose boot menu has a dash in a label, as in `tests/test_protocol.py`.
* **`signingPayload_agree_iff`**: the payloads agree exactly when no name and no string value of
  the unsigned manifest has a character at or above `U+007F`.
-/

namespace Nlboot.Parity

open Nlboot.Lib Nlboot.Client Nlboot.Reference

/-- An integer both clients hold exactly: an `i64` or a `u64`. -/
structure WireInt where
  val : Int
  lower : -9223372036854775808 ≤ val
  upper : val < 18446744073709551616

/-- The decimal text of an integer, as `int.__repr__` and `itoa` write it. -/
def WireInt.decimal (n : WireInt) : List Char :=
  match n.val with
  | .ofNat k => Nat.toDigits 10 k
  | .negSucc k => '-' :: Nat.toDigits 10 (k + 1)

theorem WireInt.decimal_lt (n : WireInt) : ∀ c ∈ n.decimal, c.toNat < 0x7F := by
  have digit : ∀ k, ∀ c ∈ Nat.toDigits 10 k, c.toNat < 0x7F := fun k c hc => by
    have h := Nat.isDigit_of_mem_toDigits (by omega) (by omega) hc
    have h9 : ('9' : Char).toNat = 57 := rfl
    have := (Char.isDigit_iff_toNat.mp h).2
    omega
  unfold decimal
  cases n.val with
  | ofNat k => exact digit k
  | negSucc k => exact List.forall_mem_cons.mpr ⟨by decide, digit (k + 1)⟩

/-- The part of a manifest that is signed. -/
def unsigned {N : Type} (members : Members N) : Json N :=
  .obj (members.filter fun m => m.1 ≠ "signature_hex")

theorem distinctNames_unsigned {N : Type} (manifest : JsonObject N) :
    (unsigned manifest.members).distinctNames = true := by
  have h := manifest.distinct
  rw [Json.distinctNames, Bool.and_eq_true, decide_eq_true_eq, Json.distinctNamesMembers_iff] at h
  rw [unsigned, Json.distinctNames, Bool.and_eq_true, decide_eq_true_eq,
    Json.distinctNamesMembers_iff]
  refine ⟨h.1.sublist ((List.filter_sublist).map Prod.fst), fun m hm => h.2 m ?_⟩
  exact (List.mem_filter.mp hm).1

theorem rustLe_eq_pyLe : rustLe = pyLe := by
  funext a b
  rw [rustLe_eq, pyLe_string]

/-- **Signing-payload parity, exactly.** The bytes the client verifies a manifest's signature over
are the bytes the reference verifies it over iff no name and no string value outside the top-level
`signature_hex` has a character at or above `U+007F`. -/
theorem signingPayload_agree_iff (manifest : JsonObject WireInt) :
    canonicalManifestPayload WireInt.decimal (.obj manifest.members) =
        .ok (canonicalPayload WireInt.decimal manifest.members) ↔
      BelowDel (unsigned manifest.members) := by
  have hsort := sortValueKeys_eq (distinctNames_unsigned manifest)
  have htexts : BelowDel ((unsigned manifest.members).sortKeys pyLe) ↔
      BelowDel (unsigned manifest.members) :=
    forall_congr' fun s => by rw [Json.mem_texts_sortKeys]
  rw [← htexts, ← encoders_agree_iff WireInt.decimal_lt]
  show Except.ok (utf8 (compact (quoted escapeMinimal) WireInt.decimal
    (sortValueKeys (unsigned manifest.members)))) = _ ↔ _
  have hpayload : canonicalPayload WireInt.decimal manifest.members = _ := jsonDumps_string _ _
  rw [hsort, rustLe_eq_pyLe, Except.ok.injEq, hpayload]
  rfl

/-- A manifest whose boot menu labels an entry with a dash. -/
def menuManifest : JsonObject WireInt where
  members := [
    ("manifest_id", .str "urn:srcos:boot-manifest:m2-demo-recovery"),
    ("boot_menu", .obj [
      ("menu_id", .str "urn:srcos:boot-menu:m2-demo"),
      ("entries", .arr [.obj [("label", .str "SourceOS Recovery — current")]])]),
    ("signature_hex", .str "00")]
  distinct := by decide

/-- The payloads of `menuManifest` differ. -/
theorem signingPayload_differ :
    canonicalManifestPayload WireInt.decimal (.obj menuManifest.members) ≠
      .ok (canonicalPayload WireInt.decimal menuManifest.members) := by
  decide

end Nlboot.Parity
