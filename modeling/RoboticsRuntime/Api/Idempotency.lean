import RoboticsRuntime.Api.Domain
import RoboticsRuntime.Verify.JsonRoundTrip

/-!
# Fingerprints of creation requests

`idempotency.ts`. The fingerprint of a request is a digest of the JSON text of its values.
-/

namespace RoboticsRuntime.Api
open Theory Python

/-- `JSON.stringify` of an array of strings and nulls. -/
def stringify (values : List (Option String)) : PyStr :=
  openBracket :: ([comma].intercalate (values.map fun
    | some value => encodeString (text value)
    | none => text "null") ++ [closeBracket])

/-- `creationFingerprint`, for a digest of texts. -/
def creationFingerprint {δ : Type} (sha256 : PyStr → δ) (values : List (Option String)) : δ :=
  sha256 (stringify values)

/-! ## Fingerprints tell requests apart -/

/-- The array of the values as an object of the encoder. -/
private def valueScalar : Option String → PyScalar Empty
  | some value => .str (text value)
  | none => .none

private theorem valueScalar_injective : Function.Injective valueScalar := by
  intro a b h
  cases a with
  | none =>
    cases b with
    | none => rfl
    | some => cases h
  | some a =>
    cases b with
    | none => cases h
    | some b =>
      have htext : text a = text b := PyScalar.str.inj h
      have hlist := List.map_injective_iff.2 (fun _ _ h => CodePoint.scalar.inj h) htext
      rw [String.toList_inj.1 hlist]

private def noFloats : Interpreter Empty := ⟨nofun, fun _ => .nan, 0⟩

private theorem encode_values (values : List (Option String)) :
    encode noFloats (.list (values.map fun value => .scalar (valueScalar value))) =
      some (stringify values) := by
  refine encode_list.2 ⟨List.forall_mem_map.2 fun value _ => ?_, ?_⟩
  · cases value <;> rfl
  · rw [stringify, List.map_map]
    congr 3
    exact List.map_congr_left fun value _ => by cases value <;> rfl

theorem stringify_injective : Function.Injective stringify := by
  intro values values' h
  have hlawful : noFloats.Lawful := ⟨nofun, nofun⟩
  have hloads := loads_encode hlawful (encode_values values)
  rw [h, loads_encode hlawful (encode_values values')] at hloads
  have hlist := Option.some.inj hloads
  rw [inOrder_list, inOrder_list, List.map_map, List.map_map] at hlist
  have hscalars : Function.Injective (inOrder ∘ fun value => .scalar (valueScalar value)) := by
    intro a b hab
    simp only [Function.comp_apply, inOrder] at hab
    exact valueScalar_injective (PyValue.scalar.inj hab)
  exact (List.map_injective_iff.2 hscalars (PyValue.list.inj hlist)).symm

/-- Without collisions of the digest, requests with one fingerprint have the same values. -/
theorem creationFingerprint_injective {δ : Type} {sha256 : PyStr → δ}
    (h : Function.Injective sha256) : Function.Injective (creationFingerprint sha256) :=
  h.comp stringify_injective

end RoboticsRuntime.Api
