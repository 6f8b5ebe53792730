import CodexRouter.Js.JsonText
import CodexRouter.Kernel.Governance

/-!
# Records with equal texts

The hashed text of a permit, and of a list of target hashes, determines the record.
-/

open Js

namespace CodexRouter.Kernel

@[simp] lemma nullable_text_eq {a b : Option Str} :
    (nullable a).stableStringify = (nullable b).stableStringify ↔ a = b := by
  refine ⟨fun h => ?_, fun h => by rw [h]⟩
  have hne : ∀ s : Str, (Json.str s).stableStringify ≠ Json.null.stableStringify :=
    fun s hs => absurd (List.cons.inj hs).1 (by decide)
  cases a with
  | none =>
    cases b with
    | none => rfl
    | some t => exact absurd h.symm (hne t)
  | some s =>
    cases b with
    | none => exact absurd h (hne s)
    | some t => exact congrArg some (Json.stringify_str_eq.mp h)

@[simp] lemma strings_text_eq {l r : List Str} :
    (strings l).stableStringify = (strings r).stableStringify ↔ l = r := by
  refine ⟨fun h => ?_, fun h => by rw [h]⟩
  have hmap := Json.stringify_arr_inj h
  rw [List.map_map, List.map_map] at hmap
  exact List.map_injective_iff.mpr (fun _ _ => Json.stringify_str_eq.mp) hmap

@[simp] lemma ApprovalMode.text_eq {a b : ApprovalMode} : a.text = b.text ↔ a = b := by
  refine ⟨fun h => ?_, fun h => by rw [h]⟩
  cases a <;> cases b <;> first | rfl | exact absurd h (by decide)

theorem RetainTargetHash.toJson_inj {a b : RetainTargetHash}
    (h : a.toJson.stableStringify = b.toJson.stableStringify) : a = b := by
  have hmembers := Json.stringify_obj_inj h rfl (by simp only [List.map]; decide)
  obtain ⟨path, beforeHash, afterHash⟩ := a
  obtain ⟨path', beforeHash', afterHash'⟩ := b
  simpa using hmembers

/-- The text that `hashKernelObject(targetHashes)` hashes. -/
def targetHashesText (targets : List RetainTargetHash) : Str :=
  (Json.arr (targets.map (·.toJson))).stableStringify

theorem targetHashesText_inj {l r : List RetainTargetHash}
    (h : targetHashesText l = targetHashesText r) : l = r := by
  have hmap := Json.stringify_arr_inj h
  rw [List.map_map, List.map_map] at hmap
  exact List.map_injective_iff.mpr (fun _ _ => RetainTargetHash.toJson_inj) hmap

theorem RetainPermit.toJson_inj {a b : RetainPermit}
    (h : a.toJson.stableStringify = b.toJson.stableStringify) : a = b := by
  obtain ⟨permitId, changeSetHash, decisionHash, preview, mode, head, targets, issued, expires,
    nonce⟩ := a
  obtain ⟨permitId', changeSetHash', decisionHash', preview', mode', head', targets', issued',
    expires', nonce'⟩ := b
  -- an optional member that only one of the texts has makes their members differ in number
  have hlength := (Json.stringify_obj_perm h).length_eq
  have hkeys : (Json.member? "previewReceiptHash" (preview.map .str)).map Prod.fst
      = (Json.member? "previewReceiptHash" (preview'.map .str)).map Prod.fst := by
    cases preview <;> cases preview' <;> simp [Json.member?] at hlength ⊢
  have hmembers := Json.stringify_obj_inj h (by simp only [List.map_append, hkeys]; rfl) (by
    cases preview <;> simp only [List.map_append, Json.member?, Option.map, Option.toList,
      List.map] <;> decide)
  cases preview <;> cases preview' <;> simp [Json.member?] at hlength hmembers ⊢ <;>
    exact hmembers

end CodexRouter.Kernel
