import CodexRouter.Js.Ascii
import CodexRouter.Js.Canonical
import CodexRouter.Kernel.Core

/-!
# The identity of kernel objects

A kernel object is known by the hash of its stable text, which forgets the order of members and
nothing else. A number is the text that `String(n)` writes, so that zero has no sign.
-/

open Js Json

namespace CodexRouter.Kernel

/-- The text, and as long as the texts do not collide the hash, identifies exactly the values that
are the same up to the order of members. -/
theorem hashKernelObject_identifies [Runtime] {a b : Json} (ha : a.Keyed) (hb : b.Keyed) :
    (a.stableStringify = b.stableStringify ↔ Reordered a b) ∧
      (CollisionFree [a.stableStringify, b.stableStringify] →
        (hashKernelObject a = hashKernelObject b ↔ Reordered a b)) := by
  have htext : a.stableStringify = b.stableStringify ↔ Reordered a b := by
    constructor
    · exact reordered_of_text ha hb
    · intro h
      exact (h.stable ha).2
  refine ⟨htext, ?_⟩
  intro hfree
  rw [← htext]
  unfold hashKernelObject
  constructor
  · intro hhash
    exact hfree _ (by simp) _ (by simp) hhash
  · intro h
    rw [h]

/-- Two orders of the same two members. -/
def sampleObject : Json := .obj [(js "a", .bool true), (js "b", .arr [.null, .str (js "\"")])]

def sampleSwapped : Json := .obj [(js "b", .arr [.null, .str (js "\"")]), (js "a", .bool true)]

attribute [local instance] asciiRuntime in
theorem hashKernelObject_identifies_swapped :
    (sampleObject.stableStringify = sampleSwapped.stableStringify ↔
      Reordered sampleObject sampleSwapped) ∧
    (hashKernelObject sampleObject = hashKernelObject sampleSwapped ↔
      Reordered sampleObject sampleSwapped) := by
  have hkeyed : sampleObject.Keyed ∧ sampleSwapped.Keyed := by
    refine ⟨⟨by decide, trivial, ⟨trivial, trivial, trivial⟩, trivial⟩,
      ⟨by decide, ⟨trivial, trivial, trivial⟩, trivial, trivial⟩⟩
  obtain ⟨htext, hhash⟩ := hashKernelObject_identifies hkeyed.1 hkeyed.2
  exact ⟨htext, hhash (by decide +kernel)⟩

end CodexRouter.Kernel
