import CodexRouter.Js.Text

/-!
# The host

Unicode tables, the calendar and the digest are parameters; every result that rests on a fact
about one of them names the fact.
-/

namespace Js

class Runtime where
  /-- `text.normalize("NFC")`. -/
  nfc : Str → Str
  /-- `text.normalize("NFKC")`. -/
  nfkc : Str → Str
  /-- `text.toLocaleLowerCase("en-US")`. -/
  toLowerCase : Str → Str
  /-- `Date.parse(text)`; `none` is `NaN`. -/
  dateParse : Str → Option ℤ
  /-- `createHash("sha256").update(text).digest("hex")`. -/
  sha256 : Str → Str

/-- ASCII text is in normal form wherever it follows a normalized text, which stays normalized
when it is cut; lower-case ASCII letters are their own lower case. -/
structure Runtime.AsciiStable [Runtime] : Prop where
  nfc_nil : Runtime.nfc [] = []
  nfc_extend : ∀ u v s : Str, Runtime.nfc (u ++ v) = u ++ v → (∀ c ∈ s, c.val < 0x80) →
    Runtime.nfc (u ++ s) = u ++ s
  toLowerCase_lower : ∀ s : Str, (∀ c ∈ s, 0x61 ≤ c.val ∧ c.val ≤ 0x7a) →
    Runtime.toLowerCase s = s

/-- No two of these texts have one digest. -/
def CollisionFree [Runtime] (texts : List Str) : Prop :=
  ∀ t ∈ texts, ∀ u ∈ texts, Runtime.sha256 t = Runtime.sha256 u → t = u

instance [Runtime] (texts : List Str) : Decidable (CollisionFree texts) :=
  inferInstanceAs (Decidable (∀ t ∈ texts, ∀ u ∈ texts, _))

end Js
