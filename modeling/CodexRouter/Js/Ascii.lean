import CodexRouter.Js.Json
import CodexRouter.Js.Runtime
import CodexRouter.Js.Sha256

/-!
# The host on ASCII text

A computable host that agrees with the real one on ASCII strings and on instants written as
`YYYY-MM-DDThh:mm:ssZ` or `YYYY-MM-DDThh:mm:ss.mmmZ`.
-/

namespace Js

def digits? (s : Str) : Option ℕ :=
  if s.all isDigit then some (s.foldl (fun n c => n * 10 + (c.val - 0x30)) 0) else none

/-- The days from 1970-01-01 to a date of the Gregorian calendar. -/
def daysFromCivil (year month day : ℕ) : ℤ :=
  let y : ℤ := if month ≤ 2 then year - 1 else year
  let m : ℤ := if month ≤ 2 then month + 9 else month - 3
  y * 365 + y / 4 - y / 100 + y / 400 + (153 * m + 2) / 5 + day - 719469

def isoParse (s : Str) : Option ℤ := do
  let field (i n : ℕ) := digits? ((s.drop i).take n)
  let plain := s.length = 20 && endsWith s "Z"
  let millis := s.length = 24 && endsWith s "Z" && s[19]? = some (cu '.')
  if !(plain || millis) || (s[4]?, s[7]?, s[10]?, s[13]?, s[16]?) ≠
      (some (cu '-'), some (cu '-'), some (cu 'T'), some (cu ':'), some (cu ':')) then none
  else
    let year ← field 0 4
    let month ← field 5 2
    let day ← field 8 2
    let hour ← field 11 2
    let minute ← field 14 2
    let second ← field 17 2
    let ms ← if millis then field 20 3 else some 0
    return (((daysFromCivil year month day * 24 + hour) * 60 + minute) * 60 + second) * 1000 + ms

@[reducible] def asciiRuntime : Runtime where
  nfc := id
  nfkc := id
  toLowerCase := List.map asciiLower
  dateParse := isoParse
  sha256 := Sha256.hex

attribute [local instance] asciiRuntime in
lemma asciiRuntime_stable : Runtime.AsciiStable where
  nfc_nil := rfl
  nfc_extend _ _ _ _ _ := rfl
  toLowerCase_lower s hs := by
    refine (List.map_congr_left fun c hc => ?_).trans (List.map_id s)
    have := hs c hc
    rw [asciiLower, if_neg (by omega)]
    rfl

end Js
