import CodexRouter.Js.Text

/-!
# JSON values

A number is kept by its shortest decimal text, so two finite numbers are equal when their texts
are. A member whose value is `undefined` is absent.
-/

namespace Js

def isDigit (c : CodeUnit) : Bool := 0x30 ≤ c.val && c.val ≤ 0x39

def isNumberUnit (c : CodeUnit) : Bool :=
  isDigit c || c == cu '-' || c == cu '+' || c == cu '.' || c == cu 'e'

/-- The text `String(n)` of a finite number has this shape. -/
def isNumberText (s : Str) : Bool :=
  s.all isNumberUnit && s.head?.any fun c => c == cu '-' || isDigit c

/-- A finite number. -/
abbrev Num := { s : Str // isNumberText s = true }

inductive Json where
  | null
  | bool (b : Bool)
  | num (n : Num)
  | str (s : Str)
  | arr (l : List Json)
  | obj (m : List (Str × Json))

namespace Json

mutual

def decEq : (a b : Json) → Decidable (a = b)
  | null, null => isTrue rfl
  | bool a, bool b => decidable_of_iff (a = b) (by simp)
  | num a, num b => decidable_of_iff (a = b) (by simp)
  | str a, str b => decidable_of_iff (a = b) (by simp)
  | arr a, arr b =>
    match decEqList a b with
    | isTrue h => isTrue (by rw [h])
    | isFalse h => isFalse (by simpa using h)
  | obj a, obj b =>
    match decEqMembers a b with
    | isTrue h => isTrue (by rw [h])
    | isFalse h => isFalse (by simpa using h)
  | null, bool _ | null, num _ | null, str _ | null, arr _ | null, obj _
  | bool _, null | bool _, num _ | bool _, str _ | bool _, arr _ | bool _, obj _
  | num _, null | num _, bool _ | num _, str _ | num _, arr _ | num _, obj _
  | str _, null | str _, bool _ | str _, num _ | str _, arr _ | str _, obj _
  | arr _, null | arr _, bool _ | arr _, num _ | arr _, str _ | arr _, obj _
  | obj _, null | obj _, bool _ | obj _, num _ | obj _, str _ | obj _, arr _ =>
    isFalse (by simp)

def decEqList : (a b : List Json) → Decidable (a = b)
  | [], [] => isTrue rfl
  | [], _ :: _ | _ :: _, [] => isFalse (by simp)
  | a :: l, b :: r =>
    match decEq a b, decEqList l r with
    | isTrue h, isTrue h' => isTrue (by rw [h, h'])
    | isFalse h, _ => isFalse fun e => h (List.cons.inj e).1
    | _, isFalse h => isFalse fun e => h (List.cons.inj e).2

def decEqMembers : (a b : List (Str × Json)) → Decidable (a = b)
  | [], [] => isTrue rfl
  | [], _ :: _ | _ :: _, [] => isFalse (by simp)
  | (k, a) :: l, (k', b) :: r =>
    match decEq a b, decEqMembers l r with
    | isTrue h, isTrue h' => decidable_of_iff (k = k') (by simp [h, h'])
    | isFalse h, _ => isFalse fun e => h (by simp_all)
    | _, isFalse h => isFalse fun e => h (by simp_all)

end

instance : DecidableEq Json := decEq

/-- `record[key]` of an object; `none` is `undefined`. -/
def get? (m : List (Str × Json)) (key : Str) : Option Json := m.lookup key

/-! ## Texts -/

def hexUnit (n : ℕ) : CodeUnit := if n < 10 then Fin.ofNat _ (0x30 + n) else Fin.ofNat _ (0x57 + n)

def escapeUnit (c : CodeUnit) : Str :=
  [cu '\\', cu 'u', hexUnit (c.val / 0x1000), hexUnit (c.val / 0x100 % 16),
    hexUnit (c.val / 0x10 % 16), hexUnit (c.val % 16)]

def isHighSurrogate (c : CodeUnit) : Bool := 0xd800 ≤ c.val && c.val ≤ 0xdbff

def isLowSurrogate (c : CodeUnit) : Bool := 0xdc00 ≤ c.val && c.val ≤ 0xdfff

def quoteUnit (c : CodeUnit) : Str :=
  if c = cu '"' ∨ c = cu '\\' then [cu '\\', c]
  else if c.val = 8 then [cu '\\', cu 'b']
  else if c.val = 9 then [cu '\\', cu 't']
  else if c.val = 10 then [cu '\\', cu 'n']
  else if c.val = 12 then [cu '\\', cu 'f']
  else if c.val = 13 then [cu '\\', cu 'r']
  else if c.val < 0x20 then escapeUnit c
  else [c]

/-- An unpaired surrogate is escaped, a paired one is kept. -/
def quoteUnits : Str → Str
  | [] => []
  | [c] => if isHighSurrogate c || isLowSurrogate c then escapeUnit c else quoteUnit c
  | c :: d :: s =>
    if isHighSurrogate c && isLowSurrogate d then c :: d :: quoteUnits s
    else (if isHighSurrogate c || isLowSurrogate c then escapeUnit c else quoteUnit c)
      ++ quoteUnits (d :: s)

/-- `JSON.stringify(text)`. -/
def quote (s : Str) : Str := cu '"' :: quoteUnits s ++ [cu '"']

/-- `Object.keys(record).sort()`, each key with its text. -/
def sortMembers (m : List (Str × Str)) : List (Str × Str) := m.insertionSort (·.1 ≤ ·.1)

mutual

/-- `stableStringifyKernelObject(input)`. -/
def stableStringify : Json → Str
  | null => js "null"
  | bool b => if b then js "true" else js "false"
  | num n => n.1
  | str s => quote s
  | arr l => cu '[' :: join (cu ',') (stringifyItems l) ++ [cu ']']
  | obj m =>
    cu '{' :: join (cu ',') ((sortMembers (stringifyMembers m)).map
      fun (k, v) => quote k ++ cu ':' :: v) ++ [cu '}']

def stringifyItems : List Json → List Str
  | [] => []
  | a :: l => stableStringify a :: stringifyItems l

def stringifyMembers : List (Str × Json) → List (Str × Str)
  | [] => []
  | (k, a) :: m => (k, stableStringify a) :: stringifyMembers m

end

/-! ## Building documents -/

lemma isDigit_cu {c : Char} (h : c.isDigit = true) : isDigit (cu c) = true := by
  simp only [Char.isDigit, Bool.and_eq_true, decide_eq_true_eq, ge_iff_le,
    UInt32.le_iff_toNat_le] at h
  have hv : (cu c).val = c.toNat := Nat.mod_eq_of_lt (lt_of_le_of_lt h.2 (by decide))
  simpa [isDigit, hv] using h

/-- `String(n)` of a count. -/
def natText (n : ℕ) : Str := (Nat.toDigits 10 n).map cu

lemma isNumberText_natText (n : ℕ) : isNumberText (natText n) = true := by
  have h : ∀ c ∈ Nat.toDigits 10 n, isDigit (cu c) = true := fun c hc =>
    isDigit_cu (Nat.isDigit_of_mem_toDigits (by omega) (by omega) hc)
  obtain ⟨c, l, hl⟩ := List.exists_cons_of_ne_nil (Nat.toDigits_ne_nil (n := n) (b := 10))
  rw [hl] at h
  rw [natText, hl]
  have hc := h c (by simp)
  simp only [isNumberText, isNumberUnit, List.map_cons, List.all_cons, List.all_map,
    List.head?_cons, Option.any_some, hc, Bool.true_or, Bool.or_true, Bool.true_and,
    Bool.and_true, List.all_eq_true, Function.comp_apply]
  intro d hd
  simp [h d (by simp [hd])]

/-- The text of a count. -/
def nat (n : ℕ) : Json := num ⟨natText n, isNumberText_natText n⟩

lemma isNumberText_neg {s : Str} (h : isNumberText s = true) :
    isNumberText (cu '-' :: s) = true := by
  simp only [isNumberText, Bool.and_eq_true, List.all_cons, List.head?_cons,
    Option.any_some] at h ⊢
  exact ⟨⟨by decide, h.1⟩, by decide⟩

/-- The text of an integer. -/
def int : ℤ → Json
  | .ofNat n => nat n
  | .negSucc n => num ⟨cu '-' :: natText (n + 1), isNumberText_neg (isNumberText_natText _)⟩

/-- A member that is left out when its value is `undefined`. -/
def member? (key : Str) (value : Option Json) : List (Str × Json) :=
  (value.map fun v => (key, v)).toList

end Json

end Js
