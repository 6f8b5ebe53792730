import CodexRouter.Js.Canonical
import CodexRouter.Js.Decimal
import CodexRouter.Js.Valid

/-!
# Strict objects and counts

A strict object is read back as an object is, as it writes known keys only. A count is a number that
is a natural number up to a bound.
-/

namespace Js

section
variable {α : Type} {f : Fields α} {hkeys : f.keys.Nodup}

lemma Schema.read_write_strictObject {a b : α} :
    (strictObject f hkeys).read ((strictObject f hkeys).write a) = .ok b ↔
      (object f hkeys).read ((object f hkeys).write a) = .ok b := by
  change (strictObject f hkeys).read (.obj (f.write a)) = _ ↔ _
  rw [read_strictObject]
  exact and_iff_left fun p hp => f.keys_write p hp

lemma Schema.valid_strictObject {a : α} : (strictObject f hkeys).Valid a ↔ f.Valid hkeys a :=
  read_write_strictObject

instance [h : f.Exact] : (Schema.strictObject f hkeys).Exact where
  copies a b hread := (h.copies hkeys).object hkeys a b (Schema.read_write_strictObject.mp hread)

end

/-! ## Counts -/

/-- `Number.MAX_SAFE_INTEGER`. -/
def maxSafeInteger : ℕ := 9007199254740991

/-- The natural number that is written like this. -/
def Num.toCount (n : Num) : Option ℕ :=
  if n = .ofNat (natValue n.1) then some (natValue n.1) else none

@[simp] lemma Num.toCount_ofNat (count : ℕ) : (Num.ofNat count).toCount = some count := by
  have hvalue : natValue (Num.ofNat count).1 = count := natValue_natText count
  unfold toCount
  rw [hvalue, if_pos rfl]

lemma Num.eq_of_toCount {n : Num} {count : ℕ} (h : n.toCount = some count) : n = .ofNat count := by
  unfold toCount at h
  split_ifs at h with hn
  cases h
  exact hn

/-- `base.max(bound)`, for integers that are not negative. -/
def Schema.count (base : Schema Num) (hbase : ∀ n, base.write n = .num n) (bound : ℕ) :
    Schema ℕ where
  read j :=
    match base.read j with
    | .error issues => .error issues
    | .ok n =>
      match n.toCount.filter (· ≤ bound) with
      | some count => .ok count
      | none => .error (issue [] (js "Number must be less than or equal to " ++ Json.natText bound))
  write count := .num (.ofNat count)
  stable {j count} h := by
    split at h
    · exact nomatch h
    · rename_i n hread
      split at h
      · rename_i hcount
        cases h
        obtain ⟨hn, hbound⟩ := Option.filter_eq_some_iff.mp hcount
        have hvalid := base.stable hread
        rw [hbase, Num.eq_of_toCount hn] at hvalid
        rw [hvalid]
        dsimp only
        rw [Num.toCount_ofNat, Option.filter_some, if_pos hbound]
      · exact nomatch h

section
variable {base : Schema Num} {hbase : ∀ n, base.write n = .num n} {bound count : ℕ}

lemma Schema.read_count {j : Json} : (Schema.count base hbase bound).read j = .ok count ↔
    base.read j = .ok (.ofNat count) ∧ count ≤ bound := by
  unfold Schema.count
  dsimp only
  rcases base.read j with e | n
  · simp
  · dsimp only
    constructor
    · intro h
      split at h
      · rename_i hcount
        cases h
        obtain ⟨hn, hbound⟩ := Option.filter_eq_some_iff.mp hcount
        exact ⟨by rw [Num.eq_of_toCount hn], by simpa using hbound⟩
      · exact nomatch h
    · rintro ⟨hn, hbound⟩
      cases hn
      rw [Num.toCount_ofNat, Option.filter_some, if_pos (by simpa using hbound)]

lemma Schema.valid_count :
    (Schema.count base hbase bound).Valid count ↔ base.Valid (.ofNat count) ∧ count ≤ bound := by
  unfold Schema.Valid
  rw [read_count, hbase]
  rfl

instance : (Schema.count base hbase bound).Keyed := ⟨fun _ => trivial⟩

instance [h : base.Unordered] : (Schema.count base hbase bound).Unordered where
  read_canonical hj hread := by
    rw [Schema.read_count] at hread ⊢
    exact ⟨h.read_canonical hj hread.1, hread.2⟩

instance [h : base.Exact] : (Schema.count base hbase bound).Exact where
  copies a b hread := by
    rw [Schema.read_count] at hread
    have hvalue := h.copies (.ofNat a) (.ofNat b) (by rw [hbase]; exact hread.1)
    have hcount := congrArg Num.toCount hvalue
    rw [id, Num.toCount_ofNat, Num.toCount_ofNat] at hcount
    exact Option.some.inj hcount

end

lemma Schema.write_nonNegativeInt (n : Num) : nonNegativeInt.write n = .num n := rfl

lemma Schema.write_positiveInt (n : Num) : positiveInt.write n = .num n := rfl

/-- `z.number().int().nonnegative().max(bound)`. -/
def Schema.countUpTo (bound : ℕ) : Schema ℕ := count nonNegativeInt write_nonNegativeInt bound

/-- `z.number().int().positive().max(bound)`. -/
def Schema.positiveUpTo (bound : ℕ) : Schema ℕ := count positiveInt write_positiveInt bound

section
variable {bound count : ℕ}

lemma Schema.valid_countUpTo : (countUpTo bound).Valid count ↔ count ≤ bound :=
  valid_count.trans (and_iff_right (nonNegativeInt_valid count))

instance : Schema.nonNegativeInt.Unordered := inferInstanceAs (Schema.number.refine _).Unordered

instance : Schema.positiveInt.Unordered := inferInstanceAs (Schema.nonNegativeInt.refine _).Unordered

instance : (Schema.countUpTo bound).Keyed := ⟨fun _ => trivial⟩

instance : (Schema.countUpTo bound).Unordered :=
  inferInstanceAs (Schema.count Schema.nonNegativeInt _ bound).Unordered

instance : (Schema.countUpTo bound).Exact :=
  inferInstanceAs (Schema.count Schema.nonNegativeInt _ bound).Exact

instance : (Schema.positiveUpTo bound).Keyed := ⟨fun _ => trivial⟩

instance : (Schema.positiveUpTo bound).Unordered :=
  inferInstanceAs (Schema.count Schema.positiveInt _ bound).Unordered

instance : (Schema.positiveUpTo bound).Exact :=
  inferInstanceAs (Schema.count Schema.positiveInt _ bound).Exact

end

end Js
