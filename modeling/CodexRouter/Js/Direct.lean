import CodexRouter.Js.Ascii

/-!
# Digests for the kernel

The digest again, in the operations of `ℕ` themselves and with each word evaluated before it is used.
The kernel takes far less space for it.
-/

namespace Js.Sha256.Direct

variable {α : Type}

/-- `f x`, where `x` is evaluated first. -/
def force (x : ℕ) (f : ℕ → α) : α := Nat.casesOn x (f 0) fun n => f n.succ

lemma force_eq (x : ℕ) (f : ℕ → α) : force x f = f x := by
  cases x <;> rfl

def rotr (n x : Word) : Word :=
  Nat.mod (Nat.lor (Nat.shiftRight x n) (Nat.shiftLeft x (Nat.sub 32 n))) 0x100000000

def add (x y : Word) : Word := Nat.mod (Nat.add x y) 0x100000000

/-- The schedule, last word first, where `a` to `p` are the last sixteen words so far. -/
def extend (t : ℕ) (a b c d e f g h i j k l m n o p : Word) (w : List Word) : List Word :=
  match t with
  | 0 => a :: b :: c :: d :: e :: f :: g :: h :: i :: j :: k :: l :: m :: n :: o :: p :: w
  | t + 1 =>
    force (add
      (add (Nat.xor (Nat.xor (rotr 17 b) (rotr 19 b)) (Nat.shiftRight b 10)) g)
      (add (Nat.xor (Nat.xor (rotr 7 o) (rotr 18 o)) (Nat.shiftRight o 3)) p)) fun x =>
    extend t x a b c d e f g h i j k l m n o (p :: w)
termination_by structural t

lemma extend_eq (t : ℕ) (a b c d e f g h i j k l m n o p : Word) (w : List Word) :
    extend t a b c d e f g h i j k l m n o p w = Sha256.extend t
      (a :: b :: c :: d :: e :: f :: g :: h :: i :: j :: k :: l :: m :: n :: o :: p :: w) := by
  induction t generalizing a b c d e f g h i j k l m n o p w with
  | zero => rfl
  | succ t ih =>
    rw [extend, force_eq, ih]
    rfl

def schedule : List Word → List Word
  | [p, o, n, m, l, k, j, i, h, g, f, e, d, c, b, a] =>
    (extend 48 a b c d e f g h i j k l m n o p []).reverse
  | block => (Sha256.extend 48 block.reverse).reverse

lemma schedule_eq (block : List Word) :
    schedule block = (Sha256.extend 48 block.reverse).reverse := by
  unfold schedule
  split
  · rw [extend_eq]
    rfl
  · rfl

def round (s : State) (wk : Word × Word) : State :=
  let ch := Nat.xor (Nat.land s.e s.f) (Nat.land (Nat.sub 0xffffffff s.e) s.g)
  let maj := Nat.xor (Nat.xor (Nat.land s.a s.b) (Nat.land s.a s.c)) (Nat.land s.b s.c)
  force (add (add (add s.h (Nat.xor (Nat.xor (rotr 6 s.e) (rotr 11 s.e)) (rotr 25 s.e)))
    (add ch wk.2)) wk.1) fun t1 =>
  force (add t1 (add (Nat.xor (Nat.xor (rotr 2 s.a) (rotr 13 s.a)) (rotr 22 s.a)) maj)) fun a =>
  force (add s.d t1) fun e => ⟨a, s.a, s.b, s.c, e, s.e, s.f, s.g⟩

lemma round_eq : round = Sha256.round := by
  funext s wk
  simp only [round, force_eq]
  rfl

def compress (s : State) (block : List Word) : State :=
  let r := ((schedule block).zip roundConstants).foldl round s
  ⟨add s.a r.a, add s.b r.b, add s.c r.c, add s.d r.d, add s.e r.e, add s.f r.f, add s.g r.g,
    add s.h r.h⟩

lemma compress_eq : compress = Sha256.compress := by
  funext s block
  simp only [compress, schedule_eq, round_eq]
  rfl

def digest (bytes : List ℕ) : State :=
  let w := words (pad bytes)
  (blocks (w.length / 16) w).foldl compress initial

def hex (s : Str) : Str :=
  let r := digest (utf8 s)
  [r.a, r.b, r.c, r.d, r.e, r.f, r.g, r.h].flatMap hexWord

lemma hex_eq : hex = Sha256.hex := by
  funext s
  simp only [hex, digest, compress_eq]
  rfl

end Js.Sha256.Direct

namespace Js

@[reducible] def directRuntime : Runtime := { asciiRuntime with sha256 := Sha256.Direct.hex }

lemma directRuntime_eq : directRuntime = asciiRuntime :=
  congrArg (fun sha256 => { asciiRuntime with sha256 }) Sha256.Direct.hex_eq

end Js
