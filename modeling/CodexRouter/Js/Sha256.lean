import CodexRouter.Js.Text

/-!
# SHA-256

The digest of the UTF-8 encoding of a string, in lower-case hexadecimal digits.
-/

namespace Js.Sha256

abbrev Word := ℕ

def rotr (n x : Word) : Word := (x >>> n ||| x <<< (32 - n)) % 0x100000000

def add (x y : Word) : Word := (x + y) % 0x100000000

def roundConstants : List Word :=
  [0x428a2f98, 0x71374491, 0xb5c0fbcf, 0xe9b5dba5, 0x3956c25b, 0x59f111f1, 0x923f82a4, 0xab1c5ed5,
    0xd807aa98, 0x12835b01, 0x243185be, 0x550c7dc3, 0x72be5d74, 0x80deb1fe, 0x9bdc06a7, 0xc19bf174,
    0xe49b69c1, 0xefbe4786, 0x0fc19dc6, 0x240ca1cc, 0x2de92c6f, 0x4a7484aa, 0x5cb0a9dc, 0x76f988da,
    0x983e5152, 0xa831c66d, 0xb00327c8, 0xbf597fc7, 0xc6e00bf3, 0xd5a79147, 0x06ca6351, 0x14292967,
    0x27b70a85, 0x2e1b2138, 0x4d2c6dfc, 0x53380d13, 0x650a7354, 0x766a0abb, 0x81c2c92e, 0x92722c85,
    0xa2bfe8a1, 0xa81a664b, 0xc24b8b70, 0xc76c51a3, 0xd192e819, 0xd6990624, 0xf40e3585, 0x106aa070,
    0x19a4c116, 0x1e376c08, 0x2748774c, 0x34b0bcb5, 0x391c0cb3, 0x4ed8aa4a, 0x5b9cca4f, 0x682e6ff3,
    0x748f82ee, 0x78a5636f, 0x84c87814, 0x8cc70208, 0x90befffa, 0xa4506ceb, 0xbef9a3f7, 0xc67178f2]

structure State where
  (a b c d e f g h : Word)

def initial : State :=
  ⟨0x6a09e667, 0xbb67ae85, 0x3c6ef372, 0xa54ff53a, 0x510e527f, 0x9b05688c, 0x1f83d9ab, 0x5be0cd19⟩

/-- The schedule, last word first. -/
def extend : ℕ → List Word → List Word
  | 0, w => w
  | n + 1, w =>
    let s0 := w.getD 14 0
    let s1 := w.getD 1 0
    extend n (add
      (add (rotr 17 s1 ^^^ rotr 19 s1 ^^^ s1 >>> 10) (w.getD 6 0))
      (add (rotr 7 s0 ^^^ rotr 18 s0 ^^^ s0 >>> 3) (w.getD 15 0)) :: w)

def round (s : State) (wk : Word × Word) : State :=
  let ch := (s.e &&& s.f) ^^^ ((0xffffffff - s.e) &&& s.g)
  let maj := (s.a &&& s.b) ^^^ (s.a &&& s.c) ^^^ (s.b &&& s.c)
  let t1 := add (add (add s.h (rotr 6 s.e ^^^ rotr 11 s.e ^^^ rotr 25 s.e)) (add ch wk.2)) wk.1
  let t2 := add (rotr 2 s.a ^^^ rotr 13 s.a ^^^ rotr 22 s.a) maj
  ⟨add t1 t2, s.a, s.b, s.c, add s.d t1, s.e, s.f, s.g⟩

def compress (s : State) (block : List Word) : State :=
  let r := ((extend 48 block.reverse).reverse.zip roundConstants).foldl round s
  ⟨add s.a r.a, add s.b r.b, add s.c r.c, add s.d r.d, add s.e r.e, add s.f r.f, add s.g r.g,
    add s.h r.h⟩

def words : List ℕ → List Word
  | b₀ :: b₁ :: b₂ :: b₃ :: l => (((b₀ * 256 + b₁) * 256 + b₂) * 256 + b₃) :: words l
  | _ => []

def bigEndian : ℕ → ℕ → List ℕ
  | 0, _ => []
  | n + 1, x => bigEndian n (x / 256) ++ [x % 256]

def pad (bytes : List ℕ) : List ℕ :=
  bytes ++ 0x80 :: List.replicate ((119 - bytes.length % 64) % 64) 0
    ++ bigEndian 8 (bytes.length * 8)

def blocks : ℕ → List Word → List (List Word)
  | 0, _ => []
  | n + 1, w => w.take 16 :: blocks n (w.drop 16)

def digest (bytes : List ℕ) : State :=
  let w := words (pad bytes)
  (blocks (w.length / 16) w).foldl compress initial

def utf8Point (p : ℕ) : List ℕ :=
  if p < 0x80 then [p]
  else if p < 0x800 then [0xc0 + p / 0x40, 0x80 + p % 0x40]
  else if p < 0x10000 then [0xe0 + p / 0x1000, 0x80 + p / 0x40 % 0x40, 0x80 + p % 0x40]
  else [0xf0 + p / 0x40000, 0x80 + p / 0x1000 % 0x40, 0x80 + p / 0x40 % 0x40, 0x80 + p % 0x40]

/-- An unpaired surrogate is encoded as U+FFFD. -/
def utf8 : Str → List ℕ
  | [] => []
  | [c] => utf8Point (if 0xd800 ≤ c.val ∧ c.val ≤ 0xdfff then 0xfffd else c.val)
  | c :: d :: s =>
    if 0xd800 ≤ c.val ∧ c.val ≤ 0xdbff ∧ 0xdc00 ≤ d.val ∧ d.val ≤ 0xdfff then
      utf8Point (0x10000 + (c.val - 0xd800) * 0x400 + (d.val - 0xdc00)) ++ utf8 s
    else utf8Point (if 0xd800 ≤ c.val ∧ c.val ≤ 0xdfff then 0xfffd else c.val) ++ utf8 (d :: s)

def hexDigit (n : ℕ) : CodeUnit := Fin.ofNat _ (if n < 10 then 0x30 + n else 0x57 + n)

def hexWord (w : Word) : Str := (bigEndian 4 w).flatMap fun b => [hexDigit (b / 16), hexDigit (b % 16)]

def hex (s : Str) : Str :=
  let r := digest (utf8 s)
  [r.a, r.b, r.c, r.d, r.e, r.f, r.g, r.h].flatMap hexWord

example : hex "abc" = js "ba7816bf8f01cfea414140de5dae2223b00361a396177a9cb410ff61f20015ad" := by
  decide +kernel

end Js.Sha256
