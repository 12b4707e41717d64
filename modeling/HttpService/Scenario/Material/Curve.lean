/-!
# Elliptic curves

Points of the curves `y ^ 2 = x ^ 3 - 3 * x + b` over a prime field. A point is kept in three
coordinates, so that only its final form needs a division.
-/

namespace HttpService.Scenario

structure Curve where
  prime : Nat
  order : Nat
  /-- The generator. -/
  gx : Nat
  gy : Nat
  /-- The bytes of a coordinate. -/
  size : Nat
  deriving DecidableEq, Repr

/-- The point `(x / z ^ 2, y / z ^ 3)`, or infinity if `z` is zero. -/
structure Point where
  x : Nat
  y : Nat
  z : Nat
  deriving DecidableEq, Repr

namespace Curve

def p256 : Curve where
  prime := 0xffffffff00000001000000000000000000000000ffffffffffffffffffffffff
  order := 0xffffffff00000000ffffffffffffffffbce6faada7179e84f3b9cac2fc632551
  gx := 0x6b17d1f2e12c4247f8bce6e563a440f277037d812deb33a0f4a13945d898c296
  gy := 0x4fe342e2fe1a7f9b8ee7eb4a7c0f9e162bce33576b315ececbb6406837bf51f5
  size := 32

def p384 : Curve where
  prime := 0xfffffffffffffffffffffffffffffffffffffffffffffffffffffffffffffffeffffffff0000000000000000ffffffff
  order := 0xffffffffffffffffffffffffffffffffffffffffffffffffc7634d81f4372ddf581a0db248b0a77aecec196accc52973
  gx := 0xaa87ca22be8b05378eb1c71ef320ad746e1d3b628ba79b9859f741e082542a385502f25dbf55296c3a545e3872760ab7
  gy := 0x3617de4a96262c6f5d9e98bf9292dc29f8f41dbd289a147ce9da3113b5f0b8c00a60b1ce1d7e819d7a431d7c90ea0e5f
  size := 48

def infinity : Point := ⟨1, 1, 0⟩

variable (c : Curve)

def sub (a b : Nat) : Nat :=
  (a + c.prime - b % c.prime) % c.prime

def mul (a b : Nat) : Nat :=
  a * b % c.prime

def double (p : Point) : Point :=
  let zz := c.mul p.z p.z
  let yy := c.mul p.y p.y
  let s := c.mul (4 * p.x) yy
  let m := c.mul (3 * c.sub p.x zz) (p.x + zz)
  let x := c.sub (c.mul m m) (2 * s)
  ⟨x, c.sub (c.mul m (c.sub s x)) (c.mul (8 * yy) yy), c.mul (2 * p.y) p.z⟩

def add (p q : Point) : Point :=
  if p.z == 0 then q
  else if q.z == 0 then p
  else
    let pz := c.mul p.z p.z
    let qz := c.mul q.z q.z
    let u := c.mul p.x qz
    let s := c.mul (c.mul p.y q.z) qz
    let h := c.sub (c.mul q.x pz) u
    let r := c.sub (c.mul (c.mul q.y p.z) pz) s
    if h == 0 then if r == 0 then c.double p else infinity
    else
      let hh := c.mul h h
      let hhh := c.mul h hh
      let v := c.mul u hh
      let x := c.sub (c.sub (c.mul r r) hhh) (2 * v)
      ⟨x, c.sub (c.mul r (c.sub v x)) (c.mul s hhh), c.mul (c.mul p.z q.z) h⟩

/-- A multiple of a point by a number below `2 ^ bits`, bit by bit. -/
def multiple (p : Point) (n : Nat) : Nat → Point
  | 0 => infinity
  | bits + 1 =>
      let doubled := c.double (multiple p (n / 2) bits)
      if n % 2 == 1 then c.add doubled p else doubled

/-- A power modulo the prime, by the bits of an exponent below `2 ^ bits`. -/
def power (a e : Nat) : Nat → Nat
  | 0 => 1
  | bits + 1 =>
      let root := power a (e / 2) bits
      let square := c.mul root root
      if e % 2 == 1 then c.mul square a else square

def inverse (a : Nat) : Nat :=
  c.power a (c.prime - 2) (8 * c.size)

def affine (p : Point) : Nat × Nat :=
  let i := c.inverse p.z
  let ii := c.mul i i
  (c.mul p.x ii, c.mul p.y (c.mul ii i))

/-- The point that belongs to a secret number, which is not zero and below the order. -/
def publicPoint? (secret : Nat) : Option (Nat × Nat) :=
  if secret == 0 || c.order ≤ secret then none
  else some (c.affine (c.multiple ⟨c.gx, c.gy, 1⟩ secret (8 * c.size)))

end Curve

end HttpService.Scenario
