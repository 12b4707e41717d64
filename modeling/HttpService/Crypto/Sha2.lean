/-!
# Hashing

The SHA-2 family over words of 32 or 64 bits. The constants are the leading fraction bits of square
and cube roots of the first primes, and are computed as such.
-/

namespace HttpService.Crypto

/-- The greatest `r` below `2 ^ bits` with `r ^ k ≤ n`. -/
def root (k n bits : Nat) : Nat :=
  (List.range bits).reverse.foldl
    (fun r i => if Nat.pow (r + Nat.pow 2 i) k ≤ n then r + Nat.pow 2 i else r) 0

def isPrime (n : Nat) : Bool :=
  2 ≤ n && (List.range n).all fun d => d < 2 || n % d != 0

/-- The first eighty primes. -/
def primes : List Nat :=
  (List.range 410).filter isPrime

/-- The first `w` bits after the point of the `k`-th root of `n`. -/
def rootFraction (k w n : Nat) : BitVec w :=
  BitVec.ofNat w (root k (n * Nat.pow 2 (k * w)) (w + 5))

/-- What tells the members of the family apart. -/
structure Sha2 (w : Nat) where
  rounds : Nat
  /-- Rotations of the two functions on the state and, with a final shift, of the two on the
  message. -/
  bigSigma0 : Nat × Nat × Nat
  bigSigma1 : Nat × Nat × Nat
  smallSigma0 : Nat × Nat × Nat
  smallSigma1 : Nat × Nat × Nat
  start : List (BitVec w)
  constants : Array (BitVec w)
  /-- Bytes of the digest that are kept. -/
  size : Nat

namespace Sha2

variable {w : Nat}

def wordBytes (w : Nat) : Nat := w / 8

def blockBytes (w : Nat) : Nat := 16 * wordBytes w

def rotate3 (r : Nat × Nat × Nat) (x : BitVec w) : BitVec w :=
  x.rotateRight r.1 ^^^ x.rotateRight r.2.1 ^^^ x.rotateRight r.2.2

def rotate2Shift (r : Nat × Nat × Nat) (x : BitVec w) : BitVec w :=
  x.rotateRight r.1 ^^^ x.rotateRight r.2.1 ^^^ (x >>> r.2.2)

/-- The `n` low bytes of a number, most significant first. -/
def bigEndian (n value : Nat) : List UInt8 :=
  (List.range n).reverse.map fun i => UInt8.ofNat (value / Nat.pow 256 i)

/-- A one bit, zeros, and the length in bits, up to a whole number of blocks. -/
def pad (w : Nat) (message : List UInt8) : List UInt8 :=
  let block := blockBytes w
  let field := 2 * wordBytes w
  let used := (message.length + 1 + field) % block
  let zeros := if used == 0 then 0 else block - used
  message ++ 0x80 :: List.replicate zeros 0 ++ bigEndian field (8 * message.length)

def wordOf (bytes : List UInt8) : BitVec w :=
  BitVec.ofNat w (bytes.foldl (fun acc b => acc * 256 + b.toNat) 0)

/-- The pieces of a given positive length. -/
def pieces (n : Nat) : Nat → List UInt8 → List (List UInt8)
  | 0, _ => []
  | fuel + 1, bytes =>
      if bytes.isEmpty then [] else bytes.take n :: pieces n fuel (bytes.drop n)

/-- Extends the sixteen words of a block to one for each round. -/
def schedule (p : Sha2 w) (block : List UInt8) : Array (BitVec w) :=
  let words := ((pieces (wordBytes w) 16 block).map wordOf).toArray
  (List.range' 16 (p.rounds - 16)).foldl
    (fun ws i =>
      let at' (j : Nat) := ws.getD j 0
      ws.push (rotate2Shift p.smallSigma1 (at' (i - 2)) + at' (i - 7) +
        rotate2Shift p.smallSigma0 (at' (i - 15)) + at' (i - 16)))
    words

/-- The eight working words. -/
structure State (w : Nat) where
  (a b c d e f g h : BitVec w)

def State.ofList : List (BitVec w) → State w
  | [a, b, c, d, e, f, g, h] => ⟨a, b, c, d, e, f, g, h⟩
  | _ => ⟨0, 0, 0, 0, 0, 0, 0, 0⟩

def State.toList (s : State w) : List (BitVec w) :=
  [s.a, s.b, s.c, s.d, s.e, s.f, s.g, s.h]

def round (p : Sha2 w) (s : State w) (k m : BitVec w) : State w :=
  let choose := (s.e &&& s.f) ^^^ (~~~s.e &&& s.g)
  let majority := (s.a &&& s.b) ^^^ (s.a &&& s.c) ^^^ (s.b &&& s.c)
  let t1 := s.h + rotate3 p.bigSigma1 s.e + choose + k + m
  let t2 := rotate3 p.bigSigma0 s.a + majority
  ⟨t1 + t2, s.a, s.b, s.c, s.d + t1, s.e, s.f, s.g⟩

def compress (p : Sha2 w) (hash : List (BitVec w)) (block : List UInt8) : List (BitVec w) :=
  let ws := p.schedule block
  let final := (List.range p.rounds).foldl
    (fun s i => p.round s (p.constants.getD i 0) (ws.getD i 0)) (State.ofList hash)
  List.zipWith (· + ·) hash final.toList

def digest (p : Sha2 w) (message : List UInt8) : List UInt8 :=
  let padded := pad w message
  let hash := (pieces (blockBytes w) padded.length padded).foldl p.compress p.start
  (hash.flatMap fun word => bigEndian (wordBytes w) word.toNat).take p.size

end Sha2

def sha256 : Sha2 32 where
  rounds := 64
  bigSigma0 := (2, 13, 22)
  bigSigma1 := (6, 11, 25)
  smallSigma0 := (7, 18, 3)
  smallSigma1 := (17, 19, 10)
  start := (primes.take 8).map (rootFraction 2 32)
  constants := ((primes.take 64).map (rootFraction 3 32)).toArray
  size := 32

def sha512 : Sha2 64 where
  rounds := 80
  bigSigma0 := (28, 34, 39)
  bigSigma1 := (14, 18, 41)
  smallSigma0 := (1, 8, 7)
  smallSigma1 := (19, 61, 6)
  start := (primes.take 8).map (rootFraction 2 64)
  constants := (primes.map (rootFraction 3 64)).toArray
  size := 64

def sha384 : Sha2 64 :=
  { sha512 with start := ((primes.drop 8).take 8).map (rootFraction 2 64), size := 48 }

/-- A hash function and the length of its blocks. -/
structure Hash where
  block : Nat
  digest : List UInt8 → List UInt8

def Sha2.hash (p : Sha2 w) : Hash where
  block := blockBytes w
  digest := p.digest

/-- The code of a message under a key (HMAC). -/
def Hash.authenticate (h : Hash) (key message : List UInt8) : List UInt8 :=
  let short := if key.length > h.block then h.digest key else key
  let full := short ++ List.replicate (h.block - short.length) 0
  let inner := h.digest (full.map (· ^^^ 0x36) ++ message)
  h.digest (full.map (· ^^^ 0x5c) ++ inner)

end HttpService.Crypto
