import TxDispatch.Crypto.Sha256

namespace TxDispatch.Crypto.Secp256k1

def prime : Nat := 0xFFFFFFFFFFFFFFFFFFFFFFFFFFFFFFFFFFFFFFFFFFFFFFFFFFFFFFFEFFFFFC2F

def order : Nat := 0xFFFFFFFFFFFFFFFFFFFFFFFFFFFFFFFEBAAEDCE6AF48A03BBFD25E8CD0364141

structure Affine where
  x : Nat
  y : Nat
deriving DecidableEq, Repr

def base : Affine where
  x := 0x79BE667EF9DCBBAC55A06295CE870B07029BFCDB2DCE28D959F2815B16F81798
  y := 0x483ADA7726A3C4655DA4FBFC0E1108A8FD17B448A68554199C47D08FFB10D4B8

/-- A point `(x / z², y / z³)`; `z = 0` is the point at infinity. -/
structure Point where
  x : Nat
  y : Nat
  z : Nat

def infinity : Point := ⟨1, 1, 0⟩

def sub (a b : Nat) : Nat := (a + prime - b) % prime

def double (p : Point) : Point :=
  if p.z = 0 then p
  else
    let yy := p.y * p.y % prime
    let s := 4 * p.x * yy % prime
    let m := 3 * p.x * p.x % prime
    let x := sub (m * m % prime) (2 * s % prime)
    ⟨x, sub (m * sub s x % prime) (8 * yy * yy % prime), 2 * p.y * p.z % prime⟩

def add (p q : Point) : Point :=
  if p.z = 0 then q
  else if q.z = 0 then p
  else
    let pzz := p.z * p.z % prime
    let qzz := q.z * q.z % prime
    let u1 := p.x * qzz % prime
    let u2 := q.x * pzz % prime
    let s1 := p.y * qzz % prime * q.z % prime
    let s2 := q.y * pzz % prime * p.z % prime
    let h := sub u2 u1
    let r := sub s2 s1
    if h = 0 then (if r = 0 then double p else infinity)
    else
      let hh := h * h % prime
      let hhh := h * hh % prime
      let v := u1 * hh % prime
      let x := sub (sub (r * r % prime) hhh) (2 * v % prime)
      ⟨x, sub (r * sub v x % prime) (s1 * hhh % prime), p.z * q.z % prime * h % prime⟩

def multiply (p : Point) (k : Nat) : (bits : Nat) → Point
  | 0 => infinity
  | bits + 1 =>
    let rest := double (multiply p (k / 2) bits)
    if k % 2 = 1 then add rest p else rest

def powMod (a e m : Nat) : (bits : Nat) → Nat
  | 0 => 1 % m
  | bits + 1 =>
    let half := powMod a (e / 2) m bits
    let square := half * half % m
    if e % 2 = 1 then square * a % m else square

def inverse (a m : Nat) : Nat := powMod (a % m) (m - 2) m 256

def toAffine (p : Point) : Affine :=
  let w := inverse p.z prime
  let ww := w * w % prime
  ⟨p.x * ww % prime, p.y * ww % prime * w % prime⟩

def baseTimes (k : Nat) : Affine := toAffine (multiply ⟨base.x, base.y, 1⟩ k 256)

/-- The compressed form of a point: the parity of `y` and then `x`, 33 bytes. -/
def compressed (p : Affine) : List UInt8 := UInt8.ofNat (2 + p.y % 2) :: bytesOfNat 32 p.x

def coordinates (p : Affine) : List UInt8 := bytesOfNat 32 p.x ++ bytesOfNat 32 p.y

/-- The running state of the nonce generator. -/
structure Generator where
  key : List UInt8
  value : List UInt8

def Generator.mix (g : Generator) (tag : UInt8) (data : List UInt8) : Generator :=
  let key := Sha256.hmac g.key (g.value ++ tag :: data)
  ⟨key, Sha256.hmac key g.value⟩

/-- The generator for a secret and a digest; the digest goes in as it is, even if it is no scalar. -/
def Generator.start (secret digest : Nat) : Generator :=
  let seed := bytesOfNat 32 secret ++ bytesOfNat 32 digest
  let g : Generator := ⟨List.replicate 32 0, List.replicate 32 1⟩
  (g.mix 0 seed).mix 1 seed

/-- The first value of the generator that is a scalar; one draw is enough but for one in `2 ^ 127`
of them. -/
def Generator.nonce (g : Generator) : (tries : Nat) → Nat
  | 0 => 1
  | tries + 1 =>
    let value := Sha256.hmac g.key g.value
    let k := natOfBytes value
    if 0 < k ∧ k < order then k
    else
      let key := Sha256.hmac g.key (value ++ [0])
      Generator.nonce ⟨key, Sha256.hmac key value⟩ tries

/-- A signature with the parity of the point that it commits to. -/
structure Signature where
  r : Nat
  s : Nat
  odd : Bool
deriving DecidableEq, Repr

def sign (secret digest : Nat) : Signature :=
  let k := (Generator.start secret digest).nonce 16
  let p := baseTimes k
  let r := p.x % order
  let s := inverse k order * (digest + r * secret) % order
  if order / 2 < s then ⟨r, order - s, p.y % 2 == 0⟩ else ⟨r, s, p.y % 2 == 1⟩

/-- A signature in 65 bytes: `r`, `s` and 27 or 28 for the parity. -/
def Signature.bytes (g : Signature) : List UInt8 :=
  bytesOfNat 32 g.r ++ bytesOfNat 32 g.s ++ [if g.odd then 28 else 27]

end TxDispatch.Crypto.Secp256k1
