import TxDispatch.Crypto.Bytes

namespace TxDispatch.Crypto.Keccak

/-- The 25 lanes of the permutation, row by row: lane `(x, y)` stands at `x + 5 * y`. -/
abbrev Lanes := Array UInt64

def lane (s : Lanes) (x y : Nat) : UInt64 := s.getD (x % 5 + 5 * (y % 5)) 0

def ofLanes (f : Nat → Nat → UInt64) : Lanes := Array.ofFn fun i : Fin 25 => f (i % 5) (i / 5)

def rotate (w : UInt64) (n : Nat) : UInt64 :=
  if n = 0 then w else w <<< UInt64.ofNat n ||| w >>> UInt64.ofNat (64 - n)

def offsets : Array Nat :=
  #[0, 1, 62, 28, 27, 36, 44, 6, 55, 20, 3, 10, 43, 25, 39, 41, 45, 15, 21, 8, 18, 2, 61, 56, 14]

def roundConstants : List UInt64 :=
  [0x0000000000000001, 0x0000000000008082, 0x800000000000808A, 0x8000000080008000,
   0x000000000000808B, 0x0000000080000001, 0x8000000080008081, 0x8000000000008009,
   0x000000000000008A, 0x0000000000000088, 0x0000000080008009, 0x000000008000000A,
   0x000000008000808B, 0x800000000000008B, 0x8000000000008089, 0x8000000000008003,
   0x8000000000008002, 0x8000000000000080, 0x000000000000800A, 0x800000008000000A,
   0x8000000080008081, 0x8000000000008080, 0x0000000080000001, 0x8000000080008008]

def theta (s : Lanes) : Lanes :=
  let column := Array.ofFn fun x : Fin 5 =>
    lane s x 0 ^^^ lane s x 1 ^^^ lane s x 2 ^^^ lane s x 3 ^^^ lane s x 4
  let parity (x : Nat) : UInt64 := column.getD (x % 5) 0
  ofLanes fun x y => lane s x y ^^^ parity (x + 4) ^^^ rotate (parity (x + 1)) 1

def rhoPi (s : Lanes) : Lanes :=
  ofLanes fun x y =>
    let column := (x + 3 * y) % 5
    rotate (lane s column x) (offsets.getD (column + 5 * x) 0)

def chi (s : Lanes) : Lanes :=
  ofLanes fun x y => lane s x y ^^^ ((lane s (x + 1) y ^^^ 0xFFFFFFFFFFFFFFFF) &&& lane s (x + 2) y)

def round (s : Lanes) (constant : UInt64) : Lanes :=
  let s := chi (rhoPi (theta s))
  s.set! 0 (s.getD 0 0 ^^^ constant)

def permute (s : Lanes) : Lanes := roundConstants.foldl round s

def rate : Nat := 136

def pad (message : List UInt8) : List UInt8 :=
  let missing := rate - message.length % rate
  if missing = 1 then message ++ [0x81]
  else message ++ 0x01 :: List.replicate (missing - 2) 0 ++ [0x80]

def absorb (s : Lanes) (block : List UInt8) : Lanes :=
  let words := (chunks 8 block).toArray.map word64OfBytes
  permute (Array.ofFn fun i : Fin 25 => s.getD i 0 ^^^ words.getD i 0)

def hash256 (message : List UInt8) : List UInt8 :=
  let lanes := (chunks rate (pad message)).foldl absorb (Array.replicate 25 0)
  (List.range 4).flatMap fun i => bytesOfWord64 (lanes.getD i 0)

end TxDispatch.Crypto.Keccak
