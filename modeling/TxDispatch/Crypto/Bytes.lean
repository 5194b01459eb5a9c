namespace TxDispatch.Crypto

def natOfBytes (bytes : List UInt8) : Nat := bytes.foldl (fun n b => 256 * n + b.toNat) 0

/-- The lowest `size` bytes of a number, most significant first. -/
def bytesOfNat (size n : Nat) : List UInt8 :=
  (List.range size).reverse.map fun i => UInt8.ofNat (n >>> (8 * i))

def word64OfBytes (bytes : List UInt8) : UInt64 :=
  bytes.foldr (fun b w => w <<< 8 ||| b.toUInt64) 0

def bytesOfWord64 (w : UInt64) : List UInt8 :=
  (List.range 8).map fun i => (w >>> (UInt64.ofNat (8 * i))).toUInt8

def chunks {α : Type} (size : Nat) (xs : List α) : List (List α) := go xs xs.length
where
  go (xs : List α) : Nat → List (List α)
    | 0 => []
    | fuel + 1 => if xs.isEmpty then [] else xs.take size :: go (xs.drop size) fuel

end TxDispatch.Crypto
