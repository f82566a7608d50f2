import Interchange.Crypto.Aes

/-! # Sealing with a key stream and a tag

An `Aead` gives a key stream and a tag for each nonce. Sealing adds the stream to the message and
puts the tag behind it; opening checks the tag and adds the stream again. `gcm` is AES-256-GCM
without associated data.
-/

namespace Interchange

/-- The key stream and the tags of a cipher under one key. -/
structure Aead where
  /-- The first bytes of the key stream of a nonce. -/
  stream : List UInt8 → Nat → List UInt8
  /-- The tag of encrypted bytes under a nonce. -/
  tag : List UInt8 → List UInt8 → List UInt8

namespace Aead

def tagLength : Nat := 16

def mask (a : Aead) (nonce bytes : List UInt8) : List UInt8 :=
  List.zipWith (· ^^^ ·) bytes (a.stream nonce bytes.length)

/-- Encrypts bytes and puts the tag behind them. -/
def sealed (a : Aead) (nonce plain : List UInt8) : List UInt8 :=
  let c := a.mask nonce plain
  c ++ a.tag nonce c

def opened? (a : Aead) (nonce bytes : List UInt8) : Option (List UInt8) :=
  if bytes.length < tagLength then none
  else
    let c := bytes.take (bytes.length - tagLength)
    if bytes.drop (bytes.length - tagLength) = a.tag nonce c then some (a.mask nonce c) else none

end Aead

namespace Gcm

def blockNumber (bs : List UInt8) : Nat := bs.foldl (fun n b => 256 * n + b.toNat) 0

def numberBlock (n : Nat) : List UInt8 :=
  (List.range 16).map fun i => UInt8.ofNat (n / Nat.pow 256 (15 - i))

/-- The product in the field of `2 ^ 128` elements, bit by bit: `i` bits of `x` are left, `v` is the
multiple of the other factor for the next one. -/
def multiply (x : Nat) : Nat → (v z : Nat) → Nat
  | 0, _, z => z
  | i + 1, v, z =>
    multiply x i (if v % 2 = 1 then (v / 2) ^^^ (0xe1 <<< 120) else v / 2)
      (if x.testBit i then z ^^^ v else z)

/-- The pieces of sixteen bytes, the last one filled with zeros. -/
def blocks : Nat → List UInt8 → List (List UInt8)
  | 0, _ => []
  | n + 1, bs =>
    let b := bs.take 16
    (b ++ List.replicate (16 - b.length) 0) :: blocks n (bs.drop 16)

def blockCount (length : Nat) : Nat := (length + 15) / 16

def hash (h : Nat) (bytes : List UInt8) : Nat :=
  let all := (blocks (blockCount bytes.length) bytes).map blockNumber ++ [8 * bytes.length]
  all.foldl (fun y b => multiply (y ^^^ b) 128 h 0) 0

/-- The counter block of a nonce of twelve bytes. -/
def counterBlock (nonce : List UInt8) (n : Nat) : List UInt8 :=
  nonce ++ (List.range 4).map fun i => UInt8.ofNat (n / Nat.pow 256 (3 - i))

end Gcm

/-- AES-256-GCM under a key of 32 bytes. -/
def Aead.gcm (key : List UInt8) : Aead :=
  let keys := Aes.roundKeys key
  let h := Gcm.blockNumber (Aes.encrypt keys (List.replicate 16 0))
  { stream := fun nonce n => ((List.range (Gcm.blockCount n)).flatMap fun i =>
      Aes.encrypt keys (Gcm.counterBlock nonce (i + 2))).take n
    tag := fun nonce c => Aes.add (Gcm.numberBlock (Gcm.hash h c))
      (Aes.encrypt keys (Gcm.counterBlock nonce 1)) }

end Interchange
