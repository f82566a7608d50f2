import Interchange.Crypto.Sha256
import Interchange.Crypto.Sha512

/-! # Keyed digests

HMAC over both digests, and the derivation of a key from a text by many rounds of it. The state that
a key leaves after its first block is computed once.
-/

namespace Interchange
namespace Hmac

/-- A key of one block: zeros fill it up, and a longer key is digested first. -/
def blockKey (size : Nat) (digest : List UInt8 → List UInt8) (key : List UInt8) : List UInt8 :=
  let key := if size < key.length then digest key else key
  key ++ List.replicate (size - key.length) 0

def masked (mask : UInt8) (key : List UInt8) : List UInt8 := key.map (· ^^^ mask)

def sha512 (key message : List UInt8) : List UInt8 :=
  let k := blockKey 128 Sha512.digest key
  Sha512.digest (masked 0x5c k ++ Sha512.digest (masked 0x36 k ++ message))

/-- The states that a key leaves in the inner and the outer SHA-256. -/
structure Keyed where
  inner : Sha256.State
  outer : Sha256.State

def Keyed.ofKey (key : List UInt8) : Keyed :=
  let k := blockKey 64 Sha256.digest key
  ⟨Sha256.absorb 1 Sha256.initial (masked 0x36 k), Sha256.absorb 1 Sha256.initial (masked 0x5c k)⟩

def Keyed.state (k : Keyed) (message : List UInt8) : Sha256.State :=
  Sha256.finish k.outer 64 (Sha256.finish k.inner 64 message).bytes

def sha256 (key message : List UInt8) : List UInt8 := ((Keyed.ofKey key).state message).bytes

/-- The block that a digest of 32 bytes fills behind one block of key. -/
def digestBlock (s : Sha256.State) : Array UInt32 :=
  #[s.a, s.b, s.c, s.d, s.e, s.f, s.g, s.h, 0x80000000, 0, 0, 0, 0, 0, 0, 768]

def Keyed.next (k : Keyed) (s : Sha256.State) : Sha256.State :=
  Sha256.compress k.outer (digestBlock (Sha256.compress k.inner (digestBlock s)))

/-- The sum of two states as vectors of bits. -/
def addStates (s t : Sha256.State) : Sha256.State :=
  ⟨s.a ^^^ t.a, s.b ^^^ t.b, s.c ^^^ t.c, s.d ^^^ t.d, s.e ^^^ t.e, s.f ^^^ t.f, s.g ^^^ t.g,
    s.h ^^^ t.h⟩

def Keyed.iterate (k : Keyed) : Nat → (sum last : Sha256.State) → Sha256.State
  | 0, sum, _ => sum
  | n + 1, sum, last =>
    let s := k.next last
    k.iterate n (addStates sum s) s

/-- The 32 bytes that PBKDF2 over HMAC-SHA-256 derives from a password. -/
def derive (password salt : List UInt8) (iterations : Nat) : List UInt8 :=
  let k := Keyed.ofKey password
  let first := k.state (salt ++ [0, 0, 0, 1])
  (k.iterate (iterations - 1) first first).bytes

end Hmac
end Interchange
