import Interchange.Crypto.Aead
import Interchange.Crypto.Hmac
import Interchange.Bytes.Encoding
import Interchange.Files.Basic
import Interchange.Error
import Interchange.Text.Trim

/-! # Sealing secrets

Secrets are sealed under a key that is derived from a master key. A sealed text is the base 64 of
the nonce and the encrypted bytes with their tag, and only such a text can be opened again.
-/

namespace Interchange

/-- The text that all secrets depend on. -/
structure MasterKey where
  text : String
deriving DecidableEq

namespace MasterKey

def shown : String := "MasterKey([REDACTED])"

/-- The number of random bytes in a generated key. -/
def length : Nat := 32

def ofText (s : String) : Result MasterKey :=
  if Text.allBlank s then .error (.configuration "Master key cannot be empty") else .ok ⟨s⟩

def ofBytes (random : List UInt8) : MasterKey := ⟨String.ofList (Base64.encode random)⟩

/-- The key in a file; a file that is missing is made, with a key of the random bytes and for its
owner alone. -/
def loadOrGenerate (fs : Files) (path : String) (random : List UInt8) :
    Result MasterKey × Files :=
  if fs.has path then
    match fs.readText path with
    | .error e =>
      (.error (.storage ("Failed to read master key " ++ path ++ ": " ++ e.message)), fs)
    | .ok s => (ofText (Text.trim s), fs)
  else
    match fs.makeParents path with
    | (.error e, fs) => (.error (.files e.message), fs)
    | (.ok _, fs) =>
      let key := ofBytes random
      match fs.create path key.text.toUTF8 0o600 with
      | .error e => (.error (.files e.message), fs)
      | .ok fs => (.ok key, fs)

end MasterKey

/-- What seals and opens secrets. -/
structure Encryptor where
  cipher : Aead

namespace Encryptor

def shown : String := "CredentialEncryptor \x7b cipher: \"AES-256-GCM\" \x7d"

def nonceLength : Nat := 12

def salt : String := "switchyard.secret-store.v1"

def rounds : Nat := 100000

def ofMasterKey (k : MasterKey) : Encryptor :=
  ⟨.gcm (Hmac.derive (Bytes.ofText k.text) (Bytes.ofText salt) rounds)⟩

def encrypt (e : Encryptor) (nonce : List UInt8) (secret : String) : String :=
  String.ofList (Base64.encode (nonce ++ e.cipher.sealed nonce (Bytes.ofText secret)))

/-- Opens a sealed secret; white space around it is ignored. -/
def decrypt (e : Encryptor) (s : String) : Result String :=
  match Base64.decode? (Text.trimmed s.toList) with
  | none => .error (.decryption "Invalid ciphertext encoding: not base 64")
  | some bytes =>
    if bytes.length ≤ nonceLength then .error (.decryption "Ciphertext is too short")
    else
      match e.cipher.opened? (bytes.take nonceLength) (bytes.drop nonceLength) with
      | none => .error (.decryption
          "Authentication tag mismatch (tampered data or wrong master key)")
      | some plain => match Bytes.toText? plain with
        | none => .error (.decryption "Plaintext is not valid UTF-8")
        | some secret => .ok secret

end Encryptor
end Interchange
