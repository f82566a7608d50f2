import Interchange.Crypto.Hmac
import Interchange.Bytes.Encoding
import Interchange.Dict
import Interchange.Text.Ascii
import Interchange.Text.Trim
import Interchange.Text.Lowercase

/-! # Signatures of webhooks

A signature is the keyed digest of a payload in hexadecimal digits. The sender may put the name of
the digest in front, with an equals sign behind it.
-/

namespace Interchange

/-- The digests that signatures use. -/
inductive SignatureAlgorithm where
  | sha256
  | sha512
deriving DecidableEq, Repr

namespace SignatureAlgorithm

def name : SignatureAlgorithm → String
  | .sha256 => "sha256"
  | .sha512 => "sha512"

/-- The digest that a name means; case and hyphens do not matter. The error is the rest of the
name. -/
def parse (s : String) : Except String SignatureAlgorithm :=
  let text := String.ofList ((Text.lowercase s).toList.filter (· ≠ '-'))
  if text = "sha256" then .ok .sha256
  else if text = "sha512" then .ok .sha512
  else .error text

def unknownMessage (text : String) : String :=
  "Unsupported webhook signature algorithm: " ++ text

def mac : SignatureAlgorithm → (key message : List UInt8) → List UInt8
  | .sha256 => Hmac.sha256
  | .sha512 => Hmac.sha512

end SignatureAlgorithm

namespace Webhook

def sign (a : SignatureAlgorithm) (secret payload : List UInt8) : String :=
  String.ofList (Bytes.toHex (a.mac secret payload))

/-- What stands behind the name of a digest and an equals sign, or all when no name is in front. -/
def digits (signature : List Char) : List Char :=
  match Text.cutAt '=' signature with
  | some (name, rest) => if name.all Text.isAlphanumeric then rest else signature
  | none => signature

def verify (a : SignatureAlgorithm) (secret payload : List UInt8) (signature : String) : Bool :=
  match Bytes.ofHex? (digits (Text.trimmed signature.toList)) with
  | none => false
  | some bytes => bytes = a.mac secret payload

/-- The headers that may carry a signature, in the order in which they are tried. -/
def signatureHeaders : List String :=
  ["X-Hub-Signature-256", "X-Signature", "X-Webhook-Signature"]

/-- The value of a header; the case of its name does not matter. -/
def header? (headers : Dict String) (name : String) : Option String :=
  (headers.find? fun h => Text.sameIgnoringCase h.1 name).map Prod.snd

def signature? (headers : Dict String) (configured : Option String) : Option String :=
  match configured with
  | some name => header? headers name
  | none => signatureHeaders.findSome? (header? headers)

/-- The number of random bytes in a generated secret. -/
def secretLength : Nat := 32

def secretOfBytes (random : List UInt8) : String := String.ofList (Base64.encodeUrlSafe random)

end Webhook
end Interchange
