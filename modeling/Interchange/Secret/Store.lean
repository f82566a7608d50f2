import Interchange.Secret.Encryptor
import Interchange.Secret.Key
import Interchange.Files.Replace
import Interchange.Json.Decode
import Interchange.Json.Reader

/-! # The store of secrets

Sealed secrets by the text of their key, in memory alone or with a copy in a file. A change is
written to the file first; when that fails the store stays as it was.
-/

namespace Interchange

open Json

structure SecretStore where
  encryptor : Encryptor
  /-- The file that holds a copy. -/
  path : Option String := none
  /-- Sealed secrets, by the text of their key. -/
  secrets : Dict String := []

namespace SecretStore

/-- The sealed secrets that a text holds: an object of texts, or nothing at all. -/
def readSecrets? (text : String) : Option (Dict String) :=
  if Text.allBlank text then some []
  else (parseVerbatim? text).bind (Decode.dict Decode.text)

/-- Opens the store whose copy is in a file. A missing file is an empty store. -/
def ofFile (fs : Files) (path : String) (encryptor : Encryptor) : Result SecretStore :=
  match fs.readText path with
  | .error .notFound => .ok { encryptor, path := some path }
  | .error e => .error (.storage ("Failed to read secret file " ++ path ++ ": " ++ e.message))
  | .ok text => match readSecrets? text with
    | none => .error (.storage ("Secret file " ++ path ++ " is corrupt: not an object of texts"))
    | some secrets => .ok { encryptor, path := some path, secrets }

def fileText (secrets : Dict String) : String :=
  (Value.object (Dict.mapValues Value.string secrets)).indented

/-- The error of a failed replacement of a store's file. -/
def replaceError (path : String) (e : ReplaceError) : Error :=
  match e.step with
  | .parents => .files e.cause.message
  | .write =>
    .storage ("Failed to write " ++ Path.temporary path ++ ": " ++ e.cause.message)
  | .rename => .storage ("Failed to replace " ++ path ++ ": " ++ e.cause.message)

/-- Makes a map of sealed secrets that of the store, once the file holds it. -/
def commit (s : SecretStore) (fs : Files) (secrets : Dict String)
    (faults : ReplaceFaults := {}) : Result SecretStore × Files :=
  match s.path with
  | none => (.ok { s with secrets }, fs)
  | some path => match fs.replace path (fileText secrets) faults with
    | (.error e, fs) => (.error (replaceError path e), fs)
    | (.ok _, fs) => (.ok { s with secrets }, fs)

def keyOf (systemId category name : String) : Result SecretKey :=
  match SecretKey.make systemId category name with
  | .ok k => .ok k
  | .error p => .error (.validation p.message)

/-- Stores a secret, sealed under a nonce, in place of an older one. -/
def set (s : SecretStore) (fs : Files) (nonce : List UInt8)
    (systemId category name secret : String) (faults : ReplaceFaults := {}) :
    Result SecretStore × Files :=
  match keyOf systemId category name with
  | .error e => (.error e, fs)
  | .ok k => s.commit fs (s.secrets.insert k.text (s.encryptor.encrypt nonce secret)) faults

def get? (s : SecretStore) (systemId category name : String) : Result (Option String) := do
  let k ← keyOf systemId category name
  match s.secrets.get? k.text with
  | none => pure none
  | some text => pure (some (← s.encryptor.decrypt text))

def delete (s : SecretStore) (fs : Files) (systemId category name : String)
    (faults : ReplaceFaults := {}) : Result (Bool × SecretStore) × Files :=
  match keyOf systemId category name with
  | .error e => (.error e, fs)
  | .ok k =>
    if s.secrets.contains k.text then
      match s.commit fs (s.secrets.erase k.text) faults with
      | (.error e, fs) => (.error e, fs)
      | (.ok s, fs) => (.ok (true, s), fs)
    else (.ok (false, s), fs)

/-- The texts of the keys that start with a text, in ascending order. -/
def keys (s : SecretStore) (start : String) : List String :=
  s.secrets.keys.filter fun k => Text.startsWith k start

/-- The entries whose keys start with a text: a stretch of the map, as its keys ascend. -/
def stretch (secrets : Dict String) (start : String) : Dict String :=
  (secrets.dropWhile fun p => p.1 < start).takeWhile fun p => Text.startsWith p.1 start

/-- The secrets of one category of a system, by name. The error is that of the first one, in the
order of the keys, that cannot be opened. -/
def category (s : SecretStore) (systemId category : String) : Result (Dict String) :=
  let start := SecretKey.start systemId category
  (stretch s.secrets start).mapM fun p => do
    let secret ← s.encryptor.decrypt p.2
    pure (Text.dropStart p.1 start, secret)

end SecretStore
end Interchange
