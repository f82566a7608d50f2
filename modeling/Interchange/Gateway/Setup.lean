import Interchange.Gateway.Basic
import Interchange.Settings.Validate
import Interchange.Transform.Load

/-! # Setting up a gateway

A gateway is made of settings and files: the master key opens the store of secrets, then the
registry is read, then the schemas. A master key that is missing is made, and stays even if a later
step fails.
-/

namespace Interchange

def MasterKey.ofSettings (s : SecuritySettings) (fs : Files) (random : List UInt8) :
    Result MasterKey × Files :=
  match s.masterKey with
  | some key => (ofText key, fs)
  | none => loadOrGenerate fs s.masterKeyPath random

def Security.ofSettings (s : SecuritySettings) (fs : Files) (random : List UInt8) :
    Result Security × Files :=
  match MasterKey.ofSettings s fs random with
  | (.error e, fs) => (.error e, fs)
  | (.ok key, fs) => (do
      let store ← SecretStore.ofFile fs s.secretsPath (.ofMasterKey key)
      match AuthKind.parse s.defaultAuthType with
      | .error tag => throw (.configuration (AuthKind.unknownMessage tag))
      | .ok kind => pure { store, defaultType := kind.tag }, fs)

def SchemaRegistry.ofSettings (s : SchemaSettings) (fs : Files) : Result (SchemaRegistry × Nat) :=
  match s.directory with
  | none => .ok ({}, 0)
  | some dir => load {} fs dir

def Gateway.ofSettings (s : Settings) (fs : Files) (random : List UInt8) (adapters : AdapterPool)
    (now : Instant) : Result Gateway × Files :=
  match s.validate with
  | .error p => (.error (.configuration p.message), fs)
  | .ok _ => match Security.ofSettings s.security fs random with
    | (.error e, files) => (.error e, files)
    | (.ok security, files) => (do
        let registry ← Registry.ofFile files s.registry.path
        let (schemas, _) ← SchemaRegistry.ofSettings s.schemas files
        s.circuitBreaker.config.validate
        pure { registry, files, security, schemas, adapters, now,
               breakers := { config := s.circuitBreaker.config } }, files)

end Interchange
