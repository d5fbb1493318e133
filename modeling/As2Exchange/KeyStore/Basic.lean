import As2Exchange.Surroundings
import As2Exchange.Value.Basic
import As2Exchange.Text.Case

/-!
# Key stores

A key store that has been loaded gives certificates and private keys by their aliases, in any letter
case. Loading another file replaces all that was loaded before; a failed loading changes nothing.

- `KeyStore.aliasOf` reads an alias off the name of an entry;
- `KeyStore.ofFile` is what a store file gives, if all its names are texts;
- `KeyStore.load` finds, reads and opens a store file;
- `KeyStore.certificate` and `KeyStore.privateKey` look an alias up.
-/

namespace As2Exchange

/-- Certificates and private keys under aliases in lower case. -/
structure KeyStore where
  /-- The file that was loaded last. -/
  file : Option PathName := none
  certificates : List (String × Credential) := []
  privateKeys : List (String × Credential) := []
  deriving DecidableEq, Repr

namespace KeyStore

/-! ## Loading -/

/-- The alias that a name stands for: its text in lower case. -/
def aliasOf (name : FriendlyName) : Except Failure String :=
  match Charset.Utf8.decodeStrict name.bytes with
  | .ok text => .ok (Text.lower (String.ofList text))
  | .error broken => .error (.charset (.undecodable broken.start broken.bytes broken.fault))

/-- An entry of a store file under its alias. -/
def underAlias (entry : FriendlyName × Credential) : Except Failure (String × Credential) := do
  return (← aliasOf entry.1, entry.2)

/-- The certificates of a store file under their aliases; the first name that is no text decides
the failure. -/
def certificatesOf (file : KeyFile) : Except Failure (List (String × Credential)) :=
  file.entries.mapM underAlias

/-- The private key of a store file, under the alias of its own certificate. -/
def privateKeysOf (file : KeyFile) : Except Failure (List (String × Credential)) :=
  match file.ownCertificate?, file.key with
  | some _, some key => do return [← underAlias (file.ownAlias, key)]
  | _, _ => .ok []

def ofFile (path : PathName) (file : KeyFile) : Except Failure KeyStore := do
  return ⟨some path, ← certificatesOf file, ← privateKeysOf file⟩

def pathOf : Value → Except Failure PathName
  | .text s => .ok (PathName.ofString s)
  | .path p => .ok p
  | v => .error (.misuse (.notPathLike v.fullKind))

/-- The bytes of the password that a value stands for; what does not count as given is none. -/
def passwordOf (v : Value) : Except Failure (Option Bytes) :=
  if v.isTrue then
    match v with
    | .text s => .ok (some (Charset.Utf8.encode s.toList))
    | v => .error (.misuse (.noMember v.fullKind "encode"))
  else .ok none

/-- Where a store file is looked for: home directories are expanded, and other relative names are
seen from the working directory, which must be there. -/
def locate (surroundings : Surroundings) (path : PathName) : Except Failure PathName :=
  -- users cannot be asked for by a name that holds a NUL
  if path.homeUser?.any fun user => user.toList.contains '\x00' then .error (.file .nulInName)
  else
    match path.expandHome? surroundings.home? with
    | none => .error .unknownHome
    | some path =>
      if path.isAbsolute then .ok path
      else if surroundings.files.isDetached then .error (.file .noWorkingDirectory)
      else .ok (path.below surroundings.files.workingDirectory)

def readFile (surroundings : Surroundings) (path : PathName) : Except Failure Bytes :=
  match surroundings.files.read (toString path) with
  | .ok data => .ok data
  | .error .nulInName => .error (.file .nulInName)
  | .error cause => .error (.component (.unreadKeyStore path cause))

/-- Opens the store in the bytes of a file. A value or a type that the library does not take is told
as a failure of the component, all its other exceptions pass as they are. -/
def openFile (surroundings : Surroundings) (path : PathName) (data : Bytes)
    (password : Option Bytes) : Except Failure KeyFile :=
  match surroundings.openStore data password with
  | .ok file => .ok file
  | .error e =>
    if e.is "TypeError" || e.is "ValueError" then .error (.component (.unopenedKeyStore path e))
    else .error (.raised e)

/-- Finds, reads and opens a store file. -/
def load (surroundings : Surroundings) (path password : Value) : Except Failure KeyStore := do
  let path ← locate surroundings (← pathOf path)
  -- the file is read before the password is looked at
  let data ← readFile surroundings path
  let password ← passwordOf password
  ofFile path (← openFile surroundings path data password)

/-- A store after an attempt to load another file: replaced if it succeeds, else as before. -/
def reload (store : KeyStore) (surroundings : Surroundings) (path password : Value) :
    KeyStore × Option Failure :=
  match load surroundings path password with
  | .ok store => (store, none)
  | .error failure => (store, some failure)

/-! ## Lookup -/

/-- The last credential under an alias. -/
def find? (credentials : List (String × Credential)) (name : String) : Option Credential :=
  credentials.reverse.lookup (Text.lower name)

def certificate (store : KeyStore) (name : String) : Except CredentialError Credential :=
  match find? store.certificates name with
  | some certificate => .ok certificate
  | none => .error (.noCertificate name)

def privateKey (store : KeyStore) (name : String) : Except CredentialError Credential :=
  match find? store.privateKeys name with
  | some key => .ok key
  | none => .error (.noKey name)

end KeyStore

end As2Exchange
