import As2Exchange.Charset.Utf8

/-!
# Key store files

What a key store holds: perhaps a private key, perhaps its own certificate, and further
certificates, each under a name. Certificates and keys are known by their common names. How a store
is written in its file, and which passwords open it, is left to a library of its own.

- `FriendlyName` is the name of an entry: bytes that need not be a text;
- `KeyFile.ownCertificate?` and `KeyFile.others` are what a reader finds in it, and
  `KeyFile.entries` are both together.
-/

namespace As2Exchange

/-- A certificate or a private key, known by its common name. -/
structure Credential where
  commonName : String
  deriving DecidableEq, Repr

/-- The name that a store gives to one of its entries. -/
structure FriendlyName where
  bytes : Bytes := []
  deriving DecidableEq, Repr

/-- A text as a name. -/
def FriendlyName.ofText (text : String) : FriendlyName := ⟨Charset.Utf8.encode text.toList⟩

instance : Coe String FriendlyName := ⟨FriendlyName.ofText⟩

/-- The content of a key store. An absent name is the empty name. -/
structure KeyFile where
  /-- The name of its own certificate and key. -/
  ownAlias : FriendlyName := {}
  key : Option Credential := none
  certificate : Option Credential := none
  additional : List (FriendlyName × Credential) := []
  deriving DecidableEq, Repr

namespace KeyFile

/-- The store's own certificate: the one that goes with the private key. -/
def ownCertificate? (file : KeyFile) : Option Credential :=
  if file.key.isSome then file.certificate else none

/-- The certificates besides the store's own one; a certificate without a key comes first. -/
def others (file : KeyFile) : List (FriendlyName × Credential) :=
  match file.key, file.certificate with
  | none, some certificate => (file.ownAlias, certificate) :: file.additional
  | _, _ => file.additional

/-- The certificates of the store, its own one first. -/
def entries (file : KeyFile) : List (FriendlyName × Credential) :=
  (file.ownCertificate?.toList.map fun certificate => (file.ownAlias, certificate)) ++ file.others

end KeyFile

end As2Exchange
