import As2Exchange.KeyStore.File
import As2Exchange.Raised
import As2Exchange.Value.Basic

/-!
# Records of key stores

A key store can be described by a record: its password, the alias of its own certificate, the common
names of key and certificate, and pairs of alias and common name for further certificates. What is
absent is empty.

- `KeyFile.ofRecord` is the content of the store;
- `KeyFile.openRecord` opens it with a password.
-/

namespace As2Exchange

def Value.textField? (record : Value) (name : String) : Option String :=
  match record.field? name with
  | some (.text s) => some s
  | _ => none

namespace KeyFile

/-- A further certificate: a pair of alias and common name. -/
def ofPair? : Value → Option (FriendlyName × Credential)
  | .list [.text label, .text name] => some (.ofText label, ⟨name⟩)
  | .list [.null, .text name] => some ({}, ⟨name⟩)
  | _ => none

/-- The key store that a record describes. -/
def ofRecord (record : Value) : KeyFile where
  ownAlias := .ofText ((record.textField? "alias").getD "")
  key := (record.textField? "key").map Credential.mk
  certificate := (record.textField? "cert").map Credential.mk
  additional := match record.field? "additional" with
    | some (.list pairs) => pairs.filterMap ofPair?
    | _ => []

/-- A value that a library does not take. -/
def refused (text : String) : Raised := ⟨"ValueError", ["Exception"], text⟩

/-- Opens the store that a record describes. Only its own password does so; a store with an empty
password opens without one. What is no record is no store. -/
def openRecord (record : Value) (password : Option Bytes) : Except Raised KeyFile :=
  match record with
  | .mapping _ =>
    let due := (record.textField? "password").getD ""
    if password.getD [] = Charset.Utf8.encode due.toList then .ok (ofRecord record)
    else .error (refused "Invalid password or PKCS12 data")
  | _ => .error (refused "Could not deserialize PKCS12 data")

end KeyFile

end As2Exchange
