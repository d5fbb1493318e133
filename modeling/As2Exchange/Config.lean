import As2Exchange.Settings
import As2Exchange.Surroundings
import As2Exchange.Yaml.Content

/-!
# Configurations

A configuration file holds the settings of an exchange and says which sender to use.

- `Config.check` checks a configuration;
- `Config.load` finds and reads the file. A missing file is an empty configuration, and a password
  in the environment takes the place of the one in the file. It is put in before any check, and in
  place, so it is seen from wherever the file refers to the settings.
-/

namespace As2Exchange

/-! ## Parts -/

/-- Which sender to use, and how long it waits. -/
structure SenderConfig where
  backend : String := "http"
  timeout : Double := (Double.ofInt? 60).getD (Double.zero false)
  deriving DecidableEq, Repr

namespace SenderConfig

/-- The names of the senders. -/
def backends : List String := ["http", "loopback"]

/-- Checks the name of a sender. -/
def checkBackend : Value → Checked String
  | .text name =>
    if backends.contains name then .valid name else .expected (.choice "'http' or 'loopback'")
  | _ => .expected (.choice "'http' or 'loopback'")

def check (v : Value) : Checked SenderConfig :=
  let default : SenderConfig := {}
  SenderConfig.mk
    <$> Check.withDefault v "backend" default.backend checkBackend
    <*> Check.withDefault v "timeout" default.timeout Check.number

end SenderConfig

/-- A whole configuration. -/
structure Config where
  settings : Option Settings := none
  sender : SenderConfig := {}

namespace Config

/-- Checks settings that may be absent. -/
def checkSettings : Value → Checked (Option Settings)
  | .null => .valid none
  | v => (Check.model "ClientSettings" Settings.check v).map some

def check (v : Value) : Checked Config :=
  Config.mk
    <$> Check.withDefault v "settings" none checkSettings
    <*> Check.withDefault v "sender" {} (Check.model "SenderConfig" SenderConfig.check)

/-! ## Reading -/

/-- Every line end made a newline. -/
def unifyLineEnds : List Char → List Char
  | '\r' :: '\n' :: rest => '\n' :: unifyLineEnds rest
  | '\r' :: rest => '\n' :: unifyLineEnds rest
  | c :: rest => c :: unifyLineEnds rest
  | [] => []

/-- The text of a configuration file. A sequence that the end of the file cuts off is told without
what stands before it. -/
def decodeText (bytes : Bytes) : Except ConfigError (List Char) :=
  match Charset.Utf8.decodeStrict bytes with
  | .ok cs => .ok (unifyLineEnds cs)
  | .error broken =>
    let place := if broken.fault = .endOfData then 0 else broken.start
    .error (.undecodable place broken.bytes broken.fault)

/-- The document that a configuration file holds. -/
def readDocument (bytes : Bytes) : Except ConfigError Document := do
  Yaml.readText (← decodeText bytes)

/-- The value of a document as far as it is looked at: the configuration, its parts, their fields,
and whether a field that is a collection has any entries. -/
def seen (d : Document) : Value := d.tree 3 d.root

/-- The environment variable that names the configuration file. -/
def pathVariable : String := "AS2CLIENT_CONFIG"

/-- The environment variable that holds the password of the key store. -/
def passwordVariable : String := "AS2CLIENT_KEYSTORE_PASSWORD"

/-- The configuration file where none is named. -/
def defaultPath : String := "as2client.yaml"

/-- The name of the configuration file. -/
def pathOf (surroundings : Surroundings) (path? : Option String) : String :=
  match Message.given? path? with
  | some path => path
  | none => (surroundings.lookup? pathVariable).getD defaultPath

/-- The document of the configuration; a missing file and an empty one stand for no entries. -/
def documentAt (surroundings : Surroundings) (path : String) : Except Failure Document :=
  if surroundings.files.contains path then
    match surroundings.files.read path with
    | .error e => .error (.file e)
    | .ok data =>
      match readDocument data with
      | .error e => .error (.config e)
      | .ok d => .ok (if (seen d).isTrue then d else .empty)
  else .ok .empty

/-- Puts a password into settings. What is no mapping cannot take one. -/
def putPassword (password : String) (settings : Item) (d : Document) : Except Failure Document :=
  match d.tree 1 settings with
  | .mapping _ => .ok (d.setMember settings "key_store_password" (.plain (.text password)))
  | .list _ => .error (.misuse .notIndexable)
  | v => .error (.misuse (.notAssignable v.fullKind))

/-- The configuration with a password in the place of the one in its settings, if it has any. -/
def overridePassword (password : String) (d : Document) : Except Failure Document :=
  match seen d with
  | .mapping _ =>
    match d.member? d.root "settings" with
    | none => .ok d
    | some settings =>
      if (d.tree 1 settings).isTrue then putPassword password settings d else .ok d
  | v => .error (.misuse (.noMember v.fullKind "get"))

/-- Checks the entries of a configuration, whose names must be texts. -/
def ofValue (v : Value) : Except Failure Config :=
  match v with
  | .mapping entries =>
    if entries.all fun entry => match entry.1 with
      | .text _ => true
      | _ => false
    then
      match (check v).result with
      | .ok config => .ok config
      | .error issues => .error (.invalid issues)
    else .error (.misuse .namesNotText)
  | v => .error (.misuse (.notArguments v.fullKind))

/-- Finds and reads the configuration file. -/
def load (surroundings : Surroundings) (path? : Option String) : Except Failure Config := do
  let d ← documentAt surroundings (pathOf surroundings path?)
  match surroundings.lookup? passwordVariable with
  | some password => ofValue (seen (← overridePassword password d))
  | none => ofValue (seen d)

end Config

end As2Exchange
