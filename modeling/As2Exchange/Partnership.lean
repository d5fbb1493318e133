import As2Exchange.Validation.Check

/-!
# Partnerships

What two trading partners have agreed on: the identifiers of the sender and of the receiver, and the
attributes of their exchange. An entry may be present without a value.

- `Entries` are named entries in the order in which they were first given;
- `Partnership.fillFrom` completes a partnership from another one without changing what it has.
-/

namespace As2Exchange

/-! ## Entries -/

/-- Named entries, each name once, in the order in which the names were first given. -/
abbrev Entries := List (String × Option String)

namespace Entries

/-- The value under a name, if the name is there and has one. -/
def value? (entries : Entries) (name : String) : Option String := (entries.lookup name).join

/-- Whether the name is there, with or without a value. -/
def has (entries : Entries) (name : String) : Bool := (entries.lookup name).isSome

/-- Gives a name a value: in its place if the name is there, else at the end. -/
def set (entries : Entries) (name : String) (value : Option String) : Entries :=
  if entries.has name then
    entries.map fun entry => if entry.1 = name then (name, value) else entry
  else entries ++ [(name, value)]

/-- Adds an entry unless its name is there. -/
def setDefault (entries : Entries) (entry : String × Option String) : Entries :=
  if entries.has entry.1 then entries else entries ++ [entry]

/-- Adds the entries of another list whose names are not there. -/
def fillFrom (entries source : Entries) : Entries := source.foldl setDefault entries

/-- The entries of a list with repeated names: each name once, with its last value. -/
def ofList (entries : Entries) : Entries :=
  entries.foldl (fun done entry => done.set entry.1 entry.2) []

end Entries

/-! ## Names of entries -/

namespace Key

/-- The identifier of a partner. -/
def as2Id : String := "as2_id"

/-- The alias of a partner's certificate. -/
def keyAlias : String := "x509_alias"

/-- The mail address of a partner. -/
def email : String := "email"

def protocol : String := "protocol"

/-- The address to which messages are posted. -/
def url : String := "as2_url"

/-- The algorithm for encryption. -/
def encrypt : String := "encrypt"

def sign : String := "sign"

/-- The options under which a receipt is asked for. -/
def receiptOptions : String := "as2_mdn_options"

def receiptAddress : String := "as2_receipt_option"

/-- The template of message ids. -/
def messageIdFormat : String := "messageid_format"

end Key

/-! ## Partnerships -/

/-- The agreement between a sender and a receiver. -/
structure Partnership where
  name : String
  senderIds : Entries := []
  receiverIds : Entries := []
  attributes : Entries := []
  deriving DecidableEq, Repr

namespace Partnership

def senderId? (p : Partnership) (key : String) : Option String := p.senderIds.value? key

def receiverId? (p : Partnership) (key : String) : Option String := p.receiverIds.value? key

def attribute? (p : Partnership) (key : String) : Option String := p.attributes.value? key

/-- Completes the identifiers and attributes from another partnership; entries that are there stay
as they are, with or without a value. -/
def fillFrom (p source : Partnership) : Partnership :=
  { p with
    senderIds := p.senderIds.fillFrom source.senderIds
    receiverIds := p.receiverIds.fillFrom source.receiverIds
    attributes := p.attributes.fillFrom source.attributes }

/-- The three lists of entries. -/
inductive Section where
  | senderIds
  | receiverIds
  | attributes
  deriving DecidableEq, Repr

def Section.all : List Section := [senderIds, receiverIds, attributes]

/-- One of the lists. -/
def part (p : Partnership) : Section → Entries
  | .senderIds => p.senderIds
  | .receiverIds => p.receiverIds
  | .attributes => p.attributes

/-- Changes one of the lists. -/
def modify (p : Partnership) (part : Section) (f : Entries → Entries) : Partnership :=
  match part with
  | .senderIds => { p with senderIds := f p.senderIds }
  | .receiverIds => { p with receiverIds := f p.receiverIds }
  | .attributes => { p with attributes := f p.attributes }

/-- Sets an entry in one of the lists. -/
def set (p : Partnership) (part : Section) (key : String) (value : Option String) : Partnership :=
  match part with
  | .senderIds => { p with senderIds := p.senderIds.set key value }
  | .receiverIds => { p with receiverIds := p.receiverIds.set key value }
  | .attributes => { p with attributes := p.attributes.set key value }

def checkEntries (v : Value) : Checked Entries :=
  (Check.dictionary Check.optionalText v).map Entries.ofList

def check (v : Value) : Checked Partnership :=
  Partnership.mk
    <$> Check.required v "name" Check.text
    <*> Check.withDefault v "sender_ids" [] checkEntries
    <*> Check.withDefault v "receiver_ids" [] checkEntries
    <*> Check.withDefault v "attributes" [] checkEntries

end Partnership

end As2Exchange
