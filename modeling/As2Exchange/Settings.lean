import As2Exchange.Partnership
import As2Exchange.Digest.Algorithm
import As2Exchange.Failure

/-!
# Settings

The static settings of an exchange with one partner.

- `Settings.check` reads them from a record and checks each field;
- `Settings.revise` puts other values in the place of fields without any check, which is why the
  fields hold unchecked values;
- `Settings.partnership` derives the partnership, where every entry is checked once more;
- `Settings.shown` writes them as a literal without the password.
-/

namespace As2Exchange

/-- The receipt options of settings that say nothing about them. -/
def defaultReceiptOptions : String :=
  "signed-receipt-protocol=optional, pkcs7-signature; " ++
    "signed-receipt-micalg=optional, sha-256"

/-- The message id format of settings that say nothing about it. -/
def defaultMessageIdFormat : String :=
  "AS2CLIENT-\x7bdate\x7d-\x7buuid\x7d@\x7bsender\x7d_\x7breceiver\x7d"

structure Settings where
  senderAs2Id : Value
  senderKeyAlias : Value
  senderEmail : Value
  receiverAs2Id : Value
  receiverKeyAlias : Value
  destinationUrl : Value
  signAlgorithm : Value := .null
  encryptAlgorithm : Value := .null
  receiptOptions : Value := .text defaultReceiptOptions
  messageIdFormat : Value := .text defaultMessageIdFormat
  keyStorePath : Value
  keyStorePassword : Value := .text ""
  partnershipName : Value := .text ""
  deriving Inhabited

namespace Settings

/-! ## Checks -/

def textField (v : Value) : Checked Value := (Check.text v).map .text

/-- A text or nothing, kept as a value. -/
def optionalTextField : Value → Checked Value
  | .null => .valid .null
  | v => textField v

/-- The name of a digest that is known, or nothing. -/
def signField (v : Value) : Checked Value :=
  (optionalTextField v).andThen fun
    | .text name =>
      if (DigestAlgorithm.ofName? name).isSome then .valid (.text name)
      else .expected (.rule ("Unsupported sign_algorithm: " ++ name))
    | v => .valid v

/-- The placeholder that makes message ids differ. -/
def uniquePlaceholder : String := "\x7buuid\x7d"

/-- A message id format that holds the placeholder for what makes ids differ. -/
def formatField (v : Value) : Checked Value :=
  (Check.text v).andThen fun format =>
    if Text.occursIn uniquePlaceholder.toList format.toList then .valid (.text format)
    else .expected (.rule ("message_id_format must contain the " ++ uniquePlaceholder ++
      " placeholder"))

/-- The name of a partnership, made of the identifiers of the partners where none is given. -/
def nameOf (v : Value) : Value :=
  match v.field? "partnership_name" with
  -- whatever counts as false is replaced, not only an empty text
  | some name => if name.isTrue then name else fallback
  | none => fallback
where
  /-- The name made of the identifiers as they are given. -/
  fallback : Value :=
    let part (name : String) := ((v.field? name).getD .null).plain
    .text (part "sender_as2_id" ++ "-" ++ part "receiver_as2_id")

def check (v : Value) : Checked Settings :=
  Settings.mk
    <$> Check.required v "sender_as2_id" textField
    <*> Check.required v "sender_key_alias" textField
    <*> Check.required v "sender_email" textField
    <*> Check.required v "receiver_as2_id" textField
    <*> Check.required v "receiver_key_alias" textField
    <*> Check.required v "destination_url" textField
    <*> Check.withDefault v "sign_algorithm" .null signField
    <*> Check.withDefault v "encrypt_algorithm" .null optionalTextField
    <*> Check.withDefault v "mdn_options" (.text defaultReceiptOptions) textField
    <*> Check.withDefault v "message_id_format" (.text defaultMessageIdFormat) formatField
    <*> Check.required v "key_store_path" (fun v => (Check.path v).map .path)
    <*> Check.withDefault v "key_store_password" (.text "") textField
    <*> (textField (nameOf v)).within "partnership_name"

/-! ## Fields by name -/

/-- The fields with their names, in order. -/
def fields (s : Settings) : List (String × Value) :=
  [("sender_as2_id", s.senderAs2Id), ("sender_key_alias", s.senderKeyAlias),
   ("sender_email", s.senderEmail), ("receiver_as2_id", s.receiverAs2Id),
   ("receiver_key_alias", s.receiverKeyAlias), ("destination_url", s.destinationUrl),
   ("sign_algorithm", s.signAlgorithm), ("encrypt_algorithm", s.encryptAlgorithm),
   ("mdn_options", s.receiptOptions), ("message_id_format", s.messageIdFormat),
   ("key_store_path", s.keyStorePath), ("key_store_password", s.keyStorePassword),
   ("partnership_name", s.partnershipName)]

/-- Puts a value in the place of a field; other names change nothing. -/
def revise (s : Settings) (change : String × Value) : Settings :=
  match change with
  | ("sender_as2_id", v) => { s with senderAs2Id := v }
  | ("sender_key_alias", v) => { s with senderKeyAlias := v }
  | ("sender_email", v) => { s with senderEmail := v }
  | ("receiver_as2_id", v) => { s with receiverAs2Id := v }
  | ("receiver_key_alias", v) => { s with receiverKeyAlias := v }
  | ("destination_url", v) => { s with destinationUrl := v }
  | ("sign_algorithm", v) => { s with signAlgorithm := v }
  | ("encrypt_algorithm", v) => { s with encryptAlgorithm := v }
  | ("mdn_options", v) => { s with receiptOptions := v }
  | ("message_id_format", v) => { s with messageIdFormat := v }
  | ("key_store_path", v) => { s with keyStorePath := v }
  | ("key_store_password", v) => { s with keyStorePassword := v }
  | ("partnership_name", v) => { s with partnershipName := v }
  | _ => s

/-- Assigning to a field is always refused. -/
def assign (_ : Settings) (field : String) : List Issue := [⟨[field], .unchanged⟩]

/-! ## Literal -/

/-- The settings as a literal; the password is left out. -/
def shown (s : Settings) : String :=
  let told := s.fields.filter fun field => field.1 ≠ "key_store_password"
  Value.enclosed "ClientSettings(" ")" (told.map fun field => field.1 ++ "=" ++ field.2.shown)

/-! ## Partnership -/

/-- Checks the values of entries under their names. -/
def entries (values : List (String × Value)) : Checked Entries :=
  Checked.all <| values.map fun entry =>
    ((Check.optionalText entry.2).within entry.1).map fun v => (entry.1, v)

def senderIds (s : Settings) : List (String × Value) :=
  [(Key.as2Id, s.senderAs2Id), (Key.keyAlias, s.senderKeyAlias), (Key.email, s.senderEmail)]

def receiverIds (s : Settings) : List (String × Value) :=
  [(Key.as2Id, s.receiverAs2Id), (Key.keyAlias, s.receiverKeyAlias)]

/-- The attributes of the exchange. Receipts are asked for at once, so no address is given for a
later one. -/
def attributes (s : Settings) : List (String × Value) :=
  [(Key.protocol, .text "as2"), (Key.url, s.destinationUrl), (Key.encrypt, s.encryptAlgorithm),
   (Key.sign, s.signAlgorithm), (Key.receiptOptions, s.receiptOptions),
   (Key.receiptAddress, .null), (Key.messageIdFormat, s.messageIdFormat)]

def partnership (s : Settings) : Except Failure Partnership :=
  let checked := Partnership.mk
    <$> (Check.text s.partnershipName).within "name"
    <*> (entries s.senderIds).within "sender_ids"
    <*> (entries s.receiverIds).within "receiver_ids"
    <*> (entries s.attributes).within "attributes"
  match checked.result with
  | .ok partnership => .ok partnership
  | .error issues => .error (.invalid issues)

end Settings

end As2Exchange
