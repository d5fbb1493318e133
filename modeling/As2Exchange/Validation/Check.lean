import As2Exchange.Validation.Issue
import As2Exchange.Value.Basic
import As2Exchange.Charset.Utf8
import As2Exchange.Decimal.Numeral

/-!
# Checks of values

The checks from which the checks of records are made: what counts as a text, as a number, as a path
name or as a dictionary, and how the fields of a record are picked.
-/

namespace As2Exchange.Check

/-! ## Kinds -/

def text : Value → Checked String
  | .text s => .valid s
  | .bytes data =>
    match Charset.Utf8.decodeStrict data with
    | .ok cs => .valid (String.ofList cs)
    | .error _ => .expected .textEncoding
  | _ => .expected .text

def optionalText : Value → Checked (Option String)
  | .null => .valid none
  | v => (text v).map some

def path : Value → Checked PathName
  | .text s => .valid (PathName.ofString s)
  | .path p => .valid p
  | _ => .expected .path

/-- A number, a truth value, or a numeral. -/
def number : Value → Checked Double
  | .double d => .valid d
  | .bool b => .valid (.ofBool b)
  | .int n =>
    match Double.ofInt? n with
    | some d => .valid d
    | none => .expected .number
  | .text s => numeral s
  | .bytes data =>
    match Charset.Utf8.decodeStrict data with
    | .ok cs => numeral (String.ofList cs)
    | .error _ => .expected .numeral
  | _ => .expected .number
where
  /-- The number that a numeral writes. -/
  numeral (s : String) : Checked Double :=
    match Numeral.ofText? s with
    | some d => .valid d
    | none => .expected .numeral

/-- A dictionary from texts to values that pass a check. A later entry under the same name takes the
place of an earlier one. -/
def dictionary {α : Type} (check : Value → Checked α) : Value → Checked (List (String × α))
  | .mapping entries =>
    Checked.all <| entries.map fun entry =>
      let name := entry.1.plain
      ((check entry.2).within name).map fun a => (name, a)
  | _ => .expected .dictionary

/-! ## Fields -/

/-- The field of a record that must be there. -/
def required {α : Type} (record : Value) (name : String) (check : Value → Checked α) : Checked α :=
  (match record.field? name with
    | some v => check v
    | none => .expected .present).within name

def withDefault {α : Type} (record : Value) (name : String) (default : α)
    (check : Value → Checked α) : Checked α :=
  (match record.field? name with
    | some v => check v
    | none => .valid default).within name

/-- A record of the named model, or nothing else. -/
def model {α : Type} (name : String) (check : Value → Checked α) : Value → Checked α
  | .mapping entries => check (.mapping entries)
  | _ => .expected (.model name)

end As2Exchange.Check
