/-!
# Issues

What a check finds wrong with a value: where the value stands, and what was expected there. Checks
collect issues, so all that is wrong is told at once and in the order of the fields.

- `Issue` is one finding, with its code and its wording;
- `Checked` is a checked value or the list of the issues.
-/

namespace As2Exchange

/-- What was expected of a value. -/
inductive Expectation where
  | present
  | text
  | textEncoding
  | bytes
  | path
  | dictionary
  | model (name : String)
  | number
  | numeral
  | choice (options : String)
  | unchanged
  /-- A rule of its own, which tells its refusal. -/
  | rule (refusal : String)
  deriving DecidableEq, Repr

def Expectation.code : Expectation → String
  | .present => "missing"
  | .text => "string_type"
  | .textEncoding => "string_unicode"
  | .bytes => "bytes_type"
  | .path => "path_type"
  | .dictionary => "dict_type"
  | .model _ => "model_type"
  | .number => "float_type"
  | .numeral => "float_parsing"
  | .choice _ => "literal_error"
  | .unchanged => "frozen_instance"
  | .rule _ => "value_error"

/-- The wording for an expectation that is not met. -/
def Expectation.message : Expectation → String
  | .present => "Field required"
  | .text => "Input should be a valid string"
  | .textEncoding =>
    "Input should be a valid string, unable to parse raw data as a unicode string"
  | .bytes => "Input should be a valid bytes"
  | .path => "Input is not a valid path for <class 'pathlib.Path'>"
  | .dictionary => "Input should be a valid dictionary"
  | .model name => "Input should be a valid dictionary or instance of " ++ name
  | .number => "Input should be a valid number"
  | .numeral => "Input should be a valid number, unable to parse string as a number"
  | .choice options => "Input should be " ++ options
  | .unchanged => "Instance is frozen"
  | .rule refusal => "Value error, " ++ refusal

/-- One finding: the place of the value, from the outside, and what was expected of it. -/
structure Issue where
  location : List String
  expectation : Expectation
  deriving DecidableEq, Repr

/-- The finding as seen from further outside. -/
def Issue.within (outer : String) (issue : Issue) : Issue :=
  { issue with location := outer :: issue.location }

/-! ## Checked values -/

/-- A value that passed its checks, or the issues that were found. -/
structure Checked (α : Type) where
  result : Except (List Issue) α

namespace Checked

variable {α β : Type}

/-- A value without issues. -/
def valid (a : α) : Checked α := ⟨.ok a⟩

/-- A single issue at the place itself. -/
def expected (expectation : Expectation) : Checked α := ⟨.error [⟨[], expectation⟩]⟩

/-- The issues of a check; none if it passed. -/
def issues (c : Checked α) : List Issue :=
  match c.result with
  | .ok _ => []
  | .error issues => issues

/-- Changes a value that passed. -/
def map (f : α → β) (c : Checked α) : Checked β :=
  ⟨match c.result with
    | .ok a => .ok (f a)
    | .error issues => .error issues⟩

/-- Joins two checks and collects the issues of both. -/
def ap (f : Checked (α → β)) (c : Checked α) : Checked β :=
  ⟨match f.result, c.result with
    | .ok f, .ok a => .ok (f a)
    | .ok _, .error issues => .error issues
    | .error issues, .ok _ => .error issues
    | .error first, .error second => .error (first ++ second)⟩

instance : Applicative Checked where
  pure := valid
  map := map
  seq f c := ap f (c ())

/-- A further check of a value that passed. -/
def andThen (c : Checked α) (check : α → Checked β) : Checked β :=
  match c.result with
  | .ok a => check a
  | .error issues => ⟨.error issues⟩

/-- The check of a value that stands under a name. -/
def within (outer : String) (c : Checked α) : Checked α :=
  ⟨match c.result with
    | .ok a => .ok a
    | .error issues => .error (issues.map (Issue.within outer))⟩

/-- Checks that all pass, or the issues of all. -/
def all : List (Checked α) → Checked (List α)
  | [] => valid []
  | c :: rest => ap (map (· :: ·) c) (all rest)

end Checked

end As2Exchange
