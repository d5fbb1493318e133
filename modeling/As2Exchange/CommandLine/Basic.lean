import As2Exchange.Request
import As2Exchange.Failure

/-!
# Command lines

A command line names a command, the file to send, and options. Options stand before or behind the
file, with their values behind them or after an equals sign; of several values the last one counts.

- `Words.read` parts the words of the command into options and others;
- `SendCommand` is what is asked for, `Asked.read` finds it;
- `UsageError` says what is wrong with a command line.
-/

namespace As2Exchange.CommandLine

/-! ## Options -/

/-- The options of the command. -/
inductive Switch where
  | contentType
  | subject
  | config
  | sender
  | verbose
  | help
  deriving DecidableEq, Repr

namespace Switch

def names : List (String × Switch) :=
  [("--content-type", contentType), ("--subject", subject), ("--config", config),
   ("--sender", sender), ("--verbose", verbose), ("--help", help)]

def named? (name : String) : Option Switch := names.lookup name

/-- The letter that stands for the verbose option. -/
def verboseLetter : Char := 'v'

def takesValue : Switch → Bool
  | contentType | subject | config | sender => true
  | verbose | help => false

end Switch

/-- What is wrong with a command line. -/
inductive UsageError where
  | noCommand
  | unknownCommand (name : String)
  | unknownOption (name : String)
  | noValue (option : String)
  | valueNotTaken (option : String)
  | noPath
  | tooManyWords (words : List String)
  deriving DecidableEq, Repr

def UsageError.message : UsageError → String
  | .noCommand => "Missing command."
  | .unknownCommand name => s!"No such command '{name}'."
  | .unknownOption name => "No such option: " ++ name
  | .noValue option => s!"Option '{option}' requires an argument."
  | .valueNotTaken option => s!"Option '{option}' does not take a value."
  | .noPath => "Missing argument 'PATH'."
  | .tooManyWords words => "Got unexpected extra arguments: " ++ " ".intercalate words

/-! ## Words -/

/-- What a word is by its first characters. -/
inductive WordKind where
  | endOfOptions
  /-- An option by its full name, and what stands behind an equals sign. -/
  | option (name : String) (value : Option String)
  /-- Options by their letters. -/
  | letters (letters : List Char)
  | plain
  deriving DecidableEq, Repr

/-- Parts the name of an option from a value behind an equals sign. -/
def splitValue (cs : List Char) : WordKind :=
  let name := String.ofList (cs.takeWhile (· ≠ '='))
  match cs.dropWhile (· ≠ '=') with
  | [] => .option name none
  | _ :: value => .option name (some (String.ofList value))

/-- What a word is. A single dash is no option. -/
def WordKind.ofWord (word : String) : WordKind :=
  match word.toList with
  | ['-'] => .plain
  | ['-', '-'] => .endOfOptions
  | '-' :: '-' :: name => splitValue ('-' :: '-' :: name)
  | '-' :: cs => .letters cs
  | _ => .plain

/-- The words of a command: the options with their values and the other words, in order. -/
structure Words where
  options : List (Switch × String) := []
  others : List String := []
  deriving DecidableEq, Repr

namespace Words

def addOption (words : Words) (switch : Switch) (value : String) : Words :=
  { words with options := words.options ++ [(switch, value)] }

def value? (words : Words) (switch : Switch) : Option String :=
  words.options.reverse.lookup switch

def has (words : Words) (switch : Switch) : Bool := (words.value? switch).isSome

/-- Reads the words of a command behind those that have been read. -/
def read (words : Words) : List String → Except UsageError Words
  | [] => .ok words
  | word :: rest =>
    match WordKind.ofWord word with
    | .plain => read { words with others := words.others ++ [word] } rest
    | .endOfOptions => .ok { words with others := words.others ++ rest }
    | .letters letters =>
      match letters.find? (· ≠ Switch.verboseLetter) with
      | some letter => .error (.unknownOption (String.ofList ['-', letter]))
      | none => read (words.addOption .verbose "") rest
    | .option name value =>
      match Switch.named? name with
      | none => .error (.unknownOption name)
      | some switch =>
        match switch.takesValue, value, rest with
        | true, some value, rest => read (words.addOption switch value) rest
        | true, none, value :: rest => read (words.addOption switch value) rest
        | true, none, [] => .error (.noValue name)
        | false, none, rest => read (words.addOption switch "") rest
        | false, some _, _ => .error (.valueNotTaken name)

end Words

/-! ## Commands -/

/-- What sending a file asks for. -/
structure SendCommand where
  path : PathName
  contentType : String := defaultContentType
  subject : Option String := none
  config : Option PathName := none
  sender : Option String := none
  verbose : Bool := false
  deriving DecidableEq, Repr

/-- The request of the command; without a subject the name of the file stands in. -/
def SendCommand.request (command : SendCommand) : Request where
  subject := match command.subject with
    | some subject => if subject.isEmpty then command.path.name else subject
    | none => command.path.name
  contentType := command.contentType
  payload := .file command.path

/-- Why a command is not started: the command line is wrong, or a name is that of no file. -/
inductive Refusal where
  | usage (e : UsageError)
  | name (e : FileError)
  deriving DecidableEq, Repr

/-- What a command line asks for. -/
inductive Asked where
  | help
  | send (command : SendCommand)
  deriving DecidableEq, Repr

namespace Asked

/-- Refuses a name that no file can have. -/
def checkName (name : String) : Except Refusal Unit :=
  if name.toList.contains '\x00' then .error (.name .nulInName) else .ok ()

/-- What the words of the send command ask for. Names are looked at before the number of words. -/
def ofWords (words : Words) : Except Refusal Asked := do
  if words.has .help then return .help
  checkName ((words.value? .config).getD "")
  checkName (words.others.headD "")
  match words.others with
  | [] => .error (.usage .noPath)
  | [path] =>
    return .send {
      path := PathName.ofString path
      contentType := (words.value? .contentType).getD defaultContentType
      subject := words.value? .subject
      config := (words.value? .config).map PathName.ofString
      sender := words.value? .sender
      verbose := words.has .verbose }
  | _ :: extra => .error (.usage (.tooManyWords extra))

def sendName : String := "send"

/-- Reads a command and its words. -/
def ofCommand : List String → Except Refusal Asked
  | [] => .error (.usage .noCommand)
  | name :: rest =>
    if name = sendName then
      match Words.read {} rest with
      | .ok words => ofWords words
      | .error e => .error (.usage e)
    else .error (.usage (.unknownCommand name))

/-- Reads what stands before the command, where help is the only option. -/
def readFrom (help : Bool) : List String → Except Refusal Asked
  | [] => command []
  | word :: rest =>
    match WordKind.ofWord word with
    | .plain => command (word :: rest)
    | .endOfOptions => command rest
    | .letters letters => .error (.usage (.unknownOption (String.ofList ('-' :: letters.take 1))))
    | .option name value =>
      match Switch.named? name, value with
      | some .help, none => readFrom true rest
      | some .help, some _ => .error (.usage (.valueNotTaken name))
      | _, _ => .error (.usage (.unknownOption name))
where
  /-- The command behind the options. -/
  command (words : List String) : Except Refusal Asked :=
    if help then .ok .help else ofCommand words

/-- Reads a command line. -/
def read (arguments : List String) : Except Refusal Asked := readFrom false arguments

end Asked

end As2Exchange.CommandLine
