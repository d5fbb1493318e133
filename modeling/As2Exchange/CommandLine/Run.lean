import As2Exchange.CommandLine.Basic
import As2Exchange.Sender.Choice
import As2Exchange.Send.Basic

/-!
# Runs of the command line

A run loads the configuration, sends the file and prints the summary of the response. Its exit code
tells whether the response has a failure.

- `run` performs a command line;
- `Ending` says how a run ends, with its exit code and what it prints.
-/

namespace As2Exchange.CommandLine

/-! ## Endings -/

inductive Ending where
  | help
  | usage (e : UsageError)
  | noSettings
  | answered (response : Response)
  /-- A failure that is not part of a response. -/
  | failed (failure : Failure)

/-- From which level on events are logged. -/
inductive LogLevel where
  | warning
  | debug
  deriving DecidableEq, Repr

def LogLevel.name : LogLevel → String
  | .warning => "WARNING"
  | .debug => "DEBUG"

/-- Whether the character can stand among the parameters of a terminal sequence. -/
def isTerminalParameter (c : Char) : Bool := c = ';' || c = '?' || c.isDigit

/-- Leaves out terminal sequences, each of which is an escape, a bracket, parameters and a letter.
`held` is the start of one, last character first. -/
def withoutSequences (held : List Char) : List Char → List Char
  | [] => held.reverse
  | c :: rest =>
    -- an escape within a sequence starts another one, and the first is kept as text
    if c = '\x1b' then held.reverse ++ withoutSequences [c] rest
    else
      match held with
      | [] => c :: withoutSequences [] rest
      | [escape] =>
        if c = '[' then withoutSequences [c, escape] rest
        else escape :: c :: withoutSequences [] rest
      | _ =>
        if isTerminalParameter c then withoutSequences (c :: held) rest
        else if c.isAlpha then withoutSequences [] rest
        else held.reverse ++ c :: withoutSequences [] rest

def printed (line : String) : String :=
  String.ofList (withoutSequences [] line.toList) ++ "\n"

namespace Ending

/-- How to use the command line. -/
def usageText : String :=
  "Usage: as2exchange send [--content-type TYPE] [--subject TEXT] [--config FILE] [--sender NAME]"
    ++ " [-v | --verbose] PATH\n"

/-- The exit code. A request to stop has a code of its own. -/
def exitCode : Ending → Nat
  | help => 0
  | usage _ | noSettings => 2
  | answered response => if response.failure.isSome then 1 else 0
  | failed (.foreign f) =>
    if f.name = "KeyboardInterrupt" then 130
    else if f.name = "SystemExit" && f.text.isNone then 0
    else 1
  | failed _ => 1

/-- What is printed. A request to exit prints its text. -/
def output : Ending → String
  | help => usageText
  | answered response => printed response.summary
  | failed (.foreign ⟨_, "SystemExit", some text⟩) => text ++ "\n"
  | _ => ""

def errorOutput : Ending → String
  | usage e => usageText ++ e.message ++ "\n"
  | noSettings => printed "No client settings configured"
  | _ => ""

end Ending

/-! ## Runs -/

structure Run where
  ending : Ending
  /-- The level of logging; none if the command was not started. -/
  logLevel : Option LogLevel := none
  posts : List Post := []
  kept : List Message := []

/-- What has to be there before the file is sent: settings and a sender. -/
def prepare (surroundings : Surroundings) (command : SendCommand) :
    Except Ending (Settings × Backend) :=
  match Config.load surroundings (command.config.map toString) with
  | .error failure => .error (.failed failure)
  | .ok config =>
    match config.settings with
    | none => .error .noSettings
    | some settings =>
      match Backend.choose surroundings command.sender (some config) with
      | .error failure => .error (.failed failure)
      | .ok backend => .ok (settings, backend)

section

variable [Codecs] [Mime.Nesting] [Template.Objects]

def runSend (surroundings : Surroundings) (command : SendCommand) (supply : Supply) : Run :=
  let logLevel := some (if command.verbose then .debug else .warning)
  match prepare surroundings command with
  | .error ending => { ending, logLevel }
  | .ok (settings, backend) =>
    let draft := .ofRequest command.request surroundings.files
    let outcome := send surroundings backend.sender { settings, draft } supply
    { ending := match outcome.response with
        | .ok response => .answered response
        | .error failure => .failed failure
      logLevel
      posts := outcome.posts
      kept := outcome.kept }

/-- Performs a command line. -/
def run (surroundings : Surroundings) (arguments : List String) (supply : Supply) : Run :=
  match Asked.read arguments with
  | .error (.usage e) => { ending := .usage e }
  | .error (.name e) => { ending := .failed (.file e) }
  | .ok .help => { ending := .help }
  | .ok (.send command) => runSend surroundings command supply

end

end As2Exchange.CommandLine
