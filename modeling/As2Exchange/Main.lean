import As2Exchange.CommandLine.Run
import As2Exchange.KeyStore.Record
import Std.Time.DateTime.Timestamp

/-!
# The program

Runs the command line on the files, the environment and the clock of the machine. Key stores are
files that hold a record of what is in them. There is no transport: a post meets a failed
connection, so files go out through the loopback sender only.
-/

namespace As2Exchange.Main

open As2Exchange.CommandLine

/-- Adds what the machine has under a name to a tree. -/
def copyFile (tree : FileTree) (name : String) : IO FileTree := do
  try
    let data ← IO.FS.readBinFile name
    return tree.put name (.file data.toList)
  catch e =>
    match e with
    | .inappropriateType .. => return tree.put name .directory
    | _ => return tree

/-- Opens the key store whose record a file holds. -/
def openStore (data : Bytes) (password : Option Bytes) : Except Raised KeyFile :=
  match Config.seen <$> Config.readDocument data with
  | .ok record => KeyFile.openRecord record password
  | .error _ => KeyFile.openRecord .null password

/-- The environment variables that matter, as far as they are set. -/
def readVariables : IO (List (String × String)) := do
  let names := [Config.pathVariable, Config.passwordVariable, Backend.nameVariable]
  names.filterMapM fun name => do return (← IO.getEnv name).map fun value => (name, value)

/-- What surrounds the run, without files. -/
def emptySurroundings : IO Surroundings := do
  let home ← IO.getEnv "HOME"
  let now ← Std.Time.Timestamp.now
  return {
    files := .empty (PathName.ofString (← IO.currentDir).toString)
    homes := home.toList.map fun home => ("", PathName.ofString home)
    environment := ← readVariables
    clock := .ofSeconds now.toSecondsSinceUnixEpoch.val.toNat
    openStore := openStore }

/-- Adds the files that a command needs: the configuration, the file to send and the key store. -/
def addFiles (surroundings : Surroundings) (command : SendCommand) : IO Surroundings := do
  let files ← copyFile surroundings.files
    (Config.pathOf surroundings (command.config.map toString))
  let files ← copyFile files (toString command.path)
  let surroundings := { surroundings with files }
  match prepare surroundings command with
  | .error _ => return surroundings
  | .ok (settings, _) =>
    let place := KeyStore.pathOf settings.keyStorePath >>= KeyStore.locate surroundings
    match place with
    | .error _ => return surroundings
    | .ok place => return { surroundings with files := ← copyFile files (toString place) }

/-- A supply with a random number for the message id. -/
def randomSupply : IO Supply := do
  let bytes ← IO.getRandomBytes 16
  return {
    unique := bytes.toList.foldl (fun n byte => n * 256 + byte.toNat) 0
    network := [.failure ⟨.transport, "ConnectionError", some "no transport"⟩] }

/-- Performs a command line. The charsets that are written out, the kinds of texts and a thousand
levels of entities are all that there is. -/
def perform : Surroundings → List String → Supply → Run :=
  @run Codecs.empty Mime.Nesting.thousand Template.Objects.kinds

/-- What is told of a failure that is not part of a response. -/
def escapeLine : Ending → String
  | .failed failure => failure.kind ++ ": " ++ failure.message ++ "\n"
  | _ => ""

/-- Prints the ending of a run; the result is the exit code. -/
def report (ending : Ending) : IO UInt32 := do
  IO.print ending.output
  IO.eprint (ending.errorOutput ++ escapeLine ending)
  return UInt32.ofNat ending.exitCode

end As2Exchange.Main

open As2Exchange in
/-- Runs the command line with the given arguments. -/
def main (arguments : List String) : IO UInt32 := do
  let surroundings ← Main.emptySurroundings
  let surroundings ← match CommandLine.Asked.read arguments with
    | .ok (.send command) => Main.addFiles surroundings command
    | _ => pure surroundings
  let run := Main.perform surroundings arguments (← Main.randomSupply)
  Main.report run.ending
