import As2Exchange.Files.Tree
import As2Exchange.KeyStore.File
import As2Exchange.Message

/-!
# Surroundings

What a run finds around it and does not change: the files, the home directories, the environment
variables, the time, and the library that opens key stores.
-/

namespace As2Exchange

structure Surroundings where
  files : FileTree
  /-- The home directory of each known user; the empty name is the user of the run. -/
  homes : List (String × PathName) := []
  environment : List (String × String) := []
  clock : Moment
  /-- Opens the key store that is written in the bytes of a file, with a password or without. The
  library may raise any exception; nothing is supposed of which passwords open which stores. -/
  openStore : Bytes → Option Bytes → Except Raised KeyFile

namespace Surroundings

/-- An environment variable. -/
def lookup? (surroundings : Surroundings) (name : String) : Option String :=
  surroundings.environment.lookup name

def home? (surroundings : Surroundings) (user : String) : Option PathName :=
  surroundings.homes.lookup user

end Surroundings

end As2Exchange
