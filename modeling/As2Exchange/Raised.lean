/-!
# Exceptions of other libraries

An exception of another library is known by its kind, by the kinds above its own and by its text. A
handler for a kind takes the exceptions of that kind and of all kinds below it.
-/

namespace As2Exchange

/-- An exception of another library. It is an ordinary failure: it does not ask the program to stop,
and it is none of the exchange. -/
structure Raised where
  kind : String
  above : List String := []
  text : String := ""
  deriving DecidableEq, Repr

/-- Whether a handler for a kind takes the exception. -/
def Raised.is (e : Raised) (kind : String) : Bool := e.kind = kind || e.above.contains kind

end As2Exchange
