import As2Exchange.Failure
import As2Exchange.Decimal.Double
import As2Exchange.Text.Case

/-!
# Network

What posting a message meets: for each post either an answer of the partner or a failure of the
transport. The replies still to come are a list; when it is used up, an empty answer comes.
-/

namespace As2Exchange

structure Answer where
  status : Int := 200
  reason : String := "OK"
  headers : List (String × String) := []
  body : Bytes := []
  deriving DecidableEq, Repr

/-- What a post meets. -/
inductive Reply where
  | answer (answer : Answer)
  | failure (cause : Foreign)
  deriving DecidableEq, Repr

/-- The replies to the posts still to come. -/
abbrev Network := List Reply

namespace Network

/-- The reply to the next post, and the replies after it. -/
def next : Network → Reply × Network
  | [] => (.answer {}, [])
  | reply :: rest => (reply, rest)

end Network

namespace Answer

/-- A header by its name in any letter case; the last one of several counts. -/
def header? (answer : Answer) (name : String) : Option String :=
  (answer.headers.reverse.find? fun header => Text.lower header.1 = Text.lower name).map (·.2)

/-- The failure that a status reports: those from 400 to 599 do. -/
def failure? (answer : Answer) (url : String) : Option PostError :=
  if 400 ≤ answer.status && answer.status < 600 then
    some (.status answer.status answer.reason url)
  else none

end Answer

structure Post where
  url : String
  data : Bytes
  headers : List (String × String)
  timeout : Double
  deriving DecidableEq, Repr

end As2Exchange
