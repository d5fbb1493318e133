import As2Exchange.Bytes

/-!
# Lines

The lines of a mail body. A line ends with a carriage return, a newline or both in this order, and
keeps its ending; the last line may have none.
-/

namespace As2Exchange.Mime

abbrev Line := Bytes

/-- Whether the byte is a carriage return or a newline. -/
def isLineEnd (b : UInt8) : Bool := b = 0x0D || b = 0x0A

/-- Cuts bytes into lines; `line` holds the line under way, reversed. -/
def linesFrom (line : Bytes) : Bytes → List Line
  | [] => if line.isEmpty then [] else [line.reverse]
  | 0x0D :: 0x0A :: rest => (0x0A :: 0x0D :: line).reverse :: linesFrom [] rest
  | b :: rest =>
    if isLineEnd b then (b :: line).reverse :: linesFrom [] rest
    else linesFrom (b :: line) rest

def lines (bytes : Bytes) : List Line := linesFrom [] bytes

/-- Whether the line is empty but for its ending. -/
def isBlankLine (line : Line) : Bool :=
  match line with
  | b :: _ => isLineEnd b
  | [] => false

/-- A line without its ending. -/
def chomp (line : Line) : Bytes :=
  match line.reverse with
  | 0x0A :: 0x0D :: rest => rest.reverse
  | b :: rest => if isLineEnd b then rest.reverse else line
  | [] => []

end As2Exchange.Mime
