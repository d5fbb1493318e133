import As2Exchange.Text.Range

/-!
# Blank characters

Blanks are the white space characters of every script, together with the four information
separators and the next-line control. Trimming and splitting into words go by this class.
-/

namespace As2Exchange.Text

def blankRanges : List (Nat × Nat) :=
  [
  (0x9, 0xd), (0x1c, 0x20), (0x85, 0x85), (0xa0, 0xa0), (0x1680, 0x1680), (0x2000, 0x200a),
   (0x2028, 0x2029), (0x202f, 0x202f), (0x205f, 0x205f), (0x3000, 0x3000)]

def isBlank (c : Char) : Bool := inRanges blankRanges c.toNat

/-- Drops the characters of a class from both ends. -/
def trimBoth (drop : Char → Bool) (cs : List Char) : List Char :=
  ((cs.dropWhile drop).reverse.dropWhile drop).reverse

/-- Drops the blanks at both ends of a text. -/
def strip (text : String) : String :=
  String.ofList (trimBoth isBlank text.toList)

/-- Cuts a list of characters into the pieces between separators; `piece` holds the piece under
way, reversed. -/
def pieces (separates : Char → Bool) : List Char → List Char → List (List Char)
  | piece, [] => [piece.reverse]
  | piece, c :: rest =>
    if separates c then piece.reverse :: pieces separates [] rest
    else pieces separates (c :: piece) rest

/-- The words of a text: its longest runs without blanks. -/
def words (text : String) : List String :=
  ((pieces isBlank [] text.toList).filter (· ≠ [])).map String.ofList

/-- The text with each run of blanks made a single space and none at the ends. -/
def unfold (text : String) : String :=
  " ".intercalate (words text)

end As2Exchange.Text
