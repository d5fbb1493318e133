import As2Exchange.Text.Range
import As2Exchange.Text.CaseTable

/-!
# Lower case

`lower` maps every letter of a text to its lower-case form. Two letters need more than a table:

- a capital I with a dot becomes an `i` followed by a combining dot;
- a capital sigma becomes a final sigma at the end of a word, where characters such as
  apostrophes and combining marks are looked past on both sides.
-/

namespace As2Exchange.Text

/-! ## Single letters -/

/-- The code point of the lower-case letter, by the table of spans. -/
def lowerCode (code : Nat) : Nat :=
  match lowerSpans.find? fun span =>
      span.1 ≤ code && code ≤ span.2.1 && (code - span.1) % span.2.2.1 == 0 with
  | some span => (Int.ofNat code + span.2.2.2).toNat
  | none => code

/-- The lower-case form of one character outside of any context. -/
def lowerChar (c : Char) : Char :=
  if c.toNat < 128 then c.toLower else Char.ofNat (lowerCode c.toNat)

/-- A letter that has a case. -/
def isCased (c : Char) : Bool := inRanges casedRanges c.toNat

/-- A character that case rules look past. -/
def isCaseIgnored (c : Char) : Bool := inRanges ignoredRanges c.toNat

/-! ## Whole texts -/

/-- Whether the nearest character that counts for case has one. -/
def nextIsCased (cs : List Char) : Bool :=
  ((cs.dropWhile isCaseIgnored).head?.map isCased).getD false

/-- Lowers the characters of a text; `before` holds those already read, the nearest first. -/
def lowerFrom : List Char → List Char → List Char → List Char
  | _, [], done => done.reverse
  | before, c :: rest, done =>
    let low :=
      if c = 'İ' then ['\u0307', 'i']
      else if c = 'Σ' then
        -- final: a cased letter stands before it and none behind
        [if nextIsCased before && !nextIsCased rest then 'ς' else 'σ']
      else [lowerChar c]
    lowerFrom (c :: before) rest (low ++ done)

/-- The lower-case form of a text. -/
def lower (text : String) : String :=
  String.ofList (lowerFrom [] text.toList [])

/-- Whether `part` occurs in `whole` as consecutive characters. -/
def occursIn (part : List Char) : List Char → Bool
  | [] => part.isEmpty
  | c :: rest => part.isPrefixOf (c :: rest) || occursIn part rest

end As2Exchange.Text
