import As2Exchange.Charset.Basic
import As2Exchange.Charset.Codec
import As2Exchange.Text.Quoted

/-!
# Names of charsets

A charset goes by many names. A name is compared in a plain form: letters in lower case, and every
run of marks a single low line. Some names stand for transformations of bytes and are refused with
a hint. A name that is not listed may be that of a charset that is not written out; if it is not, it
is unknown.

- `Charset.named` finds the charset for a name;
- `CharsetError` says why a text cannot be written or read in the charset of a name.
-/

namespace As2Exchange

/-! ## Errors -/

/-- Why a text cannot be written or read in the charset of a given name. -/
inductive CharsetError where
  /-- No charset has the name. -/
  | unknown (name : String)
  /-- The name stands for a transformation of bytes; `writing` says in which direction it was
  asked for. -/
  | notText (name : String) (writing : Bool)
  /-- The name holds a NUL. -/
  | nulInName
  /-- The charset lacks some of the characters. -/
  | lacking (gap : Charset.Gap)
  /-- The bytes from a place on are no text in UTF-8. -/
  | undecodable (place : Nat) (bytes : Bytes) (fault : Charset.Utf8.Fault)
  /-- A charset that is not written out raises an exception. -/
  | codec (e : Raised)
  deriving DecidableEq, Repr

/-- How a charset calls itself and its extent when a character is lacking. -/
def Charset.extent : Charset → String × String
  | .ascii => ("ascii", "ordinal not in range(128)")
  | .latin1 => ("latin-1", "ordinal not in range(256)")
  | _ => ("charmap", "character maps to <undefined>")

/-- The wording for a run of characters that a charset lacks. -/
def Charset.Gap.message (gap : Charset.Gap) : String :=
  let (name, extent) := gap.charset.extent
  if gap.stop = gap.start + 1 then
    let code := String.ofList (Text.escapedCode gap.first.toNat)
    s!"'{name}' codec can't encode character '{code}' in position {gap.start}: {extent}"
  else
    s!"'{name}' codec can't encode characters in position {gap.start}-{gap.stop - 1}: {extent}"

def CharsetError.message : CharsetError → String
  | .unknown name => s!"unknown encoding: {name}"
  | .notText name writing =>
    let hint := if writing then "codecs.encode()" else "codecs.decode()"
    s!"'{name}' is not a text encoding; use {hint} to handle arbitrary codecs"
  | .nulInName => "embedded null character"
  | .lacking gap => gap.message
  | .undecodable place [byte] fault =>
    let digits := String.ofList (Text.hexDigits 2 byte.toNat)
    s!"'utf-8' codec can't decode byte 0x{digits} in position {place}: {fault.message}"
  | .undecodable place bytes fault =>
    s!"'utf-8' codec can't decode bytes in position {place}-{place + bytes.length - 1}: "
      ++ fault.message
  | .codec e => e.text

/-- The name of the kind of an error. -/
def CharsetError.kind : CharsetError → String
  | .unknown _ | .notText _ _ => "LookupError"
  | .nulInName => "ValueError"
  | .lacking _ => "UnicodeEncodeError"
  | .undecodable _ _ _ => "UnicodeDecodeError"
  | .codec e => e.kind

/-- The names of the kinds above the kind of an error. -/
def CharsetError.above : CharsetError → List String
  | .unknown _ | .notText _ _ | .nulInName => []
  | .lacking _ | .undecodable _ _ _ => ["UnicodeError", "ValueError"]
  | .codec e => e.above

/-- Whether a handler for a kind takes the error. -/
def CharsetError.is (e : CharsetError) (kind : String) : Bool :=
  e.kind = kind || e.above.contains kind

namespace Charset

/-! ## Plain names -/

/-- Whether the character is a letter or digit of ASCII or a point. -/
def isNameChar (c : Char) : Bool := c.isAlphanum || c = '.'

/-- The plain form of a name; `gap` says whether marks were passed over since the last letter and
`done` holds the letters so far, the last first. -/
def plainFrom (gap : Bool) (done : List Char) : List Char → List Char
  | [] => done.reverse
  | c :: rest =>
    if isNameChar c then
      let done := if gap && !done.isEmpty then '_' :: done else done
      plainFrom false (c.toLower :: done) rest
    else plainFrom true done rest

def plainName (name : String) : String := String.ofList (plainFrom false [] name.toList)

/-! ## Tables -/

def names : List (Charset × List String) :=
  [(.utf8, ["utf_8", "u8", "utf", "utf8", "utf8_ucs2", "utf8_ucs4", "cp65001"]),
   (.utf8Marked, ["utf_8_sig"]),
   (.ascii, ["ascii", "646", "ansi_x3.4_1968", "ansi_x3_4_1968", "ansi_x3.4_1986",
      "cp367", "csascii", "ibm367", "iso646_us", "iso_646.irv_1991",
      "iso_ir_6", "us", "us_ascii"]),
   (.latin1, ["latin_1", "8859", "cp819", "csisolatin1", "ibm819", "iso8859", "iso8859_1",
      "iso_8859_1", "iso_8859_1_1987", "iso_ir_100", "l1", "latin", "latin1"]),
   (.windows1252, ["cp1252", "1252", "windows_1252"]),
   (.utf16 none, ["utf_16", "u16", "utf16"]),
   (.utf16 (some .big), ["utf_16_be", "unicodebigunmarked", "utf_16be"]),
   (.utf16 (some .little), ["utf_16_le", "unicodelittleunmarked", "utf_16le"]),
   (.utf32 none, ["utf_32", "u32", "utf32"]),
   (.utf32 (some .big), ["utf_32_be", "utf_32be"]),
   (.utf32 (some .little), ["utf_32_le", "utf_32le"])]

/-- The plain names of the transformations of bytes. -/
def transformations : List String :=
  ["rot_13", "rot13", "hex_codec", "hex", "base64_codec", "base64", "base_64", "zlib_codec", "zip",
   "zlib", "quopri_codec", "quopri", "quoted_printable", "quotedprintable", "bz2_codec", "bz2",
   "uu_codec", "uu"]

/-- The form in which a plain name is looked up: points count as low lines where the name as it
stands is not listed. -/
def lookupForms (plain : String) : List String :=
  [plain, String.ofList (plain.toList.map fun c => if c = '.' then '_' else c)]

/-- The names that only stand for themselves: with a point they are unknown. -/
def unaliased : List String :=
  ["utf_8", "utf_8_sig", "ascii", "latin_1", "cp1252", "utf_16", "utf_16_be", "utf_16_le",
   "utf_32", "utf_32_be", "utf_32_le", "rot_13", "hex_codec", "base64_codec", "zlib_codec",
   "quopri_codec", "bz2_codec", "uu_codec"]

def listedName? (name : String) : Option String :=
  let plain := plainName name
  let listed (form : String) : Bool :=
    (names.any fun entry => entry.2.contains form) || transformations.contains form
  (lookupForms plain).find? fun form =>
    -- with its points read as low lines a name does not reach the unaliased ones
    listed form && !(form ≠ plain && unaliased.contains form)

/-- What a name stands for: a charset that is written out, or another one. -/
inductive Named where
  | own (charset : Charset)
  | other (codec : Codec)

/-- The charset that is written out under a name. -/
def own? (name : String) : Option Charset := do
  let form ← listedName? name
  (names.find? fun entry => entry.2.contains form).map (·.1)

section

variable [Codecs]

/-- The charset for a name, to be written or read. -/
def named (name : String) (writing : Bool) : Except CharsetError Named :=
  if name.toList.contains '\x00' then .error .nulInName
  else
    match own? name with
    | some charset => .ok (.own charset)
    | none =>
      if (listedName? name).isSome then .error (.notText name writing)
      else
        match Codecs.find? (plainName name) with
        | some codec => .ok (.other codec)
        | none => .error (.unknown name)

/-! ## Texts under a name -/

def Named.encode : Named → String → Except CharsetError Bytes
  | own charset, text => (charset.encode text).mapError .lacking
  | other codec, text => (codec.encode text).mapError .codec

/-- The text of bytes, with a replacement character for what is no text. -/
def Named.decode : Named → Bytes → Except CharsetError String
  | own charset, bytes => .ok (charset.decode bytes)
  | other codec, bytes => (codec.decode bytes).mapError .codec

/-- The text of bytes that are a text throughout; nothing if they are not, or if the charset says
that it cannot read them. -/
def Named.decodeStrict : Named → Bytes → Except CharsetError (Option String)
  | own charset, bytes => .ok (charset.decodeStrict? bytes)
  | other codec, bytes =>
    match codec.decodeStrict bytes with
    | .ok text => .ok (some text)
    | .error e =>
      if e.is "LookupError" || e.is "UnicodeError" then .ok none else .error (.codec e)

def encodeNamed (name text : String) : Except CharsetError Bytes := do
  (← named name true).encode text

/-- The text of bytes in the charset of a name. No bytes are the empty text in every charset. -/
def decodeNamed (name : String) (bytes : Bytes) : Except CharsetError String :=
  if name.toList.contains '\x00' then .error .nulInName
  else if bytes.isEmpty then .ok ""
  else do (← named name false).decode bytes

/-- The text of bytes that are a text throughout in the charset of a name; nothing if they are not,
or if the name is unknown. A name that no charset can have is an error. -/
def decodeNamedStrict (name : String) (bytes : Bytes) : Except CharsetError (Option String) :=
  if name.toList.contains '\x00' then .error .nulInName
  else if bytes.isEmpty then .ok (some "")
  else
    match named name false with
    | .ok charset => charset.decodeStrict bytes
    | .error _ => .ok none

end

end Charset

end As2Exchange
