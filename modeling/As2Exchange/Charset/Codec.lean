import As2Exchange.Bytes
import As2Exchange.Raised

/-!
# Other charsets

The charsets that mail and business documents mostly use are written out, see `Charset`. There are
many more, which are left to their own libraries: the national and regional ones, those of older
systems, those that write host names or escapes, and one that refuses every text. Nothing is
supposed of them. They may write different texts alike, and each of their operations may raise an
exception of any kind.

- `Codec` is such a charset;
- `Codecs` finds them by their names.
-/

namespace As2Exchange

/-- A charset that is not written out. -/
structure Codec where
  encode : String → Except Raised Bytes
  /-- Reads bytes, with a replacement character for what is no text. -/
  decode : Bytes → Except Raised String
  /-- Reads bytes that must be a text throughout. -/
  decodeStrict : Bytes → Except Raised String

/-- The charsets besides those that are written out, by their plain names. -/
class Codecs where
  find? : String → Option Codec

/-- No charsets besides those that are written out. -/
@[reducible]
def Codecs.empty : Codecs := ⟨fun _ => none⟩

end As2Exchange
