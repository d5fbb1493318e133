import As2Exchange.Proofs.Bytes
import As2Exchange.Proofs.Charset.Repertoire

/-!
# ASCII texts

A text of ASCII characters is written with one byte for each of them.
-/

namespace As2Exchange.Charset

theorem byteBelow?_ascii {c : Char} (h : c.toNat < 128) :
    byteBelow? 0x80 c = some (UInt8.ofNat c.toNat) := if_pos h

/-- The bytes of a text of ASCII characters. -/
theorem encode_ascii {text : String} (h : ∀ c ∈ text.toList, c.toNat < 128) :
    encode .ascii text = .ok (Bytes.ofAscii text.toList) := by
  refine encodeBytewise_eq_ok.2 ?_
  unfold Bytes.ofAscii
  rw [List.map_map]
  exact List.map_congr_left fun c hc => byteBelow?_ascii (h c hc)

/-- A text with other characters cannot be written. -/
theorem encode_ascii_isOk_iff {text : String} : (encode .ascii text).isOk = true ↔
    ∀ c ∈ text.toList, c.toNat < 128 := by
  simp only [encode_isOk_iff, has, decide_eq_true_eq]

end As2Exchange.Charset
