import As2Exchange.Bytes

/-!
# Characters as bytes

A number below 256 is kept by its byte, so texts of ASCII characters are kept by their bytes.
-/

namespace As2Exchange.Bytes

theorem toNat_ofNat {n : Nat} (h : n < 256) : (UInt8.ofNat n).toNat = n :=
  UInt8.toNat_ofNat_of_lt h

@[simp] theorem ofAscii_cons (c : Char) (cs : List Char) :
    ofAscii (c :: cs) = UInt8.ofNat c.toNat :: ofAscii cs := rfl

@[simp] theorem ofAscii_append (left right : List Char) :
    ofAscii (left ++ right) = ofAscii left ++ ofAscii right := List.map_append

/-- Different bytes stand for different numbers. -/
theorem ofNat_inj {m n : Nat} (hm : m < 256) (hn : n < 256) :
    UInt8.ofNat m = UInt8.ofNat n ↔ m = n := by
  constructor
  · intro h
    rw [← toNat_ofNat hm, h, toNat_ofNat hn]
  · rintro rfl
    rfl

/-- Different characters below 256 have different bytes. -/
theorem ofChar_inj {c d : Char} (hc : c.toNat < 256) (hd : d.toNat < 256) :
    UInt8.ofNat c.toNat = UInt8.ofNat d.toNat ↔ c = d := by
  rw [ofNat_inj hc hd]
  constructor
  · intro h
    rw [← Char.ofNat_toNat c, h, Char.ofNat_toNat]
  · rintro rfl
    rfl

end As2Exchange.Bytes
