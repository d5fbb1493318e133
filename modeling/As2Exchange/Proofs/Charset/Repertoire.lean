import As2Exchange.Charset.Basic
import As2Exchange.Proofs.Failure.Result
import Mathlib.Data.List.TakeWhile

/-!
# The characters of a charset

A charset of single bytes has a byte for some characters only. A text can be written in it just if
it has all the characters of the text, and then it is written character by character.

- `encodeBytewise_eq_ok` is this rule for any assignment of bytes;
- `Charset.has` are the characters of a charset, and `encode_isOk_iff` the texts made of them.
-/

namespace As2Exchange.Charset

/-! ## One byte for each character -/

section

variable {charset : Charset} {byte? : Char → Option UInt8} {cs : List Char}

/-- Behind the longest front part of a class comes what dropping the class leaves. -/
theorem drop_takeWhile (p : Char → Bool) (cs : List Char) :
    cs.drop (cs.takeWhile p).length = cs.dropWhile p := by
  have h : (cs.takeWhile p ++ cs.dropWhile p).drop (cs.takeWhile p).length = cs.dropWhile p :=
    List.drop_left
  rwa [List.takeWhile_append_dropWhile] at h

theorem map_eq_map_some (h : ∀ c ∈ cs, (byte? c).isSome = true) :
    cs.map byte? = (cs.filterMap byte?).map some := by
  induction cs with
  | nil => rfl
  | cons c cs ih =>
    obtain ⟨b, hb⟩ := Option.isSome_iff_exists.1 (h c List.mem_cons_self)
    rw [List.map_cons, List.filterMap_cons_some hb, List.map_cons, hb,
      ih fun d hd => h d (List.mem_cons_of_mem _ hd)]

/-- A text is written just if each character has a byte, and then as these bytes. -/
theorem encodeBytewise_eq_ok {bytes : Bytes} :
    encodeBytewise charset byte? cs = .ok bytes ↔ cs.map byte? = bytes.map some := by
  unfold encodeBytewise
  dsimp only
  rw [drop_takeWhile]
  -- what stands behind the longest front part with bytes tells where the writing stops
  cases hrest : cs.dropWhile fun c => (byte? c).isSome with
  | nil =>
    rw [map_eq_map_some (List.dropWhile_eq_nil_iff.1 hrest),
      List.map_inj_right fun _ _ => Option.some.inj]
    exact ⟨Except.ok.inj, congrArg Except.ok⟩
  | cons c rest =>
    -- the first character that is left over has no byte
    have hmem : c ∈ cs := (List.dropWhile_suffix _).mem (hrest ▸ List.mem_cons_self)
    have hnone : (byte? c).isSome = false := by
      have hhead := List.head?_dropWhile_not (fun c => (byte? c).isSome) cs
      rwa [hrest] at hhead
    constructor
    · intro h
      cases h
    · intro h
      obtain ⟨b, -, hb⟩ := List.mem_map.1 (h ▸ List.mem_map_of_mem hmem)
      rw [← hb] at hnone
      cases hnone

theorem encodeBytewise_isOk_iff :
    (encodeBytewise charset byte? cs).isOk = true ↔ ∀ c ∈ cs, (byte? c).isSome = true := by
  rw [isOk_iff]
  constructor
  · rintro ⟨bytes, h⟩ c hc
    obtain ⟨b, -, hb⟩ := List.mem_map.1 (encodeBytewise_eq_ok.1 h ▸ List.mem_map_of_mem hc)
    rw [← hb]
    rfl
  · exact fun h => ⟨_, encodeBytewise_eq_ok.2 (map_eq_map_some h)⟩

end

/-! ## Repertoires -/

/-- The characters that can be written in a charset. -/
def has : Charset → Char → Bool
  | .ascii, c => c.toNat < 0x80
  | .latin1, c => c.toNat < 0x100
  | .windows1252, c => (windowsByte? c).isSome
  | .utf8, _ | .utf8Marked, _ | .utf16 _, _ | .utf32 _, _ => true

theorem isSome_byteBelow? (limit : Nat) (c : Char) :
    (byteBelow? limit c).isSome = decide (c.toNat < limit) := by
  unfold byteBelow?
  split
  · rename_i h
    rw [decide_eq_true h]
    rfl
  · rename_i h
    rw [decide_eq_false h]
    rfl

/-- **A text can be written in a charset just if the charset has all its characters.** -/
theorem encode_isOk_iff {charset : Charset} {text : String} :
    (charset.encode text).isOk = true ↔ ∀ c ∈ text.toList, charset.has c = true := by
  -- the charsets of Unicode have all characters; the others are written byte by byte
  cases charset with
  | utf8 => exact iff_of_true rfl fun _ _ => rfl
  | utf8Marked => exact iff_of_true rfl fun _ _ => rfl
  | utf16 order? => cases order? <;> exact iff_of_true rfl fun _ _ => rfl
  | utf32 order? => cases order? <;> exact iff_of_true rfl fun _ _ => rfl
  | windows1252 => exact encodeBytewise_isOk_iff
  | ascii =>
    refine encodeBytewise_isOk_iff.trans ?_
    simp only [isSome_byteBelow?, has]
  | latin1 =>
    refine encodeBytewise_isOk_iff.trans ?_
    simp only [isSome_byteBelow?, has]

end As2Exchange.Charset
