import As2Exchange.Mime.Header
import As2Exchange.Proofs.Bytes
import As2Exchange.Proofs.Mime.Line

/-!
# Written header blocks

A field is written as its name, a colon, a space and its value on one line; an empty line ends the
block. Reading such a block gives the fields back, except for blanks in front of a value.

- `fieldOf_line` reads one line, and `fieldsFrom_lines` a whole block;
- `split_lines` finds the end of the block.
-/

namespace As2Exchange.Mime

/-! ## Writing -/

/-- A field as it is written. -/
def Field.line (field : Field) : Bytes :=
  Bytes.ofAscii (field.name.toList ++ ':' :: ' ' :: field.value.toList)

/-- A field that fits on a line: a name without blanks and colons, and a value of printable
characters. -/
structure Field.Writable (field : Field) : Prop where
  name_ne : field.name ≠ ""
  name_plain : ∀ c ∈ field.name.toList, 33 ≤ c.toNat ∧ c.toNat ≤ 126 ∧ c ≠ ':'
  value_plain : ∀ c ∈ field.value.toList, 32 ≤ c.toNat ∧ c.toNat ≤ 126

/-- A field that takes up one line: a name without blanks and colons, and an ASCII value without
line ends. -/
structure Field.Single (field : Field) : Prop where
  name_ne : field.name ≠ ""
  name_plain : ∀ c ∈ field.name.toList, 33 ≤ c.toNat ∧ c.toNat ≤ 126 ∧ c ≠ ':'
  value_single : ∀ c ∈ field.value.toList, c.toNat < 128 ∧ c ≠ '\r' ∧ c ≠ '\n'

/-- A blank that may stand in front of a value. -/
def isBlankBefore (c : Char) : Bool := c = ' ' || c = '\t'

/-- The field as it is read: blanks in front of the value are not part of it. -/
def Field.told (field : Field) : Field :=
  ⟨field.name, String.ofList (field.value.toList.dropWhile isBlankBefore)⟩

/-- A printable field as it is read: there only spaces can stand in front of the value. -/
def Field.read (field : Field) : Field :=
  ⟨field.name, String.ofList (field.value.toList.dropWhile (· = ' '))⟩

/-! ## Bytes -/

/-- Characters other than the two of a line end have bytes that end no line. -/
theorem isSingle_of_ne {cs : List Char}
    (h : ∀ c ∈ cs, c.toNat < 128 ∧ c ≠ '\r' ∧ c ≠ '\n') : IsSingle (Bytes.ofAscii cs) := by
  intro b hb
  obtain ⟨c, hc, rfl⟩ := List.mem_map.1 hb
  obtain ⟨hascii, hcr, hlf⟩ := h c hc
  simp only [isLineEnd, Bool.or_eq_false_iff, decide_eq_false_iff_not]
  exact ⟨mt (Bytes.ofChar_inj (d := '\r') (by omega) (by decide)).1 hcr,
    mt (Bytes.ofChar_inj (d := '\n') (by omega) (by decide)).1 hlf⟩

theorem ne_lineEnd_of_printable {c : Char} (h : 32 ≤ c.toNat ∧ c.toNat ≤ 126) :
    c.toNat < 128 ∧ c ≠ '\r' ∧ c ≠ '\n' := by
  refine ⟨by omega, ?_, ?_⟩
  · rintro rfl
    exact absurd h.1 (by decide)
  · rintro rfl
    exact absurd h.1 (by decide)

theorem isSingle_ofAscii {cs : List Char} (h : ∀ c ∈ cs, 32 ≤ c.toNat ∧ c.toNat ≤ 126) :
    IsSingle (Bytes.ofAscii cs) :=
  isSingle_of_ne fun c hc => ne_lineEnd_of_printable (h c hc)

/-- A printable field takes up one line. -/
theorem Field.Writable.single {field : Field} (h : field.Writable) : field.Single where
  name_ne := h.name_ne
  name_plain := h.name_plain
  value_single := fun c hc => ne_lineEnd_of_printable (h.value_plain c hc)

theorem Field.Single.isSingle_line {field : Field} (h : field.Single) : IsSingle field.line := by
  apply isSingle_of_ne
  intro c hc
  rcases List.mem_append.1 hc with hc | hc
  · have hname := h.name_plain c hc
    exact ne_lineEnd_of_printable (by omega)
  rcases List.mem_cons.1 hc with rfl | hc
  · decide
  rcases List.mem_cons.1 hc with rfl | hc
  · decide
  · exact h.value_single c hc

namespace Header

theorem isNameByte_ofNat {n : Nat} (hlow : 33 ≤ n) (hhigh : n ≤ 126) (hcolon : n ≠ 58) :
    isNameByte (UInt8.ofNat n) = true := by
  have hn : (UInt8.ofNat n).toNat = n := Bytes.toNat_ofNat (by omega)
  have hne : UInt8.ofNat n ≠ 58 := by
    show UInt8.ofNat n ≠ UInt8.ofNat 58
    rw [Ne, Bytes.ofNat_inj (by omega) (by omega)]
    exact hcolon
  have h1 : (33 : UInt8) ≤ UInt8.ofNat n := by
    rw [UInt8.le_iff_toNat_le, hn]
    exact hlow
  have h2 : UInt8.ofNat n ≤ (126 : UInt8) := by
    rw [UInt8.le_iff_toNat_le, hn]
    exact hhigh
  simp [isNameByte, h1, h2, hne]

/-- ASCII characters are read as they were written. -/
theorem textOf_ofAscii {cs : List Char} (h : ∀ c ∈ cs, c.toNat < 128) :
    textOf (Bytes.ofAscii cs) = String.ofList cs := by
  unfold textOf
  congr 1
  induction cs with
  | nil => rfl
  | cons c cs ih =>
    have hc := h c List.mem_cons_self
    have hn : (UInt8.ofNat c.toNat).toNat = c.toNat := Bytes.toNat_ofNat (by omega)
    have hlt : UInt8.ofNat c.toNat < 128 := by
      rw [UInt8.lt_iff_toNat_lt, hn]
      exact hc
    rw [Bytes.ofAscii_cons, List.map_cons, if_pos hlt, hn, Char.ofNat_toNat,
      ih fun c' hc' => h c' (List.mem_cons_of_mem _ hc')]

/-! ## Single lines -/

variable {field : Field}

theorem isNameByte_name (h : field.Single) :
    ∀ b ∈ Bytes.ofAscii field.name.toList, isNameByte b = true := by
  intro b hb
  obtain ⟨c, hc, rfl⟩ := List.mem_map.1 hb
  obtain ⟨hlow, hhigh, hcolon⟩ := h.name_plain c hc
  refine isNameByte_ofNat hlow hhigh fun hn => hcolon ?_
  rw [← Char.ofNat_toNat c, hn]

theorem ended_line (field : Field) :
    ended field.line = Bytes.ofAscii field.name.toList ++
      58 :: 32 :: (Bytes.ofAscii field.value.toList ++ lineEnd) := by
  rw [ended, Field.line, Bytes.ofAscii_append, List.append_assoc]
  rfl

/-- The name of a field ends at the colon. -/
theorem takeWhile_line (h : field.Single) :
    (ended field.line).takeWhile isNameByte = Bytes.ofAscii field.name.toList := by
  rw [ended_line, List.takeWhile_append_of_pos (isNameByte_name h)]
  exact List.append_nil _

theorem isFieldStart_line (h : field.Single) : isFieldStart (ended field.line) = true := by
  rw [isFieldStart, ended_line, List.dropWhile_append_of_pos (isNameByte_name h)]
  rfl

theorem isContinuation_of_isFieldStart {line : Line} (h : isFieldStart line = true) :
    isContinuation line = false := by
  cases line with
  | nil => rfl
  | cons b line =>
    -- neither a space nor a tab may stand in a name
    show (decide (b = 0x20) || decide (b = 0x09)) = false
    simp only [Bool.or_eq_false_iff, decide_eq_false_iff_not]
    constructor
    · rintro rfl
      have hfalse : isFieldStart (0x20 :: line) = false := rfl
      rw [hfalse] at h
      cases h
    · rintro rfl
      have hfalse : isFieldStart (0x09 :: line) = false := rfl
      rw [hfalse] at h
      cases h

/-- A line that starts a field is no envelope line: there a blank follows the first word. -/
theorem isEnvelope_of_isFieldStart {line : Line} (h : isFieldStart line = true) :
    isEnvelope line = false := by
  cases henvelope : isEnvelope line with
  | false => rfl
  | true =>
    -- the name would have to end at the space of the envelope mark
    obtain ⟨rest, rfl⟩ := List.isPrefixOf_iff_prefix.1 henvelope
    have hfalse : isFieldStart (envelopeMark ++ rest) = false := rfl
    rw [hfalse] at h
    cases h

theorem head?_line (h : field.Single) : (ended field.line).head? ≠ some 58 := by
  rw [ended_line]
  cases hname : field.name.toList with
  | nil =>
    -- only a field without a name would begin so
    have hempty : field.name = "" := String.toList_inj.1 hname
    exact absurd hempty h.name_ne
  | cons c cs =>
    have hc := isNameByte_name h (UInt8.ofNat c.toNat) (by rw [hname]; exact List.mem_cons_self)
    intro hhead
    have hcolon : UInt8.ofNat c.toNat = 58 := Option.some_inj.1 hhead
    rw [hcolon] at hc
    cases hc

/-- Blanks are dropped from the bytes just as from the characters. -/
theorem dropWhile_blanks {cs : List Char} (h : ∀ c ∈ cs, c.toNat < 128) :
    (Bytes.ofAscii cs ++ lineEnd).dropWhile (fun b => b = 0x20 || b = 0x09) =
      Bytes.ofAscii (cs.dropWhile isBlankBefore) ++ lineEnd := by
  induction cs with
  | nil => rfl
  | cons c cs ih =>
    have hc := h c List.mem_cons_self
    have hblank : (decide (UInt8.ofNat c.toNat = 0x20) || decide (UInt8.ofNat c.toNat = 0x09)) =
        isBlankBefore c := by
      have hspace := Bytes.ofChar_inj (c := c) (d := ' ') (by omega) (by decide)
      have htab := Bytes.ofChar_inj (c := c) (d := '\t') (by omega) (by decide)
      rw [isBlankBefore, ← decide_eq_decide.2 hspace, ← decide_eq_decide.2 htab]
      rfl
    rw [Bytes.ofAscii_cons, List.cons_append, List.dropWhile_cons, List.dropWhile_cons, hblank,
      ih fun c' hc' => h c' (List.mem_cons_of_mem _ hc')]
    cases isBlankBefore c with
    | true => rfl
    | false => rfl

/-- Among printable characters only the space is such a blank. -/
theorem dropWhile_printable {cs : List Char} (h : ∀ c ∈ cs, 32 ≤ c.toNat ∧ c.toNat ≤ 126) :
    cs.dropWhile isBlankBefore = cs.dropWhile (· = ' ') := by
  induction cs with
  | nil => rfl
  | cons c cs ih =>
    have htab : c ≠ '\t' := by
      rintro rfl
      exact absurd (h '\t' List.mem_cons_self).1 (by decide)
    rw [List.dropWhile_cons, List.dropWhile_cons, isBlankBefore, decide_eq_false htab, Bool.or_false,
      ih fun c' hc' => h c' (List.mem_cons_of_mem _ hc')]

theorem told_eq_read (h : field.Writable) : field.told = field.read := by
  rw [Field.told, Field.read, dropWhile_printable h.value_plain]

/-- The line end behind a value is not part of it. -/
theorem dropWhile_lineEnd {bytes : Bytes} (h : IsSingle bytes) :
    ((bytes ++ lineEnd).reverse.dropWhile isLineEnd).reverse = bytes := by
  have hkeep : bytes.reverse.dropWhile isLineEnd = bytes.reverse := by
    cases hr : bytes.reverse with
    | nil => rfl
    | cons b rest =>
      have hb := h b (List.mem_reverse.1 (by rw [hr]; exact List.mem_cons_self))
      rw [List.dropWhile_cons, if_neg (by simp [hb])]
  rw [List.reverse_append]
  show (bytes.reverse.dropWhile isLineEnd).reverse = bytes
  rw [hkeep, List.reverse_reverse]

theorem fieldOf_line (h : field.Single) : fieldOf (ended field.line) [] = field.told := by
  have hvalue : ∀ c ∈ field.value.toList.dropWhile isBlankBefore,
      c.toNat < 128 ∧ c ≠ '\r' ∧ c ≠ '\n' :=
    fun c hc => h.value_single c ((List.dropWhile_sublist _).subset hc)
  have hname : textOf (Bytes.ofAscii field.name.toList) = field.name := by
    rw [textOf_ofAscii, String.ofList_toList]
    intro c hc
    have := h.name_plain c hc
    omega
  -- behind the name and the colon stands the value, with a space in front
  have hdrop : (ended field.line).drop ((Bytes.ofAscii field.name.toList).length + 1) =
      32 :: (Bytes.ofAscii field.value.toList ++ lineEnd) := by
    rw [ended_line, ← List.drop_drop, List.drop_left]
    rfl
  have hblanks : (32 :: (Bytes.ofAscii field.value.toList ++ lineEnd)).dropWhile
        (fun b => b = 0x20 || b = 0x09) =
      Bytes.ofAscii (field.value.toList.dropWhile isBlankBefore) ++ lineEnd :=
    dropWhile_blanks fun c hc => (h.value_single c hc).1
  unfold fieldOf
  dsimp only
  rw [takeWhile_line h, hname, hdrop, hblanks, List.flatten_nil, List.append_nil,
    dropWhile_lineEnd (isSingle_of_ne hvalue), textOf_ofAscii fun c hc => (hvalue c hc).1]
  rfl

/-! ## Blocks -/

variable {fields : List Field}

/-- Written fields are read back, one by one. -/
theorem fieldsFrom_lines (h : ∀ field ∈ fields, field.Single) (isFirst : Bool) :
    fieldsFrom isFirst (fields.map fun field => ended field.line) =
      (fields.map Field.told, none) := by
  induction fields generalizing isFirst with
  | nil => rfl
  | cons field fields ih =>
    have hfield := h field List.mem_cons_self
    have hstart := isFieldStart_line hfield
    have hrest := ih fun f hf => h f (List.mem_cons_of_mem _ hf)
    -- the next line starts a field of its own
    have hcontinued : (fields.map fun field => ended field.line).takeWhile isContinuation = [] := by
      cases fields with
      | nil => rfl
      | cons next fields =>
        have hnext := isFieldStart_line (h next (by simp))
        rw [List.map_cons, List.takeWhile_cons, if_neg]
        simp [isContinuation_of_isFieldStart hnext]
    rw [List.map_cons, fieldsFrom, if_neg (by simp [isContinuation_of_isFieldStart hstart]),
      if_neg (by simp [isEnvelope_of_isFieldStart hstart]), if_neg (head?_line hfield), hrest,
      hcontinued, fieldOf_line hfield]
    rfl

/-- The block ends at the empty line. -/
theorem split_lines (h : ∀ field ∈ fields, field.Single) (body : List Line) :
    split ((fields.map fun field => ended field.line) ++ ended [] :: body) =
      (fields.map fun field => ended field.line, body) := by
  -- each field is a header line, the empty line is none
  have hall : ∀ line ∈ fields.map fun field => ended field.line, isHeaderLine line = true := by
    intro line hline
    obtain ⟨field, hfield, rfl⟩ := List.mem_map.1 hline
    rw [isHeaderLine, isFieldStart_line (h field hfield), Bool.or_true]
  have hhead : ((fields.map fun field => ended field.line) ++ ended [] :: body).takeWhile
      isHeaderLine = fields.map fun field => ended field.line := by
    rw [List.takeWhile_append_of_pos hall]
    exact List.append_nil _
  have hrest : ((fields.map fun field => ended field.line) ++ ended [] :: body).dropWhile
      isHeaderLine = ended [] :: body := by
    rw [List.dropWhile_append_of_pos hall]
    rfl
  rw [split, hhead, hrest]
  rfl

end Header

end As2Exchange.Mime
