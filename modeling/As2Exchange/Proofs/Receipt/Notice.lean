import As2Exchange.Receipt.Report
import As2Exchange.Proofs.Mime.Enclosed
import As2Exchange.Proofs.Mime.Multipart
import As2Exchange.Proofs.Text.Blank

/-!
# Notices

A notice is a report as a partner writes it: a boundary, the lines of a text for people, and the
disposition fields. Each of its rows is written as a line, the text in UTF-8.

- `Notice.body` are the bytes of the report;
- `Notice.readPart_textPart` and `Notice.readPart_fieldsPart` read the two parts of the report.
-/

namespace As2Exchange

open Mime

/-- A report to be written. -/
structure Notice where
  boundary : String
  text : List String
  fields : List Field
  boundary_plain : ∀ c ∈ boundary.toList, Entity.isBoundaryChar c = true
  /-- Each line of the text is a single line. -/
  text_single : ∀ line ∈ text, ∀ c ∈ line.toList, c ≠ '\r' ∧ c ≠ '\n'
  /-- No line of the text begins like a boundary line. -/
  text_apart : ∀ line ∈ text, ¬ ("--" ++ boundary).toList <+: line.toList
  fields_writable : ∀ field ∈ fields, field.Writable
  /-- The fields describe no content. -/
  fields_own : ∀ field ∈ fields, Text.lower field.name ≠ "content-type" ∧
    Text.lower field.name ≠ "content-transfer-encoding"

namespace Notice

/-! ## Writing -/

/-- The field that tells the type of a part. -/
def typeField (type : String) : Field := ⟨"Content-Type", type⟩

/-- The header block of an answer is the line of its content type and an empty line. -/
theorem ofAscii_headOf (value : String) : Bytes.ofAscii (Report.headOf value).toList =
    (typeField value).line ++ lineEnd ++ lineEnd := by
  have hname : "Content-Type: ".toList = "Content-Type".toList ++ [':', ' '] := by decide
  have hend : "\r\n\r\n".toList = ['\r', '\n', '\r', '\n'] := by decide
  rw [Report.headOf, String.toList_append, String.toList_append, hname, hend,
    List.append_assoc "Content-Type".toList, Bytes.ofAscii_append, List.append_assoc]
  rfl

def markRow (notice : Notice) : Bytes := Bytes.ofAscii (Entity.mark notice.boundary.toList)

/-- The rows of the report, without their line ends. -/
def rows (notice : Notice) : List Bytes :=
  notice.markRow :: (typeField "text/plain").line :: []
    :: notice.text.map (fun line => Charset.Utf8.encode line.toList)
  ++ notice.markRow :: (typeField "message/disposition-notification").line :: []
    :: notice.fields.map Field.line
  ++ [[], Bytes.ofAscii (Entity.mark notice.boundary.toList ++ ['-', '-'])]

def body (notice : Notice) : Bytes := notice.rows.flatMap ended

/-- The text for people, as one text. -/
def message (notice : Notice) : String := "\r\n".intercalate notice.text

variable (notice : Notice)

/-! ## Parts -/

def textPart : List Line :=
  Entity.block [typeField "text/plain"]
    (notice.text.map fun line => ended (Charset.Utf8.encode line.toList))

def fieldsPart : List Line :=
  Entity.block [typeField "message/disposition-notification"] (Entity.block notice.fields [])

/-- The rows are the two parts between boundary lines. -/
theorem map_ended_rows : notice.rows.map ended =
    Entity.written notice.boundary.toList [notice.textPart, notice.fieldsPart] := by
  simp [rows, textPart, fieldsPart, Entity.block, Entity.written, Entity.opening, Entity.closing,
    markRow, Function.comp_def]

theorem typeField_writable {type : String}
    (h : ∀ c ∈ type.toList, 32 ≤ c.toNat ∧ c.toNat ≤ 126) : (typeField type).Writable where
  name_ne := show "Content-Type" ≠ "" by decide
  name_plain := show ∀ c ∈ "Content-Type".toList, _ by decide
  value_plain := h

theorem isSingle_encode {cs : List Char} (h : ∀ c ∈ cs, c ≠ '\r' ∧ c ≠ '\n') :
    IsSingle (Charset.Utf8.encode cs) := by
  intro b hb
  obtain ⟨c, hc, hb⟩ := List.mem_flatMap.1 hb
  obtain ⟨hcr, hlf⟩ := h c hc
  simp only [isLineEnd, Bool.or_eq_false_iff, decide_eq_false_iff_not]
  rcases Charset.Utf8.mem_encodeChar hb with ⟨hascii, hvalue⟩ | hhigh
  · -- the byte of an ASCII character, which ends no line
    constructor
    · rintro rfl
      apply hcr
      rw [← Char.ofNat_toNat c, ← hvalue]
      rfl
    · rintro rfl
      apply hlf
      rw [← Char.ofNat_toNat c, ← hvalue]
      rfl
  · -- a byte from 128 on
    constructor
    · rintro rfl
      exact absurd hhigh (by decide)
    · rintro rfl
      exact absurd hhigh (by decide)

theorem isSingle_mark : ∀ c ∈ Entity.mark notice.boundary.toList, 32 ≤ c.toNat ∧ c.toNat ≤ 126 := by
  intro c hc
  have hplain := Entity.plain_of_mem_mark notice.boundary_plain hc
  omega

theorem isSingle_rows : ∀ row ∈ notice.rows, IsSingle row := by
  have hempty : IsSingle [] := by simp [IsSingle]
  have hmark : IsSingle notice.markRow := isSingle_ofAscii notice.isSingle_mark
  have htype : ∀ {type : String}, (∀ c ∈ type.toList, 32 ≤ c.toNat ∧ c.toNat ≤ 126) →
      IsSingle (typeField type).line := fun h =>
    (typeField_writable h).single.isSingle_line
  intro row hrow
  simp only [rows, List.cons_append, List.mem_cons, List.mem_append, List.mem_map,
    List.not_mem_nil, or_false] at hrow
  rcases hrow with rfl | rfl | rfl | (⟨line, hline, rfl⟩ | rfl | rfl | rfl | ⟨field, hfield, rfl⟩) |
    rfl | rfl
  · exact hmark
  · exact htype (by decide)
  · exact hempty
  · exact isSingle_encode (notice.text_single line hline)
  · exact hmark
  · exact htype (by decide)
  · exact hempty
  · exact (notice.fields_writable field hfield).single.isSingle_line
  · exact hempty
  · apply isSingle_ofAscii
    intro c hc
    rcases List.mem_append.1 hc with hc | hc
    · exact notice.isSingle_mark c hc
    · simp only [List.mem_cons, List.not_mem_nil, or_false, or_self] at hc
      rw [hc]
      decide

/-- The line of a field has a colon, which no boundary line has. -/
theorem isDelimiter_line {field : Field} :
    Entity.isDelimiter notice.boundary.toList (ended field.line) = false := by
  apply Entity.isDelimiter_of_mem (b := 58)
  · rw [Header.ended_line]
    simp
  · intro hmem
    obtain ⟨c, hc, hcolon⟩ := List.mem_map.1 hmem
    have hplain := Entity.plain_of_mem_mark notice.boundary_plain hc
    have hmark : c = ':' := (Bytes.ofChar_inj (by omega) (by decide)).1 hcolon
    apply hplain.2.2
    rw [hmark]
    simp
  · decide

/-- Both parts are parts: they have lines, and none is a boundary line. -/
theorem isPart_textPart : Entity.IsPart notice.boundary.toList notice.textPart := by
  refine ⟨by simp [textPart, Entity.block], fun line hline => ?_⟩
  simp only [textPart, Entity.block, List.map_cons, List.map_nil, List.cons_append,
    List.nil_append, List.mem_cons, List.mem_map] at hline
  rcases hline with rfl | rfl | ⟨text, htext, rfl⟩
  · exact notice.isDelimiter_line
  · exact Entity.isDelimiter_blank
  · apply Entity.isDelimiter_text notice.boundary_plain
    have hapart := notice.text_apart text htext
    rwa [String.toList_append] at hapart

theorem isPart_fieldsPart : Entity.IsPart notice.boundary.toList notice.fieldsPart := by
  refine ⟨by simp [fieldsPart, Entity.block], fun line hline => ?_⟩
  simp only [fieldsPart, Entity.block, List.map_cons, List.map_nil, List.cons_append,
    List.nil_append, List.mem_cons, List.mem_append, List.mem_map, List.not_mem_nil,
    or_false] at hline
  rcases hline with rfl | rfl | ⟨field, -, rfl⟩ | rfl
  · exact notice.isDelimiter_line
  · exact Entity.isDelimiter_blank
  · exact notice.isDelimiter_line
  · exact Entity.isDelimiter_blank

/-- The report as a multipart body of the two parts. -/
def layout : Entity.Layout notice.boundary.toList :=
  Entity.Layout.plain notice.boundary_plain (List.forall_mem_cons.2 ⟨notice.isPart_textPart,
    List.forall_mem_singleton.2 notice.isPart_fieldsPart⟩)

theorem lines_layout : notice.layout.lines = notice.rows.map ended := by
  rw [map_ended_rows, layout, Entity.Layout.lines_plain]

theorem lines_body : lines notice.body = notice.layout.lines := by
  rw [lines_layout, body, lines_flatMap_ended notice.isSingle_rows]

/-! ## Entities -/

def textEntity : Entity :=
  .leaf [typeField "text/plain"] "text/plain" (Charset.Utf8.encode notice.message.toList)

def fieldsEntity : Entity :=
  .branch [typeField "message/disposition-notification"] "message/disposition-notification"
    [.leaf (notice.fields.map Field.read) "text/plain" []]

/-- The lines of the text are the text with a line end behind it, unless there is no line. -/
theorem chomp_text :
    chomp (notice.text.map fun line => ended (Charset.Utf8.encode line.toList)).flatten =
      Charset.Utf8.encode notice.message.toList := by
  have hlines : ∀ {first : String} {more : List String},
      ((first :: more).map fun line => ended (Charset.Utf8.encode line.toList)).flatten =
        Charset.Utf8.encode ("\r\n".intercalate (first :: more)).toList ++ lineEnd := by
    -- by induction on the lines behind the first one
    intro first more
    induction more generalizing first with
    | nil => simp [ended]
    | cons next more ih =>
      have hbreak : Charset.Utf8.encode "\r\n".toList = lineEnd := by decide
      rw [List.map_cons, List.flatten_cons, ih, String.intercalate_cons_cons,
        String.toList_append, String.toList_append, Charset.Utf8.encode_append,
        Charset.Utf8.encode_append, hbreak, ended, List.append_assoc, List.append_assoc,
        List.append_assoc]
  unfold message
  cases notice.text with
  | nil => rfl
  | cons first more => rw [hlines, chomp_append_lineEnd]

theorem readPart_textPart [Codecs] [Nesting]
    : Entity.readPart notice.textPart = .ok notice.textEntity := by
  have hwritable : ∀ field ∈ [typeField "text/plain"], field.Writable := by
    intro field hfield
    rw [List.mem_singleton.1 hfield]
    exact typeField_writable (by decide)
  have htype : Entity.typeOf "text/plain" ([typeField "text/plain"].map Field.read) =
      "text/plain" := by
    decide +kernel
  obtain ⟨depth, hdepth⟩ := Nesting.exists_levels 2 (by decide)
  rw [Entity.readPart, Entity.readWithin, hdepth, textPart, Nat.add_succ_sub_one,
    Entity.readTo_leaf hwritable (by rw [htype]; decide) (by rw [htype]; decide), htype]
  show Except.ok (Entity.leaf _ _ (chomp _)) = _
  rw [chomp_text]
  rfl

theorem get?_fields {name : String} (h : ∀ field ∈ notice.fields, Text.lower field.name ≠ name) :
    Header.get? (notice.fields.map Field.read) name = none := by
  rw [Header.get?, Option.map_eq_none_iff, List.find?_eq_none]
  intro field hfield
  obtain ⟨written, hwritten, rfl⟩ := List.mem_map.1 hfield
  rw [decide_eq_true_eq]
  exact h written hwritten

theorem readPart_fieldsPart [Codecs] [Nesting]
    : Entity.readPart notice.fieldsPart = .ok notice.fieldsEntity := by
  have hwritable : ∀ field ∈ [typeField "message/disposition-notification"], field.Writable := by
    intro field hfield
    rw [List.mem_singleton.1 hfield]
    exact typeField_writable (by decide)
  have htype : Entity.typeOf "text/plain"
      ([typeField "message/disposition-notification"].map Field.read) =
        "message/disposition-notification" := by
    decide +kernel
  have hinner : Entity.typeOf "text/plain" (notice.fields.map Field.read) = "text/plain" := by
    rw [Entity.typeOf, notice.get?_fields fun field hfield => (notice.fields_own field hfield).1]
  have hread : [typeField "message/disposition-notification"].map Field.read =
      [typeField "message/disposition-notification"] := by
    decide
  -- there is a level for the report, for the part, and for the block in it
  obtain ⟨depth, hdepth⟩ := Nesting.exists_levels 3 (by decide)
  rw [Entity.readPart, Entity.readWithin, hdepth, fieldsPart, Nat.add_succ_sub_one,
    Entity.readTo_message hwritable htype,
    Entity.readTo_leaf notice.fields_writable (by rw [hinner]; decide) (by rw [hinner]; decide),
    hinner, hread]
  rfl

end Notice

end As2Exchange
