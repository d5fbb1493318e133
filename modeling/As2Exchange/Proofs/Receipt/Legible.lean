import As2Exchange.Proofs.Charset.Ascii
import As2Exchange.Proofs.Mime.Enclosed
import As2Exchange.Proofs.Receipt.Unreadable

/-!
# Receipts that can be read

The bytes of an answer are the choice of the partner, and so are its content type and the charsets,
encodings and boundaries in it. Most of what is wrong with them is mended in reading. What remains
is a content type beyond ASCII, entities that are nested too deep, a boundary that cannot be read,
and a text whose charset is not known or cannot be used.

- `Entity.Legible` says that the content of an entity can be decoded;
- `Report.Legible` says of a whole answer that it can be read;
- `Report.read?_isSome_iff` says that it gives a receipt just if it can.
-/

namespace As2Exchange

open Mime

section

variable [Codecs]

namespace Mime.Entity

/-! ## Contents -/

/-- The content of an entity can be decoded: the charset can be read from the header block, and is
one for these bytes. A branch has no content of its own. -/
def Legible : Entity → Prop
  | branch _ _ _ => True
  | leaf fields _ content =>
    (∀ value, Header.get? fields "content-type" = some value →
      ContentType.Readable value .charset) ∧
    ∀ name, charsetName fields = .ok name → Charset.Decodes name (decoded fields content)

theorem charsetName_isOk_iff {fields : List Field} : (charsetName fields).isOk = true ↔
    ∀ value, Header.get? fields "content-type" = some value →
      ContentType.Readable value .charset := by
  unfold charsetName
  cases Header.get? fields "content-type" with
  | none => exact iff_of_true rfl nofun
  | some value =>
    rw [bind_isOk_of_ok fun _ => rfl, ContentType.charset_isOk_iff]
    simp

theorem text_isOk_iff {entity : Entity} : entity.text.isOk = true ↔ entity.Legible := by
  cases entity with
  | branch fields type parts => exact iff_of_true rfl trivial
  | leaf fields type content =>
    rw [text_leaf, bind_isOk, Legible, ← charsetName_isOk_iff]
    simp only [isOk_mapError, Charset.decodeNamed_isOk_iff]
    -- the name is a function of the fields, so there is only one to be decoded with
    constructor
    · rintro ⟨name, hname, hdecodes⟩
      refine ⟨isOk_iff.2 ⟨name, hname⟩, fun name' hname' => ?_⟩
      cases hname.symm.trans hname'
      exact hdecodes
    · rintro ⟨hok, hdecodes⟩
      obtain ⟨name, hname⟩ := isOk_iff.1 hok
      exact ⟨name, hname, hdecodes name hname⟩

end Mime.Entity

namespace Report

/-! ## The text for people -/

/-- Looking for the text comes to an entity: it is a text part, and those before it are blank. -/
def ComesTo (entities : List Entity) (entity : Entity) : Prop := ∃ before after,
  entities = before ++ entity :: after ∧ isTextPart entity = true ∧
    ∀ earlier ∈ before, isTextPart earlier = true →
      ∃ text, earlier.text = .ok text ∧ Text.strip text = ""

variable {entities : List Entity}

theorem ComesTo.head {entity : Entity} (h : isTextPart entity = true) :
    ComesTo (entity :: entities) entity :=
  ⟨[], entities, rfl, h, nofun⟩

/-- Behind a blank text, or an entity that is no text part, the search goes on. -/
theorem comesTo_cons_iff {first entity : Entity} :
    ComesTo (first :: entities) entity ↔
      first = entity ∧ isTextPart entity = true ∨
      (isTextPart first = true → ∃ text, first.text = .ok text ∧ Text.strip text = "") ∧
        ComesTo entities entity := by
  constructor
  · rintro ⟨before, after, heq, hpart, hblank⟩
    -- either the entity is at the front, or the one at the front is passed by
    cases before with
    | nil =>
      cases heq
      exact .inl ⟨rfl, hpart⟩
    | cons _ before =>
      cases heq
      exact .inr ⟨hblank first List.mem_cons_self, before, after, rfl, hpart,
        fun earlier hearlier => hblank earlier (List.mem_cons_of_mem _ hearlier)⟩
  · rintro (⟨rfl, hpart⟩ | ⟨hfirst, before, after, rfl, hpart, hblank⟩)
    · exact ComesTo.head hpart
    · exact ⟨first :: before, after, rfl, hpart, List.forall_mem_cons.2 ⟨hfirst, hblank⟩⟩

/-- The text for people is found if each entity that the search comes to is legible. -/
theorem firstText_isOk_iff : (firstText entities).isOk = true ↔
    ∀ entity, ComesTo entities entity → entity.Legible := by
  -- the search is a recursion on the list, and it stops at the first text that is not blank
  induction entities with
  | nil =>
    refine iff_of_true rfl ?_
    rintro entity ⟨before, after, heq, -, -⟩
    simp at heq
  | cons first rest ih =>
    unfold firstText
    by_cases hpart : isTextPart first = true
    · rw [if_pos hpart, bind_isOk]
      constructor
      · rintro ⟨text, htext, hgoes⟩ entity hcomes
        rcases comesTo_cons_iff.1 hcomes with ⟨rfl, -⟩ | ⟨hblank, hrest⟩
        · exact Entity.text_isOk_iff.1 (isOk_iff.2 ⟨text, htext⟩)
        · -- the search goes on only behind a blank text
          obtain ⟨text', htext', hstrip⟩ := hblank hpart
          cases htext.symm.trans htext'
          dsimp only at hgoes
          rw [hstrip, if_pos (String.isEmpty_iff.2 rfl)] at hgoes
          exact ih.1 hgoes entity hrest
      · intro hall
        obtain ⟨text, htext⟩ := isOk_iff.1 (Entity.text_isOk_iff.2 (hall first (ComesTo.head hpart)))
        refine ⟨text, htext, ?_⟩
        dsimp only
        split
        · rename_i hempty
          have hstrip : Text.strip text = "" := String.isEmpty_iff.1 hempty
          exact ih.2 fun entity hrest =>
            hall entity (comesTo_cons_iff.2 (.inr ⟨fun _ => ⟨text, htext, hstrip⟩, hrest⟩))
        · rfl
    · -- what is no text part is passed over
      have hcomes : ∀ entity, ComesTo (first :: rest) entity ↔ ComesTo rest entity := by
        intro entity
        rw [comesTo_cons_iff]
        constructor
        · rintro (⟨rfl, h⟩ | ⟨-, hrest⟩)
          · exact absurd h hpart
          · exact hrest
        · exact fun hrest => .inr ⟨fun h => absurd h hpart, hrest⟩
      rw [if_neg hpart, ih]
      simp only [hcomes]

/-- The text of a report can be read. A report in a single part is its own text. -/
def TextLegible : Entity → Prop
  | .leaf fields type content => (Entity.leaf fields type content).Legible
  | .branch fields type parts =>
    ∀ entity, ComesTo (Entity.branch fields type parts).walk entity → entity.Legible

theorem ofEntity_isOk_iff {report : Entity} : (ofEntity report).isOk = true ↔
    TextLegible report := by
  cases report with
  | leaf fields type content =>
    unfold ofEntity
    rw [bind_isOk_of_ok fun _ => rfl, Entity.text_isOk_iff]
    exact Iff.rfl
  | branch fields type parts =>
    unfold ofEntity
    dsimp only
    rw [bind_isOk_of_ok fun _ => rfl, firstText_isOk_iff]
    exact Iff.rfl

/-! ## Answers -/

/-- The lines of an answer with its content type in front. -/
def answerLines (contentType? : Option String) (content : Bytes) : List Line :=
  lines (Bytes.ofAscii (headOf (typeOrPlain contentType?)).toList ++ content)

omit [Codecs] in
theorem encode_headOf {contentType : String} :
    (∀ c ∈ contentType.toList, c.toNat < 128) ↔
      (Charset.encode .ascii (headOf contentType)).isOk = true := by
  -- only the content type in the middle can have other characters
  have hfront : ∀ c ∈ "Content-Type: ".toList, c.toNat < 128 := by decide
  have hback : ∀ c ∈ "\r\n\r\n".toList, c.toNat < 128 := by decide
  rw [Charset.encode_ascii_isOk_iff, headOf, String.toList_append, String.toList_append]
  simp only [List.forall_mem_append]
  exact ⟨fun h => ⟨⟨hfront, h⟩, hback⟩, fun h => h.1.2⟩

variable [Nesting]

/-- An answer can be read. -/
structure Legible (contentType? : Option String) (content : Bytes) : Prop where
  /-- The content type has no character beyond ASCII. -/
  ascii : ∀ c ∈ (typeOrPlain contentType?).toList, c.toNat < 128
  /-- There is room for all that is enclosed, and the boundaries of multiparts can be read. -/
  enclosed : ∀ level enclosed,
    Raw.Encloses level { lines := answerLines contentType? content } enclosed →
      level < Nesting.levels ∧ enclosed.Bounded
  text : ∀ report, Entity.read (answerLines contentType? content) = .ok report →
    TextLegible report

/-- An answer with a body is read as the entity that its lines make. -/
theorem read?_eq {contentType? : Option String} {content : Bytes} (hcontent : content ≠ [])
    (hascii : ∀ c ∈ (typeOrPlain contentType?).toList, c.toNat < 128) :
    read? contentType? content = do
      return some (← ofEntity (← Entity.read (answerLines contentType? content))) := by
  obtain ⟨head, hhead⟩ := isOk_iff.1 (encode_headOf.1 hascii)
  have hbytes : head = Bytes.ofAscii (headOf (typeOrPlain contentType?)).toList := by
    have hall := Charset.encode_ascii_isOk_iff.1 (encode_headOf.1 hascii)
    exact Except.ok.inj (hhead.symm.trans (Charset.encode_ascii hall))
  unfold read?
  rw [if_neg (mt List.isEmpty_iff.1 hcontent), hhead, hbytes]
  rfl

/-- An answer with a body never gives nothing. -/
theorem read?_ne_none {contentType? : Option String} {content : Bytes} (hcontent : content ≠ []) :
    read? contentType? content ≠ .ok none := by
  unfold read?
  rw [if_neg (mt List.isEmpty_iff.1 hcontent)]
  split
  · exact nofun
  · intro h
    obtain ⟨report, -, h⟩ := bind_eq_ok.1 h
    obtain ⟨receipt, -, h⟩ := bind_eq_ok.1 h
    cases h

theorem read?_isOk_iff {contentType? : Option String} {content : Bytes} (hcontent : content ≠ []) :
    (read? contentType? content).isOk = true ↔ Legible contentType? content := by
  by_cases hascii : ∀ c ∈ (typeOrPlain contentType?).toList, c.toNat < 128
  · rw [read?_eq hcontent hascii, bind_isOk]
    have hreceipt : ∀ report, (do return some (← ofEntity report) :
        Except Failure (Option Receipt)).isOk = true ↔ TextLegible report := by
      intro report
      rw [bind_isOk_of_ok fun _ => rfl, ofEntity_isOk_iff]
    simp only [hreceipt]
    constructor
    · rintro ⟨report, hread, htext⟩
      refine ⟨hascii, Entity.read_isOk_iff.1 (isOk_iff.2 ⟨report, hread⟩), fun report' hread' => ?_⟩
      cases hread.symm.trans hread'
      exact htext
    · rintro ⟨-, henclosed, htext⟩
      obtain ⟨report, hread⟩ := isOk_iff.1 (Entity.read_isOk_iff.2 henclosed)
      exact ⟨report, hread, htext report hread⟩
  · -- the content type cannot even be put in front
    refine iff_of_false (fun hok => ?_) fun h => hascii h.ascii
    cases hhead : Charset.encode .ascii (headOf (typeOrPlain contentType?)) with
    | ok head => exact hascii (encode_headOf.2 (isOk_iff.2 ⟨head, hhead⟩))
    | error gap =>
      unfold read? at hok
      rw [if_neg (mt List.isEmpty_iff.1 hcontent), hhead] at hok
      cases hok

end Report

end

namespace Report

namespace UnknownCharset

/-- A plain text whose content type names a charset that is not known. -/
def contentType : String := "text/plain; charset=nosuch"

def content : Bytes := "accepted".toUTF8.toList

end UnknownCharset

attribute [local instance] Codecs.empty Nesting.thousand

end Report

end As2Exchange
