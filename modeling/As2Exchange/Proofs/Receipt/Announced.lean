import As2Exchange.Proofs.Mime.Parameter
import As2Exchange.Proofs.Receipt.Legible
import As2Exchange.Proofs.Receipt.Notice

/-!
# Reports read by their parts

The content type of an answer stands in front of it as a header block of one line. If it announces a
report and the boundary between its parts, each part is read on its own, and the receipt is put
together from all that they enclose.

- `Report.Announces` are these content types, and `Report.announces_quoted` is the plainest of them;
- `Report.read?_layout` is the receipt of a report, however its boundary lines are spelled.
-/

namespace As2Exchange

open Mime

namespace Report

/-! ## The content type -/

/-- A content type on one line, without the blanks in front of it. -/
def toldType (contentType : String) : String := (Notice.typeField contentType).told.value

theorem toldType_eq {contentType : String}
    (h : ∀ c, contentType.toList.head? = some c → isBlankBefore c = false) :
    toldType contentType = contentType := by
  show String.ofList (contentType.toList.dropWhile isBlankBefore) = contentType
  cases hchars : contentType.toList with
  | nil => rw [List.dropWhile_nil, ← hchars, String.ofList_toList]
  | cons c cs =>
    rw [hchars] at h
    rw [List.dropWhile_cons, if_neg (by simp [h c rfl]), ← hchars, String.ofList_toList]

/-- The content type of a report with a boundary between its parts. -/
structure Announces [Codecs] (contentType : String) (boundary : List Char) : Prop where
  /-- It has no characters beyond ASCII and ends no line. -/
  single : ∀ c ∈ contentType.toList, c.toNat < 128 ∧ c ≠ '\r' ∧ c ≠ '\n'
  type : ContentType.ofField (toldType contentType) = "multipart/report"
  boundary : ContentType.boundary (toldType contentType) = .ok (some boundary)

section

variable [Codecs] {contentType : String} {boundary : List Char}

theorem Announces.field_single (h : Announces contentType boundary) :
    (Notice.typeField contentType).Single where
  name_ne := show "Content-Type" ≠ "" by decide
  name_plain := show ∀ c ∈ "Content-Type".toList, _ by decide
  value_single := h.single

theorem Announces.fields_single (h : Announces contentType boundary) :
    ∀ field ∈ [Notice.typeField contentType], field.Single := by
  intro field hfield
  rw [List.mem_singleton.1 hfield]
  exact h.field_single

/-- A content type that tells nothing announces no report. -/
theorem Announces.typeOrPlain_eq (h : Announces contentType boundary) :
    typeOrPlain (some contentType) = contentType := by
  have hne : contentType ≠ "" := by
    -- the empty content type would be that of a plain text
    rintro rfl
    have htype := h.type
    rw [show ContentType.ofField (toldType "") = "text/plain" by decide] at htype
    exact absurd htype (by decide)
  rw [typeOrPlain, if_neg (mt String.isEmpty_iff.1 hne)]

/-- The content type is a header block of its own in front of the answer. -/
theorem Announces.answerLines_eq (h : Announces contentType boundary) (content : Bytes) :
    answerLines (some contentType) content =
      Entity.block [Notice.typeField contentType] (lines content) := by
  -- the content type is the first line, an empty one ends the headers, and the rest is content
  have hsingle : IsSingle [] := nofun
  have hempty : linesFrom [] (lineEnd ++ content) = ended [] :: linesFrom [] content :=
    linesFrom_line hsingle [] content
  rw [answerLines, h.typeOrPlain_eq, Notice.ofAscii_headOf, lines, List.append_assoc,
    linesFrom_line h.field_single.isSingle_line, hempty]
  rfl

end

theorem get?_toldType (contentType : String) :
    Header.get? ([Notice.typeField contentType].map Field.told) "content-type" =
      some (toldType contentType) := by
  have hname : Text.lower (Notice.typeField contentType).told.name = "content-type" := by
    show Text.lower "Content-Type" = "content-type"
    decide +kernel
  rw [Header.get?, List.map_singleton, List.find?_cons_of_pos (by simpa using hname)]
  rfl

section Quoted

variable {boundary : String}

theorem single_quoted (h : ∀ c ∈ boundary.toList, Entity.isBoundaryChar c = true) :
    ∀ c ∈ (ContentType.quoted boundary).toList, c.toNat < 128 ∧ c ≠ '\r' ∧ c ≠ '\n' := by
  have hfront : ∀ c ∈ "multipart/report".toList ++ ';' :: " boundary=".toList,
      c.toNat < 128 ∧ c ≠ '\r' ∧ c ≠ '\n' := by decide
  intro c hc
  -- only the boundary is free; the texts around it are fixed
  rw [ContentType.toList_quoted, ← List.cons_append, ← List.append_assoc] at hc
  rcases List.mem_append.1 hc with hc | hc
  · exact hfront c hc
  simp only [Parameter.quote, List.cons_append, List.mem_cons, List.mem_append,
    List.not_mem_nil, or_false] at hc
  rcases hc with rfl | hc | rfl
  · decide
  · have hplain := Entity.plain_of_isBoundaryChar (h c hc)
    exact ne_lineEnd_of_printable (by omega)
  · decide

theorem isOrdinary_of_isBoundaryChar {c : Char} (h : Entity.isBoundaryChar c = true) :
    Parameter.IsOrdinary c := by
  obtain ⟨hlow, hhigh, hmark⟩ := Entity.plain_of_isBoundaryChar h
  refine ⟨fun hmem => hmark ?_, ?_⟩
  · simp only [List.mem_cons, List.not_mem_nil, or_false] at hmem ⊢
    rcases hmem with rfl | rfl | rfl | rfl <;> simp
  · rw [← Bool.not_eq_true, Text.isBlank_printable (by omega) hhigh]
    rintro rfl
    exact absurd hlow (by decide)

/-- The content type that tells just a boundary announces it. -/
theorem announces_quoted [Codecs] (h : ∀ c ∈ boundary.toList, Entity.isBoundaryChar c = true) :
    Announces (ContentType.quoted boundary) boundary.toList := by
  have htold : toldType (ContentType.quoted boundary) = ContentType.quoted boundary := by
    refine toldType_eq fun c hc => ?_
    rw [ContentType.toList_quoted] at hc
    rw [← Option.some.inj hc]
    rfl
  refine ⟨single_quoted h, ?_, ?_⟩
  · rw [htold]
    exact ContentType.ofField_quoted _
  · rw [htold]
    exact ContentType.boundary_quoted fun c hc => isOrdinary_of_isBoundaryChar (h c hc)

end Quoted

/-! ## The parts -/

theorem allFields_cons (entity : Entity) (rest : List Entity) :
    allFields (entity :: rest) =
      (if entity.type = notificationType then dispositionFields entity else []) ++
        allFields rest := by
  unfold allFields
  rw [List.filter_cons]
  -- only a notification brings fields of its own
  by_cases h : entity.type = notificationType
  · rw [if_pos (decide_eq_true h), if_pos h, List.flatMap_cons]
  · rw [if_neg (mt of_decide_eq_true h), if_neg h, List.nil_append]

/-- The entity that a report is. -/
def entityOf (contentType : String) (parts : List Entity) : Entity :=
  .branch [(Notice.typeField contentType).told] "multipart/report" parts

section

variable [Codecs]

/-- The receipt of a report, from all that its parts enclose. -/
def ofEntities (entities : List Entity) : Except Failure Receipt := do
  return ofParts (← firstText entities) (allFields entities)

/-- The report as a whole is neither a text nor a notification. -/
theorem ofEntity_entityOf (contentType : String) (parts : List Entity) :
    ofEntity (entityOf contentType parts) = ofEntities (Entity.walkAll parts) := by
  have htext : isTextPart (entityOf contentType parts) = false := rfl
  have hfields : allFields (entityOf contentType parts :: Entity.walkAll parts) =
      allFields (Entity.walkAll parts) := by
    have htype : (entityOf contentType parts).type ≠ notificationType :=
      show "multipart/report" ≠ notificationType by decide
    rw [allFields_cons, if_neg htype, List.nil_append]
  have hwalk : ofEntity (entityOf contentType parts) =
      ofEntities (entityOf contentType parts :: Entity.walkAll parts) := rfl
  rw [hwalk, ofEntities, firstText, if_neg (by simp [htext]), hfields]
  rfl

/-- **A report is read by its parts.** -/
theorem read?_layout [Nesting] {contentType : String} {boundary : List Char}
    (h : Announces contentType boundary) (layout : Entity.Layout boundary)
    (hne : layout.parts ≠ []) {content : Bytes} (hlines : lines content = layout.lines) :
    read? (some contentType) content = do
      let parts ← (layout.parts.map (·.lines)).mapM Entity.readPart
      return some (← ofEntities (Entity.walkAll parts)) := by
  -- a layout with parts has lines, so there is content to read
  have hcontent : content ≠ [] := by
    rintro rfl
    obtain ⟨part, parts, hparts⟩ := List.exists_cons_of_ne_nil hne
    rw [Entity.Layout.lines, hparts, Entity.Layout.linesFrom_cons] at hlines
    exact List.append_ne_nil_of_right_ne_nil _ (List.cons_ne_nil _ _) hlines.symm
  have hascii : ∀ c ∈ (typeOrPlain (some contentType)).toList, c.toNat < 128 := by
    rw [h.typeOrPlain_eq]
    exact fun c hc => (h.single c hc).1
  have hfields : Raw.fields { lines := answerLines (some contentType) content } =
      [Notice.typeField contentType].map Field.told := by
    rw [h.answerLines_eq, Raw.fields_block h.fields_single]
  have htold : Raw.contentType? { lines := answerLines (some contentType) content } =
      some (toldType contentType) := by
    rw [Raw.contentType?, hfields, get?_toldType]
  have htype : Raw.type { lines := answerLines (some contentType) content } =
      "multipart/report" := by
    rw [Raw.type, Entity.typeOf, hfields, get?_toldType]
    exact h.type
  have hparts : Entity.multipart boundary
      (Raw.body { lines := answerLines (some contentType) content }) =
        .ok (layout.parts.map (·.lines)) := by
    rw [h.answerLines_eq, Raw.body_block h.fields_single, hlines, layout.multipart_lines hne]
  rw [read?_eq hcontent hascii, Entity.read_multipart htype (by rw [htold]; exact h.boundary) hparts,
    hfields]
  -- what a part raises, the report raises
  cases (layout.parts.map (·.lines)).mapM Entity.readPart with
  | error failure => rfl
  | ok parts =>
    have hreceipt := ofEntity_entityOf contentType parts
    exact congrArg (fun receipt => receipt >>= fun receipt => .ok (some receipt)) hreceipt

end

end Report

end As2Exchange
