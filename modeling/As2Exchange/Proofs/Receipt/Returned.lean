import As2Exchange.Proofs.Receipt.Announced
import As2Exchange.Proofs.Receipt.Attributes

/-!
# Returned messages

A report may give the message back, as a part behind its text and its notification. Whatever the
message encloses is looked at as well, so notifications in it add their fields to those of the
report. The text is that of the report.

- `Report.ofEntities_append` is the receipt with further entities;
- `Report.read?_returned` says what a returned part does to a receipt, and when it does nothing.
-/

namespace As2Exchange

open Mime

namespace Mime.Entity

theorem walkAll_append (entities others : List Entity) :
    walkAll (entities ++ others) = walkAll entities ++ walkAll others := by
  induction entities with
  | nil => rfl
  | cons entity entities ih => rw [List.cons_append, walkAll, walkAll, ih, List.append_assoc]

theorem walkAll_singleton (entity : Entity) : walkAll [entity] = walk entity :=
  List.append_nil _

theorem mem_walk_self (entity : Entity) : entity ∈ walk entity := by
  cases entity with
  | leaf fields type content => exact List.mem_cons_self
  | branch fields type parts => exact List.mem_cons_self

theorem mem_walkAll {entity : Entity} {entities : List Entity} (h : entity ∈ entities) :
    entity ∈ walkAll entities := by
  induction entities with
  | nil => cases h
  | cons first entities ih =>
    rcases List.mem_cons.1 h with rfl | h
    · exact List.mem_append_left _ (mem_walk_self _)
    · exact List.mem_append_right _ (ih h)

end Mime.Entity

namespace Report

/-! ## Fields -/

theorem allFields_append (entities others : List Entity) :
    allFields (entities ++ others) = allFields entities ++ allFields others := by
  unfold allFields
  rw [List.filter_append, List.flatMap_append]

/-- The receipt with further fields. -/
def amended (receipt : Receipt) (fields : List (String × String)) : Receipt :=
  ofParts receipt.text (receipt.attributes ++ fields)

theorem amended_ofParts (text : String) (fields more : List (String × String)) :
    amended (ofParts text fields) more = ofParts text (fields ++ more) := by
  unfold amended ofParts
  dsimp only
  rw [Receipt.joined_joined_append]

/-- What a receipt tells is what the last of the fields under each name tell. -/
def Agrees (receipt : Receipt) (fields : List (String × String)) : Prop :=
  ∀ name value, fields.reverse.lookup name = some value →
    receipt.attributes.lookup name = some value

theorem amended_eq_iff {text : String} {fields more : List (String × String)} :
    amended (ofParts text fields) more = ofParts text fields ↔
      Agrees (ofParts text fields) more := by
  rw [amended_ofParts]
  refine Iff.trans ⟨fun h => ?_, fun h => ?_⟩ Receipt.joined_append_eq_iff
  · exact congrArg Receipt.attributes h
  · unfold ofParts
    rw [h]

/-! ## The last line end -/

theorem allFields_leaf (fields : List Field) (type : String) (content : Bytes) :
    allFields (Entity.leaf fields type content).walk =
      if type = notificationType then blockFields fields else [] :=
  (allFields_cons (Entity.leaf fields type content) []).trans (List.append_nil _)

/-- Of the parts of a notification only the fields count. -/
theorem allFields_branch (fields : List Field) (type : String) (parts : List Entity) :
    allFields (Entity.branch fields type parts).walk =
      (if type = notificationType then (parts.map Entity.fields).flatMap blockFields else []) ++
        allFields (Entity.walkAll parts) := by
  rw [List.flatMap_map]
  exact allFields_cons (Entity.branch fields type parts) (Entity.walkAll parts)

theorem fields_chompLast (entity : Entity) : entity.chompLast.fields = entity.fields := by
  -- both kinds of entities keep their fields in either branch
  cases entity with
  | leaf fields type content =>
    unfold Entity.chompLast
    split <;> rfl
  | branch fields type parts =>
    unfold Entity.chompLast
    split <;> rfl

theorem fields_chompEnd : ∀ entities : List Entity,
    (Entity.chompLast.chompEnd entities).map Entity.fields = entities.map Entity.fields
  | [] => rfl
  | [entity] => by
    rw [Entity.chompLast.chompEnd, List.map_singleton, List.map_singleton, fields_chompLast]
  | entity :: next :: rest => by
    rw [Entity.chompLast.chompEnd, List.map_cons, List.map_cons, fields_chompEnd (next :: rest)]

mutual

/-- Without its last line end an entity tells the same fields. -/
theorem allFields_chompLast : ∀ entity : Entity,
    allFields entity.chompLast.walk = allFields entity.walk
  -- among others just the last entity is chomped, hence the two inductions at once
  | .leaf fields type content => by
    unfold Entity.chompLast
    split
    · rfl
    · rw [allFields_leaf, allFields_leaf]
  | .branch fields type parts => by
    unfold Entity.chompLast
    split
    · rfl
    · rw [allFields_branch, allFields_branch, fields_chompEnd, allFields_chompEnd parts]

theorem allFields_chompEnd : ∀ entities : List Entity,
    allFields (Entity.walkAll (Entity.chompLast.chompEnd entities)) =
      allFields (Entity.walkAll entities)
  | [] => rfl
  | [entity] => by
    rw [Entity.chompLast.chompEnd, Entity.walkAll_singleton, Entity.walkAll_singleton,
      allFields_chompLast entity]
  | entity :: next :: rest => by
    rw [Entity.chompLast.chompEnd, Entity.walkAll, Entity.walkAll, allFields_append,
      allFields_append, allFields_chompEnd (next :: rest)]

end

section

variable [Codecs] {entities others : List Entity}

/-! ## Further entities -/

theorem firstText_part {first : Entity} (h : isTextPart first = true) (rest : List Entity) :
    firstText (first :: rest) = do
      let text := Text.strip (← first.text)
      if text.isEmpty then firstText rest else return text := by
  rw [firstText, if_pos h]

/-- The search for the text goes on behind an entity, or it ends there with a text or a failure. -/
theorem firstText_cons (first : Entity) :
    (∀ rest, firstText (first :: rest) = firstText rest) ∨
      ∃ found, found ≠ .ok "" ∧ ∀ rest, firstText (first :: rest) = found := by
  -- the cases of the search: a part with a text, a part that is blank, or no part to look at
  by_cases hpart : isTextPart first = true
  · simp only [firstText_part hpart]
    cases first.text with
    | error failure => exact .inr ⟨.error failure, nofun, fun rest => rfl⟩
    | ok text =>
      dsimp only [bind, Except.bind]
      generalize Text.strip text = text
      by_cases hempty : text.isEmpty = true
      · exact .inl fun rest => if_pos hempty
      · refine .inr ⟨.ok text, fun hblank => ?_, fun rest => if_neg hempty⟩
        exact hempty (String.isEmpty_iff.2 (Except.ok.inj hblank))
  · refine .inl fun rest => ?_
    rw [firstText, if_neg hpart]

/-- A text that is found is the text, whatever follows. -/
theorem firstText_append (h : firstText entities ≠ .ok "") :
    firstText (entities ++ others) = firstText entities := by
  induction entities with
  | nil => exact absurd rfl h
  | cons first rest ih =>
    rw [List.cons_append]
    rcases firstText_cons first with hskip | ⟨found, -, hfound⟩
    · rw [hskip] at h ⊢
      rw [hskip, ih h]
    · rw [hfound, hfound]

/-- The entity is a text for people that holds more than blanks. -/
def TellsText (entity : Entity) : Prop :=
  isTextPart entity = true ∧ ∃ text, entity.text = .ok text ∧ Text.strip text ≠ ""

/-- Where there is a text for people, one is found, or the search fails. -/
theorem firstText_ne_blank {entity : Entity} (h : TellsText entity) (hmem : entity ∈ entities) :
    firstText entities ≠ .ok "" := by
  induction entities with
  | nil => cases hmem
  | cons first rest ih =>
    -- the entity with the text comes first, or the search ends before it or goes on to it
    rcases List.mem_cons.1 hmem with rfl | hrest
    · obtain ⟨hpart, text, htext, hstrip⟩ := h
      rw [firstText_part hpart, htext]
      dsimp only [bind, Except.bind]
      rw [if_neg (mt String.isEmpty_iff.1 hstrip)]
      exact fun hblank => hstrip (Except.ok.inj hblank)
    · rcases firstText_cons first with hskip | ⟨found, hne, hfound⟩
      · rw [hskip]
        exact ih hrest
      · rw [hfound]
        exact hne

/-- Further entities add their fields, and their texts do not count. -/
theorem ofEntities_append {entity : Entity} (h : TellsText entity) (hmem : entity ∈ entities)
    (others : List Entity) : ofEntities (entities ++ others) =
      (ofEntities entities).map fun receipt => amended receipt (allFields others) := by
  unfold ofEntities
  rw [firstText_append (firstText_ne_blank h hmem), allFields_append]
  cases firstText entities with
  | error failure => rfl
  | ok text => exact congrArg Except.ok (amended_ofParts text _ _).symm

/-! ## A returned part -/

variable [Nesting] {contentType : String} {boundary : List Char}

/-- A part of the report is a text for people that holds more than blanks. -/
def HasText (layout : Entity.Layout boundary) : Prop :=
  ∃ part ∈ layout.parts, ∃ entity, Entity.readPart part.lines = .ok entity ∧ TellsText entity

/-- A part at the end of a report is read behind the others, and only its fields count. -/
theorem read?_attach (h : Announces contentType boundary) {layout : Entity.Layout boundary}
    (htext : HasText layout) (original : Entity.Part boundary) {content : Bytes}
    (hlines : lines content = (layout.attach original).lines) :
    read? (some contentType) content = do
      let parts ← (layout.parts.map (·.lines)).mapM Entity.readPart
      let entity ← Entity.readWithin original.lines
      return some (amended (← ofEntities (Entity.walkAll parts)) (allFields entity.walk)) := by
  have hparts : (layout.attach original).parts.map (·.lines) =
      layout.parts.map (·.lines) ++ [original.lines] := List.map_append
  -- the new part is the last one, so it is read only when all others could be
  rw [read?_layout h _ (List.append_ne_nil_of_right_ne_nil _ (List.cons_ne_nil _ _)) hlines, hparts,
    List.mapM_append, List.mapM_cons, List.mapM_nil]
  cases hread : (layout.parts.map (·.lines)).mapM Entity.readPart with
  | error failure => rfl
  | ok parts =>
    cases hentity : Entity.readWithin original.lines with
    | error failure =>
      rw [Entity.readPart, hentity]
      rfl
    | ok entity =>
      -- among the parts is the one with the text
      obtain ⟨part, hpart, told, htold, htells⟩ := htext
      obtain ⟨told', hmem, htold'⟩ := exists_of_mapM_ok hread (List.mem_map_of_mem hpart)
      cases htold.symm.trans htold'
      have hreceipt := ofEntities_append htells (Entity.mem_walkAll hmem) entity.chompLast.walk
      rw [Entity.readPart, hentity]
      show (do return some (← ofEntities (Entity.walkAll (parts ++ [entity.chompLast]))) :
        Except Failure (Option Receipt)) =
          do return some (amended (← ofEntities (Entity.walkAll parts)) (allFields entity.walk))
      rw [Entity.walkAll_append, Entity.walkAll_singleton, hreceipt, allFields_chompLast]
      cases ofEntities (Entity.walkAll parts) with
      | error failure => rfl
      | ok receipt => rfl

theorem HasText.parts_ne_nil {layout : Entity.Layout boundary} (h : HasText layout) :
    layout.parts ≠ [] := by
  obtain ⟨part, hpart, -⟩ := h
  exact List.ne_nil_of_mem hpart

section Returned

variable (h : Announces contentType boundary) {layout : Entity.Layout boundary}
  (htext : HasText layout) (original : Entity.Part boundary) {content content' : Bytes}
  (hlines : lines content = layout.lines) (hlines' : lines content' = (layout.attach original).lines)

include h htext hlines

/-- The receipt of a report is made of a text and of fields. -/
theorem exists_ofParts {receipt : Receipt}
    (hread : read? (some contentType) content = .ok (some receipt)) :
    ∃ text fields, receipt = ofParts text fields := by
  rw [read?_layout h layout htext.parts_ne_nil hlines] at hread
  obtain ⟨parts, -, hread⟩ := bind_eq_ok.1 hread
  obtain ⟨receipt, hreceipt, hread⟩ := bind_eq_ok.1 hread
  obtain ⟨text, -, hreceipt⟩ := bind_eq_ok.1 hreceipt
  cases hreceipt
  cases hread
  exact ⟨text, _, rfl⟩

include hlines'

/-- The report with a further part is read just if the report is and the part is. -/
theorem read?_attach_iff {receipt' : Receipt} :
    read? (some contentType) content' = .ok (some receipt') ↔
      ∃ receipt entity, read? (some contentType) content = .ok (some receipt) ∧
        Entity.readWithin original.lines = .ok entity ∧
        receipt' = amended receipt (allFields entity.walk) := by
  rw [read?_attach h htext original hlines', read?_layout h layout htext.parts_ne_nil hlines]
  -- both sides are one chain of reading, in which the returned part comes before the receipt
  constructor
  · intro hread
    obtain ⟨parts, hparts, hread⟩ := bind_eq_ok.1 hread
    obtain ⟨entity, hentity, hread⟩ := bind_eq_ok.1 hread
    obtain ⟨receipt, hreceipt, hread⟩ := bind_eq_ok.1 hread
    cases hread
    exact ⟨receipt, entity, bind_eq_ok.2 ⟨parts, hparts, bind_eq_ok.2 ⟨receipt, hreceipt, rfl⟩⟩,
      hentity, rfl⟩
  · rintro ⟨receipt, entity, hread, hentity, rfl⟩
    obtain ⟨parts, hparts, hread⟩ := bind_eq_ok.1 hread
    obtain ⟨receipt, hreceipt, hread⟩ := bind_eq_ok.1 hread
    cases hread
    exact bind_eq_ok.2 ⟨parts, hparts, bind_eq_ok.2 ⟨entity, hentity,
      bind_eq_ok.2 ⟨receipt, hreceipt, rfl⟩⟩⟩

end Returned

/-- **A returned part adds its fields to the receipt, and nothing else.** The report is read with it
just if it is without it and the part is; the receipt is the same just if the fields of all
notifications in the part agree with it. -/
theorem read?_returned (h : Announces contentType boundary) {layout : Entity.Layout boundary}
    (htext : HasText layout) (original : Entity.Part boundary) {content content' : Bytes}
    (hlines : lines content = layout.lines)
    (hlines' : lines content' = (layout.attach original).lines) :
    (∀ receipt', read? (some contentType) content' = .ok (some receipt') ↔
      ∃ receipt entity, read? (some contentType) content = .ok (some receipt) ∧
        Entity.readWithin original.lines = .ok entity ∧
        receipt' = amended receipt (allFields entity.walk)) ∧
    ∀ receipt, read? (some contentType) content = .ok (some receipt) →
      (read? (some contentType) content' = .ok (some receipt) ↔
        ∃ entity, Entity.readWithin original.lines = .ok entity ∧
          Agrees receipt (allFields entity.walk)) := by
  refine ⟨fun receipt' => read?_attach_iff h htext original hlines hlines', fun receipt hread => ?_⟩
  obtain ⟨text, fields, rfl⟩ := exists_ofParts h htext hlines hread
  rw [read?_attach_iff h htext original hlines hlines']
  constructor
  -- the receipt is a function of the answer, so it is the one that the report gives on its own
  · rintro ⟨receipt, entity, hread', hentity, heq⟩
    cases hread.symm.trans hread'
    exact ⟨entity, hentity, amended_eq_iff.1 heq.symm⟩
  · rintro ⟨entity, hentity, hagrees⟩
    exact ⟨_, entity, hread, hentity, (amended_eq_iff.2 hagrees).symm⟩

end

namespace Returned

def reportType : String := ContentType.quoted "b"

def line (text : String) : Line := ended (Bytes.ofAscii text.toList)

/-- The report of a message that could not be decrypted. -/
def rejection : Entity.Layout ['b'] where
  parts :=
    [{ opening := line "--b"
       lines := ["Content-Type: text/plain", "", "rejected"].map line
       opens := by decide
       isPart := ⟨by decide, by decide⟩ },
     { opening := line "--b"
       lines := ["Content-Type: message/disposition-notification", "",
         "Disposition: a; processed/error: decryption-failed"].map line
       opens := by decide
       isPart := ⟨by decide, by decide⟩ }]
  closing := line "--b--"
  preamble_apart := by decide
  closes := by decide

/-- A message that is itself a notification: the last of its dispositions is that of the report. -/
def echo : Entity.Part ['b'] where
  opening := line "--b"
  lines := ["Content-Type: message/rfc822", "", "Content-Type: message/disposition-notification",
    "", "Disposition: a; processed", "Disposition: a; processed/error: decryption-failed"].map line
  opens := by decide
  isPart := ⟨by decide, by decide⟩

/-- A message that is itself a notification of success. -/
def forgery : Entity.Part ['b'] where
  opening := line "--b"
  lines := ["Content-Type: message/rfc822", "", "Content-Type: message/disposition-notification",
    "", "Disposition: a; processed"].map line
  opens := by decide
  isPart := ⟨by decide, by decide⟩

def receipt (disposition : String) : Receipt :=
  { text := "rejected", disposition := some disposition, attributes := [("disposition", disposition)] }

attribute [local instance] Codecs.empty Nesting.thousand

theorem read?_rejection : read? (some reportType) rejection.lines.flatten =
    .ok (some (receipt "a; processed/error: decryption-failed")) :=
  eq_ok_of_toOption (by decide +kernel)

theorem announces_reportType : Announces reportType ['b'] :=
  announces_quoted (show ∀ c ∈ "b".toList, Entity.isBoundaryChar c = true by decide)

theorem hasText_rejection : HasText rejection := by
  have htold : (Entity.readPart (["Content-Type: text/plain", "", "rejected"].map line)).toOption.map
      (fun part => (isTextPart part, part.text.toOption.map Text.strip)) =
        some (true, some "rejected") := by
    decide +kernel
  obtain ⟨part, hpart, htold⟩ := Option.map_eq_some_iff.1 htold
  obtain ⟨hplain, htext⟩ := Prod.mk.inj htold
  obtain ⟨text, htext, hstrip⟩ := Option.map_eq_some_iff.1 htext
  refine ⟨_, List.mem_cons_self, part, eq_ok_of_toOption hpart, hplain, text,
    eq_ok_of_toOption htext, ?_⟩
  rw [hstrip]
  decide

theorem lines_rejection : lines rejection.lines.flatten = rejection.lines := by decide +kernel

end Returned

attribute [local instance] Codecs.empty Nesting.thousand

open Returned in
/-- With a notification in the message that agrees at last, the receipt of a rejection stays as it
is. -/
theorem read?_returned_echo :
    Announces reportType ['b'] ∧ HasText rejection ∧
    lines rejection.lines.flatten = rejection.lines ∧
    lines (rejection.attach echo).lines.flatten = (rejection.attach echo).lines ∧
    read? (some reportType) rejection.lines.flatten =
      .ok (some (receipt "a; processed/error: decryption-failed")) ∧
    read? (some reportType) (rejection.attach echo).lines.flatten =
      .ok (some (receipt "a; processed/error: decryption-failed")) := by
  have hlines : lines (rejection.attach echo).lines.flatten = (rejection.attach echo).lines := by
    decide +kernel
  have htold : (Entity.readWithin echo.lines).toOption.map (fun part => allFields part.walk) =
      some [("disposition", "a; processed"),
        ("disposition", "a; processed/error: decryption-failed")] := by
    decide +kernel
  obtain ⟨part, hpart, htold⟩ := Option.map_eq_some_iff.1 htold
  have hagrees : Agrees (receipt "a; processed/error: decryption-failed") (allFields part.walk) := by
    intro name value hvalue
    rw [htold] at hvalue
    by_cases hname : name = "disposition"
    · subst hname
      exact hvalue
    · rw [List.reverse_cons, List.reverse_singleton, List.singleton_append, lookup_cons_eq,
        lookup_cons_eq, if_neg hname, if_neg hname] at hvalue
      cases hvalue
  have hsame := (read?_returned announces_reportType hasText_rejection echo lines_rejection hlines).2
    _ read?_rejection
  exact ⟨announces_reportType, hasText_rejection, lines_rejection, hlines, read?_rejection,
    hsame.2 ⟨part, eq_ok_of_toOption hpart, hagrees⟩⟩

open Returned in
/-- With a forged notification in the message, a rejection is read as a success. -/
theorem read?_forged :
    read? (some reportType) rejection.lines.flatten =
        .ok (some (receipt "a; processed/error: decryption-failed")) ∧
      (receipt "a; processed/error: decryption-failed").isError = true ∧
      read? (some reportType) (rejection.attach forgery).lines.flatten =
        .ok (some (receipt "a; processed")) ∧
      (receipt "a; processed").isError = false := by
  have hlines : lines (rejection.attach forgery).lines.flatten =
      (rejection.attach forgery).lines := by
    decide +kernel
  have htold : (Entity.readWithin forgery.lines).toOption.map (fun part => allFields part.walk) =
      some [("disposition", "a; processed")] := by
    decide +kernel
  obtain ⟨part, hpart, htold⟩ := Option.map_eq_some_iff.1 htold
  refine ⟨read?_rejection, by decide +kernel, ?_, by decide +kernel⟩
  refine (read?_attach_iff announces_reportType hasText_rejection forgery lines_rejection hlines).2
    ⟨_, part, read?_rejection, eq_ok_of_toOption hpart, ?_⟩
  rw [htold]
  decide

end Report

end As2Exchange
