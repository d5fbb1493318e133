import As2Exchange.Receipt.Report
import As2Exchange.Proofs.Charset.Name

/-!
# Receipts that cannot be read

Reading a receipt fails for a content type beyond ASCII, for the name of a charset, for what a
charset that is not written out raises, for parameters that cannot be put in order, or for entities
that are nested too deep. None of these failures belongs to the exchange or to the transport, and
none is a request to stop.

- `Charset.RaisesReading` are the exceptions that charsets which are not written out raise;
- `Failure.OfReading` lists these failures, all of which are `Failure.Ordinary`;
- `Report.read?_ofReading` says that reading a receipt fails with no other ones.
-/

namespace As2Exchange

open Mime

/-- The failure belongs neither to the exchange nor to the transport, and is no request to stop. -/
def Failure.Ordinary (failure : Failure) : Prop := failure.family = .ordinary

section

variable [Codecs]

/-- A charset that is not written out raises the exception when some bytes are read in it. -/
def Charset.RaisesReading (e : Raised) : Prop := ∃ name codec bytes,
  Codecs.find? name = some codec ∧
    (codec.decode bytes = .error e ∨ codec.decodeStrict bytes = .error e)

/-- What can go wrong in reading a receipt. -/
inductive Failure.OfReading : Failure → Prop where
  /-- The content type of the answer has characters beyond ASCII. -/
  | lacking (gap : Charset.Gap) : OfReading (.charset (.lacking gap))
  /-- A charset is named by a name with a NUL, by one that is unknown, or by that of something else.
  -/
  | nulInName : OfReading (.charset .nulInName)
  | unknown (name : String) : OfReading (.charset (.unknown name))
  | notText (name : String) (writing : Bool) : OfReading (.charset (.notText name writing))
  /-- A charset that is not written out raises an exception. -/
  | codec {e : Raised} (h : Charset.RaisesReading e) : OfReading (.charset (.codec e))
  /-- A parameter stands with a number and without one. -/
  | notOrdered (left right : String) : OfReading (.misuse (.notOrdered left right))
  /-- There is no room for so many levels of entities within entities. -/
  | tooDeep : OfReading .tooDeep

theorem Failure.OfReading.ordinary {failure : Failure} (h : failure.OfReading) :
    failure.Ordinary := by
  cases h <;> rfl

/-- The kinds of these failures. A charset that is not written out may raise any kind. -/
theorem Failure.OfReading.kind {failure : Failure} (h : failure.OfReading) :
    failure.kind ∈
        ["UnicodeEncodeError", "ValueError", "LookupError", "TypeError", "RecursionError"] ∨
      ∃ e, Charset.RaisesReading e ∧ failure = .charset (.codec e) := by
  cases h with
  | codec hraises => exact .inr ⟨_, hraises, rfl⟩
  | _ => exact .inl (by simp [Failure.kind, CharsetError.kind, Misuse.kind])

/-! ## Charsets -/

namespace Charset

/-- An error that makes reading a receipt fail. -/
def Fails (e : CharsetError) : Prop := Failure.OfReading (.charset e)

theorem named_fails (name : String) : FailsIn Fails (named name false) := by
  intro e h
  -- the three ways in which a name can fail are told apart here, and all of them are listed
  rcases named_eq_error h with ⟨rfl, -⟩ | rfl | rfl
  · exact .nulInName
  · exact .unknown name
  · exact .notText name false

/-- A name that is known as that of another charset is known to the others. -/
theorem find?_of_named {name : String} {writing : Bool} {codec : Codec}
    (h : named name writing = .ok (.other codec)) : Codecs.find? (plainName name) = some codec := by
  have hknown := (named_eq_ok.1 h).2
  unfold known? at hknown
  split at hknown
  · cases hknown
  · split at hknown
    · cases hknown
    · obtain ⟨found, hfound, heq⟩ := Option.map_eq_some_iff.1 hknown
      cases heq
      exact hfound

theorem decodeNamed_fails (name : String) (bytes : Bytes) :
    FailsIn Fails (decodeNamed name bytes) := by
  unfold decodeNamed
  -- no name is looked up for no bytes, so only the rest can fail
  refine .ite (.error .nulInName) (.ite (.ok _) ?_)
  refine (named_fails name).bind fun charset hname => ?_
  cases charset with
  | own charset => exact .ok _
  | other codec =>
    intro e h
    obtain ⟨cause, hcause, rfl⟩ := mapError_eq_error.1 h
    exact .codec ⟨_, codec, bytes, find?_of_named hname, .inl hcause⟩

theorem decodeNamedStrict_fails (name : String) (bytes : Bytes) :
    FailsIn Fails (decodeNamedStrict name bytes) := by
  unfold decodeNamedStrict
  refine .ite (.error .nulInName) (.ite (.ok _) ?_)
  split
  -- with a strict reading, errors of the text itself are caught and only foreign ones get out
  · rename_i charset hname
    cases charset with
    | own charset => exact .ok _
    | other codec =>
      unfold Named.decodeStrict
      dsimp only
      split
      · exact .ok _
      · rename_i e hcause
        split
        · exact .ok _
        · exact .error (.codec ⟨_, codec, bytes, find?_of_named hname, .inr hcause⟩)
  · exact .ok _

end Charset

namespace Mime

/-! ## Parameters -/

theorem Parameter.join_ofReading (sections : List Parameter.Section) :
    FailsIn Failure.OfReading (Parameter.join sections) := by
  have horder : FailsIn Failure.OfReading (Parameter.checkOrder sections) := by
    unfold Parameter.checkOrder
    -- numbered sections are sorted, and one without a number cannot be compared with them
    split
    · exact .ok _
    · split
      · exact .ok _
      · split <;> exact .error (.notOrdered _ _)
  exact horder.bind fun _ _ => .ok _

theorem Parameter.list_ofReading (field : String) :
    FailsIn Failure.OfReading (Parameter.list field) := by
  unfold Parameter.list
  split
  · exact .ok _
  · have hjoined := FailsIn.mapM fun entry : List Char × List Parameter.Section =>
      (Parameter.join_ofReading entry.2).bind fun value _ => .ok (String.ofList entry.1, value)
    exact (hjoined _).bind fun _ _ => .ok _

namespace ContentType

theorem charset_ofReading (field : String) : FailsIn Failure.OfReading (charset field) := by
  refine (Parameter.list_ofReading field).bind fun parameters _ => ?_
  dsimp only
  split
  · exact .ok _
  · exact .ok _
  · split
    · exact .ok _
    · rename_i herror
      exact .error (Charset.decodeNamedStrict_fails _ _ _ herror)

theorem boundary_ofReading (field : String) : FailsIn Failure.OfReading (boundary field) := by
  refine (Parameter.list_ofReading field).bind fun parameters _ => ?_
  dsimp only
  split
  · exact .ok _
  · exact .ok _
  · split
    · exact .ok _
    · rename_i herror
      split
      · exact .ok _
      · exact .error (Charset.decodeNamed_fails _ _ _ herror)

end ContentType

/-! ## Entities -/

namespace Entity

/-- Entities that enclose one another are not read for a boundary, or because they are too deep. -/
theorem readTo_ofReading (defaultType : String) (depth : Nat) (lines : List Line) :
    FailsIn Failure.OfReading (readTo defaultType depth lines) := by
  -- on the levels that are left; the parts of an entity have one level less
  induction depth generalizing defaultType lines with
  | zero => exact .error .tooDeep
  | succ depth ih =>
    rw [readTo]
    dsimp only
    -- the cases are the types that enclose others, and all the rest
    refine .ite ?status (.ite ?message (.ite ?multipart (.ok _)))
    case status =>
      have hblocks := FailsIn.mapM (ih "text/plain")
      exact (hblocks _).bind fun _ _ => .ok _
    case message => exact (ih _ _).bind fun _ _ => .ok _
    case multipart =>
      refine (ContentType.boundary_ofReading _).bind fun boundary? _ => ?_
      cases boundary? with
      | none => exact .ok _
      | some boundary =>
        dsimp only
        generalize multipart boundary _ = parts?
        cases parts? with
        | error content => exact .ok _
        | ok parts =>
          have hparts := fun inner => FailsIn.mapM fun part : List Line =>
            (ih inner part).bind fun entity _ => .ok entity.chompLast
          exact (hparts _ _).bind fun _ _ => .ok _

/-- The name of the charset in which the content of an entity is read. -/
def charsetName (fields : List Field) : Except Failure String := do
  let charset? ← match Header.get? fields "content-type" with
    | some value => ContentType.charset value
    | none => pure none
  return match charset? with
    | some name => if name.isEmpty then "utf-8" else name
    | none => "utf-8"

/-- The content of an entity, read from its transfer encoding. -/
def decoded (fields : List Field) (content : Bytes) : Bytes :=
  decodeTransfer (Text.lower ((Header.get? fields "content-transfer-encoding").getD "")) content

/-- The text of an entity is its content in its charset. -/
theorem text_leaf (fields : List Field) (type : String) (content : Bytes) :
    text (leaf fields type content) = charsetName fields >>= fun name =>
      (Charset.decodeNamed name (decoded fields content)).mapError .charset := by
  unfold text charsetName decoded
  dsimp only
  -- both sides ask for the content type first and read only what it names
  cases Header.get? fields "content-type" with
  | none =>
    dsimp only [bind, Except.bind, pure, Except.pure]
    generalize Charset.decodeNamed _ _ = text?
    cases text? <;> rfl
  | some value =>
    dsimp only
    cases ContentType.charset value with
    | error failure => rfl
    | ok charset? =>
      dsimp only [bind, Except.bind, pure, Except.pure]
      generalize Charset.decodeNamed _ _ = text?
      cases text? <;> rfl

theorem charsetName_ofReading (fields : List Field) :
    FailsIn Failure.OfReading (charsetName fields) := by
  unfold charsetName
  cases Header.get? fields "content-type" with
  | none => exact .ok _
  | some value => exact (ContentType.charset_ofReading value).bind fun _ _ => .ok _

theorem text_ofReading (entity : Entity) : FailsIn Failure.OfReading entity.text := by
  cases entity with
  | branch fields type parts => exact .ok _
  | leaf fields type content =>
    rw [text_leaf]
    exact (charsetName_ofReading fields).bind fun name _ =>
      .mapError (Charset.decodeNamed_fails name _)

end Entity

end Mime

/-! ## Reports -/

namespace Report

theorem firstText_ofReading (entities : List Entity) :
    FailsIn Failure.OfReading (firstText entities) := by
  -- on the list: the search stops at the first text, or goes on to the others
  induction entities with
  | nil => exact .ok _
  | cons entity rest ih =>
    unfold firstText
    split
    · refine (entity.text_ofReading).bind fun _ _ => ?_
      dsimp only
      split
      · exact ih
      · exact .ok _
    · exact ih

theorem ofEntity_ofReading (report : Entity) : FailsIn Failure.OfReading (ofEntity report) := by
  unfold ofEntity
  split
  · exact (Entity.text_ofReading _).bind fun _ _ => .ok _
  · exact (firstText_ofReading _).bind fun _ _ => .ok _

/-- Whatever a partner answers, reading the receipt fails with one of these failures if at all. -/
theorem read?_ofReading [Nesting] (contentType? : Option String) (content : Bytes) :
    FailsIn Failure.OfReading (read? contentType? content) := by
  unfold read?
  split
  · exact .ok _
  · split
    · exact .error (.lacking _)
    · refine (Entity.readTo_ofReading _ _ _).bind fun report _ => ?_
      exact (ofEntity_ofReading report).bind fun _ _ => .ok _

end Report

end

end As2Exchange
