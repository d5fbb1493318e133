import As2Exchange.Mime.Entity
import As2Exchange.Proofs.Mime.Header

/-!
# Written entities

An entity is written as its header block and its body. What is read from it depends on the type that
the header block tells:

- `readTo_leaf` reads a body that is a text;
- `readTo_message` reads a body that is an entity of its own.
-/

namespace As2Exchange.Mime.Entity

/-! ## Writing -/

/-- An entity as it is written: its fields, an empty line, and the lines of its body. -/
def block (fields : List Field) (body : List Line) : List Line :=
  (fields.map fun field => ended field.line) ++ ended [] :: body

/-- The type of an entity with these fields. -/
def typeOf (defaultType : String) (fields : List Field) : String :=
  match Header.get? fields "content-type" with
  | some value => ContentType.ofField value
  | none => defaultType

/-! ## Reading -/

variable [Codecs] {defaultType : String} {depth : Nat} {fields : List Field} {body : List Line}

/-- A written entity is read by its type. -/
theorem readTo_block (h : ∀ field ∈ fields, field.Writable) :
    readTo defaultType (depth + 1) (block fields body) =
      let read := fields.map Field.read
      let type := typeOf defaultType read
      if type = "message/delivery-status" then do
        return .branch read type (← (cutBlocks body).mapM (readTo "text/plain" depth))
      else if ContentType.mainType type = "message" then do
        return .branch read type [← readTo "text/plain" depth body]
      else if ContentType.mainType type = "multipart" then do
        match ← ContentType.boundary ((Header.get? read "content-type").getD "") with
        | none => return .leaf read type body.flatten
        | some boundary =>
          match multipart boundary body with
          | .error content => return .leaf read type content
          | .ok parts =>
            let inner := if type = "multipart/digest" then "message/rfc822" else "text/plain"
            return .branch read type
              (← parts.mapM fun part => return (← readTo inner depth part).chompLast)
      else return .leaf read type body.flatten := by
  -- the block is split off and its fields are read; the rest is the definition
  have hsingle : ∀ field ∈ fields, field.Single := fun field hfield => (h field hfield).single
  have hread : fields.map Field.told = fields.map Field.read :=
    List.map_congr_left fun field hfield => Header.told_eq_read (h field hfield)
  rw [readTo, block, Header.split_lines hsingle]
  dsimp only
  rw [Header.ofLines, Header.fieldsFrom_lines hsingle, hread]
  rfl

theorem readTo_leaf (h : ∀ field ∈ fields, field.Writable)
    (hmessage : ContentType.mainType (typeOf defaultType (fields.map Field.read)) ≠ "message")
    (hmultipart : ContentType.mainType (typeOf defaultType (fields.map Field.read)) ≠
      "multipart") :
    readTo defaultType (depth + 1) (block fields body) =
      .ok (.leaf (fields.map Field.read) (typeOf defaultType (fields.map Field.read))
        body.flatten) := by
  -- a delivery status is a message as well
  have hstatus : typeOf defaultType (fields.map Field.read) ≠ "message/delivery-status" := by
    intro heq
    rw [heq] at hmessage
    exact hmessage (by decide)
  rw [readTo_block h]
  dsimp only
  rw [if_neg hstatus, if_neg hmessage, if_neg hmultipart]
  rfl

theorem readTo_message (h : ∀ field ∈ fields, field.Writable)
    (htype : typeOf defaultType (fields.map Field.read) = "message/disposition-notification") :
    readTo defaultType (depth + 1) (block fields body) =
      (readTo "text/plain" depth body).map fun inner =>
        .branch (fields.map Field.read) "message/disposition-notification" [inner] := by
  rw [readTo_block h]
  dsimp only
  rw [htype, if_neg (by decide), if_pos (by decide)]
  rfl

end As2Exchange.Mime.Entity
