import As2Exchange.Proofs.Mime.Entity
import As2Exchange.Proofs.Mime.Mixed

/-!
# Enclosed entities

Reading an entity reads all that it encloses, level by level, as far as there is room for levels.
The reading fails just if there are more of them, or if some multipart on the way has a boundary
that cannot be read.

- `Raw` is an entity before it is read, `Raw.inner` are the ones that its body consists of;
- `Raw.Encloses` says how deep an entity stands in another one;
- `Raw.readTo_isOk_iff` says when a reading succeeds;
- `Entity.read_multipart` reads a multipart by its parts, for which there is one level less.
-/

namespace As2Exchange.Mime

/-- An entity before it is read. -/
structure Raw where
  /-- Whether it is a part of a digest, and so a message unless it says otherwise. -/
  inDigest : Bool := false
  lines : List Line

/-- A step that wraps the results of a list of steps succeeds if they do. -/
theorem mapM_return_isOk {ε α β γ : Type} (step : α → Except ε β) (wrap : List β → γ)
    (as : List α) : (do return wrap (← as.mapM step) : Except ε γ).isOk = true ↔
      ∀ a ∈ as, (step a).isOk = true := by
  rw [bind_isOk_of_ok fun _ => rfl, mapM_isOk, List.all_eq_true]

namespace Raw

def defaultType (raw : Raw) : String := if raw.inDigest then "message/rfc822" else "text/plain"

def fields (raw : Raw) : List Field := (Header.ofLines (Header.split raw.lines).1).1

/-- The lines behind the header block, with an envelope line that has ended it. -/
def body (raw : Raw) : List Line :=
  (Header.ofLines (Header.split raw.lines).1).2.toList ++ (Header.split raw.lines).2

def contentType? (raw : Raw) : Option String := Header.get? raw.fields "content-type"

def type (raw : Raw) : String := Entity.typeOf raw.defaultType raw.fields

theorem not_message_of_multipart {raw : Raw}
    (h : ContentType.mainType raw.type = "multipart") :
    raw.type ≠ "message/delivery-status" ∧ ContentType.mainType raw.type ≠ "message" := by
  refine ⟨fun heq => ?_, by rw [h]; decide⟩
  rw [heq] at h
  exact absurd h (by decide)

/-- A written entity before it is read: its fields, and the lines of its body. -/
theorem fields_block {fields : List Field} (h : ∀ field ∈ fields, field.Single) (body : List Line) :
    Raw.fields { lines := Entity.block fields body } = fields.map Field.told := by
  unfold Raw.fields Entity.block
  dsimp only
  rw [Header.split_lines h, Header.ofLines, Header.fieldsFrom_lines h]

theorem body_block {fields : List Field} (h : ∀ field ∈ fields, field.Single) (body : List Line) :
    Raw.body { lines := Entity.block fields body } = body := by
  unfold Raw.body Entity.block
  dsimp only
  rw [Header.split_lines h, Header.ofLines, Header.fieldsFrom_lines h]
  rfl

variable [Codecs]

/-- A multipart has a boundary that can be read, if it has one. -/
def Bounded (raw : Raw) : Prop := ContentType.mainType raw.type = "multipart" →
  ContentType.Readable (raw.contentType?.getD "") .boundary

/-- The entities that the body consists of. -/
def inner (raw : Raw) : List Raw :=
  if raw.type = "message/delivery-status" then
    (Entity.cutBlocks raw.body).map fun block => { lines := block }
  else if ContentType.mainType raw.type = "message" then [{ lines := raw.body }]
  else if ContentType.mainType raw.type = "multipart" then
    match ContentType.boundary (raw.contentType?.getD "") with
    | .ok (some boundary) =>
      match Entity.multipart boundary raw.body with
      | .ok parts => parts.map fun part => ⟨raw.type = "multipart/digest", part⟩
      | .error _ => []
    | _ => []
  else []

/-- One entity encloses another, so many levels within it, or is it. -/
inductive Encloses : Nat → Raw → Raw → Prop where
  | self (raw : Raw) : Encloses 0 raw raw
  | step {level : Nat} {raw inner enclosed : Raw} (hinner : inner ∈ raw.inner)
      (h : Encloses level inner enclosed) : Encloses (level + 1) raw enclosed

variable {raw : Raw}

/-! ## Reading -/

/-- Reads an entity, with at most `depth` levels of enclosed ones. -/
def readTo (depth : Nat) (raw : Raw) : Except Failure Entity :=
  Entity.readTo raw.defaultType depth raw.lines

/-- The parts of a digest are read with a default type of their own. -/
theorem readTo_part {inDigest : Prop} [Decidable inDigest] (depth : Nat) (part : List Line) :
    readTo depth ⟨decide inDigest, part⟩ =
      Entity.readTo (if inDigest then "message/rfc822" else "text/plain") depth part := by
  unfold readTo defaultType
  simp only [decide_eq_true_eq]

/-- An entity is read by its type, from what is read of the entities in its body. -/
theorem readTo_succ (depth : Nat) (raw : Raw) : raw.readTo (depth + 1) =
    if raw.type = "message/delivery-status" then do
      return .branch raw.fields raw.type (← raw.inner.mapM (readTo depth))
    else if ContentType.mainType raw.type = "message" then do
      return .branch raw.fields raw.type (← raw.inner.mapM (readTo depth))
    else if ContentType.mainType raw.type = "multipart" then do
      match ← ContentType.boundary (raw.contentType?.getD "") with
      | none => return .leaf raw.fields raw.type raw.body.flatten
      | some boundary =>
        match Entity.multipart boundary raw.body with
        | .error content => return .leaf raw.fields raw.type content
        | .ok _ =>
          return .branch raw.fields raw.type
            (← raw.inner.mapM fun part => return (← readTo depth part).chompLast)
    else return .leaf raw.fields raw.type raw.body.flatten := by
  -- the reader calls itself on lines: the same with the entities that these lines are
  have hread : raw.readTo (depth + 1) =
      if raw.type = "message/delivery-status" then do
        return .branch raw.fields raw.type
          (← (Entity.cutBlocks raw.body).mapM (Entity.readTo "text/plain" depth))
      else if ContentType.mainType raw.type = "message" then do
        return .branch raw.fields raw.type [← Entity.readTo "text/plain" depth raw.body]
      else if ContentType.mainType raw.type = "multipart" then do
        match ← ContentType.boundary (raw.contentType?.getD "") with
        | none => return .leaf raw.fields raw.type raw.body.flatten
        | some boundary =>
          match Entity.multipart boundary raw.body with
          | .error content => return .leaf raw.fields raw.type content
          | .ok parts =>
            let inner := if raw.type = "multipart/digest" then "message/rfc822" else "text/plain"
            return .branch raw.fields raw.type
              (← parts.mapM fun part => return (← Entity.readTo inner depth part).chompLast)
      else return .leaf raw.fields raw.type raw.body.flatten := by
    rw [readTo, Entity.readTo]
    rfl
  rw [hread]
  unfold inner
  -- one case per type, in the order in which they are asked for
  split
  · rw [List.mapM_map]
    rfl
  split
  · have hlone : readTo depth { lines := raw.body } =
        Entity.readTo "text/plain" depth raw.body := rfl
    rw [List.mapM_cons, List.mapM_nil, hlone]
    cases Entity.readTo "text/plain" depth raw.body <;> rfl
  split
  · cases ContentType.boundary (raw.contentType?.getD "") with
    | error failure => rfl
    | ok boundary? =>
      cases boundary? with
      | none => rfl
      | some boundary =>
        dsimp only [bind, Except.bind]
        cases Entity.multipart boundary raw.body with
        | error content => rfl
        | ok parts => simp only [List.mapM_map, Function.comp_def, readTo_part]
  · rfl

/-! ## Multiparts -/

section Multipart

variable (hmultipart : ContentType.mainType raw.type = "multipart")

include hmultipart

/-- A multipart without a boundary, or without its first boundary line, encloses nothing. -/
theorem inner_of_multipart : raw.inner =
    match ContentType.boundary (raw.contentType?.getD "") with
    | .ok (some boundary) =>
      match Entity.multipart boundary raw.body with
      | .ok parts => parts.map fun part => ⟨raw.type = "multipart/digest", part⟩
      | .error _ => []
    | _ => [] := by
  obtain ⟨hstatus, hmessage⟩ := not_message_of_multipart hmultipart
  rw [inner, if_neg hstatus, if_neg hmessage, if_pos hmultipart]

theorem readTo_succ_of_multipart (depth : Nat) : raw.readTo (depth + 1) = do
    match ← ContentType.boundary (raw.contentType?.getD "") with
    | none => return .leaf raw.fields raw.type raw.body.flatten
    | some boundary =>
      match Entity.multipart boundary raw.body with
      | .error content => return .leaf raw.fields raw.type content
      | .ok _ =>
        return .branch raw.fields raw.type
          (← raw.inner.mapM fun part => return (← readTo depth part).chompLast) := by
  obtain ⟨hstatus, hmessage⟩ := not_message_of_multipart hmultipart
  rw [readTo_succ, if_neg hstatus, if_neg hmessage, if_pos hmultipart]

/-- A multipart is read if its boundary can be, and all of its parts are. -/
theorem readTo_multipart_isOk_iff {depth : Nat} : (readTo (depth + 1) raw).isOk = true ↔
    raw.Bounded ∧ ∀ part ∈ raw.inner, (readTo depth part).isOk = true := by
  have hbounded : raw.Bounded ↔
      (ContentType.boundary (raw.contentType?.getD "")).isOk = true :=
    (forall_prop_of_true hmultipart).trans ContentType.boundary_isOk_iff.symm
  have hinner := inner_of_multipart hmultipart
  rw [hbounded, readTo_succ_of_multipart hmultipart]
  cases hboundary : ContentType.boundary (raw.contentType?.getD "") with
  | error failure => exact iff_of_false Bool.false_ne_true fun h => Bool.false_ne_true h.1
  | ok boundary? =>
    rw [hboundary] at hinner
    refine Iff.trans ?_ (and_iff_right rfl).symm
    -- the boundary can be read: what is left are the parts, if there are any
    cases boundary? with
    | none =>
      rw [hinner]
      exact iff_of_true rfl nofun
    | some boundary =>
      dsimp only [bind, Except.bind] at hinner ⊢
      cases hparts : Entity.multipart boundary raw.body with
      | error content =>
        rw [hparts] at hinner
        rw [hinner]
        exact iff_of_true rfl nofun
      | ok parts =>
        have hstep : ∀ part, (do return (← readTo depth part).chompLast :
            Except Failure Entity).isOk = (readTo depth part).isOk := fun part =>
          bind_isOk_of_ok fun _ => rfl
        refine (mapM_return_isOk (fun part => do
          return (← readTo depth part).chompLast) _ _).trans ?_
        simp only [hstep]

end Multipart

/-! ## All that is enclosed -/

/-- An entity is read if its boundary can be, and all that its body consists of is. -/
theorem readTo_succ_isOk_iff {depth : Nat} : (readTo (depth + 1) raw).isOk = true ↔
    raw.Bounded ∧ ∀ part ∈ raw.inner, (readTo depth part).isOk = true := by
  by_cases hmultipart : ContentType.mainType raw.type = "multipart"
  · exact readTo_multipart_isOk_iff hmultipart
  · -- only a multipart can fail by itself, all other types are as good as what they enclose
    have hbounded : raw.Bounded := fun h => absurd h hmultipart
    rw [readTo_succ, and_iff_right hbounded, if_neg hmultipart]
    split
    · exact mapM_return_isOk _ _ _
    split
    · exact mapM_return_isOk _ _ _
    · rename_i hstatus hmessage
      have hnone : raw.inner = [] := by
        rw [inner, if_neg hstatus, if_neg hmessage, if_neg hmultipart]
      rw [hnone]
      exact iff_of_true rfl nofun

/-- **An entity is read just if all it encloses stand within the levels**, with boundaries that can
be read. -/
theorem readTo_isOk_iff {depth : Nat} : (readTo depth raw).isOk = true ↔
    ∀ level enclosed, Encloses level raw enclosed → level < depth ∧ enclosed.Bounded := by
  -- on the levels that are left, for all entities at once: those enclosed have others inside
  induction depth generalizing raw with
  | zero =>
    -- there is no room for the entity itself
    exact iff_of_false Bool.false_ne_true fun hall =>
      Nat.not_lt_zero _ (hall 0 raw (.self raw)).1
  | succ depth ih =>
    rw [readTo_succ_isOk_iff]
    constructor
    -- what stands a level deeper is enclosed by one of the parts
    · rintro ⟨hbounded, hparts⟩ level enclosed hencloses
      cases hencloses with
      | self => exact ⟨Nat.succ_pos _, hbounded⟩
      | step hmem hrest =>
        obtain ⟨hlevel, hinner⟩ := ih.1 (hparts _ hmem) _ enclosed hrest
        exact ⟨Nat.succ_lt_succ hlevel, hinner⟩
    · intro hall
      refine ⟨(hall 0 raw (.self raw)).2, fun part hpart => ih.2 fun level enclosed hrest => ?_⟩
      obtain ⟨hlevel, hinner⟩ := hall (level + 1) enclosed (.step hpart hrest)
      exact ⟨Nat.lt_of_succ_lt_succ hlevel, hinner⟩

end Raw

/-- There is always room for a few levels. -/
theorem Nesting.exists_levels [Nesting] (room : Nat) (h : room ≤ 16) :
    ∃ depth, Nesting.levels = depth + room := by
  obtain ⟨depth, hdepth⟩ := Nat.exists_eq_add_of_le (Nat.le_trans h Nesting.enough)
  exact ⟨depth, hdepth.trans (Nat.add_comm _ _)⟩

namespace Entity

variable [Codecs] [Nesting] {lines : List Line}

/-- **Lines are read as an entity just if there is room for all that is in them**, and no multipart
in them has an unreadable boundary. -/
theorem read_isOk_iff : (read lines).isOk = true ↔ ∀ level enclosed,
    Raw.Encloses level { lines } enclosed → level < Nesting.levels ∧ enclosed.Bounded :=
  @Raw.readTo_isOk_iff _ { lines } Nesting.levels

/-- Reads an entity that stands in another one, so that there is one level less for it. -/
def readWithin (lines : List Line) : Except Failure Entity :=
  readTo "text/plain" (Nesting.levels - 1) lines

/-- Reads a part of a multipart, without the line end that belongs to the next boundary line. -/
def readPart (lines : List Line) : Except Failure Entity := (readWithin lines).map chompLast

/-- **A multipart is read by its parts.** -/
theorem read_multipart {boundary : List Char} {parts : List (List Line)}
    (htype : Raw.type { lines } = "multipart/report")
    (hboundary : ContentType.boundary ((Raw.contentType? { lines }).getD "") = .ok (some boundary))
    (hparts : multipart boundary (Raw.body { lines }) = .ok parts) :
    read lines = do
      return .branch (Raw.fields { lines }) "multipart/report" (← parts.mapM readPart) := by
  have hmultipart : ContentType.mainType (Raw.type { lines }) = "multipart" := by
    rw [htype]
    decide
  have hinner : Raw.inner { lines } = parts.map fun part => { lines := part } := by
    rw [Raw.inner_of_multipart hmultipart, hboundary]
    dsimp only
    rw [hparts, htype]
    rfl
  obtain ⟨depth, hdepth⟩ := Nesting.exists_levels 1 (by decide)
  -- both sides read the parts one level further down
  have hsteps : (Raw.inner { lines }).mapM (fun part => do
      return (← Raw.readTo depth part).chompLast) = parts.mapM readPart := by
    rw [hinner, List.mapM_map]
    refine mapM_congr fun part _ => ?_
    unfold readPart readWithin
    rw [hdepth, Nat.add_sub_cancel]
    show (do return (← readTo "text/plain" depth part).chompLast) = _
    cases readTo "text/plain" depth part <;> rfl
  have hread : read lines = Raw.readTo (depth + 1) { lines } :=
    congrArg (Raw.readTo · { lines }) hdepth
  rw [hread, Raw.readTo_succ_of_multipart hmultipart, hboundary, htype, ← hsteps]
  show (match multipart boundary (Raw.body { lines }) with
    | .error content => _
    | .ok _ => _) = _
  rw [hparts]

end Entity

end As2Exchange.Mime
