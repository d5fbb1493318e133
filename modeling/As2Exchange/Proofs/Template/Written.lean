import As2Exchange.Proofs.Template.Expansion

/-!
# Written templates

A template is written from pieces: literal texts, in which every curly bracket is doubled, and names
of fields in single brackets. It expands to the literal texts and the texts of the fields, one
behind the other. The expansion does not look into these texts, so brackets in them mean nothing.

- `Piece.written` is a piece as it stands in a template;
- `Reads` says what the rest of a template comes to, whatever literal text is under way;
- `expandTo_written` says that a written template expands to the texts of its pieces.
-/

namespace As2Exchange.Template

/-! ## Pieces -/

/-- A piece of a template to be written; fields are given by something that has a name. -/
inductive Piece (α : Type) where
  | literal (text : String)
  | field (a : α)

/-- A character as a literal text has it in a template. -/
def doubled (c : Char) : List Char := if c = '\x7b' ∨ c = '\x7d' then [c, c] else [c]

namespace Piece

variable {α : Type}

/-- A piece as it stands in a template. -/
def written (name : α → String) : Piece α → List Char
  | literal text => text.toList.flatMap doubled
  | field a => '\x7b' :: (name a).toList ++ ['\x7d']

/-- What a piece stands for, given the texts of the fields. -/
def text (value : α → String) : Piece α → String
  | literal text => text
  | field a => value a

end Piece

/-- A name of a field that is read as it stands: it has no character that ends it, and no bracket
within which others would not. -/
structure IsName (name : List Char) : Prop where
  ne : name ≠ []
  plain : ∀ c ∈ name, c ∉ ['\x7b', '\x7d', ':', '!', '[']

/-! ## Reading names -/

theorem scanName_plain {name : List Char} (h : ∀ c ∈ name, c ∉ ['\x7b', '\x7d', ':', '!', '['])
    (read rest : List Char) :
    scanName false read (name ++ '\x7d' :: rest) = (read.reverse ++ name, .closing, rest) := by
  induction name generalizing read with
  | nil => simp [scanName]
  | cons c name ih =>
    have hc : c ≠ '\x7b' ∧ c ≠ '\x7d' ∧ c ≠ ':' ∧ c ≠ '!' ∧ c ≠ '[' := by
      simpa using h c List.mem_cons_self
    obtain ⟨hopening, hclosing, hcolon, hmark, hsquare⟩ := hc
    -- none of the five characters that the scan stops at, so it goes on inside the name
    have hrest := ih (fun d hd => h d (List.mem_cons_of_mem _ hd)) (c :: read)
    rw [List.cons_append, scanName, if_neg hopening, if_neg hclosing, if_neg hcolon, if_neg hmark,
      decide_eq_false hsquare, hrest, List.reverse_cons, List.append_assoc]
    rfl

/-- A name in single brackets is a field without a conversion and a layout. -/
theorem scanField_plain {name : List Char} (h : IsName name) (rest : List Char) :
    scanField (name ++ '\x7d' :: rest) = .ok (⟨name, none, []⟩, rest) := by
  unfold scanField
  rw [scanName_plain h.plain]
  rfl

/-- The field is a stretch behind the literal text that was under way. -/
theorem segmentsFrom_field {name : List Char} (h : IsName name) (before rest : List Char) :
    segmentsFrom before ('\x7b' :: (name ++ '\x7d' :: rest)) =
      .literal before.reverse :: .field ⟨name, none, []⟩ :: segmentsFrom [] rest := by
  obtain ⟨c, more, rfl⟩ := List.exists_cons_of_ne_nil h.ne
  -- an opening bracket at once would be a doubled one, and no field
  have hc : c ≠ '\x7b' := by
    have hplain := h.plain c List.mem_cons_self
    rintro rfl
    exact hplain (by decide)
  have hscan := scanField_plain h rest
  rw [List.cons_append] at hscan ⊢
  rw [segmentsFrom, if_neg (by decide), if_pos rfl]
  dsimp only
  rw [if_neg hc]
  split
  · rename_i flaw herror
    rw [hscan] at herror
    cases herror
  · rename_i field rest' hok
    rw [hscan] at hok
    cases hok
    rfl

/-! ## Expanding stretches -/

variable [Objects] {fields : List (String × String)} {depth : Nat}

/-- The texts of several stretches, one behind the other. -/
def stretchesText (fields : List (String × String)) (depth : Nat) (stretches : List Segment) :
    Except TemplateError (List Char) := do
  let parts ← stretches.mapM (segmentText fields depth)
  return parts.flatten

theorem stretchesText_cons {stretch : Segment} {stretches : List Segment} {cs ds : List Char}
    (hfirst : segmentText fields depth stretch = .ok cs)
    (hothers : stretchesText fields depth stretches = .ok ds) :
    stretchesText fields depth (stretch :: stretches) = .ok (cs ++ ds) := by
  obtain ⟨parts, hparts, hflatten⟩ := bind_eq_ok.1 hothers
  cases hflatten
  unfold stretchesText
  rw [mapM_cons_eq_ok.2 ⟨cs, parts, hfirst, hparts, rfl⟩]
  rfl

theorem stretchesText_literal (text : List Char) {stretches : List Segment} {ds : List Char}
    (h : stretchesText fields depth stretches = .ok ds) :
    stretchesText fields depth (.literal text :: stretches) = .ok (text ++ ds) :=
  stretchesText_cons rfl h

/-- The rest of a template comes to a text: with a literal text under way, it expands to that one
and the text behind it. -/
def Reads (fields : List (String × String)) (depth : Nat) (cs text : List Char) : Prop :=
  ∀ before, stretchesText fields depth (segmentsFrom before cs) = .ok (before.reverse ++ text)

namespace Reads

variable {cs text : List Char}

theorem nil : Reads fields depth [] [] := by
  intro before
  -- with nothing under way there is no literal at the end
  rw [segmentsFrom]
  cases before with
  | nil => rfl
  | cons c before =>
    rw [if_neg (by simp)]
    exact stretchesText_literal (c :: before).reverse rfl

/-- A doubled bracket ends the literal text under way with the bracket. -/
theorem bracket {c : Char} (hc : c = '\x7b' ∨ c = '\x7d') (h : Reads fields depth cs text) :
    Reads fields depth (c :: c :: cs) (c :: text) := by
  intro before
  -- either bracket is doubled in the same way, by a branch of its own
  have hsegments : segmentsFrom before (c :: c :: cs) =
      .literal (c :: before).reverse :: segmentsFrom [] cs := by
    rcases hc with rfl | rfl
    · rw [segmentsFrom, if_neg (by decide), if_pos rfl, if_pos rfl]
    · rw [segmentsFrom, if_pos rfl, if_pos rfl]
  rw [hsegments, stretchesText_literal _ (h []), List.reverse_cons, List.append_assoc]
  rfl

/-- Any other character joins the literal text under way. -/
theorem other {c : Char} (hc : ¬ (c = '\x7b' ∨ c = '\x7d')) (h : Reads fields depth cs text) :
    Reads fields depth (c :: cs) (c :: text) := by
  intro before
  rw [not_or] at hc
  rw [segmentsFrom.eq_def]
  dsimp only
  rw [if_neg hc.2, if_neg hc.1, h (c :: before), List.reverse_cons, List.append_assoc]
  rfl

/-- A literal text reads as it is, whatever stands behind it. -/
theorem literal (literal : List Char) (h : Reads fields depth cs text) :
    Reads fields depth (literal.flatMap doubled ++ cs) (literal ++ text) := by
  -- on the literal from its front, with what stands behind it fixed
  induction literal with
  | nil => exact h
  | cons c literal ih =>
    rw [List.flatMap_cons, List.append_assoc, doubled]
    split
    · rename_i hc
      exact bracket hc ih
    · rename_i hc
      exact other hc ih

/-- A field reads as its text, and the scan begins anew behind it. -/
theorem field {name value : List Char} (hname : IsName name)
    (hvalue : segmentText fields depth (.field ⟨name, none, []⟩) = .ok value)
    (h : Reads fields depth cs text) :
    Reads fields depth ('\x7b' :: (name ++ '\x7d' :: cs)) (value ++ text) := by
  intro before
  rw [segmentsFrom_field hname]
  exact stretchesText_literal _ (stretchesText_cons hvalue (h []))

/-- Pieces read as their texts. -/
theorem pieces {α : Type} {name value : α → String} (hname : ∀ a, IsName (name a).toList)
    (hvalue : ∀ a, segmentText fields depth (.field ⟨(name a).toList, none, []⟩) =
      .ok (value a).toList) (pieces : List (Piece α)) :
    Reads fields depth (pieces.flatMap (·.written name))
      (pieces.flatMap fun piece => (piece.text value).toList) := by
  -- on the pieces from the front: a piece reads as its text whatever reads behind it
  induction pieces with
  | nil => exact nil
  | cons piece pieces ih =>
    rw [List.flatMap_cons, List.flatMap_cons]
    cases piece with
    | literal text => exact literal text.toList ih
    | field a =>
      have hfield := field (hname a) (hvalue a) ih
      rwa [Piece.written, List.cons_append, List.cons_append, List.append_assoc]

end Reads

/-- **A written template expands to the texts of its pieces.** -/
theorem expandTo_written {α : Type} {name value : α → String}
    (hname : ∀ a, IsName (name a).toList)
    (hvalue : ∀ a, segmentText fields depth (.field ⟨(name a).toList, none, []⟩) =
      .ok (value a).toList) (pieces : List (Piece α)) :
    expandTo fields (depth + 1) (pieces.flatMap (·.written name)) =
      .ok (pieces.flatMap fun piece => (piece.text value).toList) := by
  rw [expandTo_succ]
  exact Reads.pieces hname hvalue pieces []

end As2Exchange.Template
