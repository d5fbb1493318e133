import As2Exchange.Proofs.Message.Unique
import As2Exchange.Proofs.Template.Access

/-!
# What the template of message ids lets through

A template of message ids that cannot be expanded should be told as a failure of the protocol. It
is, except where a field asks for a character of a text in an unsuitable way or for a layout that is
too wide, and where what stands within a text or is done with another object raises an exception
that is not expected.

- `Template.FieldEscapes` lists the failures of a field that are let through, each with its
  condition, and `Template.Escapes` those of a template, the fields within layouts included;
- `Escapes.eq_tooLarge` and `not_escapes` say which marks a template must show for that;
- `Message.newId_escapes_iff` says that there are no others, and names templates without any.
-/

namespace As2Exchange

open Message (isFormatError)

namespace Template

section

variable [Objects]

/-! ## Failures that escape -/

/-- The failures of a field that are not told as failures of the format. Its layout may hold fields,
whose failures are given. -/
inductive FieldEscapes (fields : List (String × String)) (depth : Nat) (field : Field)
    (nested : TemplateError → Prop) : TemplateError → Prop where
  /-- An access into a known text goes wrong in a way that is not expected. -/
  | access {text : String} {e : TemplateError} (htext : fields.lookup field.root = some text)
      (hmisses : Misses (.text text.toList) field.accesses e) (hescapes : isFormatError e = false) :
      FieldEscapes fields depth field nested e
  /-- The value is an object, and writing it as a text raises an exception that is not expected. -/
  | conversion {value : Found} {e : Raised} (hvalue : valueOf fields field.name = .ok value)
      (hraises : convert value field.conversion = .error (.object e))
      (hescapes : isFormatError (.object e) = false) :
      FieldEscapes fields depth field nested (.object e)
  /-- The field has a value, and a field within its layout fails. -/
  | layout {value found : Found} {e : TemplateError}
      (hvalue : valueOf fields field.name = .ok value)
      (hfound : convert value field.conversion = .ok found) (hopening : '\x7b' ∈ field.layout)
      (hnested : nested e) : FieldEscapes fields depth field nested e
  /-- The value is an object, and laying it out raises an exception that is not expected. -/
  | object {value : Found} {id : Nat} {layout : List Char} {e : Raised}
      (hvalue : valueOf fields field.name = .ok value)
      (hfound : convert value field.conversion = .ok (.object id))
      (hlayout : layoutText fields depth field.layout = .ok layout)
      (hraises : Objects.layOut id layout = .error e)
      (hescapes : isFormatError (.object e) = false) :
      FieldEscapes fields depth field nested (.object e)
  /-- The value is a text, which is asked for in a layout that is too wide. -/
  | wide {value : Found} {cs : List Char} {layout : List Char} {read : Layout}
      (hvalue : valueOf fields field.name = .ok value)
      (hfound : convert value field.conversion = .ok (.text cs))
      (hlayout : layoutText fields depth field.layout = .ok layout) (hgiven : layout ≠ [])
      (hread : Layout.ofText layout = .ok read) (hwide : tooWide ≤ read.width) :
      FieldEscapes fields depth field nested .tooLarge

/-- The failures of a template that are not told as failures of the format: those of its first field
that fails, down to so many levels of layouts. -/
def Escapes (fields : List (String × String)) : Nat → List Char → TemplateError → Prop
  | 0, _, _ => False
  | depth + 1, template, e =>
    ∃ before field after, segments template = before ++ .field field :: after ∧
      (∀ segment ∈ before, (segmentText fields depth segment).isOk = true) ∧
      FieldEscapes fields depth field (Escapes fields depth field.layout) e

variable {fields : List (String × String)} {depth : Nat} {template : List Char} {field : Field}
  {e : TemplateError}

/-- The texts of the fields have names that are no numbers. -/
def Named (fields : List (String × String)) : Prop :=
  ∀ name text, fields.lookup name = some text →
    name ≠ "" ∧ wholeNumber? name.toList = .ok none

/-! ## The steps of a field -/

/-- A text under a name is found where the name is followed by accesses. -/
theorem valueOf_of_lookup (hnamed : Named fields) {text : String}
    (htext : fields.lookup field.root = some text) :
    valueOf fields field.name = follow (.text text.toList) field.accesses := by
  obtain ⟨hname, hnumber⟩ := hnamed _ _ htext
  unfold Field.accesses
  unfold Field.root at htext hname hnumber ⊢
  rw [String.toList_ofList] at hnumber ⊢
  unfold valueOf known?
  dsimp only
  rw [hnumber, htext]
  refine if_neg fun hempty => hname ?_
  rw [List.isEmpty_iff.1 hempty]

/-- Where no text has the name, the field is at fault. -/
theorem isFormatError_of_unknown (hroot : fields.lookup field.root = none)
    (h : valueOf fields field.name = .error e) : isFormatError e = true := by
  unfold Field.root at hroot
  unfold valueOf known? at h
  dsimp only at h
  rw [hroot] at h
  split at h
  · rename_i index? _
    cases index? with
    | some index =>
      cases h
      rfl
    | none =>
      -- the root is empty or unknown
      replace h : (if _ then Except.error _ else Except.error _) = _ := h
      split at h <;> cases h <;> rfl
  · cases h
    rfl

/-- The value of a field fails in a way that is not expected just by an access into a known text. -/
theorem valueOf_escapes_iff (hnamed : Named fields) :
    (valueOf fields field.name = .error e ∧ isFormatError e = false) ↔
      ∃ text, fields.lookup field.root = some text ∧
        Misses (.text text.toList) field.accesses e ∧ isFormatError e = false := by
  constructor
  · rintro ⟨hvalue, hescapes⟩
    cases htext : fields.lookup field.root with
    | none =>
      rw [isFormatError_of_unknown htext hvalue] at hescapes
      cases hescapes
    | some text =>
      -- flaws of the accesses are told as failures of the format
      rw [valueOf_of_lookup hnamed htext] at hvalue
      refine ⟨text, rfl, (follow_eq_error ?_).1 hvalue, hescapes⟩
      rintro flaw rfl
      cases hescapes
  · rintro ⟨text, htext, hmisses, hescapes⟩
    rw [valueOf_of_lookup hnamed htext]
    exact ⟨hmisses.follow_eq, hescapes⟩

/-- A conversion fails because there is none of its mark, or by what an object raises. -/
theorem convert_eq_error {value : Found} {conversion : Option Char}
    (h : convert value conversion = .error e) :
    (∃ flaw, e = .malformed flaw) ∨ ∃ id raised, value = .object id ∧ e = .object raised := by
  cases conversion with
  | none => cases h
  | some c =>
    cases value with
    | text cs =>
      unfold convert at h
      dsimp only at h
      -- one case for each mark, and one for the others
      split at h
      · cases h
      · split at h
        · cases h
        · split at h
          · cases h
          · cases h
            exact .inl ⟨_, rfl⟩
    | object id =>
      unfold convert at h
      dsimp only at h
      split at h
      · obtain ⟨raised, -, rfl⟩ := mapError_eq_error.1 h
        exact .inr ⟨id, raised, rfl, rfl⟩
      · cases h
        exact .inl ⟨_, rfl⟩

/-- Laying a text out fails in a way that is not expected just for a layout that is too wide. -/
theorem layOut_text_escapes_iff {cs layout : List Char} :
    (layOut (.text cs) layout = .error e ∧ isFormatError e = false) ↔ layout ≠ [] ∧
      e = .tooLarge ∧ ∃ read, Layout.ofText layout = .ok read ∧ tooWide ≤ read.width := by
  unfold layOut
  dsimp only
  by_cases hgiven : layout = []
  · subst hgiven
    simp
  rw [if_neg (by simpa using hgiven), and_iff_right hgiven]
  cases hread : Layout.ofText layout with
  | error flaw =>
    constructor
    · rintro ⟨h, hescapes⟩
      cases h
      cases hescapes
    · rintro ⟨-, read, h, -⟩
      cases h
  | ok read =>
    dsimp only
    by_cases hwide : tooWide ≤ read.width
    · rw [if_neg (Nat.not_lt.2 hwide)]
      constructor
      · rintro ⟨h, -⟩
        cases h
        exact ⟨rfl, read, rfl, hwide⟩
      · rintro ⟨rfl, -⟩
        exact ⟨rfl, rfl⟩
    · rw [if_pos (Nat.not_le.1 hwide)]
      constructor
      · rintro ⟨h, -⟩
        cases h
      · rintro ⟨-, read', h, hwide'⟩
        cases h
        exact absurd hwide' hwide

theorem layOut_object_eq_error {id : Nat} {layout : List Char} :
    layOut (.object id) layout = .error e ↔
      ∃ raised, Objects.layOut id layout = .error raised ∧ e = .object raised := by
  unfold layOut
  rw [mapError_eq_error]

/-- A layout fails only by the fields that it has. -/
theorem layoutText_eq_error {layout : List Char} : layoutText fields depth layout = .error e ↔
    '\x7b' ∈ layout ∧ expandTo fields depth layout = .error e := by
  unfold layoutText
  split
  · rename_i hopening
    rw [and_iff_right (List.contains_iff_mem.1 hopening)]
  · rename_i hopening
    exact iff_of_false nofun fun h => hopening (List.contains_iff_mem.2 h.1)

/-- The steps of a field in order: its value, the conversion, the layout and the laid out text. The
first one that fails decides. -/
theorem segmentText_eq_error : segmentText fields depth (.field field) = .error e ↔
    valueOf fields field.name = .error e ∨
    ∃ value, valueOf fields field.name = .ok value ∧ (convert value field.conversion = .error e ∨
    ∃ found, convert value field.conversion = .ok found ∧
      (layoutText fields depth field.layout = .error e ∨
    ∃ layout, layoutText fields depth field.layout = .ok layout ∧
      layOut found layout = .error e)) := by
  dsimp only [segmentText]
  rw [bind_eq_error]
  refine or_congr_right (exists_congr fun value => and_congr_right fun _ => ?_)
  rw [bind_eq_error]
  exact or_congr_right (exists_congr fun found => and_congr_right fun _ => bind_eq_error)

/-- A field fails in a way that is not expected by one of the failures that are listed. -/
theorem segmentText_escapes_iff (hnamed : Named fields) {nested : TemplateError → Prop}
    (hnested : ∀ e, (expandTo fields depth field.layout = .error e ∧ isFormatError e = false) ↔
      nested e) :
    (segmentText fields depth (.field field) = .error e ∧ isFormatError e = false) ↔
      FieldEscapes fields depth field nested e := by
  rw [segmentText_eq_error]
  constructor
  · rintro ⟨hvalue | ⟨value, hvalue, hfound | ⟨found, hfound, h⟩⟩, hescapes⟩
    · obtain ⟨text, htext, hmisses, -⟩ := (valueOf_escapes_iff hnamed).1 ⟨hvalue, hescapes⟩
      exact .access htext hmisses hescapes
    · rcases convert_eq_error hfound with ⟨flaw, rfl⟩ | ⟨id, raised, rfl, rfl⟩
      · cases hescapes
      · exact .conversion hvalue hfound hescapes
    rcases h with hlayout | ⟨layout, hlayout, hout⟩
    · obtain ⟨hopening, hexpand⟩ := layoutText_eq_error.1 hlayout
      exact .layout hvalue hfound hopening ((hnested e).1 ⟨hexpand, hescapes⟩)
    cases found with
    | text cs =>
      obtain ⟨hgiven, rfl, read, hread, hwide⟩ := layOut_text_escapes_iff.1 ⟨hout, hescapes⟩
      exact .wide hvalue hfound hlayout hgiven hread hwide
    | object id =>
      obtain ⟨raised, hraises, rfl⟩ := layOut_object_eq_error.1 hout
      exact .object hvalue hfound hlayout hraises hescapes
  · intro h
    cases h with
    | access htext hmisses hescapes =>
      obtain ⟨hvalue, hescapes⟩ := (valueOf_escapes_iff hnamed).2 ⟨_, htext, hmisses, hescapes⟩
      exact ⟨.inl hvalue, hescapes⟩
    | conversion hvalue hraises hescapes =>
      exact ⟨.inr ⟨_, hvalue, .inl hraises⟩, hescapes⟩
    | layout hvalue hfound hopening h =>
      obtain ⟨hexpand, hescapes⟩ := (hnested e).2 h
      have hlayout := layoutText_eq_error.2 ⟨hopening, hexpand⟩
      exact ⟨.inr ⟨_, hvalue, .inr ⟨_, hfound, .inl hlayout⟩⟩, hescapes⟩
    | object hvalue hfound hlayout hraises hescapes =>
      have hout := layOut_object_eq_error.2 ⟨_, hraises, rfl⟩
      exact ⟨.inr ⟨_, hvalue, .inr ⟨_, hfound, .inr ⟨_, hlayout, hout⟩⟩⟩, hescapes⟩
    | wide hvalue hfound hlayout hgiven hread hwide =>
      obtain ⟨hout, hescapes⟩ := layOut_text_escapes_iff.2 ⟨hgiven, rfl, _, hread, hwide⟩
      exact ⟨.inr ⟨_, hvalue, .inr ⟨_, hfound, .inr ⟨_, hlayout, hout⟩⟩⟩, hescapes⟩

/-! ## Templates -/

/-- An expansion fails where its first stretch fails. -/
theorem expandTo_eq_error : expandTo fields (depth + 1) template = .error e ↔
    ∃ before segment after, segments template = before ++ segment :: after ∧
      (∀ earlier ∈ before, (segmentText fields depth earlier).isOk = true) ∧
      segmentText fields depth segment = .error e := by
  rw [expandTo_succ, bind_eq_error, mapM_eq_error]
  refine or_iff_left ?_
  rintro ⟨parts, -, h⟩
  cases h

/-- **The failures of an expansion that are not told as failures of the format.** -/
theorem expandTo_escapes_iff (hnamed : Named fields) :
    (expandTo fields depth template = .error e ∧ isFormatError e = false) ↔
      Escapes fields depth template e := by
  induction depth generalizing template e with
  | zero =>
    refine iff_of_false ?_ id
    rintro ⟨h, hescapes⟩
    cases h
    cases hescapes
  | succ depth ih =>
    have hfield (field : Field) :
        (segmentText fields depth (.field field) = .error e ∧ isFormatError e = false) ↔
          FieldEscapes fields depth field (Escapes fields depth field.layout) e :=
      segmentText_escapes_iff hnamed fun _ => ih
    rw [expandTo_eq_error]
    constructor
    · rintro ⟨⟨before, segment, after, hsegments, hbefore, h⟩, hescapes⟩
      cases segment with
      | literal text => cases h
      | broken flaw =>
        cases h
        cases hescapes
      | field field =>
        exact ⟨before, field, after, hsegments, hbefore, (hfield field).1 ⟨h, hescapes⟩⟩
    · rintro ⟨before, field, after, hsegments, hbefore, h⟩
      obtain ⟨h, hescapes⟩ := (hfield field).2 h
      exact ⟨⟨before, .field field, after, hsegments, hbefore, h⟩, hescapes⟩

/-! ## Templates without accesses -/

/-- Without the marks of accesses, a value is the text that the field begins with. -/
theorem eq_text_of_valueOf (hmarks : ∀ c ∈ field.name, c ≠ '.' ∧ c ≠ '[') {value : Found}
    (h : valueOf fields field.name = .ok value) : ∃ cs, value = .text cs := by
  obtain ⟨text, -, h⟩ := valueOf_eq_ok h
  unfold Field.accesses at h
  generalize haccesses : field.name.drop field.root.toList.length = accesses at h
  have hmem {c : Char} (hc : c ∈ accesses) : c ≠ '.' ∧ c ≠ '[' :=
    hmarks c (List.mem_of_mem_drop (haccesses ▸ hc))
  unfold follow at h
  split at h
  · cases h
    exact ⟨_, rfl⟩
  · exact absurd rfl (hmem List.mem_cons_self).1
  · exact absurd rfl (hmem List.mem_cons_self).2
  · cases h

/-- No conversion makes a text an object. -/
theorem convert_text_ne_object {cs : List Char} {conversion : Option Char} {id : Nat} :
    convert (.text cs) conversion ≠ .ok (.object id) := by
  intro h
  unfold convert at h
  cases conversion with
  | none => cases h
  | some c =>
    dsimp only at h
    split at h
    · cases h
    · split at h
      · cases h
      · split at h <;> cases h

/-- A template without the marks of accesses lets nothing through but too wide layouts. -/
theorem Escapes.eq_tooLarge (h : Escapes fields depth template e)
    (hmarks : ∀ c ∈ template, c ≠ '.' ∧ c ≠ '[') : e = .tooLarge := by
  induction depth generalizing template with
  | zero => exact h.elim
  | succ depth ih =>
    obtain ⟨before, field, after, hsegments, -, hfield⟩ := h
    have hwritten : field.WrittenIn template := writtenIn_of_field (by simp [hsegments])
    have hname : ∀ c ∈ field.name, c ≠ '.' ∧ c ≠ '[' := fun c hc => hmarks c (hwritten.name hc)
    cases hfield with
    | access _ hmisses _ =>
      rcases hmisses.mark_mem with hmark | hmark
      · exact absurd rfl (hname _ (List.mem_of_mem_drop hmark)).1
      · exact absurd rfl (hname _ (List.mem_of_mem_drop hmark)).2
    | layout _ _ _ hnested => exact ih hnested fun c hc => hmarks c (hwritten.layout hc)
    | conversion hvalue hraises _ =>
      -- only of an object a conversion raises something
      obtain ⟨cs, rfl⟩ := eq_text_of_valueOf hname hvalue
      rcases convert_eq_error hraises with ⟨flaw, h⟩ | ⟨id, raised, h, -⟩ <;> cases h
    | object hvalue hfound _ _ _ =>
      obtain ⟨cs, rfl⟩ := eq_text_of_valueOf hname hvalue
      exact absurd hfound convert_text_ne_object
    | wide => rfl

/-- A template without the marks of accesses and layouts lets nothing through. -/
theorem not_escapes (hmarks : ∀ c ∈ template, c ≠ '.' ∧ c ≠ '[' ∧ c ≠ ':') :
    ¬ Escapes fields depth template e := by
  intro h
  cases h.eq_tooLarge fun c hc => ⟨(hmarks c hc).1, (hmarks c hc).2.1⟩
  cases depth with
  | zero => exact h
  | succ depth =>
    obtain ⟨before, field, after, hsegments, -, hfield⟩ := h
    have hwritten : field.WrittenIn template := writtenIn_of_field (by simp [hsegments])
    -- a layout, which alone could be too wide, would stand behind a colon
    have hempty : field.layout = [] := by
      by_contra hgiven
      exact (hmarks ':' (hwritten.colon hgiven)).2.2 rfl
    cases hfield with
    | access _ hmisses _ =>
      rcases hmisses.cases with h | h | ⟨_, h⟩ <;> cases h
    | layout _ _ hopening _ => simp [hempty] at hopening
    | wide _ _ hlayout hgiven _ _ =>
      rw [hempty] at hlayout
      cases hlayout
      exact hgiven rfl

end

end Template

/-! ## Message ids -/

namespace Message

open Template

/-- The names of the four texts are no numbers. -/
theorem named_idFields (p : Partnership) (stamp : Stamp) : Named (idFields p stamp) := by
  intro name text htext
  have hname : name ∈ ["date", "uuid", "sender", "receiver"] := by
    rw [lookup_idFields] at htext
    by_contra hother
    simp_all
  simp only [List.mem_cons, List.not_mem_nil, or_false] at hname
  rcases hname with rfl | rfl | rfl | rfl
  all_goals exact ⟨by decide, rfl⟩

/-- What is not expected of a template: an unsuitable index or width, or an exception of none of
three kinds. -/
theorem escaping_cases {cause : TemplateError} (h : isFormatError cause = false) :
    cause = .indexNotNumeric ∨ cause = .tooLarge ∨ ∃ e, cause = .object e ∧
      e.is "KeyError" = false ∧ e.is "IndexError" = false ∧ e.is "ValueError" = false := by
  cases cause with
  | indexNotNumeric => exact .inl rfl
  | tooLarge => exact .inr (.inl rfl)
  | object e => exact .inr (.inr ⟨e, rfl, by simpa [isFormatError, and_assoc] using h⟩)
  | _ => cases h

section

variable [Objects] {p : Partnership} {stamp : Stamp}

theorem newId_eq_error {failure : Failure} : newId p stamp = .error failure ↔
    ∃ cause, expandTo (idFields p stamp) 2 (idFormat p).toList = .error cause ∧
      failure = if isFormatError cause then .protocol (.messageIdFormat (idFormat p) cause)
        else .template cause := by
  unfold newId expand
  cases expandTo (idFields p stamp) 2 (idFormat p).toList with
  | ok text =>
    dsimp only [Except.map]
    exact iff_of_false nofun nofun
  | error cause =>
    dsimp only [Except.map]
    rw [← apply_ite Except.error, Except.error.injEq]
    constructor
    · rintro rfl
      exact ⟨cause, rfl, rfl⟩
    · rintro ⟨_, hcause, rfl⟩
      cases hcause
      rfl

/-- A failure of the making of an id is one of the protocol, or it escapes. -/
theorem newId_of_escapes {cause : TemplateError}
    (h : Escapes (idFields p stamp) 2 (idFormat p).toList cause) :
    newId p stamp = .error (.template cause) := by
  obtain ⟨hexpand, hescapes⟩ := (expandTo_escapes_iff (named_idFields p stamp)).2 h
  refine newId_eq_error.2 ⟨cause, hexpand, ?_⟩
  rw [hescapes]
  rfl

/-- **What the making of a message id lets through.** An id is made, or the failure is one of the
protocol, except just for the failures of the template that escape: an index of a text that is no
number, a layout that is too wide, and an exception of what stands within a text or of another
object that is of none of three kinds. A template without the marks of accesses lets nothing through
but too wide layouts, and one without layouts nothing at all. -/
theorem newId_escapes_iff (p : Partnership) (stamp : Stamp) :
    (∀ failure, (newId p stamp = .error failure ∧ ¬ ∃ cause, failure = .protocol cause) ↔
      ∃ cause, Escapes (idFields p stamp) 2 (idFormat p).toList cause ∧
        failure = .template cause) ∧
    (∀ cause, Escapes (idFields p stamp) 2 (idFormat p).toList cause →
      cause = .indexNotNumeric ∨ cause = .tooLarge ∨ ∃ e, cause = .object e ∧
        e.is "KeyError" = false ∧ e.is "IndexError" = false ∧ e.is "ValueError" = false) ∧
    ((∀ c ∈ (idFormat p).toList, c ≠ '.' ∧ c ≠ '[') → ∀ cause,
      Escapes (idFields p stamp) 2 (idFormat p).toList cause → cause = .tooLarge) ∧
    ((∀ c ∈ (idFormat p).toList, c ≠ '.' ∧ c ≠ '[' ∧ c ≠ ':') →
      (∃ id, newId p stamp = .ok id) ∨
        ∃ cause, newId p stamp = .error (.protocol (.messageIdFormat (idFormat p) cause))) := by
  have hnamed := named_idFields p stamp
  refine ⟨fun failure => ⟨?escapes, ?told⟩, ?causes, ?wide, ?plain⟩
  case escapes =>
    rintro ⟨h, hprotocol⟩
    obtain ⟨cause, hexpand, rfl⟩ := newId_eq_error.1 h
    cases hescapes : isFormatError cause with
    | true =>
      rw [hescapes] at hprotocol
      exact absurd ⟨_, rfl⟩ hprotocol
    | false => exact ⟨cause, (expandTo_escapes_iff hnamed).1 ⟨hexpand, hescapes⟩, rfl⟩
  case told =>
    rintro ⟨cause, h, rfl⟩
    exact ⟨newId_of_escapes h, nofun⟩
  case causes =>
    intro cause h
    exact escaping_cases ((expandTo_escapes_iff hnamed).2 h).2
  case wide => exact fun hmarks cause h => h.eq_tooLarge hmarks
  case plain =>
    intro hmarks
    cases h : newId p stamp with
    | ok id => exact .inl ⟨id, rfl⟩
    | error failure =>
      obtain ⟨cause, hexpand, rfl⟩ := newId_eq_error.1 h
      cases hescapes : isFormatError cause with
      | true => exact .inr ⟨cause, rfl⟩
      | false =>
        exact absurd ((expandTo_escapes_iff hnamed).1 ⟨hexpand, hescapes⟩) (not_escapes hmarks)

end

/-! ## Templates that fail unsuitably -/

namespace Straying

/-- A partnership with a template of message ids. -/
def withFormat (format : String) : Partnership :=
  ⟨"ME-THEM", [(Key.as2Id, some "ME")], [(Key.as2Id, some "THEM")],
    [(Key.messageIdFormat, some format)]⟩

def stamp : Stamp := ⟨⟨2024, 1, 2, 3, 4, 5⟩, 1⟩

/-- The last digit of the number is asked for, by a number with a sign. -/
def lastDigit : String := "\x7buuid[-1]\x7d"

/-- What stands under a name within a text is asked for, and there is nothing. -/
def part : String := "\x7bsender.foo\x7d"

/-- A template of a single field fails as the field does. -/
theorem newId_of_field [Objects] {format : String} {field : Field} {cause : TemplateError}
    (hsegments : segments (idFormat (withFormat format)).toList = [.literal [], .field field])
    (h : FieldEscapes (idFields (withFormat format) stamp) 1 field
      (Escapes (idFields (withFormat format) stamp) 1 field.layout) cause) :
    newId (withFormat format) stamp = .error (.template cause) := by
  refine newId_of_escapes ⟨[.literal []], field, [], hsegments, ?_, h⟩
  intro segment hsegment
  rw [List.mem_singleton.1 hsegment]
  rfl

attribute [local instance] Objects.kinds

theorem newId_lastDigit :
    newId (withFormat lastDigit) stamp = .error (.template .indexNotNumeric) := by
  have hsegments : segments (idFormat (withFormat lastDigit)).toList =
      [.literal [], .field ⟨"uuid[-1]".toList, none, []⟩] := by
    decide +kernel
  have hstep : Access (.text stamp.uniqueText.toList) "[-1]".toList (.error .indexNotNumeric) [] :=
    .item (show indexName "-1]".toList ≠ [] by decide) rfl rfl
  exact newId_of_field hsegments (.access rfl (.here hstep) rfl)

/-- The exception for a name that nothing stands under. -/
def missing : Raised :=
  ⟨"AttributeError", ["Exception"], "'str' object has no attribute 'foo'"⟩

theorem newId_part : newId (withFormat part) stamp = .error (.template (.object missing)) := by
  have hsegments : segments (idFormat (withFormat part)).toList =
      [.literal [], .field ⟨"sender.foo".toList, none, []⟩] := by
    decide +kernel
  have hstep : Access (.text "ME".toList) ".foo".toList (.error (.object missing)) [] :=
    .part (by decide)
  exact newId_of_field hsegments (.access rfl (.here hstep) (by decide))

end Straying

open Straying

attribute [local instance] Objects.kinds

/-- Not every message id is made or fails for the protocol. -/
theorem newId_not_contained :
    (∃ failure, newId (withFormat lastDigit) stamp = .error failure ∧
      failure.kind = "TypeError") ∧
    ∃ failure, newId (withFormat part) stamp = .error failure ∧
      failure.kind = "AttributeError" :=
  ⟨⟨_, newId_lastDigit, rfl⟩, ⟨_, newId_part, rfl⟩⟩

end Message

end As2Exchange
