import As2Exchange.Proofs.Failure.Result
import As2Exchange.Proofs.Template.Alike

/-!
# Two expansions of one template

An expansion is the concatenation of the texts of the stretches of its template. It depends only on
the texts that the template mentions. Two expansions with texts alike have stretches of the same
length, so they are equal only if they are so stretch by stretch. The exceptions are layouts that
mention a text of which only the length is the same, and what stands under a name within such a
text.

- `Mentions` says which texts a template asks for, down to a number of levels of layouts;
- `expandTo_congr` says that an expansion depends on nothing else;
- `AlikeTexts.segmentText_eq` compares the stretches of two equal expansions.
-/

namespace As2Exchange.Template

/-! ## Stretches -/

section

variable [Objects]

/-- The layout of a field after the fields within it have been expanded. -/
def layoutText (fields : List (String × String)) (depth : Nat) (layout : List Char) :
    Except TemplateError (List Char) :=
  if layout.contains '\x7b' then expandTo fields depth layout else .ok layout

/-- The text of a stretch; `depth` levels are left for its layout. -/
def segmentText (fields : List (String × String)) (depth : Nat) :
    Segment → Except TemplateError (List Char)
  | .literal text => .ok text
  | .broken flaw => .error (.malformed flaw)
  | .field field => do
    let value ← valueOf fields field.name
    let found ← convert value field.conversion
    let layout ← layoutText fields depth field.layout
    layOut found layout

theorem expandTo_succ (fields : List (String × String)) (depth : Nat) (template : List Char) :
    expandTo fields (depth + 1) template = do
      let parts ← (segments template).mapM (segmentText fields depth)
      return parts.flatten := by
  rw [expandTo]
  refine congrArg (fun parts => parts >>= fun parts => pure parts.flatten)
    (mapM_congr fun segment _ => ?_)
  cases segment with
  | literal text => rfl
  | broken flaw => rfl
  | field field =>
    -- only the layout is written in another way
    refine bind_congr fun value => bind_congr fun found => ?_
    unfold layoutText
    split
    · rfl
    · rfl

end

/-! ## What a template mentions -/

/-- The text that a field begins with, before its accesses. -/
def Field.root (field : Field) : String :=
  String.ofList (field.name.takeWhile fun c => c ≠ '.' && c ≠ '[')

/-- The template has a field for the text, or a layout that has one, down to so many levels. -/
def Mentions : Nat → List Char → String → Prop
  | 0, _, _ => False
  | depth + 1, template, name =>
    ∃ field, .field field ∈ segments template ∧
      (field.root = name ∨ Mentions depth field.layout name)

/-- The accesses behind the text that a field begins with. -/
def Field.accesses (field : Field) : List Char := field.name.drop field.root.toList.length

/-- A field is written behind an opening bracket. -/
theorem opening_mem_of_field {text cs : List Char} {field : Field}
    (h : .field field ∈ segmentsFrom text cs) : '\x7b' ∈ cs := by
  fun_induction segmentsFrom text cs <;> simp_all

/-- A template without opening brackets mentions nothing. -/
theorem not_mentions {depth : Nat} {template : List Char} {name : String}
    (h : '\x7b' ∉ template) : ¬ Mentions depth template name := by
  cases depth with
  | zero => exact id
  | succ depth =>
    rintro ⟨field, hfield, -⟩
    exact h (opening_mem_of_field hfield)

section

variable [Objects]

/-- A field that has a value begins with a text, and its accesses lead from there to the value. -/
theorem valueOf_eq_ok {fields : List (String × String)} {field : Field} {found : Found}
    (h : valueOf fields field.name = .ok found) :
    ∃ text, fields.lookup field.root = some text ∧
      follow (.text text.toList) field.accesses = .ok found := by
  unfold valueOf at h
  dsimp only at h
  split at h
  · -- the name is looked up if it is no number
    obtain ⟨index?, -, h⟩ := bind_eq_ok.1 h
    split at h
    · cases h
    · split at h
      · cases h
      · split at h
        · cases h
        · rename_i text htext
          refine ⟨text, htext, ?_⟩
          rw [Field.accesses, Field.root, String.toList_ofList]
          exact h
  · cases h

variable {left right : List (String × String)}

/-- The value of a field depends only on the text that it begins with. -/
theorem valueOf_congr {field : Field} (h : left.lookup field.root = right.lookup field.root) :
    valueOf left field.name = valueOf right field.name := by
  unfold valueOf known?
  dsimp only
  rw [show left.lookup (String.ofList (field.name.takeWhile fun c => c ≠ '.' && c ≠ '[')) =
    right.lookup (String.ofList (field.name.takeWhile fun c => c ≠ '.' && c ≠ '[')) from h]

/-- **An expansion depends only on the texts that its template mentions.** -/
theorem expandTo_congr {depth : Nat} {template : List Char}
    (h : ∀ name, Mentions depth template name → left.lookup name = right.lookup name) :
    expandTo left depth template = expandTo right depth template := by
  induction depth generalizing template with
  | zero => rfl
  | succ depth ih =>
    rw [expandTo_succ, expandTo_succ]
    have hstretch : ∀ segment ∈ segments template,
        segmentText left depth segment = segmentText right depth segment := by
      intro segment hsegment
      cases segment with
      | literal text => rfl
      | broken flaw => rfl
      | field field =>
        have hlayout : layoutText left depth field.layout =
            layoutText right depth field.layout := by
          unfold layoutText
          rw [ih fun name hname => h name ⟨field, hsegment, .inr hname⟩]
        dsimp only [segmentText]
        rw [valueOf_congr (h _ ⟨field, hsegment, .inl rfl⟩), hlayout]
    rw [mapM_congr hstretch]

/-! ## Expansions with texts alike -/

/-- The texts of two expansions: some vary, but are alike, and the others are the same. -/
structure AlikeTexts (varying : List String) (left right : List (String × String)) : Prop where
  alike : ∀ {name l r}, left.lookup name = some l → right.lookup name = some r →
    Found.Alike (.text l.toList) (.text r.toList)
  same : ∀ {name}, name ∉ varying → left.lookup name = right.lookup name

/-- The template does not make the texts vary more than they do, down to so many levels. -/
structure Steady (texts : List String) (depth : Nat) (template : List Char) : Prop where
  /-- No layout mentions one of the texts. -/
  layouts : ∀ field, .field field ∈ segments template →
    ∀ name ∈ texts, ¬ Mentions depth field.layout name
  /-- What a field gets out of texts alike is alike, which may fail for names within them only. -/
  accesses : ∀ field, .field field ∈ segments template → field.root ∈ texts →
    ∀ left right left' right', Found.Alike left right → follow left field.accesses = .ok left' →
      follow right field.accesses = .ok right' → Found.Alike left' right'

variable {varying : List String} {depth : Nat} {template : List Char}

/-- A template is steady if no field stands within a layout and none of the texts is asked for what
stands under a name within it. -/
theorem steady_of_fields
    (h : ∀ field, .field field ∈ segments template →
      '\x7b' ∉ field.layout ∧ '.' ∉ field.accesses) :
    Steady varying depth template where
  layouts := fun field hfield _ _ => not_mentions (h field hfield).1
  accesses := fun field hfield _ _ _ _ _ halike hleft hright =>
    halike.follow (h field hfield).2 hleft hright

/-- A stretch has the same length in both expansions. -/
theorem AlikeTexts.length_segmentText (h : AlikeTexts varying left right)
    (hsteady : Steady varying depth template) {segment : Segment}
    (hsegment : segment ∈ segments template) {cs ds : List Char}
    (hleft : segmentText left depth segment = .ok cs)
    (hright : segmentText right depth segment = .ok ds) : cs.length = ds.length := by
  cases segment with
  | literal text =>
    cases hleft
    cases hright
    rfl
  | broken flaw => cases hleft
  | field field =>
    -- the layout is the same, and the values are alike
    have hlayout : layoutText left depth field.layout = layoutText right depth field.layout := by
      unfold layoutText
      rw [expandTo_congr fun name hname => h.same fun hvarying =>
        hsteady.layouts field hsegment name hvarying hname]
    obtain ⟨value, hvalue, hleft⟩ := bind_eq_ok.1 hleft
    obtain ⟨value', hvalue', hright⟩ := bind_eq_ok.1 hright
    obtain ⟨found, hfound, hleft⟩ := bind_eq_ok.1 hleft
    obtain ⟨found', hfound', hright⟩ := bind_eq_ok.1 hright
    obtain ⟨layout, hread, hleft⟩ := bind_eq_ok.1 hleft
    obtain ⟨layout', hread', hright⟩ := bind_eq_ok.1 hright
    rw [← hlayout, hread] at hread'
    cases hread'
    obtain ⟨text, htext, hfollow⟩ := valueOf_eq_ok hvalue
    obtain ⟨text', htext', hfollow'⟩ := valueOf_eq_ok hvalue'
    have halike : Found.Alike value value' := by
      by_cases hvarying : field.root ∈ varying
      · exact hsteady.accesses field hsegment hvarying _ _ _ _ (h.alike htext htext') hfollow
          hfollow'
      · -- the field begins with a text that is the same in both
        rw [h.same hvarying, htext'] at htext
        cases htext
        cases hfollow.symm.trans hfollow'
        exact .same _
    exact (halike.convert hfound hfound').length_layOut hleft hright

omit [Objects] in
/-- Concatenations of pieces of the same length are equal only piece by piece. -/
theorem eq_of_flatten_eq {step step' : Segment → Except TemplateError (List Char)}
    {stretches : List Segment} {parts parts' : List (List Char)}
    (hlength : ∀ segment ∈ stretches, ∀ cs ds, step segment = .ok cs → step' segment = .ok ds →
      cs.length = ds.length)
    (hparts : stretches.mapM step = .ok parts) (hparts' : stretches.mapM step' = .ok parts')
    (h : parts.flatten = parts'.flatten) {segment : Segment} (hsegment : segment ∈ stretches) :
    step segment = step' segment := by
  induction stretches generalizing parts parts' with
  | nil => cases hsegment
  | cons first others ih =>
    obtain ⟨cs, rest, hcs, hrest, rfl⟩ := mapM_cons_eq_ok.1 hparts
    obtain ⟨ds, rest', hds, hrest', rfl⟩ := mapM_cons_eq_ok.1 hparts'
    -- the first pieces are cut off at the same place
    rw [List.flatten_cons, List.flatten_cons] at h
    obtain ⟨hfirst, hothers⟩ :=
      List.append_inj h (hlength first List.mem_cons_self cs ds hcs hds)
    rcases List.mem_cons.1 hsegment with rfl | hsegment
    · rw [hcs, hds, hfirst]
    · exact ih (fun other hother => hlength other (List.mem_cons_of_mem _ hother)) hrest hrest'
        hothers hsegment

/-- **Equal expansions with texts alike are equal stretch by stretch**, unless a layout mentions one
of the texts that vary. -/
theorem AlikeTexts.segmentText_eq (h : AlikeTexts varying left right)
    (hsteady : Steady varying depth template) {text : List Char}
    (hleft : expandTo left (depth + 1) template = .ok text)
    (hright : expandTo right (depth + 1) template = .ok text) {segment : Segment}
    (hsegment : segment ∈ segments template) :
    segmentText left depth segment = segmentText right depth segment := by
  rw [expandTo_succ] at hleft hright
  obtain ⟨parts, hparts, hleft⟩ := bind_eq_ok.1 hleft
  obtain ⟨parts', hparts', hright⟩ := bind_eq_ok.1 hright
  cases hleft
  have hflatten : parts.flatten = parts'.flatten := (Except.ok.inj hright).symm
  exact eq_of_flatten_eq (fun _ hmem _ _ => h.length_segmentText hsteady hmem) hparts hparts'
    hflatten hsegment

end

end As2Exchange.Template
