import As2Exchange.Mime.Parameter
import As2Exchange.Proofs.Charset.Reading
import As2Exchange.Proofs.Failure.Result

/-!
# Parameters that cannot be read

The parameters of a content type are read for the charset and for the boundary of a part. This fails
if some name, which need not be the one that is asked for, stands with a number and without one. And
it fails if the value that is asked for tells a charset of its own and reading it in this charset
raises what is not met: the charset has a name with a NUL, or it is none of those that are written
out.

- `Parameter.Mixed` are the fields whose parameters cannot be put in order, by `list_isOk_iff`;
- `ContentType.Refused` are the fields of which the value of a parameter cannot be read;
- `ContentType.charset_isOk_iff` and `ContentType.boundary_isOk_iff` say so for the two parameters.
-/

namespace As2Exchange.Mime

namespace Parameter

/-! ## Sections -/

/-- The parameters of a field as they are written, without the content type in front of them. -/
def written (field : String) : List (String × List Char) :=
  ((cutPieces (';' :: field.toList)).map nameAndValue).drop 1

/-- The names that end in a star or in a number, each with its number if it has one. -/
def numbered (parameters : List (String × List Char)) : List (List Char × Option Nat) :=
  parameters.filterMap fun parameter => sectionName? parameter.1.toList

/-- A name stands among the parameters of a field with a number and without one. -/
def Mixed (field : String) : Prop := ∃ word number,
  (word, none) ∈ numbered (written field) ∧ (word, some number) ∈ numbered (written field)

/-- The section that a parameter is, with its name, if it is one. -/
def sectionOf? (parameter : String × List Char) : Option (List Char × Section) :=
  (sectionName? parameter.1.toList).map fun found =>
    (found.1, ⟨found.2, unquote parameter.2, parameter.1.toList.getLast? = some '*'⟩)

theorem mem_numbered {parameters : List (String × List Char)} {word : List Char}
    {number : Option Nat} : (word, number) ∈ numbered parameters ↔
      ∃ s, (word, s) ∈ parameters.filterMap sectionOf? ∧ s.number = number := by
  simp only [numbered, List.mem_filterMap, sectionOf?, Option.map_eq_some_iff]
  constructor
  · rintro ⟨parameter, hmem, hname⟩
    exact ⟨_, ⟨parameter, hmem, _, hname, rfl⟩, rfl⟩
  · rintro ⟨s, ⟨parameter, hmem, ⟨_, _⟩, hname, heq⟩, rfl⟩
    cases heq
    exact ⟨parameter, hmem, hname⟩

/-! ## Groups -/

/-- The sections under a name, in order. -/
def sectionsUnder (sections : List (List Char × Section)) (word : List Char) : List Section :=
  (sections.filter fun entry => entry.1 = word).map (·.2)

/-- The sections have been put together by their names. -/
structure Gathered (sections : List (List Char × Section))
    (groups : List (List Char × List Section)) : Prop where
  complete : ∀ entry ∈ sections, ∃ group ∈ groups, group.1 = entry.1
  under : ∀ group ∈ groups, group.2 = sectionsUnder sections group.1

variable {sections : List (List Char × Section)} {groups : List (List Char × List Section)}

theorem sectionsUnder_append_self (word : List Char) (s : Section) :
    sectionsUnder (sections ++ [(word, s)]) word = sectionsUnder sections word ++ [s] := by
  simp [sectionsUnder]

theorem sectionsUnder_append_other {word other : List Char} (s : Section) (h : other ≠ word) :
    sectionsUnder (sections ++ [(word, s)]) other = sectionsUnder sections other := by
  simp [sectionsUnder, Ne.symm h]

theorem lookup_isSome {word : List Char} :
    (groups.lookup word).isSome = true ↔ ∃ group ∈ groups, group.1 = word := by
  simp

/-- A section goes to those under its name. -/
theorem Gathered.add (h : Gathered sections groups) (word : List Char) (s : Section) :
    Gathered (sections ++ [(word, s)]) (addSection groups word s) := by
  unfold addSection
  split
  · rename_i hknown
    obtain ⟨known, hknown, hword⟩ := lookup_isSome.1 hknown
    -- every group keeps its name
    have hnames : ∀ group ∈ groups, ∃ group' ∈ groups.map fun entry =>
        if entry.1 = word then (word, entry.2 ++ [s]) else entry, group'.1 = group.1 := by
      intro group hgroup
      refine ⟨_, List.mem_map_of_mem hgroup, ?_⟩
      split
      · rename_i heq
        exact heq.symm
      · rfl
    constructor
    case complete =>
      intro entry hentry
      rcases List.mem_append.1 hentry with hentry | hentry
      · obtain ⟨group, hgroup, heq⟩ := h.complete entry hentry
        rw [← heq]
        exact hnames group hgroup
      · obtain ⟨group, hgroup, heq⟩ := hnames known hknown
        rw [List.mem_singleton.1 hentry]
        exact ⟨group, hgroup, heq.trans hword⟩
    case under =>
      intro group hgroup
      obtain ⟨old, hold, rfl⟩ := List.mem_map.1 hgroup
      split
      · rename_i heq
        subst heq
        rw [sectionsUnder_append_self, h.under old hold]
      · rename_i hne
        rw [sectionsUnder_append_other s hne]
        exact h.under old hold
  · rename_i hnew
    constructor
    case complete =>
      intro entry hentry
      rcases List.mem_append.1 hentry with hentry | hentry
      · obtain ⟨group, hgroup, heq⟩ := h.complete entry hentry
        exact ⟨group, List.mem_append_left _ hgroup, heq⟩
      · rw [List.mem_singleton.1 hentry]
        exact ⟨(word, [s]), by simp, rfl⟩
    case under =>
      intro group hgroup
      rcases List.mem_append.1 hgroup with hgroup | hgroup
      · have hne : group.1 ≠ word := fun heq => hnew (lookup_isSome.2 ⟨group, hgroup, heq⟩)
        rw [sectionsUnder_append_other s hne]
        exact h.under group hgroup
      · rw [List.mem_singleton.1 hgroup]
        -- the name is new, so there was no section under it
        have hnone : sectionsUnder sections word = [] := by
          unfold sectionsUnder
          rw [List.filter_eq_nil_iff.2, List.map_nil]
          intro entry hentry hword
          obtain ⟨group, hgroup, heq⟩ := h.complete entry hentry
          exact hnew (lookup_isSome.2 ⟨group, hgroup, heq.trans (of_decide_eq_true hword)⟩)
        rw [sectionsUnder_append_self, hnone]
        rfl

/-- Sorting parameters gathers the sections among them. -/
theorem Gathered.sort (h : Gathered sections groups) (parameters : List (String × List Char))
    (alone : List (String × Value)) :
    Gathered (sections ++ parameters.filterMap sectionOf?)
      (Parameter.sort parameters (alone, groups)).2 := by
  induction parameters generalizing sections groups alone with
  | nil => simpa [Parameter.sort] using h
  | cons parameter rest ih =>
    obtain ⟨name, value⟩ := parameter
    unfold Parameter.sort
    cases hname : sectionName? name.toList with
    | none =>
      have hsection : sectionOf? (name, value) = none := by
        rw [sectionOf?, hname]
        rfl
      rw [List.filterMap_cons_none hsection]
      exact ih h _
    | some found =>
      obtain ⟨word, number⟩ := found
      have hsection : sectionOf? (name, value) =
          some (word, ⟨number, unquote value, name.toList.getLast? = some '*'⟩) := by
        rw [sectionOf?, hname]
        rfl
      rw [List.filterMap_cons_some hsection, List.append_cons]
      exact ih (h.add word _) _

/-! ## Orders -/

/-- Sections can be ordered unless some have a number and some have none. -/
theorem checkOrder_isOk_iff {sections : List Section} : (checkOrder sections).isOk = true ↔
    ∀ a ∈ sections, ∀ b ∈ sections, a.number.isSome = b.number.isSome := by
  cases sections with
  | nil => simp [checkOrder, Except.isOk, Except.toBool]
  | cons first rest =>
    have hall : (checkOrder (first :: rest)).isOk =
        rest.all fun s => s.number.isSome = first.number.isSome := by
      unfold checkOrder
      dsimp only
      split
      · rename_i hsame
        rw [hsame]
        rfl
      · rename_i hother
        rw [Bool.not_eq_true] at hother
        rw [hother]
        split <;> rfl
    rw [hall, List.all_eq_true]
    constructor
    · intro h
      have hfirst : ∀ s ∈ first :: rest, s.number.isSome = first.number.isSome := by
        intro s hs
        rcases List.mem_cons.1 hs with rfl | hs
        · rfl
        · exact of_decide_eq_true (h s hs)
      exact fun a ha b hb => (hfirst a ha).trans (hfirst b hb).symm
    · exact fun h s hs =>
        decide_eq_true (h s (List.mem_cons_of_mem _ hs) first List.mem_cons_self)

theorem join_isOk (sections : List Section) :
    (join sections).isOk = (checkOrder sections).isOk := by
  unfold join
  exact bind_isOk_of_ok fun _ => rfl

/-- The parameters of a field are read if the sections of each name can be ordered. -/
theorem list_isOk (field : String) : (Parameter.list field).isOk =
    (Parameter.sort (written field) ([], [])).2.all fun group => (checkOrder group.2).isOk := by
  unfold Parameter.list written
  cases (cutPieces (';' :: field.toList)).map nameAndValue with
  | nil => rfl
  | cons first rest =>
    dsimp only
    rw [bind_isOk_of_ok fun _ => rfl, mapM_isOk]
    refine List.all_congr rfl fun group => ?_
    rw [bind_isOk_of_ok fun _ => rfl, join_isOk]

/-- **Parameters can be read just if they are not mixed.** -/
theorem list_isOk_iff {field : String} : (Parameter.list field).isOk = true ↔ ¬ Mixed field := by
  have hgathered : Gathered ((written field).filterMap sectionOf?)
      (Parameter.sort (written field) ([], [])).2 := by
    have hnone : Gathered [] [] := ⟨by simp, by simp⟩
    exact hnone.sort (written field) []
  have hmem : ∀ {s word}, s ∈ sectionsUnder ((written field).filterMap sectionOf?) word ↔
      (word, s) ∈ (written field).filterMap sectionOf? := by
    intro s word
    simp [sectionsUnder]
  rw [list_isOk, List.all_eq_true]
  constructor
  · rintro hordered ⟨word, number, hbare, hnumbered⟩
    obtain ⟨a, ha, hnone⟩ := mem_numbered.1 hbare
    obtain ⟨b, hb, hsome⟩ := mem_numbered.1 hnumbered
    obtain ⟨group, hgroup, rfl⟩ := hgathered.complete _ ha
    have hsame := checkOrder_isOk_iff.1 (hordered group hgroup)
    rw [hgathered.under group hgroup] at hsame
    have h := hsame a (hmem.2 ha) b (hmem.2 hb)
    rw [hnone, hsome] at h
    cases h
  · intro hmixed group hgroup
    refine checkOrder_isOk_iff.2 fun a ha b hb => ?_
    rw [hgathered.under group hgroup, hmem] at ha hb
    have hbare : ∀ {s}, (group.1, s) ∈ (written field).filterMap sectionOf? →
        (group.1, s.number) ∈ numbered (written field) :=
      fun hs => mem_numbered.2 ⟨_, hs, rfl⟩
    -- a name with a number and without one is what a mixed field has
    cases hanumber : a.number with
    | none =>
      cases hbnumber : b.number with
      | none => rfl
      | some number => exact absurd ⟨group.1, number, hanumber ▸ hbare ha, hbnumber ▸ hbare hb⟩ hmixed
    | some number =>
      cases hbnumber : b.number with
      | none => exact absurd ⟨group.1, number, hbnumber ▸ hbare hb, hanumber ▸ hbare ha⟩ hmixed
      | some _ => rfl

end Parameter

namespace ContentType

/-! ## Values -/

/-- The parameters of a content type that are looked up. -/
inductive Told where
  | boundary
  | charset

def Told.name : Told → String
  | boundary => "boundary"
  | charset => "charset"

/-- The charset in which the value of a parameter is read. -/
def Told.looked : Told → Option (List Char) → String
  | boundary, charset? => String.ofList (charset?.getD "us-ascii".toList)
  | charset, charset? =>
    let name := charset?.getD []
    if name.isEmpty then "us-ascii" else String.ofList name

/-- A condition on the one value that is found. -/
theorem forall_extended_iff {P : Option (List Char) → List Char → Prop}
    (charset? language : Option (List Char)) (text : List Char) :
    (∀ charset' language' text', some (Parameter.Value.extended charset? language text) =
      some (Parameter.Value.extended charset' language' text') → P charset' text') ↔ P charset? text := by
  constructor
  · exact fun h => h _ _ _ rfl
  · rintro h _ _ _ ⟨⟩
    exact h

variable [Codecs]

/-- Reading the value of a parameter raises what is not met. A boundary is read with replacements
for what is no text, a charset is not. -/
def Told.Raises : Told → String → Bytes → Prop
  | boundary => Charset.Raises Codec.decode ["LookupError"]
  | charset => Charset.Raises Codec.decodeStrict ["LookupError", "UnicodeError"]

/-- The parameter of a field tells the charset of its value, and the value cannot be read in it. -/
def Refused (field : String) (told : Told) : Prop := ∃ parameters charset? language text,
  Parameter.list field = .ok parameters ∧
    Parameter.find? parameters told.name = some (.extended charset? language text) ∧
    told.Raises (told.looked charset?) (rawBytes text)

open Parameter

/-- A parameter of a field can be read. -/
structure Readable (field : String) (told : Told) : Prop where
  ordered : ¬ Mixed field
  taken : ¬ Refused field told

variable {field : String}

/-- A step that reads the value of one parameter succeeds unless reading the value raises what is
not met. -/
theorem readable_iff_of_step {told : Told} {α : Type}
    {step : List (String × Parameter.Value) → Except Failure α}
    (h : ∀ parameters, (step parameters).isOk = true ↔ ∀ charset? language text,
      Parameter.find? parameters told.name = some (.extended charset? language text) →
        ¬ told.Raises (told.looked charset?) (rawBytes text)) :
    (Parameter.list field >>= step).isOk = true ↔ Readable field told := by
  rw [bind_isOk]
  constructor
  · rintro ⟨parameters, hlist, hstep⟩
    refine ⟨list_isOk_iff.1 (isOk_iff.2 ⟨parameters, hlist⟩), ?_⟩
    rintro ⟨parameters', charset?, language, text, hlist', hfind, hraises⟩
    cases hlist.symm.trans hlist'
    exact (h parameters).1 hstep charset? language text hfind hraises
  · rintro ⟨hordered, htaken⟩
    obtain ⟨parameters, hlist⟩ := isOk_iff.1 (list_isOk_iff.2 hordered)
    refine ⟨parameters, hlist, (h parameters).2 fun charset? language text hfind hraises => ?_⟩
    exact htaken ⟨parameters, charset?, language, text, hlist, hfind, hraises⟩

theorem boundary_isOk_iff : (boundary field).isOk = true ↔ Readable field .boundary := by
  unfold boundary
  refine readable_iff_of_step fun parameters => ?_
  show _ ↔ ∀ charset? language text, Parameter.find? parameters "boundary" = _ → _
  dsimp only
  cases Parameter.find? parameters "boundary" with
  | none => exact iff_of_true rfl nofun
  | some value =>
    cases value with
    | plain text => exact iff_of_true rfl nofun
    | extended charset? language text =>
      rw [forall_extended_iff (P := fun charset? text =>
        ¬ Told.boundary.Raises (Told.boundary.looked charset?) (rawBytes text))]
      show _ ↔ ¬ Charset.Raises _ _ (String.ofList (charset?.getD "us-ascii".toList)) _
      rw [Charset.raises_decode_iff]
      dsimp only
      cases Charset.decodeNamed (String.ofList (charset?.getD "us-ascii".toList))
          (rawBytes text) with
      | ok decoded => exact iff_of_true rfl nofun
      | error e =>
        dsimp only
        -- an error that is met leaves the value as it is written
        split
        · rename_i hmet
          refine iff_of_true rfl ?_
          rintro ⟨_, ⟨⟩, hnone⟩
          cases hmet.symm.trans hnone
        · rename_i hnone
          exact iff_of_false Bool.false_ne_true fun h => h ⟨e, rfl, Bool.not_eq_true _ ▸ hnone⟩

theorem charset_isOk_iff : (charset field).isOk = true ↔ Readable field .charset := by
  unfold charset
  refine readable_iff_of_step fun parameters => ?_
  show _ ↔ ∀ charset? language text, Parameter.find? parameters "charset" = _ → _
  dsimp only
  cases Parameter.find? parameters "charset" with
  | none => exact iff_of_true rfl nofun
  | some value =>
    cases value with
    | plain text => exact iff_of_true rfl nofun
    | extended charset? language text =>
      rw [forall_extended_iff (P := fun charset? text =>
        ¬ Told.charset.Raises (Told.charset.looked charset?) (rawBytes text))]
      show _ ↔ ¬ Charset.Raises _ _ (if (charset?.getD []).isEmpty = true then "us-ascii"
        else String.ofList (charset?.getD [])) _
      rw [Charset.raises_decodeStrict_iff, Bool.not_eq_false]
      dsimp only
      cases Charset.decodeNamedStrict (if (charset?.getD []).isEmpty = true then "us-ascii"
        else String.ofList (charset?.getD [])) (rawBytes text) with
      | error e => exact Iff.rfl
      | ok decoded => exact Iff.rfl

end ContentType

end As2Exchange.Mime
