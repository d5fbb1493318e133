import As2Exchange.Proofs.Lookup
import As2Exchange.Proofs.Message.Stamp
import As2Exchange.Proofs.Send.Confirmed
import As2Exchange.Proofs.Settings.Partnership
import As2Exchange.Proofs.Template.Expansion

/-!
# Unique message ids

Settings are checked for the placeholder of the number that makes message ids differ. The check
looks for its letters only. Where the template has it as a field, ids with different numbers differ,
as long as no layout moves the number about and nothing is asked for that stands under a name within
it. Where the letters are but a literal text, all ids of a
moment are the same.

- `Message.newId_ne` says when two ids differ, `Message.newId_congr` when they cannot;
- `Settings.newId_ne_of_placeholder` is what this means for settings that were checked.
-/

namespace As2Exchange

open Template

/-! ## The texts of two stamps -/

/-- The field that the placeholder of the number stands for. -/
def Stamp.numberField : Field := ⟨"uuid".toList, none, []⟩

/-- The names of the texts that stamps give. -/
def Stamp.names : List String := ["date", "uuid"]

namespace Message

variable {p : Partnership} {first second : Stamp}

theorem lookup_idFields (p : Partnership) (stamp : Stamp) (name : String) :
    (idFields p stamp).lookup name =
      if name = "date" then some stamp.moment.compact
      else if name = "uuid" then some stamp.uniqueText
      else if name = "sender" then some ((p.senderId? Key.as2Id).getD "")
      else if name = "receiver" then some ((p.receiverId? Key.as2Id).getD "")
      else none := by
  unfold idFields
  simp only [lookup_cons_eq, List.lookup_nil]

/-- Two stamps give texts alike, and the partners are the same. -/
theorem alikeTexts_idFields (hfirst : first.Regular) (hsecond : second.Regular) :
    AlikeTexts Stamp.names (idFields p first) (idFields p second) where
  alike := by
    -- the moment and the number differ from stamp to stamp, the other two texts do not
    intro name l r hl hr
    rw [lookup_idFields] at hl hr
    split at hl
    · -- the moment
      cases hl
      rw [if_pos ‹_›] at hr
      cases hr
      exact Stamp.alike_moment hfirst hsecond
    · rw [if_neg ‹_›] at hr
      split at hl
      · -- the number
        cases hl
        rw [if_pos ‹_›] at hr
        cases hr
        exact Stamp.alike_number hfirst hsecond
      · rw [if_neg ‹_›, hl] at hr
        cases hr
        exact .same _
  same := by
    intro name hname
    obtain ⟨hdate, huuid⟩ : name ≠ "date" ∧ name ≠ "uuid" := by
      simpa [Stamp.names] using hname
    rw [lookup_idFields, lookup_idFields, if_neg hdate, if_neg hdate, if_neg huuid, if_neg huuid]

/-- The field of the number stands for the number as it is. -/
theorem segmentText_numberField [Objects] (p : Partnership) (stamp : Stamp) (depth : Nat) :
    segmentText (idFields p stamp) depth (.field Stamp.numberField) =
      .ok stamp.uniqueText.toList := by
  have hvalue : valueOf (idFields p stamp) Stamp.numberField.name =
      follow (.text stamp.uniqueText.toList) [] := rfl
  rw [follow] at hvalue
  dsimp only [segmentText]
  rw [hvalue]
  rfl

/-! ## Two ids -/

section

variable [Objects]

theorem newId_eq_ok {stamp : Stamp} {id : String} :
    newId p stamp = .ok id ↔ expandTo (idFields p stamp) 2 (idFormat p).toList = .ok id.toList := by
  unfold newId expand
  -- an expansion fails or gives a text, and the id is that text
  cases expandTo (idFields p stamp) 2 (idFormat p).toList with
  | error cause =>
    dsimp only [Except.map]
    split
    · simp
    · simp
  | ok text =>
    constructor
    · intro h
      cases h
      rw [String.toList_ofList]
    · intro h
      cases h
      exact congrArg Except.ok String.ofList_toList

/-- **Ids with different numbers differ** if the number is a field of the template, no layout
mentions the moment or the number, and nothing within these differs more than they do. -/
theorem newId_ne (hfield : .field Stamp.numberField ∈ segments (idFormat p).toList)
    (hsteady : Steady Stamp.names 1 (idFormat p).toList) (hfirst : first.Regular)
    (hsecond : second.Regular) (hunique : first.unique ≠ second.unique) {id id' : String}
    (hid : newId p first = .ok id) (hid' : newId p second = .ok id') : id ≠ id' := by
  -- if both ids were one text, the field of the number would be one text in both
  rintro rfl
  rw [newId_eq_ok] at hid hid'
  have hnumber := (alikeTexts_idFields hfirst hsecond).segmentText_eq hsteady hid hid' hfield
  rw [segmentText_numberField, segmentText_numberField] at hnumber
  exact hunique (Stamp.uniqueText_injective (String.toList_injective (Except.ok.inj hnumber)))

/-- Ids of one moment are the same if the template does not mention the number. -/
theorem newId_congr (h : ¬ Mentions 2 (idFormat p).toList "uuid") (moment : Moment) (m n : Nat) :
    newId p ⟨moment, m⟩ = newId p ⟨moment, n⟩ := by
  have hexpand : expandTo (idFields p ⟨moment, m⟩) 2 (idFormat p).toList =
      expandTo (idFields p ⟨moment, n⟩) 2 (idFormat p).toList := by
    refine expandTo_congr fun name hname => ?_
    have hother : name ≠ "uuid" := by
      rintro rfl
      exact h hname
    rw [lookup_idFields, lookup_idFields, if_neg hother, if_neg hother]
  unfold newId expand
  rw [hexpand]

end

end Message

/-! ## Checked settings -/

/-- A partnership of valid settings has their template of message ids. -/
theorem Settings.Valid.idFormat {s : Settings} (hvalid : s.Valid) {p : Partnership}
    (h : s.partnership = .ok p) : s.messageIdFormat = .text (Message.idFormat p) := by
  obtain ⟨format, hformat, hplaceholder⟩ := hvalid.messageIdFormat
  have hvalue := attribute?_partnership h
    (show s.attributes.lookup Key.messageIdFormat = some s.messageIdFormat from rfl)
  rw [hformat] at hvalue
  -- a template with the placeholder is not empty, so it is not replaced
  have hnonempty : format.isEmpty = false := by
    rw [Bool.eq_false_iff]
    intro hempty
    rw [String.isEmpty_iff.1 hempty] at hplaceholder
    exact absurd (List.eq_nil_of_infix_nil hplaceholder) (by decide)
  rw [hformat, Message.idFormat, eq_some_of_optionalText hvalue]
  dsimp only
  rw [hnonempty]
  rfl

/-- **Checked settings and unique ids.** The template of message ids has the letters of the
placeholder. If the placeholder is a field of the template, no layout mentions the moment or the
number, and nothing within these differs more than they do, ids with different numbers differ. If
the template does not mention the number at all, all ids of a moment are the same. -/
theorem Settings.newId_ne_of_placeholder [Objects] {record : Value} {s : Settings}
    (h : (check record).result = .ok s) :
    ∃ p format, s.partnership = .ok p ∧ s.messageIdFormat = .text format ∧
      uniquePlaceholder.toList <:+: format.toList ∧
      (.field Stamp.numberField ∈ segments format.toList → Steady Stamp.names 1 format.toList →
        ∀ first second : Stamp, first.Regular → second.Regular → first.unique ≠ second.unique →
          ∀ id id', Message.newId p first = .ok id → Message.newId p second = .ok id' →
            id ≠ id') ∧
      (¬ Mentions 2 format.toList "uuid" →
        ∀ moment m n, Message.newId p ⟨moment, m⟩ = Message.newId p ⟨moment, n⟩) := by
  have hvalid := valid_of_check h
  obtain ⟨p, hp⟩ := hvalid.partnership_ok
  have hformat := hvalid.idFormat hp
  obtain ⟨_, hformat', hplaceholder⟩ := hvalid.messageIdFormat
  rw [hformat] at hformat'
  cases hformat'
  refine ⟨p, Message.idFormat p, hp, hformat, hplaceholder, ?_, Message.newId_congr⟩
  intro hfield hsteady first second hfirst hsecond hunique id id' hid hid'
  exact Message.newId_ne hfield hsteady hfirst hsecond hunique hid hid'

/-! ## A placeholder that is a field, and one that is not -/

namespace HonestPartner

/-- A template with the letters of the placeholder as a literal text. -/
def escapedFormat : String := "\x7b\x7buuid\x7d\x7d"

/-- The stamp of a moment with a number. -/
def stamp (unique : Nat) : Stamp := ⟨surroundings.clock, unique⟩

theorem regular_stamp {unique : Nat} (h : unique < uniqueLimit) : (stamp unique).Regular where
  year := by simp [stamp, surroundings]
  month := by simp [stamp, surroundings]
  day := by simp [stamp, surroundings]
  hour := by simp [stamp, surroundings]
  minute := by simp [stamp, surroundings]
  second := by simp [stamp, surroundings]
  unique := h

end HonestPartner

open HonestPartner

attribute [local instance] Objects.kinds

/-- With the placeholder as a field, two numbers give two ids. -/
theorem Settings.newId_ne_of_placeholder_plain :
    (check (record plainFormat)).result = .ok (settings plainFormat) ∧
    ∃ p id id', (settings plainFormat).partnership = .ok p ∧
      (stamp 1).Regular ∧ (stamp 2).Regular ∧ (stamp 1).unique ≠ (stamp 2).unique ∧
      Message.newId p (stamp 1) = .ok id ∧ Message.newId p (stamp 2) = .ok id' ∧ id ≠ id' := by
  have hsettings : (check (record plainFormat)).result = .ok (settings plainFormat) := rfl
  obtain ⟨p, format, hp, hformat, -, hdiffer, -⟩ := newId_ne_of_placeholder hsettings
  cases hformat
  have hsegments : segments plainFormat.toList = [.literal [], .field Stamp.numberField,
      .literal "@".toList, .field ⟨"sender".toList, none, []⟩] := by
    decide +kernel
  have hfield : .field Stamp.numberField ∈ segments plainFormat.toList := by
    simp [hsegments]
  have hsteady : Steady Stamp.names 1 plainFormat.toList := by
    refine steady_of_fields fun field hfield => ?_
    rw [hsegments] at hfield
    simp at hfield
    rcases hfield with rfl | rfl
    · decide
    · decide
  have hfirst : (stamp 1).Regular := regular_stamp (by decide)
  have hsecond : (stamp 2).Regular := regular_stamp (by decide)
  -- both ids are there
  have hids : ((settings plainFormat).partnership.toOption.map fun p =>
      ((Message.newId p (stamp 1)).toOption, (Message.newId p (stamp 2)).toOption)) =
        some (some "00000000000000000000000000000001@ME",
          some "00000000000000000000000000000002@ME") := by
    decide +kernel
  rw [hp] at hids
  obtain ⟨hid, hid'⟩ := Prod.mk.inj (Option.some.inj hids)
  replace hid := eq_ok_of_toOption hid
  replace hid' := eq_ok_of_toOption hid'
  exact ⟨hsettings, p, _, _, hp, hfirst, hsecond, by decide, hid, hid',
    hdiffer hfield hsteady (stamp 1) (stamp 2) hfirst hsecond (by decide) _ _ hid hid'⟩

/-- With the letters of the placeholder as a literal text, two numbers give one id. -/
theorem Settings.newId_eq_of_escaped_placeholder :
    (check (record escapedFormat)).result = .ok (settings escapedFormat) ∧
    ∃ p, (settings escapedFormat).partnership = .ok p ∧
      (stamp 1).Regular ∧ (stamp 2).Regular ∧ (stamp 1).unique ≠ (stamp 2).unique ∧
      Message.newId p (stamp 1) = .ok uniquePlaceholder ∧
      Message.newId p (stamp 2) = .ok uniquePlaceholder := by
  refine ⟨rfl, _, rfl, regular_stamp (by decide), regular_stamp (by decide), by decide, ?_, ?_⟩
  · exact eq_ok_of_toOption (by decide +kernel)
  · exact eq_ok_of_toOption (by decide +kernel)

/-- The number as the width of a layout does not make ids differ either. -/
example : ((settings "\x7bsender:\x7buuid\x7d\x7d").partnership.toOption.map fun p =>
    ((Message.newId p (stamp 1)).toOption, (Message.newId p (stamp 2)).toOption)) =
      some (some "ME", some "ME") := by
  decide +kernel

end As2Exchange
