import As2Exchange.Proofs.Receipt.Announced
import As2Exchange.Proofs.Receipt.Attributes
import As2Exchange.Proofs.Text.Unfold

/-!
# Notices read back

Reading a notice gives a receipt with the text of the notice and with its fields as attributes.

- `read?_notice` is the receipt of a notice, under any content type with its boundary;
- `read?_quoted` tells what this receipt holds.
-/

namespace As2Exchange

open Mime

namespace Notice

variable (notice : Notice)

/-- The text of a notice is decoded as it was written. -/
theorem text_textEntity [Codecs] : notice.textEntity.text = .ok notice.message := by
  -- no transfer encoding and no charset is told, so the text is taken as it is, in UTF-8
  have hencoding : Header.get? [typeField "text/plain"] "content-transfer-encoding" = none := by
    decide +kernel
  have htype : Header.get? [typeField "text/plain"] "content-type" = some "text/plain" := by
    decide +kernel
  have hplain : (Parameter.list "text/plain").toOption.map (Parameter.find? · "charset") =
      some none := by
    decide +kernel
  obtain ⟨parameters, hlist, hfind⟩ := Option.map_eq_some_iff.1 hplain
  have hcharset := ContentType.charset_eq_none (eq_ok_of_toOption hlist) hfind
  have hnamed : Charset.named "utf-8" false = .ok (.own .utf8) :=
    Charset.named_own (by decide) (by decide +kernel)
  have hdecoded : Charset.decodeNamed "utf-8" (Charset.Utf8.encode notice.message.toList) =
      .ok notice.message := by
    unfold Charset.decodeNamed
    rw [if_neg (by decide)]
    split
    · -- the empty text
      rename_i hempty
      have hread := Charset.Utf8.decode_encode notice.message.toList
      rw [List.isEmpty_iff.1 hempty, String.ofList_toList] at hread
      rw [← hread]
      rfl
    · rw [hnamed]
      show Except.ok (Charset.utf8.decode _) = _
      rw [Charset.Utf8.decode_encode, String.ofList_toList]
  unfold textEntity Entity.text
  dsimp only
  rw [hencoding, htype]
  dsimp only
  rw [hcharset]
  have htransfer : ∀ bytes, decodeTransfer (Text.lower "") bytes = bytes := fun bytes => rfl
  simp only [bind, Except.bind, Option.getD_none, htransfer, hdecoded]
  rfl

/-- The entities that the report consists of. -/
def entities : List Entity := Entity.walkAll [notice.textEntity, notice.fieldsEntity]

theorem firstText_entities [Codecs] :
    Report.firstText notice.entities = .ok (Text.strip notice.message) := by
  have hwalk : notice.entities = [notice.textEntity, notice.fieldsEntity,
      .leaf (notice.fields.map Field.read) "text/plain" []] := rfl
  have htext : Report.isTextPart notice.textEntity = true := by
    have htype : notice.textEntity.contentType? = some "text/plain" := by
      show Header.get? [typeField "text/plain"] "content-type" = _
      decide +kernel
    rw [Report.isTextPart, htype]
    rfl
  have hfields : Report.isTextPart notice.fieldsEntity = false := rfl
  -- the fields are read as a text without a type, which does not count
  have hinner : Report.isTextPart (.leaf (notice.fields.map Field.read) "text/plain" []) =
      false := by
    have htype : Header.get? (notice.fields.map Field.read) "content-type" = none :=
      notice.get?_fields fun field hfield => (notice.fields_own field hfield).1
    rw [Report.isTextPart, Entity.contentType?, Entity.fields, htype]
    rfl
  simp only [hwalk, Report.firstText, htext, hfields, hinner, notice.text_textEntity, bind,
    Except.bind, Bool.false_eq_true, if_false, if_true]
  split
  · rename_i hempty
    rw [String.isEmpty_iff.1 hempty]
  · rfl

/-- The fields of a notice with their names in lower case and their values on one line. -/
def entries : List (String × String) :=
  notice.fields.map fun field => (Text.lower field.name, Text.tidy field.value)

theorem allFields_entities : Report.allFields notice.entities = notice.entries := by
  -- no field is left out as one that describes the content
  have hown : ∀ field ∈ notice.fields.map Field.read,
      (!Report.isDescriptive (Text.lower field.name)) = true := by
    intro field hfield
    obtain ⟨written, hwritten, rfl⟩ := List.mem_map.1 hfield
    have h := notice.fields_own written hwritten
    simp only [Report.isDescriptive, Bool.not_eq_true', Bool.or_eq_false_iff,
      decide_eq_false_iff_not]
    exact h
  have hblock : Report.blockFields (notice.fields.map Field.read) = notice.entries := by
    rw [Report.blockFields, List.filter_eq_self.2 hown, List.map_map, entries]
    apply List.map_congr_left
    intro field hfield
    show (Text.lower field.name, Text.unfold _) = _
    rw [Text.unfold_eq, Field.read, Text.tidy_dropWhile_space, String.ofList_toList]
  have hfilter : notice.entities.filter (fun entity => entity.type = Report.notificationType) =
      [notice.fieldsEntity] := rfl
  rw [Report.allFields, hfilter, List.flatMap_singleton, fieldsEntity, Report.dispositionFields,
    List.flatMap_singleton]
  exact hblock

def receipt : Receipt := Report.ofParts (Text.strip notice.message) notice.entries

/-- **Reading a notice gives its receipt**, whatever else its content type tells. -/
theorem read?_notice [Codecs] [Nesting] {value : String}
    (h : Report.Announces value notice.boundary.toList) :
    Report.read? (some value) notice.body = .ok (some notice.receipt) := by
  have hparts : notice.layout.parts.map (·.lines) = [notice.textPart, notice.fieldsPart] :=
    Entity.Layout.parts_plain _ _
  have hne : notice.layout.parts ≠ [] := by
    intro hnil
    rw [hnil] at hparts
    cases hparts
  rw [Report.read?_layout h notice.layout hne notice.lines_body, hparts, List.mapM_cons,
    List.mapM_cons, List.mapM_nil, notice.readPart_textPart, notice.readPart_fieldsPart]
  show (do return some (← Report.ofEntities notice.entities) : Except Failure (Option Receipt)) = _
  rw [Report.ofEntities, notice.firstText_entities, notice.allFields_entities]
  rfl

/-! ## A quoted boundary -/

/-- The value of the last field with a name in lower case, on one line. -/
def lastValue? (name : String) : Option String :=
  (notice.fields.reverse.find? fun field => Text.lower field.name = name).map fun field =>
    Text.tidy field.value

theorem lookup_entries (name : String) :
    notice.entries.reverse.lookup name = notice.lastValue? name := by
  rw [entries, ← List.map_reverse, lastValue?]
  induction notice.fields.reverse with
  | nil => rfl
  | cons field fields ih =>
    rw [List.map_cons, lookup_cons_eq, ih, List.find?_cons]
    by_cases h : Text.lower field.name = name
    · simp [h]
    · simp [h, Ne.symm h]

theorem lookup_attributes (name : String) :
    notice.receipt.attributes.lookup name = notice.entries.reverse.lookup name :=
  Receipt.lookup_joined notice.entries name

theorem disposition_receipt :
    notice.receipt.disposition = notice.entries.reverse.lookup "disposition" :=
  notice.lookup_attributes _

theorem receivedDigest_receipt :
    notice.receipt.receivedDigest = notice.entries.reverse.lookup "received-content-mic" :=
  notice.lookup_attributes _

theorem originalMessageId_receipt : notice.receipt.originalMessageId =
    (notice.entries.reverse.lookup "original-message-id").map Report.stripBrackets :=
  congrArg (Option.map Report.stripBrackets) (notice.lookup_attributes _)

theorem stripBrackets_tidy (text : String) : Report.stripBrackets (Text.tidy text) =
    String.ofList (Text.trimBoth (fun c => c = '<' || c = '>') (Text.tidy text).toList) := by
  have hstrip : Text.strip (Text.tidy text) = Text.tidy text := by
    unfold Text.tidy Text.strip
    rw [String.toList_ofList, String.toList_ofList, Text.trimBoth_trimBoth]
  rw [Report.stripBrackets, hstrip]

/-- The id of a receipt is its field without angle brackets at the ends. -/
theorem originalMessageId_eq : notice.receipt.originalMessageId =
    (notice.lastValue? "original-message-id").map fun id =>
      String.ofList (Text.trimBoth (fun c => c = '<' || c = '>') id.toList) := by
  rw [originalMessageId_receipt, lookup_entries]
  unfold lastValue?
  generalize (notice.fields.reverse.find? fun field =>
    Text.lower field.name = "original-message-id") = found
  cases found with
  | none => rw [Option.map_none, Option.map_none, Option.map_none]
  | some field => rw [Option.map_some, Option.map_some, Option.map_some, stripBrackets_tidy]

/-- **Reading undoes writing**: under the content type that tells just its boundary, a notice is
read as a receipt with its text, and with the last value of each field under the name in lower
case. -/
theorem read?_quoted [Codecs] [Nesting] (notice : Notice) : ∃ receipt,
    Report.read? (some ("multipart/report; boundary=\"" ++ notice.boundary ++ "\"")) notice.body =
        .ok (some receipt) ∧
      receipt.text = Text.strip ("\r\n".intercalate notice.text) ∧
      (receipt.attributes.map (·.1)).Nodup ∧
      (∀ name, receipt.attributes.lookup name = notice.lastValue? name) ∧
      receipt.disposition = notice.lastValue? "disposition" ∧
      receipt.receivedDigest = notice.lastValue? "received-content-mic" ∧
      receipt.originalMessageId = (notice.lastValue? "original-message-id").map fun id =>
        String.ofList (Text.trimBoth (fun c => c = '<' || c = '>') id.toList) := by
  have hlookup : ∀ name, notice.receipt.attributes.lookup name = notice.lastValue? name := by
    intro name
    rw [lookup_attributes, lookup_entries]
  exact ⟨notice.receipt, notice.read?_notice (Report.announces_quoted notice.boundary_plain), rfl,
    Receipt.nodup_joined _, hlookup, hlookup _, hlookup _, notice.originalMessageId_eq⟩

/-- A notice with a name that is written in two ways, and with runs of blanks. -/
def sample : Notice where
  boundary := "=_1"
  text := ["Prüfung:", "  bestanden  ", "--=_", ""]
  fields := [⟨"disposition", "old"⟩, ⟨"Disposition", " a;   processed "⟩,
    ⟨"Original-Message-ID", "<<1@ME>>"⟩]
  boundary_plain := by decide
  text_single := by decide
  text_apart := by decide
  fields_writable := by
    intro field hfield
    simp only [List.mem_cons, List.not_mem_nil, or_false] at hfield
    rcases hfield with rfl | rfl | rfl
    · exact ⟨by decide, by decide, by decide⟩
    · exact ⟨by decide, by decide, by decide⟩
    · exact ⟨by decide, by decide, by decide⟩
  fields_own := by decide +kernel

attribute [local instance] Codecs.empty Nesting.thousand

theorem read?_quoted_sample : ∃ receipt,
    Report.read? (some ("multipart/report; boundary=\"" ++ sample.boundary ++ "\"")) sample.body =
        .ok (some receipt) ∧
      receipt.text = "Prüfung:\r\n  bestanden  \r\n--=_" ∧
      receipt.disposition = some "a; processed" ∧ receipt.receivedDigest = none ∧
      receipt.originalMessageId = some "1@ME" := by
  obtain ⟨receipt, hread, htext, -, -, hdisposition, hdigest, hid⟩ := read?_quoted sample
  refine ⟨receipt, hread, ?_, ?_, ?_, ?_⟩
  · rw [htext]
    decide +kernel
  · rw [hdisposition]
    decide +kernel
  · rw [hdigest]
    decide +kernel
  · rw [hid]
    decide +kernel

end Notice

end As2Exchange
