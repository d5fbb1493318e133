import As2Exchange.Network
import As2Exchange.Proofs.Base64.RoundTrip
import As2Exchange.Proofs.Receipt.RoundTrip

/-!
# Confirmations

What an honest partner answers: a report that tells the message id just as it was posted, and a
digest with the name of its algorithm.

- `labelled` is such a digest;
- `Confirmation.answer` is the answer to a post;
- `Confirmation.answer_read` reads its receipt.
-/

namespace As2Exchange

open Mime

/-! ## Digests with the names of their algorithms -/

/-- A digest in base64, with the name of its algorithm. -/
def labelled (digest : Bytes) (name : String) : String :=
  String.ofList (Base64.encode digest) ++ ", " ++ name

section Labelled

variable {name : String}

theorem toList_labelled (digest : Bytes) (name : String) : (labelled digest name).toList =
    Base64.encode digest ++ ',' :: ' ' :: name.toList := by
  have hmiddle : ", ".toList = [',', ' '] := by decide
  rw [labelled, ContentType.toList_between, hmiddle, String.toList_ofList, List.append_assoc]
  rfl

theorem labelled_plain (hname : ∀ c ∈ name.toList, 33 ≤ c.toNat ∧ c.toNat ≤ 126) (digest : Bytes) :
    ∀ c ∈ (labelled digest name).toList, 32 ≤ c.toNat ∧ c.toNat ≤ 126 := by
  intro c hc
  rw [toList_labelled] at hc
  rcases List.mem_append.1 hc with hc | hc
  · obtain ⟨-, -, hplain⟩ := Base64.encode_plain hc
    omega
  rcases List.mem_cons.1 hc with rfl | hc
  · decide
  rcases List.mem_cons.1 hc with rfl | hc
  · decide
  · have hplain := hname c hc
    omega

/-- The digest is read as it was written. -/
theorem tidy_labelled (hne : name ≠ "") (hname : ∀ c ∈ name.toList, 33 ≤ c.toNat ∧ c.toNat ≤ 126)
    (digest : Bytes) : Text.tidy (labelled digest name) = labelled digest name := by
  have hleft : ∀ c ∈ Base64.encode digest, Text.isBlank c = false :=
    fun c hc => (Base64.encode_plain hc).1
  have hright : ∀ c ∈ name.toList, Text.isBlank c = false := by
    intro c hc
    have hplain := hname c hc
    rw [← Bool.not_eq_true, Text.isBlank_printable (by omega) hplain.2]
    rintro rfl
    exact absurd hplain.1 (by decide)
  have hpair := Text.tidy_pair hleft hright fun hnil => hne (String.toList_eq_nil_iff.1 hnil)
  rw [← toList_labelled, String.ofList_toList] at hpair
  exact hpair

end Labelled

namespace Confirmation

/-! ## The answer of an honest partner -/

def contentType : String :=
  "multipart/report; report-type=disposition-notification; boundary=\"----=_Part_0_1\""

/-- The text for people. -/
def text : String := "The message was received and processed."

/-- The disposition of a message that was processed. -/
def disposition : String := "automatic-action/MDN-sent-automatically; processed"

def fields (id digest : String) : List Field :=
  [⟨"Reporting-UA", "partner-as2"⟩, ⟨"Final-Recipient", "rfc822; THEM"⟩,
   ⟨"Original-Message-ID", id⟩, ⟨"Disposition", disposition⟩, ⟨"Received-Content-MIC", digest⟩]

/-- The lines of a report about the message with an id, as it was posted. -/
def lines (id digest : String) : List String :=
  ["------=_Part_0_1", "Content-Type: text/plain", "", text,
   "------=_Part_0_1", "Content-Type: message/disposition-notification", ""]
  ++ (fields id digest).map (fun field => field.name ++ ": " ++ field.value)
  ++ ["", "------=_Part_0_1--"]

/-- The answer to a post: a report with the id of the posted headers and with a digest. -/
def answer (post : Post) (digest : String) : Answer where
  headers := [("Content-Type", contentType)]
  body := (lines ((post.headers.lookup "Message-ID").getD "") digest).flatMap fun line =>
    Bytes.ofAscii (line.toList ++ ['\r', '\n'])

/-! ## The report as a notice -/

variable {id digest : String}

theorem fields_writable (hid : ∀ c ∈ id.toList, 32 ≤ c.toNat ∧ c.toNat ≤ 126)
    (hdigest : ∀ c ∈ digest.toList, 32 ≤ c.toNat ∧ c.toNat ≤ 126) :
    ∀ field ∈ fields id digest, field.Writable := by
  -- the names and the values that are always the same
  have hnames : ∀ name ∈ ["Reporting-UA", "Final-Recipient", "Original-Message-ID", "Disposition",
      "Received-Content-MIC"], name ≠ "" ∧
        ∀ c ∈ name.toList, 33 ≤ c.toNat ∧ c.toNat ≤ 126 ∧ c ≠ ':' := by
    decide
  have hfixed : ∀ value ∈ ["partner-as2", "rfc822; THEM", disposition],
      ∀ c ∈ value.toList, 32 ≤ c.toNat ∧ c.toNat ≤ 126 := by
    decide
  intro field hfield
  have hname := hnames field.name
  have hvalue := hfixed field.value
  simp only [fields, List.mem_cons, List.not_mem_nil, or_false] at hfield
  rcases hfield with rfl | rfl | rfl | rfl | rfl
  · exact ⟨(hname (by simp)).1, (hname (by simp)).2, hvalue (by simp)⟩
  · exact ⟨(hname (by simp)).1, (hname (by simp)).2, hvalue (by simp)⟩
  · exact ⟨(hname (by simp)).1, (hname (by simp)).2, hid⟩
  · exact ⟨(hname (by simp)).1, (hname (by simp)).2, hvalue (by simp)⟩
  · exact ⟨(hname (by simp)).1, (hname (by simp)).2, hdigest⟩

theorem names_fields (id digest : String) :
    (fields id digest).map (fun field => Text.lower field.name) =
      ["reporting-ua", "final-recipient", "original-message-id", "disposition",
        "received-content-mic"] := by
  have hnames : ["Reporting-UA", "Final-Recipient", "Original-Message-ID", "Disposition",
      "Received-Content-MIC"].map Text.lower = ["reporting-ua", "final-recipient",
        "original-message-id", "disposition", "received-content-mic"] := by
    decide +kernel
  exact hnames

/-- The notice that a confirmation is. -/
def notice (id digest : String) (hid : ∀ c ∈ id.toList, 32 ≤ c.toNat ∧ c.toNat ≤ 126)
    (hdigest : ∀ c ∈ digest.toList, 32 ≤ c.toNat ∧ c.toNat ≤ 126) : Notice where
  boundary := "----=_Part_0_1"
  text := [text]
  fields := fields id digest
  boundary_plain := by decide
  text_single := by decide
  text_apart := by decide
  fields_writable := fields_writable hid hdigest
  fields_own := by
    intro field hfield
    have hname : Text.lower field.name ∈
        (fields id digest).map fun field => Text.lower field.name :=
      List.mem_map_of_mem hfield
    rw [names_fields] at hname
    have hother : ∀ name ∈ ["reporting-ua", "final-recipient", "original-message-id",
        "disposition", "received-content-mic"],
        name ≠ "content-type" ∧ name ≠ "content-transfer-encoding" := by
      decide
    exact hother _ hname

section Read

variable (hid : ∀ c ∈ id.toList, 32 ≤ c.toNat ∧ c.toNat ≤ 126)
  (hdigest : ∀ c ∈ digest.toList, 32 ≤ c.toNat ∧ c.toNat ≤ 126)

/-- The lines of the report are the rows of the notice. -/
theorem rows_notice : (notice id digest hid hdigest).rows =
    (lines id digest).map fun line => Bytes.ofAscii line.toList := by
  -- the rows that are always the same, one by one
  have hmark : (notice id digest hid hdigest).markRow = Bytes.ofAscii "------=_Part_0_1".toList := by
    show Bytes.ofAscii (Entity.mark "----=_Part_0_1".toList) = _
    decide
  have hclosing : Bytes.ofAscii (Entity.mark "----=_Part_0_1".toList ++ ['-', '-']) =
      Bytes.ofAscii "------=_Part_0_1--".toList := by
    decide
  have htext : Charset.Utf8.encode text.toList = Bytes.ofAscii text.toList := by
    decide
  have hplain : (Notice.typeField "text/plain").line =
      Bytes.ofAscii "Content-Type: text/plain".toList := by
    decide
  have hreport : (Notice.typeField "message/disposition-notification").line =
      Bytes.ofAscii "Content-Type: message/disposition-notification".toList := by
    decide
  -- the rows of the fields
  have hfields : (fields id digest).map Field.line =
      ((fields id digest).map fun field => field.name ++ ": " ++ field.value).map fun line =>
        Bytes.ofAscii line.toList := by
    rw [List.map_map]
    apply List.map_congr_left
    intro field hfield
    have hcolon : ": ".toList = [':', ' '] := by decide
    show Field.line field = Bytes.ofAscii (field.name ++ ": " ++ field.value).toList
    rw [ContentType.toList_between, hcolon, Field.line, List.append_assoc]
    rfl
  have hrows : (notice id digest hid hdigest).rows =
      (notice id digest hid hdigest).markRow :: (Notice.typeField "text/plain").line :: []
        :: [Charset.Utf8.encode text.toList]
      ++ (notice id digest hid hdigest).markRow
        :: (Notice.typeField "message/disposition-notification").line :: []
        :: (fields id digest).map Field.line
      ++ [[], Bytes.ofAscii (Entity.mark "----=_Part_0_1".toList ++ ['-', '-'])] := rfl
  rw [hrows, hmark, hplain, hreport, htext, hfields, hclosing]
  rfl

theorem body_notice : (notice id digest hid hdigest).body =
    (lines id digest).flatMap fun line => Bytes.ofAscii (line.toList ++ ['\r', '\n']) := by
  rw [Notice.body, rows_notice, List.flatMap_map]
  congr 1
  funext line
  rw [Bytes.ofAscii_append, ended]
  rfl

/-! ## The receipt -/

theorem entries_notice : (notice id digest hid hdigest).entries =
    [("reporting-ua", Text.tidy "partner-as2"), ("final-recipient", Text.tidy "rfc822; THEM"),
     ("original-message-id", Text.tidy id), ("disposition", Text.tidy disposition),
     ("received-content-mic", Text.tidy digest)] := by
  have hzip : (notice id digest hid hdigest).entries =
      ((fields id digest).map fun field => Text.lower field.name).zip
        ((fields id digest).map fun field => Text.tidy field.value) := by
    rw [List.zip_map', Notice.entries]
    rfl
  rw [hzip, names_fields]
  rfl

/-- What a confirmation tells under the names that a receipt looks at. -/
theorem lookup_notice :
    (notice id digest hid hdigest).entries.reverse.lookup "disposition" = some disposition ∧
      (notice id digest hid hdigest).entries.reverse.lookup "received-content-mic" =
        some (Text.tidy digest) ∧
      (notice id digest hid hdigest).entries.reverse.lookup "original-message-id" =
        some (Text.tidy id) := by
  have htidy : Text.tidy disposition = disposition := by decide +kernel
  rw [entries_notice, htidy]
  -- the values are kept folded while the names are compared
  generalize Text.tidy "partner-as2" = agent
  generalize Text.tidy "rfc822; THEM" = recipient
  generalize Text.tidy id = idTold
  generalize Text.tidy digest = digestTold
  generalize disposition = dispositionTold
  exact ⟨rfl, rfl, rfl⟩

theorem receipt_notice :
    let receipt := (notice id digest hid hdigest).receipt
    receipt.text = text ∧ receipt.disposition = some disposition ∧
      receipt.receivedDigest = some (Text.tidy digest) ∧
      receipt.originalMessageId = some (Report.stripBrackets (Text.tidy id)) := by
  obtain ⟨hdisposition, hreceived, horiginal⟩ := lookup_notice hid hdigest
  refine ⟨?_, ?_, ?_, ?_⟩
  · show Text.strip ("\r\n".intercalate [text]) = text
    decide +kernel
  · rw [Notice.disposition_receipt, hdisposition]
  · rw [Notice.receivedDigest_receipt, hreceived]
  · rw [Notice.originalMessageId_receipt, horiginal, Option.map_some]

theorem announces_contentType [Codecs] :
    Report.Announces contentType "----=_Part_0_1".toList where
  single := by decide
  type := by decide +kernel
  boundary := by
    have htold : (Parameter.list (Report.toldType contentType)).toOption.map
        (Parameter.find? · "boundary") = some (some (.plain "----=_Part_0_1".toList)) := by
      decide +kernel
    obtain ⟨parameters, hlist, hfind⟩ := Option.map_eq_some_iff.1 htold
    exact ContentType.boundary_of_plain (eq_ok_of_toOption hlist) hfind

include hid hdigest in
/-- **The answer of an honest partner is read**: its receipt tells what the partner wrote, the id
without the angle brackets. -/
theorem answer_read [Codecs] [Nesting] {post : Post}
    (hpost : post.headers.lookup "Message-ID" = some id) :
    ∃ receipt,
      Report.read? ((answer post digest).header? "Content-Type") (answer post digest).body =
        .ok (some receipt) ∧
      receipt.text = text ∧ receipt.disposition = some disposition ∧
      receipt.receivedDigest = some (Text.tidy digest) ∧
      receipt.originalMessageId = some (Report.stripBrackets (Text.tidy id)) := by
  have hheader : (answer post digest).header? "Content-Type" = some contentType := by
    show ([("Content-Type", contentType)].reverse.find? fun header =>
      Text.lower header.1 = Text.lower "Content-Type").map (·.2) = _
    decide +kernel
  have hbody : (answer post digest).body = (notice id digest hid hdigest).body := by
    rw [body_notice, answer, hpost]
    rfl
  refine ⟨(notice id digest hid hdigest).receipt, ?_, receipt_notice hid hdigest⟩
  rw [hheader, hbody]
  exact Notice.read?_notice (notice id digest hid hdigest) announces_contentType

end Read

/-- The disposition of a confirmation tells of no failure. -/
theorem isError_of_disposition {receipt : Receipt}
    (h : receipt.disposition = some disposition) : receipt.isError = false := by
  unfold Receipt.isError Receipt.status?
  rw [h]
  decide +kernel

end Confirmation

end As2Exchange
