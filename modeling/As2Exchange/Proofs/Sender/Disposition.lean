import As2Exchange.Proofs.Receipt.Disposition
import As2Exchange.Proofs.Sender.Status

/-!
# Dispositions that are rejected

The HTTP sender rejects a message whose receipt reports a failure. For a disposition with the usual
words these are the failures and errors, but also the warnings that are explained with the words of
a failure, as the common one about a failed authentication is.

- `verdict_eq_errorDisposition` says when the disposition is the reason to reject a message;
- `http_rejects_disposition_iff` is what this means for a disposition by its parts.
-/

namespace As2Exchange.Sender

open Mime
open Receipt (Disposition)

variable {receipt : Receipt}

/-- The disposition comes first, so it is the reason just if the receipt reports a failure. -/
theorem verdict_eq_errorDisposition {messageId sent text : String} :
    verdict receipt messageId sent = some (.errorDisposition text) ↔
      receipt.isError = true ∧ receipt.disposition.getD "" = text := by
  have hdigest : verdict.digestVerdict receipt messageId sent ≠ some (.errorDisposition text) := by
    unfold verdict.digestVerdict
    split
    · split
      · nofun
      · nofun
    · nofun
  unfold verdict
  split
  · rename_i herror
    rw [Option.some.injEq, TransmissionError.errorDisposition.injEq, and_iff_right herror]
  · rename_i hfine
    refine iff_of_false ?_ fun h => hfine h.1
    split
    · split
      · nofun
      · exact hdigest
    · exact hdigest

/-- A posted message is rejected because of a disposition just if the receipt in the answer has it
and reports a failure. -/
theorem http_rejects_iff_isError [Codecs] [Mime.Nesting] {timeout : Double} {message : Message}
    {session : Session} {network rest : Network} {answer : Answer} {text : String}
    (hposts : (http timeout message session network).posts ≠ [])
    (hanswer : network.next = (.answer answer, rest))
    (hstatus : answer.status < 400 ∨ 600 ≤ answer.status)
    (hread : Report.read? (answer.header? "Content-Type") answer.body = .ok (some receipt)) :
    (http timeout message session network).failure =
        some (.transmission (.errorDisposition text)) ↔
      receipt.isError = true ∧ receipt.disposition.getD "" = text := by
  obtain ⟨url, sent, -, -, hexchange⟩ := http_of_posts hposts
  rw [hexchange, exchange_answered hanswer hstatus, receive_read hread]
  dsimp only
  rw [Option.bind_some, Option.map_eq_some_iff]
  constructor
  · rintro ⟨cause, hcause, heq⟩
    cases heq
    exact verdict_eq_errorDisposition.1 hcause
  · intro hreported
    exact ⟨_, verdict_eq_errorDisposition.2 hreported, rfl⟩

/-- **What a disposition reports.** With the usual words, a receipt reports a failure just if the
type or the modifier tells of one, or the explanation has a word that does. It is then, and only
then, that a posted message is rejected because of the disposition. -/
theorem http_rejects_disposition_iff [Codecs] [Mime.Nesting] {d : Disposition} (h : d.Regular) :
    (∀ receipt : Receipt, receipt.disposition = some d.written →
      (receipt.isError = true ↔ d.Fails ∨ d.ExplainsFailure)) ∧
    ∀ timeout message session network answer rest receipt,
      (http timeout message session network).posts ≠ [] →
      network.next = (.answer answer, rest) → answer.status < 400 ∨ 600 ≤ answer.status →
      Report.read? (answer.header? "Content-Type") answer.body = .ok (some receipt) →
      receipt.disposition = some d.written →
        ((http timeout message session network).failure =
            some (.transmission (.errorDisposition d.written)) ↔
          d.Fails ∨ d.ExplainsFailure) := by
  refine ⟨fun receipt => Receipt.isError_written_iff h, ?_⟩
  intro timeout message session network answer rest receipt hposts hanswer hstatus hread
    hdisposition
  have hreason : receipt.disposition.getD "" = d.written := by
    rw [hdisposition]
    rfl
  rw [http_rejects_iff_isError hposts hanswer hstatus hread, and_iff_left hreason,
    Receipt.isError_written_iff h hdisposition]

/-! ## Warnings -/

namespace Warned

/-- A message that was processed, with a warning. -/
def warning (text : String) : Disposition :=
  ⟨"automatic-action/MDN-sent-automatically", "processed", some ("Warning", text)⟩

theorem regular_warning (text : String) : (warning text).Regular where
  mode := by simp [warning]
  type := .inl (show Text.lower "processed" = "processed" by decide +kernel)
  modifier modifier told h := by
    cases h
    exact .inr (show Text.lower "Warning" = "warning" by decide +kernel)

theorem not_fails_warning (text : String) : ¬ (warning text).Fails := by
  rintro (htype | ⟨modifier, told, h, hmodifier⟩)
  · exact absurd (show Text.lower "processed" = "failed" from htype) (by decide +kernel)
  · cases h
    exact absurd hmodifier (by decide +kernel)

/-- The disposition is written in ASCII without control characters, and stays as it is on one
line. -/
structure Plain (d : Disposition) : Prop where
  ascii : ∀ c ∈ d.written.toList, 32 ≤ c.toNat ∧ c.toNat ≤ 126
  tidy : Text.tidy d.written = d.written

/-- A report that tells a disposition and nothing else. -/
def notice (d : Disposition) (h : Plain d) : Notice where
  boundary := "part"
  text := ["Received."]
  fields := [⟨"Disposition", d.written⟩]
  boundary_plain := by decide
  text_single := by decide
  text_apart := by decide
  fields_writable := by
    intro field hfield
    rw [List.mem_singleton.1 hfield]
    exact ⟨show "Disposition" ≠ "" by decide, show ∀ c ∈ "Disposition".toList, _ by decide,
      h.ascii⟩
  fields_own := by
    intro field hfield
    rw [List.mem_singleton.1 hfield]
    exact ⟨show Text.lower "Disposition" ≠ "content-type" by decide +kernel,
      show Text.lower "Disposition" ≠ "content-transfer-encoding" by decide +kernel⟩

def answer (d : Disposition) (h : Plain d) : Answer where
  headers := [("Content-Type", "multipart/report; boundary=\"part\"")]
  body := (notice d h).body

/-- The receipt tells the disposition. -/
theorem answer_read [Codecs] [Mime.Nesting] {d : Disposition} (h : Plain d) : ∃ receipt,
    Report.read? ((answer d h).header? "Content-Type") (answer d h).body = .ok (some receipt) ∧
      receipt.disposition = some d.written := by
  have hheader : (answer d h).header? "Content-Type" =
      some (ContentType.quoted (notice d h).boundary) := by
    show ([("Content-Type", "multipart/report; boundary=\"part\"")].reverse.find? fun header =>
      Text.lower header.1 = Text.lower "Content-Type").map (·.2) = some (ContentType.quoted "part")
    decide +kernel
  have hname : Text.lower "Disposition" = "disposition" := by decide +kernel
  have hlast : (notice d h).lastValue? "disposition" = some d.written := by
    unfold Notice.lastValue?
    rw [show (notice d h).fields.reverse = [⟨"Disposition", d.written⟩] from rfl,
      List.find?_cons_of_pos (by simpa using hname), Option.map_some, h.tidy]
  refine ⟨(notice d h).receipt, ?_, ?_⟩
  · rw [hheader]
    exact (notice d h).read?_notice (Report.announces_quoted (notice d h).boundary_plain)
  · rw [Notice.disposition_receipt, Notice.lookup_entries, hlast]

/-- A warning about a certificate, with semicolons in it. -/
def harmless : Disposition := warning "certificate expires soon; please renew; thank you"

theorem plain_harmless : Plain harmless := ⟨by decide, by decide +kernel⟩

/-- The warning that the signature of the message could not be checked. -/
def suspicious : Disposition := warning "authentication-failed, processing continued"

theorem plain_suspicious : Plain suspicious := ⟨by decide, by decide +kernel⟩

theorem not_explainsFailure_harmless : ¬ harmless.ExplainsFailure := by
  rintro ⟨modifier, told, h, hnames⟩
  cases h
  exact absurd hnames (by decide +kernel)

theorem explainsFailure_suspicious : suspicious.ExplainsFailure :=
  ⟨"Warning", _, rfl, by decide +kernel⟩

end Warned

open Warned

attribute [local instance] Codecs.empty Mime.Nesting.thousand

/-- A message is posted, and not rejected because of a warning in other words. -/
theorem http_rejects_disposition_iff_harmless :
    harmless.Regular ∧
    ∃ receipt,
      Report.read? ((answer harmless plain_harmless).header? "Content-Type")
        (answer harmless plain_harmless).body = .ok (some receipt) ∧
      receipt.disposition = some harmless.written ∧ receipt.isError = false ∧
      (http defaultTimeout Confirmed.original {} [.answer (answer harmless plain_harmless)]).failure
        ≠ some (.transmission (.errorDisposition harmless.written)) := by
  have hregular := regular_warning "certificate expires soon; please renew; thank you"
  have hneither : ¬ (harmless.Fails ∨ harmless.ExplainsFailure) :=
    not_or.2 ⟨not_fails_warning _, not_explainsFailure_harmless⟩
  obtain ⟨receipt, hread, hdisposition⟩ := answer_read plain_harmless
  obtain ⟨herror, hsend⟩ := http_rejects_disposition_iff hregular
  refine ⟨hregular, receipt, hread, hdisposition, ?_, ?_⟩
  · exact Bool.eq_false_iff.2 (mt (herror receipt hdisposition).1 hneither)
  · exact mt (hsend defaultTimeout Confirmed.original {} _ (answer harmless plain_harmless) []
      receipt (Confirmed.posts_ne_nil _) rfl (.inl (by decide)) hread hdisposition).1 hneither

/-- The warning about a failed authentication is no failure by its type and modifier, and yet the
message is rejected because of it. -/
theorem http_rejects_warning :
    suspicious.Regular ∧ ¬ suspicious.Fails ∧
    ∃ receipt,
      Report.read? ((answer suspicious plain_suspicious).header? "Content-Type")
        (answer suspicious plain_suspicious).body = .ok (some receipt) ∧
      receipt.disposition = some suspicious.written ∧ receipt.isError = true ∧
      (http defaultTimeout Confirmed.original {} [.answer (answer suspicious plain_suspicious)]).failure
        = some (.transmission (.errorDisposition suspicious.written)) := by
  have hregular := regular_warning "authentication-failed, processing continued"
  obtain ⟨receipt, hread, hdisposition⟩ := answer_read plain_suspicious
  have herror : receipt.isError = true :=
    (Receipt.isError_written_iff hregular hdisposition).2 (.inr explainsFailure_suspicious)
  refine ⟨hregular, not_fails_warning _, receipt, hread, hdisposition, herror, ?_⟩
  have hreason : receipt.disposition.getD "" = suspicious.written := by
    rw [hdisposition]
    rfl
  exact (http_rejects_iff_isError (Confirmed.posts_ne_nil _) rfl (.inl (by decide)) hread).2
    ⟨herror, hreason⟩

end As2Exchange.Sender
