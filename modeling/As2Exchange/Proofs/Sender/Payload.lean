import As2Exchange.Proofs.Base64.Lines
import As2Exchange.Proofs.Sender.Guards

/-!
# Payloads on the wire

What is posted for a request can be turned back into the payload by the transfer encoding that the
posted headers name.

- `MimeBody.received?` is what a receiver makes of posted bytes;
- `MimeBody.received?_transmitted` is the round trip of a body;
- `MimeBody.ofPayload_eq_ok` says what a payload is rendered to;
- `Sender.http_posts_recoverable` says that every post of a request is read back.
-/

namespace As2Exchange

namespace MimeBody

/-! ## Reading what was posted -/

/-- What posted bytes stand for under a transfer encoding. The line ends in base64 are passed over;
anything else that is no base64 is refused. -/
def received? (transferEncoding : String) (wire : Bytes) : Option Bytes :=
  match transferEncoding with
  | "base64" => Base64.decodeStrict (wire.filter fun b => b ≠ Base64.newline)
  | "binary" | "8bit" | "7bit" => some wire
  | _ => none

theorem received?_transmitted {body : MimeBody}
    (h : body.transferEncoding ∈ transferEncodings) :
    received? body.transferEncoding body.transmitted = some body.data := by
  unfold transmitted
  -- three of the encodings leave the bytes as they are; base64 is lines that are read back
  simp only [transferEncodings, List.mem_cons, List.not_mem_nil, or_false] at h
  rcases h with h | h | h | h
  · rw [h]
    rfl
  · rw [h]
    rfl
  · rw [h]
    rfl
  · rw [h, if_pos rfl]
    exact Base64.decodeStrict_encodeLines body.data

/-! ## Rendering -/

theorem assemble_eq_ok {contentType : Value} {transferEncoding : String} {data : Bytes}
    {body : MimeBody} (h : assemble contentType transferEncoding data = .ok body) :
    body.transferEncoding = transferEncoding ∧ body.data = data := by
  unfold assemble at h
  split at h
  · cases h
    exact ⟨rfl, rfl⟩
  · cases h

/-- A rendered body has the transfer encoding that was asked for, and the bytes of the payload. -/
theorem ofPayload_eq_ok [Codecs] {files : FileTree} {payload contentType : Value}
    {charset transferEncoding : String} {body : MimeBody}
    (h : ofPayload files payload contentType charset transferEncoding = .ok body) :
    transferEncoding ∈ transferEncodings ∧ body.transferEncoding = transferEncoding ∧
      ((∃ data, payload = .bytes data ∧ body.data = data) ∨
        (∃ text, payload = .text text ∧ textBytes text charset = .ok body.data) ∨
        ∃ path, payload = .path path ∧ fileBytes files path = .ok body.data) := by
  -- the transfer encoding is looked at first, and then the kind of the payload
  unfold ofPayload at h
  split at h
  · cases h
  · rename_i hknown
    have hmem : transferEncoding ∈ transferEncodings := by simpa using hknown
    split at h
    · rename_i data
      obtain ⟨hencoding, hdata⟩ := assemble_eq_ok h
      exact ⟨hmem, hencoding, .inl ⟨data, rfl, hdata⟩⟩
    · rename_i text
      obtain ⟨data, hdata, h⟩ := bind_eq_ok.1 h
      split at h
      · cases h
        exact ⟨hmem, rfl, .inr (.inl ⟨text, rfl, hdata⟩)⟩
      · cases h
    · rename_i path
      obtain ⟨data, hdata, h⟩ := bind_eq_ok.1 h
      obtain ⟨hencoding, rfl⟩ := assemble_eq_ok h
      exact ⟨hmem, hencoding, .inr (.inr ⟨path, rfl, hdata⟩)⟩
    · cases h

end MimeBody

namespace Sender

/-! ## Posts -/

theorem lookup_transferEncoding (message : Message) :
    message.headers.lookup "Content-Transfer-Encoding" = some message.body.transferEncoding := by
  unfold Message.headers
  rfl

/-- Each post carries the bytes and the headers of the message's body. -/
theorem of_mem_posts [Codecs] [Mime.Nesting] {timeout : Double} {action : String}
    {message : Message} {session : Session} {network : Network} {post : Post}
    (h : post ∈ ((http timeout).handle action message session network).posts) :
    post.data = message.body.transmitted ∧
      post.headers.lookup "Content-Transfer-Encoding" = some message.body.transferEncoding := by
  -- what a guard refuses is not posted; the rest is one post of the completed message
  rcases refused_or_passes action message session with ⟨failure, hrefused⟩ | hpasses
  · rw [(handle_of_refused timeout network hrefused).1] at h
    cases h
  · obtain ⟨url, sent, -, -, hdelivery⟩ := handle_of_passes timeout network hpasses
    rw [hdelivery, exchange_posts, List.mem_singleton] at h
    rw [h]
    exact ⟨rfl, lookup_transferEncoding (complete message session).1⟩

/-- **The receiver can recover the payload.** Whenever a message with the body of a request is
posted, the posted bytes are turned back into the bytes of the body by the transfer encoding of the
posted headers. In base64 they are lines of 76 letters, the last one of whole groups, and there is
no line just if there are no bytes. -/
theorem http_posts_recoverable [Codecs] [Mime.Nesting] {request : Request} {files : FileTree}
    {body : MimeBody}
    (hrender : request.render files = .ok body) {message : Message} (hbody : message.body = body)
    (timeout : Double) (action : String) (session : Session) (network : Network) :
    ∀ post ∈ ((http timeout).handle action message session network).posts,
      post.headers.lookup "Content-Transfer-Encoding" = some request.transferEncoding ∧
      MimeBody.received? request.transferEncoding post.data = some body.data ∧
      (∀ data, request.payload = .bytes data → body.data = data) ∧
      (request.transferEncoding = "base64" → ∃ lines, Base64.Lined post.data lines ∧
        (lines = [] ↔ body.data = [])) ∧
      (request.transferEncoding ≠ "base64" → post.data = body.data) := by
  intro post hpost
  obtain ⟨hdata, hheader⟩ := of_mem_posts hpost
  obtain ⟨hmem, hencoding, hpayload⟩ := MimeBody.ofPayload_eq_ok hrender
  rw [hbody] at hdata hheader
  rw [hencoding] at hheader
  refine ⟨hheader, ?received, ?payload, ?lined, ?plain⟩
  case received =>
    rw [hdata, ← hencoding]
    rw [← hencoding] at hmem
    exact MimeBody.received?_transmitted hmem
  case payload =>
    intro data hbytes
    rw [hbytes] at hpayload
    rcases hpayload with ⟨data', heq, hdata'⟩ | ⟨text, heq, -⟩ | ⟨path, heq, -⟩
    · cases heq
      exact hdata'
    · cases heq
    · cases heq
  case lined =>
    intro hbase64
    have hwire : post.data = Bytes.ofAscii (Base64.encodeLines body.data) := by
      rw [hdata]
      exact if_pos (hencoding.trans hbase64)
    rw [hwire]
    exact ⟨_, Base64.lined_encodeLines body.data, Base64.linesOf_eq_nil⟩
  case plain =>
    intro hplain
    rw [hdata]
    exact if_neg fun h => hplain (hencoding.symm.trans h)

/-! ## A payload of two lines -/

namespace TwoLines

/-- One byte more than fits in a line. -/
def payload : Bytes := List.replicate 58 165

def request : Request where
  subject := "Order 1"
  payload := .bytes payload
  transferEncoding := "base64"

def message : Message where
  contentType := defaultContentType
  subject := "Order 1"
  partnership := ⟨"ME-THEM", [(Key.as2Id, some "ME")], [(Key.as2Id, some "THEM")], []⟩
  messageId := "1@ME"
  attributes := [(Key.url, some "https://partner.example/as2"), (Key.as2Id, some "THEM")]
  body := ⟨defaultContentType, "base64", payload⟩

attribute [local instance] Codecs.empty Mime.Nesting.thousand

theorem posts_eq : ((http defaultTimeout).handle sendAction message {} []).posts =
    [postOf message "https://partner.example/as2" defaultTimeout] := by
  have hurl : Message.given? message.destination? = some "https://partner.example/as2" := by
    decide +kernel
  have hdigest : DigestAlgorithm.ofName? message.digestName = some .sha256 := by decide +kernel
  have hkeys : requireKeys message.partnership {} = .ok () := rfl
  obtain ⟨sent, hprepare⟩ : ∃ sent,
      prepare (complete message {}).1 (complete message {}).2 = .ok sent := by
    rw [complete_fresh]
    exact ⟨_, prepare_eq_ok.2 ⟨hkeys, sentDigest_eq_ok.2 ⟨_, hdigest, rfl⟩⟩⟩
  rw [handle_send, http_posts hurl hprepare, complete_fresh]

end TwoLines

open TwoLines

attribute [local instance] Codecs.empty Mime.Nesting.thousand

/-- A payload that takes two lines is read back from what is posted. -/
theorem http_posts_recoverable_two_lines :
    request.render (.empty ⟨"/", ["w"]⟩) = .ok message.body ∧
      ∃ post ∈ ((http defaultTimeout).handle sendAction message {} []).posts,
        post.headers.lookup "Content-Transfer-Encoding" = some "base64" ∧
        MimeBody.received? "base64" post.data = some payload := by
  have hrender : request.render (.empty ⟨"/", ["w"]⟩) = .ok message.body := rfl
  have hpost : postOf message "https://partner.example/as2" defaultTimeout ∈
      ((http defaultTimeout).handle sendAction message {} []).posts := by
    rw [posts_eq]
    exact List.mem_singleton_self _
  obtain ⟨hheader, hreceived, -⟩ :=
    http_posts_recoverable hrender rfl defaultTimeout sendAction {} [] _ hpost
  exact ⟨hrender, _, hpost, hheader, hreceived⟩

end Sender

end As2Exchange
