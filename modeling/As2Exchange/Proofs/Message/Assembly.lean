import As2Exchange.Message
import As2Exchange.Proofs.Failure.Result

/-!
# Putting a message together

- `given?_eq_some` and `given?_eq_none` say when an entry counts as given;
- `assemble_eq_ok` lists what a message was put together from.
-/

namespace As2Exchange.Message

/-! ## Given entries -/

theorem given?_eq_some {value : Option String} {text : String} :
    given? value = some text ↔ value = some text ∧ text ≠ "" := by
  rw [given?, Option.filter_eq_some_iff]
  simp

theorem given?_eq_none {value : Option String} :
    given? value = none ↔ ∀ text, value = some text → text = "" := by
  rw [given?, Option.filter_eq_none_iff]
  simp

/-! ## Messages -/

variable [Template.Objects]

/-- What a message is put together from. -/
theorem assemble_eq_ok {p : Partnership} {draft : Draft} {stamp : Stamp}
    {message : Message} (h : assemble p draft stamp = .ok message) :
    ∃ url receiver id body, route p = .ok (url, receiver) ∧ newId p stamp = .ok id ∧
      draft.body = .ok body ∧
      message = {
        contentType := draft.contentType
        subject := draft.subject
        partnership := p
        messageId := id
        attributes :=
          [(Key.url, some url), (Key.as2Id, some receiver), (Key.email, p.senderId? Key.email)]
        body := body } := by
  -- the steps in order: the route, the id, the body
  unfold assemble at h
  obtain ⟨⟨url, receiver⟩, hr, h⟩ := bind_eq_ok.1 h
  obtain ⟨id, hn, h⟩ := bind_eq_ok.1 h
  obtain ⟨body, hb, h⟩ := bind_eq_ok.1 h
  cases h
  exact ⟨url, receiver, id, body, hr, hn, hb, rfl⟩

theorem receipt_of_assemble {p : Partnership} {draft : Draft} {stamp : Stamp}
    {message : Message} (h : assemble p draft stamp = .ok message) :
    message.receipt = none := by
  obtain ⟨url, receiver, id, body, -, -, -, rfl⟩ := assemble_eq_ok h
  rfl

end As2Exchange.Message
