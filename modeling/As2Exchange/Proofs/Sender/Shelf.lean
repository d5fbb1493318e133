import As2Exchange.Sender.Loopback
import Mathlib.Data.List.Nodup

/-!
# What the loopback sender holds

A message is taken in, counted as sent, and only then answered where it lies. Its place is new, so
the answer is seen by all that hold the place, and no other message is touched.

- `Shelf.Sound` is the invariant: the places of sent messages are taken, and each is counted once;
- `Shelf.kept_withSent` says what one more message adds to those that are kept;
- `Sender.loopback_eq` is the whole delivery of the sender.
-/

namespace As2Exchange

namespace Shelf

/-- There is a message at each place that was sent, and no place was sent twice. -/
structure Sound (shelf : Shelf) : Prop where
  taken : ∀ place ∈ shelf.sent, place < shelf.messages.length
  once : shelf.sent.Nodup

theorem Sound.empty : Sound {} := ⟨nofun, .nil⟩

/-- The shelf with one more message, which has been sent. -/
def withSent (shelf : Shelf) (message : Message) : Shelf where
  messages := shelf.messages ++ [message]
  sent := shelf.sent ++ [shelf.messages.length]

/-- A message that is kept and changed afterwards lies there as it was changed to. -/
theorem edit_keep_add (shelf : Shelf) (message : Message) (change : Message → Message) :
    ((shelf.add message).1.keep shelf.messages.length).edit shelf.messages.length change =
      shelf.withSent (change message) := by
  simp [add, keep, edit, withSent, List.modify_eq_take_drop]

theorem message?_withSent_of_lt {shelf : Shelf} {place : Nat} (message : Message)
    (h : place < shelf.messages.length) :
    (shelf.withSent message).message? place = shelf.message? place :=
  List.getElem?_append_left h

theorem message?_withSent (shelf : Shelf) (message : Message) :
    (shelf.withSent message).message? shelf.messages.length = some message :=
  List.getElem?_concat_length

theorem Sound.withSent {shelf : Shelf} (h : shelf.Sound) (message : Message) :
    (shelf.withSent message).Sound where
  taken := by
    intro place hplace
    unfold Shelf.withSent at hplace ⊢
    rw [List.length_append, List.length_singleton]
    rcases List.mem_append.1 hplace with hbefore | hnew
    · exact Nat.lt_succ_of_lt (h.taken place hbefore)
    · rw [List.mem_singleton.1 hnew]
      exact Nat.lt_succ_self _
  once := by
    -- the new place is behind all that are taken
    refine List.nodup_append.2 ⟨h.once, List.nodup_singleton _, ?_⟩
    intro place hbefore other hnew
    rw [List.mem_singleton.1 hnew]
    exact Nat.ne_of_lt (h.taken place hbefore)

/-- **One more message is kept behind the others**, which lie there as before. -/
theorem Sound.kept_withSent {shelf : Shelf} (h : shelf.Sound) (message : Message) :
    (shelf.withSent message).kept = shelf.kept ++ [message] := by
  -- the places of before are within the old shelf, so the new message is at none of them
  have hbefore : shelf.sent.filterMap (shelf.withSent message).message? = shelf.kept :=
    List.filterMap_congr fun place hplace => message?_withSent_of_lt message (h.taken place hplace)
  have hnew : [shelf.messages.length].filterMap (shelf.withSent message).message? = [message] := by
    rw [List.filterMap_cons_some (message?_withSent shelf message), List.filterMap_nil]
  unfold kept at hbefore ⊢
  rw [← hbefore, ← hnew, ← List.filterMap_append]
  rfl

/-- No place that was sent is without its message. -/
theorem Sound.length_kept {shelf : Shelf} (h : shelf.Sound) :
    shelf.kept.length = shelf.sent.length := by
  refine List.filterMap_length_eq_length.2 fun place hplace => ?_
  rw [message?, List.getElem?_eq_getElem (h.taken place hplace)]
  rfl

end Shelf

namespace Sender

/-- The message with the receipt of the loopback sender. -/
def receipted (message : Message) : Message :=
  { message with receipt := some (processedReceipt message.messageId) }

/-- The loopback sender leaves the message with its receipt, and has kept the same one. -/
theorem loopback_eq (shelf : Shelf) (message : Message) (session : Session) (network : Network) :
    loopback shelf message session network =
      { message := receipted (complete message session).1
        session := (complete message session).2
        network
        shelf? := some (shelf.withSent (receipted (complete message session).1)) } := by
  unfold loopback
  dsimp only [Shelf.add]
  -- the receipt is attached where the message lies, behind the append
  have hshelf := shelf.edit_keep_add (complete message session).1 receipted
  unfold receipted at hshelf ⊢
  rw [Shelf.add] at hshelf
  rw [hshelf, Shelf.message?_withSent]
  rfl

end Sender

end As2Exchange
