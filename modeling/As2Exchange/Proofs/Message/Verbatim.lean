import As2Exchange.Proofs.Message.Unique
import As2Exchange.Proofs.Template.Written

/-!
# Ids from written templates

The template of message ids of a partnership may be written from literal texts and the names of the
four texts that an id can have. The ids that come from it have exactly these texts: what the
partners call themselves is not read as a part of the template.

- `Placeholder` are the four texts, with their names;
- `newId_written` is the id that a written template gives.
-/

namespace As2Exchange.Message

open Template

/-- What the template of message ids can name. -/
inductive Placeholder where
  | date
  | uuid
  | sender
  | receiver
  deriving DecidableEq, Repr

namespace Placeholder

def name : Placeholder → String
  | date => "date"
  | uuid => "uuid"
  | sender => "sender"
  | receiver => "receiver"

/-- What is put in its place. A partner without an identifier has the empty one. -/
def text (p : Partnership) (stamp : Stamp) : Placeholder → String
  | date => stamp.moment.compact
  | uuid => stamp.uniqueText
  | sender => (p.senderId? Key.as2Id).getD ""
  | receiver => (p.receiverId? Key.as2Id).getD ""

theorem isName_name (a : Placeholder) : IsName a.name.toList := by
  cases a
  all_goals exact ⟨by decide, by decide⟩

/-- The field of a placeholder stands for its text as it is. -/
theorem segmentText_field [Objects] (p : Partnership) (stamp : Stamp) (depth : Nat)
    (a : Placeholder) :
    segmentText (idFields p stamp) depth (.field ⟨a.name.toList, none, []⟩) =
      .ok (a.text p stamp).toList := by
  have hvalue : valueOf (idFields p stamp) a.name.toList =
      follow (.text (a.text p stamp).toList) [] := by
    -- there is no path behind the name, so attributes play no part
    cases a <;> rfl
  rw [follow] at hvalue
  dsimp only [segmentText]
  rw [hvalue]
  rfl

end Placeholder

/-- The template that is written from pieces. -/
def written (pieces : List (Piece Placeholder)) : String :=
  String.ofList (pieces.flatMap (·.written Placeholder.name))

/-- **An id from a written template** is made of the texts of its pieces, as they are. -/
theorem newId_written [Objects] (p : Partnership) (stamp : Stamp)
    (pieces : List (Piece Placeholder))
    (hformat : p.attribute? Key.messageIdFormat = some (written pieces))
    (hne : written pieces ≠ "") :
    newId p stamp =
      .ok (String.join (pieces.map fun piece => piece.text (Placeholder.text p stamp))) := by
  have hidFormat : idFormat p = written pieces := by
    unfold idFormat
    rw [hformat]
    exact if_neg (mt String.isEmpty_iff.1 hne)
  -- an id is the template expanded once, and that goes piece by piece
  rw [newId_eq_ok, hidFormat, written, String.toList_ofList, String.toList_join, List.flatMap_map]
  exact expandTo_written Placeholder.isName_name (Placeholder.segmentText_field p stamp 1) pieces

/-! ## Brackets everywhere -/

namespace Bracketed

/-- Brackets in front of a placeholder, between two of them, and behind one. -/
def pieces : List (Piece Placeholder) :=
  [.literal "\x7b", .field .sender, .literal "\x7d\x7b", .field .uuid, .field .receiver,
    .literal "\x7d", .literal ""]

/-- Partners whose identifiers look like pieces of a template. -/
def agreement : Partnership where
  name := "ME-THEM"
  senderIds := [(Key.as2Id, some "\x7buuid\x7d")]
  receiverIds := [(Key.as2Id, some "\x7d\x7d\x7b")]
  attributes := [(Key.messageIdFormat, some (written pieces))]

def stamp : Stamp := ⟨⟨2024, 1, 2, 3, 4, 5⟩, 1⟩

end Bracketed

attribute [local instance] Objects.kinds

open Bracketed in
/-- Runs of brackets are taken apart at the placeholders, and those of the partners are kept. -/
theorem newId_written_brackets :
    written pieces =
      "\x7b\x7b\x7bsender\x7d\x7d\x7d\x7b\x7b\x7buuid\x7d\x7breceiver\x7d\x7d\x7d" ∧
    agreement.attribute? Key.messageIdFormat = some (written pieces) ∧ written pieces ≠ "" ∧
    newId agreement stamp =
      .ok "\x7b\x7buuid\x7d\x7d\x7b00000000000000000000000000000001\x7d\x7d\x7b\x7d" := by
  have hformat : agreement.attribute? Key.messageIdFormat = some (written pieces) := rfl
  have hne : written pieces ≠ "" := by decide +kernel
  refine ⟨by decide +kernel, hformat, hne, ?_⟩
  rw [newId_written agreement stamp pieces hformat hne]
  exact congrArg Except.ok (by decide +kernel)

end As2Exchange.Message
