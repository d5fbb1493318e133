import As2Exchange.Send.Basic
import As2Exchange.Proofs.Failure.Result

/-!
# Failures that a response can tell

A collector notes every failure but a request to stop. This module shows that the steps before the
sender never raise such a request of their own:

- `Settings.partnership_reportable`, `Message.assemble_reportable` and `Session.start_reportable`
  are the three steps, each under what its collaborators promise;
- `Message.Draft.ofRequest_reportable` says that the rendering of a request keeps the promise.
-/

namespace As2Exchange

open Failure

/-! ## The partnership -/

theorem Settings.partnership_reportable (s : Settings) : Reportable s.partnership := by
  unfold Settings.partnership
  dsimp only
  split
  · exact reportable_ok _
  · exact reportable_error.2 rfl

/-! ## The message -/

namespace Message

theorem route_reportable (p : Partnership) : Reportable (route p) := by
  unfold route
  split
  · exact reportable_error.2 rfl
  · split
    · exact reportable_ok _
    · exact reportable_error.2 rfl

theorem newId_reportable [Template.Objects] (p : Partnership) (stamp : Stamp)
    : Reportable (newId p stamp) := by
  unfold newId
  split
  · exact reportable_ok _
  · split <;> exact reportable_error.2 rfl

/-- Assembling adds no request to stop to those of the rendering. -/
theorem assemble_reportable [Template.Objects] {p : Partnership} {draft : Draft} {stamp : Stamp}
    (h : Reportable draft.body) : Reportable (assemble p draft stamp) := by
  -- the steps in order: the route, the id, the body
  refine (route_reportable p).bind fun _ _ => ?_
  refine (newId_reportable p stamp).bind fun _ _ => ?_
  exact h.bind fun _ _ => reportable_ok _

end Message

/-! ## The rendering of a request -/

namespace MimeBody

theorem textBytes_reportable [Codecs] (text charset : String) : Reportable (textBytes text charset)
    := by
  unfold textBytes
  split
  · exact reportable_ok _
  · split <;> exact reportable_error.2 rfl

theorem fileBytes_reportable (files : FileTree) (path : PathName) :
    Reportable (fileBytes files path) := by
  unfold fileBytes
  split
  · exact reportable_ok _
  · exact reportable_error.2 rfl
  · exact reportable_error.2 rfl

theorem assemble_reportable (contentType : Value) (transferEncoding : String) (data : Bytes) :
    Reportable (MimeBody.assemble contentType transferEncoding data) := by
  unfold MimeBody.assemble
  split
  · exact reportable_ok _
  · exact reportable_error.2 rfl

/-- Whatever a payload is made of, its rendering asks nobody to stop. -/
theorem ofPayload_reportable [Codecs] (files : FileTree) (payload contentType : Value)
    (charset transferEncoding : String) :
    Reportable (ofPayload files payload contentType charset transferEncoding) := by
  unfold ofPayload
  split
  · exact reportable_error.2 rfl
  · -- one case for each kind of payload
    split
    · exact assemble_reportable _ _ _
    · refine (textBytes_reportable _ _).bind fun _ _ => ?_
      split
      · exact reportable_ok _
      · exact reportable_error.2 rfl
    · exact (fileBytes_reportable files _).bind fun _ _ => assemble_reportable _ _ _
    · exact reportable_error.2 rfl

end MimeBody

theorem Message.Draft.ofRequest_reportable [Codecs] (request : Request) (files : FileTree) :
    Reportable (Message.Draft.ofRequest request files).body :=
  MimeBody.ofPayload_reportable files _ _ _ _

/-! ## The session -/

namespace KeyStore

theorem pathOf_reportable (v : Value) : Reportable (pathOf v) := by
  unfold pathOf
  split
  · exact reportable_ok _
  · exact reportable_ok _
  · exact reportable_error.2 rfl

theorem passwordOf_reportable (v : Value) : Reportable (passwordOf v) := by
  unfold passwordOf
  split
  · split
    · exact reportable_ok _
    · exact reportable_error.2 rfl
  · exact reportable_ok _

theorem locate_reportable (surroundings : Surroundings) (path : PathName) :
    Reportable (locate surroundings path) := by
  unfold locate
  refine .ite (reportable_error.2 rfl) ?_
  split
  · exact reportable_error.2 rfl
  · -- a relative name needs the working directory
    exact .ite (reportable_ok _) (.ite (reportable_error.2 rfl) (reportable_ok _))

theorem readFile_reportable (surroundings : Surroundings) (path : PathName) :
    Reportable (readFile surroundings path) := by
  unfold readFile
  split
  · exact reportable_ok _
  · exact reportable_error.2 rfl
  · exact reportable_error.2 rfl

theorem openFile_reportable (surroundings : Surroundings) (path : PathName) (data : Bytes)
    (password : Option Bytes) : Reportable (openFile surroundings path data password) := by
  unfold openFile
  split
  · exact reportable_ok _
  · exact .ite (reportable_error.2 rfl) (reportable_error.2 rfl)

theorem underAlias_reportable (entry : FriendlyName × Credential) :
    Reportable (underAlias entry) := by
  have halias : Reportable (aliasOf entry.1) := by
    unfold aliasOf
    split
    · exact reportable_ok _
    · exact reportable_error.2 rfl
  exact halias.bind fun _ _ => reportable_ok _

theorem ofFile_reportable (path : PathName) (file : KeyFile) : Reportable (ofFile path file) := by
  have hkeys : Reportable (privateKeysOf file) := by
    unfold privateKeysOf
    split
    · exact (underAlias_reportable _).bind fun _ _ => reportable_ok _
    · exact reportable_ok _
  refine (Reportable.mapM underAlias_reportable file.entries).bind fun _ _ => ?_
  exact hkeys.bind fun _ _ => reportable_ok _

/-- Whatever is wrong with a key store, its loading asks nobody to stop. -/
theorem load_reportable (surroundings : Surroundings) (path password : Value) :
    Reportable (load surroundings path password) := by
  -- the steps in order: the name, the place, the content, the password, the store in the content
  refine (pathOf_reportable path).bind fun _ _ => ?_
  refine (locate_reportable surroundings _).bind fun _ _ => ?_
  refine (readFile_reportable surroundings _).bind fun _ _ => ?_
  refine (passwordOf_reportable password).bind fun _ _ => ?_
  exact (openFile_reportable surroundings _ _ _).bind fun _ _ => ofFile_reportable _ _

end KeyStore

/-- Opening a session asks to stop only if setting up the partnerships does. -/
theorem Session.start_reportable {surroundings : Surroundings} {settings : Settings}
    {partnershipsFail : Option Foreign}
    (h : ∀ cause, partnershipsFail = some cause → cause.family ≠ .interrupt) :
    Reportable (Session.start surroundings settings partnershipsFail) := by
  refine (KeyStore.load_reportable surroundings _ _).bind fun _ _ => ?_
  cases partnershipsFail with
  | none => exact reportable_ok _
  | some cause =>
    -- the failure of the partnerships is wrapped
    simp only [h cause rfl, if_false]
    exact reportable_error.2 rfl

end As2Exchange
