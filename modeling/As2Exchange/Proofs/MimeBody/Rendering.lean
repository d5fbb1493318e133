import As2Exchange.Request
import As2Exchange.Proofs.Charset.Name
import As2Exchange.Proofs.Files.Reading

/-!
# What rendering lets through

A payload that cannot be rendered should be told as a failure of serialization. It is, except for
three failures that come from below as they are: a NUL in the name of the charset of a text, a NUL
in the name of a file, and what a charset that is not written out raises.

- `MimeBody.Renderable` are the payloads that have bytes;
- `MimeBody.Stray` lists the failures that are let through, each with its condition;
- `MimeBody.ofPayload_strays_iff` says which payloads are rendered, and that no other failure is let
  through.
-/

namespace As2Exchange

namespace MimeBody

section

variable [Codecs]

/-! ## Payloads with bytes -/

/-- The payloads that have bytes: bytes, texts that the charset writes, and files. -/
inductive Renderable (files : FileTree) (charset : String) : Value → Prop where
  | bytes (data : Bytes) : Renderable files charset (.bytes data)
  | text {text : String} {known : Charset.Named} (hname : Charset.named charset true = .ok known)
      (hwrites : known.Writes text) : Renderable files charset (.text text)
  | path {path : PathName} {data : Bytes} (hnul : '\x00' ∉ (toString path).toList)
      (hfind : files.find (toString path) = .ok (.file data)) :
      Renderable files charset (.path path)

/-- The failures that are not told as failures of serialization. -/
inductive Stray (charset : String) : Value → Failure → Prop where
  /-- The text is to be written in a charset with a NUL in its name. -/
  | charset {text : String} (hnul : '\x00' ∈ charset.toList) :
      Stray charset (.text text) (.charset .nulInName)
  /-- A charset that is not written out raises an exception, which says neither that the charset is
  unknown nor that it lacks a character. -/
  | codec {text : String} {codec : Codec} {e : Raised}
      (hname : Charset.named charset true = .ok (.other codec))
      (hencode : codec.encode text = .error e) (hlookup : e.is "LookupError" = false)
      (hunicode : e.is "UnicodeEncodeError" = false) :
      Stray charset (.text text) (.charset (.codec e))
  /-- There is a NUL in the name of the file. -/
  | path {path : PathName} (hnul : '\x00' ∈ (toString path).toList) :
      Stray charset (.path path) (.file .nulInName)

variable {files : FileTree} {payload : Value} {text contentType charset transferEncoding : String}
  {path : PathName} {failure : Failure}

/-- What is let through is an unsuitable value, or comes from a charset that is not written out. -/
theorem Stray.kind (h : Stray charset payload failure) : failure.kind = "ValueError" ∨
    ∃ e, failure = .charset (.codec e) ∧ e.is "LookupError" = false ∧
      e.is "UnicodeEncodeError" = false := by
  cases h with
  | charset => exact .inl rfl
  | codec _ _ hlookup hunicode => exact .inr ⟨_, rfl, hlookup, hunicode⟩
  | path => exact .inl rfl

theorem Stray.not_serialization (h : Stray charset payload failure) :
    ¬ ∃ cause, failure = .serialization cause := by
  rintro ⟨cause, hcause⟩
  cases h <;> cases hcause

/-! ## The bytes of a text and of a file -/

theorem textBytes_isOk_iff :
    (textBytes text charset).isOk = true ↔ Renderable files charset (.text text) := by
  have hencode : (textBytes text charset).isOk = (Charset.encodeNamed charset text).isOk := by
    unfold textBytes
    cases Charset.encodeNamed charset text with
    | ok bytes => rfl
    | error cause =>
      dsimp only
      split <;> rfl
  rw [hencode, Charset.encodeNamed_isOk_iff]
  constructor
  · rintro ⟨known, hname, hwrites⟩
    exact .text hname hwrites
  · rintro (_ | ⟨hname, hwrites⟩)
    exact ⟨_, hname, hwrites⟩

theorem textBytes_of_error {cause : CharsetError}
    (h : Charset.encodeNamed charset text = .error cause) (hlookup : cause.is "LookupError" = false)
    (hunicode : cause.is "UnicodeEncodeError" = false) :
    textBytes text charset = .error (.charset cause) := by
  unfold textBytes
  rw [h]
  exact if_neg (by simp [hlookup, hunicode])

theorem stray_of_textBytes (h : textBytes text charset = .error failure) :
    (∃ cause, failure = .serialization cause) ∨ Stray charset (.text text) failure := by
  unfold textBytes at h
  split at h
  · cases h
  · rename_i cause hencode
    split at h
    · cases h
      exact .inl ⟨_, rfl⟩
    · rename_i hnone
      cases h
      rw [Bool.or_eq_true, not_or, Bool.not_eq_true, Bool.not_eq_true] at hnone
      -- errors of the registry and lacking characters are of the kinds that are met
      rcases Charset.encodeNamed_eq_error hencode with
        ⟨rfl, hnul⟩ | rfl | rfl | ⟨gap, rfl⟩ | ⟨codec, e, hname, hraised, rfl⟩
      · exact .inr (.charset hnul)
      · cases hnone.1
      · cases hnone.1
      · cases hnone.2
      · exact .inr (.codec hname hraised hnone.1 hnone.2)

theorem fileBytes_isOk_iff :
    (fileBytes files path).isOk = true ↔ Renderable files charset (.path path) := by
  have hread : (fileBytes files path).isOk = (files.read (toString path)).isOk := by
    unfold fileBytes
    split <;> rename_i hresult <;> rw [hresult] <;> rfl
  rw [hread, isOk_iff]
  simp only [FileTree.read_eq_ok]
  constructor
  · rintro ⟨data, hnul, hfind⟩
    exact .path hnul hfind
  · rintro (_ | _ | ⟨hnul, hfind⟩)
    exact ⟨_, hnul, hfind⟩

omit [Codecs] in
theorem fileBytes_of_nul (hnul : '\x00' ∈ (toString path).toList) :
    fileBytes files path = .error (.file .nulInName) := by
  unfold fileBytes
  rw [FileTree.read_eq_nulInName.2 hnul]

theorem stray_of_fileBytes (h : fileBytes files path = .error failure) :
    (∃ cause, failure = .serialization cause) ∨ Stray charset (.path path) failure := by
  unfold fileBytes at h
  split at h
  · cases h
  · rename_i hnul
    cases h
    exact .inr (.path (FileTree.read_eq_nulInName.1 hnul))
  · cases h
    exact .inl ⟨_, rfl⟩

/-! ## Rendering -/

theorem ofPayload_of_not_mem (h : transferEncoding ∉ transferEncodings) :
    ofPayload files payload (.text contentType) charset transferEncoding =
      .error (.serialization (.transferEncoding transferEncoding)) := by
  unfold ofPayload
  exact if_pos (by simpa using h)

theorem ofPayload_isOk_iff :
    (ofPayload files payload (.text contentType) charset transferEncoding).isOk = true ↔
      transferEncoding ∈ transferEncodings ∧ Renderable files charset payload := by
  by_cases hmem : transferEncoding ∈ transferEncodings
  case neg =>
    rw [ofPayload_of_not_mem hmem]
    exact iff_of_false nofun fun h => hmem h.1
  rw [and_iff_right hmem]
  unfold ofPayload
  rw [if_neg (by simpa using hmem)]
  cases payload with
  | bytes data => exact iff_of_true rfl (.bytes data)
  | text text =>
    -- with the bytes there, nothing can fail any more: the content type is a text
    rw [← textBytes_isOk_iff, ← Bool.eq_iff_iff]
    exact bind_isOk_of_ok fun _ => rfl
  | path path =>
    rw [← fileBytes_isOk_iff, ← Bool.eq_iff_iff]
    exact bind_isOk_of_ok fun _ => rfl
  | _ => exact iff_of_false nofun nofun

/-- A rendering that fails tells a failure of serialization, or one that is let through. -/
theorem stray_of_ofPayload
    (h : ofPayload files payload (.text contentType) charset transferEncoding = .error failure) :
    (∃ cause, failure = .serialization cause) ∨
      (transferEncoding ∈ transferEncodings ∧ Stray charset payload failure) := by
  by_cases hmem : transferEncoding ∈ transferEncodings
  case neg =>
    rw [ofPayload_of_not_mem hmem] at h
    cases h
    exact .inl ⟨_, rfl⟩
  rw [and_iff_right hmem]
  unfold ofPayload at h
  rw [if_neg (by simpa using hmem)] at h
  -- only the reading of the bytes can fail, not what follows it
  cases payload with
  | bytes data => cases h
  | text text =>
    rcases bind_eq_error.1 h with htext | ⟨data, -, h⟩
    · exact stray_of_textBytes htext
    · cases h
  | path path =>
    rcases bind_eq_error.1 h with hfile | ⟨data, -, h⟩
    · exact stray_of_fileBytes hfile
    · cases h
  | _ =>
    cases h
    exact .inl ⟨_, rfl⟩

theorem ofPayload_of_stray (hmem : transferEncoding ∈ transferEncodings)
    (h : Stray charset payload failure) :
    ofPayload files payload (.text contentType) charset transferEncoding = .error failure := by
  unfold ofPayload
  rw [if_neg (by simpa using hmem)]
  cases h with
  | charset hnul =>
    exact bind_eq_error.2
      (.inl (textBytes_of_error (Charset.encodeNamed_eq_nulInName.2 hnul) rfl rfl))
  | codec hname hraised hlookup hunicode =>
    have hencode := Charset.encodeNamed_of_codec hname hraised
    exact bind_eq_error.2 (.inl (textBytes_of_error hencode hlookup hunicode))
  | path hnul => exact bind_eq_error.2 (.inl (fileBytes_of_nul hnul))

end

namespace Undefined

/-- The charset that refuses every text. -/
def codec : Codec :=
  let refused : Raised := ⟨"UnicodeError", ["ValueError"], "undefined encoding"⟩
  ⟨fun _ => .error refused, fun _ => .error refused, fun _ => .error refused⟩

@[reducible]
def codecs : Codecs := ⟨fun name => if name = "undefined" then some codec else none⟩

end Undefined

attribute [local instance] Undefined.codecs

end MimeBody

end As2Exchange
