import As2Exchange.MimeBody
import As2Exchange.Proofs.Charset.RoundTrip
import As2Exchange.Proofs.Mime.Appended

/-!
# The charset that a body declares

A text is written in the given charset, and its content type should say so. It does where the
content type has no charset yet. Whether it has one is told by the letters only, so other parameters
with these letters, and charsets other than the given one, leave the body with a content type that
is not true of its bytes. And a charset that is not written out may lose something of the text.

- `MimeBody.Truthful` says that the declared charset gives back the text;
- `MimeBody.ofPayload_truthful_iff` says when the body of a text is truthful.
-/

namespace As2Exchange.MimeBody

open Mime.ContentType (Unlabelled labelled charset_unlabelled charset_labelled)

/-! ## Declarations -/

/-- The content type names a charset, in which the bytes are the text. -/
def Truthful [Codecs] (body : MimeBody) (text : String) : Prop :=
  ∃ name, Mime.ContentType.charset body.contentType = .ok (some name) ∧
    Charset.decodeNamedStrict name body.data = .ok (some text)

/-- The letters of a charset parameter occur in the content type, in whatever case. -/
def ShowsCharset (contentType : String) : Prop :=
  "charset=".toList <:+: (Text.lower contentType).toList

instance (contentType : String) : Decidable (ShowsCharset contentType) :=
  decidable_of_iff _ Text.occursIn_iff

section

variable [Codecs] {files : FileTree} {text contentType charset transferEncoding : String}
  {body : MimeBody}

omit [Codecs] in
theorem withCharset_eq (contentType charset : String) : withCharset contentType charset =
    if ShowsCharset contentType then contentType else labelled contentType charset := by
  unfold withCharset
  exact if_congr Text.occursIn_iff rfl rfl

/-! ## The body of a text -/

/-- A text is written in the charset of the given name. -/
theorem textBytes_eq_ok {bytes : Bytes} : textBytes text charset = .ok bytes ↔
    ∃ known, Charset.named charset true = .ok known ∧ known.encode text = .ok bytes := by
  rw [← Charset.encodeNamed_eq_ok]
  unfold textBytes
  cases Charset.encodeNamed charset text with
  | ok data => simp
  | error cause =>
    -- told in one way or the other, an error is no bytes
    refine iff_of_false ?_ nofun
    dsimp only
    split <;> exact nofun

theorem ofPayload_text_eq_ok
    (h : ofPayload files (.text text) (.text contentType) charset transferEncoding = .ok body) :
    body.contentType = withCharset contentType charset ∧
      ∃ known, Charset.named charset true = .ok known ∧ known.encode text = .ok body.data := by
  unfold ofPayload at h
  split at h
  · cases h
  · obtain ⟨data, hdata, h⟩ := bind_eq_ok.1 h
    have hbody : ⟨withCharset contentType charset, transferEncoding, data⟩ = body :=
      Except.ok.inj h
    subst hbody
    exact ⟨rfl, textBytes_eq_ok.1 hdata⟩

/-- **When the body of a text is truthful.** The bytes are the text in the given charset if this
restores the text, as every charset that is written out does. A content type with the letters of a
charset is kept, and just then it is true if it names the charset that was given. One that has no
charset is true just if, besides, these letters do not occur in it, which leaves out other
parameters with a name that ends like this. -/
theorem ofPayload_truthful_iff
    (h : ofPayload files (.text text) (.text contentType) charset transferEncoding = .ok body) :
    ∃ known, Charset.named charset true = .ok known ∧
      (Charset.decodeNamedStrict charset body.data = .ok (some text) ↔ known.Restores text) ∧
      (ShowsCharset contentType → body.contentType = contentType ∧
        ∀ name, Mime.ContentType.charset contentType = .ok (some name) →
          Charset.named name true = .ok known → (body.Truthful text ↔ known.Restores text)) ∧
      (Unlabelled contentType → (∀ c ∈ charset.toList, c.toNat < 128) →
        (∀ c ∈ charset.toList, Mime.Parameter.IsOrdinary c) →
        (body.Truthful text ↔ ¬ ShowsCharset contentType ∧ known.Restores text)) := by
  obtain ⟨hcontentType, known, hknown, hencode⟩ := ofPayload_text_eq_ok h
  rw [withCharset_eq] at hcontentType
  have hread {name : String} (hname : Charset.named name true = .ok known) :
      Charset.decodeNamedStrict name body.data = .ok (some text) ↔ known.Restores text :=
    Charset.decodeNamedStrict_iff hname hencode
  -- what a body says is true if it can be read under the one name that is told
  have htruthful {name : String}
      (htold : Mime.ContentType.charset body.contentType = .ok (some name))
      (hname : Charset.named name true = .ok known) :
      body.Truthful text ↔ known.Restores text := by
    rw [← hread hname]
    constructor
    · rintro ⟨name', htold', htext⟩
      cases htold.symm.trans htold'
      exact htext
    · exact fun htext => ⟨name, htold, htext⟩
  refine ⟨known, hknown, hread hknown, fun hshows => ?shown,
    fun hunlabelled hascii hordinary => ?unlabelled⟩
  case shown =>
    rw [if_pos hshows] at hcontentType
    refine ⟨hcontentType, fun name hname hsame => ?_⟩
    rw [← hcontentType] at hname
    exact htruthful hname hsame
  case unlabelled =>
    by_cases hshows : ShowsCharset contentType
    · -- the content type is kept as it was, without a charset
      refine iff_of_false ?_ fun h => h.1 hshows
      rintro ⟨name, hname, -⟩
      rw [hcontentType, if_pos hshows, charset_unlabelled hunlabelled] at hname
      cases hname
    · -- the given charset is declared, by its name in lower case
      rw [if_neg hshows] at hcontentType
      have htold := charset_labelled hunlabelled hascii hordinary
      rw [← hcontentType] at htold
      rw [and_iff_right hshows]
      exact htruthful htold (Charset.named_lower hascii hknown)

end

/-! ## Bodies of a greeting -/

namespace Greeting

/-- A text with letters beyond ASCII. -/
def text : String := "grüße"

/-- The body of the text in the usual charset, with a content type. -/
def body (contentType : String) : MimeBody :=
  ⟨contentType, "binary", [0x67, 0x72, 0xC3, 0xBC, 0xC3, 0x9F, 0x65]⟩

/-- The rendering of the text in the usual charset. -/
def render [Codecs] (contentType : String) : Except Failure MimeBody :=
  ofPayload (.empty ⟨"/", ["w"]⟩) (.text text) (.text contentType) "utf-8" "binary"

theorem unlabelled_plain : Unlabelled "text/plain" where
  readable := by
    have hlist : Mime.Parameter.list "text/plain" = .ok [("text/plain", .plain [])] :=
      eq_ok_of_toOption (by decide +kernel)
    exact ⟨_, hlist, by decide +kernel⟩
  closed := by
    have hpieces : Mime.Parameter.cutPieces (';' :: "text/plain".toList) =
        ["text/plain".toList] := by
      decide +kernel
    intro piece hpiece
    rw [hpieces] at hpiece
    cases hpiece
    decide

end Greeting

open Greeting

attribute [local instance] Codecs.empty

/-- A content type without a charset gets the given one, and the text is read back by it. -/
theorem ofPayload_truthful_plain :
    render "text/plain" = .ok (body "text/plain; charset=utf-8") ∧
      Unlabelled "text/plain" ∧ ¬ ShowsCharset "text/plain" ∧
      (body "text/plain; charset=utf-8").Truthful text := by
  have hrender : render "text/plain" = .ok (body "text/plain; charset=utf-8") :=
    eq_ok_of_toOption (by decide +kernel)
  have hshows : ¬ ShowsCharset "text/plain" := by decide +kernel
  obtain ⟨known, hknown, -, -, hunlabelled⟩ := ofPayload_truthful_iff hrender
  have hutf8 : Charset.named "utf-8" true = .ok (.own .utf8) :=
    Charset.named_own (by decide) (by decide +kernel)
  cases hutf8.symm.trans hknown
  exact ⟨hrender, unlabelled_plain, hshows,
    (hunlabelled unlabelled_plain (by decide) (by decide +kernel)).2 ⟨hshows, trivial⟩⟩

/-- Not every body of a text is truthful: the parameter with the letters may be another one, and the
charset may be another one, in which the bytes are another text. -/
theorem ofPayload_not_truthful :
    (render "text/plain; x-charset=foo" = .ok (body "text/plain; x-charset=foo") ∧
      ¬ (body "text/plain; x-charset=foo").Truthful text) ∧
    render "text/plain; charset=iso-8859-1" = .ok (body "text/plain; charset=iso-8859-1") ∧
      ¬ (body "text/plain; charset=iso-8859-1").Truthful text := by
  have hother : render "text/plain; x-charset=foo" = .ok (body "text/plain; x-charset=foo") :=
    eq_ok_of_toOption (by decide +kernel)
  have hforeign : render "text/plain; charset=iso-8859-1" =
      .ok (body "text/plain; charset=iso-8859-1") :=
    eq_ok_of_toOption (by decide +kernel)
  refine ⟨⟨hother, ?other⟩, hforeign, ?foreign⟩
  case other =>
    have hnone : Mime.ContentType.charset (body "text/plain; x-charset=foo").contentType =
        .ok none :=
      eq_ok_of_toOption (by decide +kernel)
    rintro ⟨name, hname, -⟩
    rw [hnone] at hname
    cases hname
  case foreign =>
    have hcharset : Mime.ContentType.charset (body "text/plain; charset=iso-8859-1").contentType =
        .ok (some "iso-8859-1") :=
      eq_ok_of_toOption (by decide +kernel)
    have hdecoded : Charset.decodeNamedStrict "iso-8859-1"
        (body "text/plain; charset=iso-8859-1").data = .ok (some "grÃ¼Ã\x9Fe") :=
      eq_ok_of_toOption (by decide +kernel)
    rintro ⟨name, hname, htext⟩
    rw [hcharset] at hname
    cases hname
    rw [hdecoded] at htext
    exact absurd (Option.some.inj (Except.ok.inj htext)) (by decide)

end As2Exchange.MimeBody
