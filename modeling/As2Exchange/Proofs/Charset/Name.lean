import As2Exchange.Charset.Name
import As2Exchange.Proofs.Charset.Repertoire
import As2Exchange.Proofs.Text.Lower

/-!
# Names of charsets

A text that is to be written comes with the name of a charset. Writing fails for the name or for the
characters; a name with a NUL is refused before it is looked up. A charset that is not written out
may refuse any text.

- `known?` is the charset of a name, whatever is to be done in it;
- `named_eq_nulInName` and `encodeNamed_eq_nulInName` tell the refusal of a NUL from the others;
- `encodeNamed_isOk_iff` says when a text is written, `encodeNamed_eq_error` why it is not;
- `named_direction` and `named_lower` say that neither the direction nor the letter case matters for
  the charset of a name.
-/

namespace As2Exchange.Charset

/-! ## Letter case -/

/-- Lowering a letter of ASCII twice is lowering it once, and makes no NUL and no mark of it. -/
theorem toLower_ascii {c : Char} (h : c.toNat < 128) : c.toLower.toLower = c.toLower ∧
    isNameChar c.toLower = isNameChar c ∧ (c.toLower = '\x00' → c = '\x00') := by
  -- there are just 128 such characters, so all of them are looked at
  have hall : ∀ n < 128, (Char.ofNat n).toLower.toLower = (Char.ofNat n).toLower ∧
      isNameChar (Char.ofNat n).toLower = isNameChar (Char.ofNat n) ∧
      ((Char.ofNat n).toLower = '\x00' → Char.ofNat n = '\x00') := by
    decide +kernel
  have hc := hall c.toNat h
  rwa [Char.ofNat_toNat] at hc

theorem plainFrom_map_toLower {cs : List Char} (h : ∀ c ∈ cs, c.toNat < 128) (gap : Bool)
    (done : List Char) : plainFrom gap done (cs.map Char.toLower) = plainFrom gap done cs := by
  -- on the characters, whatever the scan has seen before them
  induction cs generalizing gap done with
  | nil => rfl
  | cons c cs ih =>
    obtain ⟨hlower, hname, -⟩ := toLower_ascii (h c List.mem_cons_self)
    have ih := ih fun d hd => h d (List.mem_cons_of_mem _ hd)
    rw [List.map_cons, plainFrom, plainFrom, hname, hlower, ih, ih]

theorem plainName_lower {name : String} (h : ∀ c ∈ name.toList, c.toNat < 128) :
    plainName (Text.lower name) = plainName name := by
  unfold plainName
  rw [Text.lower_ascii h, plainFrom_map_toLower h]

/-! ## Texts that are written -/

/-- The charset writes a text: it has the characters, or says of itself that it can. -/
def Named.Writes : Named → String → Prop
  | own charset, text => ∀ c ∈ text.toList, charset.has c = true
  | other codec, text => (codec.encode text).isOk = true

theorem Named.encode_isOk_iff {charset : Named} {text : String} :
    (charset.encode text).isOk = true ↔ charset.Writes text := by
  cases charset with
  | own charset =>
    show ((charset.encode text).mapError CharsetError.lacking).isOk = true ↔ _
    rw [isOk_mapError, Charset.encode_isOk_iff]
    exact Iff.rfl
  | other codec =>
    show ((codec.encode text).mapError CharsetError.codec).isOk = true ↔ _
    rw [isOk_mapError]
    exact Iff.rfl

section

variable [Codecs] {name text : String} {writing : Bool}

/-! ## The charset of a name -/

/-- The charset of a name: one that is written out, or else one of the others. -/
def known? (name : String) : Option Named :=
  match own? name with
  | some charset => some (.own charset)
  | none =>
    if (listedName? name).isSome then none else (Codecs.find? (plainName name)).map .other

/-- Only a name with a NUL is refused as no name of a charset at all. -/
theorem named_eq_nulInName : named name writing = .error .nulInName ↔ '\x00' ∈ name.toList := by
  -- a NUL is looked for before anything else
  unfold named
  by_cases h : '\x00' ∈ name.toList
  · rw [if_pos (by simpa using h)]
    exact iff_of_true rfl h
  · rw [if_neg (by simpa using h), iff_false_right h]
    split
    · exact nofun
    · split
      · exact nofun
      · split <;> exact nofun

theorem named_eq_ok {known : Named} : named name writing = .ok known ↔
    '\x00' ∉ name.toList ∧ known? name = some known := by
  unfold named known?
  by_cases hnul : '\x00' ∈ name.toList
  · simp [hnul]
  -- names that are written out come first, then the listed ones, then those of other charsets
  rw [if_neg (by simpa using hnul), and_iff_right hnul]
  cases own? name with
  | some charset => simp
  | none =>
    dsimp only
    split
    · simp
    · cases Codecs.find? (plainName name) <;> simp

theorem named_own {charset : Charset} (hnul : '\x00' ∉ name.toList) (h : own? name = some charset) :
    named name writing = .ok (.own charset) := by
  refine named_eq_ok.2 ⟨hnul, ?_⟩
  unfold known?
  rw [h]

/-- A name is refused for a NUL in it, or it is that of no charset, or of none that is for texts. -/
theorem named_eq_error {e : CharsetError} (h : named name writing = .error e) :
    (e = .nulInName ∧ '\x00' ∈ name.toList) ∨ e = .unknown name ∨ e = .notText name writing := by
  unfold named at h
  split at h
  · rename_i hnul
    cases h
    exact .inl ⟨rfl, by simpa using hnul⟩
  · split at h
    · cases h
    · split at h
      · cases h
        exact .inr (.inr rfl)
      · split at h
        · cases h
        · cases h
          exact .inr (.inl rfl)

/-! ## Writing under a name -/

theorem encodeNamed_eq_ok {bytes : Bytes} : encodeNamed name text = .ok bytes ↔
    ∃ charset, named name true = .ok charset ∧ charset.encode text = .ok bytes := bind_eq_ok

/-- A text is written under a name just if it names a charset that writes the text. -/
theorem encodeNamed_isOk_iff : (encodeNamed name text).isOk = true ↔
    ∃ charset, named name true = .ok charset ∧ charset.Writes text := by
  simp only [encodeNamed, bind_isOk, Named.encode_isOk_iff]

/-- A text is not written because of the name, or because of a character that the charset lacks, or
because of what a charset that is not written out says. -/
theorem encodeNamed_eq_error {e : CharsetError} (h : encodeNamed name text = .error e) :
    (e = .nulInName ∧ '\x00' ∈ name.toList) ∨ e = .unknown name ∨ e = .notText name true ∨
      (∃ gap, e = .lacking gap) ∨
      ∃ codec cause, named name true = .ok (.other codec) ∧ codec.encode text = .error cause ∧
        e = .codec cause := by
  -- the name fails, or the charset that it names does
  rcases bind_eq_error.1 h with hname | ⟨charset, hname, hencode⟩
  · rcases named_eq_error hname with h | h | h
    · exact .inl h
    · exact .inr (.inl h)
    · exact .inr (.inr (.inl h))
  · cases charset with
    | own charset =>
      obtain ⟨gap, -, rfl⟩ := mapError_eq_error.1 hencode
      exact .inr (.inr (.inr (.inl ⟨gap, rfl⟩)))
    | other codec =>
      obtain ⟨cause, hcause, rfl⟩ := mapError_eq_error.1 hencode
      exact .inr (.inr (.inr (.inr ⟨codec, cause, hname, hcause, rfl⟩)))

theorem encodeNamed_eq_nulInName :
    encodeNamed name text = .error .nulInName ↔ '\x00' ∈ name.toList := by
  refine ⟨fun h => ?_, fun h => bind_eq_error.2 (.inl (named_eq_nulInName.2 h))⟩
  -- the other errors are not this one
  rcases encodeNamed_eq_error h with ⟨-, h⟩ | h | h | ⟨gap, h⟩ | ⟨codec, cause, -, -, h⟩
  · exact h
  all_goals cases h

theorem encodeNamed_of_codec {codec : Codec} {e : Raised}
    (hname : named name true = .ok (.other codec)) (h : codec.encode text = .error e) :
    encodeNamed name text = .error (.codec e) := by
  unfold encodeNamed
  rw [hname]
  exact mapError_eq_error.2 ⟨e, h, rfl⟩

/-! ## Names of one charset -/

/-- A charset is known by a name in both directions. -/
theorem named_direction {known : Named} (h : named name writing = .ok known)
    (writing' : Bool) : named name writing' = .ok known := named_eq_ok.2 (named_eq_ok.1 h)

theorem known?_lower (h : ∀ c ∈ name.toList, c.toNat < 128) :
    known? (Text.lower name) = known? name := by
  have hlisted : listedName? (Text.lower name) = listedName? name := by
    unfold listedName?
    rw [plainName_lower h]
  unfold known? own?
  rw [hlisted, plainName_lower h]

/-- A charset is known by its name in lower case. -/
theorem named_lower (h : ∀ c ∈ name.toList, c.toNat < 128) {known : Named}
    (hname : named name writing = .ok known) : named (Text.lower name) writing = .ok known := by
  obtain ⟨hnul, hknown⟩ := named_eq_ok.1 hname
  refine named_eq_ok.2 ⟨?_, (known?_lower h).trans hknown⟩
  rw [Text.lower_ascii h]
  intro hmem
  obtain ⟨c, hc, hlower⟩ := List.mem_map.1 hmem
  exact hnul ((toLower_ascii (h c hc)).2.2 hlower ▸ hc)

end

end As2Exchange.Charset
