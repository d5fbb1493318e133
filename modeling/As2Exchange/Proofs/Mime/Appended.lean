import As2Exchange.Proofs.Mime.Mixed
import As2Exchange.Proofs.Mime.Parameter
import As2Exchange.Proofs.Text.Lower

/-!
# A charset behind a content type

A parameter that is written behind a content type is read as its last one, unless a quoted text is
open there. If it is the only one that names a charset, this is the charset of the whole.

- `ContentType.labelled` is a content type with a charset behind it;
- `Parameter.list_labelled` says that it has one more parameter;
- `ContentType.Unlabelled` are the content types without a charset, and
  `ContentType.charset_labelled` reads the charset behind one.
-/

namespace As2Exchange.Mime

namespace Parameter

/-! ## Pieces -/

/-- A piece is cut at the same place with more behind it, unless it goes on with an open quote. -/
theorem cutPiece_append (piece cs more : List Char)
    (h : (cutPiece piece cs).2 = [] → opensQuote false (cutPiece piece cs).1 = false) :
    cutPiece piece (cs ++ ';' :: more) =
      ((cutPiece piece cs).1, (cutPiece piece cs).2 ++ ';' :: more) := by
  fun_induction cutPiece piece cs with
  | case1 piece =>
    -- the piece went on to the end, so now it ends at the new semicolon
    have hclosed : opensQuote false piece.reverse = false := h rfl
    rw [List.nil_append, cutPiece, if_pos (by simp [hclosed])]
  | case2 piece c rest hcut => rw [List.cons_append, cutPiece, if_pos hcut]
  | case3 piece c rest hcut ih => rw [List.cons_append, cutPiece, if_neg hcut, ih h]

/-- What follows a piece is behind a semicolon. -/
theorem cutPiece_rest (piece cs : List Char) :
    (cutPiece piece cs).2 = [] ∨ (cutPiece piece cs).2.head? = some ';' := by
  fun_induction cutPiece piece cs with
  | case1 => exact .inl rfl
  | case2 piece c rest hcut =>
    rw [of_decide_eq_true (Bool.and_eq_true_iff.1 hcut).1]
    exact .inr rfl
  | case3 piece c rest hcut ih => exact ih

/-- No quoted text is open at the end of the last piece. -/
def Closed (cs : List Char) : Prop :=
  ∀ piece, (cutPieces cs).getLast? = some piece → opensQuote false piece = false

theorem cutPieces_append {cs : List Char} (hstart : cs = [] ∨ cs.head? = some ';')
    (hclosed : Closed cs) (more : List Char) :
    cutPieces (cs ++ ';' :: more) = cutPieces cs ++ cutPieces (';' :: more) := by
  fun_induction cutPieces cs with
  | case1 rest cut ih =>
    have hrest : cut.2 = [] ∨ cut.2.head? = some ';' := cutPiece_rest [] rest
    have hpieces : cutPieces (';' :: rest) = cut.1 :: cutPieces cut.2 := by rw [cutPieces]
    unfold Closed at hclosed
    rw [hpieces, List.getLast?_cons] at hclosed
    -- the last piece is the last of the rest, if there is a rest
    have hlast : cut.2 = [] → opensQuote false cut.1 = false := by
      intro hnil
      refine hclosed cut.1 ?_
      rw [hnil, cutPieces]
      · rfl
      · intro rest h
        cases h
    have hothers : Closed cut.2 := by
      intro piece hpiece
      refine hclosed piece ?_
      rw [hpiece, Option.getD_some]
    have hcut : cutPiece [] (rest ++ ';' :: more) = (cut.1, cut.2 ++ ';' :: more) :=
      cutPiece_append [] rest more hlast
    rw [List.cons_append, cutPieces, hcut]
    dsimp only
    rw [ih hrest hothers, List.cons_append]
  | case2 cs hcs =>
    rcases hstart with rfl | hstart
    · rfl
    · obtain ⟨rest, rfl⟩ := List.head?_eq_some_iff.1 hstart
      exact absurd rfl (hcs rest)

/-! ## Parameters -/

theorem sort_append (parameters others : List (String × List Char))
    (done : List (String × Value) × List (List Char × List Section)) :
    sort (parameters ++ others) done = sort others (sort parameters done) := by
  induction parameters generalizing done with
  | nil => rfl
  | cons parameter parameters ih =>
    rw [List.cons_append, sort, sort]
    split
    · exact ih _
    · exact ih _

/-- A charset stands alone. -/
theorem sort_charset (value : List Char)
    (done : List (String × Value) × List (List Char × List Section)) :
    sort [("charset", value)] done =
      (done.1 ++ [("charset", .plain (quote (escape (unquote value))))], done.2) := by
  have hsection : sectionName? "charset".toList = none := by decide +kernel
  rw [sort]
  dsimp only
  rw [hsection]
  dsimp only
  rw [sort]

/-- The piece that a charset makes behind a content type. -/
theorem nameAndValue_charset (charset : List Char) :
    nameAndValue (" charset=".toList ++ charset) = ("charset", trim charset) := by
  unfold nameAndValue
  show (Text.lower (String.ofList (trim " charset".toList)), trim charset) = _
  congr 1

end Parameter

namespace ContentType

open Parameter

/-- A content type with a charset behind it. -/
def labelled (contentType charset : String) : String := contentType ++ "; charset=" ++ charset

/-- The content type has readable parameters, of which none is called a charset, and ends outside of
quotes. -/
structure Unlabelled (contentType : String) : Prop where
  readable : ∃ parameters, Parameter.list contentType = .ok parameters ∧
    find? parameters "charset" = none
  closed : Closed (';' :: contentType.toList)

variable {contentType charset : String}

theorem charset_unlabelled [Codecs] (h : Unlabelled contentType) :
    ContentType.charset contentType = .ok none := by
  obtain ⟨parameters, hlist, hfind⟩ := h.readable
  exact charset_eq_none hlist hfind

theorem cutPieces_labelled (hclosed : Closed (';' :: contentType.toList))
    (hsemicolon : ';' ∉ charset.toList) :
    cutPieces (';' :: (labelled contentType charset).toList) =
      cutPieces (';' :: contentType.toList) ++ [" charset=".toList ++ charset.toList] := by
  have hback : ';' ∉ " charset=".toList ++ charset.toList := by
    simp [hsemicolon]
  have hlabelled : ';' :: (labelled contentType charset).toList =
      ';' :: contentType.toList ++ ';' :: (" charset=".toList ++ charset.toList) := by
    unfold labelled
    rw [toList_between]
    simp
  have hpiece : cutPieces (';' :: (" charset=".toList ++ charset.toList)) =
      [" charset=".toList ++ charset.toList] := by
    rw [cutPieces, cutPiece_of_not_mem hback]
    dsimp only
    rw [cutPieces]
    · rfl
    · intro rest h
      cases h
  rw [hlabelled, cutPieces_append (.inr rfl) hclosed, hpiece]

/-- The charset is one more parameter, behind those that stand alone and before those that were
spread. -/
theorem list_labelled (hclosed : Closed (';' :: contentType.toList))
    (hsemicolon : ';' ∉ charset.toList) {parameters : List (String × Parameter.Value)}
    (h : Parameter.list contentType = .ok parameters) :
    ∃ front back, parameters = front ++ back ∧
      Parameter.list (labelled contentType charset) = .ok (front ++
        ("charset", .plain (quote (escape (unquote (trim charset.toList))))) :: back) := by
  unfold Parameter.list at h ⊢
  rw [cutPieces_labelled hclosed hsemicolon, List.map_append, List.map_singleton,
    nameAndValue_charset]
  -- the first piece is no parameter, so it is not sorted with the others
  obtain ⟨first, rest, hpieces⟩ : ∃ first rest,
      (cutPieces (';' :: contentType.toList)).map nameAndValue = first :: rest := by
    rw [cutPieces]
    exact ⟨_, _, rfl⟩
  rw [hpieces] at h ⊢
  obtain ⟨joined, hjoined, h⟩ := bind_eq_ok.1 h
  cases h
  refine ⟨(first.1, .plain first.2) :: (sort rest ([], [])).1, joined, rfl, ?_⟩
  rw [List.cons_append]
  dsimp only
  rw [sort_append, sort_charset]
  dsimp only
  rw [hjoined]
  simp [bind, Except.bind, pure, Except.pure]

/-- An entry is found in the middle if it has the name and none before it has. -/
theorem find?_middle {front back : List (String × Parameter.Value)} {name : String}
    (h : find? (front ++ back) name = none) (hname : Text.lower name = name)
    (text : List Char) :
    find? (front ++ (name, .plain text) :: back) name = some (.plain (unquote text)) := by
  unfold find? at h ⊢
  rw [Option.map_eq_none_iff, List.find?_eq_none] at h
  have hfront : front.find? (fun entry => Text.lower entry.1 = name) = none :=
    List.find?_eq_none.2 fun entry hentry => h entry (List.mem_append_left _ hentry)
  rw [List.find?_append, hfront, Option.none_or, List.find?_cons_of_pos (by simpa using hname)]
  rfl

/-- **A charset behind a content type is read back**, in lower case. -/
theorem charset_labelled [Codecs] (h : Unlabelled contentType)
    (hascii : ∀ c ∈ charset.toList, c.toNat < 128)
    (hordinary : ∀ c ∈ charset.toList, IsOrdinary c) :
    ContentType.charset (labelled contentType charset) = .ok (some (Text.lower charset)) := by
  have hmark {c : Char} (hc : c ∈ [';', '"', '\\', '<']) : c ∉ charset.toList :=
    not_mem_of_ordinary hordinary hc
  have hhead {c : Char} (hc : c ∉ charset.toList) : charset.toList.head? ≠ some c :=
    fun hmem => hc (List.mem_of_head? hmem)
  -- reading changes nothing in an ordinary name
  have htrim : trim charset.toList = charset.toList :=
    Text.trimBoth_of_forall fun c hc => (hordinary c hc).2
  have hunquote : unquote charset.toList = charset.toList :=
    unquote_of_head (hhead (hmark (by simp))) (hhead (hmark (by simp)))
  have hescape : escape charset.toList = charset.toList :=
    escape_of_not_mem (hmark (by simp)) (hmark (by simp))
  obtain ⟨parameters, hlist, hfind⟩ := h.readable
  obtain ⟨front, back, rfl, hlabelled⟩ := list_labelled h.closed (hmark (by simp)) hlist
  have hfound := find?_middle hfind (by decide +kernel) (quote charset.toList)
  rw [unquote_quote (hmark (by simp))] at hfound
  unfold ContentType.charset
  rw [hlabelled, htrim, hunquote, hescape]
  dsimp only [bind, Except.bind]
  rw [hfound]
  dsimp only [pure, Except.pure, Option.bind]
  rw [String.ofList_toList, if_pos (by simpa using hascii)]

end ContentType

end As2Exchange.Mime
