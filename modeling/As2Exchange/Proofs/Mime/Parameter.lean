import As2Exchange.Mime.Parameter
import As2Exchange.Proofs.Failure.Result
import As2Exchange.Proofs.Text.Blank

/-!
# A boundary in quotes

A content type that is followed by one parameter, the boundary in quotes, tells just this boundary,
as long as the boundary holds no character that means something within a field.

- `boundary_quoted` reads the boundary.
-/

namespace As2Exchange.Mime

/-- A character that stands for itself within a quoted value. -/
def Parameter.IsOrdinary (c : Char) : Prop :=
  c ∉ [';', '"', '\\', '<'] ∧ Text.isBlank c = false

instance (c : Char) : Decidable (Parameter.IsOrdinary c) :=
  inferInstanceAs (Decidable (_ ∧ _))

namespace Parameter

variable {cs : List Char}

/-! ## Pieces -/

/-- No quoted text is open behind characters without a quotation mark. -/
theorem opensQuote_of_not_mem (h : '"' ∉ cs) (isOpen : Bool) : opensQuote isOpen cs = isOpen := by
  fun_induction opensQuote isOpen cs with
  | case1 => rfl
  | case2 isOpen rest ih => exact absurd (by simp) h
  | case3 isOpen c rest hpair ih =>
    have hc : c ≠ '"' := by
      rintro rfl
      exact h List.mem_cons_self
    rw [if_neg hc] at ih
    rw [if_neg hc]
    exact ih fun hmem => h (List.mem_cons_of_mem _ hmem)

/-- A text without semicolons is one piece. -/
theorem cutPiece_of_not_mem (h : ';' ∉ cs) (piece : List Char) :
    cutPiece piece cs = (piece.reverse ++ cs, []) := by
  induction cs generalizing piece with
  | nil => simp [cutPiece]
  | cons c cs ih =>
    have hc : c ≠ ';' := by
      rintro rfl
      exact h List.mem_cons_self
    rw [cutPiece, if_neg (by simp [hc]), ih fun hmem => h (List.mem_cons_of_mem _ hmem),
      List.reverse_cons, List.append_assoc]
    rfl

/-- A piece without quotation marks ends at the first semicolon. -/
theorem cutPiece_semicolon (hsemicolon : ';' ∉ cs) {piece : List Char}
    (hquote : '"' ∉ piece.reverse ++ cs) (rest : List Char) :
    cutPiece piece (cs ++ ';' :: rest) = (piece.reverse ++ cs, ';' :: rest) := by
  induction cs generalizing piece with
  | nil =>
    rw [List.append_nil] at hquote ⊢
    rw [List.nil_append, cutPiece, opensQuote_of_not_mem hquote]
    rfl
  | cons c cs ih =>
    have hc : c ≠ ';' := by
      rintro rfl
      exact hsemicolon List.mem_cons_self
    have hpiece : (c :: piece).reverse ++ cs = piece.reverse ++ c :: cs := by
      rw [List.reverse_cons, List.append_assoc]
      rfl
    rw [List.cons_append, cutPiece, if_neg (by simp [hc]),
      ih (fun hmem => hsemicolon (List.mem_cons_of_mem _ hmem)) (by rwa [hpiece]), hpiece]

/-! ## Quotes -/

theorem replacePair_of_not_mem {first second by' : Char} (h : first ∉ cs) :
    replacePair first second by' cs = cs := by
  fun_induction replacePair first second by' cs with
  | case1 c d rest hpair ih =>
    obtain ⟨rfl, -⟩ := Bool.and_eq_true_iff.1 hpair |>.imp of_decide_eq_true of_decide_eq_true
    exact absurd List.mem_cons_self h
  | case2 c d rest hpair ih => rw [ih fun hmem => h (List.mem_cons_of_mem _ hmem)]
  | case3 cs hshort => rfl

/-- Quotes around a value without backslashes are taken off again. -/
theorem unquote_quote (h : '\\' ∉ cs) : unquote (quote cs) = cs := by
  have hinner : ((quote cs).drop 1).dropLast = cs := List.dropLast_concat
  have hlength : 1 < (quote cs).length := by simp [quote]
  have hlast : (quote cs).getLast? = some '"' := List.getLast?_concat
  unfold unquote
  rw [hinner, if_pos hlength, if_pos (by rw [hlast]; rfl), replacePair_of_not_mem h,
    replacePair_of_not_mem h]

/-- A value that begins with no quotation mark and no angle bracket has nothing to take off. -/
theorem unquote_of_head (hquote : cs.head? ≠ some '"') (hbracket : cs.head? ≠ some '<') :
    unquote cs = cs := by
  unfold unquote
  split
  · rw [if_neg (by simp [hquote]), if_neg (by simp [hbracket])]
  · rfl

theorem escape_of_not_mem (hslash : '\\' ∉ cs) (hquote : '"' ∉ cs) : escape cs = cs := by
  have hkeep : ∀ {special : Char} {put : Char → List Char}, special ∉ cs →
      cs.flatMap (fun c => if c = special then put c else [c]) = cs := by
    intro special put hspecial
    induction cs with
    | nil => rfl
    | cons c cs ih =>
      have hc : c ≠ special := by
        rintro rfl
        exact hspecial List.mem_cons_self
      rw [List.flatMap_cons, if_neg hc, ih (fun hmem => hslash (List.mem_cons_of_mem _ hmem))
        (fun hmem => hquote (List.mem_cons_of_mem _ hmem))
        fun hmem => hspecial (List.mem_cons_of_mem _ hmem)]
      rfl
  rw [escape, hkeep hslash, hkeep hquote]

/-! ## Two pieces -/

theorem cutPieces_two {front back : List Char} (hsemicolon : ';' ∉ front) (hquote : '"' ∉ front)
    (hback : ';' ∉ back) : cutPieces (';' :: (front ++ ';' :: back)) = [front, back] := by
  have hfirst : cutPiece [] (front ++ ';' :: back) = (front, ';' :: back) :=
    cutPiece_semicolon hsemicolon (by simpa using hquote) back
  have hsecond : cutPiece [] back = (back, []) := cutPiece_of_not_mem hback []
  rw [cutPieces, hfirst]
  dsimp only
  rw [cutPieces, hsecond]
  dsimp only
  rw [cutPieces]
  rintro rest ⟨⟩

/-- A quoted value is a piece with its name. -/
theorem nameAndValue_boundary (cs : List Char) :
    nameAndValue (" boundary=".toList ++ quote cs) = ("boundary", quote cs) := by
  have hblank : Text.isBlank '"' = false := by decide
  have htrim : trim (quote cs) = quote cs := by
    apply Text.trimBoth_of_ends
    · intro c hc
      cases hc
      exact hblank
    · intro c hc
      rw [quote, List.getLast?_concat] at hc
      cases hc
      exact hblank
  unfold nameAndValue
  show (Text.lower (String.ofList (trim " boundary".toList)), trim (quote cs)) = _
  rw [htrim]
  congr 1

/-! ## The boundary -/

end Parameter

namespace ContentType

open Parameter

/-- The content type of a report with a boundary in quotes. -/
def quoted (boundary : String) : String := "multipart/report; boundary=\"" ++ boundary ++ "\""

variable {boundary : String}

theorem not_mem_of_ordinary (h : ∀ c ∈ boundary.toList, IsOrdinary c) {c : Char}
    (hc : c ∈ [';', '"', '\\', '<']) : c ∉ boundary.toList :=
  fun hmem => (h c hmem).1 hc

theorem toList_between (front cs back : String) :
    (front ++ cs ++ back).toList = front.toList ++ cs.toList ++ back.toList := by
  rw [String.toList_append, String.toList_append]

theorem toList_quoted (boundary : String) : (quoted boundary).toList =
    "multipart/report".toList ++ ';' :: (" boundary=".toList ++ quote boundary.toList) := by
  have hfront : "multipart/report; boundary=\"".toList =
      "multipart/report".toList ++ ';' :: (" boundary=".toList ++ ['"']) := by decide
  have hback : "\"".toList = ['"'] := by decide
  have h := toList_between "multipart/report; boundary=\"" boundary "\""
  rw [hfront, hback] at h
  refine h.trans ?_
  simp only [quote, List.append_assoc, List.cons_append, List.nil_append]

theorem cutPieces_quoted (h : ∀ c ∈ boundary.toList, IsOrdinary c) :
    cutPieces (';' :: (quoted boundary).toList) =
      ["multipart/report".toList, " boundary=".toList ++ quote boundary.toList] := by
  have hsemicolon : ';' ∉ boundary.toList := not_mem_of_ordinary h (by simp)
  have hfront : ';' ∉ "multipart/report".toList ∧ '"' ∉ "multipart/report".toList := by decide
  have hname : ';' ∉ " boundary=".toList := by decide
  have hvalue : ';' ∉ quote boundary.toList := by simp [quote, hsemicolon]
  have hback : ';' ∉ " boundary=".toList ++ quote boundary.toList := fun hmem =>
    (List.mem_append.1 hmem).elim hname hvalue
  rw [toList_quoted]
  exact cutPieces_two hfront.1 hfront.2 hback

/-- The parameters are the content type itself and the boundary. -/
theorem list_quoted (h : ∀ c ∈ boundary.toList, IsOrdinary c) :
    Parameter.list (quoted boundary) =
      .ok [("multipart/report", .plain []), ("boundary", .plain (quote boundary.toList))] := by
  have hquote : '"' ∉ boundary.toList := not_mem_of_ordinary h (by simp)
  have hslash : '\\' ∉ boundary.toList := not_mem_of_ordinary h (by simp)
  have hfirst : nameAndValue "multipart/report".toList = ("multipart/report", []) := by
    decide +kernel
  have hsection : sectionName? "boundary".toList = none := by decide +kernel
  unfold Parameter.list
  rw [cutPieces_quoted h, List.map_cons, List.map_cons, List.map_nil, hfirst,
    nameAndValue_boundary]
  dsimp only
  rw [Parameter.sort, unquote_quote hslash]
  dsimp only
  rw [hsection]
  dsimp only
  rw [Parameter.sort, escape_of_not_mem hslash hquote]
  rfl

theorem find?_boundary {cs : List Char} (hslash : '\\' ∉ cs) :
    Parameter.find? [("multipart/report", .plain []), ("boundary", .plain (quote cs))]
      "boundary" = some (.plain cs) := by
  have hname : Text.lower "boundary" = "boundary" := by decide +kernel
  have hother : Text.lower "multipart/report" ≠ "boundary" := by decide +kernel
  rw [Parameter.find?, List.find?_cons_of_neg (by simpa using hother),
    List.find?_cons_of_pos (by simpa using hname), Option.map_some]
  dsimp only
  rw [unquote_quote hslash]

/-- A boundary whose value tells no charset of its own is read as it is written. -/
theorem boundary_of_plain [Codecs] {field : String} {parameters : List (String × Parameter.Value)}
    {text : List Char} (hlist : Parameter.list field = .ok parameters)
    (hfind : Parameter.find? parameters "boundary" = some (.plain text)) :
    ContentType.boundary field =
      .ok (some ((unquote text).reverse.dropWhile Text.isBlank).reverse) := by
  unfold ContentType.boundary
  rw [hlist]
  dsimp only [bind, Except.bind]
  rw [hfind]
  rfl

/-- **A boundary in quotes is read back.** -/
theorem boundary_quoted [Codecs] (h : ∀ c ∈ boundary.toList, IsOrdinary c) :
    ContentType.boundary (quoted boundary) = .ok (some boundary.toList) := by
  have hhead : ∀ {c : Char}, c ∉ boundary.toList → boundary.toList.head? ≠ some c :=
    fun hc hmem => hc (List.mem_of_head? hmem)
  have hunquote : unquote boundary.toList = boundary.toList :=
    unquote_of_head (hhead (not_mem_of_ordinary h (by simp)))
      (hhead (not_mem_of_ordinary h (by simp)))
  have hend : boundary.toList.reverse.dropWhile Text.isBlank = boundary.toList.reverse := by
    cases hr : boundary.toList.reverse with
    | nil => rfl
    | cons c rest =>
      have hc := (h c (List.mem_reverse.1 (by rw [hr]; exact List.mem_cons_self))).2
      rw [List.dropWhile_cons, if_neg (by simp [hc])]
  rw [boundary_of_plain (list_quoted h) (find?_boundary (not_mem_of_ordinary h (by simp))), hunquote,
    hend, List.reverse_reverse]

/-- A content type among whose parameters is no charset names none. -/
theorem charset_eq_none [Codecs] {field : String} {parameters : List (String × Parameter.Value)}
    (hlist : Parameter.list field = .ok parameters)
    (hfind : Parameter.find? parameters "charset" = none)
    : ContentType.charset field = .ok none := by
  unfold ContentType.charset
  rw [hlist]
  dsimp only [bind, Except.bind]
  rw [hfind]
  rfl

/-- The type stands in front of the semicolon. -/
theorem ofField_quoted (boundary : String) : ofField (quoted boundary) = "multipart/report" := by
  have hfront : ∀ c ∈ "multipart/report".toList, decide (c ≠ ';') = true := by decide
  have htake : (quoted boundary).toList.takeWhile (· ≠ ';') = "multipart/report".toList := by
    rw [toList_quoted, List.takeWhile_append_of_pos hfront]
    exact List.append_nil _
  rw [ofField, htake]
  decide +kernel

end ContentType

end As2Exchange.Mime
