import As2Exchange.Mime.Entity
import As2Exchange.Proofs.Charset.Utf8
import As2Exchange.Proofs.Mime.Header

/-!
# Written multipart bodies

The parts of a multipart body are written one after the other, each behind a boundary line, with a
closing boundary line at the end. A line of a part is no boundary line if it holds a byte that no
boundary line has, or does not begin with the mark of the boundary.

- `Layout` are the lines of a multipart body, however its boundary lines are spelled, and
  `Layout.multipart_lines` cuts them into their parts;
- `Layout.plain` are the lines of a body that is written plainly;
- `isDelimiter_of_mem` and `isDelimiter_text` keep the lines of the parts apart from boundary lines.
-/

namespace As2Exchange.Mime.Entity

/-! ## Boundary lines -/

/-- A character that may stand in a boundary. -/
def isBoundaryChar (c : Char) : Bool := c.isAlphanum || ['-', '_', '=', '.'].contains c

/-- What a boundary line starts with. -/
def mark (boundary : List Char) : List Char := '-' :: '-' :: boundary

/-- The line in front of a part. -/
def opening (boundary : List Char) : Line := ended (Bytes.ofAscii (mark boundary))

/-- The line behind the last part. -/
def closing (boundary : List Char) : Line := ended (Bytes.ofAscii (mark boundary ++ ['-', '-']))

variable {boundary : List Char}

theorem plain_of_isBoundaryChar {c : Char} (h : isBoundaryChar c = true) :
    33 ≤ c.toNat ∧ c.toNat ≤ 126 ∧ c ∉ [':', ';', '"', '\\', '<', '>'] := by
  -- the class is within ASCII, where it can be gone through
  have hascii : c.toNat < 128 := by
    simp only [isBoundaryChar, Bool.or_eq_true, List.contains_iff_mem, List.mem_cons,
      List.not_mem_nil, or_false] at h
    rcases h with h | rfl | rfl | rfl | rfl
    · rcases Bool.or_eq_true_iff.1 h with hletter | hdigit
      · rcases Bool.or_eq_true_iff.1 hletter with hupper | hlower
        · have hrange : c.val ≥ 'A'.val ∧ c.val ≤ 'Z'.val := of_decide_eq_true hupper
          exact Nat.lt_of_le_of_lt hrange.2 (by decide)
        · have hrange := of_decide_eq_true (Bool.and_eq_true_iff.1 hlower).2
          exact Nat.lt_of_le_of_lt hrange (by decide)
      · have hrange := Char.isDigit_iff_toNat.1 hdigit
        exact Nat.lt_of_le_of_lt hrange.2 (by decide)
    · decide
    · decide
    · decide
    · decide
  have hall : ∀ n < 128, isBoundaryChar (Char.ofNat n) = true →
      33 ≤ (Char.ofNat n).toNat ∧ (Char.ofNat n).toNat ≤ 126 ∧
        Char.ofNat n ∉ [':', ';', '"', '\\', '<', '>'] := by
    decide +kernel
  have hc := hall c.toNat hascii
  rw [Char.ofNat_toNat] at hc
  exact hc h

theorem plain_of_mem_mark (h : ∀ c ∈ boundary, isBoundaryChar c = true) {c : Char}
    (hc : c ∈ mark boundary) :
    33 ≤ c.toNat ∧ c.toNat ≤ 126 ∧ c ∉ [':', ';', '"', '\\', '<', '>'] := by
  rcases List.mem_cons.1 hc with rfl | hc
  · decide
  rcases List.mem_cons.1 hc with rfl | hc
  · decide
  · exact plain_of_isBoundaryChar (h c hc)

theorem all_mark (h : ∀ c ∈ boundary, isBoundaryChar c = true) :
    ('-' :: '-' :: boundary).all (fun c => c.toNat < 128) = true := by
  rw [List.all_eq_true]
  intro c hc
  have hplain := plain_of_mem_mark h hc
  exact decide_eq_true (by omega)

/-- What follows the mark of a boundary line decides what line it is. -/
theorem delimiter?_mark (h : ∀ c ∈ boundary, isBoundaryChar c = true) (tail : Bytes) :
    delimiter? boundary (Bytes.ofAscii (mark boundary) ++ tail) =
      match tail with
      | 45 :: 45 :: rest => if isLineTail rest then some .closes else none
      | rest => if isLineTail rest then some .opens else none := by
  have hprefix : (Bytes.ofAscii ('-' :: '-' :: boundary)).isPrefixOf
      (Bytes.ofAscii (mark boundary) ++ tail) = true :=
    List.isPrefixOf_iff_prefix.2 (List.prefix_append _ _)
  have hdrop : (Bytes.ofAscii (mark boundary) ++ tail).drop ('-' :: '-' :: boundary).length =
      tail := by
    have hlength : ('-' :: '-' :: boundary).length = (Bytes.ofAscii (mark boundary)).length :=
      (List.length_map _).symm
    rw [hlength, List.drop_left]
  unfold delimiter?
  dsimp only
  rw [all_mark h, hprefix, hdrop]
  rfl

theorem delimiter?_opening (h : ∀ c ∈ boundary, isBoundaryChar c = true) :
    delimiter? boundary (opening boundary) = some .opens := by
  rw [opening, ended, delimiter?_mark h]
  rfl

theorem delimiter?_closing (h : ∀ c ∈ boundary, isBoundaryChar c = true) :
    delimiter? boundary (closing boundary) = some .closes := by
  rw [closing, ended, Bytes.ofAscii_append, List.append_assoc, delimiter?_mark h]
  rfl

theorem isDelimiter_of_delimiter? {line : Line} {delimiter : Delimiter}
    (h : delimiter? boundary line = some delimiter) : isDelimiter boundary line = true := by
  rw [isDelimiter, h]
  rfl

/-! ## Other lines -/

theorem mem_of_isLineTail {bytes : Bytes} (h : isLineTail bytes = true) {b : UInt8}
    (hb : b ∈ bytes) : b ∈ ([32, 9, 13, 10] : Bytes) := by
  unfold isLineTail at h
  rw [← List.takeWhile_append_dropWhile (p := fun b => b = 32 || b = 9) (l := bytes)] at hb
  rcases List.mem_append.1 hb with hblank | hend
  · -- the blanks in front
    have htrue := List.all_eq_true.1 List.all_takeWhile b hblank
    simp only [Bool.or_eq_true, decide_eq_true_eq] at htrue
    rcases htrue with rfl | rfl <;> simp
  · -- the four ways to end a line
    split at h
    · rename_i hdrop
      rw [hdrop] at hend
      cases hend
    · rename_i hdrop
      rw [hdrop, List.mem_singleton] at hend
      simp [hend]
    · rename_i hdrop
      rw [hdrop, List.mem_singleton] at hend
      simp [hend]
    · rename_i hdrop
      rw [hdrop] at hend
      simp only [List.mem_cons, List.not_mem_nil, or_false] at hend
      rcases hend with rfl | rfl <;> simp
    · cases h

/-- A boundary line begins with the mark, and what follows holds nothing but hyphens, blanks and
the line end. -/
theorem of_isDelimiter {line : Line} (h : isDelimiter boundary line = true) :
    ∃ tail, line = Bytes.ofAscii (mark boundary) ++ tail ∧
      ∀ b ∈ tail, b ∈ ([45, 32, 9, 13, 10] : Bytes) := by
  unfold isDelimiter delimiter? at h
  dsimp only at h
  split at h
  · rename_i hmark
    obtain ⟨tail, rfl⟩ := List.isPrefixOf_iff_prefix.1 (Bool.and_eq_true_iff.1 hmark).2
    have hlength : ('-' :: '-' :: boundary).length = (Bytes.ofAscii (mark boundary)).length :=
      (List.length_map _).symm
    refine ⟨tail, rfl, fun b hb => ?_⟩
    rw [hlength, show Bytes.ofAscii ('-' :: '-' :: boundary) = Bytes.ofAscii (mark boundary) from rfl,
      List.drop_left] at h
    split at h
    · -- a closing line has two more hyphens
      split at h
      · rename_i rest htail
        simp only [List.mem_cons] at hb
        rcases hb with rfl | rfl | hb
        · simp
        · simp
        · exact List.mem_cons_of_mem _ (mem_of_isLineTail htail hb)
      · cases h
    · -- an opening line
      split at h
      · rename_i htail
        exact List.mem_cons_of_mem _ (mem_of_isLineTail htail hb)
      · cases h
  · cases h

/-- A line is no boundary line if it holds a byte that no boundary line has. -/
theorem isDelimiter_of_mem {line : Line} {b : UInt8} (hb : b ∈ line)
    (hmark : b ∉ Bytes.ofAscii (mark boundary)) (htail : b ∉ ([45, 32, 9, 13, 10] : Bytes)) :
    isDelimiter boundary line = false := by
  cases h : isDelimiter boundary line with
  | false => rfl
  | true =>
    obtain ⟨tail, rfl, htails⟩ := of_isDelimiter h
    rcases List.mem_append.1 hb with hb | hb
    · exact absurd hb hmark
    · exact absurd (htails b hb) htail

/-- A text written in UTF-8 begins with the bytes of a plain text only if it begins with that
text. -/
theorem prefix_of_encoded {cs front : List Char}
    (hfront : ∀ c ∈ front, 33 ≤ c.toNat ∧ c.toNat ≤ 126)
    (h : Bytes.ofAscii front <+: Charset.Utf8.encode cs ++ lineEnd) : front <+: cs := by
  induction front generalizing cs with
  | nil => exact List.nil_prefix
  | cons c front ih =>
    have hc := hfront c List.mem_cons_self
    have htoNat : (UInt8.ofNat c.toNat).toNat = c.toNat := Bytes.toNat_ofNat (by omega)
    cases cs with
    | nil =>
      -- the line ends here, and no plain character is a carriage return
      have hhead : UInt8.ofNat c.toNat = 13 := (List.cons_prefix_cons.1 h).1
      rw [hhead] at htoNat
      have hcr : c.toNat = 13 := htoNat.symm
      omega
    | cons d cs =>
      have hd : c = d ∧ Charset.Utf8.encodeChar d = [UInt8.ofNat c.toNat] := by
        rw [Charset.Utf8.encode_cons] at h
        cases hbytes : Charset.Utf8.encodeChar d with
        | nil =>
          have hne := Charset.Utf8.encodeChar_ne_nil d
          exact absurd hbytes hne
        | cons b rest =>
          rw [hbytes] at h
          have hb := (List.cons_prefix_cons.1 h).1
          have hmem : b ∈ Charset.Utf8.encodeChar d := by simp [hbytes]
          -- the first byte of the character is that of a plain one, so it is the whole character
          rcases Charset.Utf8.mem_encodeChar hmem with ⟨hascii, hvalue⟩ | hhigh
          · rw [← hb, htoNat] at hvalue
            have hcd : c = d := by
              rw [← Char.ofNat_toNat c, hvalue, Char.ofNat_toNat]
            rw [← hbytes, Charset.Utf8.encodeChar_ascii hascii, hcd]
            exact ⟨rfl, rfl⟩
          · rw [← hb, htoNat] at hhigh
            omega
      obtain ⟨rfl, hbytes⟩ := hd
      rw [Charset.Utf8.encode_cons, hbytes] at h
      rw [List.cons_prefix_cons]
      exact ⟨rfl, ih (fun c' hc' => hfront c' (List.mem_cons_of_mem _ hc'))
        (List.cons_prefix_cons.1 h).2⟩

/-- A line of text that does not begin with the mark is no boundary line. -/
theorem isDelimiter_text (hboundary : ∀ c ∈ boundary, isBoundaryChar c = true) {cs : List Char}
    (h : ¬ mark boundary <+: cs)
    : isDelimiter boundary (ended (Charset.Utf8.encode cs)) = false := by
  cases hline : isDelimiter boundary (ended (Charset.Utf8.encode cs)) with
  | false => rfl
  | true =>
    obtain ⟨tail, htail, -⟩ := of_isDelimiter hline
    refine absurd (prefix_of_encoded (fun c hc => ?_) ⟨tail, htail.symm⟩) h
    have hplain := plain_of_mem_mark hboundary hc
    exact ⟨hplain.1, hplain.2.1⟩

theorem isDelimiter_blank : isDelimiter boundary (ended []) = false := by
  cases hline : isDelimiter boundary (ended []) with
  | false => rfl
  | true =>
    obtain ⟨tail, htail, -⟩ := of_isDelimiter hline
    cases (List.cons.inj htail).1

/-! ## Parts -/

/-- Lines that can be written as a part: there is one, and none is a boundary line. -/
def IsPart (boundary : List Char) (part : List Line) : Prop :=
  part ≠ [] ∧ ∀ line ∈ part, isDelimiter boundary line = false

theorem cutParts_part {part : List Line} (hpart : IsPart boundary part) {line : Line}
    (hline : isDelimiter boundary line = true) (rest : List Line) :
    cutParts boundary (part ++ line :: rest) =
      if delimiter? boundary line = some .closes then [part]
      else part :: cutParts boundary rest := by
  -- no boundary line stands in front of the part
  have hcontent : (part ++ line :: rest).dropWhile (isDelimiter boundary) =
      part ++ line :: rest := by
    cases part with
    | nil => exact absurd rfl hpart.1
    | cons first more =>
      rw [List.cons_append, List.dropWhile_cons, if_neg]
      simp [hpart.2 first List.mem_cons_self]
  -- and none within it
  have hkept : ∀ l ∈ part, (!isDelimiter boundary l) = true := by
    intro l hl
    rw [hpart.2 l hl]
    rfl
  have htake : (part ++ line :: rest).takeWhile (fun l => !isDelimiter boundary l) = part := by
    rw [List.takeWhile_append_of_pos hkept, List.takeWhile_cons, if_neg (by simp [hline]),
      List.append_nil]
  have hdrop : (part ++ line :: rest).dropWhile (fun l => !isDelimiter boundary l) =
      line :: rest := by
    rw [List.dropWhile_append_of_pos hkept, List.dropWhile_cons, if_neg (by simp [hline])]
  rw [cutParts]
  split
  · rename_i hnil
    rw [hcontent, hdrop] at hnil
    cases hnil
  · rename_i line' rest' hcons
    rw [hcontent, hdrop] at hcons
    cases hcons
    rw [hcontent, htake]

/-! ## Layouts -/

/-- A part behind the boundary line that opens it. -/
structure Part (boundary : List Char) where
  opening : Line
  lines : List Line
  opens : delimiter? boundary opening = some .opens
  isPart : IsPart boundary lines

/-- The lines of a multipart body: its parts, with what stands before the first boundary line and
behind the last one. -/
structure Layout (boundary : List Char) where
  preamble : List Line := []
  parts : List (Part boundary)
  closing : Line
  epilogue : List Line := []
  preamble_apart : ∀ line ∈ preamble, isDelimiter boundary line = false
  closes : delimiter? boundary closing = some .closes

namespace Layout

/-- What follows the lines of a part: further parts, and the line that closes the last one. -/
def linesFrom (layout : Layout boundary) (parts : List (Part boundary)) : List Line :=
  parts.flatMap (fun part => part.opening :: part.lines) ++ layout.closing :: layout.epilogue

def lines (layout : Layout boundary) : List Line := layout.preamble ++ layout.linesFrom layout.parts

/-- The body with one more part at its end. -/
def attach (layout : Layout boundary) (part : Part boundary) : Layout boundary :=
  { layout with parts := layout.parts ++ [part] }

variable (layout : Layout boundary)

theorem linesFrom_cons (part : Part boundary) (parts : List (Part boundary)) :
    layout.linesFrom (part :: parts) = part.opening :: (part.lines ++ layout.linesFrom parts) := by
  rw [linesFrom, List.flatMap_cons, List.append_assoc]
  rfl

theorem cutParts_linesFrom (part : Part boundary) (parts : List (Part boundary)) :
    cutParts boundary (part.lines ++ layout.linesFrom parts) =
      part.lines :: parts.map (·.lines) := by
  induction parts generalizing part with
  | nil =>
    -- the last part ends at the closing line
    have hclosing := isDelimiter_of_delimiter? layout.closes
    show cutParts boundary (part.lines ++ layout.closing :: layout.epilogue) = [part.lines]
    rw [cutParts_part part.isPart hclosing, if_pos layout.closes]
  | cons next parts ih =>
    have hopening := isDelimiter_of_delimiter? next.opens
    rw [linesFrom_cons, cutParts_part part.isPart hopening, if_neg (by simp [next.opens]), ih next]
    rfl

/-- **A multipart body is cut into its parts.** -/
theorem multipart_lines (hne : layout.parts ≠ []) :
    multipart boundary layout.lines = .ok (layout.parts.map (·.lines)) := by
  obtain ⟨part, parts, hparts⟩ := List.exists_cons_of_ne_nil hne
  have hopening := isDelimiter_of_delimiter? part.opens
  -- the first boundary line is the one behind the preamble
  have hpreamble : ∀ line ∈ layout.preamble, (!isDelimiter boundary line) = true := by
    intro line hline
    rw [layout.preamble_apart line hline]
    rfl
  have hdrop : layout.lines.dropWhile (fun line => !isDelimiter boundary line) =
      part.opening :: (part.lines ++ layout.linesFrom parts) := by
    rw [lines, hparts, linesFrom_cons, List.dropWhile_append_of_pos hpreamble, List.dropWhile_cons,
      if_neg (by simp [hopening])]
  rw [multipart, hdrop, hparts]
  dsimp only
  rw [part.opens, if_neg (by simp), cutParts_linesFrom]
  rfl

end Layout

/-! ## Plain layouts -/

/-- The parts of a body as they are written, up to the closing line. -/
def written (boundary : List Char) (parts : List (List Line)) : List Line :=
  parts.flatMap (fun part => opening boundary :: part) ++ [closing boundary]

namespace Layout

variable {parts : List (List Line)}

/-- The layout of parts that are written plainly. -/
def plain (hboundary : ∀ c ∈ boundary, isBoundaryChar c = true)
    (hparts : ∀ part ∈ parts, IsPart boundary part) : Layout boundary where
  parts := parts.pmap (fun part hpart =>
    { opening := Entity.opening boundary, lines := part,
      opens := delimiter?_opening hboundary, isPart := hpart }) hparts
  closing := Entity.closing boundary
  preamble_apart := fun _ hline => absurd hline List.not_mem_nil
  closes := delimiter?_closing hboundary

variable (hboundary : ∀ c ∈ boundary, isBoundaryChar c = true)
  (hparts : ∀ part ∈ parts, IsPart boundary part)

theorem parts_plain : (plain hboundary hparts).parts.map (·.lines) = parts := by
  rw [plain, List.map_pmap, List.pmap_eq_map, List.map_id']

theorem lines_plain : (plain hboundary hparts).lines = written boundary parts := by
  have hflat : (plain hboundary hparts).parts.flatMap (fun part => part.opening :: part.lines) =
      parts.flatMap (fun part => Entity.opening boundary :: part) := by
    rw [plain, List.flatMap_def, List.map_pmap]
    dsimp only
    rw [List.pmap_eq_map hparts, ← List.flatMap_def]
  show (plain hboundary hparts).parts.flatMap _ ++ [Entity.closing boundary] = _
  rw [hflat]
  rfl

end Layout

end As2Exchange.Mime.Entity
