import As2Exchange.Mime.Line

/-!
# Written lines

Lines are written with a carriage return and a newline behind each of them. Cutting what is written
gives the lines back, as long as none of them holds a line end of its own.
-/

namespace As2Exchange.Mime

/-! ## Writing -/

/-- What ends a written line. -/
def lineEnd : Bytes := [0x0D, 0x0A]

/-- A line as it is written. -/
def ended (line : Bytes) : Line := line ++ lineEnd

/-- Nothing in the line ends a line. -/
def IsSingle (line : Bytes) : Prop := ∀ b ∈ line, isLineEnd b = false

/-! ## Cutting -/

theorem linesFrom_line {line : Bytes} (h : IsSingle line) (done rest : Bytes) :
    linesFrom done (line ++ lineEnd ++ rest) = (done.reverse ++ ended line) :: linesFrom [] rest := by
  induction line generalizing done with
  | nil =>
    -- the two bytes of the line end are taken together
    show linesFrom done (0x0D :: 0x0A :: rest) = _
    rw [linesFrom, List.reverse_cons, List.reverse_cons, List.append_assoc]
    rfl
  | cons b line ih =>
    have hb := h b List.mem_cons_self
    -- the byte is no carriage return, so no pair of bytes ends a line here
    have hstep : linesFrom done (b :: (line ++ lineEnd ++ rest)) =
        linesFrom (b :: done) (line ++ lineEnd ++ rest) := by
      rw [linesFrom, hb]
      · rfl
      · rintro rest' rfl -
        exact absurd hb (by decide)
    rw [List.cons_append, List.cons_append, hstep,
      ih (fun b' hb' => h b' (List.mem_cons_of_mem _ hb')), List.reverse_cons, List.append_assoc]
    rfl

/-- **Written lines are cut as they were written.** -/
theorem lines_flatMap_ended {ls : List Bytes} (h : ∀ line ∈ ls, IsSingle line) :
    lines (ls.flatMap ended) = ls.map ended := by
  induction ls with
  | nil => rfl
  | cons line ls ih =>
    rw [List.flatMap_cons, lines, ended, linesFrom_line (h line List.mem_cons_self)]
    have hrest := ih fun l hl => h l (List.mem_cons_of_mem _ hl)
    rw [lines] at hrest
    rw [hrest]
    rfl

/-! ## Line ends -/

theorem chomp_append_lineEnd (bytes : Bytes) : chomp (bytes ++ lineEnd) = bytes := by
  rw [chomp, List.reverse_append]
  exact List.reverse_reverse bytes

end As2Exchange.Mime
