import As2Exchange.Send.Basic
import As2Exchange.Proofs.Template.Alike
import As2Exchange.Proofs.Text.Hex

/-!
# The texts of stamps

A stamp gives two texts to a message id, its moment and its number. Under any clock with four-digit
years both have a fixed length and only plain characters, so two stamps are told apart by what
stands in these places, never by where they stand.

- `Stamp.alike_moment` and `Stamp.alike_number` compare the texts of two stamps;
- `Stamp.uniqueText_injective` says that different numbers have different texts.
-/

namespace As2Exchange

open Template

/-- A stamp as a clock and a source of 128-bit numbers give it: the year has four digits, and the
other parts of the moment have at most two. -/
structure Stamp.Regular (stamp : Stamp) : Prop where
  year : 1000 ≤ stamp.moment.year ∧ stamp.moment.year < 10000
  month : stamp.moment.month < 100
  day : stamp.moment.day < 100
  hour : stamp.moment.hour < 100
  minute : stamp.moment.minute < 100
  second : stamp.moment.second < 100
  unique : stamp.unique < uniqueLimit

namespace Moment

/-! ## Decimal numbers -/

theorem plain_toString (n : Nat) : Plain (toString n).toList := by
  intro c hc
  rw [Nat.toString_eq_ofList_toDigits, String.toList_ofList] at hc
  -- digits are printable, and none of the marks that a literal spells out
  have hdigit : c.isDigit = true := Nat.isDigit_of_mem_toDigits (by decide) (by decide) hc
  obtain ⟨hlow, hhigh⟩ : 48 ≤ c.toNat ∧ c.toNat ≤ 57 := Char.isDigit_iff_toNat.1 hdigit
  refine ⟨⟨by omega, by omega⟩, ?_, ?_, ?_⟩
  · rintro rfl
    exact absurd hdigit (by decide)
  · rintro rfl
    exact absurd hdigit (by decide)
  · rintro rfl
    exact absurd hdigit (by decide)

/-- A number between two powers of ten has as many digits as they tell. -/
theorem length_toString {n k : Nat} (hlow : Nat.pow 10 k ≤ n) (hhigh : n < Nat.pow 10 (k + 1)) :
    (toString n).toList.length = k + 1 := by
  rw [Nat.toString_eq_ofList_toDigits, String.toList_ofList]
  have hle := (Nat.length_toDigits_le_iff (b := 10) (by decide) (Nat.succ_pos k)).2 hhigh
  -- at most as many digits by the upper bound; the lower bound says nothing of a single digit
  cases k with
  | zero =>
    have := Nat.length_toDigits_pos (b := 10) (n := n)
    omega
  | succ k =>
    have hmore := mt (Nat.length_toDigits_le_iff (b := 10) (by decide) (Nat.succ_pos k)).1
      (Nat.not_lt.2 hlow)
    omega

theorem plain_twoDigits (n : Nat) : Plain (twoDigits n).toList := by
  unfold twoDigits
  split
  · rw [String.toList_append]
    exact plain_append (by decide) (plain_toString n)
  · exact plain_toString n

theorem length_twoDigits {n : Nat} (h : n < 100) : (twoDigits n).toList.length = 2 := by
  unfold twoDigits
  split
  · rename_i hsmall
    simp [Nat.toDigits_of_lt_base hsmall]
  · rename_i hlarge
    exact length_toString (k := 1) (Nat.not_lt.1 hlarge) h

/-! ## Moments -/

theorem compact_toList (m : Moment) : m.compact.toList =
    (twoDigits m.day).toList ++ (twoDigits m.month).toList ++ (toString m.year).toList
      ++ (twoDigits m.hour).toList ++ (twoDigits m.minute).toList ++ (twoDigits m.second).toList
      ++ "+0000".toList := by
  simp only [compact, String.toList_append]

theorem plain_compact (m : Moment) : Plain m.compact.toList := by
  rw [compact_toList]
  -- each of the seven parts is plain, taken off from the back
  refine plain_append ?_ (by decide)
  refine plain_append ?_ (plain_twoDigits m.second)
  refine plain_append ?_ (plain_twoDigits m.minute)
  refine plain_append ?_ (plain_twoDigits m.hour)
  refine plain_append ?_ (plain_toString m.year)
  exact plain_append (plain_twoDigits m.day) (plain_twoDigits m.month)

end Moment

namespace Stamp

theorem Regular.length_compact {stamp : Stamp} (h : stamp.Regular) :
    stamp.moment.compact.toList.length = 19 := by
  have hyear : (toString stamp.moment.year).toList.length = 4 :=
    Moment.length_toString (k := 3) h.year.1 h.year.2
  simp only [Moment.compact_toList, List.length_append, Moment.length_twoDigits h.day,
    Moment.length_twoDigits h.month, hyear, Moment.length_twoDigits h.hour,
    Moment.length_twoDigits h.minute, Moment.length_twoDigits h.second]
  rfl

/-! ## Numbers -/

theorem plain_uniqueText (stamp : Stamp) : Plain stamp.uniqueText.toList := by
  have hdigits : Plain Text.lowerHexDigits := by decide
  intro c hc
  rw [uniqueText, String.toList_ofList] at hc
  exact hdigits c (Text.mem_hexDigits hc)

theorem Regular.length_uniqueText {stamp : Stamp} (h : stamp.Regular) :
    stamp.uniqueText.toList.length = 32 := by
  rw [uniqueText, String.toList_ofList]
  exact Text.length_hexDigits (by decide) (Nat.lt_of_lt_of_eq h.unique (by decide))

theorem uniqueText_injective {first second : Stamp} (h : first.uniqueText = second.uniqueText) :
    first.unique = second.unique :=
  Text.hexDigits_injective (String.ofList_injective h)

/-! ## Two stamps -/

variable {first second : Stamp}

theorem alike_moment (hfirst : first.Regular) (hsecond : second.Regular) :
    Found.Alike (.text first.moment.compact.toList) (.text second.moment.compact.toList) :=
  .plain (hfirst.length_compact.trans hsecond.length_compact.symm) first.moment.plain_compact
    second.moment.plain_compact

theorem alike_number (hfirst : first.Regular) (hsecond : second.Regular) :
    Found.Alike (.text first.uniqueText.toList) (.text second.uniqueText.toList) :=
  .plain (hfirst.length_uniqueText.trans hsecond.length_uniqueText.symm) first.plain_uniqueText
    second.plain_uniqueText

end Stamp

end As2Exchange
