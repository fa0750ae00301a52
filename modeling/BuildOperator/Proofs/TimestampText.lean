import Mathlib.Algebra.Group.Nat.Defs
import BuildOperator.Timestamp.Text
/-!
# Timestamps read back

Every timestamp is read back from its text. Each part that is written is read by its own reader,
which stops where the next part begins: numbers of a fixed width stop by their width, the year and
the fraction at the character after them.
-/
namespace BuildOperator

theorem Date.day_le (d : Date) : d.day ≤ 31 := by
  have hd := d.day_range.2
  have hm : daysInMonth d.year d.month ≤ 31 := by
    unfold daysInMonth
    split
    · split <;> decide
    all_goals decide
  omega

namespace Timestamp
open Text

theorem natOfDigits_eq (cs : List Char) : natOfDigits cs = Nat.ofDigitChars 10 cs 0 := rfl

@[simp] theorem natOfDigits_padded (width n : Nat) : natOfDigits (padded width n) = n := by
  simp [natOfDigits_eq, padded, Nat.ofDigitChars_append]

theorem isDigit_of_mem_padded {width n : Nat} {c : Char} (h : c ∈ padded width n) :
    c.isDigit = true := by
  rcases List.mem_append.mp h with hz | hd
  · rw [(List.mem_replicate.mp hz).2]
    decide
  · exact Nat.isDigit_of_mem_toDigits (by decide) (by decide) hd

theorem length_padded {width n : Nat} (hw : 0 < width) (hn : n < 10 ^ width) :
    (padded width n).length = width := by
  have hd : (Nat.toDigits 10 n).length ≤ width :=
    (Nat.length_toDigits_le_iff (by decide) hw).mpr hn
  simp only [padded, List.length_append, List.length_replicate]
  omega

theorem exists_padded_eq_cons (width n : Nat) :
    ∃ c cs, padded width n = c :: cs ∧ c.isDigit = true := by
  cases hp : padded width n with
  | nil => simp [padded] at hp
  | cons c cs => exact ⟨c, cs, rfl, isDigit_of_mem_padded (hp ▸ List.mem_cons_self)⟩

theorem isBlank_of_isDigit {c : Char} (h : c.isDigit = true) : isBlank c = false := by
  have hr := Char.isDigit_iff_toNat.mp h
  have h0 : '0'.toNat = 48 := rfl
  have h9 : '9'.toNat = 57 := rfl
  simp [isBlank, inRanges, blankRanges]
  omega

/-- The rest of a text does not go on with a digit. -/
def Halts (rest : List Char) : Prop := ∀ c ∈ rest.head?, c.isDigit = false

theorem spanDigits_append {max : Nat} {ds rest : List Char} (hd : ∀ c ∈ ds, c.isDigit = true)
    (hl : ds.length ≤ max) (hr : ds.length = max ∨ Halts rest) :
    spanDigits max (ds ++ rest) = (ds, rest) := by
  induction ds generalizing max with
  | nil =>
    cases max with
    | zero => rfl
    | succ max =>
      have hs : Halts rest := hr.resolve_left (by simp)
      cases rest with
      | nil => rfl
      | cons c rest => simp [spanDigits, hs c rfl]
  | cons c ds ih =>
    cases max with
    | zero => simp at hl
    | succ max =>
      have hc : c.isDigit = true := hd c List.mem_cons_self
      have hih := ih (fun x hx => hd x (List.mem_cons_of_mem _ hx)) (by simpa using hl)
        (hr.imp_left fun h => by simpa using h)
      simp [spanDigits, hc, hih]

theorem readDigits_padded {width n max : Nat} (rest : List Char)
    (hl : (padded width n).length ≤ max) (hr : (padded width n).length = max ∨ Halts rest) :
    readDigits max (padded width n ++ rest) = .ok (padded width n, rest) := by
  have hs := spanDigits_append (fun c hc => isDigit_of_mem_padded hc) hl hr
  obtain ⟨c, cs, hp, hc⟩ := exists_padded_eq_cons width n
  rw [hp] at hs ⊢
  simp only [readDigits, List.cons_append, hc, if_true] at hs ⊢
  rw [hs]

theorem trimStart_cons {c : Char} (h : isBlank c = false) (rest : List Char) :
    trimStart (c :: rest) = c :: rest := by
  simp [trimStart, h]

theorem trimStart_padded (width n : Nat) (rest : List Char) :
    trimStart (padded width n ++ rest) = padded width n ++ rest := by
  obtain ⟨c, cs, hp, hc⟩ := exists_padded_eq_cons width n
  rw [hp]
  exact trimStart_cons (isBlank_of_isDigit hc) _

theorem expect_cons {c : Char} (h : isBlank c = false) (rest : List Char) :
    expect c (c :: rest) = .ok rest := by
  simp [expect, trimStart_cons h]

theorem readField_padded {low high n : Nat} (hlow : low ≤ n) (hhigh : n ≤ high)
    (hw : high < 100) (rest : List Char) :
    readField low high (padded 2 n ++ rest) = .ok (n, rest) := by
  have hl : (padded 2 n).length = 2 := length_padded (by decide) (by omega)
  have hd := readDigits_padded rest (Nat.le_of_eq hl) (Or.inl hl)
  simp only [readField, trimStart_padded, hd, bind, Except.bind, natOfDigits_padded]
  rw [if_pos ⟨hlow, hhigh⟩]
  rfl

theorem readDigits_signed (n : Nat) {rest : List Char} (hr : Halts rest) :
    readDigits (padded 4 n ++ rest).length (padded 4 n ++ rest) = .ok (padded 4 n, rest) := by
  refine readDigits_padded rest ?_ (Or.inr hr)
  simp

theorem readYear_yearText {year : Int} (hy : firstYear ≤ year ∧ year ≤ lastYear)
    {rest : List Char} (hr : Halts rest) : readYear (yearText year ++ rest) = .ok (year, rest) := by
  have hf : firstYear = -262143 := rfl
  have hl : lastYear = 262142 := rfl
  have hrange : (-2147483648 : Int) ≤ year ∧ year ≤ 2147483647 := by omega
  unfold yearText
  split
  · next hneg =>
    have hn : -(year.natAbs : Int) = year := by omega
    have ht : trimStart ('-' :: (padded 4 year.natAbs ++ rest)) = '-' :: _ :=
      trimStart_cons (by decide) _
    simp only [List.cons_append, readYear, ht, readDigits_signed _ hr, bind, Except.bind, pure,
      Except.pure, natOfDigits_padded, hn]
    rw [if_pos hrange]
  · split
    · next hneg hbig =>
      have hn : (year.natAbs : Int) = year := by omega
      have ht : trimStart ('+' :: (padded 4 year.natAbs ++ rest)) = '+' :: _ :=
        trimStart_cons (by decide) _
      simp only [List.cons_append, readYear, ht, readDigits_signed _ hr, bind, Except.bind, pure,
        Except.pure, natOfDigits_padded, hn]
      rw [if_pos hrange]
    · next hneg hbig =>
      have hn : (year.natAbs : Int) = year := by omega
      have hw : (padded 4 year.natAbs).length = 4 := length_padded (by decide) (by omega)
      have hd := readDigits_padded rest (Nat.le_of_eq hw) (Or.inl hw)
      obtain ⟨c, cs, hp, hc⟩ := exists_padded_eq_cons 4 year.natAbs
      unfold readYear
      rw [trimStart_padded]
      dsimp only
      -- The first character is a digit, so that it is not taken for a sign.
      split
      · next he =>
        rw [hp] at he
        obtain rfl : c = '-' := (List.cons.inj he).1
        exact absurd hc (by decide)
      · next he =>
        rw [hp] at he
        obtain rfl : c = '+' := (List.cons.inj he).1
        exact absurd hc (by decide)
      · simp only [hd, bind, Except.bind, pure, Except.pure, natOfDigits_padded, hn]
        rw [if_pos hrange]

theorem halts_cons {c : Char} (h : c.isDigit = false) (rest : List Char) : Halts (c :: rest) := by
  intro d hd
  obtain rfl : c = d := by simpa using hd
  exact h

theorem readFraction_padded {width n : Nat} (hw : 0 < width) (hw' : width ≤ 9)
    (hn : n < 10 ^ width) {rest : List Char} (hr : Halts rest) :
    readFraction ('.' :: (padded width n ++ rest)) = .ok (n * 10 ^ (9 - width), rest) := by
  have hl : (padded width n).length = width := length_padded hw hn
  have hd := readDigits_padded rest (hl ▸ hw') (Or.inr hr)
  have hrest : rest.dropWhile Char.isDigit = rest := by
    cases rest with
    | nil => rfl
    | cons c rest =>
      have hc : c.isDigit = false := hr c rfl
      simp [hc]
  simp only [readFraction, hd, bind, Except.bind, pure, Except.pure, natOfDigits_padded, hl, hrest]
  rfl

theorem readFraction_fractionText {n : Nat} (hn : n < 1000000000) :
    readFraction (fractionText n ++ ['Z']) = .ok (n, ['Z']) := by
  have hz : Halts ['Z'] := halts_cons (by decide) []
  unfold fractionText
  split
  · next h =>
    subst h
    rfl
  split
  · next h =>
    have he : n / 1000000 * 10 ^ (9 - 3) = n := by omega
    rw [List.cons_append, readFraction_padded (by decide) (by decide) (by omega) hz, he]
  split
  · next h =>
    have he : n / 1000 * 10 ^ (9 - 6) = n := by omega
    rw [List.cons_append, readFraction_padded (by decide) (by decide) (by omega) hz, he]
  · have he : n * 10 ^ (9 - 9) = n := by omega
    rw [List.cons_append, readFraction_padded (by decide) (by decide) (by omega) hz, he]

theorem readChars_chars (t : Timestamp) : readChars t.chars = .ok t := by
  have hyear (rest : List Char) := readYear_yearText t.date.year_range
    (halts_cons (c := '-') (by decide) rest)
  have hdash := expect_cons (c := '-') (by decide)
  have hcolon := expect_cons (c := ':') (by decide)
  have hmonth := readField_padded t.date.month_range.1 t.date.month_range.2 (by decide)
  have hday := readField_padded t.date.day_range.1 t.date.day_le (by decide)
  have hhour := readField_padded (Nat.zero_le _) (Nat.le_of_lt_succ t.hour_lt) (by decide)
  have hminute := readField_padded (Nat.zero_le _) (Nat.le_of_lt_succ t.minute_lt) (by decide)
  have hsecond := readField_padded (Nat.zero_le _) t.second_le (by decide)
  have hfraction := readFraction_fractionText t.nanosecond_lt
  have hseparator (rest : List Char) : readSeparator ('T' :: rest) = .ok rest := rfl
  have htrim : trimStart ['Z'] = ['Z'] := trimStart_cons (by decide) []
  have hoffset : readOffset ['Z'] = .ok (0, []) := rfl
  have hend : (!(trimStart []).isEmpty) = false := rfl
  have heast : ¬ 1440 ≤ (0 : Int).natAbs := by decide
  unfold readChars chars
  simp only [List.append_assoc, List.cons_append, bind, Except.bind, hyear, hdash, hcolon, hmonth,
    hday, hseparator, hhour, hminute, hsecond, hfraction, htrim, hoffset, hend, heast,
    Date.of?_self, ofLocal?_zero]
  rfl

/-- What is written is read back. -/
theorem ofText_text (t : Timestamp) : ofText t.text = .ok t := by
  unfold ofText text
  rw [String.toList_ofList]
  exact readChars_chars t

end Timestamp
end BuildOperator
