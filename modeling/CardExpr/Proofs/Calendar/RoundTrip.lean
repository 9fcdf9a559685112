import CardExpr.Calendar.Text
import CardExpr.Proofs.Token.Words
import Mathlib.Data.Nat.Digits.Defs

/-! The text of an instant is read back as the beginning of its second. -/

namespace CardExpr.Calendar

open Spelling (isDigit_of_mem_digits natOfDigits_digits span_append)

theorem isDigit_of_mem_padded {width n : Nat} {c : Char} (member : c ∈ padded width n) :
    Decimal.isDigit c = true := by
  rcases List.mem_append.mp member with zero | digit
  · rw [(List.mem_replicate.mp zero).2]
    decide
  · exact isDigit_of_mem_digits n c digit

theorem natOfDigits_replicate_zero (count : Nat) :
    (List.replicate count '0').foldl (fun n c => 10 * n + Decimal.digitValue c) 0 = 0 := by
  induction count with
  | zero => rfl
  | succ count ih => exact ih

theorem natOfDigits_padded (width n : Nat) : Decimal.natOfDigits (padded width n) = n := by
  unfold padded Decimal.natOfDigits
  dsimp only
  rw [List.foldl_append, natOfDigits_replicate_zero]
  exact natOfDigits_digits n

theorem length_padded {width n : Nat} (positive : 0 < width) (fits : n < 10 ^ width) :
    (padded width n).length = width := by
  have short := Nat.toDigits_length 10 n width positive fits
  unfold padded
  dsimp only
  rw [List.length_append, List.length_replicate]
  omega

theorem isBlank_of_isDigit {c : Char} (digit : Decimal.isDigit c = true) : Text.isBlank c = false := by
  rw [Bool.eq_false_iff]
  intro blank
  rw [Spelling.isDigit_of_separates (Spelling.separates_of_isBlank c blank)] at digit
  cases digit

/-- Nothing stands before the digits of a number. -/
theorem padded_cons (width n : Nat) : ∃ d ds, padded width n = d :: ds ∧ Decimal.isDigit d = true := by
  obtain ⟨d, ds, same⟩ := List.exists_cons_of_ne_nil (Nat.toDigits_ne_nil (n := n) (b := 10))
  have nonempty : padded width n ≠ [] := by
    unfold padded
    dsimp only
    rw [same]
    exact List.append_ne_nil_of_right_ne_nil _ (List.cons_ne_nil d ds)
  obtain ⟨e, es, split⟩ := List.exists_cons_of_ne_nil nonempty
  exact ⟨e, es, split, isDigit_of_mem_padded (split ▸ List.mem_cons_self)⟩

theorem trimStart_padded (width n : Nat) (rest : List Char) :
    Text.trimStart (padded width n ++ rest) = padded width n ++ rest := by
  obtain ⟨d, ds, same, digit⟩ := padded_cons width n
  rw [same]
  exact List.dropWhile_cons_of_neg (by rw [isBlank_of_isDigit digit]; decide)

theorem readDigits_padded {width n : Nat} (positive : 0 < width) (fits : n < 10 ^ width) (rest : List Char) :
    readDigits width (padded width n ++ rest) = some (n, rest) := by
  have length := length_padded positive fits
  have inside : ∀ c ∈ padded width n, Decimal.isDigit c = true := fun c => isDigit_of_mem_padded
  have digits : ((padded width n ++ rest).takeWhile Decimal.isDigit).take width = padded width n := by
    rw [List.takeWhile_append_of_pos inside, List.take_append_of_le_length (Nat.le_of_eq length.symm),
      List.take_of_length_le (Nat.le_of_eq length)]
  obtain ⟨d, ds, same, -⟩ := padded_cons width n
  have nonempty : (padded width n).isEmpty = false := by
    rw [same]
    rfl
  unfold readDigits
  simp only [trimStart_padded, digits, nonempty, Bool.false_eq_true, if_false, natOfDigits_padded,
    List.drop_left]

/-- A year with a sign goes on as long as there are digits. -/
theorem readYear_signed (negative : Bool) {cs digits rest : List Char} (present : digits ≠ [])
    (decimal : ∀ c ∈ digits, Decimal.isDigit c = true)
    (trimmed : Text.trimStart cs = (if negative then '-' else '+') :: (digits ++ '-' :: rest)) :
    readYear cs =
      some (if negative then -(Decimal.natOfDigits digits : Int) else Decimal.natOfDigits digits,
        '-' :: rest) := by
  have taken := span_append Decimal.isDigit digits '-' rest decimal (by decide)
  have nonempty : digits.isEmpty = false := List.isEmpty_eq_false_iff.mpr present
  unfold readYear
  cases negative with
  | true => simp only [trimmed, if_true, taken, nonempty, Bool.false_eq_true, if_false]
  | false => simp only [trimmed, Bool.false_eq_true, if_false, taken, nonempty]

theorem readYear_unsigned {cs ds : List Char} {d : Char} (trimmed : Text.trimStart cs = d :: ds)
    (digit : Decimal.isDigit d = true) :
    readYear cs = (readDigits 4 (d :: ds)).map fun (n, rest) => ((n : Int), rest) := by
  unfold readYear
  rw [trimmed]
  split
  next first =>
    cases first
    exact absurd digit (by decide)
  next first =>
    cases first
    exact absurd digit (by decide)
  next => rfl

theorem readYear_yearText (year : Int) (rest : List Char) :
    readYear (yearText year ++ '-' :: rest) = some (year, '-' :: rest) := by
  unfold yearText
  split
  next unsigned =>
    have fits : year.toNat < 10 ^ 4 := by omega
    have read := readDigits_padded (by decide) fits ('-' :: rest)
    have trimmed := trimStart_padded 4 year.toNat ('-' :: rest)
    obtain ⟨d, ds, same, digit⟩ := padded_cons 4 year.toNat
    rw [same, List.cons_append] at read trimmed
    rw [same, List.cons_append, readYear_unsigned trimmed digit, read, Option.map_some]
    simp only [Int.toNat_of_nonneg unsigned.1]
  next signed =>
    have decimal : ∀ c ∈ padded 4 year.natAbs, Decimal.isDigit c = true := fun c => isDigit_of_mem_padded
    have present : padded 4 year.natAbs ≠ [] := by
      obtain ⟨d, ds, same, -⟩ := padded_cons 4 year.natAbs
      exact same ▸ List.cons_ne_nil d ds
    by_cases negative : year < 0
    · have trimmed := Text.trimStart_of_not_blank '-' (padded 4 year.natAbs ++ '-' :: rest) (by decide)
      have value : -(year.natAbs : Int) = year := by omega
      rw [if_pos negative, List.cons_append, readYear_signed true present decimal trimmed, natOfDigits_padded,
        if_pos rfl, value]
    · have trimmed := Text.trimStart_of_not_blank '+' (padded 4 year.natAbs ++ '-' :: rest) (by decide)
      have value : (year.natAbs : Int) = year := by omega
      rw [if_neg negative, List.cons_append, readYear_signed false present decimal trimmed,
        natOfDigits_padded, if_neg Bool.false_ne_true, value]

theorem readDigits_blank (width : Nat) (cs : List Char) :
    readDigits width (' ' :: cs) = readDigits width cs := by
  unfold readDigits
  rw [Text.trimStart_blank ' ' cs (by decide)]

/-- Two digits are enough for a month, a day and the parts of a time of day. -/
theorem readDigits_field {n : Nat} (fits : n < 100) (rest : List Char) :
    readDigits 2 (padded 2 n ++ rest) = some (n, rest) :=
  readDigits_padded (by decide) fits rest

theorem expectChar_self (c : Char) (rest : List Char) : expectChar c (c :: rest) = some rest := if_pos rfl

/-- Outside leap seconds, the text of an instant is read back, less what it has beside whole seconds. -/
theorem readDateTime_text (t : DateTime) (regular : t.nanos.val < 1000000000) :
    readDateTime t.text = some { t with nanos := DateTime.wholeSecond } := by
  have second : shownSecond t = t.second.val := by
    unfold shownSecond
    rw [Nat.div_eq_of_lt regular, Nat.add_zero]
  have layout : t.text.toList = yearText t.date.year ++ '-' :: (padded 2 t.date.month ++ '-' ::
      (padded 2 t.date.day ++ ' ' :: (padded 2 t.hour.val ++ ':' :: (padded 2 t.minute.val ++ ':' ::
        (padded 2 t.second.val ++ []))))) := by
    rw [DateTime.text, String.toList_ofList]
    simp [render, standardPieces, Piece.text, Field.text, second]
  obtain ⟨-, ⟨-, lastMonth⟩, -, lastDay⟩ := t.date.valid
  have days := daysInMonth_le t.date.year t.date.month
  have month := readDigits_field (n := t.date.month) (by omega)
  have day := readDigits_field (n := t.date.day) (by omega)
  have hour := readDigits_field (n := t.hour.val) (by omega)
  have minute := readDigits_field (n := t.minute.val) (by omega)
  have ofSecond := readDigits_field (n := t.second.val) (by omega)
  have date := t.date.of?_self
  -- The steps of the reader are taken one after another, each on what the one before left.
  have step {α β : Type} (a : α) (next : α → Option β) : (some a >>= next) = next a := rfl
  unfold readDateTime
  simp only [layout, readYear_yearText, step, expectChar_self, month]
  simp only [day, step, readDigits_blank, hour, expectChar_self, minute]
  simp only [step, ofSecond, date]
  rw [dif_pos t.hour.isLt, dif_pos t.minute.isLt, if_pos List.isEmpty_nil, dif_pos t.second.isLt]

end CardExpr.Calendar
