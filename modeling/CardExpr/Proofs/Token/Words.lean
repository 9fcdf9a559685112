import CardExpr.Proofs.Token.Spelling
import Mathlib.Data.List.TakeDrop
import Mathlib.Tactic.Tauto

/-! Inside a span, every spelled token is read back. -/

namespace CardExpr.Spelling

open Lexer

/-- A character that no name, number or operator goes on with. -/
structure Separates (c : Char) : Prop where
  name : isNameChar c = false
  ne_equal : c ≠ '='
  ne_colon : c ≠ ':'
  ne_point : c ≠ '.'

theorem separates_of_isBlank (c : Char) (blank : Text.isBlank c = true) : Separates c := by
  have range : c.toNat = c.val.toNat := rfl
  refine ⟨?_, ?_, ?_, ?_⟩
  · rw [Bool.eq_false_iff]
    intro name
    simp [isNameChar, isNameStart, Decimal.isDigit, Char.le_def, UInt32.le_iff_toNat_le] at name
    simp [Text.isBlank] at blank
    rcases name with (name | rfl) | name
    · omega
    · revert blank; decide
    · omega
  · rintro rfl
    revert blank; decide
  · rintro rfl
    revert blank; decide
  · rintro rfl
    revert blank; decide

theorem separates_brace : Separates '\x7d' := by
  constructor <;> decide

theorem isDigit_of_separates {c : Char} (separates : Separates c) : Decimal.isDigit c = false := by
  have name := separates.name
  unfold isNameChar at name
  rw [Bool.or_eq_false_iff] at name
  exact name.2

theorem isNameStart_iff (c : Char) : isNameStart c = true ↔ c.isAlpha = true ∨ c = '_' := by
  have letter : c.isAlpha = (decide ('A'.val ≤ c.val ∧ c.val ≤ 'Z'.val) ||
      (decide ('a'.val ≤ c.val) && decide (c.val ≤ 'z'.val))) := rfl
  rw [letter]
  simp only [isNameStart, Char.le_def, Bool.or_eq_true, decide_eq_true_eq, Bool.and_eq_true]
  tauto

theorem isNameChar_iff (c : Char) : isNameChar c = true ↔ c.isAlphanum = true ∨ c = '_' := by
  have digit : Decimal.isDigit c = c.isDigit := by
    simp [Decimal.isDigit, Char.isDigit, Char.le_def]
  unfold isNameChar Char.isAlphanum
  rw [Bool.or_eq_true, isNameStart_iff, digit, Bool.or_eq_true, or_right_comm]

theorem isDigit_of_isNameStart {c : Char} (begins : isNameStart c = true) :
    Decimal.isDigit c = false := by
  rw [Bool.eq_false_iff]
  intro digit
  simp [isNameStart, Decimal.isDigit, Char.le_def, UInt32.le_iff_toNat_le] at begins digit
  rcases begins with begins | rfl
  · omega
  · revert digit; decide

theorem span_append (p : Char → Bool) (cs : List Char) (c : Char) (rest : List Char)
    (inside : ∀ d ∈ cs, p d = true) (outside : p c = false) :
    (cs ++ c :: rest).span p = (cs, c :: rest) := by
  rw [List.span_eq_takeWhile_dropWhile, List.takeWhile_append_of_pos inside,
    List.dropWhile_append_of_pos inside]
  simp [outside]

theorem operator?_of_isNameChar (c : Char) (rest : List Char) (name : isNameChar c = true) :
    operator? (c :: rest) = none := by
  unfold operator?
  split
  all_goals first
    | rfl
    | (rename_i first
       cases first
       exact absurd name (by decide))

/-- What may be part of a name does not end a span and begins no quotes. -/
theorem ne_of_isNameChar {c : Char} (name : isNameChar c = true) : c ≠ '\x7d' ∧ c ≠ '\'' := by
  constructor
  · rintro rfl
    exact absurd name (by decide)
  · rintro rfl
    exact absurd name (by decide)

/-- A separator keeps a sign from being read as the beginning of a longer one. -/
theorem operator?_word (opened : List Frame) (k : TokenKind) (symbol : isSymbol k = true) (c : Char)
    (rest : List Char) (separates : Separates c) :
    ∃ width, operator? (word opened k ++ c :: rest) = some (k, width, c :: rest) := by
  cases k with
  | bang => exact ⟨1, by simp [word, operator?, separates.ne_equal, separates.ne_colon]⟩
  | less => exact ⟨1, by simp [word, operator?, separates.ne_equal]⟩
  | greater => exact ⟨1, by simp [word, operator?, separates.ne_equal]⟩
  | _ => first | exact ⟨_, rfl⟩ | cases symbol

theorem spanStep_symbol (start : Nat) (outer : List Opened) (offset : Nat) (opened : List Frame)
    (k : TokenKind) (symbol : isSymbol k = true) (c : Char) (rest : List Char)
    (separates : Separates c) :
    ∃ next, spanStep start outer offset (word opened k ++ c :: rest) =
      .ok ⟨⟨k, offset⟩, .span start :: outer, next, c :: rest⟩ := by
  obtain ⟨width, found⟩ := operator?_word opened k symbol c rest separates
  have first : ∃ d more, word opened k ++ c :: rest = d :: more ∧ d ≠ '\x7d' ∧ d ≠ '\'' := by
    cases k <;> first | exact ⟨_, _, rfl, by decide, by decide⟩ | cases symbol
  obtain ⟨d, more, same, noBrace, noQuote⟩ := first
  rw [same] at found ⊢
  refine ⟨offset + width, ?_⟩
  unfold spanStep
  simp only [if_neg noBrace, if_neg noQuote, found]

theorem spanStep_name (start : Nat) (outer : List Opened) (offset : Nat) (d : Char) (name : List Char)
    (begins : isNameStart d = true) (inside : ∀ e ∈ name, isNameChar e = true) (c : Char)
    (rest : List Char) (separates : Separates c) :
    ∃ next, spanStep start outer offset (d :: name ++ c :: rest) =
      .ok ⟨⟨nameKind (d :: name), offset⟩, .span start :: outer, next, c :: rest⟩ := by
  have first : isNameChar d = true := by
    unfold isNameChar
    rw [begins, Bool.true_or]
  obtain ⟨noBrace, noQuote⟩ := ne_of_isNameChar first
  have noDigit := isDigit_of_isNameStart begins
  have whole : (d :: name ++ c :: rest).span isNameChar = (d :: name, c :: rest) := by
    refine span_append isNameChar (d :: name) c rest ?_ separates.name
    intro e member
    rcases List.mem_cons.mp member with rfl | later
    · exact first
    · exact inside e later
  refine ⟨offset + (d :: name).length, ?_⟩
  rw [List.cons_append] at whole ⊢
  unfold spanStep
  simp only [if_neg noBrace, if_neg noQuote, operator?_of_isNameChar d _ first, noDigit,
    Bool.false_eq_true, if_false, begins, if_true, whole]

theorem readLiteral_digits (digits : List Char) (inside : ∀ e ∈ digits, Decimal.isDigit e = true) (c : Char)
    (rest : List Char) (separates : Separates c) :
    readLiteral (digits ++ c :: rest) = (⟨digits, false, false⟩, c :: rest) := by
  have fraction : readFraction (c :: rest) = ([], c :: rest) := by
    unfold readFraction
    split
    next same =>
      cases same
      exact absurd rfl separates.ne_point
    next => rfl
  have noExponent : ¬ (c = 'e' ∨ c = 'E') := by
    rintro (rfl | rfl)
    · exact absurd separates.name (by decide)
    · exact absurd separates.name (by decide)
  have exponent : Lexer.readExponent (c :: rest) = ([], false, c :: rest) := by
    unfold Lexer.readExponent
    simp only [if_neg noExponent]
  have glued : (c :: rest).span isNameChar = ([], c :: rest) :=
    span_append isNameChar [] c rest (fun _ member => nomatch member) separates.name
  unfold readLiteral
  rw [span_append Decimal.isDigit digits c rest inside (isDigit_of_separates separates)]
  simp only [fraction, exponent, glued]
  simp

theorem isDigit_of_mem_digits (n : Nat) (c : Char) (member : c ∈ Nat.toDigits 10 n) :
    Decimal.isDigit c = true := by
  have digit := Nat.isDigit_of_mem_toDigits (by decide) (by decide) member
  simpa [Decimal.isDigit, Char.isDigit, Char.le_def] using digit

theorem natOfDigits_digits (n : Nat) : Decimal.natOfDigits (Nat.toDigits 10 n) = n :=
  Nat.ofDigitChars_ten_toDigits

theorem int64?_toInt (n : Int64) : Decimal.int64? n.toInt = some n := by
  unfold Decimal.int64?
  rw [if_pos ⟨n.minValue_le_toInt, n.toInt_le⟩, Int64.ofInt_toInt]

theorem readInteger_digits (n : Int64) (nonneg : 0 ≤ n.toInt) :
    Decimal.readInteger (Nat.toDigits 10 n.toInt.toNat) = some n := by
  obtain ⟨d, ds, same⟩ := List.exists_cons_of_ne_nil (Nat.toDigits_ne_nil (n := n.toInt.toNat) (b := 10))
  have inside := isDigit_of_mem_digits n.toInt.toNat
  have sign : Decimal.takeSign (Nat.toDigits 10 n.toInt.toNat) =
      (false, Nat.toDigits 10 n.toInt.toNat) := by
    rw [same] at inside ⊢
    have digit := inside d List.mem_cons_self
    unfold Decimal.takeSign
    split
    next first =>
      cases first
      exact absurd digit (by decide)
    next first =>
      cases first
      exact absurd digit (by decide)
    next => rfl
  have all : (Nat.toDigits 10 n.toInt.toNat).all Decimal.isDigit = true := List.all_eq_true.mpr inside
  have present : (Nat.toDigits 10 n.toInt.toNat).isEmpty = false := by
    rw [same]
    rfl
  unfold Decimal.readInteger
  simp only [sign, all, present, Bool.not_true, Bool.or_self, Bool.false_eq_true, if_false,
    natOfDigits_digits, Int.toNat_of_nonneg nonneg, int64?_toInt]

theorem spanStep_integer (start : Nat) (outer : List Opened) (offset : Nat) (n : Int64)
    (nonneg : 0 ≤ n.toInt) (c : Char) (rest : List Char) (separates : Separates c) :
    ∃ next, spanStep start outer offset (Nat.toDigits 10 n.toInt.toNat ++ c :: rest) =
      .ok ⟨⟨.integer n, offset⟩, .span start :: outer, next, c :: rest⟩ := by
  have inside := isDigit_of_mem_digits n.toInt.toNat
  have literal := readLiteral_digits _ inside c rest separates
  have kind : Literal.kind? ⟨Nat.toDigits 10 n.toInt.toNat, false, false⟩ = some (.integer n) := by
    unfold Literal.kind?
    simp only [readInteger_digits n nonneg, Bool.false_eq_true, if_false, Option.map_some]
  obtain ⟨d, ds, same⟩ := List.exists_cons_of_ne_nil (Nat.toDigits_ne_nil (n := n.toInt.toNat) (b := 10))
  rw [same] at inside literal kind ⊢
  have digit := inside d List.mem_cons_self
  have name : isNameChar d = true := by
    unfold isNameChar
    rw [digit, Bool.or_true]
  obtain ⟨noBrace, noQuote⟩ := ne_of_isNameChar name
  rw [List.cons_append] at literal ⊢
  refine ⟨offset + ((d :: (ds ++ c :: rest)).length - (c :: rest).length), ?_⟩
  unfold spanStep
  simp only [if_neg noBrace, if_neg noQuote, operator?_of_isNameChar d _ name, digit, if_true, literal,
    kind]

theorem nameKind_of_isName (name : String) (isName : IsName name) :
    nameKind name.toList = .identifier name := by
  unfold nameKind
  rw [String.ofList_toList, if_neg isName.not_true, if_neg isName.not_false]

theorem toList_toString (n : Int) (nonneg : 0 ≤ n) : (toString n).toList = Nat.toDigits 10 n.toNat := by
  obtain ⟨m, rfl⟩ := Int.eq_ofNat_of_zero_le nonneg
  exact Nat.toList_repr

/-- Whatever is spelled inside a span is read back there. -/
theorem spanStep_word (start : Nat) (outer : List Opened) (offset : Nat) (opened : List Frame)
    (k : TokenKind) (isPlain : Plain k) (c : Char) (rest : List Char) (separates : Separates c) :
    ∃ next, spanStep start outer offset (word opened k ++ c :: rest) =
      .ok ⟨⟨k, offset⟩, .span start :: outer, next, c :: rest⟩ := by
  cases isPlain with
  | integer n nonneg =>
      rw [show word opened (.integer n) = _ from toList_toString n.toInt nonneg]
      exact spanStep_integer start outer offset n nonneg c rest separates
  | boolean b =>
      cases b with
      | true =>
          have inside := List.all_eq_true.mp (show ['r', 'u', 'e'].all isNameChar = true from rfl)
          exact spanStep_name start outer offset 't' _ rfl inside c rest separates
      | false =>
          have inside := List.all_eq_true.mp (show ['a', 'l', 's', 'e'].all isNameChar = true from rfl)
          exact spanStep_name start outer offset 'f' _ rfl inside c rest separates
  | identifier name isName =>
      obtain ⟨d, ds, same, begins⟩ := isName.start
      have inside : ∀ e ∈ ds, isNameChar e = true := by
        intro e member
        refine (isNameChar_iff e).mpr (isName.chars e ?_)
        rw [same]
        exact List.mem_cons_of_mem d member
      have kind := nameKind_of_isName name isName
      rw [same] at kind
      rw [← kind, show word opened (nameKind (d :: ds)) = d :: ds by rw [kind]; exact same]
      exact spanStep_name start outer offset d ds ((isNameStart_iff d).mpr begins) inside c rest separates
  | symbol k isSymbol => exact spanStep_symbol start outer offset opened k isSymbol c rest separates

theorem word_first (opened : List Frame) (k : TokenKind) (isPlain : Plain k) :
    ∃ d more, word opened k = d :: more ∧ Text.isBlank d = false := by
  have notBlank : ∀ d, isNameChar d = true → Text.isBlank d = false := by
    intro d name
    rw [Bool.eq_false_iff]
    intro blank
    rw [(separates_of_isBlank d blank).name] at name
    cases name
  cases isPlain with
  | integer n nonneg =>
      obtain ⟨d, ds, same⟩ := List.exists_cons_of_ne_nil (Nat.toDigits_ne_nil (n := n.toInt.toNat) (b := 10))
      have digit := isDigit_of_mem_digits n.toInt.toNat d (same ▸ List.mem_cons_self)
      refine ⟨d, ds, (toList_toString n.toInt nonneg).trans same, notBlank d ?_⟩
      unfold isNameChar
      rw [digit, Bool.or_true]
  | boolean b => cases b <;> exact ⟨_, _, rfl, by decide⟩
  | identifier name isName =>
      obtain ⟨d, ds, same, begins⟩ := isName.start
      refine ⟨d, ds, same, notBlank d ?_⟩
      exact (isNameChar_iff d).mpr (isName.chars d (same ▸ List.mem_cons_self))
  | symbol k symbol => cases k <;> first | exact ⟨_, _, rfl, by decide⟩ | cases symbol

end CardExpr.Spelling
