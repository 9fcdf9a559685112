import CardExpr.Calendar.Pattern

/-!
Date patterns and their translation. A pattern is scanned from the left; what is met makes up the format
string, which is read back as just that.
-/

namespace CardExpr.Calendar

def fieldLetters : List Char := ['y', 'M', 'd', 'H', 'h', 'm', 's', 'S', 'a', 'E', 'z', 'Z']

/-- The field that a run of a letter asks for. A longer run of a number is for its padded form, and a longer
one of a month or a weekday for its name. -/
inductive AsksFor : Char → (run : Nat) → Field → Prop where
  | year {run : Nat} (other : run ≠ 2) : AsksFor 'y' run .year
  | yearOfCentury : AsksFor 'y' 2 .yearOfCentury
  | month : AsksFor 'M' 1 .month
  | monthPadded : AsksFor 'M' 2 .monthPadded
  | monthShort : AsksFor 'M' 3 .monthShort
  | monthName {run : Nat} (long : 3 < run) : AsksFor 'M' run .monthName
  | day : AsksFor 'd' 1 .day
  | dayPadded {run : Nat} (long : 1 < run) : AsksFor 'd' run .dayPadded
  | hour : AsksFor 'H' 1 .hour
  | hourPadded {run : Nat} (long : 1 < run) : AsksFor 'H' run .hourPadded
  | hourOfHalf : AsksFor 'h' 1 .hourOfHalf
  | hourOfHalfPadded {run : Nat} (long : 1 < run) : AsksFor 'h' run .hourOfHalfPadded
  | minute : AsksFor 'm' 1 .minute
  | minutePadded {run : Nat} (long : 1 < run) : AsksFor 'm' run .minutePadded
  | second : AsksFor 's' 1 .second
  | secondPadded {run : Nat} (long : 1 < run) : AsksFor 's' run .secondPadded
  | millis (run : Nat) : AsksFor 'S' run .millis
  | halfOfDay (run : Nat) : AsksFor 'a' run .halfOfDay
  | weekdayShort {run : Nat} (short : run ≤ 3) : AsksFor 'E' run .weekdayShort
  | weekdayName {run : Nat} (long : 3 < run) : AsksFor 'E' run .weekdayName
  | zoneName (run : Nat) : AsksFor 'z' run .zoneName
  | zoneOffset (run : Nat) : AsksFor 'Z' run .zoneOffset

/-- The pieces that scanning a pattern meets, and the defect at which it ends, if there is one. -/
inductive Scans : List Char → List Piece → Option PatternError → Prop where
  | done : Scans [] [] none
  | doubled {cs : List Char} {pieces : List Piece} {defect : Option PatternError}
      (rest : Scans cs pieces defect) : Scans ('\'' :: '\'' :: cs) (.literal '\'' :: pieces) defect
  | quoted {text cs : List Char} {pieces : List Piece} {defect : Option PatternError} (nonempty : text ≠ [])
      (unquoted : '\'' ∉ text) (rest : Scans cs pieces defect) :
      Scans ('\'' :: (text ++ '\'' :: cs)) (text.map .literal ++ pieces) defect
  | unclosed {text : List Char} (unquoted : '\'' ∉ text) : Scans ('\'' :: text) [] (some .unterminatedQuote)
  | field {c : Char} {more : Nat} {cs : List Char} {f : Field} {pieces : List Piece}
      {defect : Option PatternError}
      (known : c ∈ fieldLetters) (asks : AsksFor c (more + 1) f) (ended : cs.head? ≠ some c)
      (rest : Scans cs pieces defect) : Scans (c :: (List.replicate more c ++ cs)) (.field f :: pieces) defect
  | unsupported {c : Char} {cs : List Char} (letter : c.isAlpha = true) (unknown : c ∉ fieldLetters) :
      Scans (c :: cs) [] (some (.unsupportedLetter c))
  | literal {c : Char} {cs : List Char} {pieces : List Piece} {defect : Option PatternError}
      (notQuote : c ≠ '\'') (notLetter : c.isAlpha = false) (rest : Scans cs pieces defect) :
      Scans (c :: cs) (.literal c :: pieces) defect

def Piece.code : Piece → List Char
  | .field f => f.specifier.toList
  | .literal c => literalCode c

section Formats

theorem readFormat_literal (c : Char) (rest : List Char) :
    readFormat (literalCode c ++ rest) = (readFormat rest).map (.literal c :: ·) := by
  unfold literalCode
  split
  next percent =>
    subst percent
    rfl
  next other =>
    rw [List.singleton_append, readFormat]
    all_goals simp [other]

theorem readFormat_specifier (f : Field) (rest : List Char) :
    readFormat (f.specifier.toList ++ rest) = (readFormat rest).map (.field f :: ·) := by
  cases f <;> rfl

theorem readFormat_code (p : Piece) (rest : List Char) :
    readFormat (p.code ++ rest) = (readFormat rest).map (p :: ·) := by
  cases p with
  | field f => exact readFormat_specifier f rest
  | literal c => exact readFormat_literal c rest

/-- Each percent sign is read as it was meant. -/
theorem readFormat_codes (pieces : List Piece) : readFormat (pieces.flatMap Piece.code) = some pieces := by
  induction pieces with
  | nil => rfl
  | cons p pieces ih => rw [List.flatMap_cons, readFormat_code, ih, Option.map_some]

end Formats

section Letters

variable {c : Char} {run : Nat}

theorem isPatternLetter_eq (c : Char) : isPatternLetter c = c.isAlpha := by
  have upper : c.isUpper = decide ('A' ≤ c ∧ c ≤ 'Z') := rfl
  have lower : c.isLower = decide ('a' ≤ c ∧ c ≤ 'z') := (Bool.decide_and ('a' ≤ c) (c ≤ 'z')).symm
  show (decide ('a' ≤ c ∧ c ≤ 'z') || decide ('A' ≤ c ∧ c ≤ 'Z')) = (c.isUpper || c.isLower)
  rw [upper, lower, Bool.or_comm]

theorem exists_of_mem_fieldLetters (known : c ∈ fieldLetters) (run : Nat) : ∃ f, fieldOf? c run = some f := by
  simp only [fieldLetters, List.mem_cons, List.not_mem_nil, or_false] at known
  rcases known with rfl | rfl | rfl | rfl | rfl | rfl | rfl | rfl | rfl | rfl | rfl | rfl <;> exact ⟨_, rfl⟩

theorem fieldOf?_eq_none (unknown : c ∉ fieldLetters) (run : Nat) : fieldOf? c run = none := by
  unfold fieldOf?
  split <;> first | rfl | exact absurd (by decide) unknown

theorem mem_fieldLetters_of_asks {f : Field} (asks : fieldOf? c run = some f) : c ∈ fieldLetters := by
  refine Decidable.byContradiction fun unknown => ?_
  rw [fieldOf?_eq_none unknown] at asks
  cases asks

/-- The letters and the lengths of their runs are those of the fields, and no others. -/
theorem fieldOf?_eq_some_iff (present : 0 < run) (f : Field) : fieldOf? c run = some f ↔ AsksFor c run f := by
  constructor
  · intro asks
    unfold fieldOf? at asks
    split at asks <;> cases asks
    all_goals
      repeat' split
    all_goals
      subst_vars
      constructor <;> omega
  · intro asks
    cases asks with
    | year other => simp [fieldOf?, other]
    | monthName long =>
        simp only [fieldOf?]
        rw [if_neg (by omega), if_neg (by omega), if_neg (by omega)]
    | weekdayName long => simp [fieldOf?, Nat.not_le.mpr long]
    | weekdayShort short => simp [fieldOf?, short]
    | dayPadded long => simp [fieldOf?, Nat.ne_of_gt long]
    | hourPadded long => simp [fieldOf?, Nat.ne_of_gt long]
    | hourOfHalfPadded long => simp [fieldOf?, Nat.ne_of_gt long]
    | minutePadded long => simp [fieldOf?, Nat.ne_of_gt long]
    | secondPadded long => simp [fieldOf?, Nat.ne_of_gt long]
    | _ => rfl

theorem isAlpha_of_mem_fieldLetters (known : c ∈ fieldLetters) : c.isAlpha = true := by
  have letters : fieldLetters.all Char.isAlpha = true := by decide
  exact List.all_eq_true.mp letters c known

end Letters

section Steps

variable {c : Char} {text cs : List Char} {more : Nat} {f : Field}

theorem ne_quote_of_isAlpha (letter : c.isAlpha = true) : c ≠ '\'' := by
  rintro rfl
  cases letter

theorem span_quoted (unquoted : '\'' ∉ text) (cs : List Char) :
    (text ++ '\'' :: cs).takeWhile (· != '\'') = text ∧
      (text ++ '\'' :: cs).dropWhile (· != '\'') = '\'' :: cs := by
  have inside : ∀ c ∈ text, (c != '\'') = true := by
    intro c member
    simp only [bne_iff_ne]
    rintro rfl
    exact unquoted member
  constructor
  · rw [List.takeWhile_append_of_pos inside]
    simp
  · rw [List.dropWhile_append_of_pos inside]
    simp

theorem span_run (ended : cs.head? ≠ some c) (more : Nat) :
    ((List.replicate more c ++ cs).takeWhile (· == c)).length = more ∧
      (List.replicate more c ++ cs).dropWhile (· == c) = cs := by
  have inside : ∀ d ∈ List.replicate more c, (d == c) = true := by
    intro d member
    simp [List.eq_of_mem_replicate member]
  have stops : cs.takeWhile (· == c) = [] ∧ cs.dropWhile (· == c) = cs := by
    cases cs with
    | nil => exact ⟨rfl, rfl⟩
    | cons d cs =>
        have other : (d == c) = false := by
          simpa using ended
        simp [other]
  rw [List.takeWhile_append_of_pos inside, List.dropWhile_append_of_pos inside, stops.1, stops.2]
  simp

theorem translatePattern_doubled (cs : List Char) :
    translatePattern ('\'' :: '\'' :: cs) = (translatePattern cs).map ('\'' :: ·) := by
  rw [translatePattern, if_pos rfl, if_pos (List.head?_cons ..), List.tail_cons]

theorem translatePattern_quoted (nonempty : text ≠ []) (unquoted : '\'' ∉ text) (cs : List Char) :
    translatePattern ('\'' :: (text ++ '\'' :: cs)) =
      (translatePattern cs).map (text.flatMap literalCode ++ ·) := by
  have notDoubled : (text ++ '\'' :: cs).head? ≠ some '\'' := by
    cases text with
    | nil => exact absurd rfl nonempty
    | cons c text =>
        rw [List.cons_append, List.head?_cons, Ne, Option.some_inj]
        rintro rfl
        exact unquoted List.mem_cons_self
  obtain ⟨inside, behind⟩ := span_quoted unquoted cs
  rw [translatePattern, if_pos rfl, if_neg notDoubled, if_pos (by simp), inside, behind, List.tail_cons]

theorem translatePattern_unclosed (unquoted : '\'' ∉ text) :
    translatePattern ('\'' :: text) = .error .unterminatedQuote := by
  have notDoubled : text.head? ≠ some '\'' := fun first => unquoted (List.mem_of_mem_head? first)
  rw [translatePattern, if_pos rfl, if_neg notDoubled, if_neg (by simpa using unquoted)]

theorem translatePattern_field (known : c ∈ fieldLetters) (asks : AsksFor c (more + 1) f)
    (ended : cs.head? ≠ some c) :
    translatePattern (c :: (List.replicate more c ++ cs)) =
      (translatePattern cs).map (f.specifier.toList ++ ·) := by
  have letter := isAlpha_of_mem_fieldLetters known
  obtain ⟨run, behind⟩ := span_run ended more
  rw [translatePattern, if_neg (ne_quote_of_isAlpha letter), isPatternLetter_eq, if_pos letter, run,
    (fieldOf?_eq_some_iff more.succ_pos f).mpr asks, behind]

theorem translatePattern_unsupported (letter : c.isAlpha = true) (unknown : c ∉ fieldLetters)
    (cs : List Char) :
    translatePattern (c :: cs) = .error (.unsupportedLetter c) := by
  rw [translatePattern, if_neg (ne_quote_of_isAlpha letter), isPatternLetter_eq, if_pos letter,
    fieldOf?_eq_none unknown]

theorem translatePattern_literal (notQuote : c ≠ '\'') (notLetter : c.isAlpha = false) (cs : List Char) :
    translatePattern (c :: cs) = (translatePattern cs).map (literalCode c ++ ·) := by
  rw [translatePattern, if_neg notQuote, isPatternLetter_eq, notLetter, if_neg Bool.false_ne_true]

end Steps

section Scanning

variable {cs : List Char} {pieces : List Piece} {defect : Option PatternError}

/-- What a scan comes to: the codes of what it met, unless it ended at a defect. -/
def scanned (pieces : List Piece) : Option PatternError → Except PatternError (List Char)
  | none => .ok (pieces.flatMap Piece.code)
  | some e => .error e

theorem map_scanned (p : Piece) (pieces : List Piece) (defect : Option PatternError) :
    (scanned pieces defect).map (p.code ++ ·) = scanned (p :: pieces) defect := by
  cases defect <;> rfl

theorem map_scanned_literals (text : List Char) (pieces : List Piece) (defect : Option PatternError) :
    (scanned pieces defect).map (text.flatMap literalCode ++ ·) =
      scanned (text.map .literal ++ pieces) defect := by
  cases defect with
  | none =>
      refine congrArg Except.ok ?_
      rw [List.flatMap_append, List.flatMap_map]
      rfl
  | some e => rfl

theorem Scans.translatePattern_eq (scans : Scans cs pieces defect) :
    translatePattern cs = scanned pieces defect := by
  induction scans with
  | done =>
      rw [translatePattern]
      rfl
  | doubled rest ih =>
      rw [translatePattern_doubled, ih]
      exact map_scanned (.literal '\'') _ _
  | quoted nonempty unquoted rest ih =>
      rw [translatePattern_quoted nonempty unquoted, ih, map_scanned_literals]
  | unclosed unquoted => exact translatePattern_unclosed unquoted
  | field known asks ended rest ih =>
      rw [translatePattern_field known asks ended, ih]
      exact map_scanned (.field _) _ _
  | unsupported letter unknown => exact translatePattern_unsupported letter unknown _
  | literal notQuote notLetter rest ih =>
      rw [translatePattern_literal notQuote notLetter, ih]
      exact map_scanned (.literal _) _ _

theorem exists_run (c : Char) (rest : List Char) :
    ∃ more cs, rest = List.replicate more c ++ cs ∧ cs.head? ≠ some c := by
  have run : rest.takeWhile (· == c) = List.replicate (rest.takeWhile (· == c)).length c := by
    refine List.eq_replicate_of_mem fun d member => ?_
    exact beq_iff_eq.mp (List.all_eq_true.mp List.all_takeWhile d member)
  refine ⟨(rest.takeWhile (· == c)).length, rest.dropWhile (· == c), ?_, ?_⟩
  · rw [← run, List.takeWhile_append_dropWhile]
  · intro same
    have stopped := List.head?_dropWhile_not (· == c) rest
    rw [same] at stopped
    simp at stopped

theorem exists_scans (cs : List Char) : ∃ pieces defect, Scans cs pieces defect := by
  induction cs using translatePattern.induct with
  | case1 => exact ⟨_, _, .done⟩
  | case2 rest doubled ih =>
      obtain ⟨pieces, defect, scans⟩ := ih
      obtain ⟨cs, rfl⟩ := List.head?_eq_some_iff.mp doubled
      exact ⟨_, _, .doubled scans⟩
  | case3 rest single closed ih =>
      obtain ⟨pieces, defect, scans⟩ := ih
      obtain ⟨text, cs, rfl, unquoted⟩ := List.eq_append_cons_of_mem (List.contains_iff_mem.mp closed)
      rw [(span_quoted unquoted cs).2, List.tail_cons] at scans
      have nonempty : text ≠ [] := by
        rintro rfl
        exact single rfl
      exact ⟨_, _, .quoted nonempty unquoted scans⟩
  | case4 rest single unclosed =>
      exact ⟨_, _, .unclosed fun quote => unclosed (List.contains_iff_mem.mpr quote)⟩
  | case5 c rest notQuote letter f asks ih =>
      obtain ⟨pieces, defect, scans⟩ := ih
      obtain ⟨more, cs, rfl, ended⟩ := exists_run c rest
      obtain ⟨run, behind⟩ := span_run ended more
      rw [behind] at scans
      rw [run] at asks
      have asked := (fieldOf?_eq_some_iff more.succ_pos f).mp asks
      exact ⟨_, _, .field (mem_fieldLetters_of_asks asks) asked ended scans⟩
  | case6 c rest notQuote letter none =>
      have unknown : c ∉ fieldLetters := by
        intro known
        obtain ⟨f, asks⟩ := exists_of_mem_fieldLetters known ((rest.takeWhile (· == c)).length + 1)
        cases none.symm.trans asks
      exact ⟨_, _, .unsupported (isPatternLetter_eq c ▸ letter) unknown⟩
  | case7 c rest notQuote notLetter ih =>
      obtain ⟨pieces, defect, scans⟩ := ih
      rw [isPatternLetter_eq, Bool.not_eq_true] at notLetter
      exact ⟨_, _, .literal notQuote notLetter scans⟩

theorem translatePattern_eq_error_iff {e : PatternError} :
    translatePattern cs = .error e ↔ ∃ pieces, Scans cs pieces (some e) := by
  constructor
  · intro refused
    obtain ⟨pieces, defect, scans⟩ := exists_scans cs
    have outcome := scans.translatePattern_eq.symm.trans refused
    cases defect with
    | none => cases outcome
    | some e =>
        cases outcome
        exact ⟨pieces, scans⟩
  · rintro ⟨pieces, scans⟩
    exact scans.translatePattern_eq

theorem translatePattern_eq_ok_iff {format : List Char} :
    translatePattern cs = .ok format ↔ ∃ pieces, Scans cs pieces none ∧
    format = pieces.flatMap Piece.code := by
  constructor
  · intro done
    obtain ⟨pieces, defect, scans⟩ := exists_scans cs
    have outcome := scans.translatePattern_eq.symm.trans done
    cases defect with
    | none => exact ⟨pieces, scans, (Except.ok.inj outcome).symm⟩
    | some e => cases outcome
  · rintro ⟨pieces, scans, rfl⟩
    exact scans.translatePattern_eq

theorem formatPattern_of_scans {pattern : String} (scans : Scans pattern.toList pieces none) (t : DateTime) :
    formatPattern t pattern = .ok (String.ofList (render t pieces)) := by
  rw [formatPattern, scans.translatePattern_eq]
  show Except.ok (String.ofList ((formatText t (pieces.flatMap Piece.code)).getD [])) = _
  rw [formatText, readFormat_codes, Option.map_some, Option.getD_some]

theorem formatPattern_of_defect {pattern : String} {e : PatternError}
    (scans : Scans pattern.toList pieces (some e)) (t : DateTime) : formatPattern t pattern = .error e := by
  rw [formatPattern, scans.translatePattern_eq]
  rfl

end Scanning

end CardExpr.Calendar
