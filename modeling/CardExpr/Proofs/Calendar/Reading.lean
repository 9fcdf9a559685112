import CardExpr.Proofs.Calendar.RoundTrip
import Mathlib.Data.List.DropRight

/-!
The texts of instants. A text is read as an instant where its digits give the fields of one, with nothing but
hyphens, colons and blanks between them.
-/

namespace CardExpr.Calendar

/-- At most so many digits, behind any blanks. -/
inductive SpellsNumber (width : Nat) : List Char → Nat → Prop where
  | intro {blanks digits : List Char} (blank : ∀ c ∈ blanks, Text.isBlank c = true) (present : digits ≠ [])
      (fits : digits.length ≤ width) (decimal : ∀ c ∈ digits, Decimal.isDigit c = true) :
      SpellsNumber width (blanks ++ digits) (Decimal.natOfDigits digits)

inductive SpellsYear : List Char → Int → Prop where
  | plain {text : List Char} {n : Nat} (spells : SpellsNumber 4 text n) : SpellsYear text n
  | after {blanks digits : List Char} (blank : ∀ c ∈ blanks, Text.isBlank c = true) (present : digits ≠ [])
      (decimal : ∀ c ∈ digits, Decimal.isDigit c = true) :
      SpellsYear (blanks ++ '+' :: digits) (Decimal.natOfDigits digits)
  | before {blanks digits : List Char} (blank : ∀ c ∈ blanks, Text.isBlank c = true) (present : digits ≠ [])
      (decimal : ∀ c ∈ digits, Decimal.isDigit c = true) :
      SpellsYear (blanks ++ '-' :: digits) (-(Decimal.natOfDigits digits : Int))

/-- The second is a whole one; the sixty-first of a minute is the leap second behind its last one. -/
def IsSecond (t : DateTime) (second : Nat) : Prop :=
  t.second.val = second ∧ t.nanos.val = 0 ∨ second = 60 ∧ t.second.val = 59 ∧ t.nanos.val = 1000000000

/-- The text gives the fields of the instant one after another. What could belong to the day or to the hour is
of the day. -/
inductive SpellsInstant (text : List Char) (t : DateTime) : Prop where
  | intro {year month day hour minute second : List Char} {counted : Nat}
      (split : text = year ++ '-' :: (month ++ '-' :: (day ++ (hour ++ ':' :: (minute ++ ':' :: second)))))
      (ofYear : SpellsYear year t.date.year) (ofMonth : SpellsNumber 2 month t.date.month)
      (ofDay : SpellsNumber 2 day t.date.day)
      (longest : ∀ c ∈ hour.head?, ∀ n, ¬ SpellsNumber 2 (day ++ [c]) n)
      (ofHour : SpellsNumber 2 hour t.hour.val) (ofMinute : SpellsNumber 2 minute t.minute.val)
      (ofSecond : SpellsNumber 2 second counted) (isSecond : IsSecond t counted)

variable {width n : Nat} {cs rest : List Char} {c : Char}

theorem trimStart_cons {blanks : List Char} (blank : ∀ c ∈ blanks, Text.isBlank c = true)
    (shown : Text.isBlank c = false) (rest : List Char) : Text.trimStart (blanks ++ c :: rest) = c :: rest :=
  (Text.trimStart_append blanks _ blank).trans (Text.trimStart_of_not_blank c rest shown)

theorem trimStart_digits {blanks digits : List Char} (blank : ∀ c ∈ blanks, Text.isBlank c = true)
    (present : digits ≠ []) (decimal : ∀ c ∈ digits, Decimal.isDigit c = true) (rest : List Char) :
    Text.trimStart (blanks ++ (digits ++ rest)) = digits ++ rest := by
  obtain ⟨d, ds, rfl⟩ := List.exists_cons_of_ne_nil present
  exact trimStart_cons blank (isBlank_of_isDigit (decimal d List.mem_cons_self)) (ds ++ rest)

theorem exists_blanks (cs : List Char) :
    ∃ blanks, cs = blanks ++ Text.trimStart cs ∧ ∀ c ∈ blanks, Text.isBlank c = true :=
  ⟨cs.takeWhile Text.isBlank, (List.takeWhile_append_dropWhile).symm,
    fun _ member => List.mem_takeWhile_imp member⟩

/-- A number is known by what is left of its text without the blanks. -/
theorem spellsNumber_iff : SpellsNumber width cs n ↔
    Text.trimStart cs ≠ [] ∧ (Text.trimStart cs).length ≤ width ∧
      (∀ c ∈ Text.trimStart cs, Decimal.isDigit c = true) ∧
      Decimal.natOfDigits (Text.trimStart cs) = n := by
  constructor
  · rintro ⟨blank, present, fits, decimal⟩
    have trimmed := trimStart_digits blank present decimal []
    rw [List.append_nil] at trimmed
    rw [trimmed]
    exact ⟨present, fits, decimal, rfl⟩
  · rintro ⟨present, fits, decimal, rfl⟩
    obtain ⟨blanks, split, blank⟩ := exists_blanks cs
    have spells := SpellsNumber.intro blank present fits decimal
    rwa [← split] at spells

theorem SpellsNumber.isDigit_of_append (spells : SpellsNumber width (cs ++ [c]) n) :
    Decimal.isDigit c = true := by
  obtain ⟨present, -, decimal, -⟩ := spellsNumber_iff.mp spells
  obtain ⟨front, split⟩ : Text.trimStart (cs ++ [c]) <:+ cs ++ [c] := List.dropWhile_suffix _
  rcases List.eq_nil_or_concat (Text.trimStart (cs ++ [c])) with empty | ⟨before, last, same⟩
  · exact absurd empty present
  · rw [same, List.concat_eq_append] at split decimal
    rw [← List.append_assoc] at split
    obtain ⟨-, final⟩ := List.append_inj' split rfl
    exact (List.cons.inj final).1 ▸ decimal last (List.mem_append_right _ List.mem_cons_self)

/-- A reader takes a number as far as it goes. -/
theorem readDigits_eq_some_iff : readDigits width cs = some (n, rest) ↔
    ∃ text, cs = text ++ rest ∧ SpellsNumber width text n ∧
      ∀ c ∈ rest.head?, ∀ m, ¬ SpellsNumber width (text ++ [c]) m := by
  constructor
  · intro read
    unfold readDigits at read
    generalize trimmed : Text.trimStart cs = shown at read
    dsimp only at read
    generalize taken : (shown.takeWhile Decimal.isDigit).take width = digits at read
    split at read
    next => cases read
    next present =>
      cases read
      have nonempty : digits ≠ [] := fun empty => present (List.isEmpty_iff.mpr empty)
      have decimal : ∀ c ∈ digits, Decimal.isDigit c = true := fun c member =>
        List.mem_takeWhile_imp (List.mem_of_mem_take (taken ▸ member))
      have fits : digits.length ≤ width := taken ▸ List.length_take_le _ _
      have begins : digits <+: shown := taken ▸ (List.take_prefix _ _).trans (List.takeWhile_prefix _)
      obtain ⟨blanks, split, blank⟩ := exists_blanks cs
      refine ⟨blanks ++ digits, ?_, .intro blank nonempty fits decimal, ?_⟩
      · rw [List.append_assoc, List.prefix_iff_eq_append.mp begins, ← trimmed, ← split]
      · intro c next m more
        have digit := more.isDigit_of_append
        obtain ⟨-, within, -, -⟩ := spellsNumber_iff.mp more
        rw [List.append_assoc, trimStart_digits blank nonempty decimal, List.length_append,
          List.length_singleton] at within
        -- The digits did not fill the width, so all that there were are taken.
        have all : shown.takeWhile Decimal.isDigit = digits := by
          rw [← taken, List.length_take] at within
          rw [← taken, List.take_of_length_le (by omega)]
        have whole := List.takeWhile_append_dropWhile (p := Decimal.isDigit) (l := shown)
        rw [all] at whole
        have left : shown.drop digits.length = shown.dropWhile Decimal.isDigit :=
          List.append_cancel_left ((List.prefix_iff_eq_append.mp begins).trans whole.symm)
        have stops := List.head?_dropWhile_not Decimal.isDigit shown
        rw [← left, Option.mem_def.mp next] at stops
        cases digit.symm.trans stops
  · rintro ⟨_, rfl, @⟨blanks, digits, blank, present, fits, decimal⟩, longest⟩
    have taken : ((digits ++ rest).takeWhile Decimal.isDigit).take width = digits := by
      rw [List.takeWhile_append_of_pos decimal]
      cases rest with
      | nil => rw [List.takeWhile_nil, List.append_nil, List.take_of_length_le fits]
      | cons c more =>
          cases digit : Decimal.isDigit c with
          | false =>
              rw [List.takeWhile_cons_of_neg (by rw [digit]; decide), List.append_nil,
                List.take_of_length_le fits]
          | true =>
              -- The digits fill the width, or one more of them would still be a number.
              have full : width ≤ digits.length := by
                by_contra room
                have further : ∀ d ∈ digits ++ [c], Decimal.isDigit d = true := fun d member =>
                  (List.mem_append.mp member).elim (decimal d) fun last => List.mem_singleton.mp last ▸ digit
                have within : (digits ++ [c]).length ≤ width := by
                  rw [List.length_append, List.length_singleton]
                  omega
                have more := SpellsNumber.intro blank (List.append_ne_nil_of_left_ne_nil present _)
                  within further
                rw [← List.append_assoc] at more
                exact longest c rfl _ more
              rw [List.take_append_of_le_length full, List.take_of_length_le fits]
    unfold readDigits
    rw [List.append_assoc, trimStart_digits blank present decimal]
    dsimp only
    rw [taken, if_neg (mt List.isEmpty_iff.mp present), List.drop_left]

theorem readDigits_before (other : Decimal.isDigit c = false) :
    readDigits width cs = some (n, c :: rest) ↔
      ∃ text, cs = text ++ c :: rest ∧ SpellsNumber width text n := by
  refine readDigits_eq_some_iff.trans ⟨?_, ?_⟩
  · rintro ⟨text, split, spells, -⟩
    exact ⟨text, split, spells⟩
  · rintro ⟨text, split, spells⟩
    refine ⟨text, split, spells, fun d first m more => ?_⟩
    cases Option.mem_def.mp first
    cases other.symm.trans more.isDigit_of_append

theorem SpellsNumber.readDigits_eq (spells : SpellsNumber width cs n) (other : Decimal.isDigit c = false)
    (rest : List Char) : readDigits width (cs ++ c :: rest) = some (n, c :: rest) :=
  (readDigits_before other).mpr ⟨cs, rfl, spells⟩

theorem readDigits_last : readDigits width cs = some (n, []) ↔ SpellsNumber width cs n := by
  refine readDigits_eq_some_iff.trans ⟨?_, ?_⟩
  · rintro ⟨text, rfl, spells, -⟩
    rwa [List.append_nil]
  · intro spells
    exact ⟨cs, (List.append_nil cs).symm, spells, nofun⟩

theorem readDigits_trimStart : readDigits width (Text.trimStart cs) = readDigits width cs := by
  unfold readDigits Text.trimStart
  rw [List.dropWhile_idempotent]

theorem isDigit_hyphen : Decimal.isDigit '-' = false := by decide

theorem isDigit_colon : Decimal.isDigit ':' = false := by decide

/-- All digits that there are behind a sign are of the year. -/
theorem exists_digits_of_span (value : Nat → Int) {year : Int}
    (read : (if (cs.span Decimal.isDigit).1.isEmpty then none
      else some (value (Decimal.natOfDigits (cs.span Decimal.isDigit).1), (cs.span Decimal.isDigit).2)) =
        some (year, '-' :: rest)) :
    ∃ digits, cs = digits ++ '-' :: rest ∧ digits ≠ [] ∧ (∀ d ∈ digits, Decimal.isDigit d = true) ∧
      value (Decimal.natOfDigits digits) = year := by
  rw [List.span_eq_takeWhile_dropWhile] at read
  split at read
  next => cases read
  next present =>
    obtain ⟨value, left⟩ := Prod.mk.inj (Option.some.inj read)
    refine ⟨cs.takeWhile Decimal.isDigit, ?_, mt List.isEmpty_iff.mpr present,
      fun d member => List.mem_takeWhile_imp member, value⟩
    rw [← left, List.takeWhile_append_dropWhile]

theorem readYear_eq_some_iff {year : Int} : readYear cs = some (year, '-' :: rest) ↔
    ∃ text, cs = text ++ '-' :: rest ∧ SpellsYear text year := by
  constructor
  · intro read
    obtain ⟨blanks, split, blank⟩ := exists_blanks cs
    unfold readYear at read
    dsimp only at read
    split at read
    next trimmed =>
      obtain ⟨digits, rfl, present, decimal, rfl⟩ := exists_digits_of_span (fun n => -(n : Int)) read
      refine ⟨blanks ++ '-' :: digits, ?_, .before blank present decimal⟩
      rw [split, trimmed, List.append_assoc, List.cons_append]
    next trimmed =>
      obtain ⟨digits, rfl, present, decimal, rfl⟩ := exists_digits_of_span (fun n => (n : Int)) read
      refine ⟨blanks ++ '+' :: digits, ?_, .after blank present decimal⟩
      rw [split, trimmed, List.append_assoc, List.cons_append]
    next =>
      rw [readDigits_trimStart] at read
      obtain ⟨⟨n, left⟩, digits, same⟩ := Option.map_eq_some_iff.mp read
      cases same
      obtain ⟨text, split, spells⟩ := (readDigits_before isDigit_hyphen).mp digits
      exact ⟨text, split, .plain spells⟩
  · rintro ⟨_, rfl, spells⟩
    cases spells with
    | plain spells =>
        have read := spells.readDigits_eq isDigit_hyphen rest
        obtain ⟨blank, present, fits, decimal⟩ := spells
        obtain ⟨d, ds, rfl⟩ := List.exists_cons_of_ne_nil present
        have trimmed := trimStart_digits blank present decimal ('-' :: rest)
        rw [← List.append_assoc, List.cons_append] at trimmed
        rw [← readDigits_trimStart, trimmed] at read
        rw [readYear_unsigned trimmed (decimal d List.mem_cons_self), read]
        rfl
    | @after blanks digits blank present decimal =>
        have trimmed := trimStart_cons (c := '+') blank (by decide) (digits ++ '-' :: rest)
        rw [List.append_assoc, List.cons_append]
        exact readYear_signed false present decimal trimmed
    | @before blanks digits blank present decimal =>
        have trimmed := trimStart_cons (c := '-') blank (by decide) (digits ++ '-' :: rest)
        rw [List.append_assoc, List.cons_append]
        exact readYear_signed true present decimal trimmed

theorem expectChar_eq_some_iff : expectChar c cs = some rest ↔ cs = c :: rest := by
  cases cs with
  | nil => exact ⟨nofun, nofun⟩
  | cons d ds =>
      show (if d = c then some ds else none) = some rest ↔ _
      by_cases same : d = c
      · rw [if_pos same, same, Option.some.injEq, List.cons.injEq, eq_self, true_and]
      · rw [if_neg same]
        exact ⟨nofun, fun split => absurd (List.cons.inj split).1 same⟩

theorem Date.of?_eq_some_iff {year : Int} {month day : Nat} {d : Date} :
    Date.of? year month day = some d ↔ d.year = year ∧ d.month = month ∧ d.day = day := by
  constructor
  · intro made
    unfold Date.of? at made
    split at made
    next =>
      cases made
      exact ⟨rfl, rfl, rfl⟩
    next => cases made
  · rintro ⟨rfl, rfl, rfl⟩
    exact d.of?_self

theorem SpellsNumber.ne_nil (spells : SpellsNumber width cs n) : cs ≠ [] := by
  obtain ⟨-, present, -, -⟩ := spells
  exact List.append_ne_nil_of_right_ne_nil _ present

/-- The instant with these fields, if nothing is left of the text. -/
def assemble (date : Date) (hour minute second : Nat) (rest : List Char) : Option DateTime :=
  if hh : hour < 24 then
    if hm : minute < 60 then
      if rest.isEmpty then
        if hs : second < 60 then some ⟨date, ⟨hour, hh⟩, ⟨minute, hm⟩, ⟨second, hs⟩, DateTime.wholeSecond⟩
        else if second = 60 then
          some ⟨date, ⟨hour, hh⟩, ⟨minute, hm⟩, DateTime.lastSecond, DateTime.leapSecond⟩
        else none
      else none
    else none
  else none

theorem readDateTime_eq (text : String) : readDateTime text = (do
    let (year, rest) ← readYear text.toList
    let rest ← expectChar '-' rest
    let (month, rest) ← readDigits 2 rest
    let rest ← expectChar '-' rest
    let (day, rest) ← readDigits 2 rest
    let (hour, rest) ← readDigits 2 rest
    let rest ← expectChar ':' rest
    let (minute, rest) ← readDigits 2 rest
    let rest ← expectChar ':' rest
    let (second, rest) ← readDigits 2 rest
    let date ← Date.of? year month day
    assemble date hour minute second rest) := rfl

theorem assemble_eq_some_iff {date : Date} {hour minute second : Nat} {t : DateTime} :
    assemble date hour minute second rest = some t ↔
      rest = [] ∧ t.date = date ∧ t.hour.val = hour ∧ t.minute.val = minute ∧ IsSecond t second := by
  constructor
  · intro made
    unfold assemble at made
    split at made
    next hours =>
      split at made
      next minutes =>
        split at made
        next ended =>
          have ended := List.isEmpty_iff.mp ended
          split at made
          next seconds =>
            cases made
            exact ⟨ended, rfl, rfl, rfl, .inl ⟨rfl, rfl⟩⟩
          next =>
            split at made
            next leap =>
              cases made
              exact ⟨ended, rfl, rfl, rfl, .inr ⟨leap, rfl, rfl⟩⟩
            next => cases made
        next => cases made
      next => cases made
    next => cases made
  · obtain ⟨date, ⟨hour, hours⟩, ⟨minute, minutes⟩, ⟨second, seconds⟩, ⟨nanos, few⟩⟩ := t
    rintro ⟨rfl, rfl, rfl, rfl, ⟨rfl, whole⟩ | ⟨rfl, last, leap⟩⟩
    · cases whole
      unfold assemble
      rw [dif_pos hours, dif_pos minutes, if_pos List.isEmpty_nil, dif_pos seconds]
      rfl
    · cases last
      cases leap
      unfold assemble
      rw [dif_pos hours, dif_pos minutes, if_pos List.isEmpty_nil, dif_neg (by decide), if_pos rfl]
      rfl

theorem readDateTime_eq_some_iff (text : String) (t : DateTime) :
    readDateTime text = some t ↔ SpellsInstant text.toList t := by
  rw [readDateTime_eq]
  constructor
  · intro read
    obtain ⟨⟨year, r⟩, years, read⟩ := Option.bind_eq_some_iff.mp read
    obtain ⟨r, hyphen, read⟩ := Option.bind_eq_some_iff.mp read
    obtain ⟨⟨month, r⟩, months, read⟩ := Option.bind_eq_some_iff.mp read
    obtain ⟨r, secondHyphen, read⟩ := Option.bind_eq_some_iff.mp read
    obtain ⟨⟨day, r⟩, days, read⟩ := Option.bind_eq_some_iff.mp read
    obtain ⟨⟨hour, r⟩, hours, read⟩ := Option.bind_eq_some_iff.mp read
    obtain ⟨r, colon, read⟩ := Option.bind_eq_some_iff.mp read
    obtain ⟨⟨minute, r⟩, minutes, read⟩ := Option.bind_eq_some_iff.mp read
    obtain ⟨r, secondColon, read⟩ := Option.bind_eq_some_iff.mp read
    obtain ⟨⟨second, r⟩, seconds, read⟩ := Option.bind_eq_some_iff.mp read
    obtain ⟨date, dated, made⟩ := Option.bind_eq_some_iff.mp read
    obtain ⟨rfl, rfl, rfl, rfl, isSecond⟩ := assemble_eq_some_iff.mp made
    obtain ⟨rfl, rfl, rfl⟩ := Date.of?_eq_some_iff.mp dated
    rw [expectChar_eq_some_iff.mp hyphen] at years
    rw [expectChar_eq_some_iff.mp secondHyphen] at months
    rw [expectChar_eq_some_iff.mp colon] at hours
    rw [expectChar_eq_some_iff.mp secondColon] at minutes
    obtain ⟨year, whole, ofYear⟩ := readYear_eq_some_iff.mp years
    obtain ⟨month, rfl, ofMonth⟩ := (readDigits_before isDigit_hyphen).mp months
    obtain ⟨day, rfl, ofDay, longest⟩ := readDigits_eq_some_iff.mp days
    obtain ⟨hour, rfl, ofHour⟩ := (readDigits_before isDigit_colon).mp hours
    obtain ⟨minute, rfl, ofMinute⟩ := (readDigits_before isDigit_colon).mp minutes
    have ofSecond := readDigits_last.mp seconds
    refine .intro whole ofYear ofMonth ofDay (fun c first => longest c ?_) ofHour ofMinute ofSecond isSecond
    exact List.mem_head?_append_of_mem_head? first
  · rintro @⟨year, month, day, hour, minute, second, counted, split, ofYear, ofMonth, ofDay, longest, ofHour,
      ofMinute, ofSecond, isSecond⟩
    have years := readYear_eq_some_iff.mpr ⟨year, split, ofYear⟩
    have following : (hour ++ ':' :: (minute ++ ':' :: second)).head? = hour.head? :=
      List.head?_append_of_ne_nil hour ofHour.ne_nil
    have days := readDigits_eq_some_iff.mpr ⟨day, rfl, ofDay, fun c first => longest c (following ▸ first)⟩
    apply Option.bind_eq_some_iff.mpr ⟨_, years, ?_⟩
    apply Option.bind_eq_some_iff.mpr ⟨_, expectChar_self '-' _, ?_⟩
    apply Option.bind_eq_some_iff.mpr ⟨_, ofMonth.readDigits_eq isDigit_hyphen _, ?_⟩
    apply Option.bind_eq_some_iff.mpr ⟨_, expectChar_self '-' _, ?_⟩
    apply Option.bind_eq_some_iff.mpr ⟨_, days, ?_⟩
    apply Option.bind_eq_some_iff.mpr ⟨_, ofHour.readDigits_eq isDigit_colon _, ?_⟩
    apply Option.bind_eq_some_iff.mpr ⟨_, expectChar_self ':' _, ?_⟩
    apply Option.bind_eq_some_iff.mpr ⟨_, ofMinute.readDigits_eq isDigit_colon _, ?_⟩
    apply Option.bind_eq_some_iff.mpr ⟨_, expectChar_self ':' _, ?_⟩
    apply Option.bind_eq_some_iff.mpr ⟨_, readDigits_last.mpr ofSecond, ?_⟩
    apply Option.bind_eq_some_iff.mpr ⟨_, t.date.of?_self, ?_⟩
    exact assemble_eq_some_iff.mpr ⟨rfl, rfl, rfl, rfl, isSecond⟩

end CardExpr.Calendar
