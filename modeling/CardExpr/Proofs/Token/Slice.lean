import CardExpr.Proofs.Token.RoundTrip
import Mathlib.Data.List.TakeWhile

/-!
What one step takes off the characters: blanks inside a span, then a spelling of its token, which may stand
where it does.
-/

namespace CardExpr.Spelling

open Lexer

/-- The character that a backslash before this one stands for. -/
def unescape? (quoted : Bool) : Char → Option Char
  | '\\' => some '\\'
  | '@' => some '@'
  | '\'' => if quoted then some '\'' else none
  | '"' => if quoted then some '"' else none
  | 'n' => if quoted then some '\n' else none
  | 't' => if quoted then some '\t' else none
  | 'r' => if quoted then some '\r' else none
  | _ => none

/-- The characters, with their escapes resolved, are the text. Outside quotes a backslash that escapes
nothing stands for itself. -/
inductive Decodes (quoted : Bool) : List Char → List Char → Prop where
  | done : Decodes quoted [] []
  | plain {c : Char} {cs text : List Char} (noBackslash : c ≠ '\\')
      (noSpan : ¬ (c = '@' ∧ cs.head? = some '\x7b')) (noQuote : ¬ (c = '\'' ∧ quoted = true))
      (rest : Decodes quoted cs text) : Decodes quoted (c :: cs) (c :: text)
  | escape {c d : Char} {cs text : List Char} (known : unescape? quoted c = some d)
      (rest : Decodes quoted cs text) : Decodes quoted ('\\' :: c :: cs) (d :: text)
  | backslash {cs text : List Char} (unquoted : quoted = false)
      (lone : ∀ c ∈ cs.head?, unescape? quoted c = none) (rest : Decodes quoted cs text) :
      Decodes quoted ('\\' :: cs) ('\\' :: text)

def IsDigits (cs : List Char) : Prop := cs ≠ [] ∧ ∀ c ∈ cs, Decimal.isDigit c = true

/-- A point with digits behind it, or nothing. -/
inductive IsFraction : List Char → Prop where
  | none : IsFraction []
  | point {ds : List Char} (digits : IsDigits ds) : IsFraction ('.' :: ds)

/-- A letter, a sign if there is one, and digits, or nothing. -/
inductive IsExponent : List Char → Prop where
  | none : IsExponent []
  | power {e : Char} {sign ds : List Char} (letter : e = 'e' ∨ e = 'E')
      (signed : sign = [] ∨ sign = ['+'] ∨ sign = ['-']) (digits : IsDigits ds) :
      IsExponent (e :: (sign ++ ds))

/-- A token whose only spelling is its `word`. -/
inductive Fixed : TokenKind → Prop where
  | boolean (b : Bool) : Fixed (.boolean b)
  | identifier (name : String) (isName : IsName name) : Fixed (.identifier name)
  | symbol (k : TokenKind) (isSymbol : isSymbol k = true) : Fixed k
  | templateStart : Fixed .templateStart
  | templateEnd : Fixed .templateEnd
  | spanStart : Fixed .spanStart
  | spanEnd : Fixed .spanEnd

/-- The characters spell the token where these constructs are open: a text with escapes, an integer in any
digits, a number with a fraction or an exponent, and all else in one way. -/
inductive Spells (opened : List Frame) : TokenKind → List Char → Prop where
  | text {content : String} {cs : List Char} (decodes : Decodes (opened.head? == some .quote)
      cs content.toList) :
      Spells opened (.text content) cs
  | integer {n : Int64} {cs : List Char} (digits : IsDigits cs) (value : Decimal.natOfDigits cs = n.toInt) :
      Spells opened (.integer n) cs
  | number {x : Float} {whole fraction exponent : List Char} (digits : IsDigits whole)
      (isFraction : IsFraction fraction) (isExponent : IsExponent exponent)
      (either : fraction ++ exponent ≠ [])
      (value : Decimal.readFloat ((whole ++ fraction ++ exponent).map Char.toLower) = some x) :
      Spells opened (.number x) (whole ++ fraction ++ exponent)
  | fixed {k : TokenKind} (isFixed : Fixed k) : Spells opened k (word opened k)

def isInner : TokenKind → Bool
  | .templateStart => false
  | .templateEnd => false
  | .text _ => false
  | .spanStart => false
  | .spanEnd => false
  | .endOfInput => false
  | _ => true

/-- Where a token may stand: text and spans directly in the source or in quotes, and all else, with the
quotes themselves, directly in a span. -/
inductive Admits : List Frame → TokenKind → Prop where
  | text {opened : List Frame} {content : String} (outside : opened.head? ≠ some .span)
      (present : content ≠ "") : Admits opened (.text content)
  | spanStart {opened : List Frame} (outside : opened.head? ≠ some .span) : Admits opened .spanStart
  | spanEnd {outer : List Frame} : Admits (.span :: outer) .spanEnd
  | quote {outer : List Frame} : Admits (.span :: outer) .templateStart
  | unquote {outer : List Frame} : Admits (.quote :: outer) .templateEnd
  | inner {outer : List Frame} {k : TokenKind} (isInner : isInner k = true) : Admits (.span :: outer) k

/-- The characters, of which there is at least one, spell the token, and it may stand here. -/
structure Piece (opened : List Frame) (k : TokenKind) (cs : List Char) : Prop where
  admits : Admits opened k
  spells : Spells opened k cs
  present : cs ≠ []

theorem exists_of_map_eq_ok {α β ε : Type} {f : α → β} {x : Except ε α} {y : β} (done : x.map f = .ok y) :
    ∃ a, x = .ok a ∧ f a = y := by
  cases x with
  | error e => cases done
  | ok a => exact ⟨a, rfl, Except.ok.inj done⟩

def TakesText (quoted : Bool) (offset : Nat) (cs text : List Char) (next : Nat) (rest : List Char) : Prop :=
  ∃ taken, cs = taken ++ rest ∧ next = offset + taken.length ∧ Decodes quoted taken text ∧
    EndsText quoted rest

section Text

variable {quoted : Bool} {offset next : Nat} {cs text rest : List Char}

theorem takesText_nothing (ends : EndsText quoted cs) : TakesText quoted offset cs [] offset cs :=
  ⟨[], rfl, rfl, .done, ends⟩

theorem TakesText.plain {c : Char} (noBackslash : c ≠ '\\') (noSpan : ¬ (c = '@' ∧ cs.head? = some '\x7b'))
    (noQuote : ¬ (c = '\'' ∧ quoted = true)) (further : TakesText quoted (offset + 1) cs text next rest) :
    TakesText quoted offset (c :: cs) (c :: text) next rest := by
  obtain ⟨taken, rfl, rfl, decodes, ends⟩ := further
  refine ⟨c :: taken, rfl, by rw [List.length_cons]; omega, .plain noBackslash ?_ noQuote decodes, ends⟩
  rintro ⟨at_, brace⟩
  refine noSpan ⟨at_, ?_⟩
  rw [List.head?_append, brace]
  rfl

theorem TakesText.escape {c d : Char} (known : unescape? quoted c = some d)
    (further : TakesText quoted (offset + 2) cs text next rest) :
    TakesText quoted offset ('\\' :: c :: cs) (d :: text) next rest := by
  obtain ⟨taken, rfl, rfl, decodes, ends⟩ := further
  refine ⟨'\\' :: c :: taken, rfl, ?_, .escape known decodes, ends⟩
  rw [List.length_cons, List.length_cons]
  omega

theorem TakesText.backslash (lone : ∀ c ∈ cs.head?, unescape? false c = none)
    (further : TakesText false (offset + 1) cs text next rest) :
    TakesText false offset ('\\' :: cs) ('\\' :: text) next rest := by
  obtain ⟨taken, rfl, rfl, decodes, ends⟩ := further
  refine ⟨'\\' :: taken, rfl, by rw [List.length_cons]; omega, .backslash rfl (fun c first => ?_)
    decodes, ends⟩
  refine lone c ?_
  rw [List.head?_append, Option.mem_def.mp first]
  rfl

end Text

theorem unescape?_eq_none {c : Char} (noBackslash : c ≠ '\\') (noAt : c ≠ '@') :
    unescape? false c = none := by
  unfold unescape?
  split <;> first | rfl | contradiction

theorem readText_eq_ok {quote : Option Nat} {offset next : Nat} {cs text rest : List Char}
    (read : readText quote offset cs = .ok (text, next, rest)) :
    TakesText quote.isSome offset cs text next rest := by
  fun_induction readText quote offset cs generalizing text
  case case1 =>
    cases read
    exact takesText_nothing .done
  case case2 offset c cs span =>
    cases read
    obtain ⟨rfl, brace⟩ := span
    obtain ⟨more, rfl⟩ := List.head?_eq_some_iff.mp brace
    exact takesText_nothing (.span more)
  case case3 offset c cs noSpan close =>
    cases read
    obtain ⟨rfl, inQuotes⟩ := close
    exact takesText_nothing (.quote inQuotes cs)
  case case4 offset c cs noSpan noQuote noBackslash ih =>
    obtain ⟨⟨t, n, r⟩, inner, same⟩ := exists_of_map_eq_ok read
    cases same
    exact .plain noBackslash noSpan noQuote (ih inner)
  case case12 | case13 => cases read
  case case14 offset c noQuote backslash cs noBackslash noAt unquoted noSpan ih =>
    obtain ⟨⟨t, n, r⟩, inner, same⟩ := exists_of_map_eq_ok read
    cases same
    cases not_not.mp backslash
    subst unquoted
    refine .backslash (fun d first => ?_) (ih inner)
    obtain ⟨more, rfl⟩ := List.head?_eq_some_iff.mp first
    exact unescape?_eq_none (fun same => noBackslash more (same ▸ rfl)) fun same => noAt more (same ▸ rfl)
  case case5 offset c noQuote backslash cs noSpan ih | case6 offset c noQuote backslash cs noSpan ih =>
    obtain ⟨⟨t, n, r⟩, inner, same⟩ := exists_of_map_eq_ok read
    cases same
    cases not_not.mp backslash
    exact .escape rfl (ih inner)
  all_goals
    rename_i backslash start cs inQuotes noSpan ih
    obtain ⟨⟨t, n, r⟩, inner, same⟩ := exists_of_map_eq_ok read
    cases same
    cases not_not.mp backslash
    subst inQuotes
    exact .escape rfl (ih inner)

theorem span_eq {p : Char → Bool} {cs front rest : List Char} (cut : cs.span p = (front, rest)) :
    cs = front ++ rest ∧ ∀ c ∈ front, p c = true := by
  rw [List.span_eq_takeWhile_dropWhile] at cut
  cases cut
  exact ⟨(List.takeWhile_append_dropWhile).symm, fun c member => List.mem_takeWhile_imp member⟩

theorem operator?_eq_some (opened : List Frame) {cs rest : List Char} {k : TokenKind} {width : Nat}
    (found : operator? cs = some (k, width, rest)) :
    isSymbol k = true ∧ cs = word opened k ++ rest ∧ width = (word opened k).length := by
  unfold operator? at found
  split at found
  all_goals
    cases found
    try exact ⟨rfl, rfl, rfl⟩

theorem readFraction_eq {cs fraction rest : List Char} (read : readFraction cs = (fraction, rest)) :
    cs = fraction ++ rest ∧ IsFraction fraction := by
  unfold readFraction at read
  split at read
  next d more =>
    split at read
    next digit =>
      cases cut : (d :: more).span Decimal.isDigit with
      | mk digits behind =>
          rw [cut] at read
          cases read
          obtain ⟨same, all⟩ := span_eq cut
          refine ⟨congrArg ('.' :: ·) same, .point ⟨?_, all⟩⟩
          rintro rfl
          rw [List.span_eq_takeWhile_dropWhile, List.takeWhile_cons_of_pos digit] at cut
          cases cut
    next =>
      cases read
      exact ⟨rfl, .none⟩
  next =>
    cases read
    exact ⟨rfl, .none⟩

theorem toLower_of_isDigit {c : Char} (digit : Decimal.isDigit c = true) : c.toLower = c := by
  simp only [Decimal.isDigit, Char.le_def, UInt32.le_iff_toNat_le, decide_eq_true_eq] at digit
  unfold Char.toLower
  rw [dif_neg]
  rintro ⟨above, -⟩
  have nine : '9'.val.toNat < 'A'.val.toNat := by decide
  exact absurd (UInt32.le_iff_toNat_le.mp above) (by omega)

theorem map_toLower_of_digits {cs : List Char} (all : ∀ c ∈ cs, Decimal.isDigit c = true) :
    cs.map Char.toLower = cs :=
  (List.map_congr_left fun c member => toLower_of_isDigit (all c member)).trans (List.map_id' cs)

theorem readExponent_eq {cs exponent rest : List Char} (read : readExponent cs = (exponent, false, rest)) :
    ∃ taken, cs = taken ++ rest ∧ IsExponent taken ∧ taken.map Char.toLower = exponent := by
  unfold readExponent at read
  split at read
  next c more =>
    split at read
    next letter =>
      split at read
      next sign tail signed =>
        have parts : more = sign ++ tail ∧ (sign = [] ∨ sign = ['+'] ∨ sign = ['-']) := by
          split at signed
          · cases signed
            exact ⟨rfl, .inr (.inl rfl)⟩
          · cases signed
            exact ⟨rfl, .inr (.inr rfl)⟩
          · cases signed
            exact ⟨rfl, .inl rfl⟩
        obtain ⟨rfl, isSign⟩ := parts
        cases cut : tail.span Decimal.isDigit with
        | mk digits behind =>
            obtain ⟨rfl, all⟩ := span_eq cut
            rw [cut] at read
            simp only [Prod.mk.injEq, List.isEmpty_eq_false_iff] at read
            obtain ⟨rfl, present, rfl⟩ := read
            refine ⟨c :: (sign ++ digits), by simp, .power letter isSign ⟨present, all⟩, ?_⟩
            have small : c.toLower = 'e' := by
              rcases letter with rfl | rfl
              · rfl
              · rfl
            have same : sign.map Char.toLower = sign := by
              rcases isSign with rfl | rfl | rfl
              · rfl
              · rfl
              · rfl
            rw [List.map_cons, List.map_append, small, same, map_toLower_of_digits all, List.cons_append]
    next =>
      cases read
      exact ⟨[], rfl, .none, rfl⟩
  next =>
    cases read
    exact ⟨[], rfl, .none, rfl⟩

theorem IsFraction.map_toLower {cs : List Char} (isFraction : IsFraction cs) : cs.map Char.toLower = cs := by
  cases isFraction with
  | none => rfl
  | point digits => exact congrArg ('.' :: ·) (map_toLower_of_digits digits.2)

theorem readInteger_eq_some {cs : List Char} {n : Int64} (digits : IsDigits cs)
    (read : Decimal.readInteger cs = some n) : Decimal.natOfDigits cs = n.toInt := by
  obtain ⟨present, all⟩ := digits
  have sign : Decimal.takeSign cs = (false, cs) := by
    unfold Decimal.takeSign
    split
    · exact absurd (all '-' List.mem_cons_self) (by decide)
    · exact absurd (all '+' List.mem_cons_self) (by decide)
    · rfl
  have allDigits : cs.all Decimal.isDigit = true := List.all_eq_true.mpr all
  unfold Decimal.readInteger at read
  simp only [sign, List.isEmpty_eq_false_iff.mpr present, allDigits, Bool.not_true, Bool.or_self,
    Bool.false_eq_true, if_false, Decimal.int64?] at read
  split at read
  next range =>
    cases read
    exact (Int64.toInt_ofInt_of_le range.1 (Int.lt_of_le_of_lt range.2 (by decide))).symm
  next => cases read

theorem readLiteral_eq (opened : List Frame) {c : Char} {cs rest : List Char} {literal : Literal}
    {k : TokenKind} (digit : Decimal.isDigit c = true) (read : readLiteral (c :: cs) = (literal, rest))
    (kind : literal.kind? = some k) :
    ∃ taken, c :: cs = taken ++ rest ∧ taken ≠ [] ∧ isInner k = true ∧ Spells opened k taken := by
  unfold readLiteral at read
  cases wholes : (c :: cs).span Decimal.isDigit with | mk whole afterWhole =>
  cases fractions : readFraction afterWhole with | mk fraction afterFraction =>
  cases exponents : readExponent afterFraction with | mk exponent afterExponent =>
  obtain ⟨noDigits, afterExponent⟩ := afterExponent
  cases glues : afterExponent.span isNameChar with | mk glued behind =>
  simp only [wholes, fractions, exponents, glues] at read
  cases read
  unfold Literal.kind? at kind
  split at kind
  · cases kind
  next good =>
    simp only [Bool.or_eq_true, Bool.not_eq_true', List.isEmpty_eq_false_iff, not_or, not_not,
      Bool.not_eq_true] at good
    obtain ⟨rfl, rfl⟩ := good
    obtain ⟨start, digits⟩ := span_eq wholes
    have present : whole ≠ [] := by
      rintro rfl
      rw [List.span_eq_takeWhile_dropWhile, List.takeWhile_cons_of_pos digit] at wholes
      cases wholes
    obtain ⟨rfl, isFraction⟩ := readFraction_eq fractions
    obtain ⟨power, rfl, isExponent, small⟩ := readExponent_eq exponents
    obtain ⟨rfl, -⟩ := span_eq glues
    simp only [List.append_nil] at kind
    refine ⟨whole ++ fraction ++ power, by simp [start], by simp [present], ?_⟩
    split at kind
    next fractional =>
      obtain ⟨x, value, rfl⟩ := Option.map_eq_some_iff.mp kind
      have either : fraction ++ power ≠ [] := by
        rw [← small] at fractional
        simpa using fractional
      have same : (whole ++ fraction ++ power).map Char.toLower = whole ++ fraction ++ exponent := by
        rw [List.map_append, List.map_append, map_toLower_of_digits digits, isFraction.map_toLower, small]
      exact ⟨rfl, .number ⟨present, digits⟩ isFraction isExponent either (same ▸ value)⟩
    next integral =>
      obtain ⟨n, value, rfl⟩ := Option.map_eq_some_iff.mp kind
      rw [← small] at integral value
      have nothing : fraction = [] ∧ power = [] := by simpa using integral
      obtain ⟨rfl, rfl⟩ := nothing
      simp only [List.map_nil, List.append_nil] at value ⊢
      exact ⟨rfl, .integer ⟨present, digits⟩ (readInteger_eq_some ⟨present, digits⟩ value)⟩

theorem nameKind_eq (opened : List Frame) {c : Char} {cs : List Char} (begins : isNameStart c = true)
    (all : ∀ d ∈ c :: cs, isNameChar d = true) :
    isInner (nameKind (c :: cs)) = true ∧ Spells opened (nameKind (c :: cs)) (c :: cs) := by
  have spelled (b : Bool) (same : String.ofList (c :: cs) = boolText b) :
      Spells opened (.boolean b) (c :: cs) := by
    have whole : c :: cs = word opened (.boolean b) := by
      show c :: cs = (boolText b).toList
      rw [← same, String.toList_ofList]
    rw [whole]
    exact .fixed (.boolean b)
  unfold nameKind
  dsimp only
  split
  next same => exact ⟨rfl, spelled true same⟩
  next notTrue =>
    split
    next same => exact ⟨rfl, spelled false same⟩
    next notFalse =>
      have isName : IsName (String.ofList (c :: cs)) := by
        refine ⟨⟨c, cs, String.toList_ofList, (isNameStart_iff c).mp begins⟩, ?_, notTrue, notFalse⟩
        rw [String.toList_ofList]
        exact fun d member => (isNameChar_iff d).mp (all d member)
      have whole : c :: cs = word opened (.identifier (String.ofList (c :: cs))) :=
        String.toList_ofList.symm
      refine ⟨rfl, ?_⟩
      nth_rewrite 2 [whole]
      exact .fixed (.identifier _ isName)

theorem isInner_of_isSymbol {k : TokenKind} (symbol : isSymbol k = true) : isInner k = true := by
  cases k <;> first | rfl | cases symbol

theorem word_ne_nil_of_isSymbol {opened : List Frame} {k : TokenKind} (symbol : isSymbol k = true) :
    word opened k ≠ [] := by
  cases k <;> first | exact List.cons_ne_nil _ _ | cases symbol

theorem after_inner (opened : List Frame) {k : TokenKind} (inner : isInner k = true) :
    after opened k = opened := by
  unfold after
  split <;> first | rfl | cases inner

theorem after_text (opened : List Frame) (content : String) : after opened (.text content) = opened := by
  unfold after
  split <;> first | rfl | contradiction

theorem Decodes.text_ne_nil {quoted : Bool} {cs text : List Char} (decodes : Decodes quoted cs text)
    (present : cs ≠ []) : text ≠ [] := by
  cases decodes with
  | done => exact absurd rfl present
  | _ => exact List.cons_ne_nil _ _

/-- The step takes a piece off the characters. Behind a text there is what ends one. -/
inductive Takes (opened : List Opened) (offset : Nat) : List Char → Step → Prop where
  | intro {taken rest : List Char} {k : TokenKind} {further : List Opened}
      (piece : Piece (opened.map Frame.ofOpened) k taken)
      (frames : further.map Frame.ofOpened = after (opened.map Frame.ofOpened) k)
      (ends : ∀ content, k = .text content →
        EndsText ((opened.map Frame.ofOpened).head? == some .quote) rest) :
      Takes opened offset (taken ++ rest) ⟨⟨k, offset⟩, further, offset + taken.length, rest⟩

theorem Takes.inner {start offset : Nat} {outer : List Opened} {taken rest : List Char} {k : TokenKind}
    (isInner : isInner k = true) (spells : Spells (.span :: outer.map Frame.ofOpened) k taken)
    (present : taken ≠ []) :
    Takes (.span start :: outer) offset (taken ++ rest)
      ⟨⟨k, offset⟩, .span start :: outer, offset + taken.length, rest⟩ := by
  refine .intro ⟨.inner isInner, spells, present⟩ (after_inner _ isInner).symm ?_
  rintro content rfl
  cases isInner

theorem spanStep_eq_ok {start offset : Nat} {outer : List Opened} {cs : List Char} {s : Step}
    (done : spanStep start outer offset cs = .ok s) : Takes (.span start :: outer) offset cs s := by
  cases cs with
  | nil => cases done
  | cons c rest =>
      unfold spanStep at done
      simp only at done
      split at done
      next close =>
        subst close
        cases done
        exact @Takes.intro _ _ ['\x7d'] rest .spanEnd _ ⟨.spanEnd, .fixed .spanEnd, nofun⟩ rfl nofun
      split at done
      next quote =>
        subst quote
        cases done
        exact @Takes.intro _ _ ['\''] rest .templateStart _ ⟨.quote, .fixed .templateStart, nofun⟩ rfl nofun
      split at done
      next k width behind found =>
        cases done
        obtain ⟨symbol, same, rfl⟩ := operator?_eq_some (.span :: outer.map Frame.ofOpened) found
        rw [same]
        exact .inner (isInner_of_isSymbol symbol) (.fixed (.symbol k symbol)) (word_ne_nil_of_isSymbol symbol)
      split at done
      next digit =>
        cases read : readLiteral (c :: rest) with
        | mk literal behind =>
            simp only [read] at done
            split at done
            next k kind =>
              cases done
              obtain ⟨taken, same, present, inner, spells⟩ := readLiteral_eq _ digit read kind
              rw [same, List.length_append, Nat.add_sub_cancel]
              exact .inner inner spells present
            next => cases done
      split at done
      next begins =>
        cases cut : (c :: rest).span isNameChar with
        | mk name behind =>
            rw [cut] at done
            cases done
            obtain ⟨same, all⟩ := span_eq cut
            obtain ⟨more, rfl⟩ : ∃ more, name = c :: more := by
              have first : isNameChar c = true := by
                unfold isNameChar
                rw [begins, Bool.true_or]
              rw [List.span_eq_takeWhile_dropWhile, List.takeWhile_cons_of_pos first] at cut
              exact ⟨_, (Prod.mk.inj cut).1.symm⟩
            obtain ⟨inner, spells⟩ := nameKind_eq (.span :: outer.map Frame.ofOpened) begins all
            rw [same]
            exact .inner inner spells (List.cons_ne_nil c more)
      next => cases done

theorem templateStep_eq_ok {quote : Option Nat} {opened : List Opened} {offset : Nat}
    {cs : List Char} {s : Step} (quoted : quote.isSome = ((opened.map Frame.ofOpened).head? == some .quote))
    (outside : (opened.map Frame.ofOpened).head? ≠ some .span) (present : cs ≠ [])
    (goesOn : ∀ rest, cs = '\'' :: rest → quote.isSome = false)
    (done : templateStep quote opened offset cs = .ok s) : Takes opened offset cs s := by
  unfold templateStep at done
  split at done
  next rest =>
    cases done
    exact @Takes.intro _ _ ['@', '\x7b'] rest .spanStart _ ⟨.spanStart outside, .fixed .spanStart, nofun⟩ rfl
      nofun
  next noSpan =>
    cases read : readText quote offset cs with
    | error e =>
        rw [read] at done
        cases done
    | ok result =>
        obtain ⟨text, next, rest⟩ := result
        rw [read] at done
        cases done
        obtain ⟨taken, rfl, rfl, decodes, ends⟩ := readText_eq_ok read
        have consumed : taken ≠ [] := by
          rintro rfl
          cases ends with
          | done => exact present rfl
          | span more => exact noSpan more rfl
          | quote inQuotes more => exact nomatch inQuotes.symm.trans (goesOn more rfl)
        have nonempty : String.ofList text ≠ "" := fun same =>
          decodes.text_ne_nil consumed (by simpa using congrArg String.toList same)
        have spells : Spells (opened.map Frame.ofOpened) (.text (String.ofList text)) taken := by
          refine .text ?_
          rw [String.toList_ofList, ← quoted]
          exact decodes
        exact .intro ⟨.text outside nonempty, spells, consumed⟩ (after_text _ _).symm fun _ _ => quoted ▸ ends

theorem step_eq_some {opened : List Opened} {offset : Nat} {cs : List Char} {s : Step}
    (done : step opened offset cs = .ok (some s)) :
    ∃ blanks behind, cs = blanks ++ behind ∧ (∀ c ∈ blanks, Text.isBlank c = true) ∧
      (blanks ≠ [] → (opened.map Frame.ofOpened).head? = some .span) ∧
      Takes opened (offset + blanks.length) behind s := by
  unfold step at done
  split at done
  · cases done
  next present =>
    obtain ⟨s, inner, same⟩ := exists_of_map_eq_ok done
    cases same
    exact ⟨[], cs, rfl, nofun, nofun, templateStep_eq_ok rfl nofun present (fun _ _ => rfl) inner⟩
  · cases done
  next start outer c rest =>
    split at done
    next close =>
      subst close
      cases done
      exact ⟨[], _, rfl, nofun, nofun,
        @Takes.intro _ _ ['\''] rest .templateEnd _ ⟨.unquote, .fixed .templateEnd, nofun⟩ rfl nofun⟩
    next open_ =>
      obtain ⟨s, inner, same⟩ := exists_of_map_eq_ok done
      cases same
      refine ⟨[], _, rfl, nofun, nofun, templateStep_eq_ok rfl nofun nofun ?_ inner⟩
      rintro more same
      cases same
      exact absurd rfl open_
  next start outer =>
    obtain ⟨s, inner, same⟩ := exists_of_map_eq_ok done
    cases same
    have parts : cs.takeWhile Text.isBlank ++ Text.trimStart cs = cs := List.takeWhile_append_dropWhile
    have width : cs.length - (Text.trimStart cs).length = (cs.takeWhile Text.isBlank).length := by
      have total := congrArg List.length parts
      rw [List.length_append] at total
      omega
    rw [width] at inner
    exact ⟨_, _, parts.symm, fun c member => List.mem_takeWhile_imp member, fun _ => rfl,
      spanStep_eq_ok inner⟩

end CardExpr.Spelling
