import CardExpr.Calendar.Text

/-! Date patterns such as `yyyy-MM-dd`, and the format strings that they are translated to. -/

namespace CardExpr.Calendar

/-- What asks for the field in a format string. A minus takes the padding away. -/
def Field.specifier : Field → String
  | .year => "%Y"
  | .yearOfCentury => "%y"
  | .month => "%-m"
  | .monthPadded => "%m"
  | .monthShort => "%b"
  | .monthName => "%B"
  | .day => "%-d"
  | .dayPadded => "%d"
  | .hour => "%-H"
  | .hourPadded => "%H"
  | .hourOfHalf => "%-I"
  | .hourOfHalfPadded => "%I"
  | .minute => "%-M"
  | .minutePadded => "%M"
  | .second => "%-S"
  | .secondPadded => "%S"
  | .millis => "%3f"
  | .halfOfDay => "%p"
  | .weekdayShort => "%a"
  | .weekdayName => "%A"
  | .zoneName => "%Z"
  | .zoneOffset => "%z"

def paddedField? : Char → Option Field
  | 'Y' => some .year
  | 'y' => some .yearOfCentury
  | 'm' => some .monthPadded
  | 'b' => some .monthShort
  | 'B' => some .monthName
  | 'd' => some .dayPadded
  | 'H' => some .hourPadded
  | 'I' => some .hourOfHalfPadded
  | 'M' => some .minutePadded
  | 'S' => some .secondPadded
  | 'p' => some .halfOfDay
  | 'a' => some .weekdayShort
  | 'A' => some .weekdayName
  | 'Z' => some .zoneName
  | 'z' => some .zoneOffset
  | _ => none

def unpaddedField? : Char → Option Field
  | 'm' => some .month
  | 'd' => some .day
  | 'H' => some .hour
  | 'I' => some .hourOfHalf
  | 'M' => some .minute
  | 'S' => some .second
  | _ => none

/-- The pieces of a format string. A percent sign asks for a field, or with a second one for itself. Only the
fields above are read; what asks for any other is refused. -/
def readFormat : List Char → Option (List Piece)
  | [] => some []
  | ['%'] => none
  | '%' :: '%' :: rest => (readFormat rest).map (.literal '%' :: ·)
  | '%' :: '-' :: c :: rest =>
    (unpaddedField? c).bind fun f => (readFormat rest).map (.field f :: ·)
  | '%' :: '3' :: 'f' :: rest => (readFormat rest).map (.field .millis :: ·)
  | '%' :: c :: rest => (paddedField? c).bind fun f => (readFormat rest).map (.field f :: ·)
  | c :: rest => (readFormat rest).map (.literal c :: ·)

def formatText (t : DateTime) (format : List Char) : Option (List Char) :=
  (readFormat format).map (render t)

inductive PatternError where
  | unterminatedQuote
  | unsupportedLetter (letter : Char)
  deriving DecidableEq, Repr

def PatternError.message : PatternError → String
  | .unterminatedQuote => "unterminated quote in date pattern"
  | .unsupportedLetter c => "unsupported date pattern letter '" ++ String.singleton c ++ "'"

def fieldOf? (letter : Char) (run : Nat) : Option Field :=
  match letter with
  | 'y' => some (if run = 2 then .yearOfCentury else .year)
  | 'M' =>
    some (if run = 1 then .month else if run = 2 then .monthPadded
      else if run = 3 then .monthShort else .monthName)
  | 'd' => some (if run = 1 then .day else .dayPadded)
  | 'H' => some (if run = 1 then .hour else .hourPadded)
  | 'h' => some (if run = 1 then .hourOfHalf else .hourOfHalfPadded)
  | 'm' => some (if run = 1 then .minute else .minutePadded)
  | 's' => some (if run = 1 then .second else .secondPadded)
  | 'S' => some .millis
  | 'a' => some .halfOfDay
  | 'E' => some (if run ≤ 3 then .weekdayShort else .weekdayName)
  | 'z' => some .zoneName
  | 'Z' => some .zoneOffset
  | _ => none

def isPatternLetter (c : Char) : Bool :=
  decide ('a' ≤ c ∧ c ≤ 'z') || decide ('A' ≤ c ∧ c ≤ 'Z')

/-- A character that stands for itself, as a format string has it. -/
def literalCode (c : Char) : List Char := if c = '%' then ['%', '%'] else [c]

/-- The format string of a pattern. Text between quotes is copied, and two quotes together are one; a run
of one letter is a field. -/
def translatePattern : List Char → Except PatternError (List Char)
  | [] => .ok []
  | c :: rest =>
    if c = '\'' then
      if rest.head? = some '\'' then (translatePattern rest.tail).map ('\'' :: ·)
      else if rest.contains '\'' then
        (translatePattern (rest.dropWhile (· != '\'')).tail).map
          ((rest.takeWhile (· != '\'')).flatMap literalCode ++ ·)
      else .error .unterminatedQuote
    else if isPatternLetter c then
      match fieldOf? c ((rest.takeWhile (· == c)).length + 1) with
      | some f => (translatePattern (rest.dropWhile (· == c))).map (f.specifier.toList ++ ·)
      | none => .error (.unsupportedLetter c)
    else (translatePattern rest).map (literalCode c ++ ·)
termination_by cs => cs.length
decreasing_by
  · simp only [List.length_tail, List.length_cons]
    omega
  · have shorter := (List.dropWhile_suffix (l := rest) (· != '\'')).length_le
    simp only [List.length_tail, List.length_cons]
    omega
  · have shorter := (List.dropWhile_suffix (l := rest) (· == c)).length_le
    simp only [List.length_cons]
    omega
  · simp only [List.length_cons]
    omega

/-- Translated patterns are formats, so there is a text of each. -/
def formatPattern (t : DateTime) (pattern : String) : Except PatternError String :=
  (translatePattern pattern.toList).map fun format =>
    String.ofList ((formatText t format).getD [])

end CardExpr.Calendar
