import CardExpr.Calendar.DateTime
import CardExpr.Decimal.Reader
import CardExpr.Text.Blank

/-! Instants as text: their fields, and the one form that values are read from and written in. -/

namespace CardExpr.Calendar

def padded (width n : Nat) : List Char :=
  let digits := Nat.toDigits 10 n
  List.replicate (width - digits.length) '0' ++ digits

/-- Four digits or more; outside the four-digit years a sign comes first. -/
def yearText (year : Int) : List Char :=
  if 0 ≤ year ∧ year ≤ 9999 then padded 4 year.toNat
  else (if year < 0 then '-' else '+') :: padded 4 year.natAbs

def monthNames : List String :=
  ["January", "February", "March", "April", "May", "June", "July", "August", "September", "October",
    "November", "December"]

def weekdayNames : List String :=
  ["Monday", "Tuesday", "Wednesday", "Thursday", "Friday", "Saturday", "Sunday"]

/-- A part of an instant, in the form in which a pattern can ask for it. -/
inductive Field where
  | year
  | yearOfCentury
  | month
  | monthPadded
  | monthShort
  | monthName
  | day
  | dayPadded
  | hour
  | hourPadded
  | hourOfHalf
  | hourOfHalfPadded
  | minute
  | minutePadded
  | second
  | secondPadded
  | millis
  | halfOfDay
  | weekdayShort
  | weekdayName
  | zoneName
  | zoneOffset
  deriving DecidableEq, Repr

def named (names : List String) (index : Nat) : List Char := (names.getD index "").toList

def twelveHour (hour : Nat) : Nat := if hour % 12 = 0 then 12 else hour % 12

/-- A leap second is numbered one above the second before it. -/
def shownSecond (t : DateTime) : Nat := t.second.val + t.nanos.val / 1000000000

def Field.text (t : DateTime) : Field → List Char
  | .year => yearText t.date.year
  | .yearOfCentury => padded 2 (t.date.year % 100).toNat
  | .month => padded 1 t.date.month
  | .monthPadded => padded 2 t.date.month
  | .monthShort => (named monthNames (t.date.month - 1)).take 3
  | .monthName => named monthNames (t.date.month - 1)
  | .day => padded 1 t.date.day
  | .dayPadded => padded 2 t.date.day
  | .hour => padded 1 t.hour.val
  | .hourPadded => padded 2 t.hour.val
  | .hourOfHalf => padded 1 (twelveHour t.hour.val)
  | .hourOfHalfPadded => padded 2 (twelveHour t.hour.val)
  | .minute => padded 1 t.minute.val
  | .minutePadded => padded 2 t.minute.val
  | .second => padded 1 (shownSecond t)
  | .secondPadded => padded 2 (shownSecond t)
  | .millis => padded 3 (t.nanos.val % 1000000000 / 1000000)
  | .halfOfDay => if t.hour.val < 12 then ['A', 'M'] else ['P', 'M']
  | .weekdayShort => (named weekdayNames t.date.weekday).take 3
  | .weekdayName => named weekdayNames t.date.weekday
  | .zoneName => ['U', 'T', 'C']
  | .zoneOffset => ['+', '0', '0', '0', '0']

inductive Piece where
  | field (f : Field)
  | literal (c : Char)
  deriving DecidableEq, Repr

def Piece.text (t : DateTime) : Piece → List Char
  | .field f => f.text t
  | .literal c => [c]

def render (t : DateTime) (pieces : List Piece) : List Char := pieces.flatMap (·.text t)

def standardPieces : List Piece :=
  [.field .year, .literal '-', .field .monthPadded, .literal '-', .field .dayPadded, .literal ' ',
    .field .hourPadded, .literal ':', .field .minutePadded, .literal ':', .field .secondPadded]

def DateTime.text (t : DateTime) : String := String.ofList (render t standardPieces)

/-- At most `width` digits and at least one, behind any blanks. -/
def readDigits (width : Nat) (cs : List Char) : Option (Nat × List Char) :=
  let rest := Text.trimStart cs
  let digits := (rest.takeWhile Decimal.isDigit).take width
  if digits.isEmpty then none else some (Decimal.natOfDigits digits, rest.drop digits.length)

/-- A year has up to four digits, or any number of them behind a sign. -/
def readYear (cs : List Char) : Option (Int × List Char) :=
  let signed (negative : Bool) (cs : List Char) : Option (Int × List Char) :=
    let (digits, rest) := cs.span Decimal.isDigit
    if digits.isEmpty then none
    else
      let n : Int := Decimal.natOfDigits digits
      some (if negative then -n else n, rest)
  match Text.trimStart cs with
  | '-' :: rest => signed true rest
  | '+' :: rest => signed false rest
  | rest => (readDigits 4 rest).map fun (n, rest) => ((n : Int), rest)

def expectChar (c : Char) : List Char → Option (List Char)
  | d :: rest => if d = c then some rest else none
  | [] => none

/-- Reads the standard form. Blanks may stand before each number; the second 60 is a leap second. -/
def readDateTime (text : String) : Option DateTime := do
  let (year, rest) ← readYear text.toList
  let rest ← expectChar '-' rest
  let (month, rest) ← readDigits 2 rest
  let rest ← expectChar '-' rest
  let (day, rest) ← readDigits 2 rest
  let (hour, rest) ← readDigits 2 rest
  let rest ← expectChar ':' rest
  let (minute, rest) ← readDigits 2 rest
  let rest ← expectChar ':' rest
  let (second, rest) ← readDigits 2 rest
  let date ← Date.of? year month day
  if hh : hour < 24 then
    if hm : minute < 60 then
      if rest.isEmpty then
        if hs : second < 60 then some ⟨date, ⟨hour, hh⟩, ⟨minute, hm⟩, ⟨second, hs⟩, DateTime.wholeSecond⟩
        else if second = 60 then
          some ⟨date, ⟨hour, hh⟩, ⟨minute, hm⟩, DateTime.lastSecond, DateTime.leapSecond⟩
        else none
      else none
    else none
  else none

end CardExpr.Calendar
