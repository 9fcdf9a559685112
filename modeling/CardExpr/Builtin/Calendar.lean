import CardExpr.Builtin.Entry

/-! Instants: making, moving, reading and writing them. -/

namespace CardExpr.Builtin

open Calendar (DateTime)

def parseUnixTime (args : Args) : Except EvalError Value := do
  let seconds ← args.integer 0
  match DateTime.ofSeconds seconds.toInt DateTime.wholeSecond with
  | some t => pure (.datetime t)
  | none => args.fail (.timestampOutOfRange seconds)

/-- The least integer of 64 bits is no distance in time. -/
def addMillis (args : Args) : Except EvalError Value := do
  let millis ← args.integer 1
  if millis = Int64.minValue then args.fail .datetimeOutOfRange
  else
    let t ← args.datetime 0
    match t.addMillis millis.toInt with
    | some moved => pure (.datetime moved)
    | none => args.fail .datetimeOutOfRange

def parseDateTime (args : Args) : Except EvalError Value := do
  let text ← args.string 0
  match Calendar.readDateTime text with
  | some t => pure (.datetime t)
  | none => args.fail (.notDatetime text)

def setYear (args : Args) : Except EvalError Value := do
  let t ← args.datetime 0
  let year ← args.integer 1
  match t.setYear year.toInt with
  | some changed => pure (.datetime changed)
  | none => args.fail (.fieldOutOfRange "year" year)

/-- Replaces a field, which must exist beside the others. -/
def setField (field : String) (set : DateTime → Nat → Option DateTime) (args : Args) :
    Except EvalError Value := do
  let t ← args.datetime 0
  let value ← args.integer 1
  match if value.toInt < 0 then none else set t value.toInt.toNat with
  | some changed => pure (.datetime changed)
  | none => args.fail (.fieldOutOfRange field value)

def getField (get : DateTime → Int) (args : Args) : Except EvalError Value := do
  let t ← args.datetime 0
  pure (.integer (Int64.ofInt (get t)))

def formatDate (args : Args) : Except EvalError Value := do
  let t ← args.datetime 0
  let pattern ← args.string 1
  match Calendar.formatPattern t pattern with
  | .ok text => pure (.string text)
  | .error e => args.fail (.invalidPattern e)

def setter (name : String) (body : Args → Except EvalError Value) : Entry :=
  function name [datetime, integer] .datetime (.pure body)

def getter (name : String) (get : DateTime → Int) : Entry :=
  function name [datetime] .integer (.pure (getField get))

def instants : List Entry :=
  [function "parseUnixTime" [integer] .datetime (.pure parseUnixTime),
    function "nowLocal" [] .datetime fun site _ => .done (.ok (.datetime site.now)),
    function "addMillis" [datetime, integer] .datetime (.pure addMillis),
    function "parseDateTime" [string] .datetime (.pure parseDateTime),
    function "formatDateAsUTC" [datetime, string] .string (.pure formatDate),
    setter "setYear" setYear,
    setter "setMonth" (setField "month" DateTime.setMonth),
    setter "setDay" (setField "day" DateTime.setDay),
    setter "setHours" (setField "hour" DateTime.setHour),
    setter "setMinutes" (setField "minute" DateTime.setMinute),
    setter "setSeconds" (setField "second" DateTime.setSecond),
    setter "setMillis" (setField "millisecond" DateTime.setMilli),
    getter "getYear" fun t => t.date.year,
    getter "getMonth" fun t => t.date.month,
    getter "getDay" fun t => t.date.day,
    getter "getDayOfWeek" fun t => t.dayOfWeek,
    getter "getHours" fun t => t.hour.val,
    getter "getMinutes" fun t => t.minute.val,
    getter "getSeconds" fun t => t.second.val,
    getter "getMillis" fun t => t.milli]

end CardExpr.Builtin
