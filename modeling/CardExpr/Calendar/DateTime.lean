import CardExpr.Calendar.Date

/-! Instants of coordinated universal time. -/

namespace CardExpr.Calendar

/-- A date and a time of day. A leap second has a thousand million nanoseconds or more beside the
second before it. -/
structure DateTime where
  date : Date
  hour : Fin 24
  minute : Fin 60
  second : Fin 60
  nanos : Fin 2000000000
  deriving DecidableEq

namespace DateTime

def wholeSecond : Fin 2000000000 := ⟨0, by decide⟩

def leapSecond : Fin 2000000000 := ⟨1000000000, by decide⟩

/-- The second that a leap second follows. -/
def lastSecond : Fin 60 := ⟨59, by decide⟩

def epoch : DateTime where
  date := ⟨1970, 1, 1, by decide⟩
  hour := ⟨0, by decide⟩
  minute := ⟨0, by decide⟩
  second := ⟨0, by decide⟩
  nanos := wholeSecond

def secondOfDay (t : DateTime) : Nat := t.hour.val * 3600 + t.minute.val * 60 + t.second.val

/-- Seconds since the beginning of 1970, of which no leap second counts. -/
def seconds (t : DateTime) : Int := t.date.dayNumber * 86400 + t.secondOfDay

def ofSeconds (seconds : Int) (nanos : Fin 2000000000) : Option DateTime :=
  let ofDay := (seconds % 86400).toNat
  (Date.ofDayNumber (seconds / 86400)).map fun date =>
    { date := date
      hour := Fin.ofNat 24 (ofDay / 3600)
      minute := Fin.ofNat 60 (ofDay / 60 % 60)
      second := Fin.ofNat 60 (ofDay % 60)
      nanos := nanos }

/-- A clock as an instant; outside the range of dates it stands at the beginning of 1970. -/
def ofClock (seconds : Int) (nanos : Nat) : DateTime :=
  (ofSeconds seconds (Fin.ofNat _ nanos)).getD epoch

def key (t : DateTime) : List Int :=
  [t.date.year, t.date.month, t.date.day, t.hour.val, t.minute.val, t.second.val, t.nanos.val]

def compare (s t : DateTime) : Ordering := go s.key t.key
where
  go : List Int → List Int → Ordering
    | a :: as, b :: bs => if a < b then .lt else if b < a then .gt else go as bs
    | _, _ => .eq

/-- The last instant that is not a leap second. A field that is set must not lead beyond it. -/
def withinRange (t : DateTime) : Bool :=
  !(t.date.year = maxYear && t.date.month = 12 && t.date.day = 31 && t.hour = 23 && t.minute = 59 &&
    t.second = 59 && decide (1000000000 ≤ t.nanos.val))

def checked (t : DateTime) : Option DateTime := if t.withinRange then some t else none

def withDate (t : DateTime) (date : Option Date) : Option DateTime :=
  date.bind fun d => checked { t with date := d }

def setYear (t : DateTime) (year : Int) : Option DateTime :=
  t.withDate (Date.of? year t.date.month t.date.day)

def setMonth (t : DateTime) (month : Nat) : Option DateTime :=
  t.withDate (Date.of? t.date.year month t.date.day)

def setDay (t : DateTime) (day : Nat) : Option DateTime :=
  t.withDate (Date.of? t.date.year t.date.month day)

def setHour (t : DateTime) (hour : Nat) : Option DateTime :=
  if h : hour < 24 then checked { t with hour := ⟨hour, h⟩ } else none

def setMinute (t : DateTime) (minute : Nat) : Option DateTime :=
  if h : minute < 60 then checked { t with minute := ⟨minute, h⟩ } else none

def setSecond (t : DateTime) (second : Nat) : Option DateTime :=
  if h : second < 60 then checked { t with second := ⟨second, h⟩ } else none

def setMilli (t : DateTime) (milli : Nat) : Option DateTime :=
  if h : milli < 1000 then checked { t with nanos := ⟨milli * 1000000, by omega⟩ } else none

/-- Milliseconds of the second; a thousand and more within a leap second. -/
def milli (t : DateTime) : Nat := t.nanos.val / 1000000

/-- Monday is 1. -/
def dayOfWeek (t : DateTime) : Nat := t.date.weekday + 1

/-- Moves by milliseconds. Out of a leap second one moves as from the end of the second before it
going forward, and as from the beginning of the next one going back; within one the clock stands
still. -/
def addMillis (t : DateTime) (millis : Int) : Option DateTime :=
  let wholes := Int.tdiv millis 1000
  let part := Int.tmod millis 1000 * 1000000
  let nanos : Int := t.nanos.val
  let leap := decide (1000000000 ≤ nanos)
  let forward := decide (0 < wholes ∨ (0 < part ∧ 2000000000 - part ≤ nanos))
  if leap && !forward && wholes = 0 then
    let moved := (nanos + part).toNat
    if h : moved < 2000000000 then some { t with nanos := ⟨moved, h⟩ } else none
  else
    let nanos := if leap then nanos - 1000000000 else nanos
    let start := if leap && !forward then t.seconds + 1 else t.seconds
    let total := nanos + part
    ofSeconds (start + wholes + total / 1000000000) (Fin.ofNat _ (total % 1000000000).toNat)

end DateTime

end CardExpr.Calendar
