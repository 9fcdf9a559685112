import CardExpr.Proofs.Evaluation.Operands
import CardExpr.Proofs.Function.Builtin

/-!
The parts of an instant. What the functions read of it lies within the calendar and can be written back,
except within a leap second, whose milliseconds go on after 999.
-/

namespace CardExpr

open Calendar (DateTime Date daysInMonth_le)

def Calendar.DateTime.IsLeap (t : DateTime) : Prop := 1000000000 ≤ t.nanos.val

instance : DecidablePred DateTime.IsLeap := fun _ => inferInstanceAs (Decidable (_ ≤ _))

inductive DatePart where
  | year
  | month
  | day
  | dayOfWeek
  | hours
  | minutes
  | seconds
  | millis
  deriving DecidableEq

namespace DatePart

def name : DatePart → String
  | year => "Year"
  | month => "Month"
  | day => "Day"
  | dayOfWeek => "DayOfWeek"
  | hours => "Hours"
  | minutes => "Minutes"
  | seconds => "Seconds"
  | millis => "Millis"

def value (t : DateTime) : DatePart → Int
  | year => t.date.year
  | month => t.date.month
  | day => t.date.day
  | dayOfWeek => t.dayOfWeek
  | hours => t.hour.val
  | minutes => t.minute.val
  | seconds => t.second.val
  | millis => t.milli

/-- The least and the greatest value outside leap seconds. -/
def range : DatePart → Int × Int
  | year => (Calendar.minYear, Calendar.maxYear)
  | month => (1, 12)
  | day => (1, 31)
  | dayOfWeek => (1, 7)
  | hours => (0, 23)
  | minutes => (0, 59)
  | seconds => (0, 59)
  | millis => (0, 999)

def getter (p : DatePart) (e : Expr) : Expr := .call ("get" ++ p.name) [e]

def setter (p : DatePart) (e v : Expr) : Expr := .call ("set" ++ p.name) [e, v]

/-- Over a tree, its getter comes to an integer of the range. -/
def Reads (s : Setting) (depth : Nat) (e : Expr) (p : DatePart) (range : Int × Int) : Prop :=
  ∃ i : Int64, s.ComesTo (depth + 1) (p.getter e) (.integer i) ∧ range.1 ≤ i.toInt ∧ i.toInt ≤ range.2

/-- With what the getter comes to, its setter comes to an instant of which all getters read the same. -/
def GivesBack (s : Setting) (depth : Nat) (e : Expr) (p : DatePart) : Prop :=
  ∃ u, s.ComesTo (depth + 2) (p.setter e (p.getter e)) (.datetime u) ∧
    ∀ q : DatePart, ∃ v, s.ComesTo (depth + 1) (q.getter e) v ∧
      s.ComesTo (depth + 3) (q.getter (p.setter e (p.getter e))) v

/-- With what the getter comes to, its setter fails. -/
def Refuses (s : Setting) (depth : Nat) (e : Expr) (p : DatePart) (noun : String) : Prop :=
  ∃ i, s.ComesTo (depth + 1) (p.getter e) (.integer i) ∧
    (eval (depth + 2) s (p.setter e (p.getter e))).result =
      .error (.function ("set" ++ p.name) (.fieldOutOfRange noun i))

def natural (write : DateTime → Nat → Option DateTime) (t : DateTime) (n : Int) : Option DateTime :=
  if n < 0 then none else write t n.toNat

/-- The parts that the functions write, with what errors call them. -/
inductive Writes : DatePart → (noun : String) → (DateTime → Int → Option DateTime) → Prop where
  | year : Writes year "year" DateTime.setYear
  | month : Writes month "month" (natural DateTime.setMonth)
  | day : Writes day "day" (natural DateTime.setDay)
  | hours : Writes hours "hour" (natural DateTime.setHour)
  | minutes : Writes minutes "minute" (natural DateTime.setMinute)
  | seconds : Writes seconds "second" (natural DateTime.setSecond)
  | millis : Writes millis "millisecond" (natural DateTime.setMilli)

section Values

variable {p : DatePart} {t : DateTime} {noun : String} {write : DateTime → Int → Option DateTime}

theorem natural_natCast (write : DateTime → Nat → Option DateTime) (t : DateTime) (n : Nat) :
    natural write t n = write t n := by
  rw [natural, if_neg (by omega), Int.toNat_natCast]

theorem value_mem_range (p : DatePart) (t : DateTime) (regular : p = millis → ¬ t.IsLeap) :
    p.range.1 ≤ p.value t ∧ p.value t ≤ p.range.2 := by
  obtain ⟨years, months, firstDay, lastDay⟩ := t.date.valid
  have days := daysInMonth_le t.date.year t.date.month
  cases p with
  | year => exact years
  | month => simp only [range, value]; omega
  | day => simp only [range, value]; omega
  | dayOfWeek =>
      simp only [range, value, DateTime.dayOfWeek, Date.weekday]
      omega
  | hours => simp only [range, value]; omega
  | minutes => simp only [range, value]; omega
  | seconds => simp only [range, value]; omega
  | millis =>
      have below := regular rfl
      simp only [range, value, DateTime.milli, DateTime.IsLeap] at below ⊢
      omega

theorem millis_mem_of_isLeap (leap : t.IsLeap) : 1000 ≤ millis.value t ∧ millis.value t ≤ 1999 := by
  have last := t.nanos.isLt
  simp only [value, DateTime.milli, DateTime.IsLeap] at leap ⊢
  omega

theorem toInt_value (p : DatePart) (t : DateTime) : (Int64.ofInt (p.value t)).toInt = p.value t := by
  have bounds : -262143 ≤ p.value t ∧ p.value t ≤ 262142 := by
    by_cases leap : p = millis ∧ t.IsLeap
    · have within := millis_mem_of_isLeap leap.2
      rw [leap.1]
      omega
    · have within := value_mem_range p t (not_and.mp leap)
      have limits : -262143 ≤ p.range.1 ∧ p.range.2 ≤ 262142 := by cases p <;> decide
      omega
  exact Int64.toInt_ofInt_of_le (by omega) (by omega)

theorem Writes.value (writes : Writes p noun write) (other : p ≠ .millis) :
    write t (p.value t) = t.checked := by
  cases writes with
  | year => simp [DatePart.value, DateTime.setYear, DateTime.withDate, Date.of?_self]
  | month => simp [DatePart.value, natural_natCast, DateTime.setMonth, DateTime.withDate, Date.of?_self]
  | day => simp [DatePart.value, natural_natCast, DateTime.setDay, DateTime.withDate, Date.of?_self]
  | hours => simp [DatePart.value, natural_natCast, DateTime.setHour]
  | minutes => simp [DatePart.value, natural_natCast, DateTime.setMinute]
  | seconds => simp [DatePart.value, natural_natCast, DateTime.setSecond]
  | millis => exact absurd rfl other

theorem checked_of_regular (regular : ¬ t.IsLeap) : t.checked = some t := by
  simp only [DateTime.IsLeap] at regular
  simp [DateTime.checked, DateTime.withinRange, regular]

theorem setMilli_milli (regular : ¬ t.IsLeap) :
    ∃ u, natural DateTime.setMilli t (millis.value t) = some u ∧ ∀ q : DatePart, q.value u = q.value t := by
  have below : t.milli < 1000 := by
    simp only [DateTime.IsLeap, DateTime.milli] at regular ⊢
    omega
  let whole : DateTime := { t with nanos := ⟨t.milli * 1000000, by omega⟩ }
  have written : whole.checked = some whole := by
    apply checked_of_regular
    show ¬ 1000000000 ≤ t.milli * 1000000
    omega
  refine ⟨whole, ?_, fun q => ?_⟩
  · simp only [value, natural_natCast, DateTime.setMilli]
    rw [dif_pos below]
    exact written
  · cases q <;> simp [whole, value, DateTime.milli, DateTime.dayOfWeek]

theorem setMilli_of_isLeap (leap : t.IsLeap) : natural DateTime.setMilli t (millis.value t) = none := by
  have beyond := (millis_mem_of_isLeap leap).1
  simp only [value] at beyond
  simp only [value, natural_natCast, DateTime.setMilli]
  exact dif_neg (by omega)

end Values

section Calls

variable {p : DatePart} {s : Setting} {depth : Nat} {e v : Expr} {t u : DateTime} {noun : String}
  {write : DateTime → Int → Option DateTime}

theorem result_getter (later : Registry.builtins.Later s.functions) (known : s.ComesTo depth e (.datetime t))
    (p : DatePart) : s.ComesTo (depth + 1) (p.getter e) (.integer (Int64.ofInt (p.value t))) := by
  have tried : (Registry.builtinsOf .function ("get" ++ p.name)).head? = some ⟨"get" ++ p.name,
      ⟨[Builtin.datetime], none, .integer⟩, .native (.pure (Builtin.getField fun t => p.value t))⟩ := by
    cases p <;> rfl
  exact Setting.ComesTo.result_builtin (.cons known .nil) later tried ⟨.cons (.same .datetime) .nil, nofun⟩

def written (p : DatePart) (noun : String) (n : Int64) : Option DateTime → Except EvalError Value
  | some u => .ok (.datetime u)
  | none => .error (.function ("set" ++ p.name) (.fieldOutOfRange noun n))

theorem setYear_eq (t : DateTime) (n : Int64) :
    Builtin.setYear ⟨"setYear", [.datetime t, .integer n]⟩ = written year "year" n (t.setYear n.toInt) := by
  show (match t.setYear n.toInt with | some u => _ | none => _) = _
  cases t.setYear n.toInt <;> rfl

theorem setField_eq (p : DatePart) (noun : String) (write : DateTime → Nat → Option DateTime) (t : DateTime)
    (n : Int64) :
    Builtin.setField noun write ⟨"set" ++ p.name, [.datetime t, .integer n]⟩ =
      written p noun n (natural write t n.toInt) := by
  show (match natural write t n.toInt with | some u => _ | none => _) = _
  cases natural write t n.toInt <;> rfl

theorem Writes.tried (writes : Writes p noun write) :
    ∃ body, (Registry.builtinsOf .function ("set" ++ p.name)).head? = some ⟨"set" ++ p.name,
        ⟨[Builtin.datetime, Builtin.integer], none, .datetime⟩, .native (.pure body)⟩ ∧
      ∀ t n, body ⟨"set" ++ p.name, [.datetime t, .integer n]⟩ = written p noun n (write t n.toInt) := by
  cases writes with
  | year => exact ⟨_, rfl, setYear_eq⟩
  | _ => exact ⟨_, rfl, setField_eq _ _ _⟩

theorem result_setter (writes : Writes p noun write) (later : Registry.builtins.Later s.functions)
    (known : s.ComesTo depth e (.datetime t)) {n : Int64} (given : s.ComesTo depth v (.integer n)) :
    (eval (depth + 1) s (p.setter e v)).result = written p noun n (write t n.toInt) := by
  obtain ⟨body, tried, ends⟩ := writes.tried
  rw [← ends]
  exact Setting.ComesTo.result_builtin (.cons known (.cons given .nil)) later tried
    ⟨.cons (.same .datetime) (.cons (.same .integer) .nil), nofun⟩

theorem reads_of_value (later : Registry.builtins.Later s.functions) (known : s.ComesTo depth e (.datetime t))
    {range : Int × Int} (within : range.1 ≤ p.value t ∧ p.value t ≤ range.2) : p.Reads s depth e range := by
  rw [← toInt_value p t] at within
  exact ⟨_, result_getter later known p, within⟩

theorem result_writeBack (writes : Writes p noun write) (later : Registry.builtins.Later s.functions)
    (known : s.ComesTo depth e (.datetime t)) :
    (eval (depth + 2) s (p.setter e (p.getter e))).result =
      written p noun (Int64.ofInt (p.value t)) (write t (p.value t)) := by
  rw [result_setter writes later (known.mono (Nat.le_succ depth)) (result_getter later known p), toInt_value]

theorem givesBack_of_write (writes : Writes p noun write) (later : Registry.builtins.Later s.functions)
    (known : s.ComesTo depth e (.datetime t)) (done : write t (p.value t) = some u)
    (same : ∀ q : DatePart, q.value u = q.value t) : p.GivesBack s depth e := by
  have comes : s.ComesTo (depth + 2) (p.setter e (p.getter e)) (.datetime u) := by
    unfold Setting.ComesTo
    rw [result_writeBack writes later known, done]
    rfl
  refine ⟨u, comes, fun q => ⟨_, result_getter later known q, ?_⟩⟩
  rw [← same q]
  exact result_getter later comes q

theorem refuses_of_write (writes : Writes p noun write) (later : Registry.builtins.Later s.functions)
    (known : s.ComesTo depth e (.datetime t)) (refused : write t (p.value t) = none) :
    p.Refuses s depth e noun := by
  refine ⟨_, result_getter later known p, ?_⟩
  rw [result_writeBack writes later known, refused]
  rfl

end Calls

/-- Whatever is registered over the built-in functions, and for every tree that comes to an instant. Outside
leap seconds each getter reads an integer of its part's range, and each setter takes it back. Within one the
milliseconds are 1000 to 1999, which their setter refuses; all other parts are read as ever and taken back, if
the instant is not in the last leap second that there could be. -/
theorem fits_together (s : Setting) (later : Registry.builtins.Later s.functions) (depth : Nat) (e : Expr)
    (t : DateTime) (known : s.ComesTo depth e (.datetime t)) :
    (¬ t.IsLeap → (∀ p : DatePart, p.Reads s depth e p.range) ∧
      ∀ p noun write, Writes p noun write → p.GivesBack s depth e) ∧
    (t.IsLeap → millis.Reads s depth e (1000, 1999) ∧ millis.Refuses s depth e "millisecond" ∧
      (∀ p ≠ millis, p.Reads s depth e p.range) ∧
      ∀ p noun write, Writes p noun write → p ≠ millis →
        if t.withinRange then p.GivesBack s depth e else p.Refuses s depth e noun) := by
  refine ⟨fun regular => ⟨fun p => ?_, fun p noun write writes => ?_⟩,
    fun leap => ⟨?_, ?_, fun p other => ?_, fun p noun write writes other => ?_⟩⟩
  · exact reads_of_value later known (value_mem_range p t fun _ => regular)
  · by_cases whole : p = millis
    · subst whole
      cases writes
      obtain ⟨u, done, same⟩ := setMilli_milli regular
      exact givesBack_of_write .millis later known done same
    · have done := (writes.value whole).trans (checked_of_regular regular)
      exact givesBack_of_write writes later known done fun _ => rfl
  · exact reads_of_value later known (millis_mem_of_isLeap leap)
  · exact refuses_of_write .millis later known (setMilli_of_isLeap leap)
  · exact reads_of_value later known (value_mem_range p t fun same => absurd same other)
  · have back := writes.value (t := t) other
    rw [DateTime.checked] at back
    split at back
    next within =>
      rw [if_pos within]
      exact givesBack_of_write writes later known back fun _ => rfl
    next beyond =>
      rw [if_neg beyond]
      exact refuses_of_write writes later known back

/-- A second before 1970. -/
theorem fits_together_before_epoch :
    ∃ (s : Setting) (e : Expr) (t : DateTime), Registry.builtins.Later s.functions ∧
      e = .call "parseUnixTime" [.integer (-1)] ∧ s.ComesTo 2 e (.datetime t) ∧ ¬ t.IsLeap ∧
      year.value t = 1969 ∧ dayOfWeek.value t = 3 ∧ seconds.value t = 59 ∧ millis.Reads s 2 e (0, 999) ∧
      millis.GivesBack s 2 e := by
  let s : Setting := ⟨.ofTable [], .builtins, {}, .epoch⟩
  let t : DateTime := ⟨⟨1969, 12, 31, by decide⟩, 23, 59, 59, DateTime.wholeSecond⟩
  have tried : (Registry.builtinsOf .function "parseUnixTime").head? =
      some ⟨"parseUnixTime", ⟨[Builtin.integer], none, .datetime⟩, .native (.pure Builtin.parseUnixTime)⟩ :=
    rfl
  have operand : s.ComesTo 1 (.integer (-1)) (.integer (-1)) := rfl
  have made : Builtin.parseUnixTime ⟨"parseUnixTime", [.integer (-1)]⟩ = .ok (.datetime t) := rfl
  have fits : Signature.Fits ⟨[Builtin.integer], none, .datetime⟩ [.integer (-1)] [] :=
    ⟨.cons (.same .integer) .nil, nofun⟩
  have known : s.ComesTo 2 (.call "parseUnixTime" [.integer (-1)]) (.datetime t) :=
    (Setting.ComesTo.result_builtin (.cons operand .nil) .refl tried fits).trans made
  have regular : ¬ t.IsLeap := by decide
  obtain ⟨ordinary, -⟩ := fits_together s .refl 2 _ t known
  obtain ⟨reads, writes⟩ := ordinary regular
  exact ⟨s, _, t, .refl, rfl, known, regular, rfl, by decide, rfl, reads millis, writes _ _ _ .millis⟩

/-- At the end of 2016 a leap second was inserted. -/
theorem millis_of_leap_second :
    ∃ (s : Setting) (e : Expr), Registry.builtins.Later s.functions ∧
      e = .call "parseDateTime" [.string "2016-12-31 23:59:60"] ∧
      (eval 3 s (millis.getter e)).result = .ok (.integer 1000) ∧
      (eval 4 s (millis.setter e (millis.getter e))).result =
        .error (.function "setMillis" (.fieldOutOfRange "millisecond" 1000)) := by
  let s : Setting := ⟨.ofTable [], .builtins, {}, .epoch⟩
  have later : Registry.builtins.Later s.functions := .refl
  let t : DateTime := ⟨⟨2016, 12, 31, by decide⟩, 23, 59, DateTime.lastSecond, DateTime.leapSecond⟩
  have tried : (Registry.builtinsOf .function "parseDateTime").head? =
      some ⟨"parseDateTime", ⟨[Builtin.string], none, .datetime⟩, .native (.pure Builtin.parseDateTime)⟩ :=
    rfl
  have operand : s.ComesTo 1 (.string "2016-12-31 23:59:60") (.string "2016-12-31 23:59:60") := rfl
  have read : Builtin.parseDateTime ⟨"parseDateTime", [.string "2016-12-31 23:59:60"]⟩ =
    .ok (.datetime t) := rfl
  have fits : Signature.Fits ⟨[Builtin.string], none, .datetime⟩ [.string "2016-12-31 23:59:60"] [] :=
    ⟨.cons (.same .string) .nil, nofun⟩
  have known : s.ComesTo 2 (.call "parseDateTime" [.string "2016-12-31 23:59:60"]) (.datetime t) :=
    (Setting.ComesTo.result_builtin (.cons operand .nil) later tried fits).trans read
  have thousand : Int64.ofInt (millis.value t) = 1000 := by decide
  have getter := result_getter later known millis
  have setter := result_writeBack .millis later known
  have leap : t.IsLeap := by decide
  rw [thousand] at getter
  rw [thousand, setMilli_of_isLeap leap] at setter
  exact ⟨s, _, later, rfl, getter, setter⟩

end DatePart

end CardExpr
