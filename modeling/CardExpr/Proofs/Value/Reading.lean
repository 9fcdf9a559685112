import CardExpr.Proofs.Calendar.Reading
import CardExpr.Proofs.Value.RoundTrip

/-!
What JSON spells. A null spells no value. What JSON has a shape of its own for is spelled in that shape, and
colors, urls and datetimes are spelled by their texts where their type is asked for.
-/

namespace CardExpr

namespace Json

mutual

/-- The value that the JSON is of itself. An integer that 64 bits do not hold is a number. -/
inductive SpellsValue : Json → Value → Prop where
  | bool (b : Bool) : SpellsValue (.bool b) (.boolean b)
  | integer {n : Int} {i : Int64} (same : i.toInt = n) : SpellsValue (.number (.int n)) (.integer i)
  | large {n : Int} (outside : ∀ i : Int64, i.toInt ≠ n) :
      SpellsValue (.number (.int n)) (.number (JsonNumber.int n).toFloat)
  | float (x : Float) : SpellsValue (.number (.float x)) (.number x)
  | string (s : String) : SpellsValue (.string s) (.string s)
  | array {items : List Json} {values : List Value} (each : SpellsItems items values) :
      SpellsValue (.array items) (.array values)
  | object {members : List (String × Json)} {entries : List (String × Value)}
      (each : SpellsEntries members entries) :
      SpellsValue (.object members) (.dict entries)

inductive SpellsItems : List Json → List Value → Prop where
  | nil : SpellsItems [] []
  | cons {json : Json} {v : Value} {items : List Json} {values : List Value} (first : SpellsValue json v)
      (rest : SpellsItems items values) : SpellsItems (json :: items) (v :: values)

inductive SpellsEntries : List (String × Json) → List (String × Value) → Prop where
  | nil : SpellsEntries [] []
  | cons {name : String} {json : Json} {v : Value} {members : List (String × Json)}
      {entries : List (String × Value)} (first : SpellsValue json v) (rest : SpellsEntries members entries) :
      SpellsEntries ((name, json) :: members) ((name, v) :: entries)

end

/-- The value that the JSON is of a type. Any number is a double, and zero and one are booleans too. -/
inductive SpellsAs : Json → ValueType → Value → Prop where
  | integer {n : Int} {i : Int64} (same : i.toInt = n) : SpellsAs (.number (.int n)) .integer (.integer i)
  | number (n : JsonNumber) : SpellsAs (.number n) .number (.number n.toFloat)
  | string (s : String) : SpellsAs (.string s) .string (.string s)
  | boolean (b : Bool) : SpellsAs (.bool b) .boolean (.boolean b)
  | zero : SpellsAs (.number (.int 0)) .boolean (.boolean false)
  | one : SpellsAs (.number (.int 1)) .boolean (.boolean true)
  | color {s : String} {digits : List Nat} {c : Color} (spells : Color.Spells s digits)
      (channels : c.argb.toNat = Color.number (Color.fullDigits digits)) :
        SpellsAs (.string s) .color (.color c)
  | url (s : String) : SpellsAs (.string s) .url (.url s)
  | datetime {s : String} {t : Calendar.DateTime} (spells : Calendar.SpellsInstant s.toList t) :
      SpellsAs (.string s) .datetime (.datetime t)
  | array {items : List Json} {values : List Value} (each : SpellsItems items values) :
      SpellsAs (.array items) .array (.array values)
  | dict {members : List (String × Json)} {entries : List (String × Value)}
      (each : SpellsEntries members entries) :
      SpellsAs (.object members) .dict (.dict entries)

/-- A null stands within the JSON value, or is all of it. -/
inductive HasNull : Json → Prop where
  | here : HasNull .null
  | item {items : List Json} {json : Json} (member : json ∈ items) (within : HasNull json) :
      HasNull (.array items)
  | member {members : List (String × Json)} {name : String} {json : Json} (member : (name, json) ∈ members)
      (within : HasNull json) : HasNull (.object members)

/-- The JSON has the shape of the type, which is that of an array or of a dictionary. -/
inductive Collects : Json → ValueType → Prop where
  | array (items : List Json) : Collects (.array items) .array
  | dict (members : List (String × Json)) : Collects (.object members) .dict

/-- Why the JSON is no value of a type: a null is within the array or the dictionary that it would be, or it
spells nothing of the type at all. -/
inductive Mismatches (json : Json) (t : ValueType) : ConversionError → Prop where
  | null (collects : json.Collects t) (within : json.HasNull) : Mismatches json t ⟨.dict, "null"⟩
  | other (single : ¬ json.Collects t) (nothing : ∀ v, ¬ json.SpellsAs t v) :
      Mismatches json t ⟨t, json.compact⟩

section

variable {json : Json} {v : Value} {items : List Json} {values : List Value} {members : List (String × Json)}
  {entries : List (String × Value)}

theorem SpellsItems.exists_of_mem (each : SpellsItems items values) (member : json ∈ items) :
    ∃ v, json.SpellsValue v := by
  induction items generalizing values with
  | nil => cases member
  | cons first rest ih =>
      cases each with
      | cons here others =>
          rcases List.mem_cons.mp member with rfl | later
          · exact ⟨_, here⟩
          · exact ih others later

theorem SpellsEntries.exists_of_mem {name : String} (each : SpellsEntries members entries)
    (member : (name, json) ∈ members) : ∃ v, json.SpellsValue v := by
  induction members generalizing entries with
  | nil => cases member
  | cons first rest ih =>
      cases each with
      | cons here others =>
          rcases List.mem_cons.mp member with same | later
          · cases same
            exact ⟨_, here⟩
          · exact ih others later

theorem HasNull.spells_nothing (null : json.HasNull) : ∀ v, ¬ json.SpellsValue v := by
  induction null with
  | here => exact nofun
  | item member _ ih =>
      intro v spells
      cases spells with
      | array each =>
          obtain ⟨w, spelled⟩ := each.exists_of_mem member
          exact ih w spelled
  | member member _ ih =>
      intro v spells
      cases spells with
      | object each =>
          obtain ⟨w, spelled⟩ := each.exists_of_mem member
          exact ih w spelled

/-- What the JSON is of itself it also is as a value of that type. -/
theorem SpellsValue.spellsAs (spells : json.SpellsValue v) : json.SpellsAs v.type v := by
  cases spells with
  | bool b => exact .boolean b
  | integer same => exact .integer same
  | large => exact .number _
  | float x => exact .number _
  | string s => exact .string s
  | array each => exact .array each
  | object each => exact .dict each

end

end Json

namespace Value

open Json

theorem int64?_eq_some_iff (n : Int) (i : Int64) : (JsonNumber.int n).int64? = some i ↔ i.toInt = n := by
  constructor
  · intro read
    change Decimal.int64? n = some i at read
    unfold Decimal.int64? at read
    by_cases within : Int64.minValue.toInt ≤ n ∧ n ≤ Int64.maxValue.toInt
    · rw [if_pos within] at read
      rw [← Option.some.inj read]
      exact Int64.toInt_ofInt_of_le within.1 (Int.lt_add_one_of_le within.2)
    · rw [if_neg within] at read
      cases read
  · rintro rfl
    exact int64?_int i

theorem ofNumber_iff (n : JsonNumber) (v : Value) : ofNumber n = v ↔ (Json.number n).SpellsValue v := by
  constructor
  · rintro rfl
    cases n with
    | float x => exact .float x
    | int n =>
        unfold ofNumber
        dsimp only
        split
        next i read => exact .integer ((int64?_eq_some_iff n i).mp read)
        next unread =>
          refine .large fun i same => ?_
          rw [(int64?_eq_some_iff n i).mpr same] at unread
          cases unread
  · intro spells
    cases spells with
    | integer same =>
        subst same
        exact ofNumber_toInt _
    | @large n outside =>
        have unread : (JsonNumber.int n).int64? = none :=
          Option.eq_none_iff_forall_ne_some.mpr fun i read => outside i ((int64?_eq_some_iff n i).mp read)
        unfold ofNumber
        dsimp only
        rw [unread]
    | float x => rfl

section

variable {α β ε : Type} {f : α → β} {g : α → Except ε β} {x : Except ε α} {y : β} {e : ε}

theorem map_eq_ok_iff : x.map f = .ok y ↔ ∃ a, x = .ok a ∧ f a = y := by
  cases x <;> simp [Except.map]

theorem map_eq_error_iff : x.map f = .error e ↔ x = .error e := by
  cases x <;> simp [Except.map]

theorem bind_eq_ok_iff : x >>= g = .ok y ↔ ∃ a, x = .ok a ∧ g a = .ok y := by
  cases x <;> simp [bind, Except.bind]

theorem bind_eq_error_iff : x >>= g = .error e ↔ x = .error e ∨ ∃ a, x = .ok a ∧ g a = .error e := by
  cases x <;> simp [bind, Except.bind]

end

mutual

theorem ofJson_eq_ok_iff (json : Json) (v : Value) : ofJson json = .ok v ↔ json.SpellsValue v := by
  cases json with
  | null => exact ⟨nofun, nofun⟩
  | bool b =>
      constructor
      · intro read
        cases read
        exact .bool b
      · intro spells
        cases spells
        rfl
  | string s =>
      constructor
      · intro read
        cases read
        exact .string s
      · intro spells
        cases spells
        rfl
  | number n =>
      show Except.ok (ofNumber n) = .ok v ↔ _
      rw [Except.ok.injEq, ofNumber_iff]
  | array items =>
      refine map_eq_ok_iff.trans ⟨?_, ?_⟩
      · rintro ⟨values, read, rfl⟩
        exact .array ((itemsOfJson_eq_ok_iff items values).mp read)
      · intro spells
        cases spells with
        | @array _ values each => exact ⟨values, (itemsOfJson_eq_ok_iff items values).mpr each, rfl⟩
  | object members =>
      refine map_eq_ok_iff.trans ⟨?_, ?_⟩
      · rintro ⟨entries, read, rfl⟩
        exact .object ((entriesOfJson_eq_ok_iff members entries).mp read)
      · intro spells
        cases spells with
        | @object _ entries each => exact ⟨entries, (entriesOfJson_eq_ok_iff members entries).mpr each, rfl⟩

theorem itemsOfJson_eq_ok_iff (items : List Json) (values : List Value) :
    itemsOfJson items = .ok values ↔ SpellsItems items values := by
  cases items with
  | nil =>
      constructor
      · intro read
        cases read
        exact .nil
      · intro spells
        cases spells
        rfl
  | cons json rest =>
      constructor
      · intro read
        obtain ⟨v, first, later⟩ := bind_eq_ok_iff.mp read
        obtain ⟨vs, others, same⟩ := bind_eq_ok_iff.mp later
        cases same
        exact .cons ((ofJson_eq_ok_iff json v).mp first) ((itemsOfJson_eq_ok_iff rest vs).mp others)
      · intro spells
        cases spells with
        | @cons _ v _ vs first others =>
            apply bind_eq_ok_iff.mpr ⟨v, (ofJson_eq_ok_iff json v).mpr first, ?_⟩
            exact bind_eq_ok_iff.mpr ⟨vs, (itemsOfJson_eq_ok_iff rest vs).mpr others, rfl⟩

theorem entriesOfJson_eq_ok_iff (members : List (String × Json)) (entries : List (String × Value)) :
    entriesOfJson members = .ok entries ↔ SpellsEntries members entries := by
  cases members with
  | nil =>
      constructor
      · intro read
        cases read
        exact .nil
      · intro spells
        cases spells
        rfl
  | cons member rest =>
      obtain ⟨name, json⟩ := member
      constructor
      · intro read
        obtain ⟨v, first, later⟩ := bind_eq_ok_iff.mp read
        obtain ⟨vs, others, same⟩ := bind_eq_ok_iff.mp later
        cases same
        exact .cons ((ofJson_eq_ok_iff json v).mp first) ((entriesOfJson_eq_ok_iff rest vs).mp others)
      · intro spells
        cases spells with
        | @cons _ _ v _ vs first others =>
            apply bind_eq_ok_iff.mpr ⟨v, (ofJson_eq_ok_iff json v).mpr first, ?_⟩
            exact bind_eq_ok_iff.mpr ⟨vs, (entriesOfJson_eq_ok_iff rest vs).mpr others, rfl⟩

end

mutual

/-- Nothing but a null is no value of itself. -/
theorem hasNull_of_ofJson (json : Json) (e : ConversionError) (failed : ofJson json = .error e) :
    json.HasNull ∧ e = ⟨.dict, "null"⟩ := by
  cases json with
  | null =>
      cases failed
      exact ⟨.here, rfl⟩
  | bool b => cases failed
  | number n => cases failed
  | string s => cases failed
  | array items =>
      obtain ⟨⟨json, member, within⟩, same⟩ := hasNull_of_itemsOfJson items e (map_eq_error_iff.mp failed)
      exact ⟨.item member within, same⟩
  | object members =>
      obtain ⟨⟨name, json, member, within⟩, same⟩ :=
        hasNull_of_entriesOfJson members e (map_eq_error_iff.mp failed)
      exact ⟨.member member within, same⟩

theorem hasNull_of_itemsOfJson (items : List Json) (e : ConversionError)
    (failed : itemsOfJson items = .error e) :
    (∃ json ∈ items, json.HasNull) ∧ e = ⟨.dict, "null"⟩ := by
  cases items with
  | nil => cases failed
  | cons json rest =>
      rcases bind_eq_error_iff.mp failed with first | ⟨v, -, later⟩
      · obtain ⟨within, same⟩ := hasNull_of_ofJson json e first
        exact ⟨⟨json, List.mem_cons_self, within⟩, same⟩
      · rcases bind_eq_error_iff.mp later with others | ⟨vs, -, done⟩
        · obtain ⟨⟨json, member, within⟩, same⟩ := hasNull_of_itemsOfJson rest e others
          exact ⟨⟨json, List.mem_cons_of_mem _ member, within⟩, same⟩
        · cases done

theorem hasNull_of_entriesOfJson (members : List (String × Json)) (e : ConversionError)
    (failed : entriesOfJson members = .error e) :
    (∃ name json, (name, json) ∈ members ∧ json.HasNull) ∧ e = ⟨.dict, "null"⟩ := by
  cases members with
  | nil => cases failed
  | cons member rest =>
      obtain ⟨name, json⟩ := member
      rcases bind_eq_error_iff.mp failed with first | ⟨v, -, later⟩
      · obtain ⟨within, same⟩ := hasNull_of_ofJson json e first
        exact ⟨⟨name, json, List.mem_cons_self, within⟩, same⟩
      · rcases bind_eq_error_iff.mp later with others | ⟨vs, -, done⟩
        · obtain ⟨⟨name, json, member, within⟩, same⟩ := hasNull_of_entriesOfJson rest e others
          exact ⟨⟨name, json, List.mem_cons_of_mem _ member, within⟩, same⟩
        · cases done

end

theorem ofJson_eq_error_iff (json : Json) (e : ConversionError) :
    ofJson json = .error e ↔ json.HasNull ∧ e = ⟨.dict, "null"⟩ := by
  constructor
  · exact hasNull_of_ofJson json e
  · rintro ⟨null, rfl⟩
    cases outcome : ofJson json with
    | error c => rw [(hasNull_of_ofJson json c outcome).2]
    | ok v => exact absurd ((ofJson_eq_ok_iff json v).mp outcome) (null.spells_nothing v)

section

variable {n : JsonNumber} {s : String} {v : Value}

theorem spellsAs_integer (read : ofJsonAs (.number n) .integer = .ok v) :
    SpellsAs (.number n) .integer v := by
  simp only [ofJsonAs] at read
  split at read
  next known =>
    cases read
    obtain ⟨i, held, rfl⟩ := Option.map_eq_some_iff.mp known
    cases n with
    | int n => exact .integer ((int64?_eq_some_iff n i).mp held)
    | float x => cases held
  next => cases read

theorem spellsAs_boolean (read : ofJsonAs (.number n) .boolean = .ok v) :
    SpellsAs (.number n) .boolean v := by
  simp only [ofJsonAs] at read
  split at read
  next known =>
    cases read
    obtain ⟨i, held, decided⟩ := Option.bind_eq_some_iff.mp known
    cases n with
    | int n =>
        have same := (int64?_eq_some_iff n i).mp held
        split at decided
        next zero =>
          cases decided
          subst zero same
          exact .zero
        next =>
          split at decided
          next one =>
            cases decided
            subst one same
            exact .one
          next => cases decided
    | float x => cases held
  next => cases read

theorem spellsAs_color (read : ofJsonAs (.string s) .color = .ok v) : SpellsAs (.string s) .color v := by
  simp only [ofJsonAs] at read
  split at read
  next known =>
    cases read
    obtain ⟨c, parsed, rfl⟩ := Option.map_eq_some_iff.mp known
    obtain ⟨digits, spells, channels⟩ := Color.toOption_parse_eq_some_iff.mp parsed
    exact .color spells channels
  next => cases read

theorem spellsAs_datetime (read : ofJsonAs (.string s) .datetime = .ok v) :
    SpellsAs (.string s) .datetime v := by
  simp only [ofJsonAs] at read
  split at read
  next known =>
    cases read
    obtain ⟨t, instant, rfl⟩ := Option.map_eq_some_iff.mp known
    exact .datetime ((Calendar.readDateTime_eq_some_iff s t).mp instant)
  next => cases read

end

theorem spellsAs_of_ofJsonAs {json : Json} {t : ValueType} {v : Value} (read : ofJsonAs json t = .ok v) :
    json.SpellsAs t v := by
  cases t with
  | integer =>
      cases json with
      | number n => exact spellsAs_integer read
      | _ => cases read
  | number =>
      cases json with
      | number n =>
          cases read
          exact .number n
      | _ => cases read
  | string =>
      cases json with
      | string s =>
          cases read
          exact .string s
      | _ => cases read
  | boolean =>
      cases json with
      | bool b =>
          cases read
          exact .boolean b
      | number n => exact spellsAs_boolean read
      | _ => cases read
  | color =>
      cases json with
      | string s => exact spellsAs_color read
      | _ => cases read
  | url =>
      cases json with
      | string s =>
          cases read
          exact .url s
      | _ => cases read
  | datetime =>
      cases json with
      | string s => exact spellsAs_datetime read
      | _ => cases read
  | array =>
      cases json with
      | array items =>
          obtain ⟨values, each, rfl⟩ := map_eq_ok_iff.mp read
          exact .array ((itemsOfJson_eq_ok_iff items values).mp each)
      | _ => cases read
  | dict =>
      cases json with
      | object members =>
          obtain ⟨entries, each, rfl⟩ := map_eq_ok_iff.mp read
          exact .dict ((entriesOfJson_eq_ok_iff members entries).mp each)
      | _ => cases read

/-- What is read as a value of a type is what the JSON spells as one. -/
theorem ofJsonAs_eq_ok_iff (json : Json) (t : ValueType) (v : Value) :
    ofJsonAs json t = .ok v ↔ json.SpellsAs t v := by
  refine ⟨spellsAs_of_ofJsonAs, fun spells => ?_⟩
  cases spells with
  | @integer n i same => simp only [ofJsonAs, (int64?_eq_some_iff n i).mpr same, Option.map_some]
  | number n => rfl
  | string s => rfl
  | boolean b => rfl
  | zero => rfl
  | one => rfl
  | color spells channels =>
      simp only [ofJsonAs, Color.toOption_parse_eq_some_iff.mpr ⟨_, spells, channels⟩, Option.map_some]
  | url s => rfl
  | @datetime s t spells =>
      simp only [ofJsonAs, (Calendar.readDateTime_eq_some_iff s t).mpr spells, Option.map_some]
  | array each => exact map_eq_ok_iff.mpr ⟨_, (itemsOfJson_eq_ok_iff _ _).mpr each, rfl⟩
  | dict each => exact map_eq_ok_iff.mpr ⟨_, (entriesOfJson_eq_ok_iff _ _).mpr each, rfl⟩

theorem ofJsonAs_of_collects {json : Json} {t : ValueType} (collects : json.Collects t) :
    ofJsonAs json t = ofJson json := by
  cases collects <;> rfl

theorem eq_mismatch_of_ofJsonAs {json : Json} {t : ValueType} {e : ConversionError}
    (single : ¬ json.Collects t) (failed : ofJsonAs json t = .error e) : e = ⟨t, json.compact⟩ := by
  cases t <;> cases json
  case array.array items => exact absurd (.array items) single
  case dict.object members => exact absurd (.dict members) single
  all_goals
    simp only [ofJsonAs] at failed
    try split at failed
    all_goals
      cases failed
      try rfl

theorem ofJsonAs_eq_error_iff (json : Json) (t : ValueType) (e : ConversionError) :
    ofJsonAs json t = .error e ↔ json.Mismatches t e := by
  constructor
  · intro failed
    by_cases collects : json.Collects t
    · rw [ofJsonAs_of_collects collects, ofJson_eq_error_iff] at failed
      obtain ⟨null, rfl⟩ := failed
      exact .null collects null
    · cases eq_mismatch_of_ofJsonAs collects failed
      refine .other collects fun v spells => ?_
      cases failed.symm.trans ((ofJsonAs_eq_ok_iff json t v).mpr spells)
  · intro mismatches
    cases mismatches with
    | null collects within =>
        rw [ofJsonAs_of_collects collects]
        exact (ofJson_eq_error_iff json _).mpr ⟨within, rfl⟩
    | other single nothing =>
        cases outcome : ofJsonAs json t with
        | error c => rw [eq_mismatch_of_ofJsonAs single outcome]
        | ok v => exact absurd ((ofJsonAs_eq_ok_iff json t v).mp outcome) (nothing v)

end Value

theorem Json.SpellsAs.unique {json : Json} {t : ValueType} {v w : Value} (spells : json.SpellsAs t v)
    (again : json.SpellsAs t w) : v = w := by
  have read := (Value.ofJsonAs_eq_ok_iff json t v).mpr spells
  rw [(Value.ofJsonAs_eq_ok_iff json t w).mpr again] at read
  exact (Except.ok.inj read).symm

end CardExpr
