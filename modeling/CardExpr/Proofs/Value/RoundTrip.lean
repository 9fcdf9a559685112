import CardExpr.Value.Json
import CardExpr.Proofs.Calendar.RoundTrip
import CardExpr.Proofs.Color.Text

/-!
Values through JSON and back. What JSON has a shape of its own for comes back as it was. Colors, urls and
datetimes come back as their texts, or as themselves where their type is asked for.
-/

namespace CardExpr

namespace Value

inductive Occurs : Value → Value → Prop where
  | here (v : Value) : Occurs v v
  | item {w v : Value} {items : List Value} (member : v ∈ items) (occurs : Occurs w v) :
      Occurs w (.array items)
  | entry {w v : Value} {key : String} {entries : List (String × Value)} (member : (key, v) ∈ entries)
      (occurs : Occurs w v) : Occurs w (.dict entries)

/-- No number in it is infinite or NaN. -/
def Finite (v : Value) : Prop := ∀ x, Occurs (.number x) v → x.isFinite = true

/-- JSON holds the value as a mere text. -/
def IsText (v : Value) : Prop := v.type = .color ∨ v.type = .url ∨ v.type = .datetime

/-- Nothing in it is a mere text in JSON. -/
def Shaped (v : Value) : Prop := ∀ w, Occurs w v → ¬ w.IsText

/-- Nothing within its elements is a mere text in JSON. -/
def ShapedBelow (v : Value) : Prop := ∀ w, Occurs w v → w = v ∨ ¬ w.IsText

theorem Finite.item {items : List Value} (finite : Finite (.array items)) : ∀ v ∈ items, v.Finite :=
  fun _ member x occurs => finite x (.item member occurs)

theorem Finite.entry {entries : List (String × Value)} (finite : Finite (.dict entries)) :
    ∀ key v, (key, v) ∈ entries → v.Finite :=
  fun _ _ member x occurs => finite x (.entry member occurs)

theorem Shaped.item {items : List Value} (shaped : Shaped (.array items)) : ∀ v ∈ items, v.Shaped :=
  fun _ member w occurs => shaped w (.item member occurs)

theorem Shaped.entry {entries : List (String × Value)} (shaped : Shaped (.dict entries)) :
    ∀ key v, (key, v) ∈ entries → v.Shaped :=
  fun _ _ member w occurs => shaped w (.entry member occurs)

theorem Shaped.not_isText {v : Value} (shaped : v.Shaped) : ¬ v.IsText := shaped v (.here v)

theorem ShapedBelow.shaped {v : Value} (below : v.ShapedBelow) (shape : ¬ v.IsText) : v.Shaped := by
  intro w occurs
  rcases below w occurs with rfl | other
  · exact shape
  · exact other

theorem int64?_int (n : Int64) : (JsonNumber.int n.toInt).int64? = some n := Spelling.int64?_toInt n

theorem ofNumber_toInt (n : Int64) : ofNumber (.int n.toInt) = .integer n := by
  unfold ofNumber
  dsimp only
  rw [int64?_int]

theorem toJson_number {x : Float} (finite : x.isFinite = true) :
    toJson (.number x) = .number (.float x) := by
  unfold toJson
  exact if_pos finite

mutual

/-- A value comes back with the same JSON, and as it was where all of it has a shape in JSON. -/
theorem ofJson_toJson (v : Value) (finite : v.Finite) :
    ∃ w, ofJson v.toJson = .ok w ∧ w.toJson = v.toJson ∧ (v.Shaped → w = v) := by
  cases v with
  | integer n => exact ⟨.integer n, congrArg Except.ok (ofNumber_toInt n), rfl, fun _ => rfl⟩
  | number x =>
      rw [toJson_number (finite x (.here _))]
      exact ⟨.number x, rfl, toJson_number (finite x (.here _)), fun _ => rfl⟩
  | string s => exact ⟨.string s, rfl, rfl, fun _ => rfl⟩
  | boolean b => exact ⟨.boolean b, rfl, rfl, fun _ => rfl⟩
  | color c => exact ⟨.string c.text, rfl, rfl, fun shaped => absurd (.inl rfl) shaped.not_isText⟩
  | url s => exact ⟨.string s, rfl, rfl, fun shaped => absurd (.inr (.inl rfl)) shaped.not_isText⟩
  | datetime t =>
      exact ⟨.string t.text, rfl, rfl, fun shaped => absurd (.inr (.inr rfl)) shaped.not_isText⟩
  | array items =>
      obtain ⟨read, done, same, restored⟩ := itemsOfJson_itemsToJson items finite.item
      refine ⟨.array read, ?_, congrArg Json.array same, fun shaped => ?_⟩
      · show (itemsOfJson (itemsToJson items)).map Value.array = _
        rw [done]
        rfl
      · rw [restored shaped.item]
  | dict entries =>
      obtain ⟨read, done, same, restored⟩ := entriesOfJson_entriesToJson entries finite.entry
      refine ⟨.dict read, ?_, congrArg Json.object same, fun shaped => ?_⟩
      · show (entriesOfJson (entriesToJson entries)).map Value.dict = _
        rw [done]
        rfl
      · rw [restored shaped.entry]

theorem itemsOfJson_itemsToJson (items : List Value) (finite : ∀ v ∈ items, v.Finite) :
    ∃ read, itemsOfJson (itemsToJson items) = .ok read ∧ itemsToJson read = itemsToJson items ∧
      ((∀ v ∈ items, v.Shaped) → read = items) := by
  cases items with
  | nil => exact ⟨[], rfl, rfl, fun _ => rfl⟩
  | cons v rest =>
      obtain ⟨w, first, sameFirst, restoredFirst⟩ := ofJson_toJson v (finite v List.mem_cons_self)
      obtain ⟨ws, later, sameLater, restoredLater⟩ :=
        itemsOfJson_itemsToJson rest fun v member => finite v (List.mem_cons_of_mem _ member)
      refine ⟨w :: ws, ?_, ?_, fun shaped => ?_⟩
      · show (ofJson v.toJson >>= fun w => itemsOfJson (itemsToJson rest) >>= fun ws => pure (w :: ws)) = _
        rw [first, later]
        rfl
      · show w.toJson :: itemsToJson ws = v.toJson :: itemsToJson rest
        rw [sameFirst, sameLater]
      · rw [restoredFirst (shaped v List.mem_cons_self),
          restoredLater fun v member => shaped v (List.mem_cons_of_mem _ member)]

theorem entriesOfJson_entriesToJson (entries : List (String × Value))
    (finite : ∀ key v, (key, v) ∈ entries → v.Finite) :
    ∃ read, entriesOfJson (entriesToJson entries) = .ok read ∧
      entriesToJson read = entriesToJson entries ∧
      ((∀ key v, (key, v) ∈ entries → v.Shaped) → read = entries) := by
  cases entries with
  | nil => exact ⟨[], rfl, rfl, fun _ => rfl⟩
  | cons entry rest =>
      obtain ⟨key, v⟩ := entry
      obtain ⟨w, first, sameFirst, restoredFirst⟩ := ofJson_toJson v (finite key v List.mem_cons_self)
      obtain ⟨ws, later, sameLater, restoredLater⟩ :=
        entriesOfJson_entriesToJson rest fun key v member => finite key v (List.mem_cons_of_mem _ member)
      refine ⟨(key, w) :: ws, ?_, ?_, fun shaped => ?_⟩
      · show (ofJson v.toJson >>= fun w => entriesOfJson (entriesToJson rest) >>= fun ws =>
          pure ((key, w) :: ws)) = _
        rw [first, later]
        rfl
      · show (key, w.toJson) :: entriesToJson ws = (key, v.toJson) :: entriesToJson rest
        rw [sameFirst, sameLater]
      · rw [restoredFirst (shaped key v List.mem_cons_self),
          restoredLater fun key v member => shaped key v (List.mem_cons_of_mem _ member)]

end

/-- Asked for by its type, a value comes back as it was, in whole seconds if it is a datetime. -/
theorem ofJsonAs_toJson (v : Value) (finite : v.Finite) (shaped : v.ShapedBelow)
    (whole : ∀ t, v = .datetime t → t.nanos.val = 0) : ofJsonAs v.toJson v.type = .ok v := by
  cases v with
  | integer n =>
      simp only [toJson, type, ofJsonAs, int64?_int, Option.map_some]
  | number x =>
      rw [toJson_number (finite x (.here _))]
      rfl
  | string s => rfl
  | boolean b => rfl
  | color c =>
      simp only [toJson, type, ofJsonAs, Color.parse_text, Except.toOption, Option.map_some]
  | url s => rfl
  | datetime t =>
      have nanos := whole t rfl
      have same : { t with nanos := Calendar.DateTime.wholeSecond } = t := by
        cases t
        simp only [Calendar.DateTime.mk.injEq, true_and]
        exact Fin.ext nanos.symm
      have read := Calendar.readDateTime_text t (by omega)
      rw [same] at read
      simp only [toJson, type, ofJsonAs, read, Option.map_some]
  | array items =>
      obtain ⟨w, done, -, restored⟩ := ofJson_toJson (.array items) finite
      rw [restored (shaped.shaped (by simp [IsText, type]))] at done
      exact done
  | dict entries =>
      obtain ⟨w, done, -, restored⟩ := ofJson_toJson (.dict entries) finite
      rw [restored (shaped.shaped (by simp [IsText, type]))] at done
      exact done

theorem type_of_ofJsonAs {json : Json} {t : ValueType} {v : Value} (read : ofJsonAs json t = .ok v) :
    v.type = t := by
  unfold ofJsonAs at read
  extract_lets orMismatch at read
  have given (found : Option Value) (done : orMismatch found = .ok v) : found = some v := by
    cases found with
    | none => cases done
    | some w => exact congrArg some (Except.ok.inj done)
  have mapped {α : Type} (make : α → Value) (typed : ∀ a, (make a).type = t) (found : Option α)
      (done : orMismatch (found.map make) = .ok v) : v.type = t := by
    obtain ⟨a, -, rfl⟩ := Option.map_eq_some_iff.mp (given _ done)
    exact typed a
  split at read
  case h_5 n =>
    obtain ⟨i, -, bit⟩ := Option.bind_eq_some_iff.mp (given _ read)
    split at bit
    · cases bit
      rfl
    · split at bit
      · cases bit
        rfl
      · cases bit
  case h_9 items =>
    cases done : itemsOfJson items with
    | error e =>
        rw [done] at read
        cases read
    | ok values =>
        rw [done] at read
        cases read
        rfl
  case h_10 members =>
    cases done : entriesOfJson members with
    | error e =>
        rw [done] at read
        cases read
    | ok entries =>
        rw [done] at read
        cases read
        rfl
  all_goals first
    | exact mapped _ (fun _ => rfl) _ read
    | cases read <;> rfl

/-- The JSON of every value without infinite numbers and NaN is read back to a value of the same JSON, and to
the value itself where it holds no color, url or datetime. Asked for by its type, it is read back as it was
if its elements hold none of these, colors, urls and datetimes of whole seconds included. What is read as
a type is of this type. -/
theorem json_roundTrip :
    (∀ v : Value, v.Finite →
      (∃ w, ofJson v.toJson = .ok w ∧ w.toJson = v.toJson ∧ (v.Shaped → w = v)) ∧
        (v.ShapedBelow → (∀ t, v = .datetime t → t.nanos.val = 0) → ofJsonAs v.toJson v.type = .ok v)) ∧
    ∀ (json : Json) (t : ValueType) (v : Value), ofJsonAs json t = .ok v → v.type = t := by
  refine ⟨fun v finite => ⟨ofJson_toJson v finite, ofJsonAs_toJson v finite⟩, ?_⟩
  exact fun json t v => type_of_ofJsonAs

/-- A dict of a color and an array comes back with the text of the color, the array as it was, and an instant
of the year 12345 as it was where an instant is asked for. -/
theorem json_roundTrip_of_year :
    ∃ (c : Color) (t : Calendar.DateTime) (list w : Value),
      c.text = "#80FF0000" ∧ t.text = "+12345-06-07 08:09:10" ∧ list = .array [.integer 3, .boolean true] ∧
        list.Finite ∧ list.Shaped ∧ ofJson list.toJson = .ok list ∧
        ofJson (Value.dict [("a", .color c), ("b", list)]).toJson = .ok w ∧
        w.toJson = (Value.dict [("a", .color c), ("b", list)]).toJson ∧
        ofJsonAs (Value.color c).toJson .color = .ok (.color c) ∧
        ofJsonAs (Value.datetime t).toJson .datetime = .ok (.datetime t) ∧
        ∀ v, ofJsonAs (.string "x") .url = .ok v → v.type = .url := by
  let c : Color := ⟨0x80FF0000⟩
  let t : Calendar.DateTime :=
    ⟨⟨12345, 6, 7, by decide⟩, ⟨8, by decide⟩, ⟨9, by decide⟩, ⟨10, by decide⟩, ⟨0, by decide⟩⟩
  let list : Value := .array [.integer 3, .boolean true]
  have types (w : Value) (occurs : Occurs w (.array [.integer 3, .boolean true])) :
      w.type = .array ∨ w.type = .integer ∨ w.type = .boolean := by
    cases occurs with
    | here => exact .inl rfl
    | item member occurs =>
        simp only [List.mem_cons, List.not_mem_nil, or_false] at member
        rcases member with rfl | rfl
        · cases occurs
          exact .inr (.inl rfl)
        · cases occurs
          exact .inr (.inr rfl)
  have finite : list.Finite := by
    intro x occurs
    rcases types _ occurs with same | same | same <;> cases same
  have shaped : list.Shaped := by
    intro w occurs
    rcases types w occurs with same | same | same <;> simp [IsText, same]
  have both : (Value.dict [("a", .color c), ("b", list)]).Finite := by
    intro x occurs
    cases occurs with
    | entry member occurs =>
        simp only [List.mem_cons, List.not_mem_nil, or_false, Prod.mk.injEq] at member
        rcases member with ⟨-, rfl⟩ | ⟨-, rfl⟩
        · cases occurs
        · exact finite x occurs
  obtain ⟨same, done, -, restored⟩ := (json_roundTrip.1 list finite).1
  rw [restored shaped] at done
  obtain ⟨w, read, again, -⟩ := (json_roundTrip.1 _ both).1
  have ofColor := (json_roundTrip.1 (.color c) fun x occurs => by cases occurs).2
    (fun w occurs => by cases occurs; exact .inl rfl) (fun t same => by cases same)
  have ofInstant := (json_roundTrip.1 (.datetime t) fun x occurs => by cases occurs).2
    (fun w occurs => by cases occurs; exact .inl rfl) (fun t same => by cases same; rfl)
  refine ⟨c, t, list, w, by decide, by decide, rfl, finite, shaped, done, read, again, ofColor, ofInstant, ?_⟩
  exact fun v read => json_roundTrip.2 _ _ v read

end Value

end CardExpr
