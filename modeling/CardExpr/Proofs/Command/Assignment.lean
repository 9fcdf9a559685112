import Mathlib.Logic.Function.Basic
import CardExpr.Command.Variables
import CardExpr.Proofs.Store.Snapshot
import CardExpr.Proofs.Store.Typing
import CardExpr.Proofs.Token.Slice
import CardExpr.Proofs.Value.Reading

/-!
Assignments from the command line. They come to what each name on its own is given: the first value of a new
name fixes its type, and every other one is read as the type that the name has.
-/

namespace CardExpr

namespace Command

/-- What a value on the command line means: itself, if it is no JSON. -/
inductive Means (raw : String) : Json → Prop where
  | json {json : Json} (read : Json.read? raw = some json) : Means raw json
  | text (unread : Json.read? raw = none) : Means raw (.string raw)

/-- The text gives a value to a name: there is an equals sign between them, the first one of the text, and the
blanks around the name do not count. -/
inductive Spells (text : String) : String → Json → Prop where
  | intro {front back : List Char} {json : Json} (split : text.toList = front ++ '=' :: back)
      (first : '=' ∉ front) (named : Text.trim front ≠ []) (means : Means (String.ofList back) json) :
      Spells text (String.ofList (Text.trim front)) json

/-- The text gives nothing to any name. -/
inductive Misspelled (text : String) : Prop where
  | unsplit (absent : '=' ∉ text.toList)
  | unnamed {front back : List Char} (split : text.toList = front ++ '=' :: back) (first : '=' ∉ front)
      (blank : Text.trim front = [])

section

variable {ε δ α β : Type} {x : Except ε α} {f : ε → δ} {g : α → β}

theorem map_mapError_eq_ok_iff (b : β) : (x.mapError f).map g = .ok b ↔ ∃ a, x = .ok a ∧ b = g a := by
  cases x <;> simp [Except.mapError, Except.map, eq_comm]

theorem map_mapError_eq_error_iff (c : δ) : (x.mapError f).map g = .error c ↔
    ∃ e, x = .error e ∧ c = f e := by
  cases x <;> simp [Except.mapError, Except.map, eq_comm]

end

variable {text : String}

theorem means_iff (raw : String) (json : Json) :
    Means raw json ↔ (Json.read? raw).getD (.string raw) = json := by
  constructor
  · intro means
    cases means with
    | json read => rw [read, Option.getD_some]
    | text unread => rw [unread, Option.getD_none]
  · rintro rfl
    cases read : Json.read? raw with
    | none => exact .text read
    | some json => exact .json read

theorem readAssignment_of_split {front back : List Char} (split : text.toList = front ++ '=' :: back)
    (first : '=' ∉ front) :
    readAssignment text =
      if (Text.trim front).isEmpty then .error (.invalidAssignment text)
      else .ok (String.ofList (Text.trim front),
        (Json.read? (String.ofList back)).getD (.string (String.ofList back))) := by
  have cut : text.toList.span (· != '=') = (front, '=' :: back) := by
    rw [split]
    apply Spelling.span_append
    · intro c member
      simpa using ne_of_mem_of_not_mem member first
    · rfl
  unfold readAssignment
  rw [cut]

theorem readAssignment_of_absent (absent : '=' ∉ text.toList) :
    readAssignment text = .error (.invalidAssignment text) := by
  have cut : text.toList.span (· != '=') = (text.toList, []) := by
    rw [List.span_eq_takeWhile_dropWhile, List.takeWhile_eq_self_iff.mpr, List.dropWhile_eq_nil_iff.mpr]
    all_goals
      intro c member
      simpa using ne_of_mem_of_not_mem member absent
  unfold readAssignment
  rw [cut]

theorem exists_split (text : String) : '=' ∉ text.toList ∨
    ∃ front back, text.toList = front ++ '=' :: back ∧ '=' ∉ front := by
  by_cases present : '=' ∈ text.toList
  · exact .inr (List.eq_append_cons_of_mem present)
  · exact .inl present

theorem readAssignment_eq_ok_iff (name : String) (json : Json) :
    readAssignment text = .ok (name, json) ↔ Spells text name json := by
  constructor
  · intro read
    rcases exists_split text with absent | ⟨front, back, split, first⟩
    · rw [readAssignment_of_absent absent] at read
      cases read
    · rw [readAssignment_of_split split first] at read
      split at read
      next => cases read
      next named =>
        cases read
        exact .intro split first (by simpa using named) ((means_iff _ _).mpr rfl)
  · rintro ⟨split, first, named, means⟩
    rw [readAssignment_of_split split first, if_neg (by simpa using named), (means_iff _ _).mp means]

theorem readAssignment_eq_error_iff (e : CommandError) :
    readAssignment text = .error e ↔ Misspelled text ∧ e = .invalidAssignment text := by
  constructor
  · intro failed
    rcases exists_split text with absent | ⟨front, back, split, first⟩
    · rw [readAssignment_of_absent absent] at failed
      cases failed
      exact ⟨.unsplit absent, rfl⟩
    · rw [readAssignment_of_split split first] at failed
      split at failed
      next blank =>
        cases failed
        exact ⟨.unnamed split first (by simpa using blank), rfl⟩
      next => cases failed
  · rintro ⟨misspelled, rfl⟩
    cases misspelled with
    | unsplit absent => exact readAssignment_of_absent absent
    | unnamed split first blank => rw [readAssignment_of_split split first, if_pos (by simpa using blank)]

abbrev Variables := String → Option Held

/-- What a name stands for once it is given a value. The first value fixes the type of a new name; any other
is read as the type that the name has, and is not written if it is the same as the held one. -/
inductive Gives : Option Held → Json → Held → Prop where
  | fresh {json : Json} {value : Value} (spells : json.SpellsValue value) :
      Gives none json ⟨value.type, value⟩
  | kept {held : Held} {json : Json} {value : Value} (spells : json.SpellsAs held.type value)
      (same : held.value.same value = true) : Gives (some held) json held
  | written {held : Held} {json : Json} {value : Value} (spells : json.SpellsAs held.type value)
      (differs : held.value.same value = false) : Gives (some held) json { held with value := value }

/-- The value cannot be read as one of the type that the name has, or of any if the name is new. -/
inductive Withholds : Option Held → Json → ConversionError → Prop where
  | fresh {json : Json} (null : json.HasNull) : Withholds none json ⟨.dict, "null"⟩
  | known {held : Held} {json : Json} {e : ConversionError} (mismatches : json.Mismatches held.type e) :
      Withholds (some held) json e

/-- What a name stands for after it was given these values, one after another. -/
inductive Comes : Option Held → List Json → Option Held → Prop where
  | nil (held : Option Held) : Comes held [] held
  | cons {held : Option Held} {json : Json} {next : Held} {rest : List Json} {last : Option Held}
      (first : Gives held json next) (later : Comes (some next) rest last) : Comes held (json :: rest) last

/-- The variables after an assignment: only the assigned name may stand for something else. -/
inductive Assigns (vars : Variables) (text : String) : Variables → Prop where
  | intro {name : String} {json : Json} {next : Held} (spells : Spells text name json)
      (gives : Gives (vars name) json next) : Assigns vars text (Function.update vars name (some next))

inductive Refuses (vars : Variables) (text : String) : CommandError → Prop where
  | misspelled (misspelled : Misspelled text) : Refuses vars text (.invalidAssignment text)
  | withheld {name : String} {json : Json} {e : ConversionError} (spells : Spells text name json)
      (withholds : Withholds (vars name) json e) : Refuses vars text (.conversion e)

/-- The values that the texts give to a name, in their order. Every text gives a value to some name. -/
inductive Given (name : String) : List String → List Json → Prop where
  | nil : Given name [] []
  | here {text : String} {texts : List String} {json : Json} {jsons : List Json}
      (spells : Spells text name json)
      (later : Given name texts jsons) : Given name (text :: texts) (json :: jsons)
  | other {text other : String} {texts : List String} {json : Json} {jsons : List Json}
      (spells : Spells text other json) (apart : other ≠ name) (later : Given name texts jsons) :
      Given name (text :: texts) jsons

/-- The variables after assignments, all of which were read: each name stands for what it comes to by its own
ones. -/
def Known (file : Variables) (texts : List String) (vars : Variables) : Prop :=
  ∀ name, ∃ jsons, Given name texts jsons ∧ Comes (file name) jsons (vars name)

variable {file vars : Variables} {texts : List String} {name : String} {json : Json} {jsons : List Json}

theorem Spells.unique {other : String} {also : Json} (spells : Spells text name json)
    (again : Spells text other also) : other = name ∧ also = json := by
  have read := (readAssignment_eq_ok_iff name json).mpr spells
  rw [(readAssignment_eq_ok_iff other also).mpr again] at read
  cases read
  exact ⟨rfl, rfl⟩

theorem given_cons_self (spells : Spells text name json) :
    Given name (text :: texts) jsons ↔ ∃ rest, jsons = json :: rest ∧ Given name texts rest := by
  constructor
  · intro given
    cases given with
    | here again later =>
        obtain ⟨-, rfl⟩ := spells.unique again
        exact ⟨_, rfl, later⟩
    | other again apart => exact absurd (spells.unique again).1 apart
  · rintro ⟨rest, rfl, later⟩
    exact .here spells later

theorem given_cons_of_ne {other : String} (spells : Spells text other json) (apart : other ≠ name) :
    Given name (text :: texts) jsons ↔ Given name texts jsons := by
  constructor
  · intro given
    cases given with
    | here again => exact absurd (spells.unique again).1.symm apart
    | other _ _ later => exact later
  · exact .other spells apart

theorem Given.exists_spells (given : Given name (text :: texts) jsons) :
    ∃ other json, Spells text other json := by
  cases given with
  | here spells => exact ⟨_, _, spells⟩
  | other spells => exact ⟨_, _, spells⟩

theorem comes_nil {held last : Option Held} : Comes held [] last ↔ last = held := by
  constructor
  · intro comes
    cases comes
    rfl
  · rintro rfl
    exact .nil _

theorem known_nil : Known file [] vars ↔ vars = file := by
  constructor
  · intro known
    funext name
    obtain ⟨jsons, given, comes⟩ := known name
    cases given
    exact comes_nil.mp comes
  · rintro rfl name
    exact ⟨[], .nil, .nil _⟩

theorem known_cons : Known file (text :: texts) vars ↔
    ∃ next, Assigns file text next ∧ Known next texts vars := by
  constructor
  · intro known
    obtain ⟨_, given, -⟩ := known ""
    obtain ⟨name, json, spells⟩ := given.exists_spells
    obtain ⟨_, here, comes⟩ := known name
    obtain ⟨rest, rfl, others⟩ := (given_cons_self spells).mp here
    cases comes with
    | cons gives later =>
        refine ⟨_, .intro spells gives, fun other => ?_⟩
        by_cases same : name = other
        · subst same
          rw [Function.update_self]
          exact ⟨rest, others, later⟩
        · obtain ⟨jsons, given, comes⟩ := known other
          rw [Function.update_of_ne (Ne.symm same)]
          exact ⟨jsons, (given_cons_of_ne spells same).mp given, comes⟩
  · rintro ⟨_, @⟨name, json, next, spells, gives⟩, known⟩ other
    obtain ⟨jsons, given, comes⟩ := known other
    by_cases same : name = other
    · subst same
      rw [Function.update_self] at comes
      exact ⟨json :: jsons, .here spells given, .cons gives comes⟩
    · rw [Function.update_of_ne (Ne.symm same)] at comes
      exact ⟨jsons, .other spells same given, comes⟩

theorem refused_cons (e : CommandError) :
    (∃ before other after vars, text :: texts = before ++ other :: after ∧ Known file before vars ∧
      Refuses vars other e) ↔
      Refuses file text e ∨ ∃ next, Assigns file text next ∧
        ∃ before other after vars, texts = before ++ other :: after ∧ Known next before vars ∧
        Refuses vars other e := by
  constructor
  · rintro ⟨before, other, after, vars, split, known, refused⟩
    cases before with
    | nil =>
        cases split
        rw [known_nil] at known
        exact .inl (known ▸ refused)
    | cons head before =>
        cases split
        obtain ⟨next, assigns, known⟩ := known_cons.mp known
        exact .inr ⟨next, assigns, before, other, _, vars, rfl, known, refused⟩
  · rintro (refused | ⟨next, assigns, before, other, after, vars, rfl, known, refused⟩)
    · exact ⟨[], text, texts, file, rfl, known_nil.mpr rfl, refused⟩
    · exact ⟨text :: before, other, after, vars, rfl, known_cons.mpr ⟨next, assigns, known⟩, refused⟩

/-- The value that is held is the one that was given, but for one that is the same. -/
theorem Gives.exists_spells {held : Option Held} {next : Held} (gives : Gives held json next) :
    ∃ value, json.SpellsAs next.type value ∧ (next.value = value ∨ next.value.same value = true) := by
  cases gives with
  | fresh spells => exact ⟨_, spells.spellsAs, .inl rfl⟩
  | kept spells same => exact ⟨_, spells, .inr same⟩
  | written spells => exact ⟨_, spells, .inl rfl⟩

theorem Gives.type_eq {held next : Held} (gives : Gives (some held) json next) : next.type = held.type := by
  cases gives <;> rfl

namespace Comes

variable {held last : Option Held} {jsons : List Json}

theorem type_eq {held : Held} (comes : Comes (some held) jsons last) :
    ∃ final, last = some final ∧ final.type = held.type := by
  induction jsons generalizing held with
  | nil => exact ⟨held, comes_nil.mp comes, rfl⟩
  | cons json rest ih =>
      cases comes with
      | cons gives later =>
          obtain ⟨final, same, typed⟩ := ih later
          exact ⟨final, same, typed.trans gives.type_eq⟩

theorem type_of_fresh (comes : Comes none (json :: jsons) last) :
    ∃ value final, json.SpellsValue value ∧ last = some final ∧ final.type = value.type := by
  cases comes with
  | cons gives later =>
      cases gives with
      | @fresh _ value spells =>
          obtain ⟨final, same, typed⟩ := later.type_eq
          exact ⟨value, final, spells, same, typed⟩

theorem last_spelled (comes : Comes held (jsons ++ [json]) last) :
    ∃ final value, last = some final ∧ json.SpellsAs final.type value ∧
      (final.value = value ∨ final.value.same value = true) := by
  induction jsons generalizing held with
  | nil =>
      cases comes with
      | cons gives later =>
          obtain ⟨value, spells, kept⟩ := gives.exists_spells
          exact ⟨_, value, comes_nil.mp later, spells, kept⟩
  | cons first rest ih =>
      cases comes with
      | cons _ later => exact ih later

end Comes

section

variable {s : Stores} {id : ScopeId}

theorem assign_of_misspelled (misspelled : Misspelled text) :
    assign s id text = .error (.invalidAssignment text) := by
  unfold assign
  rw [(readAssignment_eq_error_iff _).mpr ⟨misspelled, rfl⟩]
  rfl

theorem assign_of_declared {t : ValueType} (spells : Spells text name json)
    (declared : s.declaredType? id name = some t) :
    assign s id text = (do
      let value ← (Value.ofJsonAs json t).mapError .conversion
      let m ← (s.set id name value).mapError .variable
      pure m.stores) := by
  simp only [assign, (readAssignment_eq_ok_iff name json).mpr spells, declared, bind, Except.bind]

theorem assign_of_undeclared (spells : Spells text name json) (undeclared : s.declaredType? id name = none) :
    assign s id text = (do
      let value ← (Value.ofJson json).mapError .conversion
      let m ← (s.declareAll id [.infer name value]).mapError .variable
      pure m.stores) := by
  simp only [assign, (readAssignment_eq_ok_iff name json).mpr spells, undeclared, bind, Except.bind]

end

/-- There is one store, and these are its variables. -/
structure Shows (s : Stores) (vars : Variables) : Prop where
  inside : 0 < s.all.length
  chain_eq : s.chain 0 = [0]
  own_eq : ∀ name, s.own? 0 name = vars name

namespace Shows

variable {s : Stores} {held : Held}

theorem unique {other : Variables} (shows : Shows s vars) (again : Shows s other) : other = vars :=
  funext fun name => (again.own_eq name).symm.trans (shows.own_eq name)

theorem owns (shows : Shows s vars) (known : vars name = some held) : s.Owns 0 name 0 held :=
  ⟨⟨[], [], shows.chain_eq, fun _ member => absurd member List.not_mem_nil⟩, (shows.own_eq name).trans known⟩

theorem put (shows : Shows s vars) (name : String) (held : Held) :
    Shows (s.put 0 name held) (Function.update vars name (some held)) where
  inside := (s.length_modify 0 _).symm ▸ shows.inside
  chain_eq := (congrArg (0 :: ·) (s.ancestors_put 0 0 name held)).trans shows.chain_eq
  own_eq other := by
    rw [Stores.own?_put]
    by_cases same : name = other
    · subst same
      rw [if_pos ⟨rfl, shows.inside, rfl⟩, Function.update_self]
    · rw [if_neg fun place => same place.2.2, Function.update_of_ne (Ne.symm same), shows.own_eq]

theorem declaredType?_eq (shows : Shows s vars) (name : String) :
    s.declaredType? 0 name = (vars name).map (·.type) := by
  cases known : vars name with
  | some held => exact Stores.declaredType?_eq_some_iff.mpr ⟨0, held, shows.owns known, rfl⟩
  | none =>
      rw [Option.map_none, Option.eq_none_iff_forall_ne_some]
      intro type found
      obtain ⟨owner, held, owns, -⟩ := Stores.declaredType?_eq_some_iff.mp found
      obtain ⟨inner, outer, chain, -⟩ := owns.innermost
      have member : owner ∈ s.chain 0 := chain ▸ List.mem_append_right inner List.mem_cons_self
      rw [shows.chain_eq] at member
      cases List.mem_singleton.mp member
      cases (shows.own_eq name).symm.trans owns.holds |>.symm.trans known

theorem assign_of_known (shows : Shows s vars) (spells : Spells text name json)
    (known : vars name = some held) :
    assign s 0 text = ((Value.ofJsonAs json held.type).mapError .conversion).map fun value =>
      if held.value.same value then s else s.put 0 name { held with value := value } := by
  have declared : s.declaredType? 0 name = some held.type := by
    rw [shows.declaredType?_eq, known, Option.map_some]
  rw [assign_of_declared spells declared]
  cases read : Value.ofJsonAs json held.type with
  | error e => rfl
  | ok value =>
      have fits : conformTo name held.type value = .ok value := by
        unfold conformTo
        rw [← Value.type_of_ofJsonAs read, (value.fits_iff _ _).mp (.exact value)]
      have checked : s.check 0 (name, value) = (conformTo name held.type value).map fun v => ⟨0, name, v⟩ :=
        s.check_of_owns 0 (shows.owns known)
      rw [fits] at checked
      show ((s.set 0 name value).mapError CommandError.variable >>= fun m => pure m.stores) = .ok _
      rw [s.set_eq, checked]
      show Except.ok (Mutation.write { stores := s } ⟨0, name, value⟩).stores = _
      rw [Stores.stores_write]
      unfold Stores.write
      rw [(shows.own_eq name).trans known]

theorem assign_of_unknown (shows : Shows s vars) (spells : Spells text name json)
    (unknown : vars name = none) :
    assign s 0 text = ((Value.ofJson json).mapError .conversion).map fun value =>
      s.put 0 name ⟨value.type, value⟩ := by
  have undeclared : s.declaredType? 0 name = none := by
    rw [shows.declaredType?_eq, unknown, Option.map_none]
  rw [assign_of_undeclared spells undeclared]
  cases Value.ofJson json with
  | error e => rfl
  | ok value =>
      have free : s.Declarable 0 [.infer name value] := by
        refine ⟨List.nodup_singleton _, ?_⟩
        intro v member
        cases List.mem_singleton.mp member
        exact (shows.own_eq name).trans unknown
      show ((s.declareAll 0 [.infer name value]).mapError CommandError.variable >>= fun m =>
        pure m.stores) = .ok _
      rw [(s.declareAll_eq_ok_iff 0 _ _).mpr ⟨free, rfl⟩]
      rfl

theorem assign_eq_error_iff (shows : Shows s vars) (e : CommandError) :
    assign s 0 text = .error e ↔ Refuses vars text e := by
  constructor
  · intro failed
    cases read : readAssignment text with
    | error c =>
        obtain ⟨misspelled, rfl⟩ := (readAssignment_eq_error_iff c).mp read
        rw [assign_of_misspelled misspelled] at failed
        cases failed
        exact .misspelled misspelled
    | ok pair =>
        obtain ⟨name, json⟩ := pair
        have spells := (readAssignment_eq_ok_iff name json).mp read
        cases known : vars name with
        | some held =>
            rw [shows.assign_of_known spells known, map_mapError_eq_error_iff] at failed
            obtain ⟨c, unread, rfl⟩ := failed
            exact .withheld spells (known ▸ .known ((Value.ofJsonAs_eq_error_iff _ _ _).mp unread))
        | none =>
            rw [shows.assign_of_unknown spells known, map_mapError_eq_error_iff] at failed
            obtain ⟨c, unread, rfl⟩ := failed
            obtain ⟨null, rfl⟩ := (Value.ofJson_eq_error_iff _ _).mp unread
            exact .withheld spells (known ▸ .fresh null)
  · intro refuses
    cases refuses with
    | misspelled misspelled => exact assign_of_misspelled misspelled
    | @withheld name json c spells withholds =>
        generalize known : vars name = held at withholds
        cases withholds with
        | known mismatches =>
            rw [shows.assign_of_known spells known, map_mapError_eq_error_iff]
            exact ⟨c, (Value.ofJsonAs_eq_error_iff _ _ _).mpr mismatches, rfl⟩
        | fresh null =>
            rw [shows.assign_of_unknown spells known, map_mapError_eq_error_iff]
            exact ⟨_, (Value.ofJson_eq_error_iff _ _).mpr ⟨null, rfl⟩, rfl⟩

theorem update_eq {held : Held} (known : vars name = some held) :
    Function.update vars name (some held) = vars := known ▸ Function.update_eq_self name vars

theorem assigns_of_assign (shows : Shows s vars) {t : Stores} (done : assign s 0 text = .ok t) :
    ∃ next, Shows t next ∧ Assigns vars text next := by
  cases read : readAssignment text with
  | error c =>
      rw [assign_of_misspelled ((readAssignment_eq_error_iff c).mp read).1] at done
      cases done
  | ok pair =>
      obtain ⟨name, json⟩ := pair
      have spells := (readAssignment_eq_ok_iff name json).mp read
      cases known : vars name with
      | some held =>
          rw [shows.assign_of_known spells known, map_mapError_eq_ok_iff] at done
          obtain ⟨value, read, rfl⟩ := done
          have typed := (Value.ofJsonAs_eq_ok_iff _ _ _).mp read
          split
          next same =>
            have assigns : Assigns vars text (Function.update vars name (some held)) :=
              .intro spells (known ▸ .kept typed same)
            rw [update_eq known] at assigns
            exact ⟨vars, shows, assigns⟩
          next differs =>
            exact ⟨_, shows.put _ _, .intro spells (known ▸ .written typed (Bool.eq_false_iff.mpr differs))⟩
      | none =>
          rw [shows.assign_of_unknown spells known, map_mapError_eq_ok_iff] at done
          obtain ⟨value, read, rfl⟩ := done
          exact ⟨_, shows.put _ _, .intro spells (known ▸ .fresh ((Value.ofJson_eq_ok_iff _ _).mp read))⟩

theorem exists_assign (shows : Shows s vars) {next : Variables} (assigns : Assigns vars text next) :
    ∃ t, assign s 0 text = .ok t ∧ Shows t next := by
  obtain ⟨spells, gives⟩ := assigns
  rename_i name json next
  generalize known : vars name = held at gives
  cases gives with
  | @fresh _ value own =>
      refine ⟨s.put 0 name _, ?_, shows.put _ _⟩
      rw [shows.assign_of_unknown spells known, map_mapError_eq_ok_iff]
      exact ⟨value, (Value.ofJson_eq_ok_iff _ _).mpr own, rfl⟩
  | @kept held _ value typed same =>
      refine ⟨s, ?_, (update_eq known).symm ▸ shows⟩
      rw [shows.assign_of_known spells known, map_mapError_eq_ok_iff]
      exact ⟨value, (Value.ofJsonAs_eq_ok_iff _ _ _).mpr typed, (if_pos same).symm⟩
  | @written held _ value typed differs =>
      refine ⟨s.put 0 name _, ?_, shows.put _ _⟩
      rw [shows.assign_of_known spells known, map_mapError_eq_ok_iff]
      exact ⟨value, (Value.ofJsonAs_eq_ok_iff _ _ _).mpr typed, (if_neg (Bool.eq_false_iff.mp differs)).symm⟩

/-- Assignments that all succeed leave each name with what it comes to. -/
theorem known_of_foldlM (shows : Shows s file) {t : Stores} (done : texts.foldlM (assign · 0) s = .ok t) :
    ∃ vars, Shows t vars ∧ Known file texts vars := by
  induction texts generalizing s file with
  | nil =>
      cases done
      exact ⟨file, shows, known_nil.mpr rfl⟩
  | cons text texts ih =>
      rw [List.foldlM_cons] at done
      cases first : assign s 0 text with
      | error e =>
          rw [first] at done
          cases done
      | ok u =>
          rw [first] at done
          obtain ⟨next, between, assigns⟩ := shows.assigns_of_assign first
          obtain ⟨vars, after, known⟩ := ih between done
          exact ⟨vars, after, known_cons.mpr ⟨next, assigns, known⟩⟩

theorem exists_foldlM (shows : Shows s file) (known : Known file texts vars) :
    ∃ t, texts.foldlM (assign · 0) s = .ok t ∧ Shows t vars := by
  induction texts generalizing s file with
  | nil =>
      rw [known_nil] at known
      exact ⟨s, rfl, known ▸ shows⟩
  | cons text texts ih =>
      obtain ⟨next, assigns, known⟩ := known_cons.mp known
      obtain ⟨u, first, between⟩ := shows.exists_assign assigns
      obtain ⟨t, later, after⟩ := ih between known
      refine ⟨t, ?_, after⟩
      rw [List.foldlM_cons, first]
      exact later

theorem foldlM_eq_error_iff (shows : Shows s file) (e : CommandError) :
    texts.foldlM (assign · 0) s = .error e ↔
      ∃ before text after vars, texts = before ++ text :: after ∧ Known file before vars ∧
      Refuses vars text e := by
  induction texts generalizing s file with
  | nil => exact ⟨nofun, fun ⟨before, _, _, _, split, _⟩ => by simp at split⟩
  | cons text texts ih =>
      rw [List.foldlM_cons, refused_cons]
      cases first : assign s 0 text with
      | error c =>
          constructor
          · intro failed
            cases failed
            exact .inl ((shows.assign_eq_error_iff _).mp first)
          · rintro (refused | ⟨next, assigns, -⟩)
            · exact first.symm.trans ((shows.assign_eq_error_iff e).mpr refused)
            · obtain ⟨u, done, -⟩ := shows.exists_assign assigns
              cases first.symm.trans done
      | ok u =>
          obtain ⟨next, between, assigns⟩ := shows.assigns_of_assign first
          refine (ih between).trans ?_
          constructor
          · intro later
            exact .inr ⟨next, assigns, later⟩
          · rintro (refused | ⟨middle, others, later⟩)
            · cases first.symm.trans ((shows.assign_eq_error_iff e).mpr refused)
            · obtain ⟨v, done, after⟩ := shows.exists_assign others
              cases first.symm.trans done
              exact between.unique after ▸ later

end Shows

end Command

end CardExpr
