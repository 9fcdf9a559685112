import CardExpr.Proofs.Card.Functions
import CardExpr.Proofs.Command.Reading

/-!
Variables files. A card declares each of its variables as a value of a type; an object of names and values
declares each value as one of its own type, and without a null it is never refused.
-/

namespace CardExpr

namespace Command

/-- The card's variables have names of their own, and each stands for its value, read as its type. -/
structure Declares (d : CardDeclarations) (vars : Variables) : Prop where
  distinct : (d.vars.map (·.name)).Nodup
  holds : ∀ p ∈ d.vars, ∃ value, p.value.SpellsAs p.type value ∧ vars p.name = some ⟨p.type, value⟩
  others : ∀ name, name ∉ d.vars.map (·.name) → vars name = none

/-- Why a card's variables are refused: for the first value that cannot be read as the type that it is
declared with, and if all can be, for the first name that is declared again. -/
inductive Misdeclares (d : CardDeclarations) : VariableError → Prop where
  | invalid {before after : List VariableDeclaration} {p : VariableDeclaration} {e : ConversionError}
      (split : d.vars = before ++ p :: after) (valid : ∀ q ∈ before, ∃ value, q.value.SpellsAs q.type value)
      (mismatches : p.value.Mismatches p.type e) : Misdeclares d (.invalidValue p.name e)
  | repeated {before after : List VariableDeclaration} {p : VariableDeclaration}
      (valid : ∀ q ∈ d.vars, ∃ value, q.value.SpellsAs q.type value) (split : d.vars = before ++ p :: after)
      (distinct : (before.map (·.name)).Nodup) (again : p.name ∈ before.map (·.name)) :
      Misdeclares d (.alreadyDeclared p.name)

theorem toVariable_eq (p : VariableDeclaration) :
    p.toVariable = ((Value.ofJsonAs p.value p.type).mapError (.invalidValue p.name)).map fun value =>
      ⟨⟨p.type, value⟩, p.name⟩ := by
  unfold VariableDeclaration.toVariable
  cases read : Value.ofJsonAs p.value p.type with
  | error e => rfl
  | ok value =>
      have fits : value.conform? p.type = some value := by
        rw [← Value.type_of_ofJsonAs read]
        exact (value.fits_iff _ _).mp (.exact value)
      show Variable.ofType p.name p.type value = _
      unfold Variable.ofType conformTo
      rw [fits]
      rfl

theorem toVariable_eq_ok_iff (p : VariableDeclaration) (v : Variable) :
    p.toVariable = .ok v ↔ ∃ value, p.value.SpellsAs p.type value ∧ v = ⟨⟨p.type, value⟩, p.name⟩ := by
  simp only [toVariable_eq, map_mapError_eq_ok_iff, Value.ofJsonAs_eq_ok_iff]

theorem toVariable_eq_error_iff (p : VariableDeclaration) (e : VariableError) :
    p.toVariable = .error e ↔ ∃ c, p.value.Mismatches p.type c ∧ e = .invalidValue p.name c := by
  simp only [toVariable_eq, map_mapError_eq_error_iff, Value.ofJsonAs_eq_error_iff]

theorem exists_toVariable_iff (p : VariableDeclaration) :
    (∃ v, p.toVariable = .ok v) ↔ ∃ value, p.value.SpellsAs p.type value := by
  simp only [toVariable_eq_ok_iff]
  constructor
  · rintro ⟨_, value, spells, -⟩
    exact ⟨value, spells⟩
  · rintro ⟨value, spells⟩
    exact ⟨_, value, spells, rfl⟩

variable {d : CardDeclarations} {vars : Variables} {s : Stores}

theorem names_of_made {ps : List VariableDeclaration} {vs : List Variable}
    (made : List.Forall₂ (fun p v => p.toVariable = .ok v) ps vs) : vs.map (·.name) = ps.map (·.name) := by
  induction made with
  | nil => rfl
  | @cons p v ps vs first _ ih =>
      obtain ⟨value, -, rfl⟩ := (toVariable_eq_ok_iff p v).mp first
      rw [List.map_cons, List.map_cons, ih]

/-- Where the names are the same, a list splits wherever the other one does. -/
theorem exists_split_of_names {α β : Type} {f : α → String} {g : β → String}
    {xs before after : List α} {x : α}
    {ys : List β} (names : xs.map f = ys.map g) (split : xs = before ++ x :: after) :
    ∃ front y back, ys = front ++ y :: back ∧ front.map g = before.map f ∧ g y = f x := by
  rw [split, List.map_append, List.map_cons] at names
  obtain ⟨front, rest, parts, same, later⟩ := List.map_eq_append_iff.mp names.symm
  obtain ⟨y, back, rfl, named, -⟩ := List.map_eq_cons_iff.mp later
  exact ⟨front, y, back, parts, same, named⟩

theorem exists_made {ps : List VariableDeclaration}
    (valid : ∀ p ∈ ps, ∃ value, p.value.SpellsAs p.type value) :
    ∃ vs, List.Forall₂ (fun p v => p.toVariable = .ok v) ps vs := by
  cases made : ps.mapM VariableDeclaration.toVariable with
  | ok vs => exact ⟨vs, (mapM_eq_ok_iff _ _ _).mp made⟩
  | error e =>
      obtain ⟨before, p, after, split, -, failed⟩ := (mapM_eq_error_iff _ _ _).mp made
      obtain ⟨v, ok⟩ := (exists_toVariable_iff p).mpr
        (valid p (split ▸ List.mem_append_right before List.mem_cons_self))
      cases failed.symm.trans ok

/-- A card declares its variables in one way only. -/
theorem Declares.unique {other : Variables} (declares : Declares d vars) (again : Declares d other) :
    other = vars := by
  funext name
  by_cases declared : name ∈ d.vars.map (·.name)
  · obtain ⟨p, member, rfl⟩ := List.mem_map.mp declared
    obtain ⟨value, spells, holds⟩ := declares.holds p member
    obtain ⟨_, same, also⟩ := again.holds p member
    rw [holds, also, spells.unique same]
  · rw [declares.others name declared, again.others name declared]

/-- The stores that a command begins with. -/
theorem shows_create : Shows (Stores.create {} none).2 fun _ => none :=
  ⟨Nat.zero_lt_one, rfl, fun _ => rfl⟩

namespace Shows

theorem declares_of_declareVariables (shows : Shows s fun _ => none) {m : Mutation}
    (done : d.declareVariables s 0 = .ok m) : ∃ vars, Shows m.stores vars ∧ Declares d vars := by
  have declared : d.declare s 0 = .ok m := by
    rw [d.declareVariables_eq] at done
    cases declared : d.declare s 0 with
    | error e =>
        rw [declared] at done
        cases done
    | ok n =>
        rw [declared] at done
        cases done
        rfl
  obtain ⟨vs, made, done⟩ := (d.declare_eq_ok_iff s 0 m).mp declared
  have names := names_of_made made
  have all := s.declaresAll_of_declareAll 0 done shows.inside
  obtain ⟨⟨distinct, -⟩, same⟩ := (s.declareAll_eq_ok_iff 0 vs m).mp done
  have inside : 0 < m.stores.all.length := by
    rw [same]
    exact List.foldlRecOn (motive := fun t : Stores => 0 < t.all.length) vs _ shows.inside
      fun t inside v _ => (t.length_modify 0 _).symm ▸ inside
  refine ⟨fun name => m.stores.own? 0 name, ⟨inside, (all.chain_eq 0).trans shows.chain_eq, fun _ => rfl⟩, ?_⟩
  refine ⟨names ▸ distinct, fun p member => ?_, fun name absent => ?_⟩
  · obtain ⟨v, present, ok⟩ := exists_right_of_mem made member
    obtain ⟨value, spells, rfl⟩ := (toVariable_eq_ok_iff p v).mp ok
    exact ⟨value, spells, all.declared _ present⟩
  · exact (all.others 0 name fun _ => names.symm ▸ absent).trans (shows.own_eq name)

theorem accepts (shows : Shows s fun _ => none) (distinct : (d.vars.map (·.name)).Nodup)
    (valid : ∀ p ∈ d.vars, ∃ value, p.value.SpellsAs p.type value) :
    ∃ m, d.declareVariables s 0 = .ok m := by
  obtain ⟨vs, made⟩ := exists_made valid
  have free : s.Declarable 0 vs := ⟨(names_of_made made).symm ▸ distinct, fun v _ => shows.own_eq v.name⟩
  have done : d.declare s 0 = .ok _ :=
    (d.declare_eq_ok_iff s 0 _).mpr ⟨vs, made, (s.declareAll_eq_ok_iff 0 vs _).mpr ⟨free, rfl⟩⟩
  have ok := d.declareVariables_eq s 0
  rw [done] at ok
  exact ⟨_, ok⟩

theorem exists_declareVariables (shows : Shows s fun _ => none) (declares : Declares d vars) :
    ∃ m, d.declareVariables s 0 = .ok m ∧ Shows m.stores vars := by
  obtain ⟨m, done⟩ := shows.accepts declares.distinct fun p member =>
    (declares.holds p member).imp fun _ => And.left
  obtain ⟨other, after, again⟩ := shows.declares_of_declareVariables done
  exact ⟨m, done, declares.unique again ▸ after⟩

theorem declareVariables_eq_error_iff (shows : Shows s fun _ => none) (e : DeclarationError) :
    d.declareVariables s 0 = .error e ↔ ∃ c, e = .variable c ∧ Misdeclares d c := by
  have clashes (c : VariableError) : d.Clashes s 0 c ↔ Misdeclares d c := by
    constructor
    · intro clashes
      cases clashes with
      | invalid split valid failed =>
          obtain ⟨c, mismatches, rfl⟩ := (toVariable_eq_error_iff _ _).mp failed
          exact .invalid split (fun q member => (exists_toVariable_iff q).mp (valid q member)) mismatches
      | @taken vs _ made overlaps =>
          obtain ⟨split, free, taken⟩ := overlaps
          rename_i before v after
          obtain ⟨front, p, back, parts, same, named⟩ := exists_split_of_names (names_of_made made) split
          have known : v.name ∈ before.map (·.name) := by
            rcases taken with declared | again
            · rw [shows.own_eq] at declared
              cases declared
            · exact again
          rw [← named]
          refine .repeated (fun q member => ?_) parts (same ▸ free.1) (same.symm ▸ named.symm ▸ known)
          obtain ⟨w, -, ok⟩ := exists_right_of_mem made member
          exact (exists_toVariable_iff q).mp ⟨w, ok⟩
    · intro misdeclares
      cases misdeclares with
      | invalid split valid mismatches =>
          exact .invalid split (fun q member => (exists_toVariable_iff q).mpr (valid q member))
            ((toVariable_eq_error_iff _ _).mpr ⟨_, mismatches, rfl⟩)
      | @repeated before after p valid split distinct again =>
          obtain ⟨vs, made⟩ := exists_made valid
          obtain ⟨front, v, back, parts, same, named⟩ := exists_split_of_names (names_of_made made).symm split
          rw [← named]
          refine .taken made (.intro parts ⟨same ▸ distinct, fun v _ => shows.own_eq v.name⟩ (.inr ?_))
          exact same.symm ▸ named.symm ▸ again
  rw [d.declareVariables_eq]
  simp only [← clashes, ← d.declare_eq_error_iff]
  cases d.declare s 0 with
  | ok m => exact ⟨nofun, fun ⟨_, _, failed⟩ => nomatch failed⟩
  | error c => simp [Except.mapError, eq_comm]

end Shows

theorem names_of_infers {members : List (String × Json)} {ps : List VariableDeclaration}
    (each : List.Forall₂ Infers members ps) : ps.map (·.name) = members.map (·.1) := by
  induction each with
  | nil => rfl
  | @cons member p members ps first _ ih =>
      cases first
      rw [List.map_cons, List.map_cons, ih]

theorem exists_infers {members : List (String × Json)}
    (full : ∀ name json, (name, json) ∈ members → ¬ json.HasNull) : ∃ ps, List.Forall₂ Infers members ps := by
  cases inferred : members.mapM inferDeclaration with
  | error e =>
      obtain ⟨⟨name, json, member, null⟩, -⟩ := (mapM_inferDeclaration_eq_error_iff e).mp inferred
      exact absurd null (full name json member)
  | ok ps => exact ⟨ps, (mapM_inferDeclaration_eq_ok_iff ps).mp inferred⟩

/-- An object of names and values without a null declares each value under its name, by the type that it has
of itself. -/
theorem declares_flat {text : String} {members : List (String × Json)}
    (read : Json.read? text = some (.object members)) (flat : ¬ CardShaped members)
    (full : ∀ name json, (name, json) ∈ members → ¬ json.HasNull) :
    ∃ d vars, Reads text (.ok d) ∧ Declares d vars ∧ d.Layers (.ok .builtins) ∧
      (∀ name json, (name, json) ∈ members →
        ∃ value, Value.ofJson json = .ok value ∧ json.SpellsValue value ∧
        vars name = some ⟨value.type, value⟩) ∧
      ∀ name, name ∉ members.map (·.1) → vars name = none := by
  obtain ⟨ps, each⟩ := exists_infers full
  have names := names_of_infers each
  have distinct : (members.map (·.1)).Nodup := by
    cases Json.within_of_read read with
    | object ascending => exact Table.Ascending.nodup_keys ascending
  have valid : ∀ p ∈ ps, ∃ value, p.value.SpellsAs p.type value := by
    intro p member
    obtain ⟨entry, -, infers⟩ := exists_left_of_mem each member
    cases infers with
    | intro spells => exact ⟨_, spells.spellsAs⟩
  obtain ⟨m, done⟩ := shows_create.accepts (d := { vars := ps }) (names.symm ▸ distinct) valid
  obtain ⟨vars, -, declares⟩ := shows_create.declares_of_declareVariables done
  refine ⟨{ vars := ps }, vars, .flat read flat each, declares, .builtins rfl, ?_, ?_⟩
  · intro name json member
    obtain ⟨p, present, infers⟩ := exists_right_of_mem each member
    cases infers with
    | intro spells =>
        obtain ⟨same, also, holds⟩ := declares.holds _ present
        rw [also.unique spells.spellsAs] at holds
        exact ⟨_, (Value.ofJson_eq_ok_iff _ _).mpr spells, spells, holds⟩
  · exact fun name absent => declares.others name (names.symm ▸ absent)

end Command

end CardExpr
