import CardExpr.Card.Declarations
import CardExpr.Proofs.Json.Record

/-!
The declarations of a card in JSON. What is read are the fields of its records, by their names or in their
order; the elements of its arrays stay in order.
-/

namespace CardExpr

namespace Json

/-- A type is a string, its name, or an object with that one member and nothing in it. -/
inductive SpellsType : Json → ValueType → Prop where
  | name (t : ValueType) : SpellsType (.string t.name) t
  | member (t : ValueType) : SpellsType (.object [(t.name, .null)]) t

/-- What a field lists: the elements of an array in their order, and nothing where there is no such field. -/
inductive SpellsList {α : Type} (spells : Json → α → Prop) : Option Json → List α → Prop where
  | absent : SpellsList spells none []
  | array {items : List Json} {xs : List α} (each : List.Forall₂ spells items xs) :
      SpellsList spells (some (.array items)) xs

def variableFields : List String := ["name", "type", "value"]

def argumentFields : List String := ["name", "type"]

def functionFields : List String := ["name", "arguments", "return_type", "body"]

def cardFields : List String := ["variables", "functions"]

inductive SpellsVariable (json : Json) : VariableDeclaration → Prop where
  | intro {name : String} {type value : Json} {t : ValueType}
      (named : HasField variableFields "name" json (some (.string name)))
      (typed : HasField variableFields "type" json (some type)) (spells : SpellsType type t)
      (valued : HasField variableFields "value" json (some value)) : SpellsVariable json ⟨name, t, value⟩

inductive SpellsArgument (json : Json) : ArgumentDeclaration → Prop where
  | intro {name : String} {type : Json} {t : ValueType}
      (named : HasField argumentFields "name" json (some (.string name)))
      (typed : HasField argumentFields "type" json (some type)) (spells : SpellsType type t) :
      SpellsArgument json ⟨name, t⟩

inductive SpellsFunction (json : Json) : FunctionDeclaration → Prop where
  | intro {name body : String} {arguments : Option Json} {args : List ArgumentDeclaration} {type : Json}
      {t : ValueType} (named : HasField functionFields "name" json (some (.string name)))
      (given : HasField functionFields "arguments" json arguments)
      (lists : SpellsList SpellsArgument arguments args)
      (typed : HasField functionFields "return_type" json (some type)) (spells : SpellsType type t)
      (bodied : HasField functionFields "body" json (some (.string body))) :
      SpellsFunction json ⟨name, args, t, body⟩

/-- The JSON is a card with these variables and functions, in this order. -/
inductive SpellsCard (json : Json) : CardDeclarations → Prop where
  | intro {declared added : Option Json} {vs : List VariableDeclaration} {fs : List FunctionDeclaration}
      (vars : HasField cardFields "variables" json declared) (lists : SpellsList SpellsVariable declared vs)
      (functions : HasField cardFields "functions" json added) (adds : SpellsList SpellsFunction added fs) :
      SpellsCard json ⟨vs, fs⟩

theorem ofName?_eq_some_iff (name : String) (t : ValueType) :
    ValueType.ofName? name = some t ↔ name = t.name := by
  constructor
  · intro found
    have same := List.find?_some found
    exact (beq_iff_eq.mp same).symm
  · rintro rfl
    exact t.ofName?_name

theorem string?_ofJson (json : Json) (s : String) :
    (Node.ofJson json).string? = some s ↔ json = .string s := by
  cases json <;> simp [Node.ofJson, Node.string?]

theorem choice?_ofJson (json : Json) (name : String) :
    (Node.ofJson json).choice? = some name ↔ json = .string name ∨ json = .object [(name, .null)] := by
  cases json with
  | string s => simp [Node.ofJson, Node.choice?]
  | object members =>
      cases members with
      | nil => simp [Node.ofJson, Node.ofMembers, Node.choice?]
      | cons member rest =>
          obtain ⟨key, json⟩ := member
          cases rest with
          | nil => cases json <;> simp [Node.ofJson, Node.ofMembers, Node.choice?]
          | cons next rest => simp [Node.ofJson, Node.ofMembers, Node.choice?]
  | _ => simp [Node.ofJson, Node.choice?]

theorem typeOfNode?_ofJson (json : Json) (t : ValueType) :
    typeOfNode? (Node.ofJson json) = some t ↔ json.SpellsType t := by
  constructor
  · intro read
    obtain ⟨name, chosen, known⟩ := Option.bind_eq_some_iff.mp read
    rw [ofName?_eq_some_iff] at known
    subst known
    rcases (choice?_ofJson json _).mp chosen with rfl | rfl
    · exact .name t
    · exact .member t
  · intro spells
    have chosen : (Node.ofJson json).choice? = some t.name := by
      rw [choice?_ofJson]
      cases spells with
      | name => exact .inl rfl
      | member => exact .inr rfl
    exact Option.bind_eq_some_iff.mpr ⟨t.name, chosen, t.ofName?_name⟩

section Lists

variable {α β : Type}

theorem mapM_eq_some_iff {f : α → Option β} (xs : List α) (ys : List β) :
    xs.mapM f = some ys ↔ List.Forall₂ (fun x y => f x = some y) xs ys := by
  induction xs generalizing ys with
  | nil => simp [eq_comm]
  | cons x xs ih =>
      simp only [List.mapM_cons, Option.bind_eq_bind, Option.bind_eq_some_iff, List.forall₂_cons_left_iff, ih]
      simp [eq_comm]

variable {spells : Json → α → Prop} {read : Node → Option α} {levels : Nat} {content : Option Json}

theorem mapM_ofItems {items : List Json} (inside : ∀ json ∈ items, json.Within levels)
    (each : ∀ json, json.Within levels → ∀ x, read (Node.ofJson json) = some x ↔ spells json x)
    (xs : List α) :
    (Node.ofItems items).mapM read = some xs ↔ List.Forall₂ spells items xs := by
  rw [mapM_eq_some_iff, Node.ofItems_eq_map, List.forall₂_map_left_iff]
  induction items generalizing xs with
  | nil => simp
  | cons json rest ih =>
      obtain ⟨here, others⟩ := List.forall_mem_cons.mp inside
      simp only [List.forall₂_cons_left_iff, each json here, ih others]

/-- The elements of a list are read one by one. -/
theorem listOfField?_map (within : ∀ json, content = some json → json.Within (levels + 1))
    (each : ∀ json, json.Within levels → ∀ x, read (Node.ofJson json) = some x ↔ spells json x)
    (xs : List α) :
    listOfField? read (content.map Node.ofJson) = some xs ↔ SpellsList spells content xs := by
  constructor
  · intro done
    cases content with
    | none =>
        cases done
        exact .absent
    | some json =>
        cases json with
        | array items =>
            cases within _ rfl with
            | array inside => exact .array ((mapM_ofItems inside each xs).mp done)
        | _ => cases done
  · intro spelled
    cases spelled with
    | absent => rfl
    | array listed =>
        cases within _ rfl with
        | array inside => exact (mapM_ofItems inside each xs).mpr listed

end Lists

end Json

open Json

section Reading

variable {json : Json}

/-- A variable is read with the value that its field has. -/
theorem VariableDeclaration.ofNode?_ofJson (within : json.Within (Node.maxNesting - 2))
    (d : VariableDeclaration) :
    ofNode? (Node.ofJson json) = some d ↔ json.SpellsVariable d := by
  have distinct : variableFields.Nodup := by decide
  constructor
  · intro read
    obtain ⟨nodes, fields, read⟩ := Option.bind_eq_some_iff.mp read
    obtain ⟨contents, has, rfl⟩ := exists_contents distinct within fields
    simp only [variableFields, List.forall₂_cons_left_iff, List.forall₂_nil_left_iff] at has
    obtain ⟨_ | name, _, named, ⟨_ | type, _, typed, ⟨_ | value, _, valued, rfl, rfl⟩, rfl⟩, rfl⟩ := has
    all_goals try cases read
    obtain ⟨text, written, read⟩ := Option.bind_eq_some_iff.mp read
    obtain ⟨t, known, read⟩ := Option.bind_eq_some_iff.mp read
    obtain ⟨held, same, read⟩ := Option.bind_eq_some_iff.mp read
    cases read
    cases (string?_ofJson name text).mp written
    cases (Node.value?_ofJson (valued.within within)).symm.trans same
    exact .intro named typed ((typeOfNode?_ofJson type t).mp known) valued
  · intro spells
    obtain ⟨named, typed, spells, valued⟩ := spells
    have fields := fields?_eq_some distinct within (by decide) (.cons named (.cons typed (.cons valued .nil)))
    apply Option.bind_eq_some_iff.mpr ⟨_, fields, ?_⟩
    apply Option.bind_eq_some_iff.mpr ⟨_, rfl, ?_⟩
    apply Option.bind_eq_some_iff.mpr ⟨_, (typeOfNode?_ofJson _ _).mpr spells, ?_⟩
    exact Option.bind_eq_some_iff.mpr ⟨_, Node.value?_ofJson (valued.within within), rfl⟩

theorem ArgumentDeclaration.ofNode?_ofJson {levels : Nat} (within : json.Within levels)
    (d : ArgumentDeclaration) :
    ofNode? (Node.ofJson json) = some d ↔ json.SpellsArgument d := by
  have distinct : argumentFields.Nodup := by decide
  constructor
  · intro read
    obtain ⟨nodes, fields, read⟩ := Option.bind_eq_some_iff.mp read
    obtain ⟨contents, has, rfl⟩ := exists_contents distinct within fields
    simp only [argumentFields, List.forall₂_cons_left_iff, List.forall₂_nil_left_iff] at has
    obtain ⟨_ | name, _, named, ⟨_ | type, _, typed, rfl, rfl⟩, rfl⟩ := has
    all_goals try cases read
    obtain ⟨text, written, read⟩ := Option.bind_eq_some_iff.mp read
    obtain ⟨t, known, read⟩ := Option.bind_eq_some_iff.mp read
    cases read
    cases (string?_ofJson name text).mp written
    exact .intro named typed ((typeOfNode?_ofJson type t).mp known)
  · intro spells
    obtain ⟨named, typed, spells⟩ := spells
    have fields := fields?_eq_some distinct within (by decide) (.cons named (.cons typed .nil))
    apply Option.bind_eq_some_iff.mpr ⟨_, fields, ?_⟩
    apply Option.bind_eq_some_iff.mpr ⟨_, rfl, ?_⟩
    exact Option.bind_eq_some_iff.mpr ⟨_, (typeOfNode?_ofJson _ _).mpr spells, rfl⟩

theorem FunctionDeclaration.ofNode?_ofJson {levels : Nat} (within : json.Within (levels + 2))
    (d : FunctionDeclaration) : ofNode? (Node.ofJson json) = some d ↔ json.SpellsFunction d := by
  have distinct : functionFields.Nodup := by decide
  have listed {content : Option Json} (has : HasField functionFields "arguments" json content)
      (args : List ArgumentDeclaration) :
      listOfField? ArgumentDeclaration.ofNode? (content.map Node.ofJson) = some args ↔
        SpellsList SpellsArgument content args := by
    apply listOfField?_map
    · rintro inner rfl
      exact has.within within
    · exact fun inner within => ArgumentDeclaration.ofNode?_ofJson within
  constructor
  · intro read
    obtain ⟨nodes, fields, read⟩ := Option.bind_eq_some_iff.mp read
    obtain ⟨contents, has, rfl⟩ := exists_contents distinct within fields
    simp only [functionFields, List.forall₂_cons_left_iff, List.forall₂_nil_left_iff] at has
    obtain ⟨_ | name, _, named, ⟨arguments, _, given, ⟨_ | type, _, typed,
      ⟨_ | body, _, bodied, rfl, rfl⟩, rfl⟩, rfl⟩, rfl⟩ := has
    all_goals try cases read
    obtain ⟨text, written, read⟩ := Option.bind_eq_some_iff.mp read
    obtain ⟨args, lists, read⟩ := Option.bind_eq_some_iff.mp read
    obtain ⟨t, known, read⟩ := Option.bind_eq_some_iff.mp read
    obtain ⟨source, told, read⟩ := Option.bind_eq_some_iff.mp read
    cases read
    cases (string?_ofJson name text).mp written
    cases (string?_ofJson body source).mp told
    exact .intro named given ((listed given args).mp lists) typed ((typeOfNode?_ofJson type t).mp known)
      bodied
  · intro spells
    obtain ⟨named, given, lists, typed, spells, bodied⟩ := spells
    have fields := fields?_eq_some distinct within (by decide)
      (.cons named (.cons given (.cons typed (.cons bodied .nil))))
    apply Option.bind_eq_some_iff.mpr ⟨_, fields, ?_⟩
    apply Option.bind_eq_some_iff.mpr ⟨_, rfl, ?_⟩
    apply Option.bind_eq_some_iff.mpr ⟨_, (listed given _).mpr lists, ?_⟩
    apply Option.bind_eq_some_iff.mpr ⟨_, (typeOfNode?_ofJson _ _).mpr spells, ?_⟩
    exact Option.bind_eq_some_iff.mpr ⟨_, rfl, rfl⟩

/-- A card is read with all its variables and functions, each as it is declared. -/
theorem CardDeclarations.ofNode?_ofJson (within : json.Within Node.maxNesting) (d : CardDeclarations) :
    ofNode? (Node.ofJson json) = some d ↔ json.SpellsCard d := by
  have distinct : cardFields.Nodup := by decide
  have listed {α : Type} {read : Node → Option α} {spells : Json → α → Prop} {name : String}
      {content : Option Json} (has : HasField cardFields name json content)
      (each : ∀ inner, inner.Within (Node.maxNesting - 2) →
        ∀ x, read (Node.ofJson inner) = some x ↔ spells inner x)
      (xs : List α) :
      listOfField? read (content.map Node.ofJson) = some xs ↔ SpellsList spells content xs := by
    refine listOfField?_map ?_ each xs
    rintro inner rfl
    exact has.within within
  have lists {content : Option Json} (has : HasField cardFields "variables" json content) :=
    listed has fun _ within => VariableDeclaration.ofNode?_ofJson within
  have adds {content : Option Json} (has : HasField cardFields "functions" json content) :=
    listed has fun _ (within : Json.Within (Node.maxNesting - 4 + 2) _) =>
      FunctionDeclaration.ofNode?_ofJson within
  constructor
  · intro read
    obtain ⟨nodes, fields, read⟩ := Option.bind_eq_some_iff.mp read
    obtain ⟨contents, has, rfl⟩ := exists_contents distinct within fields
    simp only [cardFields, List.forall₂_cons_left_iff, List.forall₂_nil_left_iff] at has
    obtain ⟨declared, _, vars, ⟨added, _, functions, rfl, rfl⟩, rfl⟩ := has
    obtain ⟨vs, variablesRead, read⟩ := Option.bind_eq_some_iff.mp read
    obtain ⟨fs, functionsRead, read⟩ := Option.bind_eq_some_iff.mp read
    cases read
    exact .intro vars ((lists vars vs).mp variablesRead) functions ((adds functions fs).mp functionsRead)
  · intro spells
    obtain ⟨vars, variablesRead, functions, functionsRead⟩ := spells
    have fields := fields?_eq_some distinct within (by decide) (.cons vars (.cons functions .nil))
    apply Option.bind_eq_some_iff.mpr ⟨_, fields, ?_⟩
    apply Option.bind_eq_some_iff.mpr ⟨_, (lists vars _).mpr variablesRead, ?_⟩
    exact Option.bind_eq_some_iff.mpr ⟨_, (adds functions _).mpr functionsRead, rfl⟩

end Reading

end CardExpr
