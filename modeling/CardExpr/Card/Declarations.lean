import CardExpr.Builtin.Registry
import CardExpr.Session.Basic

/-! The variables and functions that a card declares in JSON. -/

namespace CardExpr

open Json (Node)

structure VariableDeclaration where
  name : String
  type : ValueType
  value : Json

structure CardDeclarations where
  vars : List VariableDeclaration := []
  functions : List FunctionDeclaration := []

inductive DeclarationError where
  | invalidJson
  | variable (error : VariableError)
  | registry (error : RegistryError)

def DeclarationError.message : DeclarationError → String
  | .invalidJson => "invalid card JSON"
  | .variable e => e.message
  | .registry e => e.message

def typeOfNode? (node : Node) : Option ValueType := do
  let name ← node.choice?
  ValueType.ofName? name

namespace VariableDeclaration

/-- Of the nesting that JSON texts may have the card takes three levels. -/
def ofNode? (node : Node) : Option VariableDeclaration := do
  match ← node.fields? ["name", "type", "value"] with
  | [some name, some type, some value] => do
    let name ← name.string?
    let type ← typeOfNode? type
    let value ← value.value? (Node.maxNesting - 3)
    pure ⟨name, type, value⟩
  | _ => none

def toJson (d : VariableDeclaration) : Json :=
  .object [("name", .string d.name), ("type", .string d.type.name), ("value", d.value)]

def toVariable (d : VariableDeclaration) : Except VariableError Variable := do
  let value ← (Value.ofJsonAs d.value d.type).mapError (.invalidValue d.name)
  Variable.ofType d.name d.type value

end VariableDeclaration

namespace ArgumentDeclaration

def ofNode? (node : Node) : Option ArgumentDeclaration := do
  match ← node.fields? ["name", "type"] with
  | [some name, some type] => do
    let name ← name.string?
    let type ← typeOfNode? type
    pure ⟨name, type⟩
  | _ => none

def toJson (d : ArgumentDeclaration) : Json :=
  .object [("name", .string d.name), ("type", .string d.type.name)]

end ArgumentDeclaration

/-- The elements of a field that may be absent. -/
def listOfField? {α : Type} (read : Node → Option α) : Option Node → Option (List α)
  | none => some []
  | some node => do
    let items ← node.array?
    items.mapM read

namespace FunctionDeclaration

def ofNode? (node : Node) : Option FunctionDeclaration := do
  match ← node.fields? ["name", "arguments", "return_type", "body"] with
  | [some name, arguments, some returnType, some body] => do
    let name ← name.string?
    let arguments ← listOfField? ArgumentDeclaration.ofNode? arguments
    let returnType ← typeOfNode? returnType
    let body ← body.string?
    pure ⟨name, arguments, returnType, body⟩
  | _ => none

def toJson (d : FunctionDeclaration) : Json :=
  .object [("name", .string d.name), ("arguments", .array (d.arguments.map (·.toJson))),
    ("return_type", .string d.returnType.name), ("body", .string d.body)]

end FunctionDeclaration

namespace CardDeclarations

def ofNode? (node : Node) : Option CardDeclarations := do
  match ← node.fields? ["variables", "functions"] with
  | [vars, functions] => do
    let vars ← listOfField? VariableDeclaration.ofNode? vars
    let functions ← listOfField? FunctionDeclaration.ofNode? functions
    pure ⟨vars, functions⟩
  | _ => none

def ofJson? (text : String) : Option CardDeclarations := do
  let node ← Node.read? text
  ofNode? node

def toJson (d : CardDeclarations) : Json :=
  .object [("variables", .array (d.vars.map (·.toJson))),
    ("functions", .array (d.functions.map (·.toJson)))]

/-- Declares every variable in a store, or none. -/
def declareVariables (d : CardDeclarations) (stores : Stores) (id : ScopeId) :
    Except DeclarationError Mutation := do
  let vs ← (d.vars.mapM VariableDeclaration.toVariable).mapError .variable
  (stores.declareAll id vs).mapError .variable

/-- The functions of the card over the built-in ones. -/
def registry (d : CardDeclarations) : Except DeclarationError Registry :=
  if d.functions.isEmpty then .ok .builtins
  else (Registry.builtins.child.registerAll d.functions).mapError .registry

/-- Adds the card over a store of its own, which may be nested in a global one. -/
def addTo {ν : Type} (d : CardDeclarations) (s : Session ν) (global : Option ScopeId)
    (config : Config) (isLogged : Bool) : Except DeclarationError (ObserverId × Session ν) := do
  let (store, s) := s.addStore global
  let m ← d.declareVariables s.stores store
  let functions ← d.registry
  pure ({ s with stores := m.stores }.addCard { store, functions, config, isLogged })

end CardDeclarations

end CardExpr
