import CardExpr.Command.Error
import CardExpr.Text.Blank

/-! Variables from the command line: a text of declarations, and assignments. -/

namespace CardExpr.Command

/-- Whether an object is a card: nothing but its arrays of variables and functions, at least one. -/
def isCard (members : List (String × Json)) : Bool :=
  !members.isEmpty && members.all fun (key, value) =>
    (key == "variables" || key == "functions") &&
      match value with
      | .array _ => true
      | _ => false

def inferDeclaration (member : String × Json) : Except CommandError VariableDeclaration := do
  let value ← (Value.ofJson member.2).mapError .conversion
  pure ⟨member.1, value.type, member.2⟩

def readDeclarations (text : String) : Except CommandError CardDeclarations :=
  match Json.read? text with
  | none => .error .invalidJson
  | some (.object members) =>
    if isCard members then
      match CardDeclarations.ofNode? (Json.Node.ofJson (.object members)) with
      | some d => .ok d
      | none => .error .invalidJson
    else do
      let vars ← members.mapM inferDeclaration
      pure { vars := vars }
  | some _ => .error .noObject

/-- Reads `NAME=VALUE`. A value that is no JSON is taken as a string. -/
def readAssignment (text : String) : Except CommandError (String × Json) :=
  match text.toList.span (· != '=') with
  | (name, _ :: value) =>
    let name := Text.trim name
    if name.isEmpty then .error (.invalidAssignment text)
    else
      let value := String.ofList value
      .ok (String.ofList name, (Json.read? value).getD (.string value))
  | (_, []) => .error (.invalidAssignment text)

def assign (stores : Stores) (id : ScopeId) (text : String) : Except CommandError Stores := do
  let (name, json) ← readAssignment text
  match stores.declaredType? id name with
  | some t => do
    let value ← (Value.ofJsonAs json t).mapError .conversion
    let m ← (stores.set id name value).mapError .variable
    pure m.stores
  | none => do
    let value ← (Value.ofJson json).mapError .conversion
    let m ← (stores.declareAll id [.infer name value]).mapError .variable
    pure m.stores

end CardExpr.Command
