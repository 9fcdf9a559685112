import CardExpr.Function.Registry

/-! Building a level of built-in functions. -/

namespace CardExpr.Builtin

/-- A built-in function or method before it is registered. -/
structure Entry where
  kind : CallKind
  function : Function

def function (name : String) (args : List ArgType) (returns : ValueType) (body : NativeBody)
    (tail : Option ArgType := none) : Entry :=
  ⟨.function, ⟨name, ⟨args, tail, returns⟩, .native body⟩⟩

def method (name : String) (args : List ArgType) (returns : ValueType) (body : NativeBody) : Entry :=
  ⟨.method, ⟨name, ⟨args, none, returns⟩, .native body⟩⟩

def integer : ArgType := .of .integer
def number : ArgType := .of .number
def string : ArgType := .of .string
def color : ArgType := .oneOf [.color, .string]
def datetime : ArgType := .of .datetime
def array : ArgType := .of .array
def dict : ArgType := .of .dict

/-- The types that typed lookups and variable getters exist for, with their names in functions. -/
def elementTypes : List (ValueType × String) :=
  [(.integer, "Integer"), (.number, "Number"), (.string, "String"), (.boolean, "Boolean"),
    (.color, "Color"), (.url, "Url"), (.array, "Array"), (.dict, "Dict")]

def elementName (t : ValueType) : String :=
  match elementTypes.find? (fun entry => entry.1 == t) with
  | some entry => entry.2
  | none => ""

/-- A value as a lookup of type `t` reads it: an integer is widened to a number, and a string is read
as a color or url. -/
def readAs (v : Value) (t : ValueType) : Option Value :=
  match t, v with
  | .color, .string s => (Color.parse s).toOption.map .color
  | .url, .string s => some (.url s)
  | _, _ => v.conform? t

/-- What may be passed as the fallback of a lookup of type `t`. -/
def fallbackArg : ValueType → ArgType
  | .color => .oneOf [.color, .string]
  | .url => .oneOf [.url, .string]
  | t => .of t

end CardExpr.Builtin
