import CardExpr.Function.Declaration

/-!
Functions by name and argument count. Several functions may share both when their argument types
differ; a call takes the first one that accepts its arguments.
-/

namespace CardExpr

inductive FunctionBody where
  | native (body : NativeBody)
  | custom (function : CustomFunction)

structure Function where
  name : String
  signature : Signature
  body : FunctionBody

namespace Function

def isCustom (f : Function) : Bool :=
  match f.body with
  | .native _ => false
  | .custom _ => true

def text (f : Function) : String := f.name ++ f.signature.text

def acceptsFrom (s : Signature) : (index : Nat) → List Value → Bool
  | _, [] => true
  | index, v :: rest =>
    (match s.argType? index with
      | some t => t.accepts v.type
      | none => false) && acceptsFrom s (index + 1) rest

def accepts (f : Function) (values : List Value) : Bool :=
  f.signature.arity.admits values.length && acceptsFrom f.signature 0 values

def checkFrom (f : Function) : (index : Nat) → List Value → Except ArgumentTypeError (List Value)
  | _, [] => .ok []
  | index, v :: rest =>
    let expected := (f.signature.argType? index).getD .any
    if expected.accepts v.type then
      (checkFrom f (index + 1) rest).map (expected.coerce v :: ·)
    else .error ⟨f.name, index + 1, expected.text, v.type⟩

/-- The arguments with integers widened where the signature says number, or the first one whose type
the signature does not accept. -/
def checkArgs (f : Function) (values : List Value) : Except ArgumentTypeError Args :=
  (checkFrom f 0 values).map fun checked => ⟨f.name, checked⟩

end Function

/-- One level of a registry: the functions and the methods of each name in the order of their
registration. -/
structure Level where
  functions : List (String × List Function) := []
  methods : List (String × List Function) := []

/-- A level of its own over those that it was layered on, the nearest first. -/
structure Registry where
  own : Level := {}
  ancestors : List Level := []

namespace Level

def table (l : Level) : CallKind → List (String × List Function)
  | .function => l.functions
  | .method => l.methods

def overloads (l : Level) (kind : CallKind) (name : String) : List Function :=
  match (l.table kind).find? (fun entry => entry.1 == name) with
  | some entry => entry.2
  | none => []

def append : List (String × List Function) → Function → List (String × List Function)
  | [], f => [(f.name, [f])]
  | (name, fs) :: rest, f =>
    if name = f.name then (name, fs ++ [f]) :: rest else (name, fs) :: append rest f

def add (l : Level) (kind : CallKind) (f : Function) : Level :=
  match kind with
  | .function => { l with functions := append l.functions f }
  | .method => { l with methods := append l.methods f }

def entries (l : Level) : List (CallKind × Function) :=
  l.functions.flatMap (fun entry => entry.2.map (CallKind.function, ·)) ++
    l.methods.flatMap (fun entry => entry.2.map (CallKind.method, ·))

end Level

namespace Registry

def levels (r : Registry) : List Level := r.own :: r.ancestors

def child (r : Registry) : Registry := ⟨{}, r.levels⟩

def add (r : Registry) (kind : CallKind) (f : Function) : Registry :=
  { r with own := r.own.add kind f }

/-- Every function of the name, the own ones first. -/
def overloads (r : Registry) (kind : CallKind) (name : String) : List Function :=
  r.levels.flatMap fun l => l.overloads kind name

def isFree (r : Registry) (name : String) (arity : Arity) : Bool :=
  (r.overloads .function name).all fun f => !f.signature.arity.overlaps arity

def insert (r : Registry) (f : Function) : Except RegistryError Registry :=
  let arity := f.signature.arity
  if r.isFree f.name arity then .ok (r.add .function f)
  else .error (.duplicateFunction f.name arity.least)

def register (r : Registry) (name : String) (signature : Signature) (body : NativeBody) :
    Except RegistryError Registry :=
  r.insert ⟨name, signature, .native body⟩

def registerCustom (r : Registry) (d : FunctionDeclaration) : Except RegistryError Registry := do
  let f ← CustomFunction.compile d
  r.insert ⟨d.name, f.signature, .custom f⟩

def registerAll (r : Registry) (ds : List FunctionDeclaration) : Except RegistryError Registry :=
  ds.foldlM registerCustom r

def candidates (r : Registry) (kind : CallKind) (name : String) (arity : Nat) : List Function :=
  (r.overloads kind name).filter fun f => f.signature.arity.admits arity

def resolve (r : Registry) (kind : CallKind) (name : String) (arity : Nat) :
    Except EvalError Function :=
  match r.candidates kind name arity with
  | f :: _ => .ok f
  | [] => .error (.unknownFunction kind name arity)

/-- The first candidate that accepts the arguments. When none does, the error is what the first
candidate finds wrong. -/
def select (r : Registry) (kind : CallKind) (name : String) (values : List Value) :
    Except EvalError Function :=
  let candidates := r.candidates kind name values.length
  match candidates.find? (fun f => f.accepts values) with
  | some f => .ok f
  | none =>
    match candidates with
    | f :: _ =>
      match f.checkArgs values with
      | .error e => .error (.argumentType e)
      | .ok _ => .ok f
    | [] => .error (.unknownFunction kind name values.length)

/-- By name, functions before methods, then by the number of fixed arguments. -/
def listedBefore (a b : CallKind × Function) : Bool :=
  if a.2.name = b.2.name then
    if a.1 = b.1 then decide (a.2.signature.args.length ≤ b.2.signature.args.length)
    else a.1 == .function
  else decide (a.2.name < b.2.name)

/-- Every function and method in order; what the order leaves open stays as it was registered. -/
def signatures (r : Registry) : List (CallKind × Function) :=
  (r.levels.flatMap (·.entries)).mergeSort listedBefore

end Registry

end CardExpr
