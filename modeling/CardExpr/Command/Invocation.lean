import CardExpr.Command.Basic

/-! A whole run of the program, from the contents of its files to what it prints. -/

namespace CardExpr

/-- A command; the sources are absent where they come from the standard input. -/
inductive Command where
  | eval (source : Option String) (declarations : Option String) (assignments : List String)
    (pretty trace : Bool)
  | check (source : Option String)
  | functions (filter : Option String)

structure Invocation where
  command : Command
  /-- The text of the configuration file. -/
  config : Option String := none
  input : String := ""

/-- What a run prints, and its exit code. -/
structure Printed where
  code : Nat := 0
  out : String := ""
  err : String := ""
  deriving DecidableEq, Repr

namespace Command

def lines (texts : List String) : String := String.join (texts.map (· ++ "\n"))

/-- The source on the command line, or the standard input without the line ends behind it. -/
def sourceOr (source : Option String) (input : String) : String :=
  match source with
  | some text => text
  | none =>
    String.ofList (input.toList.reverse.dropWhile fun c => c == '\r' || c == '\n').reverse

def warningLine (w : Warning) : String := "warning: " ++ w.text

def readLine (r : VariableRead) : String :=
  match r.scope with
  | some scope => "read " ++ r.name ++ " from scope#" ++ toString (scope + 1)
  | none => "read " ++ r.name ++ " (undefined)"

def printEval (pretty trace : Bool) (report : EvalReport) : Printed where
  out := lines [if pretty then report.value.toJson.pretty 0 else report.value.text]
  err := lines (report.warnings.map warningLine ++ if trace then report.reads.map readLine else [])

def printCheck (report : CheckReport) : Printed where
  out :=
    if report.isConstant then lines ["Syntax is valid (constant)"]
    else lines ("Syntax is valid" :: report.variableNames.map ("  " ++ ·))

def readConfig : Option String → Except CommandError Config
  | none => .ok {}
  | some text =>
    match Config.ofJson? text with
    | some config => .ok config
    | none => .error .invalidConfig

def run (now : Calendar.DateTime) (config : Config) (input : String) :
    Command → Except CommandError Printed
  | .eval source declarations assignments pretty trace =>
    (evaluateRequest now ⟨sourceOr source input, declarations, assignments, config⟩).map
      (printEval pretty trace)
  | .check source => (checkSource config (sourceOr source input)).map printCheck
  | .functions filter =>
    .ok { out := lines ((listFunctions filter).map fun (kind, text) => kind.name ++ " " ++ text) }

end Command

/-- The configuration is read before anything else. -/
def Invocation.run (now : Calendar.DateTime) (i : Invocation) : Printed :=
  match (Command.readConfig i.config).bind fun config => i.command.run now config i.input with
  | .ok printed => printed
  | .error e => { code := 1, err := Command.lines [e.message] }

end CardExpr
