import CardExpr.Command.Invocation
import Std.Time.DateTime.Timestamp

/-! The program: reads its arguments and files, runs a command and prints what it gives. -/

namespace CardExpr

/-- What the command line says. Files are given by their names. -/
structure Arguments where
  command : Option String := none
  operand : Option String := none
  config : Option String := none
  declarations : Option String := none
  assignments : List String := []
  pretty : Bool := false
  trace : Bool := false

namespace Arguments

def addOperand (a : Arguments) (text : String) : Except String Arguments :=
  match a.command, a.operand with
  | none, _ => .ok { a with command := some text }
  | some _, none => .ok { a with operand := some text }
  | some _, some _ => .error ("unexpected argument '" ++ text ++ "'")

def setOption? (a : Arguments) (name value : String) : Option Arguments :=
  match name with
  | "--config" => some { a with config := some value }
  | "--vars" => some { a with declarations := some value }
  | "--set" => some { a with assignments := a.assignments ++ [value] }
  | "--log-level" => some a
  | _ => none

def setFlag? (a : Arguments) (name : String) : Option Arguments :=
  match name with
  | "--pretty" => some { a with pretty := true }
  | "-p" => some { a with pretty := true }
  | "--trace" => some { a with trace := true }
  | _ => none

/-- The name and the value of an option such as `--set=a=1`. -/
def splitOption (text : String) : String × Option String :=
  match text.toList.span (· != '=') with
  | (name, _ :: value) => (String.ofList name, some (String.ofList value))
  | (name, []) => (String.ofList name, none)

/-- Reads arguments in order; behind `--` there are only operands. -/
def read (a : Arguments) : List String → Except String Arguments
  | [] => .ok a
  | "--" :: rest => rest.foldlM addOperand a
  | text :: rest =>
    if text.startsWith "-" && text != "-" then
      match a.setFlag? text, splitOption text, rest with
      | some a, _, rest => a.read rest
      | none, (name, some value), rest =>
        match a.setOption? name value with
        | some a => a.read rest
        | none => .error ("unexpected argument '" ++ text ++ "'")
      | none, (name, none), value :: rest =>
        match a.setOption? name value with
        | some a => a.read rest
        | none => .error ("unexpected argument '" ++ text ++ "'")
      | none, (_, none), [] => .error ("unexpected argument '" ++ text ++ "'")
    else
      match a.addOperand text with
      | .ok a => a.read rest
      | .error e => .error e

def command? (a : Arguments) (declarations : Option String) : Option Command :=
  match a.command with
  | some "eval" => some (.eval a.operand declarations a.assignments a.pretty a.trace)
  | some "check" => some (.check a.operand)
  | some "functions" => some (.functions a.operand)
  | _ => none

def readsInput (a : Arguments) : Bool :=
  a.operand.isNone && (a.command == some "eval" || a.command == some "check")

end Arguments

def currentInstant : IO Calendar.DateTime := do
  let stamp ← Std.Time.Timestamp.now
  let nanos := stamp.toNanosecondsSinceUnixEpoch.val
  return .ofClock (nanos / 1000000000) (nanos % 1000000000).toNat

def readFile? (name : Option String) : IO (Option String) :=
  match name with
  | some name => some <$> IO.FS.readFile name
  | none => pure none

def carryOut (a : Arguments) : IO UInt32 := do
  let config ← readFile? a.config
  let stdin ← IO.getStdin
  if a.readsInput && (← stdin.isTty) then
    IO.eprintln "No expression provided. Pass it as an argument or pipe it to stdin."
    return 1
  let input ← if a.readsInput then stdin.readToEnd else pure ""
  let declarations ← readFile? a.declarations
  match a.command? declarations with
  | none =>
    IO.eprintln "a command is missing: eval, check or functions"
    return 2
  | some command =>
    let printed := (Invocation.mk command config input).run (← currentInstant)
    IO.print printed.out
    IO.eprint printed.err
    return UInt32.ofNat printed.code

end CardExpr

def main (args : List String) : IO UInt32 := do
  match CardExpr.Arguments.read {} args with
  | .error e =>
    IO.eprintln e
    return 2
  | .ok a =>
    try CardExpr.carryOut a
    catch e =>
      IO.eprintln ("IO error: " ++ toString e)
      return 1
