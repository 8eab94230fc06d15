import Dataflow.Assembly.Error
import Dataflow.Assembly.Statement
import Dataflow.Program.Basic
import Dataflow.Text.Lines

set_option autoImplicit false

namespace Dataflow.Assembly

open Text

/-- The name of the statement that gives an instruction as its word. -/
def wordStatement : String := "Invalid"

/-- The number of an address, which must fit its field. -/
def Argument.address : Argument → Except AssemblyFault Nat
  | .number value =>
    if value < Address.range then .ok value else .error (.badArgument (Argument.number value).text)
  | other => .error (.badArgument other.text)

def Argument.compareMode : Argument → Except AssemblyFault CompareMode
  | .name letters =>
    match CompareMode.ofName? letters with
    | some mode => .ok mode
    | none => .error (.badArgument letters)
  | other => .error (.badArgument other.text)

def assembleDual (operation : DualOperation) (arguments : List Argument) :
    Except AssemblyFault Instruction :=
  match arguments with
  | [a, b] => do
    let a ← a.address
    let b ← b.address
    return .ofDual operation a b
  | _ => .error (.wrongArity operation.name 2 arguments.length)

/-- The instruction of a single operation. A comparison has its mode for a first argument. -/
def assembleSingle (operation : SingleOperation) (arguments : List Argument) :
    Except AssemblyFault Instruction :=
  match operation, arguments with
  | .noop, [] => .ok .noop
  | .noop, _ => .error (.wrongArity operation.name 0 arguments.length)
  | .cmpz, [mode, source] => do
    let mode ← mode.compareMode
    let source ← source.address
    return .compare mode source
  | .cmpz, _ => .error (.wrongArity operation.name 2 arguments.length)
  | operation, [source] => do
    let source ← source.address
    return .ofSingle operation source
  | operation, _ => .error (.wrongArity operation.name 1 arguments.length)

/-- The instruction of a word given as such, whether it has a meaning or not. -/
def assembleWord (arguments : List Argument) : Except AssemblyFault Instruction :=
  match arguments with
  | [.word word] => .ok (.ofWord word)
  | [other] => .error (.badArgument other.text)
  | _ => .error (.wrongArity wordStatement 1 arguments.length)

def Statement.instruction (statement : Statement) : Except AssemblyFault Instruction :=
  match DualOperation.ofName? statement.name with
  | some operation => assembleDual operation statement.arguments
  | none =>
    match SingleOperation.ofName? statement.name with
    | some operation => assembleSingle operation statement.arguments
    | none =>
      if statement.name = wordStatement then assembleWord statement.arguments
      else .error (.notAnOperation statement.name)

def assembleLine (line : List Char) : Except AssemblyFault (Option Line) :=
  match readLine? line with
  | none => .error (.unreadable (String.ofList (trim isWhiteSpace line)))
  | some none => .ok none
  | some (some statement) => do
    let instruction ← statement.instruction
    return some ⟨instruction, statement.constant.getD .zero⟩

def assembleLines (lines : List (List Char × Nat)) : Except AssemblyError (List (Option Line)) :=
  lines.mapM fun (line, number) =>
    match assembleLine line with
    | .ok line => .ok line
    | .error fault => .error ⟨number, fault⟩

end Assembly

/-- One line for each statement, in order: lines of the text without a statement take no slot. The
first faulty line of the text decides the error. -/
def Program.ofAssembly (text : String) : Except AssemblyError Program := do
  let lines ← Assembly.assembleLines ((Text.lines text.toList).zipIdx 1)
  return ⟨lines.filterMap id⟩

end Dataflow
