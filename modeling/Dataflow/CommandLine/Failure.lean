import Dataflow.Assembly.Error
import Dataflow.Machine.Basic
import Dataflow.Text.Quoted

set_option autoImplicit false

namespace Dataflow.CommandLine

open Text (quote)

inductive Failure where
  | config (error : ConfigError)
  | load (error : LoadError)
  | port (error : PortError)
  | run (error : RunError)
  | assembly (error : AssemblyError)
  | file (error : FileError)
deriving DecidableEq

def record (kind : String) (fields : List (String × String)) : String :=
  kind ++ " \x7b " ++
    String.intercalate ", " (fields.map fun (name, value) => name ++ ": " ++ value) ++ " \x7d"

def fileDetail : FileError → String
  | .system number kind reason =>
    record "Os" [("code", Nat.repr number), ("kind", kind), ("message", quote reason)]
  | .notText =>
    record "Error" [("kind", "InvalidData"), ("message", quote FileError.notText.message)]
  | .nulInPath =>
    record "Error" [("kind", "InvalidInput"), ("message", quote FileError.nulInPath.message)]
  | .reported reason => record "Custom" [("kind", "Other"), ("error", quote reason)]

def addressDetail (address : Address) : String :=
  (match address.bank with
    | .memory => "Memory"
    | .port => "Port") ++ "(" ++ Nat.repr address.number ++ ")"

def loadDetail : LoadError → String
  | .cannotOpen path cause =>
    record "Open" [("path", quote path), ("source", fileDetail cause)]
  | .cannotRead cause => "Read(" ++ fileDetail cause ++ ")"
  | .tooLarge lines capacity =>
    record "TooLarge" [("lines", Nat.repr lines), ("capacity", Nat.repr capacity)]
  | .addressOutOfRange slot address =>
    record "AddressOutOfRange" [("slot", Nat.repr slot), ("address", addressDetail address)]
  | .invalidInstruction slot word =>
    record "InvalidInstruction" [("slot", Nat.repr slot), ("word", Nat.repr word.toNat)]

def assemblyDetail (error : AssemblyError) : String :=
  let line := ("line", Nat.repr error.line)
  match error.fault with
  | .unreadable text => record "Syntax" [line, ("text", quote text)]
  | .notAnOperation name => record "NotAnOperation" [line, ("name", quote name)]
  | .wrongArity operation expected found =>
    record "WrongArity" [line, ("operation", quote operation),
      ("expected", Nat.repr expected), ("found", Nat.repr found)]
  | .badArgument argument => record "BadArgument" [line, ("argument", quote argument)]

def Failure.detail : Failure → String
  | .config (.tooSmall bank size required) =>
    record "TooSmall" [("which", quote (ConfigError.bankName bank)), ("size", Nat.repr size),
      ("required", Nat.repr required)]
  | .load error => loadDetail error
  | .port (.outOfRange number count) =>
    record "OutOfRange" [("port", Nat.repr number), ("count", Nat.repr count)]
  | .run .notLoaded => "NotLoaded"
  | .assembly error => assemblyDetail error
  | .file error => fileDetail error

end Dataflow.CommandLine
