set_option autoImplicit false

namespace Dataflow

inductive AssemblyFault where
  /-- The line does not have the form of a statement. -/
  | unreadable (text : String)
  /-- The statement has the form of an operation, but no operation has its name. -/
  | notAnOperation (name : String)
  | wrongArity (operation : String) (expected found : Nat)
  /-- The operation does not take this argument. -/
  | badArgument (argument : String)
deriving DecidableEq

structure AssemblyError where
  /-- The number of the line; the first line has number one. -/
  line : Nat
  fault : AssemblyFault
deriving DecidableEq

namespace AssemblyFault

def message : AssemblyFault → String
  | unreadable text => "cannot parse `" ++ text ++ "`"
  | notAnOperation name => name ++ " is not an operation"
  | wrongArity operation expected found =>
    operation ++ " requires " ++ Nat.repr expected ++ " arguments but was given " ++
      Nat.repr found
  | badArgument argument => "bad argument `" ++ argument ++ "`"

end AssemblyFault

def AssemblyError.message (error : AssemblyError) : String :=
  "error on line " ++ Nat.repr error.line ++ ": " ++ error.fault.message

end Dataflow
