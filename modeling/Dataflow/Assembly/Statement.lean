import Dataflow.Numeric.Layout
import Dataflow.Text.Blank
import Dataflow.Text.Numeral
import Dataflow.Text.Parser
import Dataflow.Instruction.Word

/-!
Statements: the form of a line of assembly, before its names have a meaning.

A line may hold one statement, and a comment from a number sign on. A statement is a name of
letters, then arguments between parentheses and with commas between them, then a constant behind
an equals sign; arguments and constant may be absent. Blanks may stand between any two parts.

Every part takes as many characters as it can. A part that may be absent and cannot be read is
taken to be absent, and the line then fails at what is left of it.
-/

set_option autoImplicit false

namespace Dataflow.Assembly

open Text Numeric

inductive Argument where
  | number (value : Nat)
  | word (value : Word)
  | name (letters : String)
deriving DecidableEq

structure Statement where
  name : String
  arguments : List Argument
  constant : Option Binary64
deriving DecidableEq

namespace Argument

/-- Numbers in an argument are below this. -/
def numberLimit : Nat := 0x10000000000000000

/-- Words in an argument are below this. -/
def wordLimit : Nat := 0x100000000

/-- The argument as error messages quote it: numbers without leading zeros. -/
def text : Argument → String
  | number value => Nat.repr value
  | word value => hexadecimal 1 value.toNat
  | name letters => letters

def ofHexDigits? (digits : List Char) : Option Argument :=
  if Text.ofHexDigits digits < wordLimit then some (word (UInt32.ofNat (Text.ofHexDigits digits)))
  else none

def ofDigits? (digits : List Char) : Option Argument :=
  if Decimal.ofDigits digits < numberLimit then some (number (Decimal.ofDigits digits)) else none

/-- A word: digits in base sixteen behind `0x`. -/
def wordPart : Parser Argument :=
  (do Parser.word ['0', 'x']; Parser.someOf isHexDigit).filterMap ofHexDigits?

def numberPart : Parser Argument := (Parser.someOf Char.isDigit).filterMap ofDigits?

def namePart : Parser Argument := do
  return name (String.ofList (← Parser.someOf Char.isAlpha))

def part : Parser Argument := wordPart.orElse (numberPart.orElse namePart)

end Argument

def blanks : Parser (List Char) := Parser.many isBlank

def comma : Parser Unit := do
  let _ ← blanks
  Parser.char ','
  let _ ← blanks

def argumentsPart : Parser (List Argument) := do
  Parser.char '('
  let _ ← blanks
  let arguments ← Parser.separated comma Argument.part
  let _ ← blanks
  Parser.char ')'
  return arguments

/-- A decimal without sign. A mark of an exponent without digits behind it rules out that the text
is anything else. -/
def decimalPart : Parser Decimal := fun text =>
  let (whole, fraction, rest) := Decimal.takePoint text
  if whole.isEmpty && fraction.isEmpty then .refused
  else
    match Decimal.takeExponent? rest with
    | some (exponent, rest) =>
      .done ⟨Decimal.ofDigits (whole ++ fraction), exponent - fraction.length⟩ rest
    | none => .aborted

def signPart : Parser Bool := fun text =>
  let (negative, rest) := Decimal.takeSign text
  .done negative rest

def numeralPart : Parser Binary64 := do
  let negative ← signPart
  let decimal ← decimalPart
  return .ofDecimal negative decimal

def namedPart (text : String) (value : Binary64) : Parser Binary64 := do
  Parser.word text.toList
  return value

/-- A constant: `NaN`, an infinity, or a decimal with an optional sign. -/
def constantPart : Parser Binary64 :=
  (namedPart "NaN" .nan).orElse <| (namedPart "inf" (.infinity false)).orElse <|
    (namedPart "-inf" (.infinity true)).orElse numeralPart

def assignedPart : Parser Binary64 := do
  let _ ← blanks
  Parser.char '='
  let _ ← blanks
  constantPart

def statementPart : Parser Statement := do
  let name ← Parser.someOf Char.isAlpha
  let arguments ← Parser.optional do
    let _ ← blanks
    argumentsPart
  let constant ← assignedPart.optional
  return ⟨String.ofList name, arguments.getD [], constant⟩

/-- A comment extends to the end of the line. -/
def commentPart : Parser Unit := do
  Parser.char '#'
  let _ ← Parser.many fun _ => true

def linePart : Parser (Option Statement) := do
  let _ ← blanks
  let statement ← statementPart.optional
  let _ ← blanks
  let _ ← commentPart.optional
  return statement

/-- The statement of a line, if it has one; `none` outside if the line has no proper form. -/
def readLine? (line : List Char) : Option (Option Statement) := linePart.whole? line

end Dataflow.Assembly
