import Dataflow.Assembly.Statement

set_option autoImplicit false

namespace Dataflow.Assembly.Grammar

open Numeric Text

def Only (inClass : Char → Bool) (text : List Char) : Prop := ∀ c ∈ text, inClass c = true

def SomeOf (inClass : Char → Bool) (text : List Char) : Prop := text ≠ [] ∧ Only inClass text

abbrev Blanks (text : List Char) : Prop := Only isBlank text

inductive ArgumentForm : List Char → Argument → Prop
  | number (digits : List Char) : SomeOf Char.isDigit digits →
      Decimal.ofDigits digits < Argument.numberLimit →
      ArgumentForm digits (.number (Decimal.ofDigits digits))
  | word (digits : List Char) : SomeOf isHexDigit digits →
      ofHexDigits digits < Argument.wordLimit →
      ArgumentForm ('0' :: 'x' :: digits) (.word (UInt32.ofNat (ofHexDigits digits)))
  | name (letters : List Char) : SomeOf Char.isAlpha letters →
      ArgumentForm letters (.name (String.ofList letters))

/-- Arguments with commas between them. -/
inductive ListForm : List Char → List Argument → Prop
  | one {text : List Char} {argument : Argument} : ArgumentForm text argument →
      ListForm text [argument]
  | more {text before behind rest : List Char} {argument : Argument} {others : List Argument} :
      ArgumentForm text argument → Blanks before → Blanks behind → ListForm rest others →
      ListForm (text ++ before ++ ',' :: (behind ++ rest)) (argument :: others)

inductive ArgumentsForm : List Char → List Argument → Prop
  | none {blanks : List Char} : Blanks blanks → ArgumentsForm ('(' :: (blanks ++ [')'])) []
  | list {before text behind : List Char} {arguments : List Argument} :
      Blanks before → ListForm text arguments → Blanks behind →
      ArgumentsForm ('(' :: (before ++ text ++ behind ++ [')'])) arguments

/-- Digits with an optional point: the digits, and how many of them stand behind the point. -/
inductive PointForm : List Char → List Char → Nat → Prop
  | whole {digits : List Char} : SomeOf Char.isDigit digits → PointForm digits digits 0
  | point {digits fraction : List Char} : SomeOf Char.isDigit digits → Only Char.isDigit fraction →
      PointForm (digits ++ '.' :: fraction) (digits ++ fraction) fraction.length
  | fraction {fraction : List Char} : SomeOf Char.isDigit fraction →
      PointForm ('.' :: fraction) fraction fraction.length

/-- An optional sign: whether it is a minus sign. -/
inductive SignForm : List Char → Bool → Prop
  | none : SignForm [] false
  | plus : SignForm ['+'] false
  | minus : SignForm ['-'] true

/-- An optional exponent. -/
inductive ExponentForm : List Char → Int → Prop
  | none : ExponentForm [] 0
  | some {mark : Char} {sign digits : List Char} {negative : Bool} : mark = 'e' ∨ mark = 'E' →
      SignForm sign negative → SomeOf Char.isDigit digits →
      ExponentForm (mark :: (sign ++ digits))
        (if negative then -(Decimal.exponentOfDigits digits : Int)
          else Decimal.exponentOfDigits digits)

inductive ConstantForm : List Char → Binary64 → Prop
  | nan : ConstantForm ['N', 'a', 'N'] .nan
  | infinity : ConstantForm ['i', 'n', 'f'] (.infinity false)
  | negativeInfinity : ConstantForm ['-', 'i', 'n', 'f'] (.infinity true)
  | decimal {sign point exponentText digits : List Char} {negative : Bool} {places : Nat}
      {exponent : Int} : SignForm sign negative → PointForm point digits places →
      ExponentForm exponentText exponent →
      ConstantForm (sign ++ point ++ exponentText)
        (.ofDecimal negative ⟨Decimal.ofDigits digits, exponent - places⟩)

/-- Optional arguments, with blanks before them. -/
inductive OptionalArguments : List Char → List Argument → Prop
  | none : OptionalArguments [] []
  | some {blanks text : List Char} {arguments : List Argument} : Blanks blanks →
      ArgumentsForm text arguments → OptionalArguments (blanks ++ text) arguments

/-- An optional constant, with blanks around the equals sign. -/
inductive OptionalConstant : List Char → Option Binary64 → Prop
  | none : OptionalConstant [] none
  | some {before behind text : List Char} {constant : Binary64} : Blanks before → Blanks behind →
      ConstantForm text constant →
      OptionalConstant (before ++ '=' :: (behind ++ text)) (some constant)

inductive StatementForm : List Char → Statement → Prop
  | mk {name arguments constant : List Char} {list : List Argument} {value : Option Binary64} :
      SomeOf Char.isAlpha name → OptionalArguments arguments list →
      OptionalConstant constant value →
      StatementForm (name ++ arguments ++ constant) ⟨String.ofList name, list, value⟩

inductive CommentForm : List Char → Prop
  | none : CommentForm []
  | some (text : List Char) : CommentForm ('#' :: text)

/-- Blanks, an optional statement, blanks, and an optional comment. -/
inductive LineForm : List Char → Option Statement → Prop
  | none {blanks comment : List Char} : Blanks blanks → CommentForm comment →
      LineForm (blanks ++ comment) none
  | some {before text behind comment : List Char} {statement : Statement} : Blanks before →
      StatementForm text statement → Blanks behind → CommentForm comment →
      LineForm (before ++ text ++ behind ++ comment) (some statement)

end Dataflow.Assembly.Grammar
