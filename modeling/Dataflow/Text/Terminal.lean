set_option autoImplicit false

namespace Dataflow.Text

/-- How far a control sequence has got. -/
inductive Sequence where
  /-- There is none. -/
  | outside
  | escape
  | escapeIntermediate
  /-- Behind `ESC [`: parameters and a final character. -/
  | control
  /-- Behind `ESC P`: parameters of a string for the device. -/
  | device
  | deviceParameters
  | deviceIntermediate
  /-- A string that ends at the byte 0x9C. -/
  | string
  /-- Behind `ESC ]`: a string that ends at a bell. -/
  | command
deriving DecidableEq

def within (first last c : Char) : Bool := first ≤ c && c ≤ last

namespace Sequence

/-- The sequence behind a character after an escape character. -/
def afterEscape (c : Char) : Sequence :=
  if c = '[' then control
  else if c = ']' then command
  else if c = 'P' then device
  else if c = 'X' ∨ c = '^' ∨ c = '_' then string
  else if within ' ' '/' c then escapeIntermediate
  else if within '0' '~' c then outside
  else escape

/-- The sequence one character later. A new escape character begins anew, and two controls end
every sequence. -/
def next (sequence : Sequence) (c : Char) : Sequence :=
  if c = '\x18' ∨ c = '\x1a' then outside
  else if c = '\x1b' then escape
  else match sequence with
    | outside => outside
    | escape => afterEscape c
    | escapeIntermediate => if within '0' '~' c then outside else escapeIntermediate
    | control => if within '@' '~' c then outside else control
    | device =>
      if within '@' '~' c then string
      else if within '0' '?' c then deviceParameters
      else if within ' ' '/' c then deviceIntermediate
      else device
    | deviceParameters =>
      if within '<' '~' c then string
      else if within ' ' '/' c then deviceIntermediate
      else deviceParameters
    | deviceIntermediate => if within '0' '~' c then string else deviceIntermediate
    | string => if (String.utf8EncodeChar c).contains 0x9C then outside else string
    | command => if c = '\x07' then outside else command

/-- Whether a plain character is shown although it stands inside the sequence. -/
def shows (sequence : Sequence) (c : Char) : Bool :=
  match sequence with
  | outside => true
  | escape | escapeIntermediate | control => c < ' '
  | device | deviceParameters | deviceIntermediate | string | command => false

end Sequence

def isPlain (c : Char) : Bool :=
  c = '\t' || c = '\n' || c = '\x0c' || c = '\r' || (' ' ≤ c && c ≠ '\x7f')

/-- The plain characters of a text behind a sequence, given whether the last character was shown.
A character beyond ASCII ends the sequence if it is shown. -/
def plainFrom (sequence : Sequence) (shown : Bool) : List Char → List Char
  | [] => []
  | c :: rest =>
    if isPlain c && (shown || sequence.shows c) then
      c :: plainFrom (if c ≤ '\x7f' then sequence else .outside) true rest
    else plainFrom (sequence.next c) false rest

/-- What is left of a text without its control sequences and without the control characters that are
not white space. A white space control inside a sequence is plain all the same, and so is all that
follows it up to the next character that is not plain by itself; there the sequence goes on. -/
def plain (text : String) : String := String.ofList (plainFrom .outside false text.toList)

def emphasise (text : String) : String := "\x1b[1m" ++ text ++ "\x1b[0m"

end Dataflow.Text
