import Dataflow.CommandLine.Arguments
import Dataflow.Proofs.Checks

set_option autoImplicit false

namespace Dataflow.CommandLine

open Numeric

/-- Digits, and the number that they write. -/
def Writes (digits : List Char) (number : Nat) : Prop :=
  digits ≠ [] ∧ (∀ digit ∈ digits, digit.isDigit = true) ∧ Decimal.ofDigits digits = number

/-- A number up to a largest one, perhaps with a plus sign in front. -/
def GivesNumber (largest : Nat) (text : String) (number : Nat) : Prop :=
  number ≤ largest ∧
    ∃ digits, Writes digits number ∧ (text.toList = digits ∨ text.toList = '+' :: digits)

/-- A number of thirty-two bits; a zero may also have a minus sign in front. -/
def GivesScenario (text : String) (number : Nat) : Prop :=
  GivesNumber 0xFFFFFFFF text number ∨
    number = 0 ∧ ∃ digits, Writes digits 0 ∧ text.toList = '-' :: digits

/-- The number of a port and a value, around the first equals sign and any white space. -/
def GivesInput (text : String) (input : Nat × Binary64) : Prop :=
  ∃ port value, '=' ∉ port ∧ text.toList = port ++ '=' :: value ∧
    GivesNumber 0xFFFFFFFFFFFFFFFF (String.ofList (Text.trim Text.isWhiteSpace port)) input.1 ∧
    readFloat (Text.trim Text.isWhiteSpace value) = .ok input.2

theorem digits_of_readDigits {largest value number : Nat} {beyond : ValueFault}
    {digits : List Char} (read : readDigits largest beyond value digits = .ok number) :
    (∀ digit ∈ digits, digit.isDigit = true) ∧ Nat.ofDigitChars 10 digits value = number ∧
      (value ≤ largest → number ≤ largest) := by
  induction digits generalizing value with
  | nil =>
    cases read
    exact ⟨nofun, rfl, id⟩
  | cons digit rest ih =>
    rw [readDigits] at read
    split at read
    · cases read
    rename_i isDigit
    dsimp only at read
    split at read
    · cases read
    rename_i room
    obtain ⟨only, reads, bounded⟩ := ih read
    have first : digit.isDigit = true := by simpa using isDigit
    exact ⟨List.forall_mem_cons.mpr ⟨first, only⟩, reads, fun _ => bounded (Nat.le_of_not_lt room)⟩

theorem writes_of_readDigits {largest number : Nat} {beyond : ValueFault} {digits : List Char}
    (some : digits ≠ []) (read : readDigits largest beyond 0 digits = .ok number) :
    Writes digits number ∧ number ≤ largest := by
  obtain ⟨only, reads, bounded⟩ := digits_of_readDigits read
  exact ⟨⟨some, only, reads⟩, bounded (Nat.zero_le _)⟩

theorem givesNumber_of_readNatural {largest number : Nat} {text : String}
    (read : readNatural largest text.toList = .ok number) : GivesNumber largest text number := by
  unfold readNatural at read
  split at read
  · cases read
  · cases read
  · rename_i digits unsigned whole
    obtain ⟨writes, bounded⟩ := writes_of_readDigits (by simpa using unsigned) read
    exact ⟨bounded, digits, writes, .inr whole⟩
  · rename_i some _ _
    obtain ⟨writes, bounded⟩ := writes_of_readDigits some read
    exact ⟨bounded, _, writes, .inl rfl⟩

theorem givesScenario_of_readRanged {number : Nat} {text : String}
    (read : readRanged largestScenario text.toList = .ok number) : GivesScenario text number := by
  unfold readRanged at read
  cases integer : readInteger text.toList with
  | error fault =>
    rw [integer] at read
    cases read
  | ok value =>
    rw [integer] at read
    dsimp only at read
    split at read
    · rename_i range
      cases read
      unfold readInteger at integer
      split at integer
      · cases integer
      · rename_i digits some whole
        obtain ⟨_, negated, rfl⟩ := map_eq_ok_iff.mp integer
        obtain ⟨count, read, same⟩ := bind_eq_ok_iff.mp negated
        cases same
        obtain ⟨writes, -⟩ := writes_of_readDigits (by simpa using some) read
        obtain rfl : count = 0 := by omega
        exact .inr ⟨rfl, digits, writes, whole⟩
      · obtain ⟨count, read, rfl⟩ := map_eq_ok_iff.mp integer
        obtain ⟨-, written⟩ := givesNumber_of_readNatural read
        exact .inl ⟨Int.ofNat_le.mp range.2, written⟩
    · cases read

theorem givesInput_of_readAssignment {input : Nat × Binary64} {text : String}
    (read : readAssignment text.toList = .ok input) : GivesInput text input := by
  unfold readAssignment at read
  split at read
  · cases read
  · rename_i port value parts
    obtain ⟨number, reads, read⟩ := bind_eq_ok_iff.mp read
    obtain ⟨content, holds, read⟩ := bind_eq_ok_iff.mp read
    cases read
    obtain ⟨apart, whole⟩ := Text.eq_append_of_cut parts
    have named : readNatural largestNatural
        (String.ofList (Text.trim Text.isWhiteSpace port)).toList = .ok number := by
      rwa [String.toList_ofList]
    exact ⟨port, value, apart, whole, givesNumber_of_readNatural named, holds⟩

/-- What an argument is for. The text of an option that takes none is empty. -/
inductive Item where
  | option (flag : Flag) (text : String)
  | path (text : String)
deriving DecidableEq

namespace Command

def option? (command : Command) (argument : String) : Option (Flag × Option String) :=
  match argument.toList with
  | '-' :: '-' :: long =>
    let (name, attached) := Text.cut '=' long
    (command.flags.find? (·.long.toList == name)).map (·, attached.map String.ofList)
  | '-' :: letter :: rest =>
    (command.flags.find? (·.short? == some letter)).map fun flag =>
      let attached := match rest with
        | [] => none
        | '=' :: text => some text
        | text => some text
      (flag, if flag.takesValue then attached.map String.ofList else none)
  | _ => none

/-- What arguments are for, if the option before them still waits for its text or if none does.
Behind two dashes alone every argument is a path. -/
def items (command : Command) : Option Flag → List String → List Item
  | _, [] => []
  | some flag, text :: rest => .option flag text :: command.items none rest
  | none, argument :: rest =>
    if argument = "--" then rest.map .path
    else match command.option? argument with
      | none => .path argument :: command.items none rest
      | some (flag, some text) => .option flag text :: command.items none rest
      | some (flag, none) =>
        if flag.takesValue then command.items (some flag) rest
        else .option flag "" :: command.items none rest

/-- What the arguments behind the name of the command are for. -/
def given (command : Command) (arguments : List String) : List Item :=
  command.items none arguments.tail

example : run.given ["run", "--input=1=2", "--strict", "--input", "3=4", "p", "--", "-"] =
    [.option .input "1=2", .option .strict "", .option .input "3=4", .path "p", .path "-"] := by
  decide

end Command

def options (items : List Item) : List (Flag × String) :=
  items.filterMap fun
    | .option flag text => some (flag, text)
    | .path _ => none

def paths (items : List Item) : List String :=
  items.filterMap fun
    | .option _ _ => none
    | .path text => some text

def texts (own : Flag) (items : List Item) : List String :=
  ((options items).filter (·.1 = own)).map Prod.snd

theorem options_append (first second : List Item) :
    options (first ++ second) = options first ++ options second := List.filterMap_append

theorem paths_append (first second : List Item) :
    paths (first ++ second) = paths first ++ paths second := List.filterMap_append

namespace Setting

def flag : Setting → Flag
  | cycles _ => .cycles
  | scenario _ => .scenario
  | configPort _ => .configPort
  | input _ _ => .input
  | strict => .strict
  | memorySlots _ => .memorySlots
  | status => .status
  | output _ => .output
  | help => .help

def Reads (text : String) : Setting → Prop
  | cycles number | configPort number | memorySlots number =>
    GivesNumber 0xFFFFFFFFFFFFFFFF text number
  | scenario number => GivesScenario text number
  | input port value => GivesInput text (port, value)
  | output path => path = text ∧ text ≠ ""
  | strict | status | help => True

end Setting

/-- The setting of an option is its text, read on its own. -/
def Gives (option : Flag × String) (setting : Flag × Setting) : Prop :=
  option.1 = setting.1 ∧ setting.2.flag = option.1 ∧ setting.2.Reads option.2

theorem Flag.setting_eq_ok {flag : Flag} {text : String} {setting : Setting}
    (made : flag.setting text = .ok setting) : setting.flag = flag ∧ setting.Reads text := by
  cases flag with
  | cycles | configPort | memorySlots =>
    simp only [Flag.setting] at made
    split at made
    · rename_i number read
      cases made
      exact ⟨rfl, givesNumber_of_readNatural read⟩
    · cases made
  | scenario =>
    simp only [Flag.setting] at made
    split at made
    · rename_i number read
      cases made
      exact ⟨rfl, givesScenario_of_readRanged read⟩
    · cases made
  | input =>
    simp only [Flag.setting] at made
    split at made
    · rename_i input read
      cases made
      exact ⟨rfl, givesInput_of_readAssignment read⟩
    · cases made
  | output =>
    simp only [Flag.setting] at made
    split at made
    · cases made
    · rename_i some
      cases made
      exact ⟨rfl, rfl, some⟩
  | strict | status | help =>
    cases made
    exact ⟨rfl, trivial⟩

end Dataflow.CommandLine
