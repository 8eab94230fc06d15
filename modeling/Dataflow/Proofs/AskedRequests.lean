import Dataflow.CommandLine.Execute
import Dataflow.Proofs.GivenArguments

set_option autoImplicit false

namespace Dataflow.CommandLine

open Numeric

namespace RunRequest

/-- A part of a request that settings replace is what the last of these settings gives. -/
theorem part_foldl_apply {α : Type} (part : RunRequest → α) (value? : Setting → Option α)
    (one : ∀ request setting, part (request.apply setting) = (value? setting).getD (part request))
    (settings : List Setting) (request : RunRequest) :
    part (settings.foldl apply request) = (settings.filterMap value?).getLastD (part request) := by
  induction settings generalizing request with
  | nil => rfl
  | cons setting rest ih =>
    rw [List.foldl_cons, ih, one, List.filterMap_cons]
    cases value? setting with
    | none => rfl
    | some value => exact List.getLastD_cons.symm

theorem program_foldl_apply (settings : List Setting) (request : RunRequest) :
    (settings.foldl apply request).program = request.program := by
  rw [part_foldl_apply program (fun _ => none) (fun request setting => by cases setting <;> rfl)]
  simp

theorem inputs_foldl_apply (settings : List Setting) (request : RunRequest) :
    (settings.foldl apply request).inputs = request.inputs ++ settings.filterMap fun
      | .input port value => some (port, value)
      | _ => none := by
  induction settings generalizing request with
  | nil => exact (List.append_nil _).symm
  | cons setting rest ih =>
    rw [List.foldl_cons, ih, List.filterMap_cons]
    cases setting <;> simp [apply]

end RunRequest

/-- The value of an option that can be given once: its text as it is read, or a default. -/
def Given {α : Type} (reads : String → α → Prop) (default : α) : List String → α → Prop
  | [], value => value = default
  | [text], value => reads text value
  | _ :: _ :: _, _ => False

theorem given_getLastD {α : Type} {reads : String → α → Prop} {default : α} {texts : List String}
    {values : List α} (read : List.Forall₂ reads texts values) (once : texts.length ≤ 1) :
    Given reads default texts (values.getLastD default) := by
  cases read with
  | nil => rfl
  | cons first rest =>
    cases rest with
    | nil => exact first
    | cons second rest => exact absurd once (by simp)

/-- The settings of one option have values, each what a text says. -/
structure Flag.Has {α : Type} (own : Flag) (value? : Setting → Option α)
    (reads : String → α → Prop) : Prop where
  own : ∀ setting, (value? setting).isSome = decide (setting.flag = own)
  reads : ∀ setting text value, value? setting = some value → setting.Reads text →
    reads text value

section

variable {α : Type} {own : Flag} {value? : Setting → Option α} {reads : String → α → Prop}
  {command : Command} {arguments : List String} {items : List Item} {settled : Progress}

theorem Flag.Has.forall₂ (has : own.Has value? reads)
    (taken : (Progress.start command).Takes items settled) :
    List.Forall₂ reads (texts own items)
      ((settled.settings.reverse.map Prod.snd).filterMap value?) := by
  obtain ⟨settings, given, same⟩ := taken.settings
  have all : settled.settings.reverse = settings := by simp [same, Progress.start]
  rw [all]
  clear same all
  unfold texts
  generalize options items = options at given
  induction given with
  | nil => exact .nil
  | @cons option given options settings gives _ ih =>
    obtain ⟨-, belongs, read⟩ := gives
    have whether := has.own given.2
    rw [belongs] at whether
    cases is : value? given.2 with
    | some value =>
      rw [is] at whether
      simpa only [List.filter_cons, ← whether, Option.isSome_some, if_true, List.map_cons,
        List.filterMap_cons, is] using List.Forall₂.cons (has.reads _ _ _ is read) ih
    | none =>
      rw [is] at whether
      simpa only [List.filter_cons, ← whether, Option.isSome_none, Bool.false_eq_true, if_false,
        List.map_cons, List.filterMap_cons, is] using ih

theorem length_texts_le (taken : (Progress.start command).Takes items settled)
    (single : own.repeats = false) : (texts own items).length ≤ 1 := by
  obtain ⟨settings, given, same⟩ := taken.settings
  have once : (settings.map Prod.fst).count own ≤ 1 := by
    have fresh : (Progress.start command).Once := fun _ _ => Nat.zero_le 1
    simpa [same, Progress.start] using taken.once fresh own single
  have flags : (options items).map Prod.fst = settings.map Prod.fst := by
    rw [← List.forall₂_eq_eq_eq, List.forall₂_map_left_iff, List.forall₂_map_right_iff]
    exact given.imp fun _ _ gives => gives.1
  rw [texts, List.length_map, ← List.countP_eq_length_filter]
  rwa [← flags, List.count, List.countP_map] at once

/-- A part of a run is what its option says. -/
theorem Flag.Has.gives (has : own.Has value? reads) (single : own.repeats = false)
    (part : RunRequest → α) (changes : ∀ request setting,
      part (request.apply setting) = (value? setting).getD (part request))
    (taken : (Progress.start command).Takes items settled) (program : String) :
    Given reads (part (.ofProgram program)) (texts own items)
      (part ((settled.settings.reverse.map Prod.snd).foldl RunRequest.apply
        (.ofProgram program))) := by
  rw [RunRequest.part_foldl_apply part value? changes]
  exact given_getLastD (has.forall₂ taken) (length_texts_le taken single)

/-- An option that cannot be repeated and has a setting has one text, which says what it sets. -/
theorem Flag.Has.of_mem (has : own.Has value? reads) (single : own.repeats = false)
    (taken : (Progress.start command).Takes items settled) {setting : Setting} {value : α}
    (member : setting ∈ settled.settings.reverse.map Prod.snd)
    (sets : value? setting = some value) : ∃ text, texts own items = [text] ∧ reads text value := by
  have read := has.forall₂ taken
  have once := length_texts_le taken single
  have given := List.mem_filterMap.mpr ⟨setting, member, sets⟩
  generalize texts own items = all at read once ⊢
  generalize (settled.settings.reverse.map Prod.snd).filterMap value? = values at read given
  cases read with
  | nil => cases given
  | @cons text _ _ _ first rest =>
    cases rest with
    | nil =>
      obtain rfl := List.mem_singleton.mp given
      exact ⟨text, rfl, first⟩
    | cons second rest => exact absurd once (by simp)

theorem has_cycles : Flag.cycles.Has (fun | .cycles count => some count | _ => none)
    (GivesNumber 0xFFFFFFFFFFFFFFFF) where
  own setting := by cases setting <;> rfl
  reads setting text value := by
    cases setting <;> rintro ⟨⟩
    exact id

theorem has_scenario : Flag.scenario.Has (fun | .scenario number => some (some number) | _ => none)
    (fun text scenario => ∃ number, scenario = some number ∧ GivesScenario text number) where
  own setting := by cases setting <;> rfl
  reads setting text value := by
    cases setting <;> rintro ⟨⟩
    exact fun read => ⟨_, rfl, read⟩

theorem has_configPort : Flag.configPort.Has (fun | .configPort port => some port | _ => none)
    (GivesNumber 0xFFFFFFFFFFFFFFFF) where
  own setting := by cases setting <;> rfl
  reads setting text value := by
    cases setting <;> rintro ⟨⟩
    exact id

theorem has_memorySlots :
    Flag.memorySlots.Has (fun | .memorySlots slots => some slots | _ => none)
      (GivesNumber 0xFFFFFFFFFFFFFFFF) where
  own setting := by cases setting <;> rfl
  reads setting text value := by
    cases setting <;> rintro ⟨⟩
    exact id

theorem has_strict : Flag.strict.Has (fun | .strict => some true | _ => none)
    (fun _ strict => strict = true) where
  own setting := by cases setting <;> rfl
  reads setting text value := by
    cases setting <;> rintro ⟨⟩
    exact fun _ => rfl

theorem has_status : Flag.status.Has (fun | .status => some true | _ => none)
    (fun _ status => status = true) where
  own setting := by cases setting <;> rfl
  reads setting text value := by
    cases setting <;> rintro ⟨⟩
    exact fun _ => rfl

theorem has_input :
    Flag.input.Has (fun | .input port value => some (port, value) | _ => none) GivesInput where
  own setting := by cases setting <;> rfl
  reads setting text value := by
    cases setting <;> rintro ⟨⟩
    exact id

theorem has_output : Flag.output.Has (fun | .output path => some path | _ => none)
    (fun text path => path = text ∧ text ≠ "") where
  own setting := by cases setting <;> rfl
  reads setting text value := by
    cases setting <;> rintro ⟨⟩
    exact id

/-- The parts of a run, each told from the arguments of its own option. -/
structure AsksRun (arguments : List String) (request : RunRequest) : Prop where
  command : arguments.head? = some "run"
  program : paths (Command.run.given arguments) = [request.program]
  cycles : Given (GivesNumber 0xFFFFFFFFFFFFFFFF) 1
    (texts .cycles (Command.run.given arguments)) request.cycles
  scenario : Given (fun text scenario =>
      ∃ number, scenario = some number ∧ GivesScenario text number)
    none (texts .scenario (Command.run.given arguments)) request.scenario
  configPort : Given (GivesNumber 0xFFFFFFFFFFFFFFFF) 16000
    (texts .configPort (Command.run.given arguments)) request.configPort
  /-- The inputs stand in the order of the arguments. -/
  inputs : List.Forall₂ GivesInput (texts .input (Command.run.given arguments)) request.inputs
  strict : Given (fun _ strict => strict = true) false
    (texts .strict (Command.run.given arguments)) request.strict
  memorySlots : Given (GivesNumber 0xFFFFFFFFFFFFFFFF) 32768
    (texts .memorySlots (Command.run.given arguments)) request.memorySlots
  status : Given (fun _ status => status = true) false
    (texts .status (Command.run.given arguments)) request.status

theorem asksRun_of_ofArguments {request : RunRequest}
    (asked : Request.ofArguments arguments = .ok (.run request)) : AsksRun arguments request := by
  obtain ⟨command, settled, first, taken, is, program, path, rfl⟩ :=
    takes_of_ofArguments asked nofun nofun
  obtain rfl : Command.run = command := is.symm.trans taken.command
  exact
    { command := first
      program := by
        rw [RunRequest.program_foldl_apply]
        simpa [path, Progress.start, RunRequest.ofProgram] using taken.path.symm
      cycles := has_cycles.gives rfl (·.cycles) (fun _ setting => by cases setting <;> rfl) taken _
      scenario :=
        has_scenario.gives rfl (·.scenario) (fun _ setting => by cases setting <;> rfl) taken _
      configPort :=
        has_configPort.gives rfl (·.configPort) (fun _ setting => by cases setting <;> rfl) taken _
      inputs := by
        rw [RunRequest.inputs_foldl_apply]
        exact has_input.forall₂ taken
      strict := has_strict.gives rfl (·.strict) (fun _ setting => by cases setting <;> rfl) taken _
      memorySlots := has_memorySlots.gives rfl (·.memorySlots)
        (fun _ setting => by cases setting <;> rfl) taken _
      status :=
        has_status.gives rfl (·.status) (fun _ setting => by cases setting <;> rfl) taken _ }

structure AsksAssembling (arguments : List String) (source output : String) : Prop where
  command : arguments.head? = some "asm"
  source : paths (Command.assemble.given arguments) = [source]
  output : texts .output (Command.assemble.given arguments) = [output] ∧ output ≠ ""

theorem asksAssembling_of_ofArguments {source output : String}
    (asked : Request.ofArguments arguments = .ok (.assemble source output)) :
    AsksAssembling arguments source output := by
  obtain ⟨command, settled, first, taken, is, path, made⟩ := takes_of_ofArguments asked nofun nofun
  obtain rfl : Command.assemble = command := is.symm.trans taken.command
  refine ⟨first, by simpa [path, Progress.start] using taken.path.symm, ?_⟩
  have member : Setting.output output ∈ settled.settings.reverse.map Prod.snd := by
    simpa using made
  obtain ⟨text, given, rfl, some⟩ := has_output.of_mem rfl taken member rfl
  exact ⟨given, some⟩

end

/-- The value is exactly a whole number: a zero, or `(1 + fraction / 2 ^ 52) * 2 ^ exponent` in the
fields of its pattern. -/
def Holds (value : Binary64) (number : Nat) : Prop :=
  (number = 0 ∧ value.bits = 0) ∨
    ∃ exponent fraction, exponent < 1024 ∧ fraction < 0x10000000000000 ∧
      value.bits.toNat = (1023 + exponent) * 0x10000000000000 + fraction ∧
      (0x10000000000000 + fraction) <<< exponent = number * 0x10000000000000

/-- A positive whole number of at most fifty-three binary digits has the first of them before the
point and fits the others behind it. -/
theorem exists_fraction {number : Nat} (positive : number ≠ 0) (short : number.log2 ≤ 52) :
    ∃ fraction < fractions, (fractions + fraction) <<< number.log2 = number * fractions := by
  obtain ⟨least, most⟩ := (Nat.log2_eq_iff positive).mp rfl
  generalize number.log2 = exponent at short least most ⊢
  have whole : 2 ^ (52 - exponent) * 2 ^ exponent = fractions := by
    rw [← Nat.pow_add, Nat.sub_add_cancel short]
    rfl
  have lower : fractions ≤ number * 2 ^ (52 - exponent) := by
    rw [← whole, Nat.mul_comm]
    exact Nat.mul_le_mul_right _ least
  have upper : number * 2 ^ (52 - exponent) < 2 * fractions := by
    rw [← whole, Nat.mul_left_comm, Nat.mul_comm]
    refine Nat.mul_lt_mul_of_pos_left ?_ (Nat.two_pow_pos _)
    rwa [← Nat.pow_succ']
  obtain ⟨fraction, is⟩ := Nat.exists_eq_add_of_le lower
  refine ⟨fraction, by omega, ?_⟩
  rw [← is, Nat.shiftLeft_eq, Nat.mul_assoc, whole]

theorem holds_scenarioValue {number : Nat} (small : number ≤ 0xFFFFFFFF) :
    Holds (RunRequest.scenarioValue number) number := by
  by_cases zero : number = 0
  · subst zero
    exact .inl ⟨rfl, rfl⟩
  · have few : number.log2 < 32 := (Nat.log2_lt zero).mpr (Nat.lt_succ_of_le small)
    obtain ⟨fraction, below, same⟩ := exists_fraction zero (by omega)
    generalize number.log2 = exponent at few same
    have finite : exponent < 1024 := by omega
    have magnitude : Decimal.magnitude ⟨number, 0⟩ = (1023 + exponent) * fractions + fraction := by
      have nearest := nearestMagnitude_natural finite below same
      simpa [Decimal.magnitude, zero, Decimal.largestExponent, Decimal.smallestScale,
        Decimal.powerOfTen] using nearest
    refine .inr ⟨exponent, fraction, finite, below, ?_, same⟩
    rw [RunRequest.scenarioValue, Binary64.ofDecimal, magnitude, Binary64.ofMagnitude]
    simp only [fractions, Bool.false_eq_true, if_false, Nat.zero_add] at below ⊢
    exact UInt64.toNat_ofNat_of_lt' (by simp only [UInt64.size]; omega)

theorem Given.of_some {reads : String → Option Nat → Prop} {texts : List String} {number : Nat}
    (chosen : Given reads none texts (some number)) : ∃ text, reads text (some number) := by
  match texts with
  | [] => cases chosen
  | [text] => exact ⟨text, chosen⟩

theorem AsksRun.holds_scenario {arguments : List String} {request : RunRequest} {number : Nat}
    (asks : AsksRun arguments request) (given : request.scenario = some number) :
    Holds (RunRequest.scenarioValue number) number := by
  have chosen := asks.scenario
  rw [given] at chosen
  obtain ⟨text, _, same, read⟩ := chosen.of_some
  cases same
  refine holds_scenarioValue ?_
  rcases read with ⟨bounded, -⟩ | ⟨rfl, -⟩
  · exact bounded
  · exact Nat.zero_le _

end Dataflow.CommandLine
