import Dataflow.Proofs.OptionTexts
import Mathlib.Data.List.Forall2

set_option autoImplicit false

namespace Dataflow.CommandLine

namespace Progress

variable {progress next last : Progress}

/-- No option that cannot be repeated was given twice. -/
def Once (progress : Progress) : Prop :=
  ∀ flag : Flag, flag.repeats = false → (progress.settings.map Prod.fst).count flag ≤ 1

/-- The items are taken in behind what there is. -/
structure Takes (progress : Progress) (items : List Item) (next : Progress) : Prop where
  command : next.command = progress.command
  path : next.path.toList = progress.path.toList ++ paths items
  settings : ∃ taken, List.Forall₂ Gives (options items) taken ∧
    next.settings = taken.reverse ++ progress.settings
  once : progress.Once → next.Once

theorem takes_nil (command : next.command = progress.command) (path : next.path = progress.path)
    (settings : next.settings = progress.settings) : progress.Takes [] next where
  command := command
  path := by rw [path]; exact (List.append_nil _).symm
  settings := ⟨[], .nil, settings⟩
  once once := by rwa [Once, settings]

theorem Takes.trans {items others : List Item} (first : progress.Takes items next)
    (second : next.Takes others last) : progress.Takes (items ++ others) last where
  command := second.command.trans first.command
  path := by rw [second.path, first.path, paths_append, List.append_assoc]
  settings := by
    obtain ⟨taken, given, settings⟩ := first.settings
    obtain ⟨more, otherGiven, otherSettings⟩ := second.settings
    refine ⟨taken ++ more, ?_, ?_⟩
    · rw [options_append]
      exact List.rel_append given otherGiven
    · rw [otherSettings, settings, List.reverse_append, List.append_assoc]
  once once := second.once (first.once once)

theorem set_eq_ok {flag : Flag} {text : String} (done : progress.set flag text = .ok next) :
    progress.Takes [.option flag text] next ∧ next.pending = progress.pending ∧
      next.pathsOnly = progress.pathsOnly := by
  unfold set at done
  split at done
  · cases done
  rename_i fresh
  cases made : flag.setting text with
  | error fault =>
    rw [made] at done
    cases done
  | ok setting =>
    rw [made] at done
    cases done
    have taken : List.Forall₂ Gives [(flag, text)] [(flag, setting)] :=
      .cons ⟨rfl, Flag.setting_eq_ok made⟩ .nil
    refine ⟨⟨rfl, (List.append_nil _).symm, ⟨_, taken, rfl⟩, ?_⟩, rfl, rfl⟩
    intro once other single
    rw [List.map_cons, List.count_cons]
    by_cases same : flag = other
    · subst same
      have absent : flag ∉ progress.settings.map Prod.fst := by
        rintro member
        obtain ⟨⟨other, _⟩, present, rfl⟩ := List.mem_map.mp member
        exact fresh (Bool.and_eq_true_iff.mpr
          ⟨by simp [single], List.any_eq_true.mpr ⟨_, present, decide_eq_true rfl⟩⟩)
      simp [List.count_eq_zero.mpr absent]
    · simpa [same] using once other single

def waiting (progress : Progress) : List Item :=
  match progress.pending with
  | some (flag, some text) => [.option flag text]
  | _ => []

/-- What was put off is taken in, and a missing text is none. -/
theorem settle_eq_ok (done : progress.settle = .ok next) :
    progress.Takes progress.waiting next ∧ (∀ flag, progress.pending ≠ some (flag, none)) ∧
      next.pending = none ∧ next.pathsOnly = progress.pathsOnly := by
  unfold settle at done
  unfold waiting
  cases pending : progress.pending with
  | none =>
    rw [pending] at done
    cases done
    exact ⟨takes_nil rfl rfl rfl, fun _ => nofun, pending, rfl⟩
  | some put =>
    obtain ⟨flag, text⟩ := put
    rw [pending] at done
    cases text with
    | none => cases done
    | some text =>
      obtain ⟨⟨command, path, settings, once⟩, free, paths⟩ := set_eq_ok done
      exact ⟨⟨command, path, settings, once⟩, fun _ => nofun, free, paths⟩

theorem settle_bind_eq_ok {task : Progress → Except UsageError Progress}
    (done : progress.settle >>= task = .ok next) : ∃ settled, task settled = .ok next ∧
      progress.Takes progress.waiting settled ∧ (∀ flag, progress.pending ≠ some (flag, none)) ∧
      settled.pending = none ∧ settled.pathsOnly = progress.pathsOnly := by
  obtain ⟨settled, settles, done⟩ := bind_eq_ok_iff.mp done
  exact ⟨settled, done, settle_eq_ok settles⟩

theorem paths_waiting (progress : Progress) : paths progress.waiting = [] := by
  unfold waiting
  split <;> rfl

theorem addPath_eq_ok {path : String} (done : progress.addPath path = .ok next) :
    progress.Takes (progress.waiting ++ [.path path]) next ∧
      (∀ flag, progress.pending ≠ some (flag, none)) ∧ next.pending = none ∧
      next.pathsOnly = progress.pathsOnly := by
  unfold addPath at done
  split at done
  · cases done
  rename_i first
  obtain ⟨settled, done, taken, given, free, paths⟩ := settle_bind_eq_ok done
  split at done
  · cases done
  · cases done
    refine ⟨taken.trans ⟨rfl, ?_, ⟨[], .nil, rfl⟩, id⟩, given, free, paths⟩
    have none : settled.path.toList = [] := by
      rw [taken.path, paths_waiting, Option.not_isSome_iff_eq_none.mp first]
      rfl
    rw [none]
    rfl

theorem addOption_eq_ok {flag : Flag} {attached : Option String}
    (done : progress.addOption flag attached = .ok next) :
    (∀ other, progress.pending ≠ some (other, none)) ∧ next.pathsOnly = progress.pathsOnly ∧
      match attached with
      | some text =>
        progress.Takes (progress.waiting ++ [.option flag text]) next ∧ next.pending = none
      | none =>
        if flag.takesValue then
          progress.Takes progress.waiting next ∧ next.pending = some (flag, none)
        else progress.Takes (progress.waiting ++ [.option flag ""]) next ∧ next.pending = none := by
  unfold addOption at done
  cases attached with
  | some text =>
    cases takes : flag.takesValue with
    | false =>
      rw [takes] at done
      cases done
    | true =>
      rw [takes] at done
      obtain ⟨settled, done, taken, given, free, paths⟩ := settle_bind_eq_ok done
      obtain ⟨also, pending, still⟩ := set_eq_ok done
      exact ⟨given, still.trans paths, taken.trans also, pending.trans free⟩
  | none =>
    cases takes : flag.takesValue with
    | false =>
      rw [takes] at done
      obtain ⟨settled, done, taken, given, free, paths⟩ := settle_bind_eq_ok done
      obtain ⟨also, pending, still⟩ := set_eq_ok done
      exact ⟨given, still.trans paths, taken.trans also, pending.trans free⟩
    | true =>
      rw [takes] at done
      obtain ⟨settled, done, taken, given, free, paths⟩ := settle_bind_eq_ok done
      cases done
      exact ⟨given, paths, ⟨taken.command, taken.path, taken.settings, taken.once⟩, rfl⟩

def open? (progress : Progress) : Option Flag :=
  match progress.pending with
  | some (flag, none) => some flag
  | _ => none

/-- What is still to be taken in: what was put off, and what further arguments give. -/
def remaining (progress : Progress) (rest : List String) : List Item :=
  progress.waiting ++
    if progress.pathsOnly then rest.map .path else progress.command.items progress.open? rest

/-- An argument takes in some of what is to be taken in, and leaves the rest. -/
def Consumes (progress : Progress) (argument : String) (next : Progress) : Prop :=
  ∀ rest, ∃ items, progress.Takes items next ∧
    progress.remaining (argument :: rest) = items ++ next.remaining rest

theorem remaining_of_free (free : progress.pending = none) (rest : List String) :
    progress.remaining rest =
      if progress.pathsOnly then rest.map .path else progress.command.items none rest := by
  simp [remaining, waiting, open?, free]

theorem remaining_of_given (given : ∀ flag, progress.pending ≠ some (flag, none))
    (rest : List String) :
    progress.remaining rest = progress.waiting ++
      if progress.pathsOnly then rest.map .path else progress.command.items none rest := by
  have closed : progress.open? = none := by
    unfold open?
    split
    · rename_i flag pending
      exact absurd pending (given flag)
    · rfl
  rw [remaining, closed]

theorem consumes_addOption {argument : String} {flag : Flag} {attached : Option String}
    (dashes : argument ≠ "--")
    (named : progress.command.option? argument = some (flag, attached))
    (done : progress.addOption flag attached = .ok next) (paths : progress.pathsOnly = false) :
    progress.Consumes argument next := by
  intro rest
  obtain ⟨given, still, result⟩ := addOption_eq_ok done
  rw [remaining_of_given given, paths, if_neg Bool.false_ne_true, Command.items, if_neg dashes,
    named]
  cases attached with
  | some text =>
    obtain ⟨taken, free⟩ := result
    refine ⟨_, taken, ?_⟩
    rw [remaining_of_free free, still, paths, taken.command, List.append_assoc]
    rfl
  | none =>
    cases takes : flag.takesValue with
    | true =>
      rw [takes] at result
      obtain ⟨taken, pending⟩ := result
      refine ⟨_, taken, ?_⟩
      simp only [takes, if_true, remaining, waiting, open?, pending, still, paths, taken.command,
        Bool.false_eq_true, if_false, List.nil_append]
    | false =>
      rw [takes] at result
      obtain ⟨taken, free⟩ := result
      refine ⟨_, taken, ?_⟩
      rw [remaining_of_free free, still, paths, taken.command, List.append_assoc]
      simp [takes]

theorem consumes_addPath {argument : String} (done : progress.addPath argument = .ok next)
    (named : progress.pathsOnly = false →
      argument ≠ "--" ∧ progress.command.option? argument = none) :
    progress.Consumes argument next := by
  intro rest
  obtain ⟨taken, given, free, still⟩ := addPath_eq_ok done
  refine ⟨_, taken, ?_⟩
  rw [remaining_of_given given, remaining_of_free free, still, taken.command, List.append_assoc]
  cases paths : progress.pathsOnly with
  | true => rfl
  | false =>
    obtain ⟨dashes, none⟩ := named paths
    simp [Command.items, dashes, none]

/-- An option waits for its text, and only paths may follow. -/
def Stuck (progress : Progress) : Prop :=
  progress.pathsOnly = true ∧ ∃ flag, progress.pending = some (flag, none)

theorem consumes_dashes (paths : progress.pathsOnly = false)
    (free : ¬ { progress with pathsOnly := true }.Stuck) :
    progress.Consumes "--" { progress with pathsOnly := true } := by
  have given (flag : Flag) : progress.pending ≠ some (flag, none) :=
    fun pending => free ⟨rfl, flag, pending⟩
  have still (flag : Flag) : { progress with pathsOnly := true }.pending ≠ some (flag, none) :=
    given flag
  refine fun rest => ⟨[], takes_nil rfl rfl rfl, ?_⟩
  rw [remaining_of_given given, remaining_of_given still, paths]
  rfl

theorem consumes_addLong {argument : String} {long : List Char}
    (text : argument.toList = '-' :: '-' :: long) (some : long ≠ [])
    (done : progress.addLong long = .ok next) (paths : progress.pathsOnly = false) :
    progress.Consumes argument next := by
  have dashes : argument ≠ "--" := by
    rintro rfl
    exact some (List.cons.inj (List.cons.inj text).2).2.symm
  unfold addLong at done
  generalize parts : Text.cut '=' long = cut at done
  obtain ⟨name, attached⟩ := cut
  dsimp only at done
  split at done
  · rename_i flag found
    refine consumes_addOption dashes ?_ done paths
    simp only [Command.option?, text, parts, found, Option.map_some]
  · cases done

theorem consumes_addShort {argument : String} {letter : Char} {rest : List Char}
    (text : argument.toList = '-' :: letter :: rest) (short : letter ≠ '-')
    (done : progress.addShort letter rest = .ok next) (paths : progress.pathsOnly = false) :
    progress.Consumes argument next := by
  have dashes : argument ≠ "--" := by
    rintro rfl
    exact short (List.cons.inj (List.cons.inj text).2).1.symm
  unfold addShort at done
  split at done
  · rename_i flag found
    refine consumes_addOption dashes ?_ done paths
    unfold Command.option?
    split
    · rename_i long same
      exact absurd (List.cons.inj (List.cons.inj (text.symm.trans same)).2).1 short
    · rename_i other tail _ same
      obtain ⟨rfl, rfl⟩ := List.cons.inj (List.cons.inj (text.symm.trans same)).2
      rw [found]
      rfl
    · rename_i none
      exact absurd text (none letter rest)
  · cases done

theorem consumes_of_add {argument : String} (done : progress.add argument = .ok next)
    (unasked : progress.wantsHelp = false) (free : ¬ next.Stuck) :
    progress.Consumes argument next := by
  unfold add at done
  rw [unasked, if_neg Bool.false_ne_true] at done
  cases paths : progress.pathsOnly with
  | true =>
    rw [paths, if_pos rfl] at done
    exact consumes_addPath done fun only => by cases paths.symm.trans only
  | false =>
    rw [paths, if_neg Bool.false_ne_true] at done
    split at done
    · rename_i text
      cases done
      obtain rfl : argument = "--" := String.toList_injective text
      exact consumes_dashes paths free
    · rename_i long bare text
      exact consumes_addLong text bare done paths
    · rename_i letter tail bare short text
      exact consumes_addShort text short done paths
    · rename_i bare long short
      have dashes : argument ≠ "--" := fun same => bare (by rw [same]; rfl)
      have plain : progress.command.option? argument = none := by
        unfold Command.option?
        split
        · rename_i rest text
          exact absurd text (long rest)
        · rename_i letter rest _ text
          exact absurd text (short letter rest)
        · rfl
      split at done
      · rename_i flag pending
        cases done
        refine fun rest => ⟨[], takes_nil rfl rfl rfl, ?_⟩
        simp [remaining, waiting, open?, pending, paths, Command.items]
      · exact consumes_addPath done fun _ => ⟨dashes, plain⟩

def finish (progress : Progress) (rest : List String) : Except UsageError Request :=
  rest.foldlM Progress.add progress >>= Progress.request

theorem finish_cons_eq_ok {argument : String} {rest : List String} {request : Request}
    (done : progress.finish (argument :: rest) = .ok request) :
    ∃ next, progress.add argument = .ok next ∧ next.finish rest = .ok request := by
  obtain ⟨last, read, done⟩ := bind_eq_ok_iff.mp done
  obtain ⟨next, added, others⟩ := foldlM_cons_eq_ok_iff.mp read
  exact ⟨next, added, bind_eq_ok_iff.mpr ⟨last, others, done⟩⟩

/-- What has been taken in makes up a request other than one for help. -/
def Makes (progress : Progress) : Request → Prop
  | .run request => progress.command = .run ∧ ∃ program, progress.path = some program ∧
      request = (progress.settings.reverse.map Prod.snd).foldl RunRequest.apply
        (.ofProgram program)
  | .disassemble path => progress.command = .disassemble ∧ progress.path = some path
  | .assemble source output => progress.command = .assemble ∧ progress.path = some source ∧
      (.output output) ∈ progress.settings.map Prod.snd
  | .version | .help => False

theorem path_of_neededPath {path : String} (needed : progress.neededPath = .ok path) :
    progress.path = some path := by
  unfold neededPath at needed
  split at needed
  · cases needed
    assumption
  · cases needed

theorem output_mem_settings {output : String}
    (found : ((progress.settings.reverse.map Prod.snd).findSome? fun
      | .output path => some path
      | _ => none) = some output) : .output output ∈ progress.settings.map Prod.snd := by
  obtain ⟨setting, member, same⟩ := List.exists_of_findSome?_eq_some found
  cases setting with
  | output other =>
    cases same
    obtain ⟨given, present, is⟩ := List.mem_map.mp member
    exact List.mem_map.mpr ⟨given, List.mem_reverse.mp present, is⟩
  | _ => cases same

theorem request_eq_ok {request : Request} (done : progress.request = .ok request) :
    ∃ settled, progress.settle = .ok settled ∧
      if settled.wantsHelp then request = .help else settled.Makes request := by
  obtain ⟨settled, settles, done⟩ := bind_eq_ok_iff.mp done
  refine ⟨settled, settles, ?_⟩
  cases help : settled.wantsHelp with
  | true =>
    rw [help, if_pos rfl] at done
    cases done
    rfl
  | false =>
    rw [help, if_neg Bool.false_ne_true] at done
    cases command : settled.command with
    | run =>
      simp only [command] at done
      obtain ⟨program, needed, done⟩ := bind_eq_ok_iff.mp done
      cases done
      exact ⟨command, program, path_of_neededPath needed, rfl⟩
    | disassemble =>
      simp only [command] at done
      obtain ⟨program, needed, done⟩ := bind_eq_ok_iff.mp done
      cases done
      exact ⟨command, path_of_neededPath needed⟩
    | assemble =>
      simp only [command] at done
      obtain ⟨source, needed, done⟩ := bind_eq_ok_iff.mp done
      split at done
      · rename_i output found
        cases done
        exact ⟨command, path_of_neededPath needed, output_mem_settings found⟩
      · cases done

theorem Takes.wantsHelp {items : List Item} (taken : progress.Takes items next)
    (asked : progress.wantsHelp = true) : next.wantsHelp = true := by
  obtain ⟨more, -, settings⟩ := taken.settings
  rw [Progress.wantsHelp, settings, List.any_append]
  exact Bool.or_eq_true_iff.mpr (Or.inr asked)

/-- Whoever asks for help gets it, or an error. -/
theorem eq_help_of_wantsHelp {rest : List String} {request : Request}
    (asked : progress.wantsHelp = true) (done : progress.finish rest = .ok request) :
    request = .help := by
  induction rest with
  | nil =>
    obtain ⟨settled, settles, made⟩ := request_eq_ok done
    rwa [(settle_eq_ok settles).1.wantsHelp asked, if_pos rfl] at made
  | cons argument rest ih =>
    obtain ⟨next, added, finished⟩ := finish_cons_eq_ok done
    rw [add, if_pos asked] at added
    cases added
    exact ih finished

theorem Stuck.finish_ne_ok (stuck : progress.Stuck) (rest : List String) (request : Request) :
    progress.finish rest ≠ .ok request := by
  obtain ⟨paths, flag, pending⟩ := stuck
  intro done
  induction rest with
  | nil =>
    obtain ⟨settled, settles, -⟩ := request_eq_ok done
    exact (settle_eq_ok settles).2.1 flag pending
  | cons argument rest ih =>
    obtain ⟨next, added, finished⟩ := finish_cons_eq_ok done
    rw [add, if_pos paths] at added
    split at added
    · cases added
      exact ih finished
    · exact (addPath_eq_ok added).2.1 flag pending

/-- A request other than one for help is made of all that is still to be taken in. -/
theorem takes_of_finish {rest : List String} {request : Request}
    (done : progress.finish rest = .ok request) (other : request ≠ .help) :
    ∃ settled, progress.Takes (progress.remaining rest) settled ∧ settled.Makes request := by
  induction rest generalizing progress with
  | nil =>
    obtain ⟨settled, settles, made⟩ := request_eq_ok done
    cases help : settled.wantsHelp with
    | true =>
      rw [help, if_pos rfl] at made
      exact absurd made other
    | false =>
      rw [help, if_neg Bool.false_ne_true] at made
      have all : progress.remaining [] = progress.waiting := by
        simp [remaining, Command.items]
      exact ⟨settled, all ▸ (settle_eq_ok settles).1, made⟩
  | cons argument rest ih =>
    obtain ⟨next, added, finished⟩ := finish_cons_eq_ok done
    have unasked : progress.wantsHelp = false :=
      Bool.eq_false_iff.mpr fun asked => other (eq_help_of_wantsHelp asked done)
    have free : ¬ next.Stuck := fun stuck => stuck.finish_ne_ok _ _ finished
    obtain ⟨items, taken, remains⟩ := consumes_of_add added unasked free rest
    obtain ⟨settled, others, made⟩ := ih finished
    exact ⟨settled, remains ▸ taken.trans others, made⟩

end Progress

theorem helpRequest_eq_ok {rest : List String} {request : Request}
    (done : helpRequest rest = .ok request) : request = .help := by
  unfold helpRequest at done
  split at done
  · cases done
    rfl
  · split at done
    · split at done
      · cases done
        rfl
      · cases done
    · cases done

/-- What a request other than one for help or the version is made of: the settings that the
arguments give, and the path. -/
theorem takes_of_ofArguments {arguments : List String} {request : Request}
    (asked : Request.ofArguments arguments = .ok request) (other : request ≠ .help)
    (unversioned : request ≠ .version) :
    ∃ command settled, arguments.head? = some (Command.name command) ∧
      (Progress.start command).Takes (command.given arguments) settled ∧
        settled.Makes request := by
  unfold Request.ofArguments at asked
  split at asked
  · cases asked
  · rename_i first rest
    split at asked
    · cases asked
      exact absurd rfl unversioned
    · cases asked
      exact absurd rfl other
    · split at asked
      · cases asked
        exact absurd rfl unversioned
      · split at asked
        · cases asked
          exact absurd rfl other
        · split at asked
          · exact absurd (helpRequest_eq_ok asked) other
          · split at asked
            · rename_i command found
              have name : command.name = first := by simpa using List.find?_some found
              obtain ⟨settled, taken, made⟩ := Progress.takes_of_finish asked other
              exact ⟨command, settled, by rw [name]; rfl, taken, made⟩
            · cases asked

end Dataflow.CommandLine
