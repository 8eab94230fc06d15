import Dataflow.Files.Directory
import Dataflow.Proofs.Checks

set_option autoImplicit false

namespace Dataflow

namespace FileStore

variable {σ : Type}

def opened (store : FileStore (StateM σ)) (path : String) (system : σ) :
    Except FileError ByteSource :=
  ((store.openFile path).run system).1

def text? (store : FileStore (StateM σ)) (path : String) (system : σ) : Option String := do
  let source ← (store.opened path system).toOption
  let bytes ← source.readAll.toOption
  String.fromUTF8? ⟨bytes.toArray⟩

theorem text?_eq_some_iff {store : FileStore (StateM σ)} {path text : String} {system : σ} :
    store.text? path system = some text ↔ ∃ source bytes, store.opened path system = .ok source ∧
      source.readAll = .ok bytes ∧ String.fromUTF8? ⟨bytes.toArray⟩ = some text := by
  simp only [text?, bind, Option.bind_eq_some_iff, toOption_eq_some_iff, exists_and_left]

theorem text?_of_toUTF8 {store : FileStore (StateM σ)} {path text : String} {system : σ}
    {source : ByteSource} (opens : store.opened path system = .ok source)
    (delivered : source.readAll = .ok text.toUTF8.data.toList) :
    store.text? path system = some text := by
  refine text?_eq_some_iff.mpr ⟨source, _, opens, delivered, ?_⟩
  rw [Array.toArray_toList]
  exact dif_pos text.isValidUTF8

/-- What is written to a path is kept, and only paths that touch the file there notice. -/
structure Keeps (store : FileStore (StateM σ)) (output : String) (touches : String → Prop) :
    Prop where
  /-- Files are opened for reading only. -/
  opening : ∀ path system, ((store.openFile path).run system).2 = system
  kept : ∀ contents system changed,
    (store.createFile output contents).run system = (.ok (), changed) →
      ∃ source, store.opened output changed = .ok source ∧ source.readAll = .ok contents
  others : ∀ contents system changed,
    (store.createFile output contents).run system = (.ok (), changed) →
      ∀ path, ¬ touches path → store.opened path changed = store.opened path system

end FileStore

namespace Directory

variable {directory : Directory}

theorem find?_insert_of_ne {name other : String} (different : other ≠ name)
    (contents : List UInt8) :
    (directory.insert name contents).find? other = directory.find? other := by
  obtain ⟨files⟩ := directory
  simp only [insert, find?, List.lookup_cons]
  have apart : (other == name) = false := by simpa using different
  simp only [apart]
  induction files with
  | nil => rfl
  | cons file rest ih =>
    obtain ⟨own, bytes⟩ := file
    by_cases same : own = name
    · subst same
      simp [List.lookup_cons, apart, ih]
    · simp [List.lookup_cons, same, ih]

theorem contents?_insert_of_ne {name other : String} (different : other ≠ name)
    (contents : List UInt8) (place : Place) :
    (directory.insert name contents).contents? place other = directory.contents? place other := by
  unfold contents?
  rw [find?_insert_of_ne different]

theorem exists_names (path : String) : ∃ front last, names path = front ++ [last] := by
  have nonempty : names path ≠ [] := by
    rw [names, Ne, List.map_eq_nil_iff]
    exact Text.split_ne_nil _ _
  exact ⟨_, _, (List.dropLast_concat_getLast nonempty).symm⟩

/-- Directories in which the names on a path stand for the same are searched alike. -/
theorem openFile_congr {other : Directory} {path : String}
    (same : ∀ name ∈ names path, ∀ place,
      directory.contents? place name = other.contents? place name) :
    directory.openFile path = other.openFile path := by
  have enters (steps : List String) (within : ∀ name ∈ steps, name ∈ names path) (place : Place) :
      steps.foldlM directory.enter place = steps.foldlM other.enter place := by
    induction steps generalizing place with
    | nil => rfl
    | cons step rest ih =>
      obtain ⟨first, later⟩ := List.forall_mem_cons.mp within
      have here : directory.enter place step = other.enter place step := by
        unfold enter
        rw [same step first]
      rw [List.foldlM_cons, List.foldlM_cons, here]
      exact congrArg _ (funext (ih later))
  obtain ⟨front, last, parts⟩ := exists_names path
  have way := enters front (fun name member => by simp [parts, member]) (start path)
  have file := same last (by simp [parts])
  unfold openFile
  simp only [parts, List.dropLast_concat, List.getLastD_concat, way, file]

/-- A path leads to a file of the directory itself, if it leads to a file. -/
structure Inside (path : String) : Prop where
  starts : start path = .inside
  stays : ".." ∉ names path
  ends : stem path = names path

instance (path : String) : Decidable (Inside path) :=
  decidable_of_iff (start path = .inside ∧ ".." ∉ names path ∧ stem path = names path)
    ⟨fun ⟨starts, stays, ends⟩ => ⟨starts, stays, ends⟩,
      fun inside => ⟨inside.starts, inside.stays, inside.ends⟩⟩

def fileName (path : String) : String := (names path).getLastD ""

/-- Without two dots the directory itself is the only one that is found on the way. -/
theorem enter_eq_ok {name : String} (stays : name ≠ "..") {place : Place}
    (found : directory.enter .inside name = .ok place) :
    place = .inside ∧ ∀ other : Directory, other.enter .inside name = .ok .inside := by
  unfold enter at found ⊢
  rw [if_neg stays] at found
  by_cases step : isStep name = true
  · rw [if_pos step] at found
    cases found
    refine ⟨rfl, fun other => ?_⟩
    rw [if_neg stays, if_pos step]
    rfl
  · rw [if_neg step] at found
    obtain ⟨held, -, entered⟩ := bind_eq_ok_iff.mp found
    cases held <;> cases entered

theorem foldlM_enter_eq_ok {steps : List String} (stays : ".." ∉ steps) {place : Place}
    (found : steps.foldlM directory.enter .inside = .ok place) :
    place = .inside ∧ ∀ other : Directory, steps.foldlM other.enter .inside = .ok .inside := by
  induction steps with
  | nil =>
    cases found
    exact ⟨rfl, fun _ => rfl⟩
  | cons step rest ih =>
    have up : step ≠ ".." := fun same => stays (same ▸ List.mem_cons_self)
    obtain ⟨next, entered, found⟩ := foldlM_cons_eq_ok_iff.mp found
    obtain ⟨rfl, anywhere⟩ := enter_eq_ok up entered
    obtain ⟨last, others⟩ := ih (fun member => stays (List.mem_cons_of_mem _ member)) found
    refine ⟨last, fun other => ?_⟩
    rw [List.foldlM_cons, anywhere other]
    exact others other

theorem pathFault?_eq_none {path : String} (plain : path.contains '\x00' = false)
    (short : path.utf8ByteSize ≤ longestPath) (nonempty : path ≠ "") : pathFault? path = none := by
  rw [pathFault?, plain, if_neg Bool.false_ne_true, if_neg (Nat.not_lt.mpr short), if_neg nonempty]

/-- The bytes of a file that is found where its path leads. -/
theorem openFile_eq_ofBytes {path last : String} {front : List String} {place : Place}
    {contents : List UInt8} (fault : pathFault? path = none) (parts : names path = front ++ [last])
    (way : front.foldlM directory.enter (start path) = .ok place) (file : isStep last = false)
    (held : directory.contents? place last = .ok (some contents)) :
    directory.openFile path = .ok (.ofBytes contents) := by
  unfold openFile
  simp only [fault, parts, List.dropLast_concat, List.getLastD_concat, way, file, held, bind,
    Except.bind]
  rfl

theorem createFile_eq_ok {path : String} (inside : Inside path) {contents : List UInt8}
    {changed : Directory} (done : directory.createFile path contents = .ok changed) :
    changed = directory.insert (fileName path) contents ∧
      changed.openFile path = .ok (.ofBytes contents) := by
  obtain ⟨front, last, parts⟩ := exists_names path
  have stays : ".." ∉ front := fun member => inside.stays (by simp [parts, member])
  have name : fileName path = last := by rw [fileName, parts, List.getLastD_concat]
  unfold createFile at done
  rw [inside.ends, inside.starts] at done
  simp only [parts, List.dropLast_concat, List.getLastD_concat] at done
  cases fault : pathFault? path with
  | some cause =>
    rw [fault] at done
    cases done
  | none =>
    simp only [fault] at done
    obtain ⟨place, way, done⟩ := bind_eq_ok_iff.mp done
    obtain ⟨rfl, anywhere⟩ := foldlM_enter_eq_ok stays way
    split at done
    · cases done
    · rename_i proper
      obtain ⟨previous, found, done⟩ := bind_eq_ok_iff.mp done
      cases done
      have file : isStep last = false := by
        cases step : isStep last with
        | false => rfl
        | true => exact absurd (by rw [step, Bool.or_true]) proper
      have short : ¬ longestName < last.utf8ByteSize := fun long => by
        rw [contents?, if_pos long] at found
        cases found
      have held : (directory.insert last contents).contents? .inside last =
          .ok (some contents) := by
        rw [contents?, if_neg short, find?_insert]
      rw [← inside.starts] at anywhere held
      rw [name]
      exact ⟨rfl, openFile_eq_ofBytes fault parts (anywhere _) file held⟩

/-- A directory keeps what is written to a file of its own. Other files are as before, and so is
every path on which the name of the file does not stand. -/
theorem keeps_store {output : String} (inside : Inside output) :
    store.Keeps output fun path => fileName output ∈ names path where
  opening _ _ := rfl
  kept contents directory changed done := by
    cases made : directory.createFile output contents with
    | error cause =>
      simp only [store, StateT.run, made] at done
      cases done
    | ok other =>
      simp only [store, StateT.run, made] at done
      cases done
      obtain ⟨-, opened⟩ := createFile_eq_ok inside made
      exact ⟨_, opened, ByteSource.readAll_ofBytes contents⟩
  others contents directory changed done path apart := by
    cases made : directory.createFile output contents with
    | error cause =>
      simp only [store, StateT.run, made] at done
      cases done
    | ok other =>
      simp only [store, StateT.run, made] at done
      cases done
      obtain ⟨rfl, -⟩ := createFile_eq_ok inside made
      refine openFile_congr fun name member place => ?_
      have different : name ≠ fileName output := by
        rintro rfl
        exact apart member
      exact contents?_insert_of_ne different contents place

end Directory

end Dataflow
