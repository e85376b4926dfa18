import Mathlib.Tactic.Common

/-!
# Dart programs and behavior subjects

A synchronous stretch of Dart code over a store, and the behavior subjects such
code publishes to. An error does not undo the writes made before it was thrown.
-/

set_option autoImplicit false

namespace Dart

/-- Errors that end a synchronous stretch of code: an event was added to a closed
sink, a subject without a value was read, a list was indexed out of its range, the
operator `!` met null, a double without an integer part was rounded, or an error
object came from outside the modelled code. -/
inductive Error (External : Type) where
  | stateError
  | valueStreamError
  | rangeError
  | nullCheckError
  | unsupportedError
  | thrown (error : External)
  deriving DecidableEq, Repr

/-- Code over a store. The error case keeps the store that the throw left. -/
abbrev Program (External Store : Type) := EStateM (Error External) Store

def finalStore {Failure Store Value : Type} : EStateM.Result Failure Store Value → Store
  | .ok _ store => store
  | .error _ store => store

@[simp] theorem finalStore_ok {Failure Store Value : Type} (value : Value) (store : Store) :
    finalStore (.ok value store : EStateM.Result Failure Store Value) = store := rfl

@[simp] theorem finalStore_error {Failure Store Value : Type} (failure : Failure)
    (store : Store) :
    finalStore (.error failure store : EStateM.Result Failure Store Value) = store := rfl

structure Cell (Store Value : Type) where
  read : Store → Value
  write : Value → Store → Store

variable {External Store Inner Value Result : Type}

def Program.within (cell : Cell Store Inner) (program : Program External Inner Result) :
    Program External Store Result := fun store =>
  match program.run (cell.read store) with
  | .ok result inner => .ok result (cell.write inner store)
  | .error error inner => .error error (cell.write inner store)

theorem Program.run_within (cell : Cell Store Inner)
    (program : Program External Inner Result) (store : Store) :
    (program.within cell).run store =
      match program.run (cell.read store) with
      | .ok result inner => .ok result (cell.write inner store)
      | .error error inner => .error error (cell.write inner store) := rfl

@[simp] theorem Program.finalStore_within (cell : Cell Store Inner)
    (program : Program External Inner Result) (store : Store) :
    finalStore ((program.within cell).run store) =
      cell.write (finalStore (program.run (cell.read store))) store := by
  rw [run_within]
  cases program.run (cell.read store) <;> rfl

def Program.nonNull : Option Value → Program External Store Value
  | some value => pure value
  | none => throw .nullCheckError

@[simp] theorem Program.run_nonNull_some (value : Value) (store : Store) :
    (nonNull (some value) : Program External Store Value).run store = .ok value store := rfl

@[simp] theorem Program.run_nonNull_none (store : Store) :
    (nonNull none : Program External Store Value).run store =
      .error .nullCheckError store := rfl

/-- The second operand of `&&` is evaluated only after a true first one. -/
theorem Program.run_andM {first second : Program External Store Bool} {one two : Bool}
    {store : Store} (ranFirst : first.run store = .ok one store)
    (ranSecond : second.run store = .ok two store) :
    (first <&&> second).run store = .ok (one && two) store := by
  simp only [andM, EStateM.run_bind, ranFirst]
  cases one with
  | false => rfl
  | true => exact ranSecond

/-- A behavior subject with everything it ever emitted, oldest first. Its value
is its last event. -/
structure BehaviorSubject (Value : Type) where
  events : List Value
  isClosed : Bool
  deriving DecidableEq, Repr

namespace BehaviorSubject

def unseeded : BehaviorSubject Value := ⟨[], false⟩

def seeded (value : Value) : BehaviorSubject Value := ⟨[value], false⟩

def value? (subject : BehaviorSubject Value) : Option Value := subject.events.getLast?

def hasValue (subject : BehaviorSubject Value) : Bool := subject.value?.isSome

def emit (subject : BehaviorSubject Value) (event : Value) : BehaviorSubject Value :=
  { subject with events := subject.events ++ [event] }

def close (subject : BehaviorSubject Value) : BehaviorSubject Value :=
  { subject with isClosed := true }

@[simp] theorem value?_unseeded : (unseeded : BehaviorSubject Value).value? = none := rfl

@[simp] theorem value?_seeded (value : Value) : (seeded value).value? = some value := rfl

@[simp] theorem value?_emit (subject : BehaviorSubject Value) (event : Value) :
    (subject.emit event).value? = some event := by
  simp [value?, emit]

@[simp] theorem events_emit (subject : BehaviorSubject Value) (event : Value) :
    (subject.emit event).events = subject.events ++ [event] := rfl

end BehaviorSubject

namespace Cell

/-- `subject.add(event)`, which throws when the subject is closed. -/
def add (cell : Cell Store (BehaviorSubject Value)) (event : Value) :
    Program External Store Unit := fun store =>
  if (cell.read store).isClosed then .error .stateError store
  else .ok () (cell.write ((cell.read store).emit event) store)

def value (cell : Cell Store (BehaviorSubject Value)) : Program External Store Value :=
  fun store =>
    match (cell.read store).value? with
    | some value => .ok value store
    | none => .error .valueStreamError store

theorem run_add_open (cell : Cell Store (BehaviorSubject Value)) {store : Store}
    (isOpen : (cell.read store).isClosed = false) (event : Value) :
    (cell.add event : Program External Store Unit).run store =
      .ok () (cell.write ((cell.read store).emit event) store) := by
  simp [add, EStateM.run, isOpen]

theorem run_add_closed (cell : Cell Store (BehaviorSubject Value)) {store : Store}
    (isClosed : (cell.read store).isClosed = true) (event : Value) :
    (cell.add event : Program External Store Unit).run store =
      .error .stateError store := by
  simp [add, EStateM.run, isClosed]

theorem run_value (cell : Cell Store (BehaviorSubject Value)) {store : Store}
    {value : Value} (present : (cell.read store).value? = some value) :
    (cell.value : Program External Store Value).run store = .ok value store := by
  simp [Cell.value, EStateM.run, present]

end Cell

end Dart
