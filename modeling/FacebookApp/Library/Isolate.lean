import FacebookApp.Library.Program
import Mathlib.Algebra.GroupWithZero.Nat

/-!
# Isolates

One Dart isolate: a store, a clock, and the calls of async functions made so
far. A call runs without interruption up to an `await`; what follows the `await`
runs as a later event, after the awaited delay at the earliest and in any order
with the other calls.
-/

set_option autoImplicit false

namespace Dart

/-- One call of an async function. A suspended call holds the local variables it
will go on with and the time its `await` is due. -/
inductive Activation (External Frame : Type) where
  | suspended (frame : Frame) (due : Nat)
  | returned
  | failed (error : Error External)
  deriving DecidableEq, Repr

/-- How a stretch of an async function ends that does not throw: `none` when the
call is over, else the frame to go on with and the delay awaited before, in
milliseconds. -/
abbrev Suspension (Frame : Type) := Option (Frame × Nat)

structure Isolate (External Store Frame : Type) where
  store : Store
  activations : List (Activation External Frame)
  now : Nat

variable {External Store Frame : Type}

namespace Activation

def ofResult (now : Nat) :
    EStateM.Result (Error External) Store (Suspension Frame) → Activation External Frame
  | .ok (some (frame, delay)) _ => .suspended frame (now + delay)
  | .ok none _ => .returned
  | .error error _ => .failed error

@[simp] theorem ofResult_none (now : Nat) (store : Store) :
    ofResult now (.ok none store) = (.returned : Activation External Frame) := rfl

def frame? : Activation External Frame → Option Frame
  | .suspended frame _ => some frame
  | .returned => none
  | .failed _ => none

@[simp] theorem frame?_suspended (frame : Frame) (due : Nat) :
    (.suspended frame due : Activation External Frame).frame? = some frame := rfl

@[simp] theorem frame?_returned :
    (.returned : Activation External Frame).frame? = none := rfl

@[simp] theorem frame?_failed (error : Error External) :
    (.failed error : Activation External Frame).frame? = none := rfl

end Activation

theorem sum_map_set_add {Entry : Type} {entries : List Entry} (measure : Entry → Nat) {k : Nat}
    {old : Entry} (found : entries[k]? = some old) (new : Entry) :
    ((entries.set k new).map measure).sum + measure old =
      (entries.map measure).sum + measure new := by
  induction entries generalizing k with
  | nil => simp at found
  | cons entry entries ih =>
      cases k with
      | zero =>
          cases found
          simp only [List.set_cons_zero, List.map_cons, List.sum_cons]
          omega
      | succ k =>
          have rest := ih (k := k) (by simpa using found)
          simp only [List.set_cons_succ, List.map_cons, List.sum_cons]
          omega

/-- A call of an async function whose awaits are answered in a row, with nothing in
between. -/
def uninterrupted (segment : Program External Store (Suspension Frame)) :
    List (Frame → Program External Store (Suspension Frame)) → Program External Store Unit
  | [] => do
      let _ ← segment
  | continuation :: later => do
      match ← segment with
      | none => return ()
      | some (frame, _) => uninterrupted (continuation frame) later

section Uninterrupted

variable {segment : Program External Store (Suspension Frame)} {store left : Store}

theorem run_uninterrupted_suspended {frame : Frame} {delay : Nat}
    (ran : segment.run store = .ok (some (frame, delay)) left)
    (continuation : Frame → Program External Store (Suspension Frame))
    (later : List (Frame → Program External Store (Suspension Frame))) :
    (uninterrupted segment (continuation :: later)).run store =
      (uninterrupted (continuation frame) later).run left := by
  simp only [uninterrupted, EStateM.run_bind, ran]

theorem run_uninterrupted_returned (ran : segment.run store = .ok none left)
    (later : List (Frame → Program External Store (Suspension Frame))) :
    (uninterrupted segment later).run store = .ok () left := by
  cases later <;> simp only [uninterrupted, EStateM.run_bind, ran] <;> rfl

theorem run_uninterrupted_failed {error : Error External} (ran : segment.run store = .error error left)
    (later : List (Frame → Program External Store (Suspension Frame))) :
    (uninterrupted segment later).run store = .error error left := by
  cases later <;> simp only [uninterrupted, EStateM.run_bind, ran]

end Uninterrupted

namespace Isolate

def pending (isolate : Isolate External Store Frame) : List Frame :=
  isolate.activations.filterMap Activation.frame?

/-- An event handler: an error it throws ends the handler, not the isolate. -/
def perform {Value : Type} (handler : Program External Store Value)
    (isolate : Isolate External Store Frame) : Isolate External Store Frame :=
  { isolate with store := finalStore (handler.run isolate.store) }

def call (segment : Program External Store (Suspension Frame))
    (isolate : Isolate External Store Frame) : Isolate External Store Frame :=
  let result := segment.run isolate.store
  { isolate with
    store := finalStore result
    activations := isolate.activations ++ [.ofResult isolate.now result] }

/-- An event handler whose last action may be to call an async function without
awaiting it. It returns whether it gets to make the call. -/
def performThenCall (handler : Program External Store Bool)
    (segment : Program External Store (Suspension Frame))
    (isolate : Isolate External Store Frame) : Isolate External Store Frame :=
  match handler.run isolate.store with
  | .ok true store => { isolate with store := store }.call segment
  | .ok false store => { isolate with store := store }
  | .error _ store => { isolate with store := store }

def resume (continuation : Frame → Program External Store (Suspension Frame)) (k : Nat)
    (isolate : Isolate External Store Frame) : Option (Isolate External Store Frame) :=
  match isolate.activations[k]? with
  | some (.suspended frame due) =>
      if due ≤ isolate.now then
        let result := (continuation frame).run isolate.store
        some { isolate with
          store := finalStore result
          activations := isolate.activations.set k (.ofResult isolate.now result) }
      else none
  | some .returned => none
  | some (.failed _) => none
  | none => none

def elapse (milliseconds : Nat) (isolate : Isolate External Store Frame) :
    Isolate External Store Frame :=
  { isolate with now := isolate.now + milliseconds }

/-- What a resumption can be: the call was suspended and due, and exactly its
own activation and the store are replaced. -/
theorem resume_eq_some_iff {k : Nat}
    {continuation : Frame → Program External Store (Suspension Frame)}
    {isolate next : Isolate External Store Frame} :
    isolate.resume continuation k = some next ↔
      ∃ frame due, isolate.activations[k]? = some (.suspended frame due) ∧
        due ≤ isolate.now ∧
        next = { isolate with
          store := finalStore ((continuation frame).run isolate.store)
          activations := isolate.activations.set k
            (.ofResult isolate.now ((continuation frame).run isolate.store)) } := by
  unfold resume
  constructor
  · intro resumed
    split at resumed
    · rename_i frame due found
      split at resumed
      · rename_i isDue
        exact ⟨frame, due, found, isDue, (Option.some.inj resumed).symm⟩
      · cases resumed
    · cases resumed
    · cases resumed
    · cases resumed
  · rintro ⟨frame, due, found, isDue, rfl⟩
    simp [found, isDue]

theorem mem_pending_iff {isolate : Isolate External Store Frame} {frame : Frame} :
    frame ∈ isolate.pending ↔
      ∃ (k : Nat) (due : Nat), isolate.activations[k]? =
        some (Activation.suspended frame due) := by
  simp only [pending, List.mem_filterMap]
  constructor
  · rintro ⟨activation, member, isFrame⟩
    obtain ⟨k, found⟩ := List.mem_iff_getElem?.mp member
    cases activation with
    | suspended other due =>
        cases isFrame
        exact ⟨k, due, found⟩
    | returned => cases isFrame
    | failed error => cases isFrame
  · rintro ⟨k, due, found⟩
    exact ⟨_, List.mem_of_getElem? found, rfl⟩

/-- When a call ends, the calls that stay pending are the other ones. -/
theorem mem_pending_over_iff {isolate next : Isolate External Store Frame} {k : Nat}
    {activation : Activation External Frame} (isOver : activation.frame? = none)
    (replaced : next.activations = isolate.activations.set k activation) {frame : Frame} :
    frame ∈ next.pending ↔ ∃ (other due : Nat), k ≠ other ∧
      isolate.activations[other]? = some (.suspended frame due) := by
  rw [mem_pending_iff]
  refine exists_congr fun other => exists_congr fun due => ?_
  rw [replaced, List.getElem?_set]
  split
  · rename_i same
    simp only [same, ne_eq, not_true_eq_false, false_and, iff_false]
    intro entry
    simp only [Option.ite_none_right_eq_some, Option.some.injEq] at entry
    rw [entry.2] at isOver
    cases isOver
  · rename_i isOther
    simp [isOther]

theorem length_pending_set_over {isolate : Isolate External Store Frame} {k : Nat}
    {frame : Frame} {due : Nat}
    (found : isolate.activations[k]? = some (.suspended frame due))
    {activation : Activation External Frame} (isOver : activation.frame? = none) :
    ((isolate.activations.set k activation).filterMap Activation.frame?).length + 1 =
      isolate.pending.length := by
  obtain ⟨bound, entry⟩ := List.getElem?_eq_some_iff.mp found
  have counted := List.boole_getElem_le_countP (p := fun activation =>
    (Activation.frame? activation).isSome) bound
  simp only [pending, List.length_filterMap_eq_countP, List.countP_set bound, entry, isOver,
    Activation.frame?_suspended, Option.isSome_some,
    Option.isSome_none, if_true, Bool.false_eq_true, if_false, Nat.add_zero] at counted ⊢
  omega

end Isolate

end Dart
