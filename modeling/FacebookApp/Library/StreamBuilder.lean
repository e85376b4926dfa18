import FacebookApp.Library.Program

/-!
# Stream builders

A `StreamBuilder` over a behavior subject and without initial data. It is built in
frames only, each time with a snapshot, which may lack data. What its snapshots are is a
parameter.
-/

set_option autoImplicit false

namespace Flutter

open Dart

/-- The snapshots of a builder, in the frame that mounts it and in any later one. -/
structure Snapshots where
  first : {Value : Type} → BehaviorSubject Value → Option Value
  later : {Value : Type} → BehaviorSubject Value → Option Value → Option Value

namespace Snapshots

/-- What is known of the snapshots. The first one may come before the subject is heard
of; a later one holds the last value. -/
structure Laws (snapshots : Snapshots) : Prop where
  first : ∀ {Value : Type} (subject : BehaviorSubject Value),
    snapshots.first subject = none ∨ snapshots.first subject = subject.value?
  later : ∀ {Value : Type} (subject : BehaviorSubject Value) (last : Option Value),
    snapshots.later subject last = subject.value?

/-- The value of a subject is delivered after the build that listens to it. -/
def delivered : Snapshots where
  first := fun _ => none
  later := fun subject _ => subject.value?

theorem delivered_laws : delivered.Laws where
  first := fun _ => .inl rfl
  later := fun _ _ => rfl

variable {Value : Type} {snapshots : Snapshots}

/-- The snapshot of the next build, by that of the last build if the builder is mounted. -/
def next (snapshots : Snapshots) (subject : BehaviorSubject Value) :
    Option (Option Value) → Option Value
  | none => snapshots.first subject
  | some last => snapshots.later subject last

theorem Laws.next_mounted (laws : snapshots.Laws) (subject : BehaviorSubject Value)
    (last : Option Value) : snapshots.next subject (some last) = subject.value? :=
  laws.later subject last

theorem Laws.next_cases (laws : snapshots.Laws) (subject : BehaviorSubject Value)
    (mounted : Option (Option Value)) :
    snapshots.next subject mounted = none ∨ snapshots.next subject mounted = subject.value? := by
  cases mounted with
  | none => exact laws.first subject
  | some last => exact .inr (laws.later subject last)

end Snapshots

end Flutter
