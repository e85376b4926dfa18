import FacebookApp.Library.EventSystem

/-!
# Instances of event systems

A host that starts instances of one system, keeps them in the order of their
start, and passes events on to single ones. What the events leave alone in every
instance can be followed in the list of all of them.
-/

set_option autoImplicit false

namespace EventSystem

variable {State Event : Type} {system : EventSystem State Event}

/-- One instance takes an event. -/
def stepAt (system : EventSystem State Event) (instances : List State) (k : Nat)
    (event : Event) : Option (List State) := do
  let state ← instances[k]?
  let next ← system.step state event
  return instances.set k next

theorem stepAt_eq_some_iff {instances nexts : List State} {k : Nat} {event : Event} :
    system.stepAt instances k event = some nexts ↔
      ∃ state next, instances[k]? = some state ∧ system.step state event = some next ∧
        nexts = instances.set k next := by
  simp only [stepAt, Option.bind_eq_bind, Option.bind_eq_some_iff, Option.pure_def,
    Option.some.injEq]
  constructor
  · rintro ⟨state, found, next, stepped, rfl⟩
    exact ⟨state, next, found, stepped, rfl⟩
  · rintro ⟨state, next, found, stepped, rfl⟩
    exact ⟨state, found, next, stepped, rfl⟩

/-- What no event of a kind changes of a state, it changes of no instance. -/
theorem map_stepAt {Part : Type} (part : State → Part) {instances nexts : List State} {k : Nat}
    {event : Event}
    (keeps : ∀ state next, system.step state event = some next → part next = part state)
    (stepped : system.stepAt instances k event = some nexts) :
    nexts.map part = instances.map part := by
  obtain ⟨state, next, found, steppedOne, rfl⟩ := stepAt_eq_some_iff.mp stepped
  rw [List.map_set, keeps state next steppedOne]
  apply List.ext_getElem? fun n => ?_
  rw [List.getElem?_set]
  split
  · rename_i same
    subst same
    obtain ⟨bound, entry⟩ := List.getElem?_eq_some_iff.mp found
    simp [bound, entry]
  · rfl

/-- The last instance takes an event. -/
theorem exists_stepAt_last {Part : Type} {part : State → Part} {instances : List State}
    {front : List Part} {last : Part} (parts : instances.map part = front ++ [last])
    {event : Event} {after : Part}
    (steps : ∀ state, part state = last →
      ∃ next, system.step state event = some next ∧ part next = after) :
    ∃ nexts, system.stepAt instances (instances.length - 1) event = some nexts ∧
      nexts.map part = front ++ [after] := by
  obtain ⟨earlier, lasts, rfl, earlierParts, lastParts⟩ := List.map_eq_append_iff.mp parts
  obtain ⟨state, rfl, isLast⟩ := List.map_eq_singleton_iff.mp lastParts
  obtain ⟨next, stepped, isAfter⟩ := steps state isLast
  refine ⟨earlier ++ [next], ?_, by simp [earlierParts, isAfter]⟩
  exact stepAt_eq_some_iff.mpr ⟨state, next, by simp, stepped, by simp⟩

end EventSystem
