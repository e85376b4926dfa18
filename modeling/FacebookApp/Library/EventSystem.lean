import Mathlib.Data.List.Induction

/-!
# Event systems

A system that reacts to one event at a time. Events that cannot happen in a
state have no successor, so a list of events is a run exactly when every event
of it is possible where it occurs. The rules below carry facts from one step to
all runs.
-/

set_option autoImplicit false

/-- A deterministic reaction to events. `none` means that the event cannot
happen in the state. All nondeterminism is in the choice of the events. -/
structure EventSystem (State Event : Type) where
  step : State → Event → Option State

namespace EventSystem

variable {State Event Output : Type} (system : EventSystem State Event)

def run : State → List Event → Option State
  | state, [] => some state
  | state, event :: events =>
      match system.step state event with
      | none => none
      | some next => run next events

/-- Every step of the run starts in a state and with an event that satisfy the
condition. -/
def StepsMeet (condition : State → Event → Prop) : State → List Event → Prop
  | _, [] => True
  | state, event :: events =>
      condition state event ∧
        match system.step state event with
        | none => True
        | some next => StepsMeet condition next events

/-- Every state that the run visits, its first and its last one included,
satisfies the property. -/
def Always (property : State → Prop) : State → List Event → Prop
  | state, [] => property state
  | state, event :: events =>
      property state ∧
        match system.step state event with
        | none => True
        | some next => Always property next events

instance decidableStepsMeet (condition : State → Event → Prop)
    [∀ state event, Decidable (condition state event)] :
    ∀ state events, Decidable (system.StepsMeet condition state events)
  | _, [] => .isTrue trivial
  | state, event :: events =>
      have : Decidable (match system.step state event with
          | none => True
          | some next => system.StepsMeet condition next events) :=
        match system.step state event with
        | none => .isTrue trivial
        | some next => decidableStepsMeet condition next events
      inferInstanceAs (Decidable (condition state event ∧ _))

def observe (observer : State → Event → State → List Output) :
    State → List Event → List Output
  | _, [] => []
  | state, event :: events =>
      match system.step state event with
      | none => []
      | some next => observer state event next ++ observe observer next events

variable {system}

@[simp] theorem stepsMeet_nil (condition : State → Event → Prop) (state : State) :
    system.StepsMeet condition state [] := trivial

@[simp] theorem always_nil (property : State → Prop) (state : State) :
    system.Always property state [] ↔ property state := Iff.rfl

@[simp] theorem observe_nil (observer : State → Event → State → List Output)
    (state : State) : system.observe observer state [] = [] := rfl

theorem run_cons {state next : State} {event : Event} (events : List Event)
    (stepped : system.step state event = some next) :
    system.run state (event :: events) = system.run next events := by
  rw [run, stepped]

theorem run_cons_iff {state finish : State} {event : Event} {events : List Event} :
    system.run state (event :: events) = some finish ↔
      ∃ next, system.step state event = some next ∧
        system.run next events = some finish := by
  rw [run]
  cases system.step state event with
  | none =>
      constructor
      · rintro ⟨⟩
      · rintro ⟨_, ⟨⟩, _⟩
  | some next =>
      constructor
      · intro ran
        exact ⟨next, rfl, ran⟩
      · rintro ⟨_, ⟨⟩, ran⟩
        exact ran

theorem run_append {start middle : State} {front : List Event} (back : List Event)
    (ran : system.run start front = some middle) :
    system.run start (front ++ back) = system.run middle back := by
  induction front generalizing start with
  | nil =>
      cases ran
      rfl
  | cons event front ih =>
      obtain ⟨next, stepped, rest⟩ := run_cons_iff.mp ran
      rw [List.cons_append, run_cons _ stepped]
      exact ih rest

theorem run_append_iff {start finish : State} {front back : List Event} :
    system.run start (front ++ back) = some finish ↔
      ∃ middle, system.run start front = some middle ∧
        system.run middle back = some finish := by
  constructor
  · intro ran
    induction front generalizing start with
    | nil => exact ⟨start, rfl, ran⟩
    | cons event front ih =>
        obtain ⟨next, stepped, rest⟩ := run_cons_iff.mp ran
        obtain ⟨middle, reached, finished⟩ := ih rest
        exact ⟨middle, run_cons_iff.mpr ⟨next, stepped, reached⟩, finished⟩
  · rintro ⟨middle, reached, finished⟩
    rw [run_append back reached]
    exact finished

theorem run_concat_iff {start finish : State} {events : List Event} {event : Event} :
    system.run start (events ++ [event]) = some finish ↔
      ∃ state, system.run start events = some state ∧
        system.step state event = some finish := by
  rw [run_append_iff]
  constructor
  · rintro ⟨state, reached, last⟩
    obtain ⟨next, stepped, rest⟩ := run_cons_iff.mp last
    cases rest
    exact ⟨state, reached, stepped⟩
  · rintro ⟨state, reached, stepped⟩
    exact ⟨state, reached, run_cons_iff.mpr ⟨finish, stepped, rfl⟩⟩

theorem run_induction {start : State} {motive : List Event → State → Prop}
    (initial : motive [] start)
    (step : ∀ events state event next,
      system.run start events = some state → motive events state →
      system.step state event = some next → motive (events ++ [event]) next)
    {events : List Event} {finish : State}
    (ran : system.run start events = some finish) : motive events finish := by
  induction events using List.reverseRecOn generalizing finish with
  | nil =>
      cases ran
      exact initial
  | append_singleton events event ih =>
      obtain ⟨state, reached, stepped⟩ := run_concat_iff.mp ran
      exact step events state event finish reached (ih reached) stepped

theorem stepsMeet_append_iff {condition : State → Event → Prop} {start middle : State}
    {front : List Event} (back : List Event)
    (ran : system.run start front = some middle) :
    system.StepsMeet condition start (front ++ back) ↔
      system.StepsMeet condition start front ∧
        system.StepsMeet condition middle back := by
  induction front generalizing start with
  | nil =>
      cases ran
      simp
  | cons event front ih =>
      obtain ⟨next, stepped, rest⟩ := run_cons_iff.mp ran
      simp only [List.cons_append, StepsMeet, stepped, ih rest, and_assoc]

theorem stepsMeet_concat_iff {condition : State → Event → Prop} {start state : State}
    {events : List Event} {event : Event}
    (ran : system.run start events = some state) :
    system.StepsMeet condition start (events ++ [event]) ↔
      system.StepsMeet condition start events ∧ condition state event := by
  rw [stepsMeet_append_iff [event] ran]
  cases stepped : system.step state event <;> simp [StepsMeet, stepped]

theorem exists_step_of_not_stepsMeet {condition : State → Event → Prop}
    {start finish : State} {events : List Event}
    (ran : system.run start events = some finish)
    (violates : ¬ system.StepsMeet condition start events) :
    ∃ front event state next, front ++ [event] <+: events ∧
      system.run start front = some state ∧ system.step state event = some next ∧
      ¬ condition state event := by
  induction events generalizing start with
  | nil => exact absurd trivial violates
  | cons event events ih =>
      obtain ⟨next, stepped, rest⟩ := run_cons_iff.mp ran
      by_cases meets : condition start event
      · have later : ¬ system.StepsMeet condition next events := by
          intro laterMeets
          exact violates (by simpa only [StepsMeet, stepped] using ⟨meets, laterMeets⟩)
        obtain ⟨front, last, state, after, isPrefix, reached, lastStep, fails⟩ := ih rest later
        exact ⟨event :: front, last, state, after,
          List.cons_prefix_cons.mpr ⟨rfl, isPrefix⟩,
          run_cons_iff.mpr ⟨next, stepped, reached⟩, lastStep, fails⟩
      · exact ⟨[], event, start, next, List.cons_prefix_cons.mpr ⟨rfl, List.nil_prefix⟩, rfl,
          stepped, meets⟩

theorem exists_step_of_prefix {start finish : State} {front events : List Event} {event : Event}
    (ran : system.run start events = some finish) (isPrefix : front ++ [event] <+: events) :
    ∃ state next, system.run start front = some state ∧ system.step state event = some next := by
  obtain ⟨back, rfl⟩ := isPrefix
  obtain ⟨next, reachedNext, _⟩ := run_append_iff.mp ran
  obtain ⟨state, reached, stepped⟩ := run_concat_iff.mp reachedNext
  exact ⟨state, next, reached, stepped⟩

theorem stepsMeet_iff_forall_prefix {condition : State → Event → Prop} {start finish : State}
    {events : List Event} (ran : system.run start events = some finish) :
    system.StepsMeet condition start events ↔
      ∀ front event state, front ++ [event] <+: events →
        system.run start front = some state → condition state event := by
  constructor
  · rintro meets front event state ⟨back, rfl⟩ reached
    obtain ⟨middle, reachedMiddle, _⟩ := run_append_iff.mp ran
    have early := ((stepsMeet_append_iff back reachedMiddle).mp meets).1
    exact ((stepsMeet_concat_iff reached).mp early).2
  · intro all
    by_contra violates
    obtain ⟨front, event, state, _, isPrefix, reached, _, fails⟩ :=
      exists_step_of_not_stepsMeet ran violates
    exact fails (all front event state isPrefix reached)

/-- When a condition on single steps is what it takes for a step to be sound and
to keep the property, then a run has sound steps and keeps the property
throughout exactly if all its steps meet the condition. -/
theorem stepsMeet_and_always_iff {start : State} {inv property : State → Prop}
    {sound condition : State → Event → Prop} (initial : inv start)
    (holds : ∀ state, inv state → property state)
    (keeps : ∀ state event next, inv state → system.step state event = some next →
      condition state event → inv next ∧ sound state event)
    (exact : ∀ state event next, inv state → system.step state event = some next →
      sound state event → property next → condition state event)
    {events : List Event} {finish : State}
    (ran : system.run start events = some finish) :
    system.StepsMeet sound start events ∧ system.Always property start events ↔
      system.StepsMeet condition start events := by
  induction events generalizing start with
  | nil => simp [holds start initial]
  | cons event events ih =>
      obtain ⟨next, stepped, rest⟩ := run_cons_iff.mp ran
      simp only [StepsMeet, Always, stepped, holds start initial, true_and]
      constructor
      · rintro ⟨⟨isSound, laterSound⟩, always⟩
        have kept : property next := by
          cases events with
          | nil => exact always
          | cons _ _ => exact always.1
        have meets := exact start event next initial stepped isSound kept
        have inv' := (keeps start event next initial stepped meets).1
        exact ⟨meets, (ih inv' rest).mp ⟨laterSound, always⟩⟩
      · rintro ⟨meets, later⟩
        obtain ⟨inv', isSound⟩ := keeps start event next initial stepped meets
        obtain ⟨laterSound, always⟩ := (ih inv' rest).mpr later
        exact ⟨⟨isSound, laterSound⟩, always⟩

theorem always_iff_stepsMeet {start : State} {inv property : State → Prop}
    {condition : State → Event → Prop} (initial : inv start)
    (holds : ∀ state, inv state → property state)
    (keeps : ∀ state event next, inv state → system.step state event = some next →
      condition state event → inv next)
    (exact : ∀ state event next, inv state → system.step state event = some next →
      property next → condition state event)
    {events : List Event} {finish : State}
    (ran : system.run start events = some finish) :
    system.Always property start events ↔ system.StepsMeet condition start events := by
  have anyStep : system.StepsMeet (fun _ _ => True) start events := by
    clear initial ran
    induction events generalizing start with
    | nil => trivial
    | cons event events ih =>
        simp only [StepsMeet, true_and]
        cases system.step start event with
        | none => trivial
        | some next => exact ih
  have both : system.StepsMeet (fun _ _ => True) start events ∧
      system.Always property start events ↔ system.StepsMeet condition start events :=
    stepsMeet_and_always_iff initial holds
      (fun state event next inv stepped meets =>
        ⟨keeps state event next inv stepped meets, trivial⟩)
      (fun state event next inv stepped _ => exact state event next inv stepped) ran
  rw [← both]
  exact ⟨fun always => ⟨anyStep, always⟩, fun sound => sound.2⟩

/-- When a step keeps a property of the run so far exactly if it meets a condition, then
the property holds all along a run exactly if all its steps meet the condition. -/
theorem forall_prefix_iff_stepsMeet {start : State} {property : List Event → State → Prop}
    {condition : State → Event → Prop} (initial : property [] start)
    (exact : ∀ front state event next, system.run start front = some state →
      property front state → system.step state event = some next →
      (property (front ++ [event]) next ↔ condition state event))
    {events : List Event} {finish : State} (ran : system.run start events = some finish) :
    (∀ front state, front <+: events → system.run start front = some state →
      property front state) ↔ system.StepsMeet condition start events := by
  refine run_induction (motive := fun events _ =>
    (∀ front state, front <+: events → system.run start front = some state →
      property front state) ↔ system.StepsMeet condition start events) ?_ ?_ ran
  · refine iff_of_true (fun front state isPrefix reached => ?_) trivial
    obtain rfl := List.prefix_nil.mp isPrefix
    cases reached
    exact initial
  · intro events state event next reached ih stepped
    rw [stepsMeet_concat_iff reached, ← ih]
    have last : system.run start (events ++ [event]) = some next :=
      run_concat_iff.mpr ⟨state, reached, stepped⟩
    constructor
    · intro all
      refine ⟨fun front state' isPrefix => all front state' (isPrefix.trans
        (List.prefix_append _ _)), ?_⟩
      exact (exact events state event next reached
        (all events state (List.prefix_append _ _) reached) stepped).mp
        (all _ next List.prefix_rfl last)
    · rintro ⟨earlier, meets⟩ front state' isPrefix reached'
      rcases List.prefix_concat_iff.mp isPrefix with rfl | isPrefix
      · rw [last, Option.some.injEq] at reached'
        subst reached'
        exact (exact events state event next reached
          (earlier events state List.prefix_rfl reached) stepped).mpr meets
      · exact earlier front state' isPrefix reached'

theorem observe_append {observer : State → Event → State → List Output}
    {start middle : State} {front : List Event} (back : List Event)
    (ran : system.run start front = some middle) :
    system.observe observer start (front ++ back) =
      system.observe observer start front ++ system.observe observer middle back := by
  induction front generalizing start with
  | nil =>
      cases ran
      rfl
  | cons event front ih =>
      obtain ⟨next, stepped, rest⟩ := run_cons_iff.mp ran
      simp only [List.cons_append, observe, stepped, ih rest, List.append_assoc]

theorem observe_concat {observer : State → Event → State → List Output}
    {start state next : State} {events : List Event} {event : Event}
    (ran : system.run start events = some state)
    (stepped : system.step state event = some next) :
    system.observe observer start (events ++ [event]) =
      system.observe observer start events ++ observer state event next := by
  rw [observe_append [event] ran]
  simp [observe, stepped]

/-! ## Reachable states -/

def Reachable (system : EventSystem State Event) (start state : State) : Prop :=
  ∃ events, system.run start events = some state

theorem Reachable.refl (system : EventSystem State Event) (start : State) :
    system.Reachable start start := ⟨[], rfl⟩

theorem Reachable.of_step {start state next : State} {event : Event}
    (reachable : system.Reachable start state)
    (stepped : system.step state event = some next) : system.Reachable start next := by
  obtain ⟨events, ran⟩ := reachable
  exact ⟨events ++ [event], run_concat_iff.mpr ⟨state, ran, stepped⟩⟩

/-- If from every state with work left an admitted run does one unit of it, then an
admitted run does all of it. -/
theorem exists_run_of_progress (left : Nat → List Event → State → Prop)
    {admits : Event → Prop}
    (progress : ∀ remaining events state, left (remaining + 1) events state →
      ∃ front next, (∀ event ∈ front, admits event) ∧
        system.run state front = some next ∧ left remaining (events ++ front) next)
    {remaining : Nat} (events : List Event) {state : State}
    (initial : left remaining events state) :
    ∃ rest last, (∀ event ∈ rest, admits event) ∧
      system.run state rest = some last ∧ left 0 (events ++ rest) last := by
  induction remaining generalizing events state with
  | zero => exact ⟨[], state, by simp, rfl, by simpa using initial⟩
  | succ remaining ih =>
      obtain ⟨front, next, frontAdmitted, stepped, fewer⟩ :=
        progress remaining events state initial
      obtain ⟨rest, last, restAdmitted, finished, done⟩ := ih (events ++ front) fewer
      refine ⟨front ++ rest, last, ?_, run_append_iff.mpr ⟨next, stepped, finished⟩,
        by simpa using done⟩
      intro event member
      rcases List.mem_append.mp member with early | late
      · exact frontAdmitted event early
      · exact restAdmitted event late

/-- If every admitted step of one system is matched by an admitted run of
another one between related states, then so is every admitted run. -/
theorem run_simulated {Abstract Move : Type} (other : EventSystem Abstract Move)
    (related : State → Abstract → Prop) (admits : Event → Prop) (admits' : Move → Prop)
    (step : ∀ state event next abstract, related state abstract → admits event →
      system.step state event = some next →
      ∃ moves abstract', other.run abstract moves = some abstract' ∧
        (∀ move ∈ moves, admits' move) ∧ related next abstract')
    {start finish : State} {abstract : Abstract} (initial : related start abstract)
    {events : List Event} (ran : system.run start events = some finish)
    (admitted : ∀ event ∈ events, admits event) :
    ∃ moves abstract', other.run abstract moves = some abstract' ∧
      (∀ move ∈ moves, admits' move) ∧ related finish abstract' := by
  revert admitted
  refine run_induction (motive := fun events state => (∀ event ∈ events, admits event) →
    ∃ moves abstract', other.run abstract moves = some abstract' ∧
      (∀ move ∈ moves, admits' move) ∧ related state abstract')
    (fun _ => ⟨[], abstract, rfl, by simp, initial⟩) ?_ ran
  intro events state event next _ ih stepped admitted
  simp only [List.mem_append, List.mem_singleton] at admitted
  obtain ⟨front, middle, reached, frontAdmitted, relates⟩ :=
    ih fun earlier member => admitted earlier (.inl member)
  obtain ⟨back, last, finished, backAdmitted, relates'⟩ :=
    step state event next middle relates (admitted event (.inr rfl)) stepped
  refine ⟨front ++ back, last, run_append_iff.mpr ⟨middle, reached, finished⟩, ?_, relates'⟩
  intro move member
  rcases List.mem_append.mp member with early | late
  · exact frontAdmitted move early
  · exact backAdmitted move late

end EventSystem
