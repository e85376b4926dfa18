import FacebookApp.Ui.MenuPageProperties

/-!
# Scrolls of the menu page

A delayed callback finds its menu open exactly when the button of the menu was
pressed an even number of times since the press that scheduled the callback.
-/

set_option autoImplicit false

namespace FacebookApp

open Dart

namespace MenuPage

/-! ## Presses and flags -/

theorem MenuStep.isShowing {page next : MenuPage} {event : Event}
    (menuStep : MenuStep page event next) (menu : HiddenMenu) :
    (next.isolate.store.buttons menu).isShowing =
      if event = .press menu then !(page.isolate.store.buttons menu).isShowing
      else (page.isolate.store.buttons menu).isShowing := by
  cases menuStep with
  | quiet notPressing _ quiet => rw [if_neg (notPressing menu), quiet.buttons menu]
  | @toggled pressed mounted =>
      by_cases same : pressed = menu
      · subst same
        simp [MenuPage.toggled, toggledStore]
      · have other : ¬ Event.press pressed = .press menu := by simpa using same
        rw [if_neg other]
        simp [MenuPage.toggled, toggledStore, Function.update_of_ne (Ne.symm same)]
  | scrolled found => rfl

structure Tracked (events : List Event) (page : MenuPage) : Prop where
  ready : Ready page
  parity : ∀ menu, (page.isolate.store.buttons menu).isShowing =
    decide (Odd (events.count (.press menu)))

theorem tracked_of_run {events : List Event} {page : MenuPage}
    (ran : system.run initial events = some page) : Tracked events page := by
  refine EventSystem.run_induction (motive := Tracked)
    ⟨ready_initial, fun _ => rfl⟩ ?_ ran
  intro events page event next _ tracked stepped
  have menuStep := menuStep_of_step tracked.ready stepped
  refine ⟨menuStep.ready tracked.ready, fun menu => ?_⟩
  rw [menuStep.isShowing menu, tracked.parity menu, List.count_append, List.count_singleton]
  by_cases pressed : event = .press menu
  · simp [pressed, Nat.odd_add_one, -Nat.not_odd_iff_even]
  · simp [pressed]

theorem Tracked.isShowing?_iff {events : List Event} {page : MenuPage}
    (tracked : Tracked events page) (menu : HiddenMenu) :
    page.isShowing? menu = some true ↔ Odd (events.count (.press menu)) := by
  rw [tracked.ready.showing, tracked.parity]
  simp

/-! ## Calls and the presses that make them -/

theorem MenuStep.activation {page next : MenuPage} {event : Event}
    (menuStep : MenuStep page event next) {call : Nat} {activation : Activation Empty HiddenMenu}
    (found : page.isolate.activations[call]? = some activation) :
    ∃ activation', next.isolate.activations[call]? = some activation' ∧
      (activation' = activation ∨ activation'.frame? = none) := by
  have bound := (List.getElem?_eq_some_iff.mp found).1
  cases menuStep with
  | quiet _ _ quiet =>
      obtain ⟨more, appended, _⟩ := quiet.activations
      refine ⟨activation, ?_, .inl rfl⟩
      rw [appended, List.getElem?_append_left bound, found]
  | toggled mounted =>
      refine ⟨activation, ?_, .inl rfl⟩
      simp only [MenuPage.toggled, List.getElem?_append_left bound, found]
  | @scrolled resumed due menu offset foundResumed =>
      by_cases same : resumed = call
      · subst same
        exact ⟨.returned, List.getElem?_set_self bound, .inr rfl⟩
      · exact ⟨activation, (List.getElem?_set_ne same).trans found, .inl rfl⟩

theorem menu_of_schedules {before between : List Event} {menu menu' : HiddenMenu}
    {state page : MenuPage} {call due : Nat} (reached : system.run initial before = some state)
    (schedules : state.Schedules menu call)
    (ran : system.run state (.press menu :: between) = some page)
    (found : page.isolate.activations[call]? = some (.suspended menu' due)) : menu' = menu := by
  obtain ⟨pressed, stepped, ran⟩ := EventSystem.run_cons_iff.mp ran
  have tracked := tracked_of_run reached
  have pressedTracked := tracked_of_run (EventSystem.run_concat_iff.mpr ⟨state, reached, stepped⟩)
  have kept : Ready page ∧ ∃ activation, page.isolate.activations[call]? = some activation ∧
      ∀ frame, activation.frame? = some frame → frame = menu := by
    refine EventSystem.run_induction (motive := fun _ page => Ready page ∧
      ∃ activation, page.isolate.activations[call]? = some activation ∧
        ∀ frame, activation.frame? = some frame → frame = menu) ?_ ?_ ran
    · refine ⟨pressedTracked.ready, .suspended menu (state.isolate.now + 300), ?_, ?_⟩
      · cases menuStep_of_step tracked.ready stepped with
        | quiet notPressing _ _ => exact absurd rfl (notPressing menu)
        | toggled mounted =>
            simp [toggled, schedules.1, ← schedules.2]
      · intro frame isFrame
        exact (Option.some.inj isFrame).symm
    · rintro events page event next _ ⟨ready, activation, found, own⟩ stepped
      have menuStep := menuStep_of_step ready stepped
      obtain ⟨activation', found', same | ended⟩ := menuStep.activation found
      · exact ⟨menuStep.ready ready, activation', found', same ▸ own⟩
      · exact ⟨menuStep.ready ready, activation', found', by simp [ended]⟩
  obtain ⟨_, activation, foundActivation, own⟩ := kept
  rw [found] at foundActivation
  cases foundActivation
  exact own menu' rfl

theorem exists_schedules {events : List Event} {page : MenuPage} {call due : Nat}
    {menu : HiddenMenu} (ran : system.run initial events = some page)
    (found : page.isolate.activations[call]? = some (.suspended menu due)) :
    ∃ before between state, events = before ++ .press menu :: between ∧
      system.run initial before = some state ∧ state.Schedules menu call := by
  revert found
  refine EventSystem.run_induction (motive := fun events page =>
    page.isolate.activations[call]? = some (.suspended menu due) →
      ∃ before between state, events = before ++ .press menu :: between ∧
        system.run initial before = some state ∧ state.Schedules menu call) (by simp [initial]) ?_ ran
  intro events page event next ran ih stepped found
  have earlier : page.isolate.activations[call]? = some (.suspended menu due) →
      ∃ before between state, events ++ [event] = before ++ .press menu :: between ∧
        system.run initial before = some state ∧ state.Schedules menu call := by
    intro foundBefore
    obtain ⟨before, between, state, rfl, reached, schedules⟩ := ih foundBefore
    exact ⟨before, between ++ [event], state, by simp, reached, schedules⟩
  cases menuStep_of_step (tracked_of_run ran).ready stepped with
  | quiet _ _ quiet =>
      obtain ⟨more, appended, ended⟩ := quiet.activations
      rw [appended, List.getElem?_append] at found
      split at found
      · exact earlier found
      · have none := ended _ (List.mem_of_getElem? found)
        cases none
  | @toggled pressed mounted =>
      simp only [toggled, List.getElem?_append] at found
      split at found
      · exact earlier found
      · rename_i beyond
        -- The call is the one that this press makes.
        cases showing : (page.isolate.store.buttons pressed).isShowing with
        | true => simp [showing] at found
        | false =>
            simp only [showing, Bool.false_eq_true, if_false, List.getElem?_singleton,
              Option.ite_none_right_eq_some, Option.some.injEq, Activation.suspended.injEq] at found
            obtain ⟨isNew, rfl, _⟩ := found
            exact ⟨events, [], page, rfl, ran, showing, by omega⟩
  | @scrolled resumed due' menu' offset foundResumed =>
      simp only [scrolled, List.getElem?_set] at found
      split at found
      · split at found <;> cases found
      · exact earlier found

/-! ## Callbacks that fire -/

/-- Between the press that makes a call and the firing of its callback the button
of the menu is pressed an even number of times. -/
def PressedEvenlyBetween (events : List Event) : Prop :=
  ∀ (before between : List Event) (state : MenuPage) (menu : HiddenMenu) (call : Nat),
    (before ++ .press menu :: between) ++ [.resume call] <+: events →
    system.run initial before = some state → state.Schedules menu call →
    Even (between.count (.press menu))

theorem odd_presses_iff {before between : List Event} {state : MenuPage} {menu : HiddenMenu}
    {call : Nat} (reached : system.run initial before = some state)
    (schedules : state.Schedules menu call) :
    Odd ((before ++ .press menu :: between).count (.press menu)) ↔
      Even (between.count (.press menu)) := by
  have notOdd : ¬ Odd (before.count (.press menu)) := by
    have parity := (tracked_of_run reached).parity menu
    rw [schedules.1] at parity
    exact of_decide_eq_false parity.symm
  rw [List.count_append, List.count_cons_self, Nat.odd_add, Nat.even_add_one,
    iff_false_left notOdd, not_not]

theorem exists_suspended_of_resume {page next : MenuPage} {call : Nat} (ready : Ready page)
    (stepped : system.step page (.resume call) = some next) :
    ∃ menu due, page.isolate.activations[call]? = some (.suspended menu due) := by
  cases menuStep_of_step ready stepped with
  | quiet _ notResuming _ => exact absurd rfl (notResuming call)
  | scrolled found => exact ⟨_, _, found⟩

theorem scrollsToShown_resume_iff {events : List Event} {page next : MenuPage} {call due : Nat}
    {menu : HiddenMenu} (ran : system.run initial events = some page)
    (found : page.isolate.activations[call]? = some (.suspended menu due))
    (stepped : system.step page (.resume call) = some next) :
    ScrollsToShown page (.resume call) ↔ Odd (events.count (.press menu)) := by
  have tracked := tracked_of_run ran
  rw [← tracked.isShowing?_iff menu]
  cases menuStep_of_step tracked.ready stepped with
  | quiet _ notResuming _ => exact absurd rfl (notResuming call)
  | @scrolled _ due' menu' offset found' =>
      rw [found] at found'
      cases found'
      simp [ScrollsToShown, stepped, scrolled]

/-- Every delayed callback that scrolls finds its menu open exactly when, at every
firing, the button of the menu was pressed an even number of times since the press
that scheduled the callback. -/
theorem scrolls_to_shown {events : List Event} {page : MenuPage}
    (ran : system.run initial events = some page) :
    system.StepsMeet ScrollsToShown initial events ↔ PressedEvenlyBetween events := by
  rw [EventSystem.stepsMeet_iff_forall_prefix ran]
  constructor
  · intro shows before between state menu call isPrefix reached schedules
    obtain ⟨page', next, ran', stepped⟩ := EventSystem.exists_step_of_prefix ran isPrefix
    have tracked := tracked_of_run ran'
    obtain ⟨menu', due, found⟩ := exists_suspended_of_resume tracked.ready stepped
    obtain ⟨state', reached', ranOn⟩ := EventSystem.run_append_iff.mp ran'
    rw [reached, Option.some.injEq] at reached'
    subst reached'
    obtain rfl := menu_of_schedules reached schedules ranOn found
    have odd := (scrollsToShown_resume_iff ran' found stepped).mp (shows _ _ page' isPrefix ran')
    exact (odd_presses_iff reached schedules).mp odd
  · intro evenly front event page' isPrefix reached
    cases event with
    | resume call =>
        obtain ⟨_, next, ran', stepped⟩ := EventSystem.exists_step_of_prefix ran isPrefix
        rw [reached, Option.some.injEq] at ran'
        subst ran'
        obtain ⟨menu, due, found⟩ :=
          exists_suspended_of_resume (tracked_of_run reached).ready stepped
        obtain ⟨before, between, state, rfl, reachedBefore, schedules⟩ :=
          exists_schedules reached found
        have even := evenly before between state menu call isPrefix reachedBefore schedules
        exact (scrollsToShown_resume_iff reached found stepped).mpr
          ((odd_presses_iff reachedBefore schedules).mpr even)
    | build => trivial
    | pressShortCut => trivial
    | press menu => trivial
    | scroll offset => trivial
    | elapse milliseconds => trivial
    | dispose => trivial

/-- Help is opened, closed and opened again before its first callback fires. -/
def reopenedHelp : List Event :=
  [.press .help, .press .communityResource, .press .help, .press .help, .elapse 300, .resume 0,
    .resume 1, .resume 2]

theorem scrolls_to_shown_reopened :
    ∃ page, system.run initial reopenedHelp = some page ∧
      page.isolate.store.scrolls = [(.help, 750), (.communityResource, 500), (.help, 750)] ∧
      (system.StepsMeet ScrollsToShown initial reopenedHelp ↔
        PressedEvenlyBetween reopenedHelp) := by
  have reached : (system.run initial reopenedHelp).map (fun page => page.isolate.store.scrolls) =
      some [(.help, 750), (.communityResource, 500), (.help, 750)] := by
    decide +kernel
  obtain ⟨page, ran, scrolls⟩ := Option.map_eq_some_iff.mp reached
  exact ⟨page, ran, scrolls, scrolls_to_shown ran⟩

/-- Help is opened and closed again within the delay: the page scrolls to it all
the same. -/
theorem scrolls_to_hidden :
    ¬ ∀ events page, system.run initial events = some page →
      system.StepsMeet ScrollsToShown initial events := by
  intro claim
  have observed : (system.run initial [.press .help, .press .help, .elapse 300]).bind
      (fun page => (system.step page (.resume 0)).map fun next =>
        (page.isShowing? .help, page.isolate.store.scrolls, next.isolate.store.scrolls)) =
      some (some false, [], [(.help, 512)]) := by
    decide +kernel
  obtain ⟨page, ran, stepped⟩ := Option.bind_eq_some_iff.mp observed
  obtain ⟨next, stepped, results⟩ := Option.map_eq_some_iff.mp stepped
  simp only [Prod.mk.injEq] at results
  obtain ⟨hidden, before, after⟩ := results
  have shows := claim _ _ (EventSystem.run_concat_iff.mpr ⟨page, ran, stepped⟩)
  have shown := ((EventSystem.stepsMeet_concat_iff ran).mp shows).2 next stepped (.help, 512)
    (by simp [before, after])
  rw [hidden] at shown
  cases shown

end MenuPage

end FacebookApp
