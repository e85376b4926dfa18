import FacebookApp.Ui.MenuScrollProperties

/-!
# Short cuts of the menu page

The show-more button flips the flag that it was last built with. The short cuts are
shown after an odd number of presses exactly as long as no press finds an outdated
button.
-/

set_option autoImplicit false

namespace FacebookApp

open Dart

namespace MenuPage

/-- What a step does to the arrows and to the short cuts. -/
structure Turned (page : MenuPage) (event : Event) (next : MenuPage) : Prop where
  turns : ∀ menu, turns? next menu =
    if event = .press menu then
      some (if (page.isolate.store.buttons menu).isShowing then 0 else 1 / 2)
    else turns? page menu
  shortCut : next.shortCut? =
    if event = .pressShortCut then
      (page.isolate.store.shortCutSnapshot.map fun shown => !shown).or page.shortCut?
    else page.shortCut?

theorem turned_of_step {page next : MenuPage} {event : Event} (ready : Ready page)
    (stepped : system.step page event = some next) : Turned page event next := by
  have menuStep := menuStep_of_step ready stepped
  cases event with
  | build =>
      simp only [system, step, Option.ite_none_right_eq_some, Option.some.injEq] at stepped
      obtain ⟨_, rfl⟩ := stepped
      exact ⟨fun _ => rfl, rfl⟩
  | pressShortCut =>
      simp only [system, step, Option.ite_none_right_eq_some, Option.some.injEq] at stepped
      obtain ⟨mounted, rfl⟩ := stepped
      cases snapshot : page.isolate.store.shortCutSnapshot with
      | none =>
          simp only [Isolate.call, run_onPressShortCut_unbuilt snapshot, finalStore_error]
          exact ⟨fun _ => rfl, by simp [snapshot, shortCut?]⟩
      | some shown =>
          simp only [Isolate.call, run_onPressShortCut (ready.isOpen mounted) snapshot,
            finalStore_ok]
          exact ⟨fun _ => rfl, by simp [snapshot, shortCut?]⟩
  | press menu =>
      simp only [system, step, Option.ite_none_right_eq_some, Option.some.injEq] at stepped
      obtain ⟨mounted, rfl⟩ := stepped
      rw [onPressed_eq (ready.isOpen mounted)]
      refine ⟨fun other => ?_, ?_⟩
      · by_cases own : other = menu
        · subst own
          simp [turns?, toggledStore]
        · have different : Event.press menu ≠ .press other := fun same =>
            own (Event.press.inj same).symm
          simp [turns?, toggledStore, own, different]
      · cases menu <;> rfl
  | scroll offset =>
      cases stepped
      obtain ⟨subject, kept, _⟩ := finalStore_listener offset page.isolate.store
      simp only [Isolate.perform, kept]
      exact ⟨fun _ => rfl, rfl⟩
  | resume call =>
      cases menuStep with
      | quiet _ notResuming _ => exact absurd rfl (notResuming call)
      | scrolled _ => exact ⟨fun _ => rfl, rfl⟩
  | elapse milliseconds =>
      cases stepped
      exact ⟨fun _ => rfl, rfl⟩
  | dispose =>
      simp only [system, step, Option.ite_none_right_eq_some, Option.some.injEq] at stepped
      obtain ⟨_, rfl⟩ := stepped
      exact ⟨fun _ => rfl, rfl⟩

/-- The show-more button was built since its flag changed last. -/
def pressesBuilt (page : MenuPage) (event : Event) : Prop :=
  event = .pressShortCut → page.isolate.store.shortCutSnapshot = page.shortCut?

/-- The short cuts are shown after an odd number of presses, all along a run, exactly when
every press finds the button built with the flag as it is. -/
theorem short_cut_is_parity_iff {events : List Event} {page : MenuPage}
    (ran : system.run initial events = some page) :
    (∀ front state, front <+: events → system.run initial front = some state →
      state.shortCut? = some (decide (Odd (front.count .pressShortCut)))) ↔
      system.StepsMeet pressesBuilt initial events := by
  refine EventSystem.forall_prefix_iff_stepsMeet ?_ ?_ ran
  · rfl
  intro front state event next reached parity stepped
  have shown := (turned_of_step (tracked_of_run reached).ready stepped).shortCut
  have count : (front ++ [event]).count .pressShortCut =
      front.count .pressShortCut + if event = .pressShortCut then 1 else 0 := by
    rw [List.count_append, List.count_singleton]
    simp
  rw [count, shown, parity]
  by_cases pressed : event = .pressShortCut
  · subst pressed
    simp only [if_true, pressesBuilt, true_implies, parity, Nat.odd_add_one]
    by_cases odd : Odd (front.count .pressShortCut) <;>
      rcases state.isolate.store.shortCutSnapshot with _ | _ | _ <;>
      simp only [odd, not_true, not_false_iff, decide_true, decide_false, Option.map_none,
        Option.map_some, Option.none_or, Option.some_or, Bool.not_true, Bool.not_false,
        reduceCtorEq, Option.some.injEq]
  · simp [pressed, pressesBuilt]

/-- Two presses in a row, the second of which finds the button of the first. -/
theorem short_cut_is_parity_iff_twice :
    ∃ page, system.run initial [.build, .pressShortCut, .pressShortCut] = some page ∧
      ¬ ∀ front state, front <+: [.build, .pressShortCut, .pressShortCut] →
        system.run initial front = some state →
        state.shortCut? = some (decide (Odd (front.count .pressShortCut))) := by
  have ran : system.run initial [.build, .pressShortCut, .pressShortCut] = some _ := rfl
  refine ⟨_, ran, fun parity => ?_⟩
  have meets := (short_cut_is_parity_iff ran).mp parity
  have outdated := meets.2.2.1 rfl
  cases outdated

end MenuPage

end FacebookApp
