import FacebookApp.Ui.MenuPage
import Mathlib.Algebra.Ring.Parity

/-!
# Properties of the menu page

The steps of the page, the agreement of the two flags of every hidden menu, and
when a delayed callback finds its menu open: exactly when the button was pressed
an even number of times since.
-/

set_option autoImplicit false

namespace FacebookApp

open Dart

/-! ## Programs of an open bloc -/

namespace MenuBloc

theorem run_calScrollOffset {bloc : MenuBloc} {other : Cell MenuBloc (BehaviorSubject Bool)}
    {shortCut shown : Bool} (isShortCut : bloc.isShowingShortCut.value? = some shortCut)
    (isShown : (other.read bloc).value? = some shown) (both shortCutOnly otherOnly neither : ℚ) :
    (calScrollOffset other both shortCutOnly otherOnly neither).run bloc =
      .ok (match shortCut, shown with
        | true, true => both
        | true, false => shortCutOnly
        | false, true => otherOnly
        | false, false => neither) bloc := by
  have first : (isShowingShortCutCell.value : Program Empty MenuBloc Bool).run bloc =
      .ok shortCut bloc := Cell.run_value isShowingShortCutCell isShortCut
  have second : (other.value : Program Empty MenuBloc Bool).run bloc = .ok shown bloc :=
    Cell.run_value other isShown
  have conjunction := Program.run_andM first second
  cases shortCut <;> cases shown <;>
    simp only [calScrollOffset, EStateM.run_bind, conjunction, first, second, Bool.and_self,
      Bool.and_true, Bool.and_false, if_true, Bool.false_eq_true, if_false] <;>
    rfl

end MenuBloc

namespace MenuPage

def withShowing (menu : HiddenMenu) (isShowing : Bool) (bloc : MenuBloc) : MenuBloc :=
  (showingCell menu).write (((showingCell menu).read bloc).emit isShowing) bloc

structure Open (store : MenuStore) : Prop where
  scrollOffset : store.bloc.scrollOffset.isClosed = false
  shortCut : store.bloc.isShowingShortCut.isClosed = false
  showing : ∀ menu, ((showingCell menu).read store.bloc).isClosed = false
  turns : ∀ menu, (store.buttons menu).turnsSubject.isClosed = false

theorem run_updateIsShowing {store : MenuStore} (isOpen : Open store) (menu : HiddenMenu)
    (isShowing : Bool) :
    ((updateIsShowing menu isShowing).within blocCell).run store =
      .ok () { store with bloc := withShowing menu isShowing store.bloc } := by
  have updated : (updateIsShowing menu isShowing).run store.bloc =
      .ok () (withShowing menu isShowing store.bloc) := by
    cases menu with
    | communityResource => exact Cell.run_add_open _ (isOpen.showing .communityResource) _
    | help => exact Cell.run_add_open _ (isOpen.showing .help) _
  simp only [Program.run_within, blocCell, updated]

theorem run_turn {store : MenuStore} (isOpen : Open store) (menu : HiddenMenu) (turns : ℚ) :
    ((HiddenMenuButton.turn turns).within (buttonCell menu)).run store =
      .ok () { store with
        buttons := Function.update store.buttons menu { store.buttons menu with
          turnsSubject := (store.buttons menu).turnsSubject.emit turns } } := by
  have turned : (HiddenMenuButton.turn turns).run (store.buttons menu) = .ok () {
      store.buttons menu with
      turnsSubject := (store.buttons menu).turnsSubject.emit turns } :=
    Cell.run_add_open _ (isOpen.turns menu) turns
  simp only [Program.run_within, buttonCell, turned]

/-! ## Presses of a hidden menu -/

def toggledStore (menu : HiddenMenu) (store : MenuStore) : MenuStore :=
  let button := store.buttons menu
  { store with
    bloc := withShowing menu (!button.isShowing) store.bloc
    buttons := Function.update store.buttons menu {
      turnsSubject := button.turnsSubject.emit (if button.isShowing then 0 else 1 / 2)
      isShowing := !button.isShowing } }

/-- The state after a press. A press that opens the menu schedules a scroll. -/
def toggled (page : MenuPage) (menu : HiddenMenu) : MenuPage :=
  { page with
    isolate := { page.isolate with
      store := toggledStore menu page.isolate.store
      activations := page.isolate.activations ++
        if (page.isolate.store.buttons menu).isShowing then []
        else [.suspended menu (page.isolate.now + 300)] } }

theorem Open.withShowing {store : MenuStore} (isOpen : Open store) (menu : HiddenMenu)
    (isShowing : Bool) :
    Open { store with bloc := withShowing menu isShowing store.bloc } := by
  refine ⟨?_, ?_, ?_, isOpen.turns⟩
  · cases menu <;> exact isOpen.scrollOffset
  · cases menu <;> exact isOpen.shortCut
  · intro other
    cases menu <;> cases other <;>
      first | exact isOpen.showing .communityResource | exact isOpen.showing .help

theorem Open.toggledStore {store : MenuStore} (isOpen : Open store) (menu : HiddenMenu) :
    Open (toggledStore menu store) := by
  have shown := isOpen.withShowing menu (!(store.buttons menu).isShowing)
  refine ⟨shown.scrollOffset, shown.shortCut, shown.showing, ?_⟩
  intro other
  simp only [MenuPage.toggledStore, Function.update_apply]
  split
  · exact isOpen.turns menu
  · exact isOpen.turns other

theorem run_hide {store : MenuStore} (isOpen : Open store) {menu : HiddenMenu}
    (shown : (store.buttons menu).isShowing = true) :
    (HiddenMenuButton.hide (buttonCell menu) (some (onNShowingEnd menu))).run store =
      .ok () (toggledStore menu store) := by
  have hidden := run_updateIsShowing isOpen menu false
  have turned := run_turn (isOpen.withShowing menu false) menu 0
  simp only [HiddenMenuButton.hide, Option.getD_some, onNShowingEnd, EStateM.run_bind, hidden,
    turned, Program.run_within]
  simp [HiddenMenuButton.toggle, buttonCell, toggledStore, shown]

theorem expand_eq {isolate : Isolate Empty MenuStore HiddenMenu} (isOpen : Open isolate.store)
    {menu : HiddenMenu} (hidden : (isolate.store.buttons menu).isShowing = false) :
    HiddenMenuButton.expand (buttonCell menu) (some (onShowingEnd menu)) isolate =
      { isolate with
        store := toggledStore menu isolate.store
        activations := isolate.activations ++ [.suspended menu (isolate.now + 300)] } := by
  have turned := run_turn isOpen menu (1 / 2)
  have turnedOpen : Open { isolate.store with
      buttons := Function.update isolate.store.buttons menu { isolate.store.buttons menu with
        turnsSubject := (isolate.store.buttons menu).turnsSubject.emit (1 / 2) } } := by
    refine ⟨isOpen.scrollOffset, isOpen.shortCut, isOpen.showing, ?_⟩
    intro other
    simp only [Function.update_apply]
    split
    · exact isOpen.turns menu
    · exact isOpen.turns other
  have shown := run_updateIsShowing turnedOpen menu true
  simp only [HiddenMenuButton.expand, turned, Isolate.call, onShowingEnd, EStateM.run_bind, shown]
  simp [Isolate.perform, HiddenMenuButton.toggle, buttonCell, toggledStore, hidden,
    Program.run_within, Activation.ofResult]

theorem onPressed_eq {isolate : Isolate Empty MenuStore HiddenMenu} (isOpen : Open isolate.store)
    (menu : HiddenMenu) :
    HiddenMenuButton.onPressed (buttonCell menu) (some (onShowingEnd menu))
        (some (onNShowingEnd menu)) isolate =
      { isolate with
        store := toggledStore menu isolate.store
        activations := isolate.activations ++
          if (isolate.store.buttons menu).isShowing then []
          else [.suspended menu (isolate.now + 300)] } := by
  cases showing : (isolate.store.buttons menu).isShowing with
  | false =>
      simp only [HiddenMenuButton.onPressed, buttonCell, showing, Bool.false_eq_true, if_false]
      exact expand_eq isOpen showing
  | true =>
      simp only [HiddenMenuButton.onPressed, buttonCell, showing, if_true, List.append_nil]
      have hidden := run_hide isOpen showing
      simp only [buttonCell] at hidden
      simp only [Isolate.perform, hidden, finalStore_ok]

/-! ## Steps -/

/-- The flag of the bloc and the flag of the button are the same for every menu. -/
structure Ready (page : MenuPage) : Prop where
  isOpen : page.mounted = true → Open page.isolate.store
  shortCut : ∃ shown, page.isolate.store.bloc.isShowingShortCut.value? = some shown
  showing : ∀ menu, page.isShowing? menu = some (page.isolate.store.buttons menu).isShowing

/-- Neither a menu nor a pending callback is touched. -/
structure Quiet (page next : MenuPage) : Prop where
  ready : Ready next
  buttons : ∀ menu, (next.isolate.store.buttons menu).isShowing =
    (page.isolate.store.buttons menu).isShowing
  activations : ∃ more, next.isolate.activations = page.isolate.activations ++ more ∧
    ∀ activation ∈ more, Activation.frame? activation = none

def scrolled (page : MenuPage) (call : Nat) (menu : HiddenMenu) (offset : ℚ) : MenuPage :=
  { page with
    isolate := { page.isolate with
      store := { page.isolate.store with
        scrolls := page.isolate.store.scrolls ++ [(menu, offset)] }
      activations := page.isolate.activations.set call .returned } }

inductive MenuStep (page : MenuPage) : Event → MenuPage → Prop where
  | quiet {event : Event} {next : MenuPage} (notPressing : ∀ menu, event ≠ .press menu)
      (notResuming : ∀ call, event ≠ .resume call) (quiet : Quiet page next) :
      MenuStep page event next
  | toggled {menu : HiddenMenu} (mounted : page.mounted = true) :
      MenuStep page (.press menu) (page.toggled menu)
  | scrolled {call due : Nat} {menu : HiddenMenu} {offset : ℚ}
      (found : page.isolate.activations[call]? = some (.suspended menu due)) :
      MenuStep page (.resume call) (page.scrolled call menu offset)

theorem ready_initial : Ready initial where
  isOpen := fun _ => ⟨rfl, rfl, fun menu => by cases menu <;> rfl, fun _ => rfl⟩
  shortCut := ⟨false, rfl⟩
  showing := fun menu => by cases menu <;> rfl

theorem Ready.toggled {page : MenuPage} (ready : Ready page) (mounted : page.mounted = true)
    (menu : HiddenMenu) : Ready (page.toggled menu) where
  isOpen := fun _ => (ready.isOpen mounted).toggledStore menu
  shortCut := by
    obtain ⟨shown, isShown⟩ := ready.shortCut
    refine ⟨shown, ?_⟩
    cases menu <;> exact isShown
  showing := by
    intro other
    have before := ready.showing other
    cases menu <;> cases other <;>
      simp_all [isShowing?, MenuPage.toggled, toggledStore, withShowing, showingCell,
        MenuBloc.isShowingCommunityResourceCell, MenuBloc.isShowingHelpCell]

theorem exists_run_calScrollOffset {page : MenuPage} (ready : Ready page) (menu : HiddenMenu) :
    ∃ offset, (calScrollOffset menu).run page.isolate.store.bloc =
      .ok offset page.isolate.store.bloc := by
  obtain ⟨shown, isShown⟩ := ready.shortCut
  cases menu with
  | communityResource =>
      exact ⟨_, MenuBloc.run_calScrollOffset isShown (ready.showing .help) 667 562 500 397⟩
  | help =>
      exact ⟨_, MenuBloc.run_calScrollOffset isShown (ready.showing .communityResource)
        915 677 750 512⟩

theorem quiet_build {page : MenuPage} (ready : Ready page) :
    Quiet page { page with
      isolate := { page.isolate with
        store := { page.isolate.store with
          shortCutSnapshot := page.isolate.store.bloc.isShowingShortCut.value? } } } where
  ready :=
    { isOpen := fun mounted =>
        have isOpen := ready.isOpen mounted
        ⟨isOpen.scrollOffset, isOpen.shortCut, isOpen.showing, isOpen.turns⟩
      shortCut := ready.shortCut
      showing := ready.showing }
  buttons := fun _ => rfl
  activations := ⟨[], by simp, nofun⟩

theorem run_onPressShortCut {store : MenuStore} (isOpen : Open store) {shown : Bool}
    (snapshot : store.shortCutSnapshot = some shown) :
    onPressShortCut.run store = .ok none { store with
      bloc := { store.bloc with
        isShowingShortCut := store.bloc.isShowingShortCut.emit !shown } } := by
  have updated : ∀ isShowing,
      ((MenuBloc.updateIsShowingShortCut isShowing).within blocCell).run store =
        .ok () { store with
          bloc := { store.bloc with
            isShowingShortCut := store.bloc.isShowingShortCut.emit isShowing } } := by
    intro isShowing
    have added : (MenuBloc.updateIsShowingShortCut isShowing).run store.bloc =
        .ok () { store.bloc with
          isShowingShortCut := store.bloc.isShowingShortCut.emit isShowing } :=
      Cell.run_add_open MenuBloc.isShowingShortCutCell isOpen.shortCut isShowing
    simp only [Program.run_within, blocCell, added]
  cases shown <;>
    simp only [onPressShortCut, EStateM.run_bind, EStateM.run_get, snapshot,
      Program.run_nonNull_some, Bool.false_eq_true, if_false, if_true, updated] <;>
    rfl

theorem run_onPressShortCut_unbuilt {store : MenuStore} (snapshot : store.shortCutSnapshot = none) :
    onPressShortCut.run store = .error .nullCheckError store := by
  simp only [onPressShortCut, EStateM.run_bind, EStateM.run_get, snapshot,
    Program.run_nonNull_none]

theorem quiet_pressShortCut {page : MenuPage} (ready : Ready page)
    (mounted : page.mounted = true) :
    Quiet page { page with isolate := page.isolate.call onPressShortCut } := by
  have isOpen := ready.isOpen mounted
  cases snapshot : page.isolate.store.shortCutSnapshot with
  | none =>
      simp only [Isolate.call, run_onPressShortCut_unbuilt snapshot, finalStore_error]
      exact ⟨⟨fun _ => isOpen, ready.shortCut, ready.showing⟩, fun _ => rfl, _, rfl,
        by simp [Activation.ofResult]⟩
  | some shown =>
      simp only [Isolate.call, run_onPressShortCut isOpen snapshot, finalStore_ok]
      refine ⟨⟨fun _ => ⟨isOpen.scrollOffset, isOpen.shortCut, ?_, isOpen.turns⟩,
        ⟨!shown, BehaviorSubject.value?_emit _ _⟩, ?_⟩, fun _ => rfl, _, rfl, by simp⟩
      · intro menu
        have showing := isOpen.showing menu
        cases menu <;> exact showing
      · intro menu
        have showing := ready.showing menu
        cases menu <;> exact showing

/-- The listener touches the scroll offset only, and does not close its subject. -/
theorem finalStore_listener (offset : ℚ) (store : MenuStore) :
    ∃ subject, finalStore ((listener offset).run store) =
        { store with bloc := { store.bloc with scrollOffset := subject } } ∧
      subject.isClosed = store.bloc.scrollOffset.isClosed := by
  cases closed : store.bloc.scrollOffset.isClosed with
  | false =>
      have added : (MenuBloc.updateScrollOffset offset).run store.bloc =
          .ok () { store.bloc with scrollOffset := store.bloc.scrollOffset.emit offset } :=
        Cell.run_add_open MenuBloc.scrollOffsetCell closed offset
      refine ⟨store.bloc.scrollOffset.emit offset, ?_, closed⟩
      simp only [listener, Program.finalStore_within, blocCell, added, finalStore_ok]
  | true =>
      have rejected : (MenuBloc.updateScrollOffset offset).run store.bloc =
          .error .stateError store.bloc :=
        Cell.run_add_closed MenuBloc.scrollOffsetCell closed offset
      refine ⟨store.bloc.scrollOffset, ?_, closed⟩
      simp only [listener, Program.finalStore_within, blocCell, rejected, finalStore_error]

theorem quiet_listener {page : MenuPage} (ready : Ready page) (offset : ℚ) :
    Quiet page { page with isolate := page.isolate.perform (listener offset) } := by
  obtain ⟨subject, store, sameClosed⟩ := finalStore_listener offset page.isolate.store
  simp only [Isolate.perform, store]
  refine ⟨⟨fun mounted => ?_, ready.shortCut, ?_⟩, fun _ => rfl, [], by simp, nofun⟩
  · have isOpen := ready.isOpen mounted
    refine ⟨sameClosed.trans isOpen.scrollOffset, isOpen.shortCut, ?_, isOpen.turns⟩
    intro menu
    have showing := isOpen.showing menu
    cases menu <;> exact showing
  · intro menu
    have showing := ready.showing menu
    cases menu <;> exact showing

theorem quiet_dispose {page : MenuPage} (ready : Ready page) :
    Quiet page {
      isolate := { page.isolate with
        store := { page.isolate.store with
          bloc := page.isolate.store.bloc.dispose
          buttons := fun menu => (page.isolate.store.buttons menu).dispose } }
      mounted := false } where
  ready :=
    { isOpen := nofun
      shortCut := ready.shortCut
      showing := fun menu => by
        have showing := ready.showing menu
        cases menu <;> exact showing }
  buttons := fun _ => rfl
  activations := ⟨[], by simp, nofun⟩

theorem menuStep_of_step {page next : MenuPage} {event : Event} (ready : Ready page)
    (stepped : system.step page event = some next) : MenuStep page event next := by
  cases event with
  | build =>
      simp only [system, step, Option.ite_none_right_eq_some, Option.some.injEq] at stepped
      obtain ⟨_, rfl⟩ := stepped
      exact .quiet nofun nofun (quiet_build ready)
  | pressShortCut =>
      simp only [system, step, Option.ite_none_right_eq_some, Option.some.injEq] at stepped
      obtain ⟨mounted, rfl⟩ := stepped
      exact .quiet nofun nofun (quiet_pressShortCut ready mounted)
  | press menu =>
      simp only [system, step, Option.ite_none_right_eq_some, Option.some.injEq] at stepped
      obtain ⟨mounted, rfl⟩ := stepped
      rw [onPressed_eq (ready.isOpen mounted)]
      exact .toggled mounted
  | scroll offset =>
      cases stepped
      exact .quiet nofun nofun (quiet_listener ready offset)
  | resume call =>
      simp only [system, step, Option.map_eq_some_iff] at stepped
      obtain ⟨isolate, resumed, rfl⟩ := stepped
      obtain ⟨menu, due, found, _, rfl⟩ := Isolate.resume_eq_some_iff.mp resumed
      obtain ⟨offset, ran⟩ := exists_run_calScrollOffset ready menu
      have scrolledTo : (scrollTo menu).run page.isolate.store = .ok none { page.isolate.store with
          scrolls := page.isolate.store.scrolls ++ [(menu, offset)] } := by
        simp only [scrollTo, EStateM.run_bind, Program.run_within, blocCell, ran]
        rfl
      simp only [scrolledTo, finalStore_ok, Activation.ofResult_none]
      exact .scrolled found
  | elapse milliseconds =>
      cases stepped
      exact .quiet nofun nofun
        ⟨⟨ready.isOpen, ready.shortCut, ready.showing⟩, fun _ => rfl, [], by simp [Isolate.elapse],
          nofun⟩
  | dispose =>
      simp only [system, step, Option.ite_none_right_eq_some, Option.some.injEq] at stepped
      obtain ⟨_, rfl⟩ := stepped
      exact .quiet nofun nofun (quiet_dispose ready)

theorem MenuStep.ready {page next : MenuPage} {event : Event}
    (menuStep : MenuStep page event next) (ready : Ready page) : Ready next := by
  cases menuStep with
  | quiet _ _ quiet => exact quiet.ready
  | toggled mounted => exact ready.toggled mounted _
  | scrolled found =>
      exact ⟨fun mounted =>
        have isOpen := ready.isOpen mounted
        ⟨isOpen.scrollOffset, isOpen.shortCut, isOpen.showing, isOpen.turns⟩,
        ready.shortCut, ready.showing⟩

end MenuPage

end FacebookApp
