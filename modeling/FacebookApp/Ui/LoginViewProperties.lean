import FacebookApp.Ui.LoginFormProperties
import FacebookApp.Ui.LoginView
import Mathlib.Tactic.NormNum

/-!
# The login page shows its view

Every handler of the mounted page does to the subjects what the view says, whatever
sign-in requests end meanwhile. The clear icons are right exactly as long as none of them
is pressed without the tap on its field.
-/

set_option autoImplicit false

namespace FacebookApp

open Dart

namespace LoginBloc

variable {External : Type}

def withIcon (field : LoginField) (visible : Bool) (bloc : LoginBloc) : LoginBloc :=
  match field with
  | .id => { bloc with idButton := bloc.idButton.emit visible }
  | .pw => { bloc with pwButton := bloc.pwButton.emit visible }

def withHeight (height : ℚ) (bloc : LoginBloc) : LoginBloc :=
  { bloc with appBarHeight := bloc.appBarHeight.emit height }

def withEnabled (bloc : LoginBloc) : LoginBloc :=
  match bloc.enabled? with
  | some enabled => { bloc with loginButton := bloc.loginButton.emit enabled }
  | none => bloc

variable {bloc : LoginBloc}

theorem Open.withIcon (isOpen : bloc.Open) (field : LoginField) (visible : Bool) :
    (bloc.withIcon field visible).Open := by
  cases field <;> exact { isOpen with }

theorem Open.withHeight (isOpen : bloc.Open) (height : ℚ) : (bloc.withHeight height).Open :=
  { isOpen with }

theorem Open.withEnabled (isOpen : bloc.Open) : bloc.withEnabled.Open := by
  unfold LoginBloc.withEnabled
  split
  · exact { isOpen with }
  · exact isOpen

theorem withIcon_withEnabled (bloc : LoginBloc) (field : LoginField) (visible : Bool) :
    bloc.withEnabled.withIcon field visible = (bloc.withIcon field visible).withEnabled := by
  have same : (bloc.withIcon field visible).enabled? = bloc.enabled? := by cases field <;> rfl
  simp only [LoginBloc.withEnabled, same]
  cases bloc.enabled? <;> cases field <;> rfl

theorem run_toggleButton {text : Cell LoginBloc (BehaviorSubject String)}
    {button : Cell LoginBloc (BehaviorSubject Bool)}
    (isOpen : (button.read bloc).isClosed = false) {content : String}
    (seen : (text.read bloc).value? = some content) :
    (toggleButton text button : Program External LoginBloc Unit).run bloc =
      .ok () (button.write ((button.read bloc).emit (content ≠ "")) bloc) := by
  have read : (text.value : Program External LoginBloc String).run bloc = .ok content bloc :=
    Cell.run_value text seen
  simp only [toggleButton, EStateM.run_bind, read]
  by_cases isEmpty : content = ""
  · simpa [isEmpty] using Cell.run_add_open button isOpen false
  · simpa [isEmpty] using Cell.run_add_open button isOpen true

theorem run_toggleIdButton (isOpen : bloc.Open) {content : String}
    (seen : bloc.id.value? = some content) :
    (toggleIdButton : Program External LoginBloc Unit).run bloc =
      .ok () (bloc.withIcon .id (content ≠ "")) :=
  run_toggleButton isOpen.idButton seen

theorem run_togglePwButton (isOpen : bloc.Open) {content : String}
    (seen : bloc.pw.value? = some content) :
    (togglePwButton : Program External LoginBloc Unit).run bloc =
      .ok () (bloc.withIcon .pw (content ≠ "")) :=
  run_toggleButton isOpen.pwButton seen

theorem run_updateIdButton (isOpen : bloc.Open) (visible : Bool) :
    (updateIdButton visible : Program External LoginBloc Unit).run bloc =
      .ok () (bloc.withIcon .id visible) :=
  Cell.run_add_open idButtonCell isOpen.idButton visible

theorem run_updatePwButton (isOpen : bloc.Open) (visible : Bool) :
    (updatePwButton visible : Program External LoginBloc Unit).run bloc =
      .ok () (bloc.withIcon .pw visible) :=
  Cell.run_add_open pwButtonCell isOpen.pwButton visible

theorem run_setAppBarHeightMax (isOpen : bloc.Open) :
    (setAppBarHeightMax : Program External LoginBloc Unit).run bloc =
      .ok () (bloc.withHeight bloc.maxAppBarHeight) :=
  Cell.run_add_open appBarHeightCell isOpen.appBarHeight bloc.maxAppBarHeight

theorem run_setAppBarHeightMin (isOpen : bloc.Open) :
    (setAppBarHeightMin : Program External LoginBloc Unit).run bloc =
      .ok () (bloc.withHeight bloc.minAppBarHeight) :=
  Cell.run_add_open appBarHeightCell isOpen.appBarHeight bloc.minAppBarHeight

theorem run_toggleLoginButton (isOpen : bloc.Open) :
    (toggleLoginButton : Program External LoginBloc Unit).run bloc = .ok () bloc.withEnabled := by
  cases id : bloc.id.value? with
  | none => simp [toggleLoginButton, withEnabled, enabled?, BehaviorSubject.hasValue, id]
  | some idText =>
      cases pw : bloc.pw.value? with
      | none => simp [toggleLoginButton, withEnabled, enabled?, BehaviorSubject.hasValue, id, pw]
      | some pwText =>
          have readId : (idCell.value : Program External LoginBloc String).run bloc =
              .ok idText bloc := Cell.run_value idCell id
          have readPw : (pwCell.value : Program External LoginBloc String).run bloc =
              .ok pwText bloc := Cell.run_value pwCell pw
          have added (enabled : Bool) :
              (updateLoginButton enabled : Program External LoginBloc Unit).run bloc =
                .ok () { bloc with loginButton := bloc.loginButton.emit enabled } :=
            Cell.run_add_open loginButtonCell isOpen.loginButton enabled
          simp only [toggleLoginButton, EStateM.run_bind, EStateM.run_get,
            BehaviorSubject.hasValue, id, pw, Option.isSome_some, Bool.and_self, if_true,
            readId, readPw, withEnabled, enabled?]
          cases filled : !idText.isEmpty && !pwText.isEmpty with
          | true => simpa using added true
          | false => simpa using added false

theorem run_onUnfocus (isOpen : bloc.Open) :
    (onUnfocus : Program External LoginBloc Unit).run bloc =
      .ok () (((bloc.withHeight bloc.maxAppBarHeight).withIcon .id false).withIcon .pw
        false).withEnabled := by
  have tall := isOpen.withHeight bloc.maxAppBarHeight
  simp only [onUnfocus, EStateM.run_bind, run_setAppBarHeightMax isOpen,
    run_updateIdButton tall, run_updatePwButton (tall.withIcon .id false),
    run_toggleLoginButton ((tall.withIcon .id false).withIcon .pw false)]

end LoginBloc

namespace LoginPage

/-! ## Handlers -/

theorem run_onBloc_eq {program : Program FirebaseError LoginBloc Unit} {store : LoginStore}
    {bloc : LoginBloc} (ran : program.run store.bloc = .ok () bloc) :
    (onBloc program).run store = .ok () { store with bloc := bloc } := by
  rw [onBloc, Program.run_within]
  simp only [LoginStore.blocCell, ran]

variable {store : LoginStore}

/-- The bloc saw the text of the field last. -/
def Seen (store : LoginStore) : LoginField → Prop
  | .id => store.bloc.id.value? = some store.idController
  | .pw => store.bloc.pw.value? = some store.pwController

theorem seen_listened (store : LoginStore) (field : LoginField) :
    Seen (store.listened field) field := by
  cases field <;> exact BehaviorSubject.value?_emit _ _

theorem run_onTap_eq (isOpen : store.bloc.Open) {field : LoginField} (seen : Seen store field) :
    (onTap field).run store = .ok () { store with
      bloc := (store.bloc.withHeight store.bloc.minAppBarHeight).withIcon field
        (store.text field ≠ "") } := by
  have low := isOpen.withHeight store.bloc.minAppBarHeight
  cases field <;> apply run_onBloc_eq <;>
    simp only [EStateM.run_bind, LoginBloc.run_setAppBarHeightMin isOpen]
  · exact LoginBloc.run_toggleIdButton low seen
  · exact LoginBloc.run_togglePwButton low seen

theorem run_onChanged_eq (isOpen : store.bloc.Open) {field : LoginField}
    (seen : Seen store field) :
    (onChanged field).run store = .ok () { store with
      bloc := (store.bloc.withIcon field (store.text field ≠ "")).withEnabled } := by
  cases field <;> apply run_onBloc_eq
  · simp only [EStateM.run_bind, LoginBloc.run_toggleIdButton isOpen seen]
    exact LoginBloc.run_toggleLoginButton (isOpen.withIcon .id _)
  · have seen' : store.bloc.withEnabled.pw.value? = some store.pwController := by
      unfold LoginBloc.withEnabled
      split <;> exact seen
    simp only [EStateM.run_bind, LoginBloc.run_toggleLoginButton isOpen,
      LoginBloc.run_togglePwButton isOpen.withEnabled seen']
    rw [LoginBloc.withIcon_withEnabled]
    rfl

theorem run_onSubmitted_eq (isOpen : store.bloc.Open) (field : LoginField) :
    (onSubmitted field).run store = .ok () { store with
      bloc := match field with
        | .id => store.bloc.withIcon .id false
        | .pw => (store.bloc.withHeight store.bloc.maxAppBarHeight).withIcon .pw false } := by
  cases field <;> apply run_onBloc_eq
  · exact LoginBloc.run_updateIdButton isOpen false
  · simp only [EStateM.run_bind, LoginBloc.run_setAppBarHeightMax isOpen]
    exact LoginBloc.run_updatePwButton (isOpen.withHeight _) false

/-! ## Refinement -/

structure Renders (appHeight : ℚ) (store : LoginStore) (view : LoginView) : Prop
    extends Displays appHeight store view where
  tracked : store.Tracked
  unseen : store.bloc.enabled? = none → view.isEnabled = false
  maxAppBarHeight : store.bloc.maxAppBarHeight = appHeight * (24 / 100)
  minAppBarHeight : store.bloc.minAppBarHeight = appHeight * (12 / 100)

theorem renders_initial (appHeight : ℚ) :
    Renders appHeight (initial appHeight).isolate.store {} where
  text := fun field => by cases field <;> rfl
  showsClear := fun field => by cases field <;> rfl
  appBarHeight := rfl
  isEnabled := rfl
  tracked := (coherent_initial appHeight).tracked rfl
  unseen := fun _ => rfl
  maxAppBarHeight := rfl
  minAppBarHeight := rfl

namespace Renders

variable {appHeight : ℚ} {view : LoginView}

theorem icon (renders : Renders appHeight store view) (field : LoginField) (visible : Bool) :
    Renders appHeight { store with bloc := store.bloc.withIcon field visible }
      (view.icon field visible) := by
  have same : (store.bloc.withIcon field visible).enabled? = store.bloc.enabled? := by
    cases field <;> rfl
  refine ⟨⟨renders.text, ?_, ?_, ?_⟩, ?_, ?_, ?_, ?_⟩
  · intro other
    by_cases own : other = field
    · subst own
      cases other <;> simp [LoginStore.showsClear, LoginBloc.withIcon, LoginView.icon]
    · have kept : (view.icon field visible).showsClear other = view.showsClear other :=
        Function.update_of_ne own _ _
      rw [kept, ← renders.showsClear other]
      cases field <;> cases other <;> first | rfl | exact absurd rfl own
  · cases field <;> exact renders.appBarHeight
  · cases field <;> exact renders.isEnabled
  · refine renders.tracked.withBloc (renders.tracked.isOpen.withIcon field visible) ?_ ?_
    · cases field <;> rfl
    · cases field <;> rfl
  · rw [same]
    exact renders.unseen
  · cases field <;> exact renders.maxAppBarHeight
  · cases field <;> exact renders.minAppBarHeight

theorem toggleIcon (renders : Renders appHeight store view) (field : LoginField) :
    Renders appHeight { store with bloc := store.bloc.withIcon field (store.text field ≠ "") }
      (view.toggleIcon field) := by
  rw [renders.text field]
  exact renders.icon field _

theorem raise (renders : Renders appHeight store view) :
    Renders appHeight { store with bloc := store.bloc.withHeight store.bloc.maxAppBarHeight }
      view.raise :=
  { renders with
    appBarHeight := by
      simp [LoginBloc.withHeight, LoginView.raise, renders.maxAppBarHeight]
    tracked := renders.tracked.withBloc (renders.tracked.isOpen.withHeight _) rfl rfl }

theorem lower (renders : Renders appHeight store view) :
    Renders appHeight { store with bloc := store.bloc.withHeight store.bloc.minAppBarHeight }
      view.lower :=
  { renders with
    appBarHeight := by
      simp [LoginBloc.withHeight, LoginView.lower, renders.minAppBarHeight]
    tracked := renders.tracked.withBloc (renders.tracked.isOpen.withHeight _) rfl rfl }

theorem toggleEnabled (renders : Renders appHeight store view) :
    Renders appHeight { store with bloc := store.bloc.withEnabled } view.toggleEnabled := by
  have filled : view.isFilled = (store.idController ≠ "" && store.pwController ≠ "") := by
    rw [LoginView.isFilled, ← renders.text .id, ← renders.text .pw]
    rfl
  rcases renders.tracked.enabled?_cases with seen | ⟨unseen, isEmpty⟩
  · have isNow : store.bloc.withEnabled =
        { store.bloc with loginButton := store.bloc.loginButton.emit view.isFilled } := by
      rw [LoginBloc.withEnabled, seen, filled]
      simp
    rw [isNow]
    exact { renders with
      isEnabled := BehaviorSubject.value?_emit _ _
      tracked := renders.tracked.withBloc { renders.tracked.isOpen with } rfl rfl
      unseen := fun unseen => by
        have stillSeen : store.bloc.enabled? = none := unseen
        rw [seen] at stillSeen
        cases stillSeen }
  · have same : store.bloc.withEnabled = store.bloc := by rw [LoginBloc.withEnabled, unseen]
    have disabled : view.isFilled = false := by
      rw [filled]
      rcases isEmpty with isEmpty | isEmpty <;> simp [isEmpty]
    have before := renders.unseen unseen
    rw [same, LoginView.toggleEnabled, disabled, ← before]
    exact renders

theorem type (renders : Renders appHeight store view) (field : LoginField) (text : String) :
    Renders appHeight ((store.setText text field).listened field) (view.type field text) := by
  refine ⟨⟨?_, ?_, ?_, ?_⟩, renders.tracked.setText field text, ?_, ?_, ?_⟩
  · intro other
    by_cases own : other = field
    · subst own
      cases other <;> simp [LoginStore.text, LoginStore.setText, LoginStore.listened,
        LoginView.type]
    · have kept : (view.type field text).text other = view.text other :=
        Function.update_of_ne own _ _
      rw [kept, ← renders.text other]
      cases field <;> cases other <;> first | rfl | exact absurd rfl own
  · intro other
    have same : (view.type field text).showsClear other = view.showsClear other := rfl
    rw [same, ← renders.showsClear other]
    cases field <;> cases other <;> rfl
  · cases field <;> exact renders.appBarHeight
  · cases field <;> exact renders.isEnabled
  · exact fun unseen => renders.unseen (enabled?_of_listened unseen)
  · cases field <;> exact renders.maxAppBarHeight
  · cases field <;> exact renders.minAppBarHeight

theorem listened (renders : Renders appHeight store view) (field : LoginField) :
    Renders appHeight (store.listened field) view := by
  have own : store.setText (store.text field) field = store := by cases field <;> rfl
  have same : view.type field (store.text field) = view := by
    rw [renders.text field, LoginView.type, Function.update_eq_self]
  have typed := renders.type field (store.text field)
  rwa [own, same] at typed

/-- Neither the spinner nor the dialogs are part of the view. -/
theorem withIndicator (renders : Renders appHeight store view) (visible : Bool)
    (dialogs : List String) :
    Renders appHeight { store with
      bloc := { store.bloc with indicator := store.bloc.indicator.emit visible }
      dialogs := dialogs } view :=
  { renders with
    text := fun field => by
      rw [← renders.text field]
      cases field <;> rfl
    showsClear := fun field => by
      rw [← renders.showsClear field]
      cases field <;> rfl
    tracked := ⟨{ renders.tracked.isOpen with }, fun field => by
      have tracks := renders.tracked.tracks field
      cases field <;> exact tracks⟩ }

end Renders

variable {appHeight : ℚ} {view : LoginView}

theorem renders_edit (renders : Renders appHeight store view) (field : LoginField)
    (text : String) :
    Renders appHeight (finalStore ((edit field text).run store))
      (view.next (.edit field text)) := by
  have setOpen : (store.setText text field).bloc.Open := by
    cases field <;> exact renders.tracked.isOpen
  have typed := renders.type field text
  have ran := run_onChanged_eq typed.tracked.isOpen (seen_listened (store.setText text field) field)
  simp only [edit, EStateM.run_bind, EStateM.run_modify, run_listener setOpen field, ran,
    finalStore_ok]
  exact (typed.toggleIcon field).toggleEnabled

theorem renders_tap (renders : Renders appHeight store view) (field : LoginField) :
    Renders appHeight (finalStore ((tap field).run store)) (view.next (.tap field)) := by
  have listened := renders.listened field
  have ran := run_onTap_eq listened.tracked.isOpen (seen_listened store field)
  simp only [tap, EStateM.run_bind, run_listener renders.tracked.isOpen field, ran,
    finalStore_ok]
  exact listened.lower.toggleIcon field

theorem renders_submit (renders : Renders appHeight store view) (field : LoginField) :
    Renders appHeight (finalStore ((onSubmitted field).run store))
      (view.next (.submit field)) := by
  rw [run_onSubmitted_eq renders.tracked.isOpen, finalStore_ok]
  cases field with
  | id => exact renders.icon .id false
  | pw => exact renders.raise.icon .pw false

theorem renders_clear (renders : Renders appHeight store view) (field : LoginField)
    (withTap : Bool) :
    Renders appHeight (finalStore ((clear field withTap).run store))
      (view.next (.clear field withTap)) := by
  have setOpen : (store.setText "" field).bloc.Open := by
    cases field <;> exact renders.tracked.isOpen
  have typed := renders.type field ""
  have listening := run_listener setOpen field
  cases withTap with
  | false =>
      simp only [clear, EStateM.run_bind, EStateM.run_modify, listening, Bool.false_eq_true,
        if_false]
      exact typed
  | true =>
      have ran := run_onTap_eq typed.tracked.isOpen (seen_listened (store.setText "" field) field)
      simp only [clear, EStateM.run_bind, EStateM.run_modify, listening, if_true, ran,
        finalStore_ok]
      exact typed.lower.toggleIcon field

theorem renders_tapOutside (renders : Renders appHeight store view) :
    Renders appHeight (finalStore ((onBloc LoginBloc.onUnfocus).run store))
      (view.next .tapOutside) := by
  rw [run_onBloc_eq (LoginBloc.run_onUnfocus renders.tracked.isOpen), finalStore_ok]
  exact (((renders.raise.icon .id false).icon .pw false).toggleEnabled)

theorem renders_login {isolate : Isolate FirebaseError LoginStore Credentials}
    (renders : Renders appHeight isolate.store view) :
    Renders appHeight (isolate.call login).store (view.next .login) := by
  have shown := renders.raise
  have isOpen : (LoginBloc.indicatorCell.read (isolate.store.bloc.withHeight
      isolate.store.bloc.maxAppBarHeight)).isClosed = false := shown.tracked.isOpen.indicator
  have added : (LoginBloc.updateIndicator true : Program FirebaseError LoginBloc Unit).run
      (isolate.store.bloc.withHeight isolate.store.bloc.maxAppBarHeight) = _ :=
    Cell.run_add_open LoginBloc.indicatorCell isOpen true
  have called : (isolate.call login).store = { isolate.store with
      bloc := { isolate.store.bloc.withHeight isolate.store.bloc.maxAppBarHeight with
        indicator := isolate.store.bloc.indicator.emit true } } := by
    simp only [Isolate.call, login, onBloc, EStateM.run_bind, Program.run_within,
      LoginStore.blocCell, LoginBloc.run_setAppBarHeightMax renders.tracked.isOpen, added,
      EStateM.run_get]
    rfl
  rw [called]
  exact shown.withIndicator true isolate.store.dialogs

theorem renders_step {page next : LoginPage} {event : Event} (coherent : Coherent page)
    (renders : Renders appHeight page.isolate.store view)
    (stepped : system.step page event = some next) (mounted : next.mounted = true) :
    Renders appHeight next.isolate.store (view.next event) := by
  have loginStep := loginStep_of_step coherent stepped
  cases event with
  | edit field text =>
      simp only [system, step, Option.ite_none_right_eq_some, Option.some.injEq] at stepped
      obtain ⟨_, rfl⟩ := stepped
      exact renders_edit renders field text
  | select field =>
      simp only [system, step, Option.ite_none_right_eq_some, Option.some.injEq] at stepped
      obtain ⟨_, rfl⟩ := stepped
      simp only [perform, Isolate.perform, run_listener renders.tracked.isOpen, finalStore_ok]
      exact renders.listened field
  | tap field =>
      simp only [system, step, Option.ite_none_right_eq_some, Option.some.injEq] at stepped
      obtain ⟨_, rfl⟩ := stepped
      exact renders_tap renders field
  | submit field =>
      simp only [system, step, Option.ite_none_right_eq_some, Option.some.injEq] at stepped
      obtain ⟨_, rfl⟩ := stepped
      exact renders_submit renders field
  | clear field withTap =>
      simp only [system, step, Option.ite_none_right_eq_some, Option.some.injEq] at stepped
      obtain ⟨_, rfl⟩ := stepped
      exact renders_clear renders field withTap
  | tapOutside =>
      simp only [system, step, Option.ite_none_right_eq_some, Option.some.injEq] at stepped
      obtain ⟨_, rfl⟩ := stepped
      exact renders_tapOutside renders
  | login =>
      simp only [system, step, Option.ite_none_right_eq_some, Option.some.injEq] at stepped
      obtain ⟨_, rfl⟩ := stepped
      exact renders_login renders
  | complete call failure =>
      cases loginStep with
      | form _ formStep => cases formStep
      | succeeded _ => exact renders
      | caught _ _ => exact renders.withIndicator false _
      | failed _ _ => exact renders
  | unmount =>
      cases loginStep with
      | form _ formStep => cases formStep
      | unmounted => cases mounted

theorem wasMounted_of_step {page next : LoginPage} {event : Event} (coherent : Coherent page)
    (stepped : system.step page event = some next) (mounted : next.mounted = true) :
    page.mounted = true := by
  cases loginStep_of_step coherent stepped with
  | form isMounted _ => exact isMounted
  | pressed isMounted _ => exact isMounted
  | succeeded _ => exact mounted
  | caught isMounted _ => exact isMounted
  | failed _ _ => exact mounted
  | unmounted => cases mounted

/-- As long as it is mounted, the page shows what the presses, taps and edits so far make
of the form, whatever requests were sent and ended meanwhile. -/
theorem page_displays_view (appHeight : ℚ) {events : List Event} {page : LoginPage}
    (ran : system.run (initial appHeight) events = some page) (mounted : page.mounted = true) :
    Displays appHeight page.isolate.store (events.foldl LoginView.next {}) := by
  have both : Coherent page ∧ (page.mounted = true →
      Renders appHeight page.isolate.store (events.foldl LoginView.next {})) := by
    refine EventSystem.run_induction
      (motive := fun events page => Coherent page ∧ (page.mounted = true →
        Renders appHeight page.isolate.store (events.foldl LoginView.next {})))
      ⟨coherent_initial appHeight, fun _ => renders_initial appHeight⟩ ?_ ran
    intro events page event next _ ⟨coherent, renders⟩ stepped
    refine ⟨(loginStep_of_step coherent stepped).coherent coherent, fun mounted => ?_⟩
    rw [List.foldl_append]
    exact renders_step coherent (renders (wasMounted_of_step coherent stepped mounted)) stepped
      mounted
  exact (both.2 mounted).toDisplays

theorem page_displays_view_failed :
    ∃ page, system.run (initial 800) [.tap .id, .edit .id "a", .edit .pw "b", .login,
        .tap .pw, .complete 0 (some (.firebaseAuthException "wrong-password"))] = some page ∧
      page.isolate.store.text .id = "a" ∧ page.isolate.store.showsClear .pw = true ∧
      page.isolate.store.bloc.appBarHeight.value? = some 96 ∧
      page.isolate.store.bloc.loginButton.value? = some true := by
  have isMounted : (system.run (initial 800) [.tap .id, .edit .id "a", .edit .pw "b", .login,
      .tap .pw, .complete 0 (some (.firebaseAuthException "wrong-password"))]).map mounted =
        some true := by
    decide +kernel
  obtain ⟨page, ran, mounted⟩ := Option.map_eq_some_iff.mp isMounted
  have displays := page_displays_view 800 ran mounted
  have low : (800 : ℚ) * (12 / 100) = 96 := by norm_num
  exact ⟨page, ran, displays.text .id, displays.showsClear .pw, low ▸ displays.appBarHeight,
    displays.isEnabled⟩

/-! ## Clear icons -/

/-- A clear icon is shown only where there is something to clear. -/
def IconsAreRight (page : LoginPage) : Prop :=
  page.mounted = true → ∀ field, page.isolate.store.showsClear field = true →
    page.isolate.store.text field ≠ ""

/-- Every clear icon that is pressed passes the tap on to its field. -/
def tapsCleared : Event → Bool
  | .clear _ withTap => withTap
  | _ => true

end LoginPage

namespace LoginView

def IconsAreRight (view : LoginView) : Prop :=
  ∀ field, view.showsClear field = true → view.text field ≠ ""

variable {view : LoginView}

theorem IconsAreRight.hide (right : view.IconsAreRight) (field : LoginField) :
    (view.icon field false).IconsAreRight := by
  intro other shown
  by_cases own : other = field
  · subst own
    simp [icon] at shown
  · exact right other (by simpa [icon, own] using shown)

/-- A text may change as long as its icon follows. -/
theorem IconsAreRight.toggle (right : view.IconsAreRight) (field : LoginField) (text : String) :
    ((view.type field text).toggleIcon field).IconsAreRight := by
  intro other shown
  by_cases own : other = field
  · subst own
    simpa [toggleIcon, icon, type] using shown
  · have before := right other (by simpa [toggleIcon, icon, type, own] using shown)
    simpa [toggleIcon, icon, type, own] using before

theorem IconsAreRight.next (right : view.IconsAreRight) {event : LoginPage.Event}
    (taps : LoginPage.tapsCleared event = true) : (view.next event).IconsAreRight := by
  cases event with
  | edit field text => exact right.toggle field text
  | select _ => exact right
  | tap field =>
      have same : view.type field (view.text field) = view := by
        rw [type, Function.update_eq_self]
      have toggled := right.toggle field (view.text field)
      rw [same] at toggled
      exact toggled
  | submit field =>
      cases field with
      | id => exact right.hide .id
      | pw => exact right.hide .pw
  | clear field withTap =>
      cases withTap with
      | false => cases taps
      | true => exact right.toggle field ""
  | tapOutside => exact (right.hide .id).hide .pw
  | login | complete _ _ | unmount => exact right

end LoginView

namespace LoginPage

theorem Displays.iconsAreRight_iff {appHeight : ℚ} {store : LoginStore} {view : LoginView}
    (displays : Displays appHeight store view) :
    view.IconsAreRight ↔ ∀ field, store.showsClear field = true → store.text field ≠ "" := by
  simp only [LoginView.IconsAreRight, displays.text, displays.showsClear]

structure RightIcons (appHeight : ℚ) (page : LoginPage) : Prop where
  coherent : Coherent page
  renders : page.mounted = true → ∃ view, Renders appHeight page.isolate.store view
  right : IconsAreRight page

/-- No icon is left over an empty field in any state of a run exactly when every press of
a clear icon reaches the field as a tap, too. -/
theorem icons_are_right (appHeight : ℚ) {events : List Event} {page : LoginPage}
    (ran : system.run (initial appHeight) events = some page) :
    system.Always IconsAreRight (initial appHeight) events ↔
      system.StepsMeet (fun _ event => tapsCleared event) (initial appHeight) events := by
  have started : RightIcons appHeight (initial appHeight) := by
    refine ⟨coherent_initial appHeight, fun _ => ⟨{}, renders_initial appHeight⟩, ?_⟩
    intro _ field shown
    cases field <;> cases shown
  refine EventSystem.always_iff_stepsMeet started (fun _ page => page.right) ?_ ?_ ran
  · intro page event next holds stepped taps
    have loginStep := loginStep_of_step holds.coherent stepped
    have renders : next.mounted = true → ∃ view, view.IconsAreRight ∧
        Renders appHeight next.isolate.store view := by
      intro mounted
      have wasMounted := wasMounted_of_step holds.coherent stepped mounted
      obtain ⟨view, before⟩ := holds.renders wasMounted
      have right := before.iconsAreRight_iff.mpr (holds.right wasMounted)
      exact ⟨_, right.next taps, renders_step holds.coherent before stepped mounted⟩
    refine ⟨loginStep.coherent holds.coherent, fun mounted => ?_, fun mounted => ?_⟩
    · obtain ⟨view, _, after⟩ := renders mounted
      exact ⟨view, after⟩
    · obtain ⟨view, right, after⟩ := renders mounted
      exact after.iconsAreRight_iff.mp right
  · intro page event next holds stepped right
    cases event with
    | clear field withTap =>
        cases withTap with
        | true => rfl
        | false =>
            -- The icon that was pressed stays, now over the empty text.
            have guarded := stepped
            simp only [system, step, Option.ite_none_right_eq_some, Option.some.injEq,
              Bool.and_eq_true] at guarded
            obtain ⟨⟨mounted, shown⟩, rfl⟩ := guarded
            obtain ⟨view, before⟩ := holds.renders mounted
            have after := renders_step holds.coherent before stepped mounted
            have stillShown : (view.next (.clear field false)).showsClear field = true :=
              (before.showsClear field).symm.trans shown
            have isEmpty : (view.next (.clear field false)).text field = "" :=
              Function.update_self _ _ _
            rw [← after.showsClear field] at stillShown
            rw [← after.text field] at isEmpty
            exact absurd isEmpty (right mounted field stillShown)
    | _ => rfl

theorem icons_are_right_tapped :
    ∃ page, system.run (initial 800) [.edit .id "a", .clear .id true] = some page ∧
      system.Always IconsAreRight (initial 800) [.edit .id "a", .clear .id true] := by
  obtain ⟨page, ran⟩ : ∃ page, system.run (initial 800) [.edit .id "a", .clear .id true] =
      some page := Option.isSome_iff_exists.mp (by decide +kernel)
  exact ⟨page, ran, (icons_are_right 800 ran).mpr (by decide +kernel)⟩

end LoginPage

end FacebookApp
