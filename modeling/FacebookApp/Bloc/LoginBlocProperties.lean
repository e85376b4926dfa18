import FacebookApp.Bloc.LoginBloc

/-!
# Properties of the login bloc

The programs of an open bloc either leave the texts, the login button and the
indicator alone, or recompute the login button from the texts.
-/

set_option autoImplicit false

namespace FacebookApp

open Dart

namespace LoginBloc

variable {External : Type}

structure Open (bloc : LoginBloc) : Prop where
  id : bloc.id.isClosed = false
  pw : bloc.pw.isClosed = false
  appBarHeight : bloc.appBarHeight.isClosed = false
  idButton : bloc.idButton.isClosed = false
  pwButton : bloc.pwButton.isClosed = false
  loginButton : bloc.loginButton.isClosed = false
  indicator : bloc.indicator.isClosed = false

theorem open_create (appHeight : ℚ) : (create appHeight).Open :=
  ⟨rfl, rfl, rfl, rfl, rfl, rfl, rfl⟩

/-- Only the height of the app bar and the clear icons change. -/
structure Quiet (before after : LoginBloc) : Prop where
  id : after.id = before.id
  pw : after.pw = before.pw
  loginButton : after.loginButton = before.loginButton
  indicator : after.indicator = before.indicator
  isOpen : after.Open

def enabled? (bloc : LoginBloc) : Option Bool :=
  match bloc.id.value?, bloc.pw.value? with
  | some id, some pw => some (!id.isEmpty && !pw.isEmpty)
  | _, _ => none

/-- The login button is recomputed, and otherwise the change is quiet. -/
structure Toggled (before after : LoginBloc) : Prop where
  id : after.id = before.id
  pw : after.pw = before.pw
  loginButton : after.loginButton.value? =
    match before.enabled? with
    | some enabled => some enabled
    | none => before.loginButton.value?
  indicator : after.indicator = before.indicator
  isOpen : after.Open

theorem Quiet.trans {first second third : LoginBloc} (one : Quiet first second)
    (two : Quiet second third) : Quiet first third :=
  ⟨two.id.trans one.id, two.pw.trans one.pw, two.loginButton.trans one.loginButton,
    two.indicator.trans one.indicator, two.isOpen⟩

theorem Quiet.toggled {first second third : LoginBloc} (one : Quiet first second)
    (two : Toggled second third) : Toggled first third := by
  refine ⟨two.id.trans one.id, two.pw.trans one.pw, ?_, two.indicator.trans one.indicator,
    two.isOpen⟩
  rw [two.loginButton, enabled?, enabled?, one.id, one.pw, one.loginButton]

theorem Toggled.quiet {first second third : LoginBloc} (one : Toggled first second)
    (two : Quiet second third) : Toggled first third :=
  ⟨two.id.trans one.id, two.pw.trans one.pw, two.loginButton ▸ one.loginButton,
    two.indicator.trans one.indicator, two.isOpen⟩

/-- The program succeeds and its effect is as described. -/
def Does (effect : LoginBloc → LoginBloc → Prop) (program : Program External LoginBloc Unit)
    (bloc : LoginBloc) : Prop :=
  ∃ after, program.run bloc = .ok () after ∧ effect bloc after

theorem does_andThen {effect effect' effect'' : LoginBloc → LoginBloc → Prop}
    {program program' : Program External LoginBloc Unit} {bloc : LoginBloc}
    (first : Does effect program bloc)
    (second : ∀ after, effect bloc after → Does effect' program' after)
    (both : ∀ middle after, effect bloc middle → effect' middle after → effect'' bloc after) :
    Does effect'' (do program; program') bloc := by
  obtain ⟨middle, ran, done⟩ := first
  obtain ⟨after, ran', done'⟩ := second middle done
  refine ⟨after, ?_, both middle after done done'⟩
  simp only [EStateM.run_bind, ran]
  exact ran'

variable {bloc : LoginBloc}

theorem does_updateIdButton (isOpen : bloc.Open) (visible : Bool) :
    Does Quiet (updateIdButton visible : Program External LoginBloc Unit) bloc :=
  ⟨_, Cell.run_add_open idButtonCell isOpen.idButton visible, rfl, rfl, rfl, rfl, { isOpen with }⟩

theorem does_updatePwButton (isOpen : bloc.Open) (visible : Bool) :
    Does Quiet (updatePwButton visible : Program External LoginBloc Unit) bloc :=
  ⟨_, Cell.run_add_open pwButtonCell isOpen.pwButton visible, rfl, rfl, rfl, rfl, { isOpen with }⟩

theorem does_setAppBarHeightMax (isOpen : bloc.Open) :
    Does Quiet (setAppBarHeightMax : Program External LoginBloc Unit) bloc :=
  ⟨_, Cell.run_add_open appBarHeightCell isOpen.appBarHeight bloc.maxAppBarHeight,
    rfl, rfl, rfl, rfl, { isOpen with }⟩

theorem does_setAppBarHeightMin (isOpen : bloc.Open) :
    Does Quiet (setAppBarHeightMin : Program External LoginBloc Unit) bloc :=
  ⟨_, Cell.run_add_open appBarHeightCell isOpen.appBarHeight bloc.minAppBarHeight,
    rfl, rfl, rfl, rfl, { isOpen with }⟩

theorem does_toggleIdButton (isOpen : bloc.Open) {text : String}
    (seen : bloc.id.value? = some text) :
    Does Quiet (toggleIdButton : Program External LoginBloc Unit) bloc := by
  have read : (idCell.value : Program External LoginBloc String).run bloc = .ok text bloc :=
    Cell.run_value idCell seen
  simp only [Does, toggleIdButton, toggleButton, EStateM.run_bind, read]
  split
  · exact does_updateIdButton isOpen false
  · exact does_updateIdButton isOpen true

theorem does_togglePwButton (isOpen : bloc.Open) {text : String}
    (seen : bloc.pw.value? = some text) :
    Does Quiet (togglePwButton : Program External LoginBloc Unit) bloc := by
  have read : (pwCell.value : Program External LoginBloc String).run bloc = .ok text bloc :=
    Cell.run_value pwCell seen
  simp only [Does, togglePwButton, toggleButton, EStateM.run_bind, read]
  split
  · exact does_updatePwButton isOpen false
  · exact does_updatePwButton isOpen true

theorem does_updateLoginButton (isOpen : bloc.Open) (enabled : Bool)
    (isEnabled : bloc.enabled? = some enabled) :
    Does Toggled (updateLoginButton enabled : Program External LoginBloc Unit) bloc := by
  refine ⟨_, Cell.run_add_open loginButtonCell isOpen.loginButton enabled, rfl, rfl, ?_, rfl,
    { isOpen with }⟩
  simp only [isEnabled]
  exact BehaviorSubject.value?_emit _ _

theorem does_toggleLoginButton (isOpen : bloc.Open) :
    Does Toggled (toggleLoginButton : Program External LoginBloc Unit) bloc := by
  have skipped (unseen : bloc.enabled? = none) : Toggled bloc bloc :=
    ⟨rfl, rfl, by rw [unseen], rfl, isOpen⟩
  cases id : bloc.id.value? with
  | none =>
      refine ⟨bloc, ?_, skipped (by simp [enabled?, id])⟩
      simp [toggleLoginButton, BehaviorSubject.hasValue, id]
  | some idText =>
      cases pw : bloc.pw.value? with
      | none =>
          refine ⟨bloc, ?_, skipped (by simp [enabled?, id, pw])⟩
          simp [toggleLoginButton, BehaviorSubject.hasValue, id, pw]
      | some pwText =>
          have readId : (idCell.value : Program External LoginBloc String).run bloc =
              .ok idText bloc := Cell.run_value idCell id
          have readPw : (pwCell.value : Program External LoginBloc String).run bloc =
              .ok pwText bloc := Cell.run_value pwCell pw
          simp only [Does, toggleLoginButton, EStateM.run_bind, EStateM.run_get,
            BehaviorSubject.hasValue, id, pw, Option.isSome_some, Bool.and_self, if_true,
            readId, readPw]
          split
          · rename_i filled
            exact does_updateLoginButton isOpen true (by simp [enabled?, id, pw, filled])
          · rename_i lacking
            exact does_updateLoginButton isOpen false (by
              simpa [enabled?, id, pw] using lacking)

theorem does_onUnfocus (isOpen : bloc.Open) :
    Does Toggled (onUnfocus : Program External LoginBloc Unit) bloc := by
  refine does_andThen (does_setAppBarHeightMax isOpen) (fun second one => ?_)
    (fun _ _ => Quiet.toggled)
  refine does_andThen (does_updateIdButton one.isOpen false) (fun third two => ?_)
    (fun _ _ => Quiet.toggled)
  refine does_andThen (does_updatePwButton two.isOpen false) (fun fourth three => ?_)
    (fun _ _ => Quiet.toggled)
  exact does_toggleLoginButton three.isOpen

end LoginBloc

end FacebookApp
