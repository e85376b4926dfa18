import FacebookApp.Ui.LoadingPageProperties

/-!
# The page for the user

Which page the loading page shows for the users that are announced, and how many pages
of each kind there are.
-/

set_option autoImplicit false

namespace FacebookApp

open Dart Flutter

/-! ## Mounted pages -/

theorem LoginPage.mounted_of_step {page next : LoginPage} {event : LoginPage.Event}
    (keeps : event ≠ .unmount) (stepped : LoginPage.system.step page event = some next) :
    next.mounted = page.mounted := by
  cases event with
  | unmount => exact absurd rfl keeps
  | complete call failure =>
      simp only [LoginPage.system, LoginPage.step, Option.map_eq_some_iff] at stepped
      obtain ⟨isolate, _, rfl⟩ := stepped
      rfl
  | edit | select | tap | submit | clear | tapOutside | login =>
      simp only [LoginPage.system, LoginPage.step, Option.ite_none_right_eq_some,
        Option.some.injEq] at stepped
      obtain ⟨_, rfl⟩ := stepped
      rfl

theorem MainPage.mounted_pageTransition (index : Int) (alarmToWatch : Bool)
    (data : Option AlarmData) (page : MainPage) :
    (page.pageTransition index alarmToWatch data).mounted = page.mounted := by
  unfold MainPage.pageTransition
  split <;> rfl

theorem MainPage.mounted_of_step {page next : MainPage} {event : MainPage.Event}
    (keeps : event ≠ .dispose) (stepped : MainPage.system.step page event = some next) :
    next.mounted = page.mounted := by
  cases event with
  | dispose => exact absurd rfl keeps
  | pageTransition index alarmToWatch data =>
      simp only [MainPage.system, MainPage.step, Option.ite_none_right_eq_some,
        Option.some.injEq] at stepped
      obtain ⟨_, rfl⟩ := stepped
      exact MainPage.mounted_pageTransition index alarmToWatch data page
  | resume call =>
      simp only [MainPage.system, MainPage.step, Option.map_eq_some_iff] at stepped
      obtain ⟨bloc, _, rfl⟩ := stepped
      rfl
  | elapse milliseconds =>
      cases stepped
      rfl

theorem LoginPage.exists_unmounted (page : LoginPage) (mounted : page.mounted = true) :
    ∃ next, LoginPage.system.step page .unmount = some next ∧ next.mounted = false :=
  ⟨_, if_pos mounted, rfl⟩

theorem MainPage.exists_disposed (page : MainPage) (mounted : page.mounted = true) :
    ∃ next, MainPage.system.step page .dispose = some next ∧ next.mounted = false :=
  ⟨_, if_pos mounted, rfl⟩

namespace LoadingPage

/-! ## Users in a row -/

theorem zip_concat_self {Entry : Type} (first : Entry) (entries : List Entry) (last : Entry) :
    (first :: (entries ++ [last])).zip (entries ++ [last]) =
      (first :: entries).zip entries ++ [((first :: entries).getLast (by simp), last)] := by
  induction entries generalizing first with
  | nil => rfl
  | cons entry entries ih => simp [ih]

theorem changesTo_concat (signedIn : Bool) (users : List (Option Uid)) (user : Option Uid) :
    changesTo signedIn (users ++ [user]) =
      changesTo signedIn users +
        if (users.getLast?.join.isSome, user.isSome) = (!signedIn, signedIn) then 1 else 0 := by
  have last : (false :: users.map Option.isSome).getLast (by simp) =
      users.getLast?.join.isSome := by
    rcases List.eq_nil_or_concat users with rfl | ⟨front, back, rfl⟩
    · rfl
    · simp
  simp only [changesTo, List.map_append, List.map_cons, List.map_nil, zip_concat_self,
    List.count_append, last, List.count_singleton, beq_iff_eq]

/-! ## The gate -/

/-- The pages fit the users that the builder got. -/
structure Gate (app : LoadingPage) (users : List (Option Uid)) : Prop where
  shown : app.showsMain = users.getLast?.join.isSome
  loginPages : app.loginPages.map (·.mounted) =
    List.replicate (changesTo false users) false ++ [!app.showsMain && app.isMounted]
  hidden : app.showsMain = false →
    app.mainPages.map (·.mounted) = List.replicate (changesTo true users) false
  mainPages : app.showsMain = true → ∃ earlier, changesTo true users = earlier + 1 ∧
    app.mainPages.map (·.mounted) = List.replicate earlier false ++ [app.isMounted]

theorem unmountShown_withNavigator (navigator : Navigator AppRoute) (app : LoadingPage) :
    (app.withNavigator navigator).unmountShown =
      app.unmountShown.map fun unmounted => unmounted.withNavigator navigator := by
  unfold unmountShown
  cases shown : app.showsMain <;>
    simp only [withNavigator, shown, if_true, Bool.false_eq_true, if_false, Option.map_map] <;> rfl

namespace Gate

variable {app next : LoadingPage} {users : List (Option Uid)} {user : Option Uid}

theorem congr (gate : app.Gate users) (showsMain : next.showsMain = app.showsMain)
    (isMounted : next.isMounted = app.isMounted)
    (loginPages : next.loginPages.map (·.mounted) = app.loginPages.map (·.mounted))
    (mainPages : next.mainPages.map (·.mounted) = app.mainPages.map (·.mounted)) :
    next.Gate users where
  shown := showsMain ▸ gate.shown
  loginPages := by rw [loginPages, showsMain, isMounted]; exact gate.loginPages
  hidden := by rw [mainPages, showsMain]; exact gate.hidden
  mainPages := by rw [mainPages, showsMain, isMounted]; exact gate.mainPages

/-- The page that is shown is unmounted, and then none is mounted. -/
theorem unmounted (gate : app.Gate users) (mounted : app.isMounted = true) :
    ∃ next, app.unmountShown = some next ∧ next.showsMain = app.showsMain ∧
      next.loginPages.map (·.mounted) = List.replicate (changesTo false users + 1) false ∧
      next.mainPages.map (·.mounted) = List.replicate (changesTo true users) false := by
  have logins := gate.loginPages
  rw [mounted, Bool.and_true] at logins
  unfold unmountShown
  cases shown : app.showsMain with
  | true =>
      rw [shown] at logins
      obtain ⟨earlier, count, mains⟩ := gate.mainPages shown
      rw [mounted] at mains
      obtain ⟨pages, stepped, disposed⟩ :=
        EventSystem.exists_stepAt_last mains MainPage.exists_disposed
      refine ⟨{ app with mainPages := pages }, by simp [stepped, shown], shown, ?_, ?_⟩
      · rw [List.replicate_succ']
        exact logins
      · rw [count, List.replicate_succ']
        exact disposed
  | false =>
      rw [shown] at logins
      obtain ⟨pages, stepped, unmounted⟩ :=
        EventSystem.exists_stepAt_last logins LoginPage.exists_unmounted
      refine ⟨{ app with loginPages := pages }, by simp [stepped, shown], shown, ?_, gate.hidden shown⟩
      rw [List.replicate_succ']
      exact unmounted

/-- The shown page stays when it fits the user. -/
theorem kept (gate : app.Gate users) (fits : user.isSome = app.showsMain) :
    app.Gate (users ++ [user]) := by
  have same : ∀ signedIn, changesTo signedIn (users ++ [user]) = changesTo signedIn users := by
    intro signedIn
    rw [changesTo_concat, ← gate.shown, fits]
    cases signedIn <;> cases app.showsMain <;> rfl
  exact {
    shown := by simp [fits]
    loginPages := by rw [same]; exact gate.loginPages
    hidden := by rw [same]; exact gate.hidden
    mainPages := by rw [same]; exact gate.mainPages }

/-- The page that does not fit is unmounted, and one that fits is mounted. -/
theorem shows {appHeight : ℚ} (gate : app.Gate users) (mounted : app.isMounted = true)
    (shown : app.showPageFor appHeight user = some next) : next.Gate (users ++ [user]) := by
  have stillMounted : next.isMounted = true := by
    rw [isMounted, navigator, signUps_of_showPageFor shown]
    exact mounted
  unfold showPageFor at shown
  by_cases fits : user.isSome = app.showsMain
  · rw [if_pos fits, Option.some.injEq] at shown
    exact shown ▸ gate.kept fits
  · obtain ⟨unmounted, isUnmounted, same, logins, mains⟩ := gate.unmounted mounted
    rw [if_neg fits, isUnmounted, Option.map_some, Option.some.injEq] at shown
    have before := gate.shown
    cases isSome : user.isSome with
    | true =>
        have hidden : app.showsMain = false := by simpa [isSome] using fits
        rw [hidden] at before
        simp only [isSome, if_true] at shown
        have more : changesTo true (users ++ [user]) = changesTo true users + 1 := by
          simp [changesTo_concat, ← before, isSome]
        have fewer : changesTo false (users ++ [user]) = changesTo false users := by
          simp [changesTo_concat, isSome]
        subst shown
        exact {
          shown := by simp [isSome]
          loginPages := by
            rw [fewer]
            exact logins.trans List.replicate_succ'
          hidden := by simp
          mainPages := fun _ => ⟨_, more, by
            rw [stillMounted]
            simp [mains, MainPage.initial]⟩ }
    | false =>
        have main : app.showsMain = true := by simpa [isSome] using fits
        rw [main] at before
        simp only [isSome, Bool.false_eq_true, if_false] at shown
        have same : changesTo true (users ++ [user]) = changesTo true users := by
          simp [changesTo_concat, isSome]
        have more : changesTo false (users ++ [user]) = changesTo false users + 1 := by
          simp [changesTo_concat, ← before, isSome]
        subst shown
        exact {
          shown := by simp [isSome]
          loginPages := by
            rw [stillMounted]
            simp [more, logins, LoginPage.initial]
          hidden := fun _ => by rw [same]; exact mains
          mainPages := by simp }

/-- With the loading page goes the page that it shows. -/
theorem left (gate : app.Gate users) (leaving : 0 ∈ app.navigator.leaving)
    (unmounted : (app.withNavigator (app.navigator.settle 0)).unmountShown = some next) :
    next.Gate users := by
  have mounted : app.isMounted = true := by simp [isMounted, Navigator.isMounted, leaving]
  obtain ⟨gone, isGone, same, logins, mains⟩ := gate.unmounted mounted
  have isUnmounted : next.isMounted = false := by
    rw [LoadingPage.isMounted, navigator, signUps_of_unmountShown unmounted]
    exact Navigator.isMounted_settle_self leaving
  rw [unmountShown_withNavigator, isGone, Option.map_some, Option.some.injEq] at unmounted
  subst unmounted
  exact {
    shown := same.trans gate.shown
    loginPages := by
      rw [isUnmounted, Bool.and_false]
      exact logins.trans List.replicate_succ'
    hidden := fun _ => mains
    mainPages := fun shown => by
      obtain ⟨earlier, count, _⟩ := gate.mainPages (same ▸ shown)
      refine ⟨earlier, count, ?_⟩
      rw [isUnmounted, ← List.replicate_succ', ← count]
      exact mains }

end Gate

variable {service : FirebaseService} {appHeight : ℚ} {firebase : Firebase} {events : List Event}
  {app next : LoadingPage} {users : List (Option Uid)}

theorem isMounted_showAlerts (contents : List String) (app : LoadingPage) :
    (app.showAlerts contents).isMounted = app.isMounted :=
  showAlerts_induction (motive := fun navigator => navigator.isMounted 0 = app.isMounted)
    contents rfl fun navigator _ holds =>
      (Navigator.isMounted_push_of_lt navigator.opened_pos _).trans holds

theorem isMounted_of_routed {navigator after : Navigator AppRoute}
    (routed : Routed navigator after) : after.isMounted 0 = navigator.isMounted 0 := by
  cases routed with
  | kept => rfl
  | pushed isTop opens => exact Navigator.isMounted_push_of_lt navigator.opened_pos _
  | popped => exact Navigator.isMounted_pop navigator 0
  | settled other => exact Navigator.isMounted_settle_of_ne other.symm

theorem isMounted_create (page : Nat) (app : LoadingPage) :
    isMounted { app with signUps := app.signUps.call (CreateButton.create page) } =
      app.isMounted := by
  by_cases filled : (app.signUps.store.forms page).Filled
  · rw [SignUpRequests.call_create_filled filled]
    exact Navigator.isMounted_push_of_lt app.navigator.opened_pos _
  · rw [SignUpRequests.call_create_empty filled]
    exact Navigator.isMounted_push_of_lt app.navigator.opened_pos _

theorem isMounted_answered {call : Nat} {answer : SignUpAnswer} {signUps : SignUpRequests}
    (answered : SignUpRequests.Answered service app.signUps call answer signUps) :
    signUps.store.navigator.isMounted 0 = app.isMounted := by
  cases answered with
  | closed found can => exact Navigator.isMounted_pop _ 0
  | created | nobody | unclosed | refused => rfl

theorem map_mounted_login {page : Nat} {event : LoginPage.Event} {before after : LoginPage}
    (keeps : event ≠ .unmount) (found : app.loginPages[page]? = some before)
    (stepped : LoginPage.system.step before event = some after) :
    (app.loginPages.set page after).map (·.mounted) = app.loginPages.map (·.mounted) :=
  EventSystem.map_stepAt _ (fun _ _ => LoginPage.mounted_of_step keeps)
    (EventSystem.stepAt_eq_some_iff.mpr ⟨before, after, found, stepped, rfl⟩)

/-- An event that shows no page leaves the gate to the users before. -/
theorem Gate.other {event : Event} (other : event.isOther = true) (gate : next.Gate users) :
    next.Gate (users ++ app.userObserver event next) := by
  have silent : app.userObserver event next = [] := by
    cases event with
    | authStateChanged user => cases other
    | _ => rfl
  rwa [silent, List.append_nil]

theorem Stepped.gate {event : Event} (stepped : Stepped service appHeight app event next)
    (gate : app.Gate users) : next.Gate (users ++ app.userObserver event next) := by
  cases stepped with
  | delivered mounted shown => exact gate.shows mounted shown
  | @onLogin event loginPages isUsers stepped =>
      have keeps : event ≠ .unmount := by
        rintro rfl
        cases isUsers
      have mounted := EventSystem.map_stepAt (fun page : LoginPage => page.mounted)
        (fun _ _ => LoginPage.mounted_of_step keeps) stepped
      exact .other rfl (gate.congr rfl rfl mounted rfl)
  | signedIn found stepped =>
      have mounted := map_mounted_login (by simp) found stepped
      exact .other rfl (gate.congr rfl (isMounted_showAlerts _ _) mounted rfl)
  | signInFailed found stepped =>
      have mounted := map_mounted_login (by simp) found stepped
      exact .other rfl (gate.congr rfl (isMounted_showAlerts _ _) mounted rfl)
  | onMain other keeps stepped =>
      have mounted := EventSystem.map_stepAt (fun page : MainPage => page.mounted)
        (fun _ _ => MainPage.mounted_of_step keeps) stepped
      exact .other other (gate.congr rfl rfl rfl mounted)
  | elapsed milliseconds => exact .other rfl (gate.congr rfl rfl rfl (by simp))
  | typed isTop => exact .other rfl (gate.congr rfl rfl rfl rfl)
  | routed other routed =>
      exact .other other (gate.congr rfl (isMounted_of_routed routed) rfl rfl)
  | left leaving unmounted => exact .other rfl (gate.left leaving unmounted)
  | @create page isTop => exact .other rfl (gate.congr rfl (isMounted_create page app) rfl rfl)
  | answer answered =>
      simp only [userObserver, List.append_nil]
      exact gate.congr rfl (isMounted_answered answered) rfl rfl
  | signedOut => exact .other rfl (gate.congr rfl rfl rfl rfl)

end LoadingPage

end FacebookApp
