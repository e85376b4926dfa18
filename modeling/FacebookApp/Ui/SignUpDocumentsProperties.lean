import FacebookApp.Ui.LoadingPageProperties

/-!
# Documents of the app

Whose documents the sign-ups of the app write. Sign-ins may end while an account is being
created, and the handler writes to whoever is signed in when the answer comes.
-/

set_option autoImplicit false

namespace FacebookApp

open Dart Flutter

namespace LoadingPage

variable {service : FirebaseService} {appHeight : ℚ} {firebase : Firebase} {app next : LoadingPage}
  {event : Event} {events : List Event} {signUps : List SignUp}

/-- What a step that answers no sign-up leaves of documents and calls. -/
structure Untouched (app next : LoadingPage) : Prop where
  user : next.signUps.store.firebase.user = app.signUps.store.firebase.user
  activations : ∃ more, next.signUps.activations = app.signUps.activations ++ more ∧
    ∀ activation ∈ more, ∀ alertContext uid document due,
      activation ≠ .suspended (.storing alertContext uid document) due

theorem Untouched.kept (user : next.signUps.store.firebase.user = app.signUps.store.firebase.user)
    (activations : next.signUps.activations = app.signUps.activations) : Untouched app next where
  user := user
  activations := ⟨[], by rw [activations, List.append_nil], by simp⟩

theorem Untouched.create (page : Nat) (app : LoadingPage) :
    Untouched app { app with signUps := app.signUps.call (CreateButton.create page) } := by
  by_cases filled : (app.signUps.store.forms page).Filled
  · rw [SignUpRequests.call_create_filled filled]
    exact ⟨rfl, _, rfl, by simp⟩
  · rw [SignUpRequests.call_create_empty filled]
    exact ⟨rfl, _, rfl, by simp⟩

theorem Stepped.untouched (lawful : service.Laws)
    (stepped : Stepped service appHeight app event next)
    (other : ∀ call answer, event ≠ .answer call answer) : Untouched app next := by
  cases stepped with
  | delivered mounted shown =>
      have same := signUps_of_showPageFor shown
      exact .kept (by rw [same]) (by rw [same])
  | left leaving unmounted =>
      have same := signUps_of_unmountShown unmounted
      exact .kept (by rw [same]; rfl) (by rw [same]; rfl)
  | create => exact .create _ app
  | answer => exact absurd rfl (other _ _)
  | signedIn => exact .kept (lawful.user_signIn _ _) rfl
  | signedOut => exact .kept (lawful.user_signOut _) rfl
  | onLogin | onMain | elapsed | typed | signInFailed | routed => exact .kept rfl rfl

/-- An answered call is past the creation of its account. -/
theorem activations_of_answered {requests next : SignUpRequests} {call : Nat}
    {answer : SignUpAnswer}
    (answered : SignUpRequests.Answered service requests call answer next) :
    ∃ activation, next.activations = requests.activations.set call activation ∧
      call < requests.activations.length ∧
      ∀ page alertContext credentials due,
        activation ≠ .suspended (.creating page alertContext credentials) due := by
  cases answered with
  | created found | nobody found | closed found | unclosed found | refused found =>
      exact ⟨_, rfl, (List.getElem?_eq_some_iff.mp found).1, by simp⟩

/-! ## Calls that have created an account -/

/-- A call that created an account does not await it any more. -/
def Settled (signUps : List SignUp) (app : LoadingPage) : Prop :=
  ∀ signUp ∈ signUps, ∃ activation, app.signUps.activations[signUp.call]? = some activation ∧
    ∀ page alertContext credentials due,
      activation ≠ .suspended (.creating page alertContext credentials) due

theorem call_of_mem_signUpObserver {call : Nat} {answer : SignUpAnswer} {signUp : SignUp}
    (member : signUp ∈ app.signUpObserver (.answer call answer) next) : signUp.call = call := by
  cases answer with
  | storing outcome => cases member
  | creation outcome now =>
      cases outcome with
      | error error => cases member
      | ok uid =>
          simp only [signUpObserver] at member
          split at member
          · rw [List.mem_singleton.mp member]
          · cases member

theorem signUpObserver_of_other (other : ∀ call answer, event ≠ .answer call answer) :
    app.signUpObserver event next = [] := by
  cases event with
  | answer call answer => exact absurd rfl (other call answer)
  | _ => rfl

theorem Settled.step (settled : Settled signUps app) (lawful : service.Laws)
    (stepped : Stepped service appHeight app event next) :
    Settled (signUps ++ app.signUpObserver event next) next := by
  intro signUp member
  by_cases other : ∀ call answer, event ≠ .answer call answer
  · rw [signUpObserver_of_other other, List.append_nil] at member
    obtain ⟨activation, found, past⟩ := settled signUp member
    obtain ⟨more, appended, _⟩ := (stepped.untouched lawful other).activations
    refine ⟨activation, ?_, past⟩
    rw [appended, List.getElem?_append_left (List.getElem?_eq_some_iff.mp found).1, found]
  · obtain ⟨call, answer, rfl⟩ : ∃ call answer, event = .answer call answer := by
      simpa using other
    cases stepped with
    | onMain other | routed other => cases other
    | @answer call answer answered isAnswered =>
        obtain ⟨activation, replaced, bound, past⟩ := activations_of_answered isAnswered
        rw [replaced, List.getElem?_set]
        by_cases own : call = signUp.call
        · exact ⟨activation, by simp [← own, bound], past⟩
        · rw [if_neg own]
          rcases List.mem_append.mp member with earlier | new
          · exact settled signUp earlier
          · exact absurd (call_of_mem_signUpObserver new).symm own

theorem settled_of_run (lawful : service.Laws)
    (ran : (system service appHeight).run (initial appHeight firebase) events = some app) :
    Settled ((system service appHeight).observe signUpObserver (initial appHeight firebase)
      events) app := by
  refine EventSystem.run_induction (motive := fun events app => Settled
    ((system service appHeight).observe signUpObserver (initial appHeight firebase) events) app)
    (by simp [Settled]) ?_ ran
  intro events app event next reached settled stepped
  rw [EventSystem.observe_concat reached stepped]
  exact settled.step lawful (stepped_of_step stepped)

/-! ## Documents -/

namespace DocumentsAreOwn

theorem untouched (own : DocumentsAreOwn firebase signUps app) (untouched : Untouched app next) :
    DocumentsAreOwn firebase signUps next where
  underWay := by
    intro call alertContext uid document due found
    obtain ⟨more, appended, harmless⟩ := untouched.activations
    rw [appended, List.getElem?_append] at found
    split at found
    · exact own.underWay call alertContext uid document due found
    · exact absurd rfl
        (harmless _ (List.mem_of_getElem? found) alertContext uid document due)
  stored := by
    intro uid
    rw [untouched.user]
    exact own.stored uid

/-- The answered call goes on with what it wants to store, or is over. -/
theorem replaced (own : DocumentsAreOwn firebase signUps app) {more : List SignUp}
    {requests : SignUpRequests} {call : Nat}
    {activation : Activation FirebaseError SignUpFrame}
    (activations : requests.activations = app.signUps.activations.set call activation)
    (isOwn : ∀ alertContext uid document due,
      activation = .suspended (.storing alertContext uid document) due →
        { call := call, uid := uid, name := document.name } ∈ signUps ++ more)
    (stored : ∀ uid, requests.store.firebase.user uid = app.signUps.store.firebase.user uid ∨
      ∃ document, requests.store.firebase.user uid = some document ∧
        { call := call, uid := uid, name := document.name } ∈ signUps) :
    DocumentsAreOwn firebase (signUps ++ more) { app with signUps := requests } where
  underWay := by
    intro call' alertContext uid document due found
    rw [activations, List.getElem?_set] at found
    split at found
    · rename_i same
      subst same
      simp only [Option.ite_none_right_eq_some, Option.some.injEq] at found
      exact isOwn alertContext uid document due found.2
    · exact List.mem_append_left _ (own.underWay call' alertContext uid document due found)
  stored := by
    intro uid
    rcases stored uid with same | ⟨document, isStored, member⟩
    · rcases own.stored uid with initial | ⟨call', document, isStored, member⟩
      · exact .inl (same.trans initial)
      · exact .inr ⟨call', document, same.trans isStored, List.mem_append_left _ member⟩
    · exact .inr ⟨call, document, isStored, List.mem_append_left _ member⟩

/-- A call that stores its document is over, or fails to close its dialog. -/
theorem setUser (lawful : service.Laws) (own : DocumentsAreOwn firebase signUps app)
    {call alertContext due : Nat} {uid : Uid} {document : UserDocument}
    (found : app.signUps.activations[call]? =
      some (.suspended (.storing alertContext uid document) due))
    {requests : SignUpRequests} {activation : Activation FirebaseError SignUpFrame}
    (isOver : activation.frame? = none)
    (activations : requests.activations = app.signUps.activations.set call activation)
    (isSet : requests.store.firebase =
      service.setUser uid document app.signUps.store.firebase) (more : List SignUp) :
    DocumentsAreOwn firebase (signUps ++ more) { app with signUps := requests } := by
  refine own.replaced activations ?_ fun other => ?_
  · rintro alertContext uid document due rfl
    cases isOver
  · rw [isSet, lawful.user_setUser]
    by_cases same : other = uid
    · subst same
      exact .inr ⟨document, Function.update_self _ _ _,
        own.underWay call alertContext _ _ _ found⟩
    · exact .inl (Function.update_of_ne same _ _)

/-- A call whose account could not be created goes on with that of somebody else. -/
theorem answered_iff (lawful : service.Laws) (own : DocumentsAreOwn firebase signUps app)
    (settled : Settled signUps app) {call : Nat} {answer : SignUpAnswer}
    {requests : SignUpRequests}
    (answered : SignUpRequests.Answered service app.signUps call answer requests) :
    DocumentsAreOwn firebase
        (signUps ++ app.signUpObserver (.answer call answer) { app with signUps := requests })
        { app with signUps := requests } ↔
      app.failsForNobody (.answer call answer) = true := by
  cases answered with
  | @created page alertContext credentials due creation now uid found signedIn =>
      have sameUser := CreateButton.user_afterCreation lawful credentials
        app.signUps.store.firebase creation
      rw [CreateButton.currentUser_afterCreation lawful] at signedIn
      cases creation with
      | ok uid' =>
          cases signedIn
          refine ⟨fun _ => rfl, fun _ => own.replaced rfl ?_ fun uid => .inl (by rw [sameUser])⟩
          intro alertContext uid document due storing
          cases storing
          simp [signUpObserver, found]
      | error error =>
          have somebody : app.failsForNobody (.answer call (.creation (.error error) now)) =
              false := by
            have user : app.currentUser = some uid := signedIn
            simp [failsForNobody, user]
          rw [somebody]
          refine ⟨fun wrong => ?_, by simp⟩
          have bound := (List.getElem?_eq_some_iff.mp found).1
          have member := wrong.underWay call alertContext uid
            { name := (app.signUps.store.forms page).name, date := now } app.signUps.now
            (List.getElem?_set_self bound)
          rcases List.mem_append.mp member with earlier | new
          · obtain ⟨activation, isActivation, past⟩ := settled _ earlier
            rw [found] at isActivation
            cases isActivation
            exact absurd rfl (past page alertContext credentials due)
          · cases new
  | @nobody page alertContext credentials due creation now found nobody =>
      have sameUser := CreateButton.user_afterCreation lawful credentials
        app.signUps.store.firebase creation
      rw [CreateButton.currentUser_afterCreation lawful] at nobody
      cases creation with
      | ok uid => cases nobody
      | error error =>
          have isNone : app.currentUser = none := nobody
          exact ⟨fun _ => by simp [failsForNobody, isNone], fun _ =>
            own.replaced rfl nofun fun uid => .inl (by rw [sameUser])⟩
  | closed found can => exact ⟨fun _ => rfl, fun _ => own.setUser lawful found rfl rfl rfl _⟩
  | unclosed found cannot =>
      exact ⟨fun _ => rfl, fun _ => own.setUser lawful found rfl rfl rfl _⟩
  | refused found => exact ⟨fun _ => rfl, fun _ => own.replaced rfl nofun fun _ => .inl rfl⟩

theorem step_iff (lawful : service.Laws) (own : DocumentsAreOwn firebase signUps app)
    (settled : Settled signUps app) (stepped : Stepped service appHeight app event next) :
    DocumentsAreOwn firebase (signUps ++ app.signUpObserver event next) next ↔
      app.failsForNobody event = true := by
  by_cases other : ∀ call answer, event ≠ .answer call answer
  · rw [signUpObserver_of_other other, List.append_nil]
    have harmless : app.failsForNobody event = true := by
      cases event with
      | answer call answer => exact absurd rfl (other call answer)
      | _ => rfl
    exact ⟨fun _ => harmless, fun _ => own.untouched (stepped.untouched lawful other)⟩
  · obtain ⟨call, answer, rfl⟩ : ∃ call answer, event = .answer call answer := by
      simpa using other
    cases stepped with
    | onMain other | routed other => cases other
    | answer answered => exact own.answered_iff lawful settled answered

end DocumentsAreOwn

/-- All along a run, no sign-up stores or wants to store a document for an account that it
did not create itself, exactly if nobody is signed in whenever an account cannot be
created. -/
theorem documents_are_own_iff (lawful : service.Laws)
    (ran : (system service appHeight).run (initial appHeight firebase) events = some app) :
    (∀ front state, front <+: events →
      (system service appHeight).run (initial appHeight firebase) front = some state →
      DocumentsAreOwn firebase ((system service appHeight).observe signUpObserver
        (initial appHeight firebase) front) state) ↔
      (system service appHeight).StepsMeet (fun app event => app.failsForNobody event = true)
        (initial appHeight firebase) events := by
  refine EventSystem.forall_prefix_iff_stepsMeet ?_ ?_ ran
  · exact ⟨by simp [initial], fun _ => .inl rfl⟩
  · intro front state event next reached own stepped
    rw [EventSystem.observe_concat reached stepped]
    exact own.step_iff lawful (settled_of_run lawful reached) (stepped_of_step stepped)

/-- A sign-in ends well while an account is being created that exists already. -/
def signInDuringSignUp : List Event :=
  [.login (.edit .id "me"), .login (.edit .pw "secret"), .login .login,
    .openNewAccount, .type { id := "you", pw := "secret", name := "You" }, .create,
    .signInAnswered 0 0 (.ok "uid"),
    .answer 0 (.creation (.error (.firebaseAuthException "email-already-in-use")) 0)]

theorem documents_are_own_iff_overtaken : ∃ app,
    (system .inMemory 0).run (initial 0 .noAccounts) signInDuringSignUp = some app ∧
      ¬ ∀ front state, front <+: signInDuringSignUp →
        (system .inMemory 0).run (initial 0 .noAccounts) front = some state →
        DocumentsAreOwn .noAccounts
          ((system .inMemory 0).observe signUpObserver (initial 0 .noAccounts) front) state := by
  obtain ⟨app, ran⟩ : ∃ app,
    (system .inMemory 0).run (initial 0 .noAccounts) signInDuringSignUp = some app := ⟨_, rfl⟩
  refine ⟨app, ran, fun own => ?_⟩
  have harmless := (documents_are_own_iff FirebaseService.inMemory_laws ran).mp own
  revert harmless
  decide +kernel

/-! ## Names -/

/-- A call that awaits its account finds the name in the form that it was pressed with. -/
def NamesArePressed (presses : List (Nat × String)) (app : LoadingPage) : Prop :=
  ∀ (call page alertContext due : Nat) (credentials : Credentials),
    app.signUps.activations[call]? =
      some (.suspended (.creating page alertContext credentials) due) →
        (call, (app.signUps.store.forms page).name) ∈ presses

namespace NamesArePressed

variable {presses : List (Nat × String)}

theorem kept (pressed : NamesArePressed presses app)
    (forms : next.signUps.store.forms = app.signUps.store.forms)
    (activations : next.signUps.activations = app.signUps.activations) :
    NamesArePressed presses next := by
  intro call page alertContext due credentials found
  rw [forms]
  exact pressed _ _ _ _ _ (activations ▸ found)

theorem typed (pressed : NamesArePressed presses app) {page : Nat} {form : NewAccountForm}
    (isTop : app.navigator.routes.head? = some (page, .newAccountPage))
    (keeps : app.keepsNames (.type form) = true) :
    NamesArePressed presses { app with
      signUps := { app.signUps with store := app.signUps.store.withForm page form } } := by
  intro call other alertContext due credentials found
  have before := pressed _ _ _ _ _ found
  by_cases same : other = page
  · subst same
    have isPending := Isolate.mem_pending_iff.mpr ⟨call, due, found⟩
    simp only [keepsNames, isTop, Bool.or_eq_true, beq_iff_eq, Bool.not_eq_true',
      List.any_eq_false] at keeps
    rcases keeps with sameName | idle
    · simpa [NewAccountStore.withForm, sameName] using before
    · exact absurd (by simp [awaitsAccountOf]) (idle _ isPending)
  · simpa [NewAccountStore.withForm, same] using before

theorem create (pressed : NamesArePressed presses app) {page : Nat}
    (isTop : app.navigator.routes.head? = some (page, .newAccountPage)) :
    NamesArePressed (presses ++ app.pressObserver .create next)
      { app with signUps := app.signUps.call (CreateButton.create page) } := by
  intro call other alertContext due credentials found
  rw [SignUpRequests.forms_create]
  rcases SignUpRequests.suspended_of_create found with before | ⟨_, isLast, new⟩
  · exact List.mem_append_left _ (pressed _ _ _ _ _ before)
  · cases new
    refine List.mem_append_right _ ?_
    simp [pressObserver, isTop, isLast]

theorem answered (pressed : NamesArePressed presses app) {call : Nat} {answer : SignUpAnswer}
    {signUps : SignUpRequests}
    (answered : SignUpRequests.Answered service app.signUps call answer signUps) :
    NamesArePressed presses { app with signUps := signUps } := by
  obtain ⟨activation, replaced, bound, past⟩ := activations_of_answered answered
  have forms : signUps.store.forms = app.signUps.store.forms := by cases answered <;> rfl
  intro call' page alertContext due credentials found
  rw [forms]
  rw [replaced, List.getElem?_set] at found
  split at found
  · simp only [Option.some.injEq] at found
    exact absurd found (past page alertContext credentials due)
  · exact pressed _ _ _ _ _ found

theorem step (pressed : NamesArePressed presses app) (keeps : app.keepsNames event = true)
    (stepped : Stepped service appHeight app event next) :
    NamesArePressed (presses ++ app.pressObserver event next) next := by
  have more : NamesArePressed presses next →
      NamesArePressed (presses ++ app.pressObserver event next) next :=
    fun kept _ _ _ _ _ found => List.mem_append_left _ (kept _ _ _ _ _ found)
  cases stepped with
  | delivered mounted shown =>
      have same := signUps_of_showPageFor shown
      exact more (pressed.kept (by rw [same]) (by rw [same]))
  | left leaving unmounted =>
      have same := signUps_of_unmountShown unmounted
      exact more (pressed.kept (by rw [same]; rfl) (by rw [same]; rfl))
  | create isTop => exact pressed.create isTop
  | typed isTop => exact more (pressed.typed isTop keeps)
  | answer answered => exact more (pressed.answered answered)
  | onLogin | onMain | elapsed | signedIn | signInFailed | routed | signedOut =>
      exact more (pressed.kept rfl rfl)

end NamesArePressed

end LoadingPage

end FacebookApp
