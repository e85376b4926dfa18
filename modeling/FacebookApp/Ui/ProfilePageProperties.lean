import FacebookApp.Ui.ProfilePage

/-!
# Properties of the profile page

The body is one frame behind the header. A build of the header fails only for a document
without a name, never because the bloc has been closed.
-/

set_option autoImplicit false

namespace FacebookApp

open Dart Flutter

namespace ProfilePage

variable {snapshots : Snapshots} {events : List Event} {page next : ProfilePage}

/-- What a frame of an open page does. -/
inductive Built (page : ProfilePage) (userName : Option String) :
    Option UserSnapshot → ProfilePage → Prop
  | unbuilt : Built page userName none { page with userName }
  | quiet {snapshot : UserSnapshot} {header : NameWidget}
      (nameless : ∀ name, header ≠ .text name) (present : snapshot ≠ .document none) :
      Built page userName (some snapshot) { page with header, userName }
  | named {name : String} : Built page userName (some (.document (some name))) { page with
      bloc := { page.bloc with userName := page.bloc.userName.emit name }
      header := .text name
      userName }
  | failed : Built page userName (some (.document none))
      { page with header := .errorWidget, userName, failures := page.failures + 1 }

theorem built_of_open (snapshots : Snapshots) (isOpen : page.bloc.userName.isClosed = false)
    (snapshot : Option UserSnapshot) :
    Built page (snapshots.later page.bloc.userName page.userName) snapshot
      (page.frame snapshots snapshot) := by
  rcases snapshot with _ | _ | _ | _ | _ | name
  · exact .unbuilt
  · exact .quiet nofun nofun
  · exact .quiet nofun nofun
  · exact .quiet nofun nofun
  · exact .failed
  · have published : (ProfileBloc.updateUserName name).run page.bloc =
        .ok () { page.bloc with userName := page.bloc.userName.emit name } :=
      Cell.run_add_open ProfileBloc.userNameCell isOpen name
    simp only [frame, buildHeader, EStateM.run_bind, published]
    exact .named

theorem headerNames_nameless {event : Event} (nameless : ∀ name, next.header ≠ .text name) :
    headerNames page event next = [] := by
  unfold headerNames
  split
  · rename_i isText
    exact absurd isText (nameless _)
  · rfl

/-- The last name that the header has shown is the one that the bloc published last, and
so is a name that the header still shows. -/
structure Kept (snapshots : Snapshots) (events : List Event) (page : ProfilePage) : Prop where
  isOpen : page.bloc.userName.isClosed = !page.mounted
  userName : page.bloc.userName.value? =
    ((system snapshots).observe headerNames (initial snapshots) events).getLast?
  shown : ∀ name, page.header = .text name → page.bloc.userName.value? = some name
  failures : page.failures = events.count (.frame (some (.document none)))

theorem kept_initial (snapshots : Snapshots) : Kept snapshots [] (initial snapshots) where
  isOpen := rfl
  userName := rfl
  shown := by
    intro name isText
    cases isText
  failures := rfl

theorem Kept.step (kept : Kept snapshots events page)
    (reached : (system snapshots).run (initial snapshots) events = some page) {event : Event}
    (stepped : (system snapshots).step page event = some next) :
    Kept snapshots (events ++ [event]) next := by
  have observed : (system snapshots).observe headerNames (initial snapshots) _ = _ :=
    EventSystem.observe_concat reached stepped
  cases event with
  | frame snapshot =>
      simp only [system, ProfilePage.step, Option.ite_none_right_eq_some,
        Option.some.injEq] at stepped
      obtain ⟨mounted, isNext⟩ := stepped
      have isOpen : page.bloc.userName.isClosed = false := by rw [kept.isOpen, mounted]; rfl
      have built := built_of_open snapshots isOpen snapshot
      rw [isNext] at built
      cases built with
      | unbuilt =>
          refine ⟨kept.isOpen, ?_, kept.shown, by simp [kept.failures]⟩
          rw [observed]
          cases isText : page.header with
          | text name =>
              -- The name was published in the frame that built the header.
              simp only [headerNames, List.getLast?_concat]
              exact kept.shown name isText
          | indicator | loading | errorWidget =>
              simp only [headerNames, List.append_nil]
              exact kept.userName
      | @quiet _ header nameless present =>
          refine ⟨kept.isOpen, ?_, fun name isText => absurd isText (nameless name), ?_⟩
          · rw [observed, headerNames_nameless nameless, List.append_nil]
            exact kept.userName
          · simp [kept.failures, present]
      | @named name =>
          refine ⟨kept.isOpen, ?_, ?_, by simp [kept.failures]⟩
          · rw [observed]
            simp only [headerNames, List.getLast?_concat]
            exact BehaviorSubject.value?_emit _ name
          · intro other isText
            cases isText
            exact BehaviorSubject.value?_emit _ name
      | failed =>
          have nameless : ∀ name, NameWidget.errorWidget ≠ .text name := fun _ => nofun
          refine ⟨kept.isOpen, ?_, fun name isText => absurd isText (nameless name),
            by simp [kept.failures]⟩
          rw [observed, headerNames_nameless nameless, List.append_nil]
          exact kept.userName
  | dispose =>
      simp only [system, ProfilePage.step, Option.ite_none_right_eq_some,
        Option.some.injEq] at stepped
      obtain ⟨_, rfl⟩ := stepped
      refine ⟨rfl, ?_, kept.shown, by simp [kept.failures]⟩
      rw [observed]
      exact kept.userName.trans (congrArg List.getLast? (List.append_nil _).symm)

theorem kept_of_run (ran : (system snapshots).run (initial snapshots) events = some page) :
    Kept snapshots events page :=
  EventSystem.run_induction (motive := Kept snapshots) (kept_initial snapshots)
    (fun _ _ _ _ reached kept stepped => kept.step reached stepped) ran

/-- In every frame the body shows the name that the header showed last in the frames
before, also while the header shows something else, and the builds that failed are those
of documents without a name. -/
theorem body_shows_last_header_name (laws : snapshots.Laws) {snapshot : Option UserSnapshot}
    (ran : (system snapshots).run (initial snapshots) (events ++ [.frame snapshot]) =
      some page) :
    (page.body = match
        ((system snapshots).observe headerNames (initial snapshots) events).getLast? with
      | some name => .text name
      | none => .loading) ∧
    page.failures = (events ++ [Event.frame snapshot]).count (.frame (some (.document none))) := by
  refine ⟨?_, (kept_of_run ran).failures⟩
  obtain ⟨last, reached, stepped⟩ := EventSystem.run_concat_iff.mp ran
  have kept := kept_of_run reached
  simp only [system, step, Option.ite_none_right_eq_some, Option.some.injEq] at stepped
  obtain ⟨mounted, isNext⟩ := stepped
  have isOpen : last.bloc.userName.isClosed = false := by rw [kept.isOpen, mounted]; rfl
  have userName : page.userName =
      ((system snapshots).observe headerNames (initial snapshots) events).getLast? := by
    have built := built_of_open snapshots isOpen snapshot
    rw [isNext, laws.later] at built
    rw [← kept.userName]
    cases built <;> rfl
  rw [← userName]
  rfl

/-- An answer that fails after one with a name, one without a name, and a frame that does
not build the header. -/
theorem body_shows_last_header_name_late :
    ∃ page, (system .delivered).run (initial .delivered) [.frame (some (.document (some "Kim"))),
        .frame (some .error), .frame (some (.document none)), .frame none,
        .frame (some (.document (some "Lee")))] = some page ∧
      page.header = .text "Lee" ∧ page.body = .text "Kim" ∧ page.failures = 1 := by
  have ran : (system .delivered).run (initial .delivered)
      ([.frame (some (.document (some "Kim"))), .frame (some .error),
        .frame (some (.document none)), .frame none] ++
        [.frame (some (.document (some "Lee")))]) = some _ := rfl
  obtain ⟨body, failures⟩ := body_shows_last_header_name Snapshots.delivered_laws ran
  exact ⟨_, ran, rfl, body, failures⟩

end ProfilePage

end FacebookApp
