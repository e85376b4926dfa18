import FacebookApp.Bloc.MainBlocProperties
import FacebookApp.Models.MainData

/-!
# The course of the indicator animations

Every call of `animateIndicator` walks from the index it was made at to its
target, whatever the other calls do, and the indicator never leaves the range of
the requested targets. Both are invariants of all runs without a dispose.
-/

set_option autoImplicit false

namespace FacebookApp

open Dart

namespace MainBloc

/-! ## The course of one call -/

/-- The consecutive integers strictly after `start` towards `target`, ending in
`target`. -/
def course (start target : Int) : List Int :=
  (List.range (target - start).natAbs).map fun (j : Nat) =>
    start + (target - start).sign * (j + 1)

@[simp] theorem length_course (start target : Int) :
    (course start target).length = (target - start).natAbs := by
  simp [course]

def courseFrame (start target : Int) (rounds : Nat) : IndicatorFrame :=
  if target > start then
    { loop := .ascending, index := target, i := start + (rounds + 1) }
  else
    { loop := .descending, index := target, i := start - (rounds + 1) }

theorem startFrame_eq (start target : Int) :
    startFrame start target = courseFrame start target 0 := by
  unfold startFrame courseFrame
  split <;> simp

theorem advance_courseFrame (start target : Int) (rounds : Nat) :
    (courseFrame start target rounds).advance = courseFrame start target (rounds + 1) := by
  unfold courseFrame
  split <;> simp only [IndicatorFrame.advance, IndicatorFrame.mk.injEq, true_and] <;>
    push_cast <;> omega

theorem continues_courseFrame (start target : Int) (rounds : Nat) :
    (courseFrame start target rounds).continues =
      decide (rounds < (target - start).natAbs) := by
  unfold courseFrame
  split <;> simp only [IndicatorFrame.continues, decide_eq_decide] <;> omega

theorem getElem?_course {start target : Int} {rounds : Nat}
    (within : rounds < (target - start).natAbs) :
    (course start target)[rounds]? = some (courseFrame start target rounds).i := by
  have inRange : rounds < (List.range (target - start).natAbs).length := by
    simpa using within
  rw [course, List.getElem?_map, List.getElem?_eq_getElem inRange, Option.map_some,
    List.getElem_range, Option.some.injEq]
  unfold courseFrame
  split
  · rw [Int.sign_eq_one_of_pos (by omega)]
    simp
  · rw [Int.sign_eq_neg_one_of_neg (by omega)]
    simp only [neg_mul, one_mul]
    omega

def roundOutput (frame : IndicatorFrame) : List Int :=
  if frame.continues then [frame.i] else []

theorem events_afterRound (frame : IndicatorFrame) (bloc : MainBloc) :
    (bloc.afterRound frame).index.events = bloc.index.events ++ roundOutput frame := by
  unfold afterRound roundOutput
  cases frame.continues <;> simp

theorem take_course_succ (start target : Int) (rounds : Nat) :
    (course start target).take (rounds + 1) =
      (course start target).take rounds ++ roundOutput (courseFrame start target rounds) := by
  rw [List.take_add_one, roundOutput, continues_courseFrame]
  by_cases within : rounds < (target - start).natAbs
  · rw [getElem?_course within]
    simp [within]
  · rw [List.getElem?_eq_none (by simpa using within)]
    simp [within]

/-- A call from `start` to `target` that was resumed `resumed` times: what it
published so far and what its activation is. Nothing in it depends on other
calls. -/
structure OnCourse (start target : Int) (published : List Int) (resumed : Nat)
    (activation : Option (Activation Empty IndicatorFrame)) : Prop where
  published_eq : published = (course start target).take (resumed + 1)
  resumed_le : resumed ≤ (target - start).natAbs
  suspended : resumed < (target - start).natAbs →
    ∃ due, activation = some (.suspended (courseFrame start target resumed) due)
  returned : resumed = (target - start).natAbs → activation = some .returned

theorem roundActivation_courseFrame (state : State) (start target : Int) (rounds : Nat) :
    roundActivation (courseFrame start target rounds) state =
      if rounds < (target - start).natAbs then
        .suspended (courseFrame start target rounds) (state.now + state.store.awaitedDelay)
      else .returned := by
  simp [roundActivation, continues_courseFrame]

theorem OnCourse.of_round (state : State) {start target : Int} {rounds : Nat}
    {published : List Int} (before : published = (course start target).take rounds)
    (inTime : rounds ≤ (target - start).natAbs) :
    OnCourse start target
      (published ++ roundOutput (courseFrame start target rounds)) rounds
      (some (roundActivation (courseFrame start target rounds) state)) where
  published_eq := by rw [before, take_course_succ]
  resumed_le := inTime
  suspended := fun within =>
    ⟨state.now + state.store.awaitedDelay, by simp [roundActivation_courseFrame, within]⟩
  returned := fun done => by simp [roundActivation_courseFrame, done]

theorem OnCourse.frame_eq {start target : Int} {published : List Int} {resumed due : Nat}
    {frame : IndicatorFrame}
    (onCourse : OnCourse start target published resumed (some (.suspended frame due))) :
    resumed < (target - start).natAbs ∧ frame = courseFrame start target resumed := by
  rcases Nat.lt_or_eq_of_le onCourse.resumed_le with within | done
  · obtain ⟨other, same⟩ := onCourse.suspended within
    cases same
    exact ⟨within, rfl⟩
  · cases onCourse.returned done

/-! ## All calls of a run -/

def calls (events : List Event) : List (Int × Int) :=
  system.observe callObserver initial events

def publications (call : Nat) (events : List Event) : List Int :=
  system.observe (publicationObserver call) initial events

def resumptions (call : Nat) (events : List Event) : Nat := events.count (.resume call)

/-- The invariant of all runs: every call is on its own course. -/
structure AllOnCourse (events : List Event) (state : State) : Prop where
  live : Live state.store
  made : (calls events).length = state.activations.length
  onCourse : ∀ call start target, (calls events)[call]? = some (start, target) →
    OnCourse start target (publications call events) (resumptions call events)
      state.activations[call]?
  unmade : ∀ call, state.activations.length ≤ call →
    publications call events = [] ∧ resumptions call events = 0

theorem allOnCourse_initial : AllOnCourse [] initial where
  live := live_initial
  made := rfl
  onCourse := by
    intro call start target made
    simp [calls] at made
  unmade := by
    intro call _
    exact ⟨rfl, rfl⟩

theorem AllOnCourse.of_quiet {events : List Event} {state next : State} {event : Event}
    (before : AllOnCourse events state) (ran : system.run initial events = some state)
    (stepped : system.step state event = some next) (live : Live next.store)
    (sameCalls : next.activations = state.activations)
    (notCalling : ∀ index, event ≠ .animateIndicator index)
    (notResuming : ∀ call, event ≠ .resume call) :
    AllOnCourse (events ++ [event]) next := by
  have noCall : callObserver state event next = [] := by
    cases event <;> first | rfl | exact absurd rfl (notCalling _)
  have runsNone : ∀ call, publicationObserver call state event next = [] := by
    intro call
    cases event <;>
      first | rfl | exact absurd rfl (notCalling _) | exact absurd rfl (notResuming _)
  have keptCalls : calls (events ++ [event]) = calls events := by
    rw [calls, EventSystem.observe_concat ran stepped, noCall, List.append_nil, calls]
  have keptPublications : ∀ call,
      publications call (events ++ [event]) = publications call events := by
    intro call
    rw [publications, EventSystem.observe_concat ran stepped, runsNone, List.append_nil,
      publications]
  have keptResumptions : ∀ call,
      resumptions call (events ++ [event]) = resumptions call events := by
    intro call
    simp [resumptions, List.count_append, notResuming call]
  constructor
  · exact live
  · rw [keptCalls, sameCalls]
    exact before.made
  · intro call start target made
    rw [keptCalls] at made
    rw [keptPublications, keptResumptions, sameCalls]
    exact before.onCourse call start target made
  · intro call beyond
    rw [keptPublications, keptResumptions]
    exact before.unmade call (sameCalls ▸ beyond)

theorem AllOnCourse.of_call {events : List Event} {state next : State}
    {current index : Int} (before : AllOnCourse events state)
    (ran : system.run initial events = some state)
    (stepped : system.step state (.animateIndicator index) = some next)
    (shown : state.store.index.value? = some current)
    (result : next = { state with
      store := state.store.afterRound (startFrame current index)
      activations := state.activations ++
        [roundActivation (startFrame current index) state] }) :
    AllOnCourse (events ++ [.animateIndicator index]) next := by
  have grownCalls : calls (events ++ [.animateIndicator index]) =
      calls events ++ [(current, index)] := by
    rw [calls, EventSystem.observe_concat ran stepped, calls]
    simp [callObserver, shown]
  have published : ∀ call, publications call (events ++ [.animateIndicator index]) =
      publications call events ++
        if state.activations.length = call then roundOutput (startFrame current index)
        else [] := by
    intro call
    rw [publications, EventSystem.observe_concat ran stepped, publications]
    congr 1
    by_cases own : state.activations.length = call <;>
      simp [publicationObserver, Event.runsCall, own, result, events_afterRound]
  have keptResumptions : ∀ call,
      resumptions call (events ++ [.animateIndicator index]) = resumptions call events := by
    intro call
    simp [resumptions, List.count_append]
  constructor
  · rw [result]
    exact before.live.afterRound _
  · simp [grownCalls, result, before.made]
  · intro call start target made
    rw [published, keptResumptions, result]
    rw [grownCalls] at made
    rcases Nat.lt_or_ge call state.activations.length with earlier | later
    · -- The new call is not this one.
      rw [List.getElem?_append_left (by rw [before.made]; exact earlier)] at made
      rw [if_neg (by omega), List.append_nil, List.getElem?_append_left earlier]
      exact before.onCourse call start target made
    · have isNew : call = state.activations.length := by
        have bound := (List.getElem?_eq_some_iff.mp made).1
        rw [List.length_append, before.made, List.length_singleton] at bound
        omega
      subst isNew
      obtain ⟨noneBefore, notResumed⟩ := before.unmade _ (Nat.le_refl _)
      rw [← before.made, List.getElem?_concat_length] at made
      cases made
      simp only [if_true, noneBefore, notResumed, List.getElem?_concat_length, startFrame_eq]
      exact OnCourse.of_round state rfl (Nat.zero_le _)
  · intro call beyond
    have grown : next.activations.length = state.activations.length + 1 := by
      simp [result]
    have farther : state.activations.length < call := by omega
    rw [published, keptResumptions, if_neg (by omega), List.append_nil]
    exact before.unmade call (by omega)

theorem AllOnCourse.of_resume {events : List Event} {state next : State} {resumed : Nat}
    {frame : IndicatorFrame} {due : Nat} (before : AllOnCourse events state)
    (ran : system.run initial events = some state)
    (stepped : system.step state (.resume resumed) = some next)
    (found : state.activations[resumed]? = some (.suspended frame due))
    (result : next = { state with
      store := state.store.afterRound frame.advance
      activations := state.activations.set resumed
        (roundActivation frame.advance state) }) :
    AllOnCourse (events ++ [.resume resumed]) next := by
  have keptCalls : calls (events ++ [.resume resumed]) = calls events := by
    rw [calls, EventSystem.observe_concat ran stepped, calls]
    simp [callObserver]
  have published : ∀ call, publications call (events ++ [.resume resumed]) =
      publications call events ++
        if resumed = call then roundOutput frame.advance else [] := by
    intro call
    rw [publications, EventSystem.observe_concat ran stepped, publications]
    congr 1
    by_cases own : resumed = call <;>
      simp [publicationObserver, Event.runsCall, own, result, events_afterRound]
  have counted : ∀ call, resumptions call (events ++ [.resume resumed]) =
      resumptions call events + if resumed = call then 1 else 0 := by
    intro call
    by_cases own : resumed = call <;> simp [resumptions, List.count_append, own]
  have bound := (List.getElem?_eq_some_iff.mp found).1
  constructor
  · rw [result]
    exact before.live.afterRound _
  · simp [keptCalls, result, before.made]
  · intro call start target made
    rw [keptCalls] at made
    rw [published, counted, result]
    have onCourse := before.onCourse call start target made
    by_cases own : resumed = call
    · subst own
      rw [found] at onCourse
      obtain ⟨within, rfl⟩ := onCourse.frame_eq
      simp only [if_true, List.getElem?_set_self bound, advance_courseFrame]
      exact OnCourse.of_round state onCourse.published_eq within
    · simpa [own, List.getElem?_set_ne own] using onCourse
  · intro call beyond
    have farther : state.activations.length ≤ call := by simpa [result] using beyond
    rw [published, counted, if_neg (by omega), if_neg (by omega), List.append_nil,
      Nat.add_zero]
    exact before.unmade call farther

theorem allOnCourse_of_run {events : List Event} {state : State}
    (ran : system.run initial events = some state) (notDisposed : .dispose ∉ events) :
    AllOnCourse events state := by
  revert notDisposed
  refine EventSystem.run_induction (motive := fun events state =>
    .dispose ∉ events → AllOnCourse events state) (fun _ => allOnCourse_initial) ?_ ran
  intro events state event next ran ih stepped notDisposed
  simp only [List.mem_append, List.mem_singleton, not_or] at notDisposed
  have before := ih notDisposed.1
  have transition := liveStep_of_step before.live (Ne.symm notDisposed.2) stepped
  have live := transition.live before.live
  cases transition with
  | update notCalling notResuming =>
      exact before.of_quiet ran stepped live rfl notCalling notResuming
  | call shown => exact before.of_call ran stepped shown rfl
  | resume found => exact before.of_resume ran stepped found rfl
  | elapse => exact before.of_quiet ran stepped live rfl nofun nofun

theorem AllOnCourse.continues_of_mem_pending {events : List Event} {state : State}
    (allOnCourse : AllOnCourse events state) {frame : IndicatorFrame}
    (pending : frame ∈ state.pending) : frame.continues = true := by
  obtain ⟨call, due, found⟩ := Isolate.mem_pending_iff.mp pending
  have bound : call < (calls events).length := by
    rw [allOnCourse.made]
    exact (List.getElem?_eq_some_iff.mp found).1
  have onCourse := allOnCourse.onCourse call _ _ (List.getElem?_eq_getElem bound)
  rw [found] at onCourse
  obtain ⟨within, rfl⟩ := onCourse.frame_eq
  rw [continues_courseFrame]
  exact decide_eq_true within

/-- A call after a run, with the number of rounds that it still has to go. -/
structure Unfinished (call : Nat) (start target : Int) (remaining : Nat)
    (events : List Event) (state : State) : Prop where
  ran : system.run initial events = some state
  notDisposed : .dispose ∉ events
  made : (calls events)[call]? = some (start, target)
  left : resumptions call events + remaining = (target - start).natAbs

theorem Unfinished.exists_round {call : Nat} {start target : Int} {remaining : Nat}
    {events : List Event} {state : State}
    (unfinished : Unfinished call start target (remaining + 1) events state) :
    ∃ front next, (∀ event ∈ front, event = .resume call ∨ ∃ ms, event = .elapse ms) ∧
      system.run state front = some next ∧
      Unfinished call start target remaining (events ++ front) next := by
  obtain ⟨ran, notDisposed, made, left⟩ := unfinished
  have onCourse := (allOnCourse_of_run ran notDisposed).onCourse call start target made
  obtain ⟨due, found⟩ := onCourse.suspended (by omega)
  -- Wait until the awaited delay is over, then resume the call once.
  obtain ⟨next, resumed⟩ : ∃ next,
      (state.elapse due).resume resumeIndicator call = some next :=
    ⟨_, Isolate.resume_eq_some_iff.mpr
      ⟨_, due, found, Nat.le_add_left due state.now, rfl⟩⟩
  have stepped : system.run state [.elapse due, .resume call] = some next :=
    EventSystem.run_cons_iff.mpr ⟨state.elapse due, rfl,
      EventSystem.run_cons_iff.mpr ⟨next, resumed, rfl⟩⟩
  have noCalls : system.observe callObserver state [.elapse due, .resume call] = [] := by
    simp [EventSystem.observe, callObserver, system, step, resumed]
  have counted : resumptions call (events ++ [.elapse due, .resume call]) =
      resumptions call events + 1 := by
    simp [resumptions, List.count_append]
  refine ⟨[.elapse due, .resume call], next, by simp, stepped,
    EventSystem.run_append_iff.mpr ⟨state, ran, stepped⟩, by simpa using notDisposed, ?_,
    by omega⟩
  rw [calls, EventSystem.observe_append _ ran, noCalls, List.append_nil]
  exact made

/-- A pending call can always be run to its end without any other event but the
passing of time. -/
theorem Unfinished.exists_finish {call : Nat} {start target : Int} {remaining : Nat}
    {events : List Event} {state : State}
    (unfinished : Unfinished call start target remaining events state) :
    ∃ rest last, (∀ event ∈ rest, event = .resume call ∨ ∃ ms, event = .elapse ms) ∧
      system.run state rest = some last ∧ last.activations[call]? = some .returned ∧
      publications call (events ++ rest) = course start target := by
  obtain ⟨rest, last, onlyCall, finished, done⟩ :=
    EventSystem.exists_run_of_progress (Unfinished call start target)
      (fun _ _ _ before => before.exists_round) events unfinished
  have onCourse :=
    (allOnCourse_of_run done.ran done.notDisposed).onCourse call start target done.made
  have allRounds := done.left
  refine ⟨rest, last, onlyCall, finished, onCourse.returned (by omega), ?_⟩
  rw [onCourse.published_eq]
  exact List.take_of_length_le (by rw [length_course]; omega)

/-! ## The range of the indicator -/

def targets (events : List Event) : List Int :=
  system.observe targetObserver initial events

def Between (bounds : List Int) (value : Int) : Prop :=
  (∃ low ∈ bounds, low ≤ value) ∧ ∃ high ∈ bounds, value ≤ high

theorem Between.of_mem {bounds : List Int} {value : Int} (member : value ∈ bounds) :
    Between bounds value :=
  ⟨⟨value, member, Int.le_refl value⟩, ⟨value, member, Int.le_refl value⟩⟩

theorem Between.append {bounds : List Int} {value : Int} (between : Between bounds value)
    (more : List Int) : Between (bounds ++ more) value := by
  obtain ⟨⟨low, lowMember, below⟩, ⟨high, highMember, above⟩⟩ := between
  exact ⟨⟨low, List.mem_append_left more lowMember, below⟩,
    ⟨high, List.mem_append_left more highMember, above⟩⟩

theorem Between.of_convex {bounds : List Int} {left right value : Int}
    (leftBetween : Between bounds left) (rightBetween : Between bounds right)
    (within : left ≤ value ∧ value ≤ right ∨ right ≤ value ∧ value ≤ left) :
    Between bounds value := by
  obtain ⟨⟨low, lowMember, below⟩, ⟨high, highMember, above⟩⟩ := leftBetween
  obtain ⟨⟨low', lowMember', below'⟩, ⟨high', highMember', above'⟩⟩ := rightBetween
  rcases within with ⟨lower, upper⟩ | ⟨lower, upper⟩
  · exact ⟨⟨low, lowMember, by omega⟩, ⟨high', highMember', by omega⟩⟩
  · exact ⟨⟨low', lowMember', by omega⟩, ⟨high, highMember, by omega⟩⟩

structure InRange (bounds : List Int) (state : State) : Prop where
  published : ∀ value ∈ state.store.index.events, Between bounds value
  counters : ∀ frame ∈ state.pending, Between bounds frame.i ∧ Between bounds frame.index

theorem InRange.append {bounds : List Int} {state : State} (inRange : InRange bounds state)
    (more : List Int) : InRange (bounds ++ more) state where
  published := fun value member => (inRange.published value member).append more
  counters := fun frame member =>
    ⟨(inRange.counters frame member).1.append more,
      (inRange.counters frame member).2.append more⟩

theorem startFrame_within {current index : Int}
    (continues : (startFrame current index).continues) :
    let frame := startFrame current index
    frame.index = index ∧
      (current ≤ frame.i ∧ frame.i ≤ index ∨ index ≤ frame.i ∧ frame.i ≤ current) := by
  by_cases above : index > current <;>
    simp only [startFrame, above, if_true, if_false, IndicatorFrame.continues_ascending,
      IndicatorFrame.continues_descending, decide_eq_true_eq, true_and] at continues ⊢ <;>
    omega

theorem advance_within {frame : IndicatorFrame} (continues : frame.advance.continues) :
    frame.advance.index = frame.index ∧
      (frame.i ≤ frame.advance.i ∧ frame.advance.i ≤ frame.index ∨
        frame.index ≤ frame.advance.i ∧ frame.advance.i ≤ frame.i) := by
  rcases frame with ⟨loop, index, i⟩
  cases loop with
  | ascending =>
      have below : i + 1 ≤ index := of_decide_eq_true continues
      exact ⟨rfl, .inl ⟨by simp [IndicatorFrame.advance], below⟩⟩
  | descending =>
      have above : i - 1 ≥ index := of_decide_eq_true continues
      exact ⟨rfl, .inr ⟨above, by simp [IndicatorFrame.advance]⟩⟩

theorem InRange.of_round {bounds : List Int} {state : State} {frame : IndicatorFrame}
    {activations : List (Activation Empty IndicatorFrame)}
    (inRange : InRange bounds state)
    (frameInRange : frame.continues → Between bounds frame.i ∧ Between bounds frame.index)
    (known : ∀ activation ∈ activations,
      activation ∈ state.activations ∨ activation = roundActivation frame state) :
    InRange bounds { state with
      store := state.store.afterRound frame, activations := activations } where
  published := by
    intro value member
    simp only [events_afterRound, List.mem_append] at member
    rcases member with old | new
    · exact inRange.published value old
    · cases continues : frame.continues with
      | false => simp [roundOutput, continues] at new
      | true =>
          simp only [roundOutput, continues, if_true, List.mem_singleton] at new
          exact new ▸ (frameInRange continues).1
  counters := by
    intro other member
    simp only [Isolate.pending, List.mem_filterMap] at member
    obtain ⟨activation, present, isFrame⟩ := member
    rcases known activation present with old | rfl
    · exact inRange.counters other (List.mem_filterMap.mpr ⟨activation, old, isFrame⟩)
    · cases continues : frame.continues with
      | false => simp [roundActivation, continues] at isFrame
      | true =>
          simp only [roundActivation, continues, if_true, Activation.frame?_suspended,
            Option.some.injEq] at isFrame
          exact isFrame ▸ frameInRange continues

theorem inRange_of_run {events : List Event} {state : State}
    (ran : system.run initial events = some state) (notDisposed : .dispose ∉ events) :
    InRange (0 :: targets events) state := by
  revert notDisposed
  refine EventSystem.run_induction (motive := fun events state =>
    .dispose ∉ events → InRange (0 :: targets events) state) ?_ ?_ ran
  · intro _
    refine ⟨fun value member => Between.of_mem ?_, fun frame member => ?_⟩
    · simpa [initial, BehaviorSubject.seeded, targets] using member
    · simp [initial, Isolate.pending] at member
  · intro events state event next ran ih stepped notDisposed
    simp only [List.mem_append, List.mem_singleton, not_or] at notDisposed
    have live := (allOnCourse_of_run ran notDisposed.1).live
    have grown : 0 :: targets (events ++ [event]) =
        (0 :: targets events) ++ targetObserver state event next := by
      rw [targets, EventSystem.observe_concat ran stepped, targets, List.cons_append]
    have before := (ih notDisposed.1).append (targetObserver state event next)
    rw [← grown] at before
    have transition := liveStep_of_step live (Ne.symm notDisposed.2) stepped
    cases transition with
    | update _ _ _ sameIndex => exact ⟨by rw [sameIndex]; exact before.published, before.counters⟩
    | @call current index shown =>
        have currentBetween := before.published current (List.mem_of_getLast? shown)
        have indexBetween : Between (0 :: targets (events ++ [.animateIndicator index])) index :=
          Between.of_mem (by rw [grown]; simp [targetObserver])
        refine before.of_round (fun continues => ?_) (fun activation member => ?_)
        · obtain ⟨sameIndex, within⟩ := startFrame_within continues
          refine ⟨currentBetween.of_convex indexBetween within, ?_⟩
          rw [sameIndex]
          exact indexBetween
        · simpa using member
    | @resume call frame due found isDue =>
        obtain ⟨iBetween, indexBetween⟩ :=
          before.counters frame (Isolate.mem_pending_iff.mpr ⟨call, due, found⟩)
        refine before.of_round (fun continues => ?_) (fun activation member => ?_)
        · obtain ⟨sameIndex, within⟩ := advance_within continues
          refine ⟨iBetween.of_convex indexBetween within, ?_⟩
          rw [sameIndex]
          exact indexBetween
        · exact List.mem_or_eq_of_mem_set member
    | elapse => exact ⟨before.published, before.counters⟩

/-- Under every interleaving each call of `animateIndicator` publishes its own
course, one value a round, and ends after the last one; and the indicator stays
between the initial index and the targets requested so far. -/
theorem animateIndicator_course {events : List Event} {state : State}
    (ran : system.run initial events = some state) (notDisposed : .dispose ∉ events) :
    (calls events).length = state.activations.length ∧
    (∀ call start target, (calls events)[call]? = some (start, target) →
      publications call events =
        (course start target).take (resumptions call events + 1) ∧
      (state.activations[call]? = some .returned ∧
          resumptions call events = (target - start).natAbs ∧
          publications call events = course start target ∨
        ∃ frame due, state.activations[call]? = some (.suspended frame due) ∧
          resumptions call events < (target - start).natAbs ∧
          ∃ rest last,
            (∀ event ∈ rest, event = .resume call ∨ ∃ ms, event = .elapse ms) ∧
            system.run state rest = some last ∧
            last.activations[call]? = some .returned ∧
            publications call (events ++ rest) = course start target)) ∧
    (∀ value ∈ state.store.index.events, Between (0 :: targets events) value) ∧
    ((∀ target ∈ targets events, 0 ≤ target ∧ target < navigationData.length) →
      ∀ value ∈ state.store.index.events, 0 ≤ value ∧ value < navigationData.length) := by
  have onCourse := allOnCourse_of_run ran notDisposed
  have inRange := inRange_of_run ran notDisposed
  refine ⟨onCourse.made, ?_, inRange.published, ?_⟩
  · intro call start target made
    have own := onCourse.onCourse call start target made
    refine ⟨own.published_eq, ?_⟩
    rcases Nat.lt_or_eq_of_le own.resumed_le with within | done
    · obtain ⟨due, found⟩ := own.suspended within
      exact .inr ⟨_, due, found, within,
        Unfinished.exists_finish ⟨ran, notDisposed, made, Nat.add_sub_of_le own.resumed_le⟩⟩
    · refine .inl ⟨own.returned done, done, ?_⟩
      rw [own.published_eq]
      exact List.take_of_length_le (by rw [length_course]; omega)
  · intro valid value member
    obtain ⟨⟨low, lowMember, below⟩, ⟨high, highMember, above⟩⟩ :=
      inRange.published value member
    have tabs : ∀ bound ∈ 0 :: targets events, 0 ≤ bound ∧ bound < navigationData.length := by
      intro bound boundMember
      rcases List.mem_cons.mp boundMember with rfl | requested
      · decide
      · exact valid bound requested
    exact ⟨Int.le_trans (tabs low lowMember).1 below,
      Int.lt_of_le_of_lt above (tabs high highMember).2⟩

def overlappingCalls : List Event :=
  [.animateIndicator 3, .animateIndicator (-1), .elapse 50, .resume 0, .resume 1,
    .animateIndicator 2, .elapse 50, .resume 2, .resume 0, .resume 1]

theorem animateIndicator_course_overlapping :
    ∃ state, system.run initial overlappingCalls = some state ∧
      (calls overlappingCalls).length = state.activations.length ∧
      ∀ value ∈ state.store.index.events,
        Between (0 :: targets overlappingCalls) value := by
  obtain ⟨state, ran⟩ : ∃ state, system.run initial overlappingCalls = some state :=
    ⟨_, rfl⟩
  have result := animateIndicator_course ran (by decide)
  exact ⟨state, ran, result.1, result.2.2.1⟩

end MainBloc

end FacebookApp
