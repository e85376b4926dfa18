import FacebookApp.Library.Program
import Mathlib.Data.List.Nodup

/-!
# Navigators

The routes of an app, each with a number of its own, so that what happened to one
route can be told from what happened to the others. A popped route stays mounted
until its exit transition is over.
-/

set_option autoImplicit false

namespace Flutter

open Dart

structure Navigator (Route : Type) where
  /-- The routes that are not popped, the top one first. -/
  routes : List (Nat × Route)
  popped : List Nat
  /-- The popped routes whose exit transition is not over. -/
  leaving : List Nat
  /-- How many routes were opened so far, which is the number of the next one. -/
  opened : Nat
  opened_pos : 0 < opened
  popped_lt_opened : ∀ number ∈ popped, number < opened
  routes_lt_opened : ∀ route ∈ routes, route.1 < opened
  newest_first : routes.Pairwise fun upper lower => lower.1 < upper.1
  popped_closed : ∀ number ∈ popped, ∀ route ∈ routes, route.1 ≠ number
  leaving_popped : ∀ number ∈ leaving, number ∈ popped

namespace Navigator

variable {Route : Type}

/-- The route that the app starts with has the number 0. -/
def start (route : Route) : Navigator Route where
  routes := [(0, route)]
  popped := []
  leaving := []
  opened := 1
  opened_pos := Nat.one_pos
  popped_lt_opened := nofun
  routes_lt_opened := by simp
  newest_first := List.pairwise_singleton _ _
  popped_closed := nofun
  leaving_popped := nofun

def push (navigator : Navigator Route) (route : Route) : Navigator Route where
  routes := (navigator.opened, route) :: navigator.routes
  popped := navigator.popped
  leaving := navigator.leaving
  opened := navigator.opened + 1
  opened_pos := Nat.succ_pos _
  popped_lt_opened := fun number member =>
    Nat.lt_succ_of_lt (navigator.popped_lt_opened number member)
  routes_lt_opened := by
    intro route member
    rcases List.mem_cons.mp member with new | old
    · rw [new]
      exact Nat.lt_succ_self _
    · exact Nat.lt_succ_of_lt (navigator.routes_lt_opened route old)
  newest_first := List.pairwise_cons.mpr ⟨navigator.routes_lt_opened, navigator.newest_first⟩
  popped_closed := by
    intro number isPopped route member
    rcases List.mem_cons.mp member with new | old
    · rw [new]
      exact (Nat.ne_of_lt (navigator.popped_lt_opened number isPopped)).symm
    · exact navigator.popped_closed number isPopped route old
  leaving_popped := navigator.leaving_popped

def pop (navigator : Navigator Route) : Navigator Route :=
  match shown : navigator.routes with
  | [] => navigator
  | top :: below =>
      { navigator with
        routes := below
        popped := navigator.popped ++ [top.1]
        leaving := navigator.leaving ++ [top.1]
        popped_lt_opened := by
          intro number member
          rcases List.mem_append.mp member with earlier | last
          · exact navigator.popped_lt_opened number earlier
          · rw [List.mem_singleton.mp last]
            exact navigator.routes_lt_opened top (shown ▸ List.mem_cons_self)
        routes_lt_opened := fun route member =>
          navigator.routes_lt_opened route (shown ▸ List.mem_cons_of_mem _ member)
        newest_first := (List.pairwise_cons.mp (shown ▸ navigator.newest_first)).2
        popped_closed := by
          intro number isPopped route member
          rcases List.mem_append.mp isPopped with earlier | last
          · exact navigator.popped_closed number earlier route
              (shown ▸ List.mem_cons_of_mem _ member)
          · rw [List.mem_singleton.mp last]
            exact Nat.ne_of_lt
              ((List.pairwise_cons.mp (shown ▸ navigator.newest_first)).1 route member)
        leaving_popped := by
          intro number isLeaving
          rcases List.mem_append.mp isLeaving with earlier | last
          · exact List.mem_append_left _ (navigator.leaving_popped number earlier)
          · exact List.mem_append_right _ last }

/-- The exit transition of a route is over. -/
def settle (navigator : Navigator Route) (number : Nat) : Navigator Route :=
  { navigator with
    leaving := navigator.leaving.filter (· ≠ number)
    leaving_popped := fun other isLeaving =>
      navigator.leaving_popped other (List.mem_filter.mp isLeaving).1 }

def top? (navigator : Navigator Route) : Option Route := navigator.routes.head?.map (·.2)

/-- The routes that are not popped without their numbers. -/
def stack (navigator : Navigator Route) : List Route := navigator.routes.map (·.2)

def isShown (navigator : Navigator Route) (number : Nat) : Bool :=
  (navigator.routes.map (·.1)).contains number

def isMounted (navigator : Navigator Route) (number : Nat) : Bool :=
  navigator.isShown number || navigator.leaving.contains number

/-! ## Routes -/

@[simp] theorem stack_start (route : Route) : (start route).stack = [route] := rfl

@[simp] theorem routes_push (navigator : Navigator Route) (route : Route) :
    (navigator.push route).routes = (navigator.opened, route) :: navigator.routes := rfl

@[simp] theorem routes_pop (navigator : Navigator Route) :
    navigator.pop.routes = navigator.routes.tail := by
  unfold pop
  split <;> simp_all

@[simp] theorem stack_pop (navigator : Navigator Route) :
    navigator.pop.stack = navigator.stack.tail := by
  simp [stack]

@[simp] theorem popped_push (navigator : Navigator Route) (route : Route) :
    (navigator.push route).popped = navigator.popped := rfl

@[simp] theorem popped_pop_push (navigator : Navigator Route) (route : Route) :
    (navigator.push route).pop.popped = navigator.popped ++ [navigator.opened] := rfl

@[simp] theorem count_popped_opened (navigator : Navigator Route) :
    navigator.popped.count navigator.opened = 0 := by
  rw [List.count_eq_zero]
  intro member
  exact Nat.lt_irrefl _ (navigator.popped_lt_opened _ member)

theorem mem_popped_pop {navigator : Navigator Route} {number : Nat}
    (isPopped : number ∈ navigator.popped) : number ∈ navigator.pop.popped := by
  unfold pop
  split
  · exact isPopped
  · exact List.mem_append_left _ isPopped

/-- A pop takes no route away without a trace. -/
theorem mem_routes_or_popped_pop {navigator : Navigator Route} {route : Nat × Route}
    (member : route ∈ navigator.routes) :
    route ∈ navigator.pop.routes ∨ route.1 ∈ navigator.pop.popped := by
  unfold pop
  split
  · exact .inl member
  · rename_i top below shown
    rw [shown] at member
    rcases List.mem_cons.mp member with rfl | member
    · exact .inr (List.mem_append_right _ (List.mem_singleton.mpr rfl))
    · exact .inl member

/-! ## Mounted routes -/

theorem isShown_iff {navigator : Navigator Route} {number : Nat} :
    navigator.isShown number = true ↔ ∃ route, (number, route) ∈ navigator.routes := by
  simp [isShown]

/-- No number is given to two routes. -/
theorem route_unique {navigator : Navigator Route} {number : Nat} {route other : Route}
    (member : (number, route) ∈ navigator.routes) (member' : (number, other) ∈ navigator.routes) :
    route = other := by
  have distinct : (navigator.routes.map (·.1)).Nodup :=
    List.pairwise_map.mpr (navigator.newest_first.imp Nat.ne_of_gt)
  exact congrArg Prod.snd (List.inj_on_of_nodup_map distinct member member' rfl)

/-- What a pop closes is the top route and no other one. -/
theorem isShown_pop {navigator : Navigator Route} {number : Nat} :
    navigator.pop.isShown number = true ↔ navigator.isShown number = true ∧
      navigator.routes.head?.map (·.1) ≠ some number := by
  have ordered := navigator.newest_first
  simp only [isShown_iff, routes_pop]
  cases routes : navigator.routes with
  | nil => simp
  | cons top below =>
      rw [routes] at ordered
      have above := (List.pairwise_cons.mp ordered).1
      constructor
      · rintro ⟨route, member⟩
        refine ⟨⟨route, List.mem_cons_of_mem _ member⟩, ?_⟩
        simpa using (Nat.ne_of_lt (above _ member)).symm
      · rintro ⟨⟨route, member⟩, other⟩
        rcases List.mem_cons.mp member with rfl | member
        · simp at other
        · exact ⟨route, member⟩

theorem isShown_pop_eq_false {navigator : Navigator Route} {number : Nat} :
    navigator.pop.isShown number = false ↔
      navigator.routes.head?.map (·.1) = some number ∨ navigator.isShown number = false := by
  rw [Bool.eq_false_iff, Bool.eq_false_iff, ne_eq, isShown_pop]
  tauto

theorem isMounted_push_of_lt {navigator : Navigator Route} {number : Nat}
    (old : number < navigator.opened) (route : Route) :
    (navigator.push route).isMounted number = navigator.isMounted number := by
  have other : (number == navigator.opened) = false := by simpa using Nat.ne_of_lt old
  simp [isMounted, isShown, push, other]

theorem isMounted_opened_push (navigator : Navigator Route) (route : Route) :
    (navigator.push route).isMounted navigator.opened = true := by
  simp [isMounted, isShown]

@[simp] theorem isMounted_pop (navigator : Navigator Route) (number : Nat) :
    navigator.pop.isMounted number = navigator.isMounted number := by
  unfold pop
  split
  · rfl
  · rename_i top below shown
    simp only [isMounted, isShown, shown, List.map_cons, List.contains_cons, List.contains_append,
      List.contains_nil, Bool.or_false]
    rw [Bool.or_comm (number == top.1), Bool.or_assoc, Bool.or_comm (number == top.1)]

theorem isMounted_settle_of_ne {navigator : Navigator Route} {number settled : Nat}
    (other : number ≠ settled) :
    (navigator.settle settled).isMounted number = navigator.isMounted number := by
  simp [isMounted, isShown, settle, other]

theorem isMounted_settle_self {navigator : Navigator Route} {number : Nat}
    (leaving : number ∈ navigator.leaving) :
    (navigator.settle number).isMounted number = false := by
  have closed : (navigator.settle number).isShown number = false := by
    rw [Bool.eq_false_iff]
    intro shown
    obtain ⟨route, member⟩ := isShown_iff.mp shown
    exact navigator.popped_closed number (navigator.leaving_popped number leaving) _ member rfl
  rw [isMounted, closed]
  simp [settle]

/-! ## What handlers do with routes -/

variable {External : Type}

/-- `push` in a handler, with the number of the new route as its context. -/
def pushRoute (route : Route) : Program External (Navigator Route) Nat := do
  let navigator ← get
  set (navigator.push route)
  return navigator.opened

/-- `Navigator.of(context).pop()`. The context has to be mounted, and what is popped is
the top route, whichever that is. -/
def popFrom (context : Nat) : Program External (Navigator Route) Unit := do
  let navigator ← get
  if navigator.isMounted context then
    if navigator.routes.isEmpty then throw .stateError else set navigator.pop
  else throw .nullCheckError

def CanPopFrom (navigator : Navigator Route) (context : Nat) : Prop :=
  navigator.isMounted context = true ∧ navigator.routes ≠ []

instance (navigator : Navigator Route) (context : Nat) :
    Decidable (navigator.CanPopFrom context) := instDecidableAnd

theorem CanPopFrom.of_isShown {navigator : Navigator Route} {context : Nat}
    (shown : navigator.isShown context = true) : navigator.CanPopFrom context := by
  obtain ⟨route, member⟩ := isShown_iff.mp shown
  refine ⟨?_, List.ne_nil_of_mem member⟩
  rw [isMounted, shown, Bool.true_or]

theorem run_popFrom {navigator : Navigator Route} {context : Nat}
    (can : navigator.CanPopFrom context) :
    (popFrom context : Program External (Navigator Route) Unit).run navigator =
      .ok () navigator.pop := by
  obtain ⟨mounted, notEmpty⟩ := can
  simp only [popFrom, EStateM.run_bind, EStateM.run_get, if_pos mounted, List.isEmpty_iff,
    if_neg notEmpty]
  rfl

theorem run_popFrom_fails {navigator : Navigator Route} {context : Nat}
    (cannot : ¬ navigator.CanPopFrom context) :
    ∃ error, (popFrom context : Program External (Navigator Route) Unit).run navigator =
      .error error navigator := by
  by_cases mounted : navigator.isMounted context = true
  · have empty : navigator.routes = [] := by
      by_contra notEmpty
      exact cannot ⟨mounted, notEmpty⟩
    refine ⟨.stateError, ?_⟩
    simp only [popFrom, EStateM.run_bind, EStateM.run_get, if_pos mounted, List.isEmpty_iff,
      if_pos empty]
    rfl
  · refine ⟨.nullCheckError, ?_⟩
    simp only [popFrom, EStateM.run_bind, EStateM.run_get, if_neg mounted]
    rfl

end Navigator

end Flutter
