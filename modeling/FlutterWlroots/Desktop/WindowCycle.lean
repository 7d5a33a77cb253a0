/-
  FlutterWlroots.Desktop.WindowCycle — from window to window (`get_next_mapped_view` in input.c).

  The search goes along the links of `views_list` in one direction: from behind the window it starts
  from to the head of the list, and then from the head on until it is back behind the window.  Both
  loops end, and together they look at every window once, the one they started from last.

    • `searchUntil_path`           — one loop over a part of the ring,
    • `getNextMappedView_around`   — both loops,
    • `getNextMappedView_complete` — what they find, and what one finds going on and on.
-/
import FlutterWlroots.Desktop.ShellSteps
import FlutterWlroots.Lib.CircularList

namespace FlutterWlroots.Desktop

open Lib FlutterWlroots.Compositor

/-! ## §1. The loops. -/

/-- A loop that goes on by `step` until `stop`, or until it comes to a view whose scene tree is
    enabled.  There is no result if it has not ended after `fuel` rounds. -/
def searchUntil (windows : Ptr → Window) (step : Option Ptr → Option Ptr) (stop : Option Ptr) :
    Nat → Option Ptr → Option (Option Ptr)
  | 0, iter => if iter = stop then some none else none
  | fuel + 1, iter =>
      if iter = stop then some none
      else
        match iter with
        -- the head of the list, which the second loop steps over
        | none => searchUntil windows step stop fuel (step none)
        | some candidate =>
            if (windows candidate).isShown then some (some candidate)
            else searchUntil windows step stop fuel (step (some candidate))

/-- `get_next_mapped_view`, over the links of the views; the head of the list is `none`. -/
def getNextMappedView (viewsList : CircularList Ptr) (windows : Ptr → Window) (fuel : Nat) (start : Ptr)
    (reverse : Bool) : Option (Option Ptr) :=
  if viewsList.next none = none then some none
  else
    let step := if reverse then viewsList.prev else viewsList.next
    match searchUntil windows step none fuel (step (some start)) with
    | none => none
    | some (some candidate) => some (some candidate)
    | some none => searchUntil windows step (step (some start)) fuel (step none)

/-! ## §2. What they find. -/

variable {windows : Ptr → Window} {step : Option Ptr → Option Ptr} {iter stop : Option Ptr}
  {viewsList : CircularList Ptr} {views : List Ptr} {start : Ptr} {fuel : Nat}

/-- A loop over a part of the ring that ends there. -/
theorem searchUntil_path (h : CircularList.Path step iter views stop) (hstop : ∀ v ∈ views, stop ≠ some v)
    (hfuel : views.length ≤ fuel) :
    searchUntil windows step stop fuel iter = some (views.find? fun v => (windows v).isShown) := by
  induction h generalizing fuel with
  | nil => cases fuel <;> exact if_pos rfl
  | @cons v views stop h ih =>
      obtain ⟨fuel, rfl⟩ := Nat.exists_eq_add_of_lt (Nat.lt_of_lt_of_le (Nat.zero_lt_succ _) hfuel)
      have hne : ¬ some v = stop := fun heq => hstop v (List.mem_cons_self ..) heq.symm
      rw [Nat.zero_add, searchUntil, if_neg hne]
      by_cases hshown : (windows v).isShown
      · rw [if_pos hshown, List.find?_cons_of_pos (p := fun v => (windows v).isShown) hshown]
      · rw [if_neg hshown, List.find?_cons_of_neg (p := fun v => (windows v).isShown) hshown]
        exact ih (fun w hw => hstop w (List.mem_cons_of_mem _ hw))
          (by rw [List.length_cons] at hfuel; omega)

/-- The windows in the direction of the search. -/
def directed (views : List Ptr) (reverse : Bool) : List Ptr :=
  if reverse then views.reverse else views

/-- The direction of the search, as a path. -/
theorem path_directed (h : viewsList.Holds views) (reverse : Bool) :
    let step := if reverse then viewsList.prev else viewsList.next
    CircularList.Path step (step none) (directed views reverse) none := by
  cases reverse with
  | true => exact h.prev
  | false => exact h.next

theorem mem_directed {v : Ptr} {reverse : Bool} : v ∈ directed views reverse ↔ v ∈ views := by
  cases reverse with
  | true => exact List.mem_reverse
  | false => exact Iff.rfl

theorem length_directed (views : List Ptr) (reverse : Bool) :
    (directed views reverse).length = views.length := by
  cases reverse with
  | true => exact List.length_reverse
  | false => rfl

theorem directed_nodup (h : viewsList.Holds views) (reverse : Bool) :
    (directed views reverse).Nodup := (path_directed h reverse).nodup

/-- There is something in the list if a view is. -/
theorem next_ne_none (h : viewsList.Holds views) (hstart : start ∈ views) :
    viewsList.next none ≠ none := by
  intro hempty
  have hpath := h.next
  rw [hempty] at hpath
  rw [hpath.unique (.nil none)] at hstart
  exact List.not_mem_nil hstart

/-- **Both loops**: from behind `start` around to `start`. -/
theorem getNextMappedView_around (h : viewsList.Holds views) (hstart : start ∈ views)
    (hfuel : views.length ≤ fuel) (reverse : Bool) :
    getNextMappedView viewsList windows fuel start reverse
      = some (CircularList.nextAround (fun v => (windows v).isShown) (directed views reverse)
        start) := by
  have hpath := path_directed h reverse
  have hnodup := directed_nodup h reverse
  have hlength := length_directed views reverse
  rw [getNextMappedView, if_neg (next_ne_none h hstart), CircularList.nextAround]
  dsimp only at hpath ⊢
  generalize (if reverse then viewsList.prev else viewsList.next) = step at hpath ⊢
  obtain ⟨before, after, hparts⟩ := List.append_of_mem (mem_directed.mpr hstart)
  rw [hparts] at hpath hnodup hlength ⊢
  rw [List.length_append, List.length_cons] at hlength
  obtain ⟨hbefore, hafter⟩ := CircularList.Path.append_iff.mp hpath
  have hthrough : CircularList.Path step (step none) (before ++ [start]) (step (some start)) :=
    CircularList.Path.append_iff.mpr ⟨hbefore, .nil _⟩
  -- the second loop ends at the view behind `start`, or at the head of the list
  have hstop : ∀ v ∈ before ++ [start], step (some start) ≠ some v := by
    intro v hv heq
    rw [heq] at hafter
    cases hafter with
    | cons hrest =>
        rw [List.append_cons, List.nodup_append] at hnodup
        exact hnodup.2.2 v hv v (List.mem_cons_self ..) rfl
  rw [CircularList.around_append hnodup, List.append_assoc, List.find?_append,
    searchUntil_path hafter (fun _ _ => (Option.some_ne_none _).symm) (by omega)]
  cases hfound : after.find? fun v => (windows v).isShown with
  | some v => rfl
  | none =>
      exact searchUntil_path hthrough hstop (by
        rw [List.length_append, List.length_singleton]
        omega)

/-- The search repeated, each time from the view that was found. -/
def searchedAgain (viewsList : CircularList Ptr) (windows : Ptr → Window) (fuel : Nat)
    (reverse : Bool) (times : Nat) (start : Ptr) : Option Ptr :=
  (fun view => view.bind fun v => (getNextMappedView viewsList windows fuel v reverse).join)^[times]
    (some start)

/-! ## §3. The windows one comes to. -/

/-- **`get_next_mapped_view`** returns: the first window that is shown behind `start`, going around to
    `start` itself, and none only if no window is shown.  From a window that is shown, going on and on
    one comes to every window that is shown, once before one is back. -/
theorem getNextMappedView_complete (viewsList : CircularList Ptr) (views : List Ptr)
    (windows : Ptr → Window) (start : Ptr) (reverse : Bool) (h : viewsList.Holds views)
    (hstart : start ∈ views) :
    (∀ fuel, views.length ≤ fuel →
      getNextMappedView viewsList windows fuel start reverse
        = some ((CircularList.around start (directed views reverse)).find?
          fun v => (windows v).isShown))
    ∧ ((CircularList.around start (directed views reverse)).find? (fun v => (windows v).isShown) = none
      ↔ ∀ v ∈ views, (windows v).isShown = false)
    ∧ ((windows start).isShown = true → ∃ visited : List Ptr, visited.Nodup
      ∧ (∀ v, v ∈ visited ↔ v ∈ views ∧ (windows v).isShown = true)
      ∧ visited.getLast? = some start
      ∧ ∀ fuel, views.length ≤ fuel → ∀ k (hk : k < visited.length),
        searchedAgain viewsList windows fuel reverse (k + 1) start = some visited[k]) := by
  have hnodup := directed_nodup h reverse
  have hstart' : start ∈ directed views reverse := mem_directed.mpr hstart
  refine ⟨fun fuel hfuel => getNextMappedView_around h hstart hfuel reverse, ?_, fun hshown => ?_⟩
  · rw [← CircularList.nextAround, CircularList.nextAround_eq_none_iff hnodup hstart']
    simp only [mem_directed]
  · have hperm := CircularList.visited_perm (p := fun v => (windows v).isShown) hnodup hstart'
    refine ⟨CircularList.visited (fun v => (windows v).isShown) (directed views reverse) start,
      hperm.nodup_iff.mpr (hnodup.filter _), fun v => ?_, CircularList.getLast?_visited hshown, ?_⟩
    · rw [hperm.mem_iff, List.mem_filter, mem_directed]
    · intro fuel hfuel k hk
      refine CircularList.iterate_visited hnodup hstart' (fun v hv => ?_) hk
      rw [getNextMappedView_around h (mem_directed.mp hv) hfuel reverse, Option.join_some]

/-- Three windows, of which the first is hidden. -/
def oneHidden (v : Ptr) : Window :=
  { Window.fresh with sceneTree := some ⟨0, 0, v ≠ 4⟩ }

/-- From the last one, forwards. -/
theorem getNextMappedView_complete_three :
    (∀ fuel, [4, 5, 6].length ≤ fuel →
      getNextMappedView (.ofList [4, 5, 6]) oneHidden fuel 6 false
        = some ((CircularList.around 6 (directed [4, 5, 6] false)).find?
          fun v => (oneHidden v).isShown))
    ∧ ((CircularList.around 6 (directed [4, 5, 6] false)).find? (fun v => (oneHidden v).isShown) = none
      ↔ ∀ v ∈ [4, 5, 6], (oneHidden v).isShown = false)
    ∧ ((oneHidden 6).isShown = true → ∃ visited : List Ptr, visited.Nodup
      ∧ (∀ v, v ∈ visited ↔ v ∈ [4, 5, 6] ∧ (oneHidden v).isShown = true)
      ∧ visited.getLast? = some 6
      ∧ ∀ fuel, [4, 5, 6].length ≤ fuel → ∀ k (hk : k < visited.length),
        searchedAgain (.ofList [4, 5, 6]) oneHidden fuel false (k + 1) 6 = some visited[k]) :=
  getNextMappedView_complete (.ofList [4, 5, 6]) [4, 5, 6] oneHidden 6 false
    (CircularList.holds_ofList (by decide)) (by decide)

example : getNextMappedView (.ofList [4, 5, 6]) oneHidden 3 6 false = some (some 5) := by decide

end FlutterWlroots.Desktop
