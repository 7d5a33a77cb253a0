/-
  FlutterWlroots.Compositor.Handles — handle_map.cc as a map that chooses its keys.

  The handles of views, subsurfaces and popups come from `handle_map_add`, which counts a `uint32_t`
  up and relies on `std::map::insert`.  `new_accepts_iff` compares the calls with the specification:
  a run is right exactly as long as each `handle_map_add` finds the counter at a value that is
  neither 0 nor in use.  The counter starts at 1, so the first 2^32 - 1 handles are right
  (`new_along_admits`); after that it comes to 0, and then to the handles of old entries.
-/
import FlutterWlroots.Lib.FreshMap
import FlutterWlroots.Compositor.Instance

namespace FlutterWlroots.Compositor.HandleMap

open Lib Lib.FreshMap

variable {α : Type} {m : HandleMap α} {v : α} {handle : UInt32}

/-! ## §1. Calls. -/

/-- A call of `handle_map_add`, `handle_map_remove` or `handle_map_get`. -/
def call (m : HandleMap α) : Op UInt32 α → Answer UInt32 α × HandleMap α
  | .add value => (.added (m.add value).1, (m.add value).2)
  | .remove handle => (.removed (m.remove handle).1, (m.remove handle).2)
  | .get handle => (.got (m.get handle), m)

/-- The counter is at a handle that `handle_map_add` may give out. -/
def NextUnused (m : HandleMap α) : Prop := m.next ≠ 0 ∧ m.next ∉ m.map

/-- What the handle map needs of a call. -/
def Admits (m : HandleMap α) : Op UInt32 α → Prop
  | .add _ => m.NextUnused
  | _ => True

theorem get_eq_none_iff : m.get handle = none ↔ handle ∉ m.map :=
  AList.lookup_eq_none

theorem get_add_eq (h : m.next ∉ m.map) (v : α) :
    (m.add v).2.get = Function.update m.get m.next (some v) := by
  funext key
  have hadd : (m.add v).2.get key = (m.map.insert m.next v).lookup key := by
    rw [add, if_neg h]
    rfl
  rw [hadd]
  by_cases hkey : key = m.next
  · subst hkey
    rw [AList.lookup_insert, Function.update_self]
  · rw [AList.lookup_insert_ne hkey, Function.update_of_ne hkey]
    rfl

theorem remove_of_mem (h : handle ∈ m.map) :
    m.remove handle = (true, { m with map := m.map.erase handle }) := if_pos h

theorem remove_of_notMem (h : handle ∉ m.map) : m.remove handle = (false, m) := if_neg h

theorem get_erase_eq (m : HandleMap α) (handle : UInt32) :
    get { m with map := m.map.erase handle } = Function.update m.get handle none := by
  funext key
  by_cases hkey : key = handle
  · subst hkey
    rw [Function.update_self]
    exact AList.lookup_erase key m.map
  · rw [Function.update_of_ne hkey]
    exact AList.lookup_erase_ne hkey

/-! ## §2. Refinement. -/

/-- A call that is admitted is answered right. -/
theorem call_step {op : Op UInt32 α} (h : m.Admits op) :
    Step 0 m.get op (m.call op).1 (m.call op).2.get := by
  cases op with
  | add v =>
      show Step 0 m.get (.add v) (.added m.next) (m.add v).2.get
      rw [get_add_eq h.2]
      exact .add h.1 (get_eq_none_iff.mpr h.2)
  | remove handle =>
      show Step 0 m.get (.remove handle) (.removed (m.remove handle).1) (m.remove handle).2.get
      by_cases hmem : handle ∈ m.map
      · obtain ⟨v, hv⟩ := Option.ne_none_iff_exists'.mp (mt get_eq_none_iff.mp (not_not.mpr hmem))
        rw [remove_of_mem hmem, get_erase_eq]
        exact .remove hv
      · rw [remove_of_notMem hmem]
        exact .removeOther (get_eq_none_iff.mpr hmem)
  | get handle =>
      show Step 0 m.get (.get handle) (.got (m.get handle)) m.get
      cases hget : m.get handle with
      | none => exact .getOther hget
      | some v => exact .get hget

/-- A call that is answered right is admitted. -/
theorem admits_of_step {op : Op UInt32 α} {entries : UInt32 → Option α}
    (h : Step 0 m.get op (m.call op).1 entries) : m.Admits op := by
  cases op with
  | add v =>
      have hadd : Step 0 m.get (.add v) (.added m.next) entries := h
      cases hadd with
      | add hnull hfree => exact ⟨hnull, get_eq_none_iff.mp hfree⟩
  | remove handle => trivial
  | get handle => trivial

theorem new_get : (new : HandleMap α).get = fun _ => none := funext get_new

/-- Runs from any handle map. -/
theorem call_accepts_iff (ops : List (Op UInt32 α)) (m : HandleMap α) :
    Accepts 0 m.get ops (answers call m ops) ↔ Along call Admits m ops :=
  accepts_iff get (fun _ _ => call_step) (fun _ _ _ => admits_of_step) ops m

/-- **A new handle map is right as long as the counter is at an unused handle.** -/
theorem new_accepts_iff (ops : List (Op UInt32 α)) :
    Accepts 0 (fun _ => none) ops (answers call new ops) ↔ Along call Admits new ops := by
  rw [← new_get]
  exact call_accepts_iff ops new

/-! ## §3. The counter. -/

/-- How often `handle_map_add` is called. -/
def adds : List (Op UInt32 α) → Nat
  | [] => 0
  | .add _ :: ops => adds ops + 1
  | _ :: ops => adds ops

theorem toNat_next_add (h : m.next.toNat + 1 < 2 ^ 32) :
    (m.add v).2.next.toNat = m.next.toNat + 1 := by
  show (m.next + 1).toNat = _
  rw [UInt32.toNat_add]
  exact Nat.mod_eq_of_lt h

theorem mem_add (h : handle ∈ (m.add v).2.map) : handle = m.next ∨ handle ∈ m.map := by
  obtain ⟨w, hw⟩ := Option.isSome_iff_exists.mp (AList.lookup_isSome.mpr h)
  rcases get_add hw with ⟨rfl, -⟩ | hw
  · exact .inl rfl
  · exact .inr (AList.lookup_isSome.mp (Option.isSome_of_eq_some hw))

theorem mem_remove {key : UInt32} (h : handle ∈ (m.remove key).2.map) : handle ∈ m.map := by
  obtain ⟨w, hw⟩ := Option.isSome_iff_exists.mp (AList.lookup_isSome.mpr h)
  exact AList.lookup_isSome.mp (Option.isSome_of_eq_some (get_remove hw).2)

@[simp] theorem next_remove (m : HandleMap α) (key : UInt32) : (m.remove key).2.next = m.next := by
  unfold remove
  split <;> rfl

theorem along_of_adds_eq_zero {ops : List (Op UInt32 α)} (h : adds ops = 0) :
    ∀ m : HandleMap α, Along call Admits m ops := by
  induction ops with
  | nil => exact fun _ => trivial
  | cons op ops ih =>
      intro m
      cases op with
      | add v => cases h
      | remove handle => exact ⟨trivial, ih h _⟩
      | get handle => exact ⟨trivial, ih h _⟩

/-- Before the counter wraps round, every handle in use is below it. -/
theorem along_admits (ops : List (Op UInt32 α)) : ∀ m : HandleMap α, 0 < m.next.toNat →
    (∀ k ∈ m.map, k.toNat < m.next.toNat) → m.next.toNat + adds ops ≤ 2 ^ 32 →
    Along call Admits m ops := by
  induction ops with
  | nil => exact fun _ _ _ _ => trivial
  | cons op ops ih =>
      intro m hpos hbelow hadds
      cases op with
      | add v =>
          have hstep : m.next.toNat + (adds ops + 1) ≤ 2 ^ 32 := hadds
          refine ⟨⟨?_, fun hmem => Nat.lt_irrefl _ (hbelow _ hmem)⟩, ?_⟩
          · intro h0
            rw [h0] at hpos
            exact absurd hpos (by decide)
          -- the last handle before the counter wraps round may be given out, but only once
          · rcases Nat.lt_or_ge (m.next.toNat + 1) (2 ^ 32) with hlt | hge
            · have hnext := toNat_next_add (v := v) hlt
              refine ih _ ?_ (fun k hk => ?_) ?_
              · show 0 < (m.add v).2.next.toNat
                omega
              · show k.toNat < (m.add v).2.next.toNat
                rcases mem_add hk with rfl | hk
                · omega
                · have := hbelow k hk
                  omega
              · show (m.add v).2.next.toNat + _ ≤ _
                omega
            · have hnone : adds ops = 0 := by omega
              exact along_of_adds_eq_zero hnone _
      | remove handle =>
          refine ⟨trivial, ih _ ?_ (fun k hk => ?_) ?_⟩
          · show 0 < (m.remove handle).2.next.toNat
            rwa [next_remove]
          · show k.toNat < (m.remove handle).2.next.toNat
            rw [next_remove]
            exact hbelow k (mem_remove hk)
          · show (m.remove handle).2.next.toNat + _ ≤ _
            rwa [next_remove]
      | get handle => exact ⟨trivial, ih m hpos hbelow hadds⟩

/-- **The first 2^32 - 1 handles are right**, whatever is removed in between. -/
theorem new_along_admits {ops : List (Op UInt32 α)} (h : adds ops < 2 ^ 32) :
    Along call Admits new ops := by
  refine along_admits ops new Nat.one_pos (fun k hk => absurd hk (AList.notMem_empty k)) ?_
  show 1 + adds ops ≤ 2 ^ 32
  omega

theorem toNat_next_after_adds (n : Nat) (v : α) : ∀ m : HandleMap α,
    (after call m (List.replicate n (.add v))).next.toNat = (m.next.toNat + n) % 2 ^ 32 := by
  induction n with
  | zero => exact fun m => (Nat.mod_eq_of_lt m.next.toNat_lt).symm
  | succ n ih =>
      intro m
      rw [List.replicate_succ]
      show (after call (m.add v).2 _).next.toNat = _
      rw [ih]
      show ((m.next + 1).toNat + n) % 2 ^ 32 = _
      rw [UInt32.toNat_add]
      show ((m.next.toNat + 1) % 2 ^ 32 + n) % 2 ^ 32 = _
      omega

/-- The handle given out for the 2^32-th value is 0. -/
theorem not_accepts_wrapped :
    ¬ Accepts 0 (fun _ => none)
      (List.replicate (2 ^ 32 - 1) (.add ()) ++ [.add ()])
      (answers (call (α := Unit)) new (List.replicate (2 ^ 32 - 1) (.add ()) ++ [.add ()])) := by
  rw [← new_get, call_accepts_iff, along_append]
  rintro ⟨-, ⟨hnext, -⟩, -⟩
  refine hnext (UInt32.toNat_inj.mp ?_)
  rw [toNat_next_after_adds]
  rfl

end FlutterWlroots.Compositor.HandleMap
