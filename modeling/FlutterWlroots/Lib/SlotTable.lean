/-
  FlutterWlroots.Lib.SlotTable — a map in a fixed number of slots.

  A slot is free or holds a key with its value.  `put` overwrites the entry of the key or takes the
  first free slot, and fails if there is none; `erase` frees the slot of the key.  As long as no key
  has two slots (`Distinct`), which all operations keep, the table is a finite map:

    • `get_put`   — the map updated at the key,
    • `get_erase` — the key taken out,
    • `exists_put` — room for a key that is there, or if a slot is free.
-/
import Mathlib.Data.List.Nodup
import Mathlib.Logic.Function.Basic

namespace Lib

/-- Slots, free or with a key and its value. -/
abbrev SlotTable (κ ν : Type) := List (Option (κ × ν))

namespace SlotTable

variable {κ ν : Type} {t t' : SlotTable κ ν} {key : κ} {v : ν}

/-! ## §1. Slots. -/

def empty (size : Nat) : SlotTable κ ν := List.replicate size none

/-- The first free slot taken. -/
def occupy (key : κ) (v : ν) : SlotTable κ ν → Option (SlotTable κ ν)
  | [] => none
  | none :: t => some (some (key, v) :: t)
  | some entry :: t => (occupy key v t).map (some entry :: ·)

/-- The keys in use. -/
def keys (t : SlotTable κ ν) : List κ := (t.filterMap id).map (·.1)

/-- No key has two slots. -/
def Distinct (t : SlotTable κ ν) : Prop := t.keys.Nodup

@[simp] theorem keys_nil : keys ([] : SlotTable κ ν) = [] := rfl

@[simp] theorem keys_cons_none : keys (none :: t) = t.keys := rfl

@[simp] theorem keys_cons_some (entry : κ × ν) : keys (some entry :: t) = entry.1 :: t.keys := rfl

theorem keys_occupy (h : t.occupy key v = some t') : t'.keys.Perm (key :: t.keys) := by
  induction t generalizing t' with
  | nil => cases h
  | cons slot t ih =>
      cases slot with
      | none => cases h; rfl
      | some entry =>
          obtain ⟨u, hu, rfl⟩ := Option.map_eq_some_iff.mp h
          exact ((ih hu).cons entry.1).trans (.swap ..)

theorem distinct_empty (size : Nat) : (empty size : SlotTable κ ν).Distinct := by
  unfold Distinct keys empty
  simp

theorem occupy_eq_none_iff : t.occupy key v = none ↔ none ∉ t := by
  induction t with
  | nil => simp [occupy]
  | cons slot t ih =>
      cases slot with
      | none => simp [occupy]
      | some entry => simp [occupy, ih]

theorem length_occupy (h : t.occupy key v = some t') : t'.length = t.length := by
  induction t generalizing t' with
  | nil => cases h
  | cons slot t ih =>
      cases slot with
      | none => cases h; rfl
      | some entry =>
          obtain ⟨u, hu, rfl⟩ := Option.map_eq_some_iff.mp h
          exact congrArg Nat.succ (ih hu)

/-- Fewer keys than slots leave a slot free. -/
theorem none_mem_of_lt (h : t.keys.length < t.length) : none ∈ t := by
  induction t with
  | nil => cases h
  | cons slot t ih =>
      cases slot with
      | none => exact List.mem_cons_self
      | some entry => exact List.mem_cons_of_mem _ (ih (Nat.lt_of_succ_lt_succ h))

/-! ## §2. Operations by key. -/

variable [DecidableEq κ]

/-- The value in the first slot of the key. -/
def get : SlotTable κ ν → κ → Option ν
  | [], _ => none
  | none :: t, key => get t key
  | some entry :: t, key => if entry.1 = key then some entry.2 else get t key

/-- The first slot of the key overwritten. -/
def overwrite (key : κ) (v : ν) : SlotTable κ ν → Option (SlotTable κ ν)
  | [] => none
  | none :: t => (overwrite key v t).map (none :: ·)
  | some entry :: t =>
      if entry.1 = key then some (some (entry.1, v) :: t)
      else (overwrite key v t).map (some entry :: ·)

/-- The key's slot, or else a free one, gets the value. -/
def put (t : SlotTable κ ν) (key : κ) (v : ν) : Option (SlotTable κ ν) :=
  match t.overwrite key v with
  | some t' => some t'
  | none => t.occupy key v

/-- The first slot of the key freed. -/
def erase : SlotTable κ ν → κ → SlotTable κ ν
  | [], _ => []
  | none :: t, key => none :: erase t key
  | some entry :: t, key => if entry.1 = key then none :: t else some entry :: erase t key

/-! ## §3. Keys. -/

theorem get_eq_none_iff : t.get key = none ↔ key ∉ t.keys := by
  induction t with
  | nil => simp [get]
  | cons slot t ih =>
      cases slot with
      | none => simpa [get] using ih
      | some entry =>
          by_cases hk : entry.1 = key
          · simp [get, hk]
          · simp [get, hk, Ne.symm hk, ih]

theorem overwrite_eq_none_iff : t.overwrite key v = none ↔ key ∉ t.keys := by
  induction t with
  | nil => simp [overwrite]
  | cons slot t ih =>
      cases slot with
      | none => simpa [overwrite] using ih
      | some entry =>
          by_cases hk : entry.1 = key
          · simp [overwrite, hk]
          · simp [overwrite, hk, Ne.symm hk, ih]

theorem keys_overwrite (h : t.overwrite key v = some t') : t'.keys = t.keys := by
  induction t generalizing t' with
  | nil => cases h
  | cons slot t ih =>
      cases slot with
      | none =>
          obtain ⟨u, hu, rfl⟩ := Option.map_eq_some_iff.mp h
          have hu' := ih hu
          exact hu'
      | some entry =>
          rw [overwrite] at h
          split at h
          next => cases h; rfl
          next =>
            obtain ⟨u, hu, rfl⟩ := Option.map_eq_some_iff.mp h
            exact congrArg (entry.1 :: ·) (ih hu)

theorem keys_erase_sublist (t : SlotTable κ ν) (key : κ) : (t.erase key).keys.Sublist t.keys := by
  induction t with
  | nil => exact .refl _
  | cons slot t ih =>
      cases slot with
      | none => exact ih
      | some entry =>
          rw [erase]
          split
          next => exact List.sublist_cons_self ..
          next => exact ih.cons_cons entry.1

/-! ## §4. The operations keep keys apart. -/

theorem Distinct.put (ht : t.Distinct) (h : t.put key v = some t') : t'.Distinct := by
  unfold SlotTable.put at h
  split at h
  next u hu =>
    cases h
    show t'.keys.Nodup
    rw [keys_overwrite hu]
    exact ht
  next hnone =>
    have hkey := overwrite_eq_none_iff.mp hnone
    exact (keys_occupy h).nodup_iff.mpr (List.nodup_cons.mpr ⟨hkey, ht⟩)

theorem Distinct.erase (ht : t.Distinct) (key : κ) : (t.erase key).Distinct :=
  List.Nodup.sublist (keys_erase_sublist t key) ht

/-! ## §5. Reading after writing. -/

theorem get_overwrite (h : t.overwrite key v = some t') :
    t'.get = Function.update t.get key (some v) := by
  induction t generalizing t' with
  | nil => cases h
  | cons slot t ih =>
      cases slot with
      | none =>
          obtain ⟨u, hu, rfl⟩ := Option.map_eq_some_iff.mp h
          have hu' := ih hu
          exact hu'
      | some entry =>
          funext k
          rw [overwrite] at h
          split at h
          next heq =>
            cases h
            by_cases hk : k = key
            · simp [get, heq, hk]
            · simp [get, heq, hk, Ne.symm hk]
          next hne =>
            obtain ⟨u, hu, rfl⟩ := Option.map_eq_some_iff.mp h
            have hu' := congrFun (ih hu) k
            by_cases hk : k = key
            · subst hk
              simpa [get, hne] using hu'
            · by_cases he : entry.1 = k
              · simp [get, hk, he]
              · simpa [get, hk, he] using hu'

theorem get_occupy (hkey : key ∉ t.keys) (h : t.occupy key v = some t') :
    t'.get = Function.update t.get key (some v) := by
  induction t generalizing t' with
  | nil => cases h
  | cons slot t ih =>
      cases slot with
      | none =>
          cases h
          funext k
          by_cases hk : k = key
          · simp [get, hk]
          · simp [get, hk, Ne.symm hk]
      | some entry =>
          obtain ⟨u, hu, rfl⟩ := Option.map_eq_some_iff.mp h
          obtain ⟨hne, hkey⟩ := not_or.mp (mt List.mem_cons.mpr hkey)
          funext k
          have hu' := congrFun (ih hkey hu) k
          by_cases hk : k = key
          · subst hk
            simpa [get, Ne.symm hne] using hu'
          · by_cases he : entry.1 = k
            · simp [get, hk, he]
            · simpa [get, hk, he] using hu'

/-- **A value put in is read back, and nothing else changes.** -/
theorem get_put (h : t.put key v = some t') : t'.get = Function.update t.get key (some v) := by
  unfold put at h
  split at h
  next u hu =>
    cases h
    exact get_overwrite hu
  next hnone => exact get_occupy (overwrite_eq_none_iff.mp hnone) h

/-- **A key taken out is gone, and nothing else changes.** -/
theorem get_erase (ht : t.Distinct) (key : κ) :
    (t.erase key).get = Function.update t.get key none := by
  induction t with
  | nil =>
      funext k
      by_cases hk : k = key
      · simp [erase, get, hk]
      · simp [erase, get, hk]
  | cons slot t ih =>
      cases slot with
      | none => exact ih ht
      | some entry =>
          obtain ⟨hentry, ht⟩ := List.nodup_cons.mp ht
          funext k
          have ih' := congrFun (ih ht) k
          by_cases he : entry.1 = key
          · -- no second slot of the key behind the freed one
            have hnone : get t key = none := by
              rw [get_eq_none_iff, ← he]
              exact hentry
            by_cases hk : k = key
            · simp [erase, get, he, hk, hnone]
            · simp [erase, get, he, hk, Ne.symm hk]
          · by_cases hk : k = key
            · subst hk
              simpa [erase, get, he] using ih'
            · by_cases hek : entry.1 = k
              · simp [erase, get, hk, hek]
              · simpa [erase, get, he, hk, hek] using ih'

theorem mem_keys_iff : key ∈ t.keys ↔ ∃ v, t.get key = some v := by
  rw [← not_iff_not, ← get_eq_none_iff, ← Option.ne_none_iff_exists', not_not]

theorem mem_keys_put {k : κ} (h : t.put key v = some t') :
    k ∈ t'.keys ↔ k = key ∨ k ∈ t.keys := by
  rw [mem_keys_iff, mem_keys_iff, get_put h]
  by_cases hk : k = key
  · subst hk
    simp
  · simp [hk]

theorem mem_keys_erase {k : κ} (ht : t.Distinct) :
    k ∈ (t.erase key).keys ↔ k ≠ key ∧ k ∈ t.keys := by
  rw [mem_keys_iff, mem_keys_iff, get_erase ht]
  by_cases hk : k = key
  · subst hk
    simp
  · simp [hk]

/-! ## §6. Size. -/

theorem length_overwrite (h : t.overwrite key v = some t') : t'.length = t.length := by
  induction t generalizing t' with
  | nil => cases h
  | cons slot t ih =>
      cases slot with
      | none =>
          obtain ⟨u, hu, rfl⟩ := Option.map_eq_some_iff.mp h
          exact congrArg Nat.succ (ih hu)
      | some entry =>
          rw [overwrite] at h
          split at h
          next => cases h; rfl
          next =>
            obtain ⟨u, hu, rfl⟩ := Option.map_eq_some_iff.mp h
            exact congrArg Nat.succ (ih hu)

theorem length_put (h : t.put key v = some t') : t'.length = t.length := by
  unfold put at h
  split at h
  next u hu =>
    cases h
    exact length_overwrite hu
  next => exact length_occupy h

theorem length_erase (t : SlotTable κ ν) (key : κ) : (t.erase key).length = t.length := by
  induction t with
  | nil => rfl
  | cons slot t ih =>
      cases slot with
      | none => exact congrArg Nat.succ ih
      | some entry =>
          rw [erase]
          split
          next => rfl
          next => exact congrArg Nat.succ ih

/-- **There is room for a key in use, and for any key while a slot is free.** -/
theorem exists_put (h : key ∈ t.keys ∨ none ∈ t) (v : ν) : ∃ t', t.put key v = some t' := by
  unfold put
  cases hover : t.overwrite key v with
  | some t' => exact ⟨t', rfl⟩
  | none =>
      have hkey := overwrite_eq_none_iff.mp hover
      exact Option.ne_none_iff_exists'.mp (mt occupy_eq_none_iff.mp
        (not_not.mpr (h.resolve_left hkey)))

end SlotTable

end Lib
