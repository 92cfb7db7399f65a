import Mathlib.Data.List.Nodup
import Mathlib.Logic.Function.Basic

/-! Finite maps as lookup functions, with the operations of a hash map. Two tables
are equal when every lookup agrees. -/

namespace Ryke.Lib

def Table (κ α : Type) := κ → Option α

namespace Table

def empty {κ α : Type} : Table κ α := fun _ => none

def get {κ α : Type} (table : Table κ α) (key : κ) : Option α := table key

def insert {κ α : Type} [DecidableEq κ] (table : Table κ α) (key : κ) (value : α) : Table κ α :=
  Function.update table key (some value)

def remove {κ α : Type} [DecidableEq κ] (table : Table κ α) (key : κ) : Table κ α :=
  Function.update table key none

def ofList {κ α : Type} [DecidableEq κ] (pairs : List (κ × α)) : Table κ α :=
  fun key => (pairs.find? (fun pair => pair.1 = key)).map Prod.snd

@[simp] theorem get_empty {κ α : Type} (key : κ) : (empty : Table κ α).get key = none := rfl

@[simp] theorem get_insert_self {κ α : Type} [DecidableEq κ] (table : Table κ α) (key : κ)
    (value : α) : (table.insert key value).get key = some value :=
  Function.update_self ..

theorem get_insert_of_ne {κ α : Type} [DecidableEq κ] (table : Table κ α) {key other : κ}
    (value : α) (different : other ≠ key) :
    (table.insert key value).get other = table.get other :=
  Function.update_of_ne different ..

theorem get_insert {κ α : Type} [DecidableEq κ] (table : Table κ α) (key other : κ) (value : α) :
    (table.insert key value).get other = if other = key then some value else table.get other := by
  split
  next same => rw [same, get_insert_self]
  next different => exact get_insert_of_ne table value different

@[simp] theorem get_remove_self {κ α : Type} [DecidableEq κ] (table : Table κ α) (key : κ) :
    (table.remove key).get key = none :=
  Function.update_self ..

theorem get_remove {κ α : Type} [DecidableEq κ] (table : Table κ α) (key other : κ) :
    (table.remove key).get other = if other = key then none else table.get other := by
  split
  next same => rw [same, get_remove_self]
  next different => exact Function.update_of_ne different ..

/-- The items of a list by their keys; of several with one key the first. -/
def byKey {κ α : Type} [DecidableEq κ] (key : α → κ) (items : List α) : Table κ α :=
  fun k => items.find? fun item => key item = k

theorem get_byKey {κ α : Type} [DecidableEq κ] {key : α → κ} {items : List α}
    (distinct : (items.map key).Nodup) {item : α} (member : item ∈ items) :
    (byKey key items).get (key item) = some item := by
  induction items with
  | nil => cases member
  | cons first rest ih =>
    rw [List.map_cons, List.nodup_cons] at distinct
    simp only [byKey, get, List.find?_cons]
    rcases List.mem_cons.mp member with rfl | later
    · rw [decide_eq_true rfl]
    · have different : key first ≠ key item := by
        intro same
        exact distinct.1 (same ▸ List.mem_map_of_mem later)
      rw [decide_eq_false different]
      exact ih distinct.2 later

theorem filterMap_byKey {κ α : Type} [DecidableEq κ] {key : α → κ} {items ordered : List α}
    (perm : ordered.Perm items) (distinct : (items.map key).Nodup) :
    (ordered.map key).filterMap (byKey key items).get = ordered := by
  have found : ∀ item ∈ ordered, (byKey key items).get (key item) = some item :=
    fun item member => get_byKey distinct (perm.mem_iff.mp member)
  clear perm
  induction ordered with
  | nil => rfl
  | cons first rest ih =>
    rw [List.map_cons, List.filterMap_cons_some (found first List.mem_cons_self),
      ih fun item member => found item (List.mem_cons_of_mem _ member)]

theorem byKey_perm {κ α : Type} [DecidableEq κ] {key : α → κ} {items others : List α}
    (perm : others.Perm items) (distinct : (items.map key).Nodup) : byKey key others = byKey key items := by
  have distinct' : (others.map key).Nodup := (perm.map key).nodup_iff.mpr distinct
  funext k
  by_cases known : k ∈ items.map key
  · obtain ⟨item, member, rfl⟩ := List.mem_map.mp known
    exact (get_byKey distinct' (perm.mem_iff.mpr member)).trans (get_byKey distinct member).symm
  · have absent : ∀ list : List α, k ∉ list.map key → byKey key list k = none := by
      intro list unknown
      rw [byKey, List.find?_eq_none]
      intro item member same
      exact unknown (of_decide_eq_true same ▸ List.mem_map_of_mem member)
    rw [absent items known, absent others fun inOthers => known ((perm.map key).mem_iff.mp inOthers)]

/-! ## One value, one key -/

/-- No value stands under two keys. -/
def Apart {κ α : Type} (table : Table κ α) : Prop :=
  ∀ one other value, table.get one = some value → table.get other = some value → one = other

section Apart

variable {κ α : Type} {before after : Table κ α}

theorem Apart.move (apart : before.Apart) (origin : κ → κ)
    (moved : ∀ key value, after.get key = some value → before.get (origin key) = some value)
    (separate : ∀ one other, (after.get one).isSome = true → (after.get other).isSome = true →
      origin one = origin other → one = other) : after.Apart := by
  intro one other value isOne isOther
  apply separate
  · rw [isOne]
    rfl
  · rw [isOther]
    rfl
  · exact apart _ _ value (moved one value isOne) (moved other value isOther)

theorem Apart.mono (apart : before.Apart)
    (kept : ∀ key value, after.get key = some value → before.get key = some value) : after.Apart :=
  apart.move id kept fun _ _ _ _ same => same

theorem Apart.mint (apart : before.Apart) {place : κ} {value : α} (fresh : ∀ key, before.get key ≠ some value)
    (here : after.get place = some value)
    (kept : ∀ key other, key ≠ place → after.get key = some other → before.get key = some other) : after.Apart := by
  classical
  intro one other shared isOne isOther
  by_cases atOne : one = place <;> by_cases atOther : other = place
  · rw [atOne, atOther]
  · rw [atOne, here] at isOne
    cases isOne
    exact absurd (kept other value atOther isOther) (fresh other)
  · rw [atOther, here] at isOther
    cases isOther
    exact absurd (kept one value atOne isOne) (fresh one)
  · exact apart one other shared (kept one shared atOne isOne) (kept other shared atOther isOther)

end Apart

end Table

end Ryke.Lib
