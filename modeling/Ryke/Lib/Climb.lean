import Mathlib.Data.List.Perm.Subperm
import Mathlib.Tactic.ByContra

/-! Climbing by first fit: from a node, step to the first member of a pool that fits, until
a node is a top. Which tops are reached depends on the order of the pool; when every order
reaches one is a property of the nodes alone. -/

namespace Ryke.Lib

/-- What a climb goes by: the nodes it may stand on, those it may end at, and the steps. -/
structure Slope (α : Type) where
  usable : α → Bool
  top : α → Bool
  up : α → α → Bool

namespace Slope

variable {α : Type} {slope : Slope α} {pool other : List α} {node : α}

/-- Fewer than `hops` steps, always to the first member of the pool that fits. -/
def climb (slope : Slope α) (pool : List α) : Nat → α → Bool
  | 0, _ => false
  | hops + 1, node =>
      slope.usable node && (slope.top node ||
        match pool.find? (slope.up node) with
        | some next => climb slope pool hops next
        | none => false)

/-- Steps to members of the pool lead from the node to a top. -/
inductive Path (slope : Slope α) (pool : List α) : α → List α → Prop where
  | top {node : α} (usable : slope.usable node = true) (isTop : slope.top node = true) : Path slope pool node []
  | step {node next : α} {rest : List α} (usable : slope.usable node = true) (member : next ∈ pool)
      (up : slope.up node next = true) (path : Path slope pool next rest) : Path slope pool node (next :: rest)

/-- Whatever members of the pool are stepped to, the steps lead to a top. -/
inductive Sure (slope : Slope α) (pool : List α) : α → Prop where
  | top {node : α} (usable : slope.usable node = true) (isTop : slope.top node = true) : Sure slope pool node
  | step {node next : α} (usable : slope.usable node = true) (member : next ∈ pool)
      (up : slope.up node next = true) (all : ∀ next ∈ pool, slope.up node next = true → Sure slope pool next) :
      Sure slope pool node

theorem climb_of_top (usable : slope.usable node = true) (isTop : slope.top node = true) (hops : Nat) :
    slope.climb pool (hops + 1) node = true := by
  rw [climb, usable, isTop]
  rfl

theorem climb_of_step {next : α} (usable : slope.usable node = true) (first : pool.find? (slope.up node) = some next)
    {hops : Nat} (climbs : slope.climb pool hops next = true) : slope.climb pool (hops + 1) node = true := by
  rw [climb, usable, first]
  dsimp only
  rw [climbs, Bool.or_true, Bool.and_true]

theorem climb_succ {hops : Nat} (climbs : slope.climb pool (hops + 1) node = true) :
    slope.usable node = true ∧ (slope.top node = true ∨
      ∃ next, pool.find? (slope.up node) = some next ∧ slope.climb pool hops next = true) := by
  rw [climb, Bool.and_eq_true, Bool.or_eq_true] at climbs
  refine ⟨climbs.1, climbs.2.imp_right fun goes => ?_⟩
  split at goes
  next next first => exact ⟨next, first, goes⟩
  next => cases goes

theorem climb_mono {hops more : Nat} (longer : hops ≤ more) (climbs : slope.climb pool hops node = true) :
    slope.climb pool more node = true := by
  induction hops generalizing node more with
  | zero => cases climbs
  | succ hops ih =>
    obtain ⟨more, rfl⟩ : ∃ rest, more = rest + 1 := ⟨more - 1, by omega⟩
    obtain ⟨usable, isTop | ⟨next, first, rest⟩⟩ := climb_succ climbs
    · exact climb_of_top usable isTop more
    · exact climb_of_step usable first (ih (by omega) rest)

theorem path_of_climb {hops : Nat} (climbs : slope.climb pool hops node = true) :
    ∃ rest, Path slope pool node rest ∧ rest.length < hops := by
  induction hops generalizing node with
  | zero => cases climbs
  | succ hops ih =>
    obtain ⟨usable, isTop | ⟨next, first, later⟩⟩ := climb_succ climbs
    · exact ⟨[], .top usable isTop, Nat.succ_pos hops⟩
    · obtain ⟨rest, path, short⟩ := ih later
      exact ⟨next :: rest, .step usable (List.mem_of_find?_eq_some first) (List.find?_some first) path,
        Nat.succ_lt_succ short⟩

theorem Sure.congr (same : ∀ a, a ∈ pool ↔ a ∈ other) (sure : Sure slope pool node) : Sure slope other node := by
  induction sure with
  | top usable isTop => exact .top usable isTop
  | step usable member up _ ih =>
    exact .step usable ((same _).mp member) up fun next inOther fits => ih next ((same next).mpr inOther) fits

/-! ## How many steps a climb needs -/

theorem exists_chain {hops : Nat} (climbs : slope.climb pool (hops + 1) node = true)
    (needed : ¬ slope.climb pool hops node = true) :
    ∃ chain : List α, chain.length = hops ∧ chain.Nodup ∧
      ∀ a ∈ chain, a ∈ pool ∧ slope.climb pool hops a = true := by
  induction hops generalizing node with
  | zero => exact ⟨[], rfl, List.nodup_nil, fun a member => absurd member List.not_mem_nil⟩
  | succ hops ih =>
    obtain ⟨usable, isTop | ⟨next, first, rest⟩⟩ := climb_succ climbs
    · exact absurd (climb_of_top usable isTop hops) needed
    · have neededNext : ¬ slope.climb pool hops next = true := fun sooner => needed (climb_of_step usable first sooner)
      obtain ⟨chain, length, nodup, members⟩ := ih rest neededNext
      refine ⟨next :: chain, by rw [List.length_cons, length], List.nodup_cons.mpr ⟨?_, nodup⟩, ?_⟩
      · intro again
        exact neededNext (members next again).2
      · intro a member
        rcases List.mem_cons.mp member with rfl | inChain
        · exact ⟨List.mem_of_find?_eq_some first, rest⟩
        · obtain ⟨inPool, sooner⟩ := members a inChain
          exact ⟨inPool, climb_mono (Nat.le_succ hops) sooner⟩

/-- A climb that ends at all needs no more steps than the pool has members. -/
theorem climb_within {hops : Nat} (climbs : slope.climb pool hops node = true) :
    slope.climb pool (pool.length + 1) node = true := by
  induction hops with
  | zero => cases climbs
  | succ hops ih =>
    by_cases sooner : slope.climb pool hops node = true
    · exact ih sooner
    · obtain ⟨chain, length, nodup, members⟩ := exists_chain climbs sooner
      have inside : chain ⊆ pool := fun a member => (members a member).1
      have short := (List.subperm_of_subset nodup inside).length_le
      exact climb_mono (by omega) climbs

theorem Sure.climb (sure : Sure slope pool node) : slope.climb pool (pool.length + 1) node = true := by
  induction sure with
  | top usable isTop => exact climb_of_top usable isTop _
  | @step node next usable member up _ ih =>
    cases first : pool.find? (slope.up node) with
    | none => exact absurd up (List.find?_eq_none.mp first next member)
    | some found =>
      have later := ih found (List.mem_of_find?_eq_some first) (List.find?_some first)
      exact climb_within (climb_of_step usable first later)

/-! ## The order of the pool -/

open Classical in
noncomputable def worst (slope : Slope α) (pool : List α) : List α :=
  pool.filter (fun a => ¬ Sure slope pool a) ++ pool.filter fun a => !decide (¬ Sure slope pool a)

theorem worst_perm (slope : Slope α) (pool : List α) : (slope.worst pool).Perm pool :=
  List.filter_append_perm _ pool

/-- From a node that is not sure, the climb over that pool meets only such nodes. -/
theorem not_climb_worst (unsure : ¬ Sure slope pool node) (hops : Nat) :
    ¬ slope.climb (slope.worst pool) hops node = true := by
  induction hops generalizing node with
  | zero => exact Bool.false_ne_true
  | succ hops ih =>
    intro climbs
    obtain ⟨usable, isTop | ⟨next, first, rest⟩⟩ := climb_succ climbs
    · exact unsure (.top usable isTop)
    · apply ih ?_ rest
      intro sureNext
      -- a node found behind the front leaves no unsure one that fits
      rw [worst, List.find?_append, Option.or_eq_some_iff] at first
      rcases first with inFront | ⟨noneFits, inBack⟩
      · have member := List.mem_of_find?_eq_some inFront
        simp only [List.mem_filter, decide_eq_true_eq] at member
        exact member.2 sureNext
      · have member := List.mem_of_find?_eq_some inBack
        have inPool := (List.mem_filter.mp member).1
        refine unsure (.step usable inPool (List.find?_some inBack) fun a isMember fits => ?_)
        by_contra unsureA
        apply List.find?_eq_none.mp noneFits a ?_ fits
        simp only [List.mem_filter, decide_eq_true_eq]
        exact ⟨isMember, unsureA⟩

/-- A node is sure where the climb from it ends at a top over every order of the pool. -/
theorem sure_iff_climb_perm : Sure slope pool node ↔
    ∀ order : List α, order.Perm pool → slope.climb order (order.length + 1) node = true := by
  constructor
  · intro sure order perm
    exact (sure.congr fun a => perm.mem_iff.symm).climb
  · intro climbs
    by_contra unsure
    exact not_climb_worst unsure _ (climbs _ (slope.worst_perm pool))

end Slope

end Ryke.Lib
