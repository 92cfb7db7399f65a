import Ryke.Lib.Checked

/-! Bytes cut from the front into consecutive pieces of given sizes. A program that moves
an offset behind every slice it takes reads those pieces, as long as the sizes together
stay within the bytes; its offset is a machine word, and a slice out of range ends the run. -/

namespace Ryke.Lib

/-! ## Machine words -/

namespace Usize

def add (a b : Nat) : Nat := (a + b) % 2 ^ 64

def mul (a b : Nat) : Nat := a * b % 2 ^ 64

/-- `isize::MAX`, the most bytes that one `Vec` holds. -/
def isizeMax : Nat := 2 ^ 63 - 1

theorem add_eq {a b : Nat} (fits : a + b < 2 ^ 64) : add a b = a + b := Nat.mod_eq_of_lt fits

end Usize

/-! ## Pieces -/

/-- The pieces of the given sizes, from the front; what is left over is dropped. -/
def cut : Bytes → List Nat → List Bytes
  | _, [] => []
  | b, n :: sizes => b.take n :: cut (b.drop n) sizes

theorem cut_lengths {b : Bytes} {sizes : List Nat} (covers : sizes.sum ≤ b.length) :
    (cut b sizes).map List.length = sizes := by
  induction sizes generalizing b with
  | nil => rfl
  | cons n sizes ih =>
    rw [List.sum_cons] at covers
    have rest : sizes.sum ≤ (b.drop n).length := by rw [List.length_drop]; omega
    have first : (b.take n).length = n := by rw [List.length_take]; omega
    rw [cut, List.map_cons, first, ih rest]

theorem cut_flatten (b : Bytes) (sizes : List Nat) : (cut b sizes).flatten = b.take sizes.sum := by
  induction sizes generalizing b with
  | nil => simp [cut]
  | cons n sizes ih => rw [cut, List.flatten_cons, ih, List.sum_cons, List.take_add]

/-! ## A cursor -/

/-- `let slice = b[off..off + n].to_vec(); off += n; slice`. -/
def take (b : Bytes) (n : Nat) : StateT Nat Option Bytes := fun off => do
  let slice ← Checked.range b off (Usize.add off n)
  return (slice, Usize.add off n)

/-- One piece is there exactly when it ends within the bytes: an end that wraps around
the word lies in front of its start. -/
theorem take_run {b : Bytes} {n off : Nat} (small : b.length < 2 ^ 64) (word : n < 2 ^ 64)
    (inside : off ≤ b.length) :
    (take b n).run off =
      if off + n ≤ b.length then some (slice b off (off + n), off + n) else none := by
  change (Checked.range b off (Usize.add off n)).bind _ = _
  by_cases fits : off + n ≤ b.length
  · rw [if_pos fits, Usize.add_eq (by omega), Checked.range_inside (by omega) fits]
    rfl
  · have leaves : ¬ (off ≤ Usize.add off n ∧ Usize.add off n ≤ b.length) := by
      rw [Usize.add]
      omega
    rw [if_neg fits, Checked.range, if_neg leaves]
    rfl

/-- A cursor that takes piece after piece reads all of them, or leaves the bytes. -/
theorem mapM_take_run {b : Bytes} {sizes : List Nat} {off : Nat} (small : b.length < 2 ^ 64)
    (words : ∀ n ∈ sizes, n < 2 ^ 64) (inside : off ≤ b.length) :
    (sizes.mapM (take b)).run off =
      if off + sizes.sum ≤ b.length then some (cut (b.drop off) sizes, off + sizes.sum) else none := by
  induction sizes generalizing off with
  | nil =>
    rw [List.sum_nil, Nat.add_zero, if_pos inside]
    rfl
  | cons n sizes ih =>
    have later : ∀ m ∈ sizes, m < 2 ^ 64 := fun m member => words m (List.mem_cons_of_mem n member)
    rw [List.mapM_cons, StateT.run_bind, take_run small (words n List.mem_cons_self) inside, List.sum_cons]
    by_cases first : off + n ≤ b.length
    · rw [if_pos first, Option.bind_eq_bind, Option.bind_some, StateT.run_bind, ih later first, Nat.add_assoc]
      by_cases rest : off + (n + sizes.sum) ≤ b.length
      · rw [if_pos rest, if_pos rest, cut, List.drop_drop]
        simp [slice]
      · rw [if_neg rest, if_neg rest]
        rfl
    · rw [if_neg first, if_neg (by omega)]
      rfl

/-- A program whose result has the taken pieces as its fields returns those fields exactly
when the sizes together stay within the bytes. -/
theorem run'_of_takes {α : Type} {program : StateT Nat Option α} {fields : α → List Bytes} {b : Bytes}
    {sizes : List Nat} {value : α} (injective : Function.Injective fields)
    (takes : fields <$> program = sizes.mapM (take b)) (pieces : fields value = cut b sizes)
    (small : b.length < 2 ^ 64) (words : ∀ n ∈ sizes, n < 2 ^ 64) :
    program.run' 0 = if sizes.sum ≤ b.length then some value else none := by
  have all := mapM_take_run small words (Nat.zero_le _)
  rw [← takes, StateT.run_map, Nat.zero_add, List.drop_zero] at all
  rw [StateT.run'_eq]
  cases ran : program.run 0 with
  | none =>
    rw [ran] at all
    by_cases fits : sizes.sum ≤ b.length
    · rw [if_pos fits] at all
      cases all
    · rw [if_neg fits]
      rfl
  | some result =>
    rw [ran] at all
    by_cases fits : sizes.sum ≤ b.length
    · rw [if_pos fits, ← pieces] at all
      have same : fields result.1 = fields value := congrArg Prod.fst (Option.some.inj all)
      rw [if_pos fits, ← injective same]
      rfl
    · rw [if_neg fits] at all
      cases all

end Ryke.Lib
