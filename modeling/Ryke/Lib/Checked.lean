import Ryke.Lib.Codec

/-! Slice code as the machine runs it. An index or a range that leaves its slice panics,
and a loop has to come to its end; a run that does either yields nothing. What a run
returns is derived rule by rule, each read with the bound that keeps it in range. -/

namespace Ryke.Lib

/-- Code that may report an error. A run that panics or never ends is `none`. -/
abbrev Checked (ε α : Type) := ExceptT ε Option α

namespace Checked

def index (b : Bytes) (i : Nat) : Option UInt8 := b[i]?

def range (b : Bytes) (i j : Nat) : Option Bytes :=
  if i ≤ j ∧ j ≤ b.length then some (slice b i j) else none

def rangeFrom (b : Bytes) (i : Nat) : Option Bytes := range b i b.length

/-- `b.try_into().unwrap()`, to an array of `n` bytes. -/
def array (n : Nat) (b : Bytes) : Option Bytes := if b.length = n then some b else none

def u16be (b : Bytes) (off : Nat) : Option UInt16 := do
  let high ← index b off
  let low ← index b (off + 1)
  return be16 high low

def u32be (b : Bytes) (off : Nat) : Option UInt32 := do
  let bytes ← array 4 (← range b off (off + 4))
  return u32At bytes 0

def u64be (b : Bytes) (off : Nat) : Option UInt64 := do
  let bytes ← array 8 (← range b off (off + 8))
  return u64At bytes 0

section Loops
variable {ε α : Type}

/-- `while off < stop`: read an item and move behind it. Out of steps, the loop has not ended. -/
def whileLoop (read : Nat → Checked ε (α × Nat)) (stop : Nat) : Nat → Nat → Checked ε (List α)
  | 0, _ => ExceptT.mk none
  | steps + 1, off =>
      if off < stop then do
        let (item, consumed) ← read off
        let rest ← whileLoop read stop steps (off + consumed)
        return item :: rest
      else return []

def forLoop (read : Nat → Checked ε (α × Nat)) : Nat → Nat → Checked ε (List α)
  | 0, _ => return []
  | count + 1, off => do
      let (item, consumed) ← read off
      let rest ← forLoop read count (off + consumed)
      return item :: rest

end Loops

/-! ## Reads in range -/

theorem index_inside {b : Bytes} {i : Nat} (inside : i < b.length) : index b i = some (byteAt b i) := by
  simp [index, byteAt, inside]

theorem range_inside {b : Bytes} {i j : Nat} (order : i ≤ j) (inside : j ≤ b.length) :
    range b i j = some (slice b i j) := if_pos ⟨order, inside⟩

theorem slice_to_end (b : Bytes) (i : Nat) : slice b i b.length = b.drop i := by
  rw [slice, List.take_of_length_le (by simp)]

theorem rangeFrom_inside {b : Bytes} {i : Nat} (inside : i ≤ b.length) : rangeFrom b i = some (b.drop i) := by
  rw [rangeFrom, range_inside inside le_rfl, slice_to_end]

theorem array_exact {n : Nat} {b : Bytes} (size : b.length = n) : array n b = some b := if_pos size

theorem array_slice {b : Bytes} {i j n : Nat} (inside : j ≤ b.length) (size : j - i = n) :
    array n (slice b i j) = some (slice b i j) :=
  array_exact (by rw [slice_length inside, size])

theorem slice_drop (b : Bytes) (i j k : Nat) : (slice b i j).drop k = slice b (i + k) j := by
  rw [slice, slice, List.drop_take, List.drop_drop, Nat.sub_add_eq]

theorem u16be_inside {b : Bytes} {off : Nat} (inside : off + 1 < b.length) :
    u16be b off = some (u16At b off) := by
  rw [u16be, index_inside (by omega), index_inside inside]
  rfl

theorem u32be_inside {b : Bytes} {off : Nat} (inside : off + 4 ≤ b.length) :
    u32be b off = some (u32At b off) := by
  rw [u32be, range_inside (by omega) inside]
  dsimp only [Option.bind_eq_bind, Option.bind_some]
  rw [array_slice inside (by omega), Option.bind_some, u32At_slice]
  rfl

theorem u64be_inside {b : Bytes} {off : Nat} (inside : off + 8 ≤ b.length) :
    u64be b off = some (u64At b off) := by
  have bytes : u64At (slice b off (off + 8)) 0 = u64At b off := by
    simp (disch := omega) only [u64At, byteAt_slice, Nat.add_zero, Nat.zero_add]
  rw [u64be, range_inside (by omega) inside]
  dsimp only [Option.bind_eq_bind, Option.bind_some]
  rw [array_slice inside (by omega), Option.bind_some, bytes]
  rfl

theorem mapM_inside {α β : Type} {f : α → Option β} {g : α → β} {list : List α}
    (each : ∀ a ∈ list, f a = some (g a)) : list.mapM f = some (list.map g) := by
  induction list with
  | nil => rfl
  | cons a list ih =>
    have rest := ih fun b member => each b (List.mem_cons_of_mem a member)
    rw [List.mapM_cons, each a List.mem_cons_self, rest]
    rfl

/-! ## What a run returns -/

section Rules
variable {ε α β : Type}

/-- The run ends, reads nothing out of range, and reports `result`. -/
def Returns (run : Checked ε α) (result : Except ε α) : Prop := run.run = some result

namespace Returns

theorem value (a : α) : Returns (pure a : Checked ε α) (.ok a) := rfl

theorem error (e : ε) : Returns (throw e : Checked ε α) (.error e) := rfl

theorem read {x : Option α} {a : α} {next : α → Checked ε β} {result : Except ε β} (known : x = some a)
    (rest : Returns (next a) result) : Returns (do let a ← x; next a) result := by
  subst known
  exact rest

theorem bind {x : Checked ε α} {first : Except ε α} {next : α → Checked ε β} {after : α → Except ε β}
    (returned : Returns x first) (rest : ∀ a, first = .ok a → Returns (next a) (after a)) :
    Returns (x >>= next) (first >>= after) := by
  have known : x = ExceptT.mk (some first) := returned
  subst known
  cases first with
  | error e => rfl
  | ok a => exact rest a rfl

theorem branch {c : Prop} [Decidable c] {x y : Checked ε α} {first second : Except ε α}
    (holds : c → Returns x first) (fails : ¬ c → Returns y second) :
    Returns (if c then x else y) (if c then first else second) := by
  by_cases test : c
  · rw [if_pos test, if_pos test]
    exact holds test
  · rw [if_neg test, if_neg test]
    exact fails test

theorem guard {c : Prop} [Decidable c] {e : ε} {rest : Checked ε α} {result : Except ε α}
    (passed : ¬ c → Returns rest result) :
    Returns (if c then throw e else rest) (if c then .error e else result) :=
  branch (fun _ => error e) passed

end Returns

/-! ## Loops that move forward -/

/-- Every item the reader finds takes up some of its input, and no more than there is. -/
def Consumes (parse : Bytes → Except ε (α × Nat)) : Prop :=
  ∀ ⦃b item consumed⦄, parse b = .ok (item, consumed) → 0 < consumed ∧ consumed ≤ b.length

def ReadsFrom (read : Nat → Checked ε (α × Nat)) (parse : Bytes → Except ε (α × Nat)) (start : Nat)
    (region : Bytes) : Prop :=
  ∀ off ≤ region.length, Returns (read (start + off)) (parse (region.drop off))

theorem whileLoop_returns {read : Nat → Checked ε (α × Nat)} {parse : Bytes → Except ε (α × Nat)}
    {start : Nat} {region : Bytes} (reads : ReadsFrom read parse start region) (consumes : Consumes parse)
    (steps off fuel : Nat) (inside : off ≤ region.length) (enough : region.length - off < steps)
    (fuelled : region.length - off ≤ fuel) :
    Returns (whileLoop read (start + region.length) steps (start + off))
      (parseManyFuel parse fuel (region.drop off)) := by
  induction steps generalizing off fuel with
  | zero => omega
  | succ steps ih =>
    rw [whileLoop]
    by_cases more : off < region.length
    · obtain ⟨fuel, rfl⟩ : ∃ fewer, fuel = fewer + 1 := ⟨fuel - 1, by omega⟩
      have nonempty : ¬ region.drop off = [] := by simpa using more
      rw [if_pos (by omega), parseManyFuel, if_neg nonempty]
      apply Returns.bind (reads off inside)
      rintro ⟨item, consumed⟩ parsed
      obtain ⟨positive, bounded⟩ := consumes parsed
      rw [List.length_drop] at bounded
      dsimp only
      rw [List.drop_drop, Nat.add_assoc]
      apply Returns.bind
      · exact ih (off + consumed) fuel (by omega) (by omega) (by omega)
      · intro rest _
        exact .value _
    · have used : region.drop off = [] := by simpa using more
      have done : parseManyFuel parse fuel [] = .ok [] := by cases fuel <;> rfl
      rw [if_neg (by omega), used, done]
      exact .value _

theorem whileLoop_parseMany {read : Nat → Checked ε (α × Nat)} {parse : Bytes → Except ε (α × Nat)}
    {start stop steps : Nat} {region : Bytes} (reads : ReadsFrom read parse start region)
    (consumes : Consumes parse) (ends : stop = start + region.length) (enough : region.length < steps) :
    Returns (whileLoop read stop steps start) (parseMany parse region) := by
  subst ends
  exact whileLoop_returns reads consumes _ 0 _ (Nat.zero_le _) enough le_rfl

theorem forLoop_returns {read : Nat → Checked ε (α × Nat)} {parse : Bytes → Except ε (α × Nat)}
    {start : Nat} {region : Bytes} (reads : ReadsFrom read parse start region) (consumes : Consumes parse)
    (count off : Nat) (inside : off ≤ region.length) :
    Returns (forLoop read count (start + off)) (parseCount parse count (region.drop off)) := by
  induction count generalizing off with
  | zero => exact .value _
  | succ count ih =>
    rw [forLoop, parseCount]
    apply Returns.bind (reads off inside)
    rintro ⟨item, consumed⟩ parsed
    obtain ⟨-, bounded⟩ := consumes parsed
    rw [List.length_drop] at bounded
    dsimp only
    rw [List.drop_drop, Nat.add_assoc]
    apply Returns.bind
    · exact ih (off + consumed) (by omega)
    · intro rest _
      exact .value _

theorem forLoop_parseCount {read : Nat → Checked ε (α × Nat)} {parse : Bytes → Except ε (α × Nat)}
    {start : Nat} {region : Bytes} (reads : ReadsFrom read parse start region) (consumes : Consumes parse)
    (count : Nat) : Returns (forLoop read count start) (parseCount parse count region) :=
  forLoop_returns reads consumes count 0 (Nat.zero_le _)

end Rules

end Checked

end Ryke.Lib
