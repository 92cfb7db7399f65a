import Ryke.Lib.Bytes
import Mathlib.Data.List.Forall2

/-! Loops that read a byte string one item at a time. An item reader looks at the
front of its input and reports the item with the number of bytes it consumed. -/

namespace Ryke.Lib

/-- `while off < body.len()`: read items until the input is used up. The fuel is
the input length, which is enough as long as every item consumes a byte. -/
def parseManyFuel {ε α : Type} (parse : Bytes → Except ε (α × Nat)) : Nat → Bytes → Except ε (List α)
  | 0, _ => .ok []
  | fuel + 1, body =>
      if body = [] then .ok [] else do
        let (item, consumed) ← parse body
        let rest ← parseManyFuel parse fuel (body.drop consumed)
        .ok (item :: rest)

def parseMany {ε α : Type} (parse : Bytes → Except ε (α × Nat)) (body : Bytes) : Except ε (List α) :=
  parseManyFuel parse body.length body

/-- `for _ in 0..count`: read exactly `count` items. -/
def parseCount {ε α : Type} (parse : Bytes → Except ε (α × Nat)) : Nat → Bytes → Except ε (List α)
  | 0, _ => .ok []
  | count + 1, body => do
      let (item, consumed) ← parse body
      let rest ← parseCount parse count (body.drop consumed)
      .ok (item :: rest)

/-- `encoded` is a form of `item` that the reader recognises in front of anything. -/
def Encodes {ε α : Type} (parse : Bytes → Except ε (α × Nat)) (item : α) (encoded : Bytes) : Prop :=
  encoded ≠ [] ∧ ∀ rest, parse (encoded ++ rest) = .ok (item, encoded.length)

theorem parseManyFuel_encodes {ε α : Type} (parse : Bytes → Except ε (α × Nat)) (items : List α)
    (encoded : List Bytes) (each : List.Forall₂ (Encodes parse) items encoded) (fuel : Nat)
    (enough : encoded.flatten.length ≤ fuel) :
    parseManyFuel parse fuel encoded.flatten = .ok items := by
  induction each generalizing fuel with
  | nil => cases fuel <;> rfl
  | @cons item bytes items encoded first _ ih =>
    have positive : 0 < bytes.length := List.length_pos_iff.mpr first.1
    simp only [List.flatten_cons, List.length_append] at enough ⊢
    obtain ⟨fuel, rfl⟩ : ∃ smaller, fuel = smaller + 1 := ⟨fuel - 1, by omega⟩
    have nonempty : bytes ++ encoded.flatten ≠ [] := by simp [first.1]
    simp only [parseManyFuel, if_neg nonempty, first.2]
    have rest := ih fuel (by omega)
    change (do let rest ← parseManyFuel parse fuel ((bytes ++ encoded.flatten).drop bytes.length)
               Except.ok (item :: rest)) = _
    rw [List.drop_left, rest]
    rfl

theorem parseMany_encodes {ε α : Type} {parse : Bytes → Except ε (α × Nat)} {items : List α}
    {encoded : List Bytes} (each : List.Forall₂ (Encodes parse) items encoded) :
    parseMany parse encoded.flatten = .ok items :=
  parseManyFuel_encodes parse items encoded each _ le_rfl

theorem parseCount_encodes {ε α : Type} {parse : Bytes → Except ε (α × Nat)} {items : List α}
    {encoded : List Bytes} (each : List.Forall₂ (Encodes parse) items encoded) (rest : Bytes) :
    parseCount parse items.length (encoded.flatten ++ rest) = .ok items := by
  induction each with
  | nil => rfl
  | @cons item bytes items encoded first _ ih =>
    simp only [List.flatten_cons, List.length_cons, parseCount, List.append_assoc, first.2]
    change (do let rest ← parseCount parse items.length
                 ((bytes ++ (encoded.flatten ++ rest)).drop bytes.length)
               Except.ok (item :: rest)) = _
    rw [List.drop_left, ih]
    rfl

/-! ## What was read from somewhere -/

/-- Whatever the reader reports is good, and takes no more room than was consumed. -/
def Admits {ε α : Type} (parse : Bytes → Except ε (α × Nat)) (good : α → Prop) (size : α → Nat) : Prop :=
  ∀ ⦃b item consumed⦄, parse b = .ok (item, consumed) → good item ∧ size item ≤ consumed ∧ consumed ≤ b.length

section
variable {ε α : Type} {parse : Bytes → Except ε (α × Nat)} {good : α → Prop} {size : α → Nat}

theorem read_item {body : Bytes} {next : Bytes → Except ε (List α)} {items : List α}
    (read : (do
      let (item, consumed) ← parse body
      let rest ← next (body.drop consumed)
      Except.ok (item :: rest)) = .ok items) :
    ∃ item consumed rest, parse body = .ok (item, consumed) ∧ next (body.drop consumed) = .ok rest ∧
      items = item :: rest := by
  cases first : parse body with
  | error e =>
    rw [first] at read
    cases read
  | ok pair =>
    rw [first] at read
    cases later : next (body.drop pair.2) with
    | error e =>
      change (next (body.drop pair.2) >>= fun rest => Except.ok (pair.1 :: rest)) = _ at read
      rw [later] at read
      cases read
    | ok rest =>
      change (next (body.drop pair.2) >>= fun rest => Except.ok (pair.1 :: rest)) = _ at read
      rw [later] at read
      cases read
      exact ⟨pair.1, pair.2, rest, rfl, later, rfl⟩

theorem Admits.step (admits : Admits parse good size) {body : Bytes} {item : α} {consumed : Nat} {rest : List α}
    (first : parse body = .ok (item, consumed))
    (later : (∀ other ∈ rest, good other) ∧ (rest.map size).sum ≤ (body.drop consumed).length) :
    (∀ other ∈ item :: rest, good other) ∧ ((item :: rest).map size).sum ≤ body.length := by
  obtain ⟨isGood, small, inside⟩ := admits first
  obtain ⟨allGood, fits⟩ := later
  constructor
  · intro other member
    rcases List.mem_cons.mp member with rfl | inRest
    · exact isGood
    · exact allGood other inRest
  · rw [List.length_drop] at fits
    rw [List.map_cons, List.sum_cons]
    omega

theorem parseManyFuel_admits (admits : Admits parse good size) {fuel : Nat} {body : Bytes} {items : List α}
    (read : parseManyFuel parse fuel body = .ok items) :
    (∀ item ∈ items, good item) ∧ (items.map size).sum ≤ body.length := by
  induction fuel generalizing body items with
  | zero =>
    cases read
    exact ⟨by simp, Nat.zero_le _⟩
  | succ fuel ih =>
    rw [parseManyFuel] at read
    by_cases used : body = []
    · rw [if_pos used] at read
      cases read
      exact ⟨by simp, Nat.zero_le _⟩
    · rw [if_neg used] at read
      obtain ⟨item, consumed, rest, first, later, rfl⟩ := read_item read
      exact admits.step first (ih later)

/-- Everything a loop read is good, and fits in what it was read from. -/
theorem parseMany_admits (admits : Admits parse good size) {body : Bytes} {items : List α}
    (read : parseMany parse body = .ok items) :
    (∀ item ∈ items, good item) ∧ (items.map size).sum ≤ body.length :=
  parseManyFuel_admits admits read

theorem parseCount_admits (admits : Admits parse good size) {count : Nat} {body : Bytes} {items : List α}
    (read : parseCount parse count body = .ok items) :
    items.length = count ∧ (∀ item ∈ items, good item) ∧ (items.map size).sum ≤ body.length := by
  induction count generalizing body items with
  | zero =>
    cases read
    exact ⟨rfl, by simp, Nat.zero_le _⟩
  | succ count ih =>
    rw [parseCount] at read
    obtain ⟨item, consumed, rest, first, later, rfl⟩ := read_item read
    obtain ⟨counted, others⟩ := ih later
    exact ⟨congrArg Nat.succ counted, admits.step first others⟩

end

/-- Values within bounds are read back as they were written, and a body that passes the
test yields no value outside the bounds. -/
structure RoundTrip {ε α : Type} (parse : Bytes → Except ε α) (toBytes : α → Bytes) (bounds : α → Prop)
    (test : Bytes → Prop) : Prop where
  reads : ∀ value, bounds value → parse (toBytes value) = .ok value
  yields : ∀ body value, test body → parse body = .ok value → bounds value ∧ parse (toBytes value) = .ok value

theorem RoundTrip.of_bounds {ε α : Type} {parse : Bytes → Except ε α} {toBytes : α → Bytes} {bounds : α → Prop}
    {test : Bytes → Prop} (reads : ∀ value, bounds value → parse (toBytes value) = .ok value)
    (within : ∀ body value, test body → parse body = .ok value → bounds value) :
    RoundTrip parse toBytes bounds test where
  reads := reads
  yields := by
    intro body value passes read
    have fits := within body value passes read
    exact ⟨fits, reads value fits⟩

end Ryke.Lib
