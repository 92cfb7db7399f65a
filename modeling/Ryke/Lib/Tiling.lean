import Ryke.Lib.Codec

/-! The inputs that a reading loop accepts, said of their bytes. A reader that recognises
pieces, each by the bytes it consists of, gets through a string exactly when the string is
such pieces one after another. -/

namespace Ryke.Lib

/-- A number of pieces, one after another, lead from the front of a string to a rest of it. -/
inductive Tiles (Piece : Bytes → Prop) : Nat → Bytes → Bytes → Prop where
  | nil (rest : Bytes) : Tiles Piece 0 rest rest
  | cons {count : Nat} {piece behind rest : Bytes} (first : Piece piece)
      (later : Tiles Piece count behind rest) : Tiles Piece (count + 1) (piece ++ behind) rest

/-- The reader reads exactly the strings that begin with a piece, and moves behind it. -/
structure Recognises {ε α : Type} (parse : Bytes → Except ε (α × Nat)) (Piece : Bytes → Prop) : Prop where
  nonempty : ∀ ⦃piece⦄, Piece piece → 0 < piece.length
  accepts : ∀ b consumed, (∃ item, parse b = .ok (item, consumed)) ↔
    consumed ≤ b.length ∧ Piece (b.take consumed)

theorem Tiles.cons_take {Piece : Bytes → Prop} {count consumed : Nat} {b rest : Bytes} (first : Piece (b.take consumed))
    (later : Tiles Piece count (b.drop consumed) rest) : Tiles Piece (count + 1) b rest := by
  have whole := Tiles.cons first later
  rw [List.take_append_drop] at whole
  exact whole

section
variable {ε α : Type} {parse : Bytes → Except ε (α × Nat)} {Piece : Bytes → Prop}

theorem read_piece (recognises : Recognises parse Piece) {piece behind : Bytes} (first : Piece piece)
    {next : Bytes → Except ε (List α)} (later : ∃ items, next behind = .ok items) :
    ∃ items, (do
      let (item, consumed) ← parse (piece ++ behind)
      let rest ← next ((piece ++ behind).drop consumed)
      Except.ok (item :: rest)) = .ok items := by
  have front : piece.length ≤ (piece ++ behind).length ∧ Piece ((piece ++ behind).take piece.length) := by
    rw [List.take_left, List.length_append]
    exact ⟨Nat.le_add_right .., first⟩
  obtain ⟨item, read⟩ := (recognises.accepts _ _).mpr front
  obtain ⟨items, others⟩ := later
  refine ⟨item :: items, ?_⟩
  rw [read]
  change (next ((piece ++ behind).drop piece.length) >>= fun rest => Except.ok (item :: rest)) = _
  rw [List.drop_left, others]
  rfl

theorem tiles_of_parseManyFuel (recognises : Recognises parse Piece) {fuel : Nat} {body : Bytes} {items : List α}
    (enough : body.length ≤ fuel) (read : parseManyFuel parse fuel body = .ok items) :
    ∃ count, Tiles Piece count body [] := by
  induction fuel generalizing body items with
  | zero =>
    have empty : body = [] := List.length_eq_zero_iff.mp (Nat.le_zero.mp enough)
    subst empty
    exact ⟨0, .nil []⟩
  | succ fuel ih =>
    rw [parseManyFuel] at read
    by_cases used : body = []
    · subst used
      exact ⟨0, .nil []⟩
    · rw [if_neg used] at read
      obtain ⟨item, consumed, rest, first, later, rfl⟩ := read_item read
      obtain ⟨inside, isPiece⟩ := (recognises.accepts _ _).mp ⟨item, first⟩
      have moved := recognises.nonempty isPiece
      rw [List.length_take] at moved
      obtain ⟨count, tiles⟩ := ih (by rw [List.length_drop]; omega) later
      exact ⟨count + 1, .cons_take isPiece tiles⟩

theorem Tiles.parseManyFuel (recognises : Recognises parse Piece) {count : Nat} {body rest : Bytes}
    (tiles : Tiles Piece count body rest) (whole : rest = []) {fuel : Nat} (enough : body.length ≤ fuel) :
    ∃ items, parseManyFuel parse fuel body = .ok items := by
  induction tiles generalizing fuel with
  | nil rest =>
    subst whole
    cases fuel with
    | zero => exact ⟨[], rfl⟩
    | succ fuel => exact ⟨[], rfl⟩
  | @cons count piece behind rest first later ih =>
    have positive := recognises.nonempty first
    rw [List.length_append] at enough
    cases fuel with
    | zero => omega
    | succ fuel =>
      have nonempty : piece ++ behind ≠ [] := by
        intro empty
        rw [(List.append_eq_nil_iff.mp empty).1] at positive
        exact Nat.lt_irrefl 0 positive
      rw [Lib.parseManyFuel, if_neg nonempty]
      exact read_piece recognises first (ih whole (by omega))

/-- A loop to the end of its input succeeds on what is pieces throughout. -/
theorem parseMany_isOk_iff (recognises : Recognises parse Piece) (body : Bytes) :
    (∃ items, parseMany parse body = .ok items) ↔ ∃ count, Tiles Piece count body [] := by
  constructor
  · rintro ⟨items, read⟩
    exact tiles_of_parseManyFuel recognises le_rfl read
  · rintro ⟨count, tiles⟩
    exact tiles.parseManyFuel recognises rfl le_rfl

theorem parseCount_isOk_iff (recognises : Recognises parse Piece) (count : Nat) (body : Bytes) :
    (∃ items, parseCount parse count body = .ok items) ↔ ∃ rest, Tiles Piece count body rest := by
  constructor
  · rintro ⟨items, read⟩
    induction count generalizing body items with
    | zero => exact ⟨body, .nil body⟩
    | succ count ih =>
      rw [parseCount] at read
      obtain ⟨item, consumed, others, first, later, rfl⟩ := read_item read
      obtain ⟨-, isPiece⟩ := (recognises.accepts _ _).mp ⟨item, first⟩
      obtain ⟨rest, tiles⟩ := ih (body.drop consumed) others later
      exact ⟨rest, .cons_take isPiece tiles⟩
  · rintro ⟨rest, tiles⟩
    induction tiles with
    | nil rest => exact ⟨[], rfl⟩
    | cons first later ih =>
      rw [parseCount]
      exact read_piece recognises first ih

end

end Ryke.Lib
