import Mathlib.Data.List.Basic
import Mathlib.Data.Nat.Log
import Mathlib.Tactic.Ring

/-! Byte strings with big-endian integers of 16, 32 and 64 bits. Reads are total:
a byte past the end reads as zero, so a caller states its own length check. -/

namespace Ryke.Lib

abbrev Bytes := List UInt8

def byteAt (b : Bytes) (i : Nat) : UInt8 := b.getD i 0

/-- The half-open range `b[i..j]`. -/
def slice (b : Bytes) (i j : Nat) : Bytes := (b.drop i).take (j - i)

/-- `chunks_exact`: the full chunks of `n` bytes, what is left over dropped. -/
def chunksExact (n : Nat) (b : Bytes) : List Bytes :=
  (List.range (b.length / n)).map fun i => slice b (i * n) ((i + 1) * n)

def be16 (b0 b1 : UInt8) : UInt16 := UInt16.ofNat (b0.toNat * 2 ^ 8 + b1.toNat)

def be32 (b0 b1 b2 b3 : UInt8) : UInt32 :=
  UInt32.ofNat (b0.toNat * 2 ^ 24 + b1.toNat * 2 ^ 16 + b2.toNat * 2 ^ 8 + b3.toNat)

def be64 (b0 b1 b2 b3 b4 b5 b6 b7 : UInt8) : UInt64 :=
  UInt64.ofNat (b0.toNat * 2 ^ 56 + b1.toNat * 2 ^ 48 + b2.toNat * 2 ^ 40 + b3.toNat * 2 ^ 32 +
    b4.toNat * 2 ^ 24 + b5.toNat * 2 ^ 16 + b6.toNat * 2 ^ 8 + b7.toNat)

def u16At (b : Bytes) (off : Nat) : UInt16 := be16 (byteAt b off) (byteAt b (off + 1))

def u32At (b : Bytes) (off : Nat) : UInt32 :=
  be32 (byteAt b off) (byteAt b (off + 1)) (byteAt b (off + 2)) (byteAt b (off + 3))

def u64At (b : Bytes) (off : Nat) : UInt64 :=
  be64 (byteAt b off) (byteAt b (off + 1)) (byteAt b (off + 2)) (byteAt b (off + 3))
    (byteAt b (off + 4)) (byteAt b (off + 5)) (byteAt b (off + 6)) (byteAt b (off + 7))

def u16Bytes (v : UInt16) : Bytes := [UInt8.ofNat (v.toNat / 2 ^ 8), UInt8.ofNat v.toNat]

def u32Bytes (v : UInt32) : Bytes :=
  [UInt8.ofNat (v.toNat / 2 ^ 24), UInt8.ofNat (v.toNat / 2 ^ 16), UInt8.ofNat (v.toNat / 2 ^ 8),
    UInt8.ofNat v.toNat]

def u64Bytes (v : UInt64) : Bytes :=
  [UInt8.ofNat (v.toNat / 2 ^ 56), UInt8.ofNat (v.toNat / 2 ^ 48), UInt8.ofNat (v.toNat / 2 ^ 40),
    UInt8.ofNat (v.toNat / 2 ^ 32), UInt8.ofNat (v.toNat / 2 ^ 24), UInt8.ofNat (v.toNat / 2 ^ 16),
    UInt8.ofNat (v.toNat / 2 ^ 8), UInt8.ofNat v.toNat]

@[simp] theorem u16Bytes_length (v : UInt16) : (u16Bytes v).length = 2 := rfl
@[simp] theorem u32Bytes_length (v : UInt32) : (u32Bytes v).length = 4 := rfl
@[simp] theorem u64Bytes_length (v : UInt64) : (u64Bytes v).length = 8 := rfl

@[simp] theorem be16_split (v : UInt16) :
    be16 (UInt8.ofNat (v.toNat / 2 ^ 8)) (UInt8.ofNat v.toNat) = v := by
  apply UInt16.toNat.inj
  have bound := v.toNat_lt
  simp [be16]
  omega

@[simp] theorem be32_split (v : UInt32) :
    be32 (UInt8.ofNat (v.toNat / 2 ^ 24)) (UInt8.ofNat (v.toNat / 2 ^ 16))
      (UInt8.ofNat (v.toNat / 2 ^ 8)) (UInt8.ofNat v.toNat) = v := by
  apply UInt32.toNat.inj
  have bound := v.toNat_lt
  simp [be32]
  omega

@[simp] theorem be64_split (v : UInt64) :
    be64 (UInt8.ofNat (v.toNat / 2 ^ 56)) (UInt8.ofNat (v.toNat / 2 ^ 48))
      (UInt8.ofNat (v.toNat / 2 ^ 40)) (UInt8.ofNat (v.toNat / 2 ^ 32))
      (UInt8.ofNat (v.toNat / 2 ^ 24)) (UInt8.ofNat (v.toNat / 2 ^ 16))
      (UInt8.ofNat (v.toNat / 2 ^ 8)) (UInt8.ofNat v.toNat) = v := by
  apply UInt64.toNat.inj
  have bound := v.toNat_lt
  simp [be64]
  omega

theorem u64Bytes_injective {v w : UInt64} (same : u64Bytes v = u64Bytes w) : v = w := by
  simp only [u64Bytes, List.cons.injEq] at same
  obtain ⟨h0, h1, h2, h3, h4, h5, h6, h7, -⟩ := same
  rw [← be64_split v, ← be64_split w, h0, h1, h2, h3, h4, h5, h6, h7]

theorem u32Bytes_injective {v w : UInt32} (same : u32Bytes v = u32Bytes w) : v = w := by
  simp only [u32Bytes, List.cons.injEq] at same
  obtain ⟨h0, h1, h2, h3, -⟩ := same
  rw [← be32_split v, ← be32_split w, h0, h1, h2, h3]

theorem u16Bytes_injective {v w : UInt16} (same : u16Bytes v = u16Bytes w) : v = w := by
  simp only [u16Bytes, List.cons.injEq] at same
  obtain ⟨h0, h1, -⟩ := same
  rw [← be16_split v, ← be16_split w, h0, h1]

theorem u32Bytes_be32 (b0 b1 b2 b3 : UInt8) : u32Bytes (be32 b0 b1 b2 b3) = [b0, b1, b2, b3] := by
  have h0 := b0.toNat_lt
  have h1 := b1.toNat_lt
  have h2 := b2.toNat_lt
  have h3 := b3.toNat_lt
  simp only [u32Bytes, be32, UInt32.toNat_ofNat', List.cons.injEq, and_true]
  refine ⟨?_, ?_, ?_, ?_⟩ <;>
    · apply UInt8.toNat.inj
      rw [UInt8.toNat_ofNat']
      omega

theorem u64Bytes_be64 (b0 b1 b2 b3 b4 b5 b6 b7 : UInt8) :
    u64Bytes (be64 b0 b1 b2 b3 b4 b5 b6 b7) = [b0, b1, b2, b3, b4, b5, b6, b7] := by
  have h0 := b0.toNat_lt
  have h1 := b1.toNat_lt
  have h2 := b2.toNat_lt
  have h3 := b3.toNat_lt
  have h4 := b4.toNat_lt
  have h5 := b5.toNat_lt
  have h6 := b6.toNat_lt
  have h7 := b7.toNat_lt
  simp only [u64Bytes, be64, UInt64.toNat_ofNat', List.cons.injEq, and_true]
  refine ⟨?_, ?_, ?_, ?_, ?_, ?_, ?_, ?_⟩ <;>
    · apply UInt8.toNat.inj
      rw [UInt8.toNat_ofNat']
      omega

theorem u64Bytes_u64At {b : Bytes} (size : b.length = 8) : u64Bytes (u64At b 0) = b := by
  match b, size with
  | [b0, b1, b2, b3, b4, b5, b6, b7], _ => exact u64Bytes_be64 b0 b1 b2 b3 b4 b5 b6 b7

@[simp] theorem byteAt_cons_zero (x : UInt8) (b : Bytes) : byteAt (x :: b) 0 = x := rfl

@[simp] theorem byteAt_cons_succ (x : UInt8) (b : Bytes) (i : Nat) :
    byteAt (x :: b) (i + 1) = byteAt b i := rfl

theorem byteAt_append_left {a b : Bytes} {i : Nat} (inside : i < a.length) :
    byteAt (a ++ b) i = byteAt a i := by
  simp [byteAt, List.getElem?_append_left inside]

theorem byteAt_append_right {a b : Bytes} {i : Nat} (past : a.length ≤ i) :
    byteAt (a ++ b) i = byteAt b (i - a.length) := by
  simp [byteAt, List.getElem?_append_right past]

@[simp] theorem slice_length {b : Bytes} {i j : Nat} (fits : j ≤ b.length) :
    (slice b i j).length = j - i := by
  simp [slice]
  omega

theorem byteAt_slice {b : Bytes} {i j k : Nat} (inside : k < j - i) : byteAt (slice b i j) k = byteAt b (i + k) := by
  simp [byteAt, slice, inside]

theorem u32Bytes_u32At {b : Bytes} {off : Nat} (fits : off + 4 ≤ b.length) :
    u32Bytes (u32At b off) = slice b off (off + 4) := by
  have size : (slice b off (off + 4)).length = 4 := by
    rw [slice_length fits]
    omega
  obtain ⟨b0, b1, b2, b3, four⟩ := List.length_eq_four.mp size
  have byte : ∀ k < 4, byteAt b (off + k) = byteAt [b0, b1, b2, b3] k := by
    intro k inside
    rw [← four, byteAt_slice (by omega)]
  have first : byteAt b off = b0 := byte 0 (by decide)
  have second : byteAt b (off + 1) = b1 := byte 1 (by decide)
  have third : byteAt b (off + 2) = b2 := byte 2 (by decide)
  have fourth : byteAt b (off + 3) = b3 := byte 3 (by decide)
  rw [four, u32At, first, second, third, fourth, u32Bytes_be32]

theorem eq_take_append {b front : Bytes} {n : Nat} (starts : b.take n = front) : b = front ++ b.drop n := by
  rw [← starts, List.take_append_drop]

theorem u32At_slice (b : Bytes) (off : Nat) : u32At (slice b off (off + 4)) 0 = u32At b off := by
  simp (disch := omega) only [u32At, byteAt_slice, Nat.add_zero, Nat.zero_add]

theorem take_add_slice (b : Bytes) {start offset stop : Nat} (order : offset ≤ stop) :
    b.take (start + stop) = b.take (start + offset) ++ slice (b.drop start) offset stop := by
  have split : start + stop = (start + offset) + (stop - offset) := by omega
  rw [split, List.take_add, slice, List.drop_drop]

theorem slice_append_slice (b : Bytes) {i j k : Nat} (first : i ≤ j) (second : j ≤ k) :
    slice b i j ++ slice b j k = slice b i k := by
  have split : k - i = (j - i) + (k - j) := by omega
  have offset : i + (j - i) = j := by omega
  rw [slice, slice, slice, split, List.take_add, List.drop_drop, offset]

theorem slice_append_mid {a b c : Bytes} {i j : Nat} (start : i = a.length)
    (stop : j = a.length + b.length) : slice (a ++ (b ++ c)) i j = b := by
  subst start stop
  simp [slice]

theorem slice_append_end {a b : Bytes} {i j : Nat} (start : i = a.length)
    (stop : j = a.length + b.length) : slice (a ++ b) i j = b := by
  subst start stop
  simp [slice]

theorem byteAt_take {b : Bytes} {i n : Nat} (inside : i < n) : byteAt (b.take n) i = byteAt b i := by
  simp [byteAt, List.getElem?_take_of_lt inside]

theorem u16At_take {b : Bytes} {i n : Nat} (inside : i + 1 < n) : u16At (b.take n) i = u16At b i := by
  rw [u16At, u16At, byteAt_take (by omega), byteAt_take inside]

theorem byteAt_drop (b : Bytes) (i k : Nat) : byteAt (b.drop i) k = byteAt b (i + k) := by
  simp [byteAt]

theorem u32At_drop (b : Bytes) (i : Nat) : u32At (b.drop i) 0 = u32At b i := by
  simp only [u32At, byteAt_drop, Nat.add_zero, Nat.zero_add]

/-! Strings made of chunks of one size. -/

theorem flatten_length {n : Nat} {chunks : List Bytes} (sizes : ∀ chunk ∈ chunks, chunk.length = n) :
    chunks.flatten.length = chunks.length * n := by
  induction chunks with
  | nil => simp
  | cons chunk rest ih =>
    rw [List.flatten_cons, List.length_append, sizes chunk List.mem_cons_self,
      ih fun other member => sizes other (List.mem_cons_of_mem _ member), List.length_cons, Nat.succ_mul, Nat.add_comm]

theorem drop_flatten {n : Nat} {chunks : List Bytes} (sizes : ∀ chunk ∈ chunks, chunk.length = n) (i : Nat) :
    chunks.flatten.drop (i * n) = (chunks.drop i).flatten := by
  induction chunks generalizing i with
  | nil => simp
  | cons chunk rest ih =>
    cases i with
    | zero => rw [Nat.zero_mul]; rfl
    | succ i =>
      have first := sizes chunk List.mem_cons_self
      rw [List.flatten_cons, List.drop_succ_cons,
        ← ih (fun other member => sizes other (List.mem_cons_of_mem _ member)) i, Nat.succ_mul, Nat.add_comm,
        ← List.drop_drop, List.drop_left' first]

theorem chunksExact_sizes {n : Nat} {b chunk : Bytes} (member : chunk ∈ chunksExact n b) : chunk.length = n := by
  obtain ⟨i, inside, rfl⟩ := List.mem_map.mp member
  have fits : (i + 1) * n ≤ b.length :=
    (Nat.mul_le_mul_right n (List.mem_range.mp inside)).trans (Nat.div_mul_le_self b.length n)
  rw [slice_length fits, Nat.succ_mul, Nat.add_sub_cancel_left]

theorem chunksExact_flatten {n : Nat} (positive : 0 < n) {chunks : List Bytes}
    (sizes : ∀ chunk ∈ chunks, chunk.length = n) : chunksExact n chunks.flatten = chunks := by
  have count : chunks.flatten.length / n = chunks.length := by
    rw [flatten_length sizes, Nat.mul_div_cancel _ positive]
  apply List.ext_getElem
  · rw [chunksExact, List.length_map, List.length_range, count]
  · intro i _ inside
    have here : chunks.drop i = chunks[i] :: chunks.drop (i + 1) := List.drop_eq_getElem_cons inside
    have size : (i + 1) * n - i * n = n := by rw [Nat.succ_mul, Nat.add_sub_cancel_left]
    simp only [chunksExact, List.getElem_map, List.getElem_range]
    rw [slice, drop_flatten sizes, here, size, List.flatten_cons,
      List.take_left' (sizes _ (List.getElem_mem inside))]

theorem u32At_flatten {values : List UInt32} {i : Nat} (inside : i < values.length) :
    u32At (values.map u32Bytes).flatten (i * 4) = values[i] := by
  have sizes : ∀ chunk ∈ values.map u32Bytes, chunk.length = 4 := by
    intro chunk member
    obtain ⟨v, -, rfl⟩ := List.mem_map.mp member
    rfl
  rw [← u32At_drop, drop_flatten sizes, ← List.map_drop, List.drop_eq_getElem_cons inside]
  exact be32_split _

/-! Natural numbers as big-endian byte strings of any width. -/

def ofBytesBe (b : Bytes) : Nat := b.foldl (fun acc x => acc * 256 + x.toNat) 0

def toBytesBeWidth : Nat → Nat → Bytes
  | 0, _ => []
  | width + 1, n => UInt8.ofNat (n / 256 ^ width) :: toBytesBeWidth width n

/-- The shortest big-endian form; zero is one zero byte. -/
def toBytesBe (n : Nat) : Bytes := toBytesBeWidth (n.log2 / 8 + 1) n

@[simp] theorem toBytesBeWidth_length (width n : Nat) : (toBytesBeWidth width n).length = width := by
  induction width with
  | zero => rfl
  | succ width ih => simp [toBytesBeWidth, ih]

private theorem foldl_shift (b : Bytes) (acc : Nat) :
    b.foldl (fun acc x => acc * 256 + x.toNat) acc = acc * 256 ^ b.length + ofBytesBe b := by
  induction b generalizing acc with
  | nil => simp [ofBytesBe]
  | cons x b ih =>
    simp only [List.foldl_cons, List.length_cons, ofBytesBe]
    rw [ih, ih (0 * 256 + x.toNat), Nat.pow_succ']
    ring_nf

theorem ofBytesBe_append (a b : Bytes) :
    ofBytesBe (a ++ b) = ofBytesBe a * 256 ^ b.length + ofBytesBe b := by
  simp only [ofBytesBe, List.foldl_append]
  rw [foldl_shift]
  rfl

theorem ofBytesBe_cons (x : UInt8) (b : Bytes) :
    ofBytesBe (x :: b) = x.toNat * 256 ^ b.length + ofBytesBe b := by
  simpa [ofBytesBe] using ofBytesBe_append [x] b

theorem ofBytesBe_lt (b : Bytes) : ofBytesBe b < 256 ^ b.length := by
  induction b with
  | nil => simp [ofBytesBe]
  | cons x b ih =>
    rw [ofBytesBe_cons, List.length_cons, Nat.pow_succ]
    have top : x.toNat * 256 ^ b.length ≤ 255 * 256 ^ b.length :=
      Nat.mul_le_mul_right _ (by have bound := x.toNat_lt; omega)
    omega

theorem ofBytesBe_replicate_zero (count : Nat) : ofBytesBe (List.replicate count 0) = 0 := by
  induction count with
  | zero => rfl
  | succ count ih => rw [List.replicate_succ, ofBytesBe_cons, ih]; simp

theorem ofBytesBe_toBytesBeWidth (width n : Nat) :
    ofBytesBe (toBytesBeWidth width n) = n % 256 ^ width := by
  induction width with
  | zero => simp [toBytesBeWidth, ofBytesBe, Nat.mod_one]
  | succ width ih =>
    have byte : (UInt8.ofNat (n / 256 ^ width)).toNat = n / 256 ^ width % 256 := by simp
    rw [toBytesBeWidth, ofBytesBe_cons, toBytesBeWidth_length, ih, byte, Nat.pow_succ, Nat.mod_mul,
      Nat.mul_comm (256 ^ width), Nat.add_comm]

theorem ofBytesBe_toBytesBe (n : Nat) : ofBytesBe (toBytesBe n) = n := by
  rw [toBytesBe, ofBytesBe_toBytesBeWidth]
  apply Nat.mod_eq_of_lt
  have bound : n < 2 ^ (n.log2 + 1) := Nat.lt_log2_self
  have wide : (2 : Nat) ^ (n.log2 + 1) ≤ 256 ^ (n.log2 / 8 + 1) := by
    rw [show (256 : Nat) = 2 ^ 8 from rfl, ← Nat.pow_mul]
    exact Nat.pow_le_pow_right (by decide) (by omega)
  exact bound.trans_le wide

theorem toBytesBe_length_le {n width : Nat} (positive : 0 < width) (fits : n < 256 ^ width) :
    (toBytesBe n).length ≤ width := by
  rw [toBytesBe, toBytesBeWidth_length]
  by_cases zero : n = 0
  · subst zero
    exact positive
  · have small : n.log2 < 8 * width := by
      rw [Nat.log2_lt zero, Nat.pow_mul]
      exact fits
    omega

theorem toBytesBe_length_le_of_lt {v : Nat} {b : Bytes} (below : v < ofBytesBe b) :
    (toBytesBe v).length ≤ b.length := by
  have nonempty : 0 < b.length := by
    cases b with
    | nil => simp [ofBytesBe] at below
    | cons x rest => simp
  exact toBytesBe_length_le nonempty (below.trans (ofBytesBe_lt b))

end Ryke.Lib
