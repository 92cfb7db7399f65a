import Ryke.Lib.Cut
import Ryke.Crypto
import Ryke.Toy

/-! Key expansion and the cutting of key material. `prf+` returns the first bytes of the
recurrence `T1 | T2 | …`, and the three key schedules cut its output, from the front and
to the last byte, into their keys. The schedules are run here with the offset that their
`take` closures move and with lengths in machine words. -/

namespace Ryke.Crypto
open Lib

/-! ## The recurrence of `prf+` -/

/-- `T1 = prf(K, S | 0x01)` and `Tn = prf(K, T(n-1) | S | n)`. -/
def expansionBlock (P : Primitives) (key seed : Bytes) : Nat → Bytes
  | 0 => []
  | 1 => prf P key (seed ++ [1])
  | n + 2 => prf P key (expansionBlock P key seed (n + 1) ++ seed ++ [UInt8.ofNat (n + 2)])

theorem expansionBlock_eq_prf (P : Primitives) (key seed : Bytes) {n : Nat} (octet : n < 255) :
    expansionBlock P key seed (n + 1) = prf P key (blockInput P key seed n) := by
  induction n with
  | zero => rfl
  | succ n ih =>
    rw [expansionBlock, ih (by omega), blockInput, Nat.min_eq_left (by omega)]

theorem blocks_eq_flatMap (P : Primitives) (key seed : Bytes) (first count : Nat) :
    blocks P key seed first count =
      (List.range count).flatMap fun i => prf P key (blockInput P key seed (first + i)) := by
  induction count generalizing first with
  | zero => rfl
  | succ count ih =>
    rw [blocks, ih, List.range_succ_eq_map, List.flatMap_cons, List.flatMap_map]
    simp only [Nat.add_zero, Nat.succ_eq_add_one, Nat.add_assoc, Nat.add_comm 1]

/-- Up to the 255 blocks that one counter octet tells apart, `prf+` is the recurrence. -/
theorem prfPlus_eq_expansion (P : Primitives) (key seed : Bytes) {outLen : Nat}
    (octets : outLen ≤ 255 * 32) :
    prfPlus P key seed outLen =
      ((List.range 255).flatMap fun i => expansionBlock P key seed (i + 1)).take outLen := by
  have same : blocks P key seed 0 255 =
      (List.range 255).flatMap fun i => expansionBlock P key seed (i + 1) := by
    rw [blocks_eq_flatMap]
    apply List.flatMap_congr
    intro i member
    rw [Nat.zero_add, expansionBlock_eq_prf P key seed (List.mem_range.mp member)]
  rw [prfPlus_eq_blocks P key seed outLen 255 (by omega), same]

theorem prfPlus_take (P : Primitives) (key seed : Bytes) {m n : Nat} (shorter : m ≤ n) :
    prfPlus P key seed m = (prfPlus P key seed n).take m := by
  calc prfPlus P key seed m
      = (blocks P key seed 0 n).take m := prfPlus_eq_blocks P key seed m n (by omega)
    _ = ((blocks P key seed 0 n).take n).take m := by rw [List.take_take, Nat.min_eq_left shorter]
    _ = (prfPlus P key seed n).take m := by rw [prfPlus_eq_blocks P key seed n n (by omega)]

/-! ## `prf+` with the capacity of its `Vec` -/

/-- How a full `Vec` grows. The standard library doubles it; no more than that is taken here. -/
structure Growth where
  capacity : Nat → Nat → Nat
  enough : ∀ old required, required ≤ capacity old required
  bounded : ∀ old required, capacity old required ≤ max (2 * old) (max required 8)

/-- A capacity above `isize::MAX` panics. -/
def Growth.reserve (growth : Growth) (old required : Nat) : Option Nat :=
  if required ≤ old then some old
  else if growth.capacity old required ≤ Usize.isizeMax then some (growth.capacity old required)
  else none

/-- The loop appends whole blocks, so that the last one may not fit the capacity asked for. -/
def prfPlusRunLoop (growth : Growth) (P : Primitives) (key seed : Bytes) (outLen : Nat) :
    Nat → Bytes → Bytes → UInt8 → Nat → Option Bytes
  | 0, out, _, _, _ => some out
  | fuel + 1, out, prev, counter, capacity =>
      if out.length < outLen then do
        let block := prf P key (prev ++ seed ++ [counter])
        let capacity ← growth.reserve capacity (out.length + block.length)
        prfPlusRunLoop growth P key seed outLen fuel (out ++ block) block (saturatingSucc counter) capacity
      else some out

/-- `Vec::with_capacity(out_len)`, the loop, and `truncate`. -/
def prfPlusRun (growth : Growth) (P : Primitives) (key seed : Bytes) (outLen : Nat) : Option Bytes :=
  if outLen ≤ Usize.isizeMax then
    (prfPlusRunLoop growth P key seed outLen outLen [] [] 1 outLen).map (List.take outLen)
  else none

/-- Lengths that no growth takes above `isize::MAX`: those of whole blocks, and the smaller ones. -/
def Holdable (outLen : Nat) : Prop := outLen ≤ Usize.isizeMax ∧ (outLen % 32 = 0 ∨ outLen < 2 ^ 62)

theorem prfPlusRunLoop_eq_some (growth : Growth) (P : Primitives) (key seed : Bytes) (outLen fuel : Nat)
    {out prev : Bytes} {counter : UInt8} {capacity : Nat} {result : Bytes}
    (done : prfPlusRunLoop growth P key seed outLen fuel out prev counter capacity = some result) :
    result = prfPlusLoop P key seed outLen fuel out prev counter := by
  induction fuel generalizing out prev counter capacity with
  | zero => exact (Option.some.inj done).symm
  | succ fuel ih =>
    rw [prfPlusRunLoop] at done
    rw [prfPlusLoop]
    split at done
    next more =>
      obtain ⟨larger, -, done⟩ := Option.bind_eq_some_iff.mp done
      rw [if_pos more]
      exact ih done
    next enough =>
      rw [if_neg enough]
      exact (Option.some.inj done).symm

theorem prfPlusRunLoop_holds (growth : Growth) (P : Primitives) (key seed : Bytes) {outLen : Nat}
    (holdable : Holdable outLen) (fuel : Nat) {out : Bytes} (prev : Bytes) (counter : UInt8) {capacity : Nat}
    (whole : out.length % 32 = 0) (room : out.length < outLen → capacity = outLen) :
    (prfPlusRunLoop growth P key seed outLen fuel out prev counter capacity).isSome = true := by
  have limit : Usize.isizeMax = 2 ^ 63 - 1 := rfl
  induction fuel generalizing out prev counter capacity with
  | zero => rfl
  | succ fuel ih =>
    rw [prfPlusRunLoop]
    split
    next more =>
      obtain rfl := room more
      obtain ⟨small, whole_or_small⟩ := holdable
      have size : ∀ data, (prf P key data).length = 32 := prf_length P key
      have onward : ∀ data, (out ++ prf P key data).length = out.length + 32 := by
        intro data
        rw [List.length_append, size]
      dsimp only [bind]
      rw [size, Growth.reserve]
      split
      next fits =>
        rw [Option.bind_some]
        refine ih _ _ ?_ fun _ => rfl
        rw [onward]
        omega
      next exceeds =>
        have bounded := growth.bounded capacity (out.length + 32)
        rw [if_pos (by omega), Option.bind_some]
        refine ih _ _ ?_ ?_
        · rw [onward]
          omega
        · rw [onward]
          omega
    next => rfl

theorem prfPlusRun_eq_some {growth : Growth} {P : Primitives} {key seed : Bytes} {outLen : Nat} {result : Bytes}
    (done : prfPlusRun growth P key seed outLen = some result) :
    outLen ≤ Usize.isizeMax ∧ result = prfPlus P key seed outLen := by
  unfold prfPlusRun at done
  split at done
  next small =>
    obtain ⟨out, looped, rfl⟩ := Option.map_eq_some_iff.mp done
    rw [prfPlusRunLoop_eq_some growth P key seed outLen outLen looped]
    exact ⟨small, rfl⟩
  next => cases done

theorem prfPlusRun_holdable (growth : Growth) (P : Primitives) (key seed : Bytes) {outLen : Nat}
    (holdable : Holdable outLen) : prfPlusRun growth P key seed outLen = some (prfPlus P key seed outLen) := by
  have whole : (prfPlusRunLoop growth P key seed outLen outLen [] [] 1 outLen).isSome = true :=
    prfPlusRunLoop_holds growth P key seed holdable outLen [] 1 rfl fun _ => rfl
  obtain ⟨out, looped⟩ := Option.isSome_iff_exists.mp whole
  rw [prfPlusRun, if_pos holdable.1, looped, prfPlusRunLoop_eq_some growth P key seed outLen outLen looped]
  rfl

/-! ## Keys in declared order -/

/-- The pieces have the sizes and are, in order, all of the key material. -/
def CutInOrder (pieces : List Bytes) (sizes : List Nat) (km : Bytes) : Prop :=
  pieces.map List.length = sizes ∧ pieces.flatten = km

theorem cut_inOrder {km : Bytes} {sizes : List Nat} (all : km.length = sizes.sum) :
    CutInOrder (cut km sizes) sizes km :=
  ⟨cut_lengths (Nat.le_of_eq all.symm), by rw [cut_flatten, List.take_of_length_le (Nat.le_of_eq all)]⟩

def KeyLengths.inOrder (lengths : KeyLengths) : List Nat :=
  [lengths.prf, lengths.integ, lengths.integ, lengths.encr, lengths.encr, lengths.prf, lengths.prf]

def KeyLengths.total (lengths : KeyLengths) : Nat := 3 * lengths.prf + 2 * lengths.integ + 2 * lengths.encr

def KeyLengths.Words (lengths : KeyLengths) : Prop :=
  lengths.prf < 2 ^ 64 ∧ lengths.integ < 2 ^ 64 ∧ lengths.encr < 2 ^ 64

def SessionKeys.inOrder (keys : SessionKeys) : List Bytes :=
  [keys.skD, keys.skAi, keys.skAr, keys.skEi, keys.skEr, keys.skPi, keys.skPr]

def ChildKeys.inOrder (keys : ChildKeys) : List Bytes :=
  [keys.encrI, keys.integI, keys.encrR, keys.integR]

theorem KeyLengths.sum_inOrder (lengths : KeyLengths) : lengths.inOrder.sum = lengths.total := by
  simp only [inOrder, total, List.sum_cons, List.sum_nil]
  omega

theorem KeyLengths.Words.inOrder {lengths : KeyLengths} (words : lengths.Words) :
    ∀ n ∈ lengths.inOrder, n < 2 ^ 64 := by
  unfold Words at words
  intro n member
  simp only [KeyLengths.inOrder, List.mem_cons, List.not_mem_nil, or_false] at member
  omega

theorem SessionKeys.inOrder_injective : Function.Injective SessionKeys.inOrder := by
  intro first second same
  cases first
  cases second
  simpa [inOrder] using same

theorem ChildKeys.inOrder_injective : Function.Injective ChildKeys.inOrder := by
  intro first second same
  cases first
  cases second
  simpa [inOrder] using same

theorem splitSessionKeys_inOrder (km : Bytes) (lengths : KeyLengths) :
    (splitSessionKeys km lengths).inOrder = cut km lengths.inOrder := by
  simp only [splitSessionKeys, List.splitAt_eq]
  rfl

def splitChildKeys (km : Bytes) (encrLen integLen : Nat) : ChildKeys :=
  let (encrI, km) := km.splitAt encrLen
  let (integI, km) := km.splitAt integLen
  let (encrR, km) := km.splitAt encrLen
  let (integR, _) := km.splitAt integLen
  { encrI, integI, encrR, integR }

theorem splitChildKeys_inOrder (km : Bytes) (encrLen integLen : Nat) :
    (splitChildKeys km encrLen integLen).inOrder = cut km [encrLen, integLen, encrLen, integLen] := by
  simp only [splitChildKeys, List.splitAt_eq]
  rfl

/-! ## The schedules with their `take` -/

def takeSessionKeys (lengths : KeyLengths) (km : Bytes) : StateT Nat Option SessionKeys := do
  return {
    skD := ← take km lengths.prf
    skAi := ← take km lengths.integ
    skAr := ← take km lengths.integ
    skEi := ← take km lengths.encr
    skEr := ← take km lengths.encr
    skPi := ← take km lengths.prf
    skPr := ← take km lengths.prf }

def takeChildKeys (encrLen integLen : Nat) (km : Bytes) : StateT Nat Option ChildKeys := do
  return {
    encrI := ← take km encrLen
    integI := ← take km integLen
    encrR := ← take km encrLen
    integR := ← take km integLen }

/-- `3 * lengths.prf + 2 * lengths.integ + 2 * lengths.encr`. -/
def totalWord (lengths : KeyLengths) : Nat :=
  Usize.add (Usize.add (Usize.mul 3 lengths.prf) (Usize.mul 2 lengths.integ)) (Usize.mul 2 lengths.encr)

def deriveSessionKeysRun (growth : Growth) (P : Primitives) (sharedSecret ni nr : Bytes) (spiI spiR : UInt64)
    (lengths : KeyLengths) : Option SessionKeys := do
  let km ← prfPlusRun growth P (skeyseed P sharedSecret ni nr) (keySeed ni nr spiI spiR) (totalWord lengths)
  (takeSessionKeys lengths km).run' 0

def deriveRekeySessionKeysRun (growth : Growth) (P : Primitives) (skDOld sharedSecret ni nr : Bytes) (spiI spiR : UInt64)
    (lengths : KeyLengths) : Option SessionKeys := do
  let skeyseed := prf P skDOld (sharedSecret ++ ni ++ nr)
  let km ← prfPlusRun growth P skeyseed (keySeed ni nr spiI spiR) (totalWord lengths)
  (takeSessionKeys lengths km).run' 0

def deriveChildKeysRun (growth : Growth) (P : Primitives) (skD ni nr : Bytes) (encrLen integLen : Nat) :
    Option ChildKeys := do
  let km ← prfPlusRun growth P skD (ni ++ nr) (Usize.mul 2 (Usize.add encrLen integLen))
  (takeChildKeys encrLen integLen km).run' 0

theorem takeSessionKeys_run {lengths : KeyLengths} (words : lengths.Words) {km : Bytes}
    (small : km.length < 2 ^ 64) :
    (takeSessionKeys lengths km).run' 0 =
      if lengths.total ≤ km.length then some (splitSessionKeys km lengths) else none := by
  have takes : SessionKeys.inOrder <$> takeSessionKeys lengths km = lengths.inOrder.mapM (take km) := by
    simp [takeSessionKeys, SessionKeys.inOrder, KeyLengths.inOrder]
  rw [← lengths.sum_inOrder]
  exact run'_of_takes SessionKeys.inOrder_injective takes (splitSessionKeys_inOrder km lengths) small
    words.inOrder

theorem takeChildKeys_run {encrLen integLen : Nat} (encrWord : encrLen < 2 ^ 64)
    (integWord : integLen < 2 ^ 64) {km : Bytes} (small : km.length < 2 ^ 64) :
    (takeChildKeys encrLen integLen km).run' 0 =
      if 2 * (encrLen + integLen) ≤ km.length then some (splitChildKeys km encrLen integLen) else none := by
  have takes : ChildKeys.inOrder <$> takeChildKeys encrLen integLen km =
      [encrLen, integLen, encrLen, integLen].mapM (take km) := by
    simp [takeChildKeys, ChildKeys.inOrder]
  have words : ∀ n ∈ [encrLen, integLen, encrLen, integLen], n < 2 ^ 64 := by
    intro n member
    simp only [List.mem_cons, List.not_mem_nil, or_false] at member
    omega
  have sum : [encrLen, integLen, encrLen, integLen].sum = 2 * (encrLen + integLen) := by
    simp only [List.sum_cons, List.sum_nil]
    omega
  rw [← sum]
  exact run'_of_takes ChildKeys.inOrder_injective takes (splitChildKeys_inOrder km encrLen integLen) small
    words

/-- A run returns the keys, or panics; it returns them for lengths that can be held, and panics for
lengths that no `Vec` holds. -/
structure Expands {α : Type} (run : Option α) (total : Nat) (keys : α) : Prop where
  returns : Holdable total → run = some keys
  panics : Usize.isizeMax < total → run = none
  otherwise : run = some keys ∨ run = none

/-- Key material of a length that wrapped around the word is shorter than its keys, so the
cutting ends out of range; any other length comes out as asked. -/
theorem expand_run {α : Type} (growth : Growth) (P : Primitives) (key seed : Bytes)
    {program : Bytes → StateT Nat Option α} {split : Bytes → α} {total word : Nat} (wrapped : word = total % 2 ^ 64)
    (cuts : ∀ km : Bytes, km.length < 2 ^ 64 →
      (program km).run' 0 = if total ≤ km.length then some (split km) else none) :
    Expands ((prfPlusRun growth P key seed word).bind fun km => (program km).run' 0) total
      (split (prfPlus P key seed total)) := by
  have limit : Usize.isizeMax < 2 ^ 64 := by decide
  have cut_at : ∀ n ≤ Usize.isizeMax, (program (prfPlus P key seed n)).run' 0 =
      if total ≤ n then some (split (prfPlus P key seed n)) else none := by
    intro n small
    have size := prfPlus_length P key seed n
    rw [cuts _ (by omega), size]
  constructor
  · intro holdable
    have small := holdable.1
    have same : word = total := wrapped.trans (Nat.mod_eq_of_lt (by omega))
    rw [same, prfPlusRun_holdable growth P key seed holdable, Option.bind_some, cut_at total small,
      if_pos (Nat.le_refl total)]
  · intro exceeds
    cases expanded : prfPlusRun growth P key seed word with
    | none => rfl
    | some km =>
      obtain ⟨small, rfl⟩ := prfPlusRun_eq_some expanded
      rw [Option.bind_some, cut_at word small, if_neg (by omega)]
  · cases expanded : prfPlusRun growth P key seed word with
    | none => exact .inr rfl
    | some km =>
      obtain ⟨small, rfl⟩ := prfPlusRun_eq_some expanded
      rw [Option.bind_some, cut_at word small]
      split
      next covered =>
        have below : word ≤ total := wrapped.trans_le (Nat.mod_le _ _)
        rw [Nat.le_antisymm covered below]
        exact .inl rfl
      next => exact .inr rfl

/-! ## The three schedules -/

theorem totalWord_eq (lengths : KeyLengths) : totalWord lengths = lengths.total % 2 ^ 64 := by
  simp only [totalWord, Usize.add, Usize.mul, KeyLengths.total]
  omega

theorem splitSessionKeys_cut {km : Bytes} {lengths : KeyLengths} (all : km.length = lengths.total) :
    CutInOrder (splitSessionKeys km lengths).inOrder lengths.inOrder km := by
  rw [splitSessionKeys_inOrder]
  exact cut_inOrder (all.trans lengths.sum_inOrder.symm)

theorem splitChildKeys_cut {km : Bytes} {encrLen integLen : Nat} (all : km.length = 2 * (encrLen + integLen)) :
    CutInOrder (splitChildKeys km encrLen integLen).inOrder [encrLen, integLen, encrLen, integLen] km := by
  rw [splitChildKeys_inOrder]
  apply cut_inOrder
  simp only [List.sum_cons, List.sum_nil]
  omega

/-- `prf+` is the front of its recurrence and of every longer output. Each schedule hands
out all of its key material as consecutive keys of the given lengths; in machine words it
returns them for sums that are held whatever the `Vec` grows to, and panics above `isize::MAX`. -/
theorem keyMaterial_cut (P : Primitives) (growth : Growth) :
    (∀ key seed n, n ≤ 255 * 32 →
      prfPlus P key seed n =
        ((List.range 255).flatMap fun i => expansionBlock P key seed (i + 1)).take n) ∧
    (∀ key seed m n, m ≤ n → prfPlus P key seed m = (prfPlus P key seed n).take m) ∧
    (∀ sharedSecret ni nr spiI spiR lengths,
      CutInOrder (deriveSessionKeys P sharedSecret ni nr spiI spiR lengths).inOrder lengths.inOrder
        (prfPlus P (skeyseed P sharedSecret ni nr) (keySeed ni nr spiI spiR) lengths.total) ∧
      (lengths.Words → Expands (deriveSessionKeysRun growth P sharedSecret ni nr spiI spiR lengths) lengths.total
        (deriveSessionKeys P sharedSecret ni nr spiI spiR lengths))) ∧
    (∀ skDOld sharedSecret ni nr spiI spiR lengths,
      CutInOrder (deriveRekeySessionKeys P skDOld sharedSecret ni nr spiI spiR lengths).inOrder
        lengths.inOrder
        (prfPlus P (prf P skDOld (sharedSecret ++ ni ++ nr)) (keySeed ni nr spiI spiR) lengths.total) ∧
      (lengths.Words →
        Expands (deriveRekeySessionKeysRun growth P skDOld sharedSecret ni nr spiI spiR lengths) lengths.total
          (deriveRekeySessionKeys P skDOld sharedSecret ni nr spiI spiR lengths))) ∧
    ∀ skD ni nr encrLen integLen,
      CutInOrder (deriveChildKeys P skD ni nr encrLen integLen).inOrder
        [encrLen, integLen, encrLen, integLen] (prfPlus P skD (ni ++ nr) (2 * (encrLen + integLen))) ∧
      (encrLen < 2 ^ 64 → integLen < 2 ^ 64 →
        Expands (deriveChildKeysRun growth P skD ni nr encrLen integLen) (2 * (encrLen + integLen))
          (deriveChildKeys P skD ni nr encrLen integLen)) := by
  refine ⟨?_, ?_, ?_, ?_, ?_⟩
  · intro key seed n octets
    exact prfPlus_eq_expansion P key seed octets
  · intro key seed m n shorter
    exact prfPlus_take P key seed shorter
  · intro sharedSecret ni nr spiI spiR lengths
    constructor
    · exact splitSessionKeys_cut (prfPlus_length ..)
    · intro words
      exact expand_run growth P _ _ (totalWord_eq lengths) fun km small => takeSessionKeys_run words small
  · intro skDOld sharedSecret ni nr spiI spiR lengths
    constructor
    · exact splitSessionKeys_cut (prfPlus_length ..)
    · intro words
      exact expand_run growth P _ _ (totalWord_eq lengths) fun km small => takeSessionKeys_run words small
  · intro skD ni nr encrLen integLen
    constructor
    · exact splitChildKeys_cut (prfPlus_length ..)
    · intro encrWord integWord
      have wrapped : Usize.mul 2 (Usize.add encrLen integLen) = 2 * (encrLen + integLen) % 2 ^ 64 := by
        simp only [Usize.mul, Usize.add]
        omega
      exact expand_run growth P _ _ wrapped fun km small => takeChildKeys_run encrWord integWord small

def doubling : Growth where
  capacity old required := max (2 * old) (max required 8)
  enough _ _ := (Nat.le_max_left _ _).trans (Nat.le_max_right _ _)
  bounded _ _ := Nat.le_refl _

/-- Two keys of `2^63` bytes sum to nothing, and the first of them leaves the empty key material. -/
theorem keyMaterial_wraps :
    (⟨0, 0, 2 ^ 63⟩ : KeyLengths).Words ∧
      deriveSessionKeysRun doubling toy [] [] [] 1 2 ⟨0, 0, 2 ^ 63⟩ = none ∧
      deriveRekeySessionKeysRun doubling toy [] [] [] [] 1 2 ⟨0, 0, 2 ^ 63⟩ = none ∧
      deriveChildKeysRun doubling toy [] [] [] (2 ^ 63) 0 = none := by
  refine ⟨⟨by decide, by decide, by decide⟩, ?_, ?_, ?_⟩
  · rfl
  · rfl
  · rfl

end Ryke.Crypto
