import Ryke.Ikev2.Fragment
import Ryke.Lib.Table

/-! Which lists of messages reassembly accepts: exactly the complete sets, in any
order, and what it makes of them depends on the fragment numbers alone. -/

namespace Ryke.Ikev2
open Lib

def numberOf (f : Fragment) : Nat := f.fragNum.toNat

/-- The fragments carry one non-zero total, and each number up to it once. -/
structure Complete (total : UInt16) (frags : List Fragment) : Prop where
  nonzero : total ≠ 0
  sameTotal : ∀ f ∈ frags, f.total = total
  eachOnce : (frags.map numberOf).Perm (List.range' 1 total.toNat)

def contentsByNumber (total : UInt16) (frags : List Fragment) : Bytes :=
  ((List.range' 1 total.toNat).filterMap (Table.byKey numberOf frags).get).flatMap Fragment.content

def OpenTo (P : Primitives) (skE : Bytes) (messages : List Bytes) (frags : List Fragment) : Prop :=
  List.Forall₂ (fun message f => openFragment P message skE = .ok f) messages frags

theorem numbers_map_toNat {count : Nat} (small : count < 65536) :
    (numbers count).map UInt16.toNat = List.range' 1 count := by
  apply List.ext_getElem (by simp [numbers])
  intro i inside _
  have below : i < count := by simpa [numbers] using inside
  simp only [numbers, List.getElem_map, List.getElem_range, List.getElem_range', UInt16.toNat_ofNat']
  omega

theorem map_numberOf (frags : List Fragment) :
    frags.map numberOf = (frags.map Fragment.fragNum).map UInt16.toNat := by
  rw [List.map_map]
  rfl

namespace Complete

theorem length {total : UInt16} {frags : List Fragment} (complete : Complete total frags) :
    frags.length = total.toNat := by
  simpa using complete.eachOnce.length_eq

theorem nodup {total : UInt16} {frags : List Fragment} (complete : Complete total frags) :
    (frags.map numberOf).Nodup :=
  complete.eachOnce.nodup_iff.mpr (List.nodup_range')

theorem perm {total : UInt16} {frags others : List Fragment} (complete : Complete total frags)
    (same : others.Perm frags) : Complete total others where
  nonzero := complete.nonzero
  sameTotal := fun f member => complete.sameTotal f (same.mem_iff.mp member)
  eachOnce := (same.map _).trans complete.eachOnce

theorem sorted {total : UInt16} {frags : List Fragment} (complete : Complete total frags) :
    (sortByNum frags).map Fragment.fragNum = numbers frags.length := by
  have small : frags.length < 65536 := by
    rw [complete.length]
    exact UInt16.toNat_lt total
  have perm : (frags.map numberOf).Perm ((numbers frags.length).map UInt16.toNat) := by
    rw [numbers_map_toNat small, complete.length]
    exact complete.eachOnce
  rw [map_numberOf] at perm
  exact (sortByNum_numbers_iff small).mpr ((List.map_perm_map_iff fun _ _ => UInt16.toNat.inj).mp perm)

theorem sortByNum_eq {total : UInt16} {frags : List Fragment} (complete : Complete total frags) :
    sortByNum frags = (List.range' 1 total.toNat).filterMap (Table.byKey numberOf frags).get := by
  have small : frags.length < 65536 := by
    rw [complete.length]
    exact UInt16.toNat_lt total
  have ordered : (sortByNum frags).map numberOf = List.range' 1 total.toNat := by
    rw [map_numberOf, complete.sorted, numbers_map_toNat small, complete.length]
  rw [← ordered]
  exact (Table.filterMap_byKey (List.perm_insertionSort _ _) complete.nodup).symm

end Complete

theorem exists_complete_iff {frags : List Fragment} :
    (∃ total, Complete total frags) ↔
      frags ≠ [] ∧ (∀ f ∈ frags, f.total.toNat = frags.length) ∧
        (sortByNum frags).map Fragment.fragNum = numbers frags.length := by
  constructor
  · rintro ⟨total, complete⟩
    refine ⟨?_, ?_, complete.sorted⟩
    · intro none
      have zero := complete.length
      rw [none, List.length_nil] at zero
      exact complete.nonzero (UInt16.toNat.inj zero.symm)
    · intro f member
      rw [complete.sameTotal f member, complete.length]
  · rintro ⟨full, totals, ordered⟩
    obtain ⟨head, isHead⟩ := List.exists_mem_of_ne_nil frags full
    have count := totals head isHead
    have small : frags.length < 65536 := by
      rw [← count]
      exact UInt16.toNat_lt _
    refine ⟨head.total, ?_, ?_, ?_⟩
    · intro zero
      rw [zero] at count
      exact full (List.length_eq_zero_iff.mp count.symm)
    · intro f member
      exact UInt16.toNat.inj ((totals f member).trans count.symm)
    · rw [count, ← numbers_map_toNat small, map_numberOf]
      exact ((sortByNum_numbers_iff small).mp ordered).map _

theorem joinFragments_complete {total : UInt16} {frags : List Fragment} (complete : Complete total frags) :
    ∃ head, (Table.byKey numberOf frags).get 1 = some head ∧
      joinFragments frags = .ok (PayloadType.fromU8 head.nextPayload, contentsByNumber total frags) := by
  obtain ⟨full, totals, ordered⟩ := exists_complete_iff.mp ⟨total, complete⟩
  have positive : 0 < total.toNat := by
    rw [← complete.length]
    exact List.length_pos_iff.mpr full
  have isNumber : 1 ∈ frags.map numberOf :=
    complete.eachOnce.mem_iff.mpr (List.mem_range'_1.mpr ⟨le_rfl, by omega⟩)
  obtain ⟨head, member, number⟩ := List.mem_map.mp isNumber
  have found : (Table.byKey numberOf frags).get 1 = some head := by
    rw [← number]
    exact Table.get_byKey complete.nodup member
  have front : (sortByNum frags).head? = some head := by
    rw [complete.sortByNum_eq]
    obtain ⟨count, next⟩ : ∃ count, total.toNat = count + 1 := ⟨total.toNat - 1, by omega⟩
    rw [next, List.range'_succ, List.filterMap_cons_some found, List.head?_cons]
  refine ⟨head, found, joinFragments_eq_ok_iff.mpr ⟨full, totals, ordered, ?_, ?_⟩⟩
  · rw [front]
    rfl
  · rw [complete.sortByNum_eq, contentsByNumber]

theorem reassemble_openTo {P : Primitives} {skE : Bytes} {messages : List Bytes} {frags : List Fragment}
    (opened : OpenTo P skE messages frags) : reassemble P messages skE = joinFragments frags := by
  rw [reassemble, mapM_eq_ok.mpr opened, ok_bind]

theorem reassemble_eq_ok {P : Primitives} {skE : Bytes} {messages : List Bytes} {result : PayloadType × Bytes}
    (accepted : reassemble P messages skE = .ok result) :
    ∃ frags total, OpenTo P skE messages frags ∧ Complete total frags := by
  obtain ⟨frags, opened, joined⟩ := bind_eq_ok accepted
  obtain ⟨full, totals, ordered, -⟩ := joinFragments_eq_ok_iff.mp joined
  obtain ⟨total, complete⟩ := exists_complete_iff.mpr ⟨full, totals, ordered⟩
  exact ⟨frags, total, mapM_eq_ok.mp opened, complete⟩

/-- The table of a complete set does not depend on the order of arrival. -/
theorem reassemble_of_perm {P : Primitives} {skE : Bytes} {messages others : List Bytes}
    (same : others.Perm messages) {result : PayloadType × Bytes}
    (accepted : reassemble P messages skE = .ok result) : reassemble P others skE = .ok result := by
  obtain ⟨frags, total, opened, complete⟩ := reassemble_eq_ok accepted
  obtain ⟨list, each, reordered⟩ := List.perm_comp_forall₂ same opened
  have table := Table.byKey_perm reordered complete.nodup
  obtain ⟨head, found, joined⟩ := joinFragments_complete complete
  obtain ⟨head', found', joined'⟩ := joinFragments_complete (complete.perm reordered)
  rw [table, found] at found'
  cases found'
  rw [reassemble_openTo opened, joined] at accepted
  rw [reassemble_openTo each, joined', ← accepted, contentsByNumber, contentsByNumber, table]

/-- Reassembly accepts exactly the complete sets, and what it returns is read off the
fragment numbers. -/
theorem reassemble_accepts_complete (P : Primitives) (skE : Bytes) (messages : List Bytes) :
    ((∃ result, reassemble P messages skE = .ok result) ↔
      ∃ frags total, OpenTo P skE messages frags ∧ Complete total frags) ∧
    (∀ frags total, OpenTo P skE messages frags → Complete total frags →
      ∃ head, (Table.byKey numberOf frags).get 1 = some head ∧
        reassemble P messages skE = .ok (PayloadType.fromU8 head.nextPayload, contentsByNumber total frags)) ∧
    ∀ others : List Bytes, others.Perm messages →
      ∀ result, reassemble P others skE = .ok result ↔ reassemble P messages skE = .ok result := by
  refine ⟨⟨?_, ?_⟩, ?_, ?_⟩
  · rintro ⟨result, accepted⟩
    exact reassemble_eq_ok accepted
  · rintro ⟨frags, total, opened, complete⟩
    obtain ⟨head, -, joined⟩ := joinFragments_complete complete
    exact ⟨_, (reassemble_openTo opened).trans joined⟩
  · intro frags total opened complete
    rw [reassemble_openTo opened]
    exact joinFragments_complete complete
  · intro others same result
    exact ⟨reassemble_of_perm same.symm, reassemble_of_perm same⟩

end Ryke.Ikev2
