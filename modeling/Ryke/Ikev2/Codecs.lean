import Ryke.Ikev2.Eap
import Ryke.Ikev2.Narrowing

/-! The typed payload bodies from both sides: what fits the length fields is read back
as it was written, and whatever is accepted from the wire fits them. -/

namespace Ryke.Ikev2
open Lib

/-! ## Security associations -/

namespace Transform

def size (transform : Transform) : Nat := 8 + transform.attrs.length

theorem findKeyLength_short {attrs : Bytes} (short : attrs.length < 4) : findKeyLength attrs = .ok none := by
  rw [findKeyLength, findKeyLengthLoop, if_pos short]

theorem parse_admits : Admits parse (fun _ => True) size := by
  intro buf transform consumed parsed
  obtain ⟨long, parsed⟩ := guard_eq_ok parsed
  obtain ⟨header, parsed⟩ := guard_eq_ok parsed
  obtain ⟨fits, parsed⟩ := guard_eq_ok parsed
  obtain ⟨keyLength, found, done⟩ := bind_eq_ok parsed
  cases done
  refine ⟨trivial, ?_, by omega⟩
  unfold size attrs
  cases keyLength with
  | none =>
    change 8 ≤ _
    omega
  | some value =>
    by_cases short : (slice buf 8 (u16At buf 2).toNat).length < 4
    · rw [findKeyLength_short short] at found
      cases found
    · rw [slice_length (by omega)] at short
      change 12 ≤ _
      omega

end Transform

theorem writeTransforms_length (transforms : List Transform) :
    (writeTransforms transforms).flatten.length = (transforms.map Transform.size).sum := by
  induction transforms with
  | nil => rfl
  | cons transform rest ih =>
    rw [writeTransforms, List.flatten_cons, List.length_append, Transform.write_length, ih, List.map_cons,
      List.sum_cons, Transform.size]

namespace Proposal

/-- The SPI, the transforms and the whole proposal are counted in their length fields. -/
structure Bounded (proposal : Proposal) : Prop where
  spi : proposal.spi.length ≤ 255
  transforms : proposal.transforms.length ≤ 255
  encoded : ∀ isLast, (proposal.write isLast).length ≤ 65535

def size (proposal : Proposal) : Nat :=
  8 + proposal.spi.length + (proposal.transforms.map Transform.size).sum

theorem write_length (proposal : Proposal) (isLast : Bool) : (proposal.write isLast).length = proposal.size := by
  dsimp only [write]
  rw [List.length_append, List.length_append, writeTransforms_length]
  change 8 + proposal.spi.length + _ = _
  rfl

theorem Bounded.fits {proposal : Proposal} (bounded : proposal.Bounded) : proposal.Fits :=
  ⟨Nat.lt_succ_of_le bounded.spi, Nat.lt_succ_of_le bounded.transforms⟩

theorem parse_admits : Admits parse Bounded size := by
  intro buf proposal consumed parsed
  obtain ⟨long, parsed⟩ := guard_eq_ok parsed
  obtain ⟨header, parsed⟩ := guard_eq_ok parsed
  obtain ⟨fits, parsed⟩ := guard_eq_ok parsed
  obtain ⟨spiFits, parsed⟩ := guard_eq_ok parsed
  obtain ⟨transforms, read, done⟩ := bind_eq_ok parsed
  cases done
  obtain ⟨counted, -, room⟩ := parseCount_admits Transform.parse_admits read
  have spiSmall := UInt8.toNat_lt (byteAt buf 6)
  have countSmall := UInt8.toNat_lt (byteAt buf 7)
  have lengthSmall := UInt16.toNat_lt (u16At buf 2)
  have spiLength : (slice buf 8 (8 + (byteAt buf 6).toNat)).length = (byteAt buf 6).toNat := by
    rw [slice_length (by omega)]
    omega
  rw [slice_length (by omega)] at room
  have small : 8 + (slice buf 8 (8 + (byteAt buf 6).toNat)).length + (transforms.map Transform.size).sum ≤
      (u16At buf 2).toNat := by
    rw [spiLength]
    omega
  refine ⟨⟨?_, ?_, ?_⟩, small, by omega⟩
  · change (slice buf 8 (8 + (byteAt buf 6).toNat)).length ≤ 255
    omega
  · change transforms.length ≤ 255
    omega
  · intro isLast
    rw [write_length]
    exact small.trans (Nat.le_of_lt_succ lengthSmall)

end Proposal

theorem writeProposals_length (proposals : List Proposal) :
    (writeProposals proposals).flatten.length = (proposals.map Proposal.size).sum := by
  induction proposals with
  | nil => rfl
  | cons proposal rest ih =>
    rw [writeProposals, List.flatten_cons, List.length_append, Proposal.write_length, ih, List.map_cons,
      List.sum_cons]

namespace SecurityAssociation

def Bounded (sa : SecurityAssociation) : Prop := ∀ proposal ∈ sa.proposals, proposal.Bounded

theorem parse_eq_ok {body : Bytes} {sa : SecurityAssociation} (read : parse body = .ok sa) :
    sa.Bounded ∧ sa.toBytes.length ≤ body.length := by
  obtain ⟨proposals, parsed, done⟩ := bind_eq_ok read
  cases done
  obtain ⟨bounded, room⟩ := parseMany_admits Proposal.parse_admits parsed
  refine ⟨bounded, ?_⟩
  rw [toBytes, writeProposals_length]
  exact room

end SecurityAssociation

/-- A security association within its bounds is read back; whatever the wire brings is
within them, and is written again in no more bytes than it took. -/
theorem securityAssociation_roundTrip :
    RoundTrip SecurityAssociation.parse SecurityAssociation.toBytes SecurityAssociation.Bounded (fun _ => True) ∧
      ∀ body sa, SecurityAssociation.parse body = .ok sa → sa.toBytes.length ≤ body.length := by
  constructor
  · apply RoundTrip.of_bounds
    · intro sa bounded
      exact SecurityAssociation.parse_toBytes fun proposal member => (bounded proposal member).fits
    · intro body sa _ read
      exact (SecurityAssociation.parse_eq_ok read).1
  · intro body sa read
    exact (SecurityAssociation.parse_eq_ok read).2

/-! ## Traffic selectors and configuration -/

namespace TrafficSelector

theorem parse_admits : Admits parse Fits (fun _ => 0) := by
  intro buf ts consumed parsed
  obtain ⟨long, parsed⟩ := guard_eq_ok parsed
  obtain ⟨good, done⟩ := guard_eq_ok parsed
  cases done
  have lengthSmall := UInt16.toNat_lt (u16At buf 2)
  refine ⟨⟨?_, ?_⟩, Nat.zero_le _, by omega⟩
  · dsimp only
    rw [slice_length (by omega), slice_length (by omega)]
    omega
  · dsimp only
    rw [slice_length (by omega)]
    omega

end TrafficSelector

namespace TrafficSelectors

structure Bounded (ts : TrafficSelectors) : Prop where
  count : ts.selectors.length ≤ 255
  each : ∀ selector ∈ ts.selectors, selector.startAddr.length = selector.endAddr.length ∧
    8 + selector.startAddr.length + selector.endAddr.length ≤ 65535

theorem parse_bounded {body : Bytes} {ts : TrafficSelectors} (read : parse body = .ok ts) : ts.Bounded := by
  obtain ⟨long, read⟩ := guard_eq_ok read
  obtain ⟨selectors, parsed, done⟩ := bind_eq_ok read
  cases done
  obtain ⟨counted, fits, -⟩ := parseCount_admits TrafficSelector.parse_admits parsed
  refine ⟨?_, ?_⟩
  · rw [counted]
    exact Nat.le_of_lt_succ (UInt8.toNat_lt _)
  · intro selector member
    obtain ⟨same, small⟩ := fits selector member
    exact ⟨same.symm, by omega⟩

theorem roundTrip : RoundTrip parse toBytes Bounded (fun _ => True) := by
  apply RoundTrip.of_bounds
  · intro ts bounded
    apply parse_toBytes (Nat.lt_succ_of_le bounded.count)
    intro selector member
    obtain ⟨same, small⟩ := bounded.each selector member
    exact ⟨same.symm, by omega⟩
  · intro body ts _ read
    exact parse_bounded read

end TrafficSelectors

theorem mask_eq_iff (v : UInt16) : v &&& 0x7fff = v ↔ v.toNat < 0x8000 := by
  have low : (v &&& 0x7fff).toNat = v.toNat % 0x8000 := by
    rw [UInt16.toNat_and]
    exact Nat.and_two_pow_sub_one_eq_mod v.toNat 15
  constructor
  · intro same
    rw [same] at low
    omega
  · intro small
    apply UInt16.toNat.inj
    rw [low, Nat.mod_eq_of_lt small]

theorem mask_lt (v : UInt16) : (v &&& 0x7fff).toNat < 0x8000 := by
  rw [UInt16.toNat_and]
  exact Nat.lt_succ_of_le Nat.and_le_right

namespace Configuration

def Bounded (cp : Configuration) : Prop :=
  ∀ attr ∈ cp.attrs, attr.attrType.toNat < 0x8000 ∧ attr.value.length ≤ 65535

theorem attr_admits : Admits ConfigAttr.parse
    (fun attr => attr.attrType.toNat < 0x8000 ∧ attr.value.length ≤ 65535) (fun _ => 0) := by
  intro buf attr consumed parsed
  obtain ⟨long, parsed⟩ := guard_eq_ok parsed
  obtain ⟨fits, done⟩ := guard_eq_ok parsed
  cases done
  have lengthSmall := UInt16.toNat_lt (u16At buf 2)
  refine ⟨⟨mask_lt _, ?_⟩, Nat.zero_le _, by omega⟩
  dsimp only
  rw [slice_length (by omega)]
  omega

theorem roundTrip : RoundTrip parse toBytes Bounded (fun _ => True) := by
  apply RoundTrip.of_bounds
  · intro cp bounded
    apply parse_toBytes
    intro attr member
    obtain ⟨kind, small⟩ := bounded attr member
    exact ⟨(mask_eq_iff _).mpr kind, Nat.lt_succ_of_le small⟩
  · intro body cp _ read
    obtain ⟨long, read⟩ := guard_eq_ok read
    obtain ⟨attrs, parsed, done⟩ := bind_eq_ok read
    cases done
    exact (parseMany_admits attr_admits parsed).1

end Configuration

/-! ## Notifications, deletions, certificate requests and EAP -/

namespace Notify

theorem roundTrip : RoundTrip parse toBytes (fun notify => notify.spi.length ≤ 255) (fun _ => True) := by
  apply RoundTrip.of_bounds
  · intro notify small
    exact parse_toBytes (Nat.lt_succ_of_le small)
  · intro body notify _ read
    obtain ⟨long, read⟩ := guard_eq_ok read
    obtain ⟨fits, done⟩ := guard_eq_ok read
    cases done
    have spiSmall := UInt8.toNat_lt (byteAt body 1)
    dsimp only
    rw [slice_length (by omega)]
    omega

end Notify

namespace Delete

structure Bounded (delete : Delete) : Prop where
  count : delete.spis.length ≤ 65535
  ike : delete.protocolId = protocol_id.ike → delete.spis = []

/-- The body names another protocol than IKE, or its SPIs have size zero. -/
def Consistent (body : Bytes) : Prop := byteAt body 0 ≠ protocol_id.ike ∨ byteAt body 1 = 0

theorem parse_toBytes {delete : Delete} (bounded : delete.Bounded) : parse delete.toBytes = .ok delete := by
  obtain ⟨protocol, spis⟩ := delete
  have count : (UInt16.ofNat spis.length).toNat = spis.length := by
    have small := bounded.count
    rw [UInt16.toNat_ofNat']
    exact Nat.mod_eq_of_lt (Nat.lt_succ_of_le small)
  have num : (u16At (toBytes ⟨protocol, spis⟩) 2).toNat = spis.length := by
    simp only [toBytes, u16At, u16Bytes, List.cons_append, List.nil_append, byteAt_cons_zero, byteAt_cons_succ,
      be16_split]
    exact count
  have first : byteAt (toBytes ⟨protocol, spis⟩) 0 = protocol := rfl
  have total : (toBytes ⟨protocol, spis⟩).length = 4 + spis.length * 4 := by
    have sizes : ∀ chunk ∈ spis.map u32Bytes, chunk.length = 4 := by
      intro chunk member
      obtain ⟨spi, -, rfl⟩ := List.mem_map.mp member
      rfl
    have body := flatten_length sizes
    rw [List.length_map] at body
    rw [toBytes, List.length_append, body]
    rfl
  have read : ∀ i, u32At (toBytes ⟨protocol, spis⟩) (4 + i * 4) = u32At (spis.map u32Bytes).flatten (i * 4) := by
    intro i
    rw [← u32At_drop, ← List.drop_drop]
    exact u32At_drop _ _
  rw [parse, if_neg (by omega), num, first]
  dsimp only
  by_cases isIke : protocol = protocol_id.ike
  · have size : byteAt (toBytes ⟨protocol, spis⟩) 1 = 0 := if_pos isIke
    have none : spis = [] := bounded.ike isIke
    rw [size, if_pos (by decide), none]
  · have size : byteAt (toBytes ⟨protocol, spis⟩) 1 = 4 := if_neg isIke
    have spisRead : ((List.range spis.length).map fun i => u32At (toBytes ⟨protocol, spis⟩) (4 + i * 4)) = spis := by
      apply List.ext_getElem (by simp)
      intro i _ inside
      rw [List.getElem_map, List.getElem_range, read, u32At_flatten inside]
    rw [size, if_neg (by decide), if_pos (by decide), total, if_neg (Nat.lt_irrefl _), spisRead]

theorem parse_bounded {body : Bytes} {delete : Delete} (consistent : Consistent body)
    (read : parse body = .ok delete) : delete.Bounded := by
  obtain ⟨long, read⟩ := guard_eq_ok read
  dsimp only at read
  by_cases none : (byteAt body 1).toNat = 0
  · rw [if_pos none] at read
    cases read
    exact ⟨Nat.zero_le _, fun _ => rfl⟩
  · rw [if_neg none] at read
    by_cases four : (byteAt body 1).toNat = 4
    · rw [if_pos four] at read
      obtain ⟨fits, done⟩ := guard_eq_ok read
      cases done
      refine ⟨?_, ?_⟩
      · rw [List.length_map, List.length_range]
        exact Nat.le_of_lt_succ (UInt16.toNat_lt _)
      · intro isIke
        rcases consistent with other | zero
        · exact absurd isIke other
        · rw [zero] at four
          cases four
    · rw [if_neg four] at read
      cases read

theorem roundTrip : RoundTrip parse toBytes Bounded Consistent := by
  apply RoundTrip.of_bounds
  · intro delete bounded
    exact parse_toBytes bounded
  · intro body delete consistent read
    exact parse_bounded consistent read

end Delete

namespace CertRequest

def Hashes (request : CertRequest) : Prop := ∀ hash ∈ request.caHashes, hash.length = 20

theorem roundTrip : RoundTrip parse toBytes Hashes (fun _ => True) := by
  apply RoundTrip.of_bounds
  · intro request hashes
    have whole : ¬ request.caHashes.flatten.length % 20 ≠ 0 := by
      rw [flatten_length hashes, Nat.mul_mod_left]
      exact not_not.mpr rfl
    rw [toBytes, parse, if_neg whole, chunksExact_flatten (by decide) hashes]
  · intro body request _ read
    cases body with
    | nil => cases read
    | cons encoding rest =>
      obtain ⟨whole, done⟩ := guard_eq_ok read
      cases done
      intro hash member
      exact chunksExact_sizes member

end CertRequest

namespace EapPacket

theorem roundTrip : RoundTrip parse toBytes (fun packet => packet.data.length ≤ 65531) (fun _ => True) := by
  apply RoundTrip.of_bounds
  · intro packet small
    exact parse_toBytes (by omega)
  · intro body packet _ read
    obtain ⟨long, read⟩ := guard_eq_ok read
    obtain ⟨fits, done⟩ := guard_eq_ok read
    cases done
    have lengthSmall := UInt16.toNat_lt (u16At body 2)
    dsimp only
    rw [slice_length (by omega)]
    omega

end EapPacket

/-- The six list payloads: values within bounds survive the wire, and the wire brings no others. -/
theorem list_payloads_roundTrip :
    RoundTrip TrafficSelectors.parse TrafficSelectors.toBytes TrafficSelectors.Bounded (fun _ => True) ∧
    RoundTrip Configuration.parse Configuration.toBytes Configuration.Bounded (fun _ => True) ∧
    RoundTrip Notify.parse Notify.toBytes (fun notify => notify.spi.length ≤ 255) (fun _ => True) ∧
    RoundTrip Delete.parse Delete.toBytes Delete.Bounded Delete.Consistent ∧
    RoundTrip CertRequest.parse CertRequest.toBytes CertRequest.Hashes (fun _ => True) ∧
    RoundTrip EapPacket.parse EapPacket.toBytes (fun packet => packet.data.length ≤ 65531) (fun _ => True) :=
  ⟨TrafficSelectors.roundTrip, Configuration.roundTrip, Notify.roundTrip, Delete.roundTrip, CertRequest.roundTrip,
    EapPacket.roundTrip⟩

end Ryke.Ikev2
