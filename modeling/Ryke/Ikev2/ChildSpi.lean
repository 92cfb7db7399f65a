import Ryke.Lib.Tiling
import Ryke.Ikev2.Rekey

/-! The two readers of a peer's CHILD SPI. `IKE_AUTH` and EAP look at fixed offsets of the SA
payload, a rekey goes through its parser: where they differ the payload is malformed. -/

namespace Ryke.Ikev2
open Lib

/-! ## Well-formed SA payloads -/

def attributeSize (b : Bytes) : Nat :=
  if u16At b 0 &&& Transform.attrFormatTv != 0 then 4 else 4 + (u16At b 2).toNat

structure IsAttribute (b : Bytes) : Prop where
  header : 4 ≤ b.length
  length : attributeSize b = b.length

def Attributes (b : Bytes) : Prop := ∃ count rest, Tiles IsAttribute count b rest ∧ rest.length < 4

structure IsTransform (b : Bytes) : Prop where
  header : 8 ≤ b.length
  length : (u16At b 2).toNat = b.length
  attributes : Attributes (b.drop 8)

structure IsProposal (b : Bytes) : Prop where
  header : 8 ≤ b.length
  length : (u16At b 2).toNat = b.length
  spi : 8 + (byteAt b 6).toNat ≤ b.length
  transforms : ∃ rest, Tiles IsTransform (byteAt b 7).toNat (b.drop (8 + (byteAt b 6).toNat)) rest

/-- Nothing but proposals, one after another. -/
def WellFormedSa (body : Bytes) : Prop := ∃ count, Tiles IsProposal count body []

/-! ## What the parser accepts -/

namespace Transform

theorem attributeSize_take {b : Bytes} {n : Nat} (long : 4 ≤ n) : attributeSize (b.take n) = attributeSize b := by
  rw [attributeSize, attributeSize, u16At_take (by omega), u16At_take (by omega)]

theorem four_le_attributeSize (b : Bytes) : 4 ≤ attributeSize b := by
  unfold attributeSize
  split
  next => exact Nat.le_refl 4
  next => exact Nat.le_add_right 4 _

theorem findKeyLengthLoop_step {attrs : Bytes} (long : 4 ≤ attrs.length) (fuel : Nat) (keyLength : Option UInt16) :
    ∃ next, findKeyLengthLoop (fuel + 1) attrs keyLength =
      if attributeSize attrs ≤ attrs.length then findKeyLengthLoop fuel (attrs.drop (attributeSize attrs)) next
      else .error (.badLength (attributeSize attrs) attrs.length) := by
  rw [findKeyLengthLoop, if_neg (Nat.not_lt.mpr long), attributeSize]
  dsimp only
  split
  next => exact ⟨_, rfl⟩
  next =>
    refine ⟨keyLength, ?_⟩
    by_cases fits : 4 + (u16At attrs 2).toNat ≤ attrs.length
    · rw [if_neg (Nat.not_lt.mpr fits), if_pos fits]
    · rw [if_pos (Nat.lt_of_not_le fits), if_neg fits]

theorem attributes_step {attrs : Bytes} (long : 4 ≤ attrs.length) :
    Attributes attrs ↔ attributeSize attrs ≤ attrs.length ∧ Attributes (attrs.drop (attributeSize attrs)) := by
  constructor
  · rintro ⟨count, rest, tiles, short⟩
    cases tiles with
    | nil => omega
    | @cons count piece behind rest first later =>
      have size : attributeSize (piece ++ behind) = piece.length := by
        rw [← first.length, ← attributeSize_take first.header, List.take_left]
      rw [size, List.drop_left, List.length_append]
      exact ⟨Nat.le_add_right .., count, rest, later, short⟩
  · rintro ⟨fits, count, rest, tiles, short⟩
    have isAttribute : IsAttribute (attrs.take (attributeSize attrs)) := by
      have size : (attrs.take (attributeSize attrs)).length = attributeSize attrs := by
        rw [List.length_take, Nat.min_eq_left fits]
      constructor
      · rw [size]
        exact four_le_attributeSize attrs
      · rw [size, attributeSize_take (four_le_attributeSize attrs)]
    exact ⟨count + 1, rest, .cons_take isAttribute tiles, short⟩

theorem findKeyLengthLoop_isOk_iff (fuel : Nat) (attrs : Bytes) (keyLength : Option UInt16)
    (enough : attrs.length < fuel) :
    (∃ found, findKeyLengthLoop fuel attrs keyLength = .ok found) ↔ Attributes attrs := by
  induction fuel generalizing attrs keyLength with
  | zero => omega
  | succ fuel ih =>
    by_cases long : 4 ≤ attrs.length
    · obtain ⟨next, step⟩ := findKeyLengthLoop_step long fuel keyLength
      have positive := four_le_attributeSize attrs
      rw [step, attributes_step long]
      by_cases fits : attributeSize attrs ≤ attrs.length
      · rw [if_pos fits, ih _ next (by rw [List.length_drop]; omega)]
        exact (and_iff_right fits).symm
      · rw [if_neg fits]
        exact iff_of_false (by rintro ⟨_, wrong⟩; cases wrong) fun both => fits both.1
    · rw [findKeyLengthLoop, if_pos (Nat.lt_of_not_le long)]
      exact iff_of_true ⟨keyLength, rfl⟩ ⟨0, attrs, .nil attrs, Nat.lt_of_not_le long⟩

theorem recognises : Recognises parse IsTransform where
  nonempty := by
    intro piece isTransform
    exact Nat.lt_of_lt_of_le (by decide) isTransform.header
  accepts := by
    intro b consumed
    constructor
    · rintro ⟨transform, read⟩
      obtain ⟨long, read⟩ := guard_eq_ok read
      obtain ⟨header, read⟩ := guard_eq_ok read
      obtain ⟨fits, read⟩ := guard_eq_ok read
      obtain ⟨keyLength, found, done⟩ := bind_eq_ok read
      cases done
      refine ⟨by omega, ?_, ?_, ?_⟩
      · rw [List.length_take]
        omega
      · rw [u16At_take (by omega), List.length_take]
        omega
      · rw [List.drop_take]
        exact (findKeyLengthLoop_isOk_iff _ _ none (Nat.lt_succ_self _)).mp ⟨keyLength, found⟩
    · rintro ⟨fits, header, length, attributes⟩
      have size : (b.take consumed).length = consumed := by rw [List.length_take, Nat.min_eq_left fits]
      rw [size] at header length
      rw [u16At_take (by omega)] at length
      rw [List.drop_take] at attributes
      obtain ⟨keyLength, found⟩ := (findKeyLengthLoop_isOk_iff _ _ none (Nat.lt_succ_self _)).mpr attributes
      have read : findKeyLength (slice b 8 consumed) = .ok keyLength := found
      refine ⟨⟨byteAt b 4, u16At b 6, keyLength⟩, ?_⟩
      rw [parse, if_neg (by omega)]
      dsimp only
      rw [length, if_neg (by omega), if_neg (by omega), read]
      rfl

end Transform

namespace Proposal

theorem recognises : Recognises parse IsProposal where
  nonempty := by
    intro piece isProposal
    exact Nat.lt_of_lt_of_le (by decide) isProposal.header
  accepts := by
    intro b consumed
    constructor
    · rintro ⟨proposal, read⟩
      obtain ⟨long, read⟩ := guard_eq_ok read
      obtain ⟨header, read⟩ := guard_eq_ok read
      obtain ⟨fits, read⟩ := guard_eq_ok read
      obtain ⟨spiFits, read⟩ := guard_eq_ok read
      obtain ⟨transforms, counted, done⟩ := bind_eq_ok read
      cases done
      refine ⟨by omega, ?_, ?_, ?_, ?_⟩
      · rw [List.length_take]
        omega
      · rw [u16At_take (by omega), List.length_take]
        omega
      · rw [byteAt_take (by omega), List.length_take]
        omega
      · rw [byteAt_take (by omega), byteAt_take (by omega), List.drop_take]
        exact (parseCount_isOk_iff Transform.recognises _ _).mp ⟨transforms, counted⟩
    · rintro ⟨fits, header, length, spiFits, transforms⟩
      have size : (b.take consumed).length = consumed := by rw [List.length_take, Nat.min_eq_left fits]
      rw [size] at header length spiFits
      rw [u16At_take (by omega)] at length
      rw [byteAt_take (by omega)] at spiFits
      rw [byteAt_take (by omega), byteAt_take (by omega), List.drop_take] at transforms
      obtain ⟨items, counted⟩ := (parseCount_isOk_iff Transform.recognises _ _).mpr transforms
      have read : parseCount Transform.parse (byteAt b 7).toNat (slice b (8 + (byteAt b 6).toNat) consumed) =
        .ok items := counted
      refine ⟨⟨byteAt b 4, byteAt b 5, slice b 8 (8 + (byteAt b 6).toNat), items⟩, ?_⟩
      rw [parse, if_neg (by omega)]
      dsimp only
      rw [length, if_neg (by omega), if_neg (by omega), if_neg (by omega), read]
      rfl

theorem parse_spi {b : Bytes} {proposal : Proposal} {consumed : Nat} (read : parse b = .ok (proposal, consumed)) :
    proposal.spi = slice b 8 (8 + (byteAt b 6).toNat) ∧ 8 + (byteAt b 6).toNat ≤ b.length := by
  obtain ⟨-, read⟩ := guard_eq_ok read
  obtain ⟨-, read⟩ := guard_eq_ok read
  obtain ⟨fits, read⟩ := guard_eq_ok read
  obtain ⟨spiFits, read⟩ := guard_eq_ok read
  obtain ⟨_, -, done⟩ := bind_eq_ok read
  cases done
  exact ⟨rfl, by omega⟩

end Proposal

namespace SecurityAssociation

/-- The parser accepts what is well formed, and nothing else. -/
theorem parse_isOk_iff (body : Bytes) : (∃ sa, parse body = .ok sa) ↔ WellFormedSa body := by
  rw [WellFormedSa, ← parseMany_isOk_iff Proposal.recognises]
  constructor
  · rintro ⟨sa, read⟩
    obtain ⟨proposals, parsed, -⟩ := bind_eq_ok read
    exact ⟨proposals, parsed⟩
  · rintro ⟨proposals, parsed⟩
    refine ⟨⟨proposals⟩, ?_⟩
    rw [parse, parsed]
    rfl

theorem parse_head? {body : Bytes} {sa : SecurityAssociation} (read : parse body = .ok sa) :
    (body = [] ∧ sa.proposals.head? = none) ∨
      ∃ proposal consumed, Proposal.parse body = .ok (proposal, consumed) ∧ sa.proposals.head? = some proposal := by
  obtain ⟨proposals, parsed, done⟩ := bind_eq_ok read
  cases done
  cases body with
  | nil =>
    cases parsed
    exact .inl ⟨rfl, rfl⟩
  | cons x rest =>
    rw [parseMany, List.length_cons, parseManyFuel, if_neg (List.cons_ne_nil x rest)] at parsed
    obtain ⟨proposal, consumed, others, first, -, rfl⟩ := read_item parsed
    exact .inr ⟨proposal, consumed, first, rfl⟩

end SecurityAssociation

/-! ## The two readers -/

theorem rekeySpi_of_parsed {sa : Bytes} {parsed : SecurityAssociation}
    (isParsed : SecurityAssociation.parse sa = .ok parsed) (spi : UInt32) :
    Rekey.espSpiFromSa sa = .ok spi ↔ espSpiFromSa sa = some spi := by
  rw [Rekey.espSpiFromSa, isParsed, ok_bind, espSpiFromSa]
  rcases SecurityAssociation.parse_head? isParsed with ⟨rfl, none⟩ | ⟨proposal, consumed, isFirst, head⟩
  · rw [none]
    exact iff_of_false (by rintro ⟨⟩) (by rintro ⟨⟩)
  · obtain ⟨bytes, inside⟩ := Proposal.parse_spi isFirst
    rw [head, okOr_some, ok_bind]
    by_cases size : byteAt sa 6 = 4
    · rw [size] at bytes inside
      have four : ¬ proposal.spi.length ≠ 4 := by
        rw [bytes, slice_length inside]
        decide
      have value : u32At proposal.spi 0 = u32At sa 8 := by
        rw [bytes]
        exact u32At_slice sa 8
      rw [if_neg four, if_pos ⟨inside, size⟩, value, Except.ok.injEq, Option.some.injEq]
    · have other : proposal.spi.length ≠ 4 := by
        rw [bytes, slice_length inside]
        intro four
        apply size
        apply UInt8.toNat.inj
        change (byteAt sa 6).toNat = 4
        omega
      rw [if_pos other, if_neg fun both => size both.2]
      exact iff_of_false (by rintro ⟨⟩) (by rintro ⟨⟩)

/-- The rekey reader takes the SPI that stands at the fixed offsets, of well-formed payloads only. -/
theorem rekeySpi_eq_ok_iff (sa : Bytes) (spi : UInt32) :
    Rekey.espSpiFromSa sa = .ok spi ↔ WellFormedSa sa ∧ espSpiFromSa sa = some spi := by
  rw [← SecurityAssociation.parse_isOk_iff]
  constructor
  · intro read
    obtain ⟨parsed, isParsed, -⟩ := bind_eq_ok read
    exact ⟨⟨parsed, isParsed⟩, (rekeySpi_of_parsed isParsed spi).mp read⟩
  · rintro ⟨⟨parsed, isParsed⟩, taken⟩
    exact (rekeySpi_of_parsed isParsed spi).mpr taken

/-- The readers agree on an SA payload exactly when it is well formed, or when there is
nothing at the fixed offsets to be taken for a four-byte SPI. -/
theorem espSpiFromSa_agree_iff (sa : Bytes) :
    (∀ spi, espSpiFromSa sa = some spi ↔ Rekey.espSpiFromSa sa = .ok spi) ↔
      sa.length < 12 ∨ byteAt sa 6 ≠ 4 ∨ WellFormedSa sa := by
  by_cases named : sa.length ≥ 12 ∧ byteAt sa 6 = 4
  · constructor
    · intro agree
      have taken : espSpiFromSa sa = some (u32At sa 8) := by rw [espSpiFromSa, if_pos named]
      exact .inr (.inr ((rekeySpi_eq_ok_iff sa _).mp ((agree _).mp taken)).1)
    · intro proper spi
      have wellFormed : WellFormedSa sa := by
        rcases proper with short | other | wellFormed
        · omega
        · exact absurd named.2 other
        · exact wellFormed
      rw [rekeySpi_eq_ok_iff, and_iff_right wellFormed]
  · have nothing : espSpiFromSa sa = none := by rw [espSpiFromSa, if_neg named]
    constructor
    · intro _
      by_cases long : 12 ≤ sa.length
      · exact .inr (.inl fun size => named ⟨long, size⟩)
      · exact .inl (Nat.lt_of_not_le long)
    · intro _ spi
      rw [rekeySpi_eq_ok_iff, nothing]
      exact iff_of_false (by rintro ⟨⟩) fun both => by cases both.2

namespace Toy
open Ryke.Toy

def lyingSa : Bytes := [0, 0, 0, 0, 1, 3, 4, 0, 0, 0, 0, 7]

def requestOffering (body : Bytes) : Bytes :=
  let octets := initiatorSignedOctets toy respSa.initMessage respSa.nr respSa.keys.skPi alice.toBytes
  let chain : List Payload := [(.idInitiator, alice.toBytes),
    (.authentication, (pskAuthPayload toy psk octets).toBytes), (.securityAssociation, body)]
  (buildEncryptedGcm toy (ikeAuthHeader respSa false) (firstPayloadType chain) (encodePayloadChain chain)
    respSa.keys.skEi (.ofU64 1)).toOption.getD []

end Toy

/-- An authenticated `IKE_AUTH` is answered for an SPI that no rekey would read: from a
proposal whose length is a lie, or from one with a stray byte behind it. -/
theorem espSpiFromSa_disagree :
    espSpiFromSa Toy.lyingSa = some 7 ∧ Rekey.espSpiFromSa Toy.lyingSa = .error (.shortPayload 0) ∧
      espSpiFromSa ((espOffer 7).toBytes ++ [0]) = some 7 ∧
      Rekey.espSpiFromSa ((espOffer 7).toBytes ++ [0]) = .error (.truncated 8 1) ∧
      ∃ response, responderProcessAuth toy Toy.respSa (Toy.requestOffering Toy.lyingSa) Toy.serverConfig 9 (.ofU64 2)
        none = .ok (response, Toy.alice, 7) := by
  have run : (responderProcessAuth toy Toy.respSa (Toy.requestOffering Toy.lyingSa) Toy.serverConfig 9 (.ofU64 2)
      none).map Prod.snd = .ok (Toy.alice, 7) := by
    decide +kernel
  refine ⟨?_, ?_, ?_, ?_, exists_of_map_snd run⟩
  · decide
  · rfl
  · decide +kernel
  · rfl

end Ryke.Ikev2
