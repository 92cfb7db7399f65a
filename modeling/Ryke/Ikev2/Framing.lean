import Ryke.Ikev2.Message

/-! A whole message from both ends: what is pushed to a builder is what a reader of the
built bytes gets, and the header's length is the message's as long as 32 bits hold it. -/

namespace Ryke.Ikev2
open Lib

namespace MessageBuilder

def new (header : IkeHeader) : MessageBuilder := ⟨header, []⟩

def push (builder : MessageBuilder) (payloadType : PayloadType) (body : Bytes) : MessageBuilder :=
  { builder with payloads := builder.payloads ++ [(payloadType, body)] }

def pushAll (builder : MessageBuilder) (chain : List Payload) : MessageBuilder :=
  chain.foldl (fun builder payload => builder.push payload.1 payload.2) builder

theorem pushAll_append (builder : MessageBuilder) (chain : List Payload) :
    builder.pushAll chain = { builder with payloads := builder.payloads ++ chain } := by
  induction chain generalizing builder with
  | nil =>
    rw [List.append_nil]
    rfl
  | cons payload rest ih =>
    change (builder.push payload.1 payload.2).pushAll rest = _
    rw [ih, push, List.append_assoc]
    rfl

theorem pushAll_new (header : IkeHeader) (chain : List Payload) : (new header).pushAll chain = ⟨header, chain⟩ :=
  pushAll_append (new header) chain

end MessageBuilder

/-- How many bytes a message takes: the header, and a generic header before every body. -/
def messageLength (chain : List Payload) : Nat :=
  IkeHeader.len + (chain.map fun payload => 4 + payload.2.length).sum

theorem MessageBuilder.build_length (builder : MessageBuilder) :
    builder.build.length = messageLength builder.payloads := by
  rw [build, List.length_append, IkeHeader.toBytes_length, encodePayloadChain_length, messageLength]

/-- A reader of the message gets the header back, with the first type and the message's
length filled in, and then the payloads in order. -/
structure ReadsBack (header : IkeHeader) (chain : List Payload) (message : Bytes) : Prop where
  fields : ∃ length, IkeHeader.parse message =
    .ok { header with nextPayload := firstPayloadType chain, length := length } ∧ length.toNat = message.length
  body : payloads (firstPayloadType chain) (message.drop IkeHeader.len) =
    chain.map fun payload => .ok ⟨payload.1, false, payload.2⟩

/-- The 32-bit length field holds the lengths below `2 ^ 32` and no others. -/
theorem build_readsBack_iff (header : IkeHeader) (major : header.majorVersion < 16)
    (minor : header.minorVersion < 16)
    (exchange : ExchangeType.fromU8 header.exchangeType.toU8 = header.exchangeType) (chain : List Payload)
    (proper : ∀ payload ∈ chain, payload.1.Proper ∧ payload.2.length ≤ 65531) :
    ReadsBack header chain ((MessageBuilder.new header).pushAll chain).build ↔ messageLength chain < 2 ^ 32 := by
  rw [MessageBuilder.pushAll_new]
  have fits : ∀ payload ∈ chain, Fits payload := by
    intro payload member
    obtain ⟨canonical, small⟩ := proper payload member
    exact ⟨canonical, by omega⟩
  have formed : MessageBuilder.WellFormed ⟨header, chain⟩ := ⟨major, minor, exchange, fits⟩
  have total : (MessageBuilder.build ⟨header, chain⟩).length = messageLength chain :=
    MessageBuilder.build_length ⟨header, chain⟩
  have parsed := MessageBuilder.parse_build formed []
  have items := MessageBuilder.payloads_build formed []
  rw [List.append_nil] at parsed items
  have field : (MessageBuilder.fullHeader ⟨header, chain⟩).length.toNat = messageLength chain % 2 ^ 32 := by
    dsimp only [MessageBuilder.fullHeader]
    rw [UInt32.toNat_ofNat', encodePayloadChain_length, messageLength]
  constructor
  · intro reads
    obtain ⟨length, read, counts⟩ := reads.fields
    rw [parsed] at read
    have same := congrArg IkeHeader.length (Except.ok.inj read)
    dsimp only at same
    rw [← same, field, total] at counts
    omega
  · intro small
    constructor
    · refine ⟨_, parsed, field.trans ?_⟩
      rw [total, Nat.mod_eq_of_lt small]
    · exact items

namespace Toy

def plainHeader : IkeHeader where
  initiatorSpi := 1
  responderSpi := 0
  nextPayload := .noNext
  majorVersion := 2
  minorVersion := 0
  exchangeType := .ikeSaInit
  flags := ⟨true, false, false⟩
  messageId := 0
  length := 0

def fullChain (count : Nat) : List Payload := List.replicate count (.notify, List.replicate 65531 0)

theorem messageLength_fullChain (count : Nat) : messageLength (fullChain count) = 28 + count * 65535 := by
  rw [messageLength, fullChain, List.map_replicate, List.sum_replicate_nat]
  dsimp only
  rw [List.length_replicate, IkeHeader.len]

end Toy

theorem build_readsBack_pair :
    ReadsBack Toy.plainHeader [(.nonce, [1, 2, 3]), (.notify, [])]
      ((MessageBuilder.new Toy.plainHeader).pushAll [(.nonce, [1, 2, 3]), (.notify, [])]).build :=
  (build_readsBack_iff Toy.plainHeader (by decide) (by decide) rfl [(.nonce, [1, 2, 3]), (.notify, [])]
    (by decide)).mpr (by decide)

/-- With 65537 full payloads the length field has wrapped. -/
theorem build_not_readsBack :
    (∀ payload ∈ Toy.fullChain 65537, payload.1.Proper ∧ payload.2.length ≤ 65531) ∧
      ¬ ReadsBack Toy.plainHeader (Toy.fullChain 65537)
        ((MessageBuilder.new Toy.plainHeader).pushAll (Toy.fullChain 65537)).build := by
  have proper : ∀ payload ∈ Toy.fullChain 65537, payload.1.Proper ∧ payload.2.length ≤ 65531 := by
    intro payload member
    rw [List.eq_of_mem_replicate member]
    exact ⟨by decide, Nat.le_of_eq List.length_replicate⟩
  refine ⟨proper, ?_⟩
  intro reads
  obtain ⟨length, -, counts⟩ := reads.fields
  have bound := UInt32.toNat_lt length
  rw [counts, MessageBuilder.build_length, MessageBuilder.pushAll_new, Toy.messageLength_fullChain] at bound
  exact absurd bound (by decide)

end Ryke.Ikev2
