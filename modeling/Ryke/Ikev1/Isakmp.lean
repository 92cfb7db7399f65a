import Mathlib.Data.Nat.Bitwise
import Ryke.Lib.Codec
import Ryke.Primitives

/-! ISAKMP framing and the payload bodies of IKEv1: the header, the chain of generic
payloads, and the SA tree with its attributes. -/

namespace Ryke.Ikev1
open Lib

namespace exchange
def aggressive : UInt8 := 4
def quick : UInt8 := 32
end exchange

namespace flags
def encryption : UInt8 := 0x01
end flags

namespace payload
def none : UInt8 := 0
def sa : UInt8 := 1
def proposal : UInt8 := 2
def transform : UInt8 := 3
def ke : UInt8 := 4
def id : UInt8 := 5
def hash : UInt8 := 8
def nonce : UInt8 := 10
def vendorId : UInt8 := 13
end payload

abbrev Cookie := Bytes

structure IsakmpHeader where
  initCookie : Cookie
  respCookie : Cookie
  nextPayload : UInt8
  version : UInt8
  exchangeType : UInt8
  flags : UInt8
  messageId : UInt32
  length : UInt32
  deriving DecidableEq, Repr

namespace IsakmpHeader

def len : Nat := 28
def version10 : UInt8 := 0x10

def parse (bytes : Bytes) : Result IsakmpHeader :=
  if bytes.length < len then .error (.truncated len bytes.length)
  else .ok {
    initCookie := slice bytes 0 8
    respCookie := slice bytes 8 16
    nextPayload := byteAt bytes 16
    version := byteAt bytes 17
    exchangeType := byteAt bytes 18
    flags := byteAt bytes 19
    messageId := u32At bytes 20
    length := u32At bytes 24 }

def toBytes (header : IsakmpHeader) : Bytes :=
  header.initCookie ++ header.respCookie ++
    [header.nextPayload, header.version, header.exchangeType, header.flags] ++ u32Bytes header.messageId ++
    u32Bytes header.length

def encrypted (header : IsakmpHeader) : Bool := header.flags &&& flags.encryption != 0

end IsakmpHeader

structure Payload where
  payloadType : UInt8
  data : Bytes
  deriving DecidableEq, Repr

/-- The loop of `parse_payloads` from offset `off`, for at most `fuel` payloads. -/
def parsePayloadsFrom (body : Bytes) : Nat → UInt8 → Nat → Result (List Payload)
  | 0, _, _ => .ok []
  | fuel + 1, next, off =>
      if next = payload.none then .ok []
      else if off + 4 > body.length then .error (.truncated (off + 4) body.length)
      else
        let len := (u16At body (off + 2)).toNat
        if len < 4 ∨ off + len > body.length then .error (.badLength len (body.length - off))
        else do
          let rest ← parsePayloadsFrom body fuel (byteAt body off) (off + len)
          .ok (⟨next, slice body (off + 4) (off + len)⟩ :: rest)

/-- Every payload takes at least four bytes, so the body's length is enough fuel. -/
def parsePayloads (first : UInt8) (body : Bytes) : Result (List Payload) :=
  parsePayloadsFrom body (body.length + 1) first 0

theorem parsePayloadsFrom_fuel (body : Bytes) (fuel more : Nat) (next : UInt8) (off : Nat)
    (within : off ≤ body.length) (enough : body.length < fuel + off) :
    parsePayloadsFrom body (fuel + more) next off = parsePayloadsFrom body fuel next off := by
  induction fuel generalizing next off with
  | zero => omega
  | succ fuel ih =>
    rw [Nat.add_right_comm, parsePayloadsFrom, parsePayloadsFrom]
    dsimp only
    split
    next => rfl
    next =>
      split
      next => rfl
      next =>
        split
        next => rfl
        next fits => rw [ih _ _ (by omega) (by omega)]

def encodeChain : List (UInt8 × Bytes) → Bytes
  | [] => []
  | (_, data) :: rest =>
      [(rest.head?.map Prod.fst).getD payload.none, 0] ++ u16Bytes (UInt16.ofNat (4 + data.length)) ++ data ++
        encodeChain rest

def encodePayloads (payloads : List (UInt8 × Bytes)) : UInt8 × Bytes :=
  ((payloads.head?.map Prod.fst).getD payload.none, encodeChain payloads)

def buildMessage (header : IsakmpHeader) (payloads : List (UInt8 × Bytes)) : Bytes :=
  let (first, body) := encodePayloads payloads
  { header with nextPayload := first, length := UInt32.ofNat (IsakmpHeader.len + body.length) : IsakmpHeader }.toBytes ++
    body

/-! ## Attributes -/

namespace attr
def encryption : UInt16 := 1
def hash : UInt16 := 2
def authMethod : UInt16 := 3
def groupDesc : UInt16 := 4
def lifeType : UInt16 := 11
def lifeDuration : UInt16 := 12
def keyLength : UInt16 := 14
end attr

namespace enc
def aesCbc : UInt16 := 7
end enc

namespace hash
def sha1 : UInt16 := 2
def sha2256 : UInt16 := 4
end hash

namespace auth
def psk : UInt16 := 1
def xauthInitPsk : UInt16 := 65001
end auth

namespace life
def seconds : UInt16 := 1
end life

namespace protocol
def isakmp : UInt8 := 1
def esp : UInt8 := 3
end protocol

namespace id_type
def ipv4Addr : UInt8 := 1
def ipv4AddrSubnet : UInt8 := 4
end id_type

inductive AttrValue where
  | short (value : UInt16)
  | long (value : Bytes)
  deriving DecidableEq, Repr

structure Attribute where
  attrType : UInt16
  value : AttrValue
  deriving DecidableEq, Repr

namespace Attribute

def ofShort (attrType value : UInt16) : Attribute := ⟨attrType, .short value⟩

def longU32 (attrType : UInt16) (value : UInt32) : Attribute := ⟨attrType, .long (u32Bytes value)⟩

def parse (b : Bytes) : Result (Attribute × Nat) :=
  if b.length < 4 then .error (.truncated 4 b.length)
  else
    let typeAf := u16At b 0
    let attrType := typeAf &&& 0x7FFF
    if typeAf &&& 0x8000 ≠ 0 then .ok (⟨attrType, .short (u16At b 2)⟩, 4)
    else
      let len := (u16At b 2).toNat
      if 4 + len > b.length then .error (.badLength (4 + len) b.length)
      else .ok (⟨attrType, .long (slice b 4 (4 + len))⟩, 4 + len)

def toBytes (self : Attribute) : Bytes :=
  match self.value with
  | .short value => u16Bytes (self.attrType ||| 0x8000) ++ u16Bytes value
  | .long data => u16Bytes self.attrType ++ u16Bytes (UInt16.ofNat data.length) ++ data

def asU16 (self : Attribute) : Option UInt16 :=
  match self.value with
  | .short value => some value
  | .long data => if data.length = 2 then some (u16At data 0) else none

end Attribute

def parseAttributes (b : Bytes) : Result (List Attribute) := parseMany Attribute.parse b

/-! ## The SA tree -/

structure Transform where
  num : UInt8
  transformId : UInt8
  attributes : List Attribute
  deriving DecidableEq, Repr

namespace Transform

def parse (body : Bytes) : Result Transform :=
  if body.length < 4 then .error (.truncated 4 body.length)
  else do
    let attributes ← parseAttributes (body.drop 4)
    .ok ⟨byteAt body 0, byteAt body 1, attributes⟩

def toBytes (transform : Transform) : Bytes :=
  [transform.num, transform.transformId, 0, 0] ++ transform.attributes.flatMap Attribute.toBytes

def attr (transform : Transform) (attrType : UInt16) : Option UInt16 :=
  (transform.attributes.find? fun a => a.attrType == attrType).bind Attribute.asU16

end Transform

structure Proposal where
  num : UInt8
  protocolId : UInt8
  spi : Bytes
  transforms : List Transform
  deriving DecidableEq, Repr

namespace Proposal

def parse (body : Bytes) : Result Proposal :=
  if body.length < 4 then .error (.truncated 4 body.length)
  else
    let spiSize := (byteAt body 2).toNat
    if 4 + spiSize > body.length then .error (.badLength (4 + spiSize) body.length)
    else do
      let parts ← parsePayloads payload.transform (body.drop (4 + spiSize))
      let transforms ← parts.mapM fun part => Transform.parse part.data
      .ok ⟨byteAt body 0, byteAt body 1, slice body 4 (4 + spiSize), transforms⟩

def toBytes (proposal : Proposal) : Bytes :=
  [proposal.num, proposal.protocolId, UInt8.ofNat proposal.spi.length, UInt8.ofNat proposal.transforms.length] ++
    proposal.spi ++ (encodePayloads (proposal.transforms.map fun t => (payload.transform, t.toBytes))).2

end Proposal

structure SaPayload where
  doi : UInt32
  situation : UInt32
  proposals : List Proposal
  deriving DecidableEq, Repr

def ipsecDoi : UInt32 := 1
def sitIdentityOnly : UInt32 := 1

namespace SaPayload

def parse (body : Bytes) : Result SaPayload :=
  if body.length < 8 then .error (.truncated 8 body.length)
  else do
    let parts ← parsePayloads payload.proposal (body.drop 8)
    let proposals ← parts.mapM fun part => Proposal.parse part.data
    .ok ⟨u32At body 0, u32At body 4, proposals⟩

def toBytes (sa : SaPayload) : Bytes :=
  u32Bytes sa.doi ++ u32Bytes sa.situation ++
    (encodePayloads (sa.proposals.map fun p => (payload.proposal, p.toBytes))).2

end SaPayload

structure Id where
  idType : UInt8
  protocol : UInt8
  port : UInt16
  data : Bytes
  deriving DecidableEq, Repr

def Id.toBytes (id : Id) : Bytes := [id.idType, id.protocol] ++ u16Bytes id.port ++ id.data

/-! ## Reading back what was written -/

theorem IsakmpHeader.toBytes_length {header : IsakmpHeader} (sizeI : header.initCookie.length = 8)
    (sizeR : header.respCookie.length = 8) : header.toBytes.length = len := by
  simp only [toBytes, List.length_append, List.length_cons, List.length_nil, u32Bytes_length, sizeI, sizeR]
  rfl

theorem IsakmpHeader.parse_toBytes {header : IsakmpHeader} (sizeI : header.initCookie.length = 8)
    (sizeR : header.respCookie.length = 8) (rest : Bytes) : parse (header.toBytes ++ rest) = .ok header := by
  have size := toBytes_length sizeI sizeR
  have long : ¬ (header.toBytes ++ rest).length < len := by
    rw [List.length_append, size]
    omega
  let tail := [header.nextPayload, header.version, header.exchangeType, header.flags] ++ u32Bytes header.messageId ++
    u32Bytes header.length ++ rest
  have form : header.toBytes ++ rest = header.initCookie ++ (header.respCookie ++ tail) := by
    simp only [toBytes, tail, List.append_assoc]
  have initCookie : slice (header.toBytes ++ rest) 0 8 = header.initCookie := by
    rw [form]
    exact List.take_left' sizeI
  have respCookie : slice (header.toBytes ++ rest) 8 16 = header.respCookie := by
    rw [form]
    apply slice_append_mid sizeI.symm
    rw [sizeI, sizeR]
  have at_ : ∀ i, byteAt (header.toBytes ++ rest) (16 + i) = byteAt tail i := by
    intro i
    rw [form, byteAt_append_right (by omega), byteAt_append_right (by omega), sizeI, sizeR]
    congr 1
    omega
  have messageId : u32At (header.toBytes ++ rest) 20 = header.messageId := by
    rw [u32At, at_ 4, at_ 5, at_ 6, at_ 7]
    exact be32_split _
  have declared : u32At (header.toBytes ++ rest) 24 = header.length := by
    rw [u32At, at_ 8, at_ 9, at_ 10, at_ 11]
    exact be32_split _
  rw [parse, if_neg long, initCookie, respCookie, at_ 0, at_ 1, at_ 2, at_ 3, messageId, declared]
  rfl

/-- A payload that a chain can carry: not of type zero, and within its length field. -/
def Fits (item : UInt8 × Bytes) : Prop := item.1 ≠ payload.none ∧ 4 + item.2.length < 65536

instance (item : UInt8 × Bytes) : Decidable (Fits item) := inferInstanceAs (Decidable (_ ∧ _))

theorem Fits.of {kind : UInt8} {body : Bytes} (real : kind ≠ payload.none) (small : 4 + body.length < 65536) :
    Fits (kind, body) := ⟨real, small⟩

def readBack (item : UInt8 × Bytes) : Payload := ⟨item.1, item.2⟩

theorem fits_of_parsePayloadsFrom {body : Bytes} {fuel off : Nat} {next : UInt8} {ps : List Payload}
    (read : parsePayloadsFrom body fuel next off = .ok ps) :
    ∀ p ∈ ps, Fits (p.payloadType, p.data) ∧ 4 + p.data.length ≤ body.length := by
  induction fuel generalizing next off ps with
  | zero =>
    cases read
    exact fun _ member => absurd member List.not_mem_nil
  | succ fuel ih =>
    rw [parsePayloadsFrom] at read
    split at read
    next =>
      cases read
      exact fun _ member => absurd member List.not_mem_nil
    next real =>
      obtain ⟨room, read⟩ := guard_eq_ok read
      obtain ⟨sized, read⟩ := guard_eq_ok read
      obtain ⟨rest, others, read⟩ := bind_eq_ok read
      cases read
      have declared := UInt16.toNat_lt (u16At body (off + 2))
      intro p member
      rcases List.mem_cons.mp member with rfl | inRest
      · have length : (slice body (off + 4) (off + (u16At body (off + 2)).toNat)).length =
            (u16At body (off + 2)).toNat - 4 := by
          rw [slice_length (by omega)]
          omega
        dsimp only
        exact ⟨.of real (by omega), by omega⟩
      · exact ih others p inRest

theorem parsePayloadsFrom_encodeChain {chain : List (UInt8 × Bytes)} (fits : ∀ item ∈ chain, Fits item)
    (front rest : Bytes) (more : Nat) :
    parsePayloadsFrom (front ++ (encodeChain chain ++ rest)) (more + chain.length + 1) (encodePayloads chain).1
      front.length = .ok (chain.map readBack) := by
  induction chain generalizing front with
  | nil => rfl
  | cons item chain ih =>
    obtain ⟨kind, data⟩ := item
    obtain ⟨real, small⟩ := fits (kind, data) List.mem_cons_self
    let head := [(encodePayloads chain).1, 0] ++ u16Bytes (UInt16.ofNat (4 + data.length))
    have form : encodeChain ((kind, data) :: chain) = head ++ data ++ encodeChain chain := rfl
    have headSize : head.length = 4 := rfl
    let body := front ++ (encodeChain ((kind, data) :: chain) ++ rest)
    have split : body = front ++ (head ++ (data ++ (encodeChain chain ++ rest))) := by
      simp only [body, form, List.append_assoc]
    have bodySize : body.length = front.length + (4 + (data.length + (encodeChain chain ++ rest).length)) := by
      rw [split]
      simp only [List.length_append, headSize]
    have at_ : ∀ i, i < 4 → byteAt body (front.length + i) = byteAt head i := by
      intro i inside
      rw [split, byteAt_append_right (by omega), Nat.add_sub_cancel_left, byteAt_append_left (by omega)]
    have declared : (u16At body (front.length + 2)).toNat = 4 + data.length := by
      have field : u16At body (front.length + 2) = UInt16.ofNat (4 + data.length) := by
        rw [u16At, at_ 2 (by decide), Nat.add_assoc, at_ 3 (by decide)]
        exact be16_split _
      rw [field]
      exact UInt16.toNat_ofNat_of_lt small
    have room : ¬ front.length + 4 > body.length := by omega
    have sized : ¬ (4 + data.length < 4 ∨ front.length + (4 + data.length) > body.length) := by omega
    have whole : slice body (front.length + 4) (front.length + (4 + data.length)) = data := by
      rw [split, ← List.append_assoc]
      apply slice_append_mid
      · rw [List.length_append, headSize]
      · rw [List.length_append, headSize]
        omega
    have next : byteAt body front.length = (encodePayloads chain).1 := at_ 0 (by decide)
    have onward : body = (front ++ (head ++ data)) ++ (encodeChain chain ++ rest) := by
      rw [split]
      simp only [List.append_assoc]
    have offset : front.length + (4 + data.length) = (front ++ (head ++ data)).length := by
      simp only [List.length_append, headSize]
    change parsePayloadsFrom body (more + chain.length + 1 + 1) kind front.length = _
    rw [parsePayloadsFrom, if_neg real, if_neg room]
    dsimp only
    rw [declared, if_neg sized, whole, next, onward, offset,
      ih (fun item member => fits item (List.mem_cons_of_mem _ member))]
    rfl

theorem encodePayloads_length_pos {chain : List (UInt8 × Bytes)} (nonempty : chain ≠ []) :
    0 < (encodePayloads chain).2.length := by
  cases chain with
  | nil => exact absurd rfl nonempty
  | cons item chain =>
    simp only [encodePayloads, encodeChain, List.length_append, List.length_cons, List.length_nil, u16Bytes_length]
    omega

/-- A written chain is read back, whatever padding follows it. -/
theorem parsePayloads_encodePayloads {chain : List (UInt8 × Bytes)} (fits : ∀ item ∈ chain, Fits item) (rest : Bytes) :
    parsePayloads (encodePayloads chain).1 ((encodePayloads chain).2 ++ rest) = .ok (chain.map readBack) := by
  rw [parsePayloads, ← parsePayloadsFrom_fuel _ _ chain.length _ 0 (Nat.zero_le _) (by omega), Nat.add_right_comm]
  exact parsePayloadsFrom_encodeChain fits [] rest _

theorem parse_buildMessage {header : IsakmpHeader} (sizeI : header.initCookie.length = 8)
    (sizeR : header.respCookie.length = 8) {chain : List (UInt8 × Bytes)} (fits : ∀ item ∈ chain, Fits item) :
    ∃ written length, written = { header with nextPayload := (encodePayloads chain).1, length := length } ∧
      IsakmpHeader.parse (buildMessage header chain) = .ok written ∧
      parsePayloads written.nextPayload ((buildMessage header chain).drop IsakmpHeader.len) =
        .ok (chain.map readBack) := by
  let written : IsakmpHeader := { header with
    nextPayload := (encodePayloads chain).1
    length := UInt32.ofNat (IsakmpHeader.len + (encodePayloads chain).2.length) }
  have writtenI : written.initCookie.length = 8 := sizeI
  have writtenR : written.respCookie.length = 8 := sizeR
  have form : buildMessage header chain = written.toBytes ++ (encodePayloads chain).2 := rfl
  refine ⟨written, written.length, rfl, ?_, ?_⟩
  · rw [form]
    exact IsakmpHeader.parse_toBytes writtenI writtenR _
  · rw [form, List.drop_left' (IsakmpHeader.toBytes_length writtenI writtenR)]
    have read := parsePayloads_encodePayloads fits []
    rwa [List.append_nil] at read

def Attribute.Fits (self : Attribute) : Prop :=
  self.attrType < 0x8000 ∧ match self.value with
    | .short _ => True
    | .long data => data.length < 65536

theorem Attribute.tagged (attrType : UInt16) (small : attrType < 0x8000) :
    (attrType ||| 0x8000) &&& 0x7FFF = attrType ∧ (attrType ||| 0x8000) &&& 0x8000 ≠ 0 ∧
      attrType &&& 0x7FFF = attrType ∧ attrType &&& 0x8000 = 0 := by
  have below : attrType.toNat < 2 ^ 15 := small
  have joined : (attrType ||| 0x8000).toNat = 2 ^ 15 + attrType.toNat := by
    have split := Nat.two_pow_add_eq_or_of_lt below 1
    rw [Nat.mul_one] at split
    rw [UInt16.toNat_or, split, Nat.or_comm]
    rfl
  have low : ∀ v : UInt16, (v &&& 0x7FFF).toNat = v.toNat % 2 ^ 15 := by
    intro v
    rw [UInt16.toNat_and, ← Nat.and_two_pow_sub_one_eq_mod]
    rfl
  have high : ∀ v : UInt16, (v &&& 0x8000).toNat = (v.toNat.testBit 15).toNat * 2 ^ 15 := by
    intro v
    rw [UInt16.toNat_and, ← Nat.and_two_pow]
    rfl
  refine ⟨?_, ?_, ?_, ?_⟩
  · apply UInt16.toNat.inj
    rw [low, joined, Nat.add_mod_left, Nat.mod_eq_of_lt below]
  · intro zero
    have value := high (attrType ||| 0x8000)
    rw [zero, joined, Nat.testBit_two_pow_add_eq, Nat.testBit_lt_two_pow below] at value
    exact absurd value (by decide)
  · apply UInt16.toNat.inj
    rw [low, Nat.mod_eq_of_lt below]
  · apply UInt16.toNat.inj
    rw [high, Nat.testBit_lt_two_pow below]
    rfl

theorem Attribute.encodes_toBytes {self : Attribute} (fits : self.Fits) :
    Encodes Attribute.parse self self.toBytes := by
  obtain ⟨attrType, value⟩ := self
  obtain ⟨small, sized⟩ := fits
  obtain ⟨shortType, isShort, longType, isLong⟩ := tagged attrType small
  cases value with
  | short value =>
    refine ⟨nofun, ?_⟩
    intro rest
    have form : (⟨attrType, .short value⟩ : Attribute).toBytes = u16Bytes (attrType ||| 0x8000) ++ u16Bytes value := rfl
    have long : ¬ (u16Bytes (attrType ||| 0x8000) ++ u16Bytes value ++ rest).length < 4 := by
      rw [List.length_append]
      exact Nat.not_lt.mpr (Nat.le_add_right 4 _)
    have kind : u16At (u16Bytes (attrType ||| 0x8000) ++ u16Bytes value ++ rest) 0 = attrType ||| 0x8000 := be16_split _
    have body : u16At (u16Bytes (attrType ||| 0x8000) ++ u16Bytes value ++ rest) 2 = value := be16_split _
    rw [form, parse, if_neg long]
    dsimp only
    rw [kind, if_pos isShort, shortType, body]
    rfl
  | long data =>
    refine ⟨nofun, ?_⟩
    intro rest
    have form : (⟨attrType, .long data⟩ : Attribute).toBytes =
      u16Bytes attrType ++ u16Bytes (UInt16.ofNat data.length) ++ data := rfl
    let whole := u16Bytes attrType ++ u16Bytes (UInt16.ofNat data.length) ++ data ++ rest
    have size : whole.length = 4 + data.length + rest.length := by
      simp only [whole, List.length_append, u16Bytes_length]
    have long : ¬ whole.length < 4 := by omega
    have kind : u16At whole 0 = attrType := be16_split _
    have declared : (u16At whole 2).toNat = data.length := by
      have field : u16At whole 2 = UInt16.ofNat data.length := be16_split _
      rw [field]
      exact UInt16.toNat_ofNat_of_lt sized
    have room : ¬ 4 + data.length > whole.length := by omega
    have body : slice whole 4 (4 + data.length) = data := by
      simp only [whole, List.append_assoc]
      rw [← List.append_assoc]
      exact slice_append_mid rfl rfl
    rw [form]
    change parse whole = _
    rw [parse, if_neg long]
    dsimp only
    rw [kind, if_neg (not_not.mpr isLong), longType, declared, if_neg room, body]
    rw [List.length_append]
    rfl

instance (self : Attribute) : Decidable self.Fits :=
  match self with
  | ⟨_, .short _⟩ => inferInstanceAs (Decidable (_ ∧ True))
  | ⟨_, .long data⟩ => inferInstanceAs (Decidable (_ ∧ data.length < 65536))

theorem parseAttributes_toBytes {attributes : List Attribute} (fits : ∀ item ∈ attributes, item.Fits) :
    parseAttributes (attributes.flatMap Attribute.toBytes) = .ok attributes := by
  have each : List.Forall₂ (Encodes Attribute.parse) attributes (attributes.map Attribute.toBytes) := by
    rw [List.forall₂_map_right_iff, List.forall₂_same]
    exact fun item member => Attribute.encodes_toBytes (fits item member)
  rw [List.flatMap_def]
  exact parseMany_encodes each

def Transform.Fits (transform : Transform) : Prop :=
  (∀ item ∈ transform.attributes, item.Fits) ∧ 4 + transform.toBytes.length < 65536

instance (transform : Transform) : Decidable transform.Fits := inferInstanceAs (Decidable (_ ∧ _))

theorem Transform.parse_toBytes {transform : Transform} (fits : transform.Fits) :
    parse transform.toBytes = .ok transform := by
  have long : ¬ transform.toBytes.length < 4 := by
    rw [toBytes, List.length_append]
    exact Nat.not_lt.mpr (Nat.le_add_right 4 _)
  have rest : transform.toBytes.drop 4 = transform.attributes.flatMap Attribute.toBytes := rfl
  rw [parse, if_neg long, rest, parseAttributes_toBytes fits.1, ok_bind]
  rfl

theorem mapM_readBack {α : Type} {parse : Bytes → Result α} {toBytes : α → Bytes} {items : List α}
    (each : ∀ item ∈ items, parse (toBytes item) = .ok item) (kind : UInt8) :
    ((items.map fun item => (kind, toBytes item)).map readBack).mapM (fun part => parse part.data) = .ok items := by
  rw [mapM_eq_ok, List.map_map, List.forall₂_map_left_iff, List.forall₂_same]
  exact each

theorem fits_of_kind {α : Type} {toBytes : α → Bytes} {items : List α} {kind : UInt8} (real : kind ≠ payload.none)
    (small : ∀ item ∈ items, 4 + (toBytes item).length < 65536) :
    ∀ item ∈ items.map (fun item => (kind, toBytes item)), Fits item := by
  intro _ member
  obtain ⟨item, isItem, rfl⟩ := List.mem_map.mp member
  exact ⟨real, small item isItem⟩

theorem encodePayloads_kind {α : Type} {toBytes : α → Bytes} {items : List α} (nonempty : items ≠ []) (kind : UInt8) :
    (encodePayloads (items.map fun item => (kind, toBytes item))).1 = kind := by
  cases items with
  | nil => exact absurd rfl nonempty
  | cons item items => rfl

def Proposal.Fits (proposal : Proposal) : Prop :=
  proposal.transforms ≠ [] ∧ (∀ transform ∈ proposal.transforms, transform.Fits) ∧ proposal.spi.length < 256 ∧
    4 + proposal.toBytes.length < 65536

instance (proposal : Proposal) : Decidable proposal.Fits := inferInstanceAs (Decidable (_ ∧ _ ∧ _ ∧ _))

theorem Proposal.parse_toBytes {proposal : Proposal} (fits : proposal.Fits) : parse proposal.toBytes = .ok proposal := by
  obtain ⟨nonempty, each, small, -⟩ := fits
  let chain := proposal.transforms.map fun t => (payload.transform, t.toBytes)
  let head := [proposal.num, proposal.protocolId, UInt8.ofNat proposal.spi.length,
    UInt8.ofNat proposal.transforms.length]
  have form : proposal.toBytes = head ++ proposal.spi ++ (encodePayloads chain).2 := rfl
  have headSize : head.length = 4 := rfl
  have total : proposal.toBytes.length = 4 + proposal.spi.length + (encodePayloads chain).2.length := by
    rw [form, List.length_append, List.length_append, headSize]
  have long : ¬ proposal.toBytes.length < 4 := by omega
  have spiSize : (byteAt proposal.toBytes 2).toNat = proposal.spi.length := UInt8.toNat_ofNat_of_lt small
  have room : ¬ 4 + proposal.spi.length > proposal.toBytes.length := by omega
  have rest : proposal.toBytes.drop (4 + proposal.spi.length) = (encodePayloads chain).2 := by
    rw [form]
    apply List.drop_left'
    rw [List.length_append, headSize]
  have spi : slice proposal.toBytes 4 (4 + proposal.spi.length) = proposal.spi := by
    rw [form, List.append_assoc]
    exact slice_append_mid headSize.symm rfl
  have read : parsePayloads payload.transform (encodePayloads chain).2 = .ok (chain.map readBack) := by
    have fitting : ∀ item ∈ chain, Ikev1.Fits item := fits_of_kind (by decide) fun t member => (each t member).2
    have whole := parsePayloads_encodePayloads fitting []
    rw [List.append_nil, encodePayloads_kind nonempty] at whole
    exact whole
  rw [parse, if_neg long]
  dsimp only
  rw [spiSize, if_neg room, rest, read, ok_bind, mapM_readBack fun t member => Transform.parse_toBytes (each t member),
    ok_bind, spi]
  rfl

def SaPayload.Fits (sa : SaPayload) : Prop :=
  sa.proposals ≠ [] ∧ ∀ proposal ∈ sa.proposals, proposal.Fits

instance (sa : SaPayload) : Decidable sa.Fits := inferInstanceAs (Decidable (_ ∧ _))

theorem SaPayload.parse_toBytes {sa : SaPayload} (fits : sa.Fits) : parse sa.toBytes = .ok sa := by
  obtain ⟨nonempty, each⟩ := fits
  let chain := sa.proposals.map fun p => (payload.proposal, p.toBytes)
  have form : sa.toBytes = u32Bytes sa.doi ++ u32Bytes sa.situation ++ (encodePayloads chain).2 := rfl
  have long : ¬ sa.toBytes.length < 8 := by
    rw [form, List.length_append]
    exact Nat.not_lt.mpr (Nat.le_add_right 8 _)
  have rest : sa.toBytes.drop 8 = (encodePayloads chain).2 := rfl
  have doi : u32At sa.toBytes 0 = sa.doi := be32_split _
  have situation : u32At sa.toBytes 4 = sa.situation := be32_split _
  have read : parsePayloads payload.proposal (encodePayloads chain).2 = .ok (chain.map readBack) := by
    have fitting : ∀ item ∈ chain, Ikev1.Fits item := fits_of_kind (by decide) fun p member => (each p member).2.2.2
    have whole := parsePayloads_encodePayloads fitting []
    rw [List.append_nil, encodePayloads_kind nonempty] at whole
    exact whole
  rw [parse, if_neg long, rest, read, ok_bind, mapM_readBack fun p member => Proposal.parse_toBytes (each p member),
    ok_bind, doi, situation]

end Ryke.Ikev1
