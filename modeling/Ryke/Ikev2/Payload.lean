import Ryke.Lib.Codec
import Ryke.Primitives

/-! Typed IKEv2 payload bodies: the bytes after the generic payload header. Every
body that fits its length fields is read back as it was written. -/

namespace Ryke.Ikev2
open Lib

namespace transform_type
def encr : UInt8 := 1
def prf : UInt8 := 2
def integ : UInt8 := 3
def dh : UInt8 := 4
def esn : UInt8 := 5
end transform_type

namespace transform_id
def aesCbc : UInt16 := 12
def aesGcm16 : UInt16 := 20
def prfHmacSha2256 : UInt16 := 5
def authHmacSha2256128 : UInt16 := 12
def modp1024 : UInt16 := 2
def modp2048 : UInt16 := 14
def x25519 : UInt16 := 31
def esnNone : UInt16 := 0
end transform_id

namespace protocol_id
def ike : UInt8 := 1
def esp : UInt8 := 3
end protocol_id

/-! ## Security associations -/

structure Transform where
  transformType : UInt8
  transformId : UInt16
  keyLength : Option UInt16
  deriving DecidableEq, Repr

namespace Transform

def attrKeyLength : UInt16 := 14
def attrFormatTv : UInt16 := 0x8000

/-- The loop of `find_key_length`: a later Key Length overrides an earlier one. -/
def findKeyLengthLoop : Nat → Bytes → Option UInt16 → Result (Option UInt16)
  | 0, _, keyLength => .ok keyLength
  | fuel + 1, attrs, keyLength =>
      if attrs.length < 4 then .ok keyLength
      else
        let header := u16At attrs 0
        if header &&& attrFormatTv != 0 then
          let keyLength :=
            if header &&& 0x7fff = attrKeyLength then some (u16At attrs 2) else keyLength
          findKeyLengthLoop fuel (attrs.drop 4) keyLength
        else
          let len := (u16At attrs 2).toNat
          if 4 + len > attrs.length then .error (.badLength (4 + len) attrs.length)
          else findKeyLengthLoop fuel (attrs.drop (4 + len)) keyLength

def findKeyLength (attrs : Bytes) : Result (Option UInt16) :=
  findKeyLengthLoop (attrs.length + 1) attrs none

def parse (buf : Bytes) : Result (Transform × Nat) :=
  if buf.length < 8 then .error (.truncated 8 buf.length)
  else
    let length := (u16At buf 2).toNat
    if length < 8 then .error (.shortPayload (u16At buf 2))
    else if length > buf.length then .error (.badLength length buf.length)
    else do
      let keyLength ← findKeyLength (slice buf 8 length)
      .ok (⟨byteAt buf 4, u16At buf 6, keyLength⟩, length)

def attrs (transform : Transform) : Bytes :=
  match transform.keyLength with
  | some keyLength => u16Bytes (attrFormatTv ||| attrKeyLength) ++ u16Bytes keyLength
  | none => []

def write (transform : Transform) (isLast : Bool) : Bytes :=
  [if isLast then 0 else 3, 0] ++ u16Bytes (UInt16.ofNat (8 + transform.attrs.length)) ++
    [transform.transformType, 0] ++ u16Bytes transform.transformId ++ transform.attrs

theorem attrs_length_le (transform : Transform) : transform.attrs.length ≤ 4 := by
  unfold attrs
  split <;> simp

theorem write_length (transform : Transform) (isLast : Bool) :
    (transform.write isLast).length = 8 + transform.attrs.length := by
  simp [write]
  omega

theorem findKeyLength_attrs (transform : Transform) :
    findKeyLength transform.attrs = .ok transform.keyLength := by
  cases known : transform.keyLength with
  | none => rw [attrs, known]; rfl
  | some keyLength =>
    have header : u16At (u16Bytes (attrFormatTv ||| attrKeyLength) ++ u16Bytes keyLength) 0 =
        attrFormatTv ||| attrKeyLength := by
      simp only [u16Bytes, u16At, List.cons_append, List.nil_append, byteAt_cons_zero, byteAt_cons_succ,
        be16_split]
    have value : u16At (u16Bytes (attrFormatTv ||| attrKeyLength) ++ u16Bytes keyLength) 2 = keyLength := by
      simp only [u16Bytes, u16At, List.cons_append, List.nil_append, byteAt_cons_zero, byteAt_cons_succ,
        be16_split]
    have tv : ((attrFormatTv ||| attrKeyLength) &&& attrFormatTv != 0) = true := by decide
    have kind : (attrFormatTv ||| attrKeyLength) &&& 0x7fff = attrKeyLength := by decide
    have long : ¬ (u16Bytes (attrFormatTv ||| attrKeyLength) ++ u16Bytes keyLength).length < 4 := by simp
    rw [attrs, known]
    dsimp only
    rw [findKeyLength, findKeyLengthLoop, if_neg long, header, if_pos tv, if_pos kind, value]
    rfl

theorem encodes_write (transform : Transform) (isLast : Bool) :
    Encodes parse transform (transform.write isLast) := by
  have small := transform.attrs_length_le
  have declared : (UInt16.ofNat (8 + transform.attrs.length)).toNat = 8 + transform.attrs.length := by
    simp
    omega
  refine ⟨by simp [write], fun rest => ?_⟩
  have total : (transform.write isLast ++ rest).length = 8 + transform.attrs.length + rest.length := by
    rw [List.length_append, write_length]
  have length : u16At (transform.write isLast ++ rest) 2 = UInt16.ofNat (8 + transform.attrs.length) := by
    simp only [write, u16Bytes, u16At, List.cons_append, List.nil_append, byteAt_cons_zero,
      byteAt_cons_succ, be16_split]
  have kind : byteAt (transform.write isLast ++ rest) 4 = transform.transformType := rfl
  have ident : u16At (transform.write isLast ++ rest) 6 = transform.transformId := by
    simp only [write, u16Bytes, u16At, List.cons_append, List.nil_append, byteAt_cons_zero,
      byteAt_cons_succ, be16_split]
  have attributes : slice (transform.write isLast ++ rest) 8 (8 + transform.attrs.length) =
      transform.attrs := by
    rw [write, List.append_assoc]
    exact slice_append_mid rfl rfl
  rw [parse, total, length, declared, if_neg (by omega), if_neg (by omega), if_neg (by omega), kind,
    ident, attributes, findKeyLength_attrs, write_length]
  rfl

end Transform

def writeTransforms : List Transform → List Bytes
  | [] => []
  | transform :: rest => transform.write rest.isEmpty :: writeTransforms rest

theorem writeTransforms_encodes (transforms : List Transform) :
    List.Forall₂ (Encodes Transform.parse) transforms (writeTransforms transforms) := by
  induction transforms with
  | nil => exact .nil
  | cons transform rest ih => exact .cons (transform.encodes_write _) ih

theorem writeTransforms_length_le (transforms : List Transform) :
    (writeTransforms transforms).flatten.length ≤ 12 * transforms.length := by
  induction transforms with
  | nil => exact Nat.zero_le _
  | cons transform rest ih =>
    have small := transform.attrs_length_le
    simp only [writeTransforms, List.flatten_cons, List.length_append, List.length_cons,
      Transform.write_length]
    omega

structure Proposal where
  num : UInt8
  protocolId : UInt8
  spi : Bytes
  transforms : List Transform
  deriving DecidableEq, Repr

namespace Proposal

def parse (buf : Bytes) : Result (Proposal × Nat) :=
  if buf.length < 8 then .error (.truncated 8 buf.length)
  else
    let length := (u16At buf 2).toNat
    if length < 8 then .error (.shortPayload (u16At buf 2))
    else if length > buf.length then .error (.badLength length buf.length)
    else
      let spiSize := (byteAt buf 6).toNat
      let transformCount := (byteAt buf 7).toNat
      if 8 + spiSize > length then .error (.badLength (8 + spiSize) length)
      else do
        let transforms ← parseCount Transform.parse transformCount (slice buf (8 + spiSize) length)
        .ok (⟨byteAt buf 4, byteAt buf 5, slice buf 8 (8 + spiSize), transforms⟩, length)

def write (proposal : Proposal) (isLast : Bool) : Bytes :=
  let body := (writeTransforms proposal.transforms).flatten
  let length := 8 + proposal.spi.length + body.length
  [if isLast then 0 else 2, 0] ++ u16Bytes (UInt16.ofNat length) ++
    [proposal.num, proposal.protocolId, UInt8.ofNat proposal.spi.length,
      UInt8.ofNat proposal.transforms.length] ++
    proposal.spi ++ body

def Fits (proposal : Proposal) : Prop :=
  proposal.spi.length < 256 ∧ proposal.transforms.length < 256

instance (proposal : Proposal) : Decidable proposal.Fits := inferInstanceAs (Decidable (_ ∧ _))

theorem encodes_write {proposal : Proposal} (fits : proposal.Fits) (isLast : Bool) :
    Encodes parse proposal (proposal.write isLast) := by
  obtain ⟨spiSmall, countSmall⟩ := fits
  have bodySmall := writeTransforms_length_le proposal.transforms
  refine ⟨by simp [write], fun rest => ?_⟩
  have form : proposal.write isLast ++ rest =
      [if isLast then 0 else 2, 0] ++ u16Bytes (UInt16.ofNat (8 + proposal.spi.length +
        (writeTransforms proposal.transforms).flatten.length)) ++
      [proposal.num, proposal.protocolId, UInt8.ofNat proposal.spi.length,
        UInt8.ofNat proposal.transforms.length] ++
      (proposal.spi ++ ((writeTransforms proposal.transforms).flatten ++ rest)) := by
    simp only [write, List.append_assoc]
  have own : (proposal.write isLast).length =
      8 + proposal.spi.length + (writeTransforms proposal.transforms).flatten.length := by
    simp [write]
    omega
  rw [own, form]
  generalize bodyEq : (writeTransforms proposal.transforms).flatten = body at bodySmall own ⊢
  have declared : (UInt16.ofNat (8 + proposal.spi.length + body.length)).toNat =
      8 + proposal.spi.length + body.length := by
    simp
    omega
  have spiSize : (UInt8.ofNat proposal.spi.length).toNat = proposal.spi.length := by simp; omega
  have count : (UInt8.ofNat proposal.transforms.length).toNat = proposal.transforms.length := by
    simp
    omega
  generalize frontEq : [if isLast then 0 else 2, 0] ++
      u16Bytes (UInt16.ofNat (8 + proposal.spi.length + body.length)) ++
      [proposal.num, proposal.protocolId, UInt8.ofNat proposal.spi.length,
        UInt8.ofNat proposal.transforms.length] = front
  have eight : front.length = 8 := by rw [← frontEq]; rfl
  have field : ∀ i < 8, byteAt (front ++ (proposal.spi ++ (body ++ rest))) i = byteAt front i :=
    fun i inside => byteAt_append_left (by omega)
  have length : u16At (front ++ (proposal.spi ++ (body ++ rest))) 2 =
      UInt16.ofNat (8 + proposal.spi.length + body.length) := by
    rw [u16At, field 2 (by omega), field 3 (by omega), ← frontEq]
    simp only [u16Bytes, List.cons_append, List.nil_append, byteAt_cons_zero, byteAt_cons_succ, be16_split]
  have spi : slice (front ++ (proposal.spi ++ (body ++ rest))) 8 (8 + proposal.spi.length) = proposal.spi :=
    slice_append_mid eight.symm (by rw [eight])
  have transforms : slice (front ++ (proposal.spi ++ (body ++ rest))) (8 + proposal.spi.length)
      (8 + proposal.spi.length + body.length) = body := by
    rw [← List.append_assoc]
    exact slice_append_mid (by simp [eight]) (by simp [eight])
  have total : (front ++ (proposal.spi ++ (body ++ rest))).length =
      8 + proposal.spi.length + body.length + rest.length := by
    simp [eight]
    omega
  have read : parseCount Transform.parse proposal.transforms.length body = .ok proposal.transforms := by
    rw [← bodyEq]
    simpa using parseCount_encodes (writeTransforms_encodes proposal.transforms) []
  rw [parse, total, length, declared, if_neg (by omega), if_neg (by omega), if_neg (by omega),
    field 4 (by omega), field 5 (by omega), field 6 (by omega), field 7 (by omega)]
  rw [← frontEq] at spi transforms ⊢
  simp only [u16Bytes, List.cons_append, List.nil_append, byteAt_cons_zero, byteAt_cons_succ, spiSize,
    count] at spi transforms ⊢
  rw [if_neg (by omega), transforms, spi, read]
  rfl

end Proposal

def writeProposals : List Proposal → List Bytes
  | [] => []
  | proposal :: rest => proposal.write rest.isEmpty :: writeProposals rest

theorem writeProposals_encodes {proposals : List Proposal} (fits : ∀ proposal ∈ proposals, proposal.Fits) :
    List.Forall₂ (Encodes Proposal.parse) proposals (writeProposals proposals) := by
  induction proposals with
  | nil => exact .nil
  | cons proposal rest ih =>
    exact .cons (Proposal.encodes_write (fits _ List.mem_cons_self) _)
      (ih fun other member => fits other (List.mem_cons_of_mem _ member))

structure SecurityAssociation where
  proposals : List Proposal
  deriving DecidableEq, Repr

namespace SecurityAssociation

def parse (body : Bytes) : Result SecurityAssociation := do
  let proposals ← parseMany Proposal.parse body
  .ok ⟨proposals⟩

def toBytes (sa : SecurityAssociation) : Bytes := (writeProposals sa.proposals).flatten

theorem parse_toBytes {sa : SecurityAssociation} (fits : ∀ proposal ∈ sa.proposals, proposal.Fits) :
    parse sa.toBytes = .ok sa := by
  rw [parse, toBytes, parseMany_encodes (writeProposals_encodes fits)]
  rfl

end SecurityAssociation

/-! ## Key exchange, identification and authentication -/

structure KeyExchange where
  dhGroup : UInt16
  data : Bytes
  deriving DecidableEq, Repr

namespace KeyExchange

def parse (body : Bytes) : Result KeyExchange :=
  if body.length < 4 then .error (.truncated 4 body.length)
  else .ok ⟨u16At body 0, body.drop 4⟩

def toBytes (ke : KeyExchange) : Bytes := u16Bytes ke.dhGroup ++ u16Bytes 0 ++ ke.data

theorem parse_toBytes (ke : KeyExchange) : parse ke.toBytes = .ok ke := by
  have long : ¬ ke.toBytes.length < 4 := by simp [toBytes]; omega
  have group : u16At ke.toBytes 0 = ke.dhGroup := by
    simp only [toBytes, u16Bytes, u16At, List.cons_append, byteAt_cons_zero, byteAt_cons_succ, be16_split]
  rw [parse, if_neg long, group]
  rfl

end KeyExchange

structure Nonce where
  data : Bytes
  deriving DecidableEq, Repr

namespace Nonce

def parse (body : Bytes) : Nonce := ⟨body⟩

def toBytes (nonce : Nonce) : Bytes := nonce.data

end Nonce

/-- The one layout that Identification and Authentication share: a byte, three
reserved zero bytes, and data. -/
def parseTagged (body : Bytes) : Result (UInt8 × Bytes) :=
  if body.length < 4 then .error (.truncated 4 body.length)
  else .ok (byteAt body 0, body.drop 4)

structure Identification where
  idType : UInt8
  data : Bytes
  deriving DecidableEq, Repr

namespace Identification

def parse (body : Bytes) : Result Identification := do
  let (idType, data) ← parseTagged body
  .ok ⟨idType, data⟩

def toBytes (id : Identification) : Bytes := [id.idType, 0, 0, 0] ++ id.data

@[simp] theorem parse_toBytes (id : Identification) : parse id.toBytes = .ok id := by
  have long : ¬ id.toBytes.length < 4 := by simp [toBytes]
  rw [parse, parseTagged, if_neg long]
  rfl

end Identification

namespace auth_method
def sharedKey : UInt8 := 2
def ecdsaSha256P256 : UInt8 := 9
def digitalSignature : UInt8 := 14
end auth_method

structure Authentication where
  method : UInt8
  data : Bytes
  deriving DecidableEq, Repr

namespace Authentication

def parse (body : Bytes) : Result Authentication := do
  let (method, data) ← parseTagged body
  .ok ⟨method, data⟩

def toBytes (auth : Authentication) : Bytes := [auth.method, 0, 0, 0] ++ auth.data

@[simp] theorem parse_toBytes (auth : Authentication) : parse auth.toBytes = .ok auth := by
  have long : ¬ auth.toBytes.length < 4 := by simp [toBytes]
  rw [parse, parseTagged, if_neg long]
  rfl

end Authentication

/-! ## Traffic selectors and configuration -/

structure TrafficSelector where
  tsType : UInt8
  ipProtocol : UInt8
  startPort : UInt16
  endPort : UInt16
  startAddr : Bytes
  endAddr : Bytes
  deriving DecidableEq, Repr

namespace TrafficSelector

/-- Any protocol, all ports, 0.0.0.0–255.255.255.255. -/
def ipv4Any : TrafficSelector := ⟨7, 0, 0, 65535, [0, 0, 0, 0], [255, 255, 255, 255]⟩

def ipv4Host (addr : Ipv4Addr) : TrafficSelector := ⟨7, 0, 0, 65535, addr.octets, addr.octets⟩

def parse (buf : Bytes) : Result (TrafficSelector × Nat) :=
  if buf.length < 8 then .error (.truncated 8 buf.length)
  else
    let length := (u16At buf 2).toNat
    if length < 8 ∨ length > buf.length ∨ (length - 8) % 2 ≠ 0 then
      .error (.badLength length buf.length)
    else
      let addrLen := (length - 8) / 2
      .ok (⟨byteAt buf 0, byteAt buf 1, u16At buf 4, u16At buf 6, slice buf 8 (8 + addrLen),
        slice buf (8 + addrLen) (8 + 2 * addrLen)⟩, length)

def write (ts : TrafficSelector) : Bytes :=
  [ts.tsType, ts.ipProtocol] ++
    u16Bytes (UInt16.ofNat (8 + ts.startAddr.length + ts.endAddr.length)) ++
    u16Bytes ts.startPort ++ u16Bytes ts.endPort ++ ts.startAddr ++ ts.endAddr

end TrafficSelector

structure TrafficSelectors where
  selectors : List TrafficSelector
  deriving DecidableEq, Repr

namespace TrafficSelectors

def parse (body : Bytes) : Result TrafficSelectors :=
  if body.length < 4 then .error (.truncated 4 body.length)
  else do
    let selectors ← parseCount TrafficSelector.parse (byteAt body 0).toNat (body.drop 4)
    .ok ⟨selectors⟩

def toBytes (ts : TrafficSelectors) : Bytes :=
  [UInt8.ofNat ts.selectors.length, 0, 0, 0] ++ (ts.selectors.map TrafficSelector.write).flatten

end TrafficSelectors

namespace cfg_type
def request : UInt8 := 1
def reply : UInt8 := 2
end cfg_type

namespace config_attr
def internalIp4Address : UInt16 := 1
def internalIp4Netmask : UInt16 := 2
def internalIp4Dns : UInt16 := 3
end config_attr

structure ConfigAttr where
  attrType : UInt16
  value : Bytes
  deriving DecidableEq, Repr

namespace ConfigAttr

def ipv4 (attrType : UInt16) (addr : Ipv4Addr) : ConfigAttr := ⟨attrType, addr.octets⟩

def write (attr : ConfigAttr) : Bytes :=
  u16Bytes (attr.attrType &&& 0x7fff) ++ u16Bytes (UInt16.ofNat attr.value.length) ++ attr.value

def parse (buf : Bytes) : Result (ConfigAttr × Nat) :=
  if buf.length < 4 then .error (.truncated 4 buf.length)
  else
    let len := (u16At buf 2).toNat
    if 4 + len > buf.length then .error (.badLength (4 + len) buf.length)
    else .ok (⟨u16At buf 0 &&& 0x7fff, slice buf 4 (4 + len)⟩, 4 + len)

def Fits (attr : ConfigAttr) : Prop := attr.attrType &&& 0x7fff = attr.attrType ∧ attr.value.length < 65536

instance (attr : ConfigAttr) : Decidable attr.Fits := inferInstanceAs (Decidable (_ ∧ _))

theorem fits_ipv4 {attrType : UInt16} (small : attrType &&& 0x7fff = attrType) (addr : Ipv4Addr) :
    (ipv4 attrType addr).Fits :=
  ⟨small, Nat.lt_of_le_of_lt (Nat.le_refl 4) (by decide)⟩

theorem encodes_write {attr : ConfigAttr} (fits : attr.Fits) : Encodes parse attr attr.write := by
  refine ⟨List.cons_ne_nil _ _, ?_⟩
  intro rest
  have total : (attr.write ++ rest).length = 4 + attr.value.length + rest.length := by
    simp [write]
    omega
  have kind : u16At (attr.write ++ rest) 0 &&& 0x7fff = attr.attrType := by
    simp only [write, u16Bytes, u16At, List.cons_append, List.nil_append, byteAt_cons_zero, byteAt_cons_succ,
      be16_split, fits.1]
  have length : (u16At (attr.write ++ rest) 2).toNat = attr.value.length := by
    simp only [write, u16Bytes, u16At, List.cons_append, List.nil_append, byteAt_cons_zero, byteAt_cons_succ,
      be16_split]
    exact Nat.mod_eq_of_lt fits.2
  have value : slice (attr.write ++ rest) 4 (4 + attr.value.length) = attr.value := by
    rw [write, List.append_assoc]
    exact slice_append_mid rfl rfl
  have size : attr.write.length = 4 + attr.value.length := by
    simp [write]
    omega
  rw [parse, total, if_neg (by omega)]
  dsimp only
  rw [length, if_neg (by omega), kind, value, size]

end ConfigAttr

structure Configuration where
  cfgType : UInt8
  attrs : List ConfigAttr
  deriving DecidableEq, Repr

namespace Configuration

def replyIpv4 (addr : Ipv4Addr) (netmask dns : Option Ipv4Addr) : Configuration :=
  ⟨cfg_type.reply, [ConfigAttr.ipv4 config_attr.internalIp4Address addr] ++
    (netmask.map (ConfigAttr.ipv4 config_attr.internalIp4Netmask)).toList ++
    (dns.map (ConfigAttr.ipv4 config_attr.internalIp4Dns)).toList⟩

def toBytes (cp : Configuration) : Bytes :=
  [cp.cfgType, 0, 0, 0] ++ (cp.attrs.map ConfigAttr.write).flatten

def parse (body : Bytes) : Result Configuration :=
  if body.length < 4 then .error (.truncated 4 body.length)
  else do
    let attrs ← parseMany ConfigAttr.parse (body.drop 4)
    .ok ⟨byteAt body 0, attrs⟩

theorem parse_toBytes {cp : Configuration} (fits : ∀ attr ∈ cp.attrs, attr.Fits) : parse cp.toBytes = .ok cp := by
  have each : List.Forall₂ (Encodes ConfigAttr.parse) cp.attrs (cp.attrs.map ConfigAttr.write) := by
    rw [List.forall₂_map_right_iff, List.forall₂_same]
    exact fun attr member => attr.encodes_write (fits attr member)
  have long : ¬ cp.toBytes.length < 4 := by simp [toBytes]
  have body : cp.toBytes.drop 4 = (cp.attrs.map ConfigAttr.write).flatten := rfl
  rw [parse, if_neg long, body, parseMany_encodes each]
  rfl

def assignedIpv4 (cp : Configuration) : Option Ipv4Addr := do
  let attr ← cp.attrs.find? fun a => a.attrType == config_attr.internalIp4Address && a.value.length == 4
  some ⟨byteAt attr.value 0, byteAt attr.value 1, byteAt attr.value 2, byteAt attr.value 3⟩

@[simp] theorem assignedIpv4_replyIpv4 (addr : Ipv4Addr) (netmask dns : Option Ipv4Addr) :
    (replyIpv4 addr netmask dns).assignedIpv4 = some addr := rfl

theorem parse_replyIpv4 (addr : Ipv4Addr) (netmask dns : Option Ipv4Addr) :
    parse (replyIpv4 addr netmask dns).toBytes = .ok (replyIpv4 addr netmask dns) := by
  apply parse_toBytes
  intro attr member
  simp only [replyIpv4, List.mem_append, List.mem_singleton, Option.mem_toList,
    Option.map_eq_some_iff] at member
  rcases member with (rfl | ⟨mask, -, rfl⟩) | ⟨server, -, rfl⟩
  · exact ConfigAttr.fits_ipv4 (by decide) addr
  · exact ConfigAttr.fits_ipv4 (by decide) mask
  · exact ConfigAttr.fits_ipv4 (by decide) server

end Configuration

/-! ## Notifications and certificates -/

namespace notify_type
def invalidKePayload : UInt16 := 17
def natDetectionSourceIp : UInt16 := 16388
def natDetectionDestinationIp : UInt16 := 16389
def cookie : UInt16 := 16390
def rekeySa : UInt16 := 16393
def mobikeSupported : UInt16 := 16396
def signatureHashAlgorithms : UInt16 := 16431
end notify_type

structure Notify where
  protocolId : UInt8
  spi : Bytes
  notifyType : UInt16
  data : Bytes
  deriving DecidableEq, Repr

namespace Notify

def status (notifyType : UInt16) (data : Bytes) : Notify := ⟨0, [], notifyType, data⟩

def parse (body : Bytes) : Result Notify :=
  if body.length < 4 then .error (.truncated 4 body.length)
  else
    let spiSize := (byteAt body 1).toNat
    if 4 + spiSize > body.length then .error (.badLength (4 + spiSize) body.length)
    else .ok ⟨byteAt body 0, slice body 4 (4 + spiSize), u16At body 2, body.drop (4 + spiSize)⟩

def toBytes (notify : Notify) : Bytes :=
  [notify.protocolId, UInt8.ofNat notify.spi.length] ++ u16Bytes notify.notifyType ++ notify.spi ++
    notify.data

theorem parse_toBytes {notify : Notify} (small : notify.spi.length < 256) :
    parse notify.toBytes = .ok notify := by
  have spiSize : (byteAt notify.toBytes 1).toNat = notify.spi.length := by
    simp only [toBytes, List.cons_append, byteAt_cons_zero, byteAt_cons_succ]
    simp
    omega
  have total : notify.toBytes.length = 4 + notify.spi.length + notify.data.length := by
    simp [toBytes]
    omega
  have kind : u16At notify.toBytes 2 = notify.notifyType := by
    simp only [toBytes, u16Bytes, u16At, List.cons_append, List.nil_append, byteAt_cons_zero,
      byteAt_cons_succ, be16_split]
  have spi : slice notify.toBytes 4 (4 + notify.spi.length) = notify.spi := by
    rw [toBytes, List.append_assoc]
    exact slice_append_mid rfl rfl
  have data : notify.toBytes.drop (4 + notify.spi.length) = notify.data := by
    rw [toBytes, List.drop_left' (by simp; omega)]
  rw [parse, total, if_neg (by omega)]
  dsimp only
  rw [spiSize, if_neg (by omega), spi, kind, data]
  rfl

end Notify

/-- SPIs to delete; none with the protocol IKE stands for the IKE SA itself. -/
structure Delete where
  protocolId : UInt8
  spis : List UInt32
  deriving DecidableEq, Repr

namespace Delete

def parse (body : Bytes) : Result Delete :=
  if body.length < 4 then .error (.truncated 4 body.length)
  else
    let spiSize := (byteAt body 1).toNat
    let num := (u16At body 2).toNat
    if spiSize = 0 then .ok ⟨byteAt body 0, []⟩
    else if spiSize = 4 then
      if 4 + num * 4 > body.length then .error (.badLength (4 + num * 4) body.length)
      else .ok ⟨byteAt body 0, (List.range num).map fun i => u32At body (4 + i * 4)⟩
    else .error (.crypto "unsupported Delete SPI size")

/-- The size byte says what the protocol allows, not whether there are any SPIs. -/
def toBytes (delete : Delete) : Bytes :=
  [delete.protocolId, if delete.protocolId = protocol_id.ike then 0 else 4] ++
    u16Bytes (UInt16.ofNat delete.spis.length) ++ (delete.spis.map u32Bytes).flatten

end Delete

structure Certificate where
  encoding : UInt8
  data : Bytes
  deriving DecidableEq, Repr

namespace Certificate

def x509 (der : Bytes) : Certificate := ⟨4, der⟩

def parse (body : Bytes) : Result Certificate :=
  match body with
  | [] => .error (.truncated 1 0)
  | encoding :: data => .ok ⟨encoding, data⟩

def toBytes (cert : Certificate) : Bytes := cert.encoding :: cert.data

end Certificate

structure CertRequest where
  encoding : UInt8
  caHashes : List Bytes
  deriving DecidableEq, Repr

namespace CertRequest

def x509 (caHashes : List Bytes) : CertRequest := ⟨4, caHashes⟩

def parse (body : Bytes) : Result CertRequest :=
  match body with
  | [] => .error (.truncated 1 0)
  | encoding :: rest =>
      if rest.length % 20 ≠ 0 then .error (.badLength rest.length rest.length)
      else .ok ⟨encoding, chunksExact 20 rest⟩

def toBytes (request : CertRequest) : Bytes := request.encoding :: request.caHashes.flatten

end CertRequest

end Ryke.Ikev2
