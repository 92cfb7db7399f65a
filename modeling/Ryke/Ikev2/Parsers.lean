import Ryke.Lib.Checked
import Ryke.Ikev2.Message
import Ryke.Ikev2.Payload
import Ryke.Ikev2.Eap

/-! The IKEv2 readers with the indices and ranges they take of their slices, offset by
offset. No input makes one of them panic or loop: each returns what the total readers
of the other modules say, a value or an error. -/

namespace Ryke.Ikev2.Parsers
open Lib Checked

/-! ## The header and the payload chain -/

def IkeHeader.parse (input : Bytes) : Checked IkeError IkeHeader :=
  if input.length < IkeHeader.len then throw (.truncated IkeHeader.len input.length)
  else do
    let version ← index input 17
    return {
      initiatorSpi := ← u64be input 0
      responderSpi := ← u64be input 8
      nextPayload := PayloadType.fromU8 (← index input 16)
      majorVersion := version >>> 4
      minorVersion := version &&& 0x0f
      exchangeType := ExchangeType.fromU8 (← index input 18)
      flags := Flags.fromU8 (← index input 19)
      messageId := ← u32be input 20
      length := ← u32be input 24 }

/-- `Iterator::next`, which panics or not; the errors of the chain are items. -/
def PayloadIter.next (iter : PayloadIter) : Option (Option (Result RawPayload × PayloadIter)) :=
  if iter.done = true ∨ iter.nextType = .noNext then some none
  else if iter.rest.length < 4 then
    some (some (.error (.truncated 4 iter.rest.length), { iter with done := true }))
  else do
    let nextPayload := PayloadType.fromU8 (← index iter.rest 0)
    let critical := (← index iter.rest 1) &&& 0x80 != 0
    let length ← u16be iter.rest 2
    if length.toNat < 4 then
      some (some (.error (.shortPayload length), { iter with done := true }))
    else if length.toNat > iter.rest.length then
      some (some (.error (.badLength length.toNat iter.rest.length), { iter with done := true }))
    else do
      let data ← range iter.rest 4 length.toNat
      let rest ← rangeFrom iter.rest length.toNat
      some (some (.ok ⟨iter.nextType, critical, data⟩, { iter with rest, nextType := nextPayload }))

/-- Call after call until the iterator stops; out of calls, it has not stopped. -/
def PayloadIter.collect : Nat → PayloadIter → Option (List (Result RawPayload))
  | 0, _ => none
  | calls + 1, iter => do
      match ← PayloadIter.next iter with
      | none => some []
      | some (item, iter) => do
          let rest ← PayloadIter.collect calls iter
          some (item :: rest)

def payloads (first : PayloadType) (body : Bytes) : Option (List (Result RawPayload)) :=
  PayloadIter.collect (body.length + 2) ⟨first, body, false⟩

/-! ## Typed bodies -/

def Transform.findKeyLengthLoop : Nat → Bytes → Option UInt16 → Checked IkeError (Option UInt16)
  | 0, _, _ => ExceptT.mk none
  | steps + 1, attrs, keyLength =>
      if attrs.length < 4 then return keyLength
      else do
        let header ← u16be attrs 0
        if header &&& Transform.attrFormatTv != 0 then
          if header &&& 0x7fff = Transform.attrKeyLength then
            let value ← u16be attrs 2
            let rest ← rangeFrom attrs 4
            findKeyLengthLoop steps rest (some value)
          else
            let rest ← rangeFrom attrs 4
            findKeyLengthLoop steps rest keyLength
        else
          let len ← u16be attrs 2
          if 4 + len.toNat > attrs.length then throw (.badLength (4 + len.toNat) attrs.length)
          else
            let rest ← rangeFrom attrs (4 + len.toNat)
            findKeyLengthLoop steps rest keyLength

def Transform.findKeyLength (attrs : Bytes) : Checked IkeError (Option UInt16) :=
  Transform.findKeyLengthLoop (attrs.length + 1) attrs none

def Transform.parse (buf : Bytes) : Checked IkeError (Transform × Nat) :=
  if buf.length < 8 then throw (.truncated 8 buf.length)
  else do
    let length ← u16be buf 2
    if length.toNat < 8 then throw (.shortPayload length)
    else if length.toNat > buf.length then throw (.badLength length.toNat buf.length)
    else
      let transformType ← index buf 4
      let transformId ← u16be buf 6
      let attrs ← range buf 8 length.toNat
      let keyLength ← Transform.findKeyLength attrs
      return (⟨transformType, transformId, keyLength⟩, length.toNat)

def Proposal.parse (buf : Bytes) : Checked IkeError (Proposal × Nat) :=
  if buf.length < 8 then throw (.truncated 8 buf.length)
  else do
    let length ← u16be buf 2
    if length.toNat < 8 then throw (.shortPayload length)
    else if length.toNat > buf.length then throw (.badLength length.toNat buf.length)
    else
      let num ← index buf 4
      let protocolId ← index buf 5
      let spiSize ← index buf 6
      let transformCount ← index buf 7
      if 8 + spiSize.toNat > length.toNat then throw (.badLength (8 + spiSize.toNat) length.toNat)
      else
        let spi ← range buf 8 (8 + spiSize.toNat)
        let transforms ← forLoop (fun off => do Transform.parse (← range buf off length.toNat))
          transformCount.toNat (8 + spiSize.toNat)
        return (⟨num, protocolId, spi, transforms⟩, length.toNat)

def SecurityAssociation.parse (body : Bytes) : Checked IkeError SecurityAssociation := do
  let proposals ← whileLoop (fun off => do Proposal.parse (← rangeFrom body off)) body.length
    (body.length + 1) 0
  return ⟨proposals⟩

def KeyExchange.parse (body : Bytes) : Checked IkeError KeyExchange :=
  if body.length < 4 then throw (.truncated 4 body.length)
  else return ⟨← u16be body 0, ← rangeFrom body 4⟩

def parseTagged (body : Bytes) : Checked IkeError (UInt8 × Bytes) :=
  if body.length < 4 then throw (.truncated 4 body.length)
  else return (← index body 0, ← rangeFrom body 4)

def Identification.parse (body : Bytes) : Checked IkeError Identification := do
  let (idType, data) ← parseTagged body
  return ⟨idType, data⟩

def Authentication.parse (body : Bytes) : Checked IkeError Authentication := do
  let (method, data) ← parseTagged body
  return ⟨method, data⟩

def TrafficSelector.parse (buf : Bytes) : Checked IkeError (TrafficSelector × Nat) :=
  if buf.length < 8 then throw (.truncated 8 buf.length)
  else do
    let length ← u16be buf 2
    if length.toNat < 8 ∨ length.toNat > buf.length ∨ (length.toNat - 8) % 2 ≠ 0 then
      throw (.badLength length.toNat buf.length)
    else
      let addrLen := (length.toNat - 8) / 2
      return (⟨← index buf 0, ← index buf 1, ← u16be buf 4, ← u16be buf 6,
        ← range buf 8 (8 + addrLen), ← range buf (8 + addrLen) (8 + 2 * addrLen)⟩, length.toNat)

def TrafficSelectors.parse (body : Bytes) : Checked IkeError TrafficSelectors :=
  if body.length < 4 then throw (.truncated 4 body.length)
  else do
    let count ← index body 0
    let selectors ← forLoop (fun off => do TrafficSelector.parse (← rangeFrom body off)) count.toNat 4
    return ⟨selectors⟩

def ConfigAttr.parse (buf : Bytes) : Checked IkeError (ConfigAttr × Nat) :=
  if buf.length < 4 then throw (.truncated 4 buf.length)
  else do
    let attrType := (← u16be buf 0) &&& 0x7fff
    let len ← u16be buf 2
    if 4 + len.toNat > buf.length then throw (.badLength (4 + len.toNat) buf.length)
    else return (⟨attrType, ← range buf 4 (4 + len.toNat)⟩, 4 + len.toNat)

def Configuration.parse (body : Bytes) : Checked IkeError Configuration :=
  if body.length < 4 then throw (.truncated 4 body.length)
  else do
    let cfgType ← index body 0
    let attrs ← whileLoop (fun off => do ConfigAttr.parse (← rangeFrom body off)) body.length
      (body.length + 1) 4
    return ⟨cfgType, attrs⟩

def Notify.parse (body : Bytes) : Checked IkeError Notify :=
  if body.length < 4 then throw (.truncated 4 body.length)
  else do
    let spiSize ← index body 1
    if 4 + spiSize.toNat > body.length then throw (.badLength (4 + spiSize.toNat) body.length)
    else return ⟨← index body 0, ← range body 4 (4 + spiSize.toNat), ← u16be body 2,
      ← rangeFrom body (4 + spiSize.toNat)⟩

def Delete.parse (body : Bytes) : Checked IkeError Delete :=
  if body.length < 4 then throw (.truncated 4 body.length)
  else do
    let protocolId ← index body 0
    let spiSize ← index body 1
    let num ← u16be body 2
    if spiSize.toNat = 0 then return ⟨protocolId, []⟩
    else if spiSize.toNat = 4 then
      if 4 + num.toNat * 4 > body.length then throw (.badLength (4 + num.toNat * 4) body.length)
      else
        let spis ← ((List.range num.toNat).mapM fun i => u32be body (4 + i * 4) : Option (List UInt32))
        return ⟨protocolId, spis⟩
    else throw (.crypto "unsupported Delete SPI size")

def first (body : Bytes) : Checked IkeError UInt8 :=
  match body.head? with
  | some encoding => return encoding
  | none => throw (.truncated 1 0)

def Certificate.parse (body : Bytes) : Checked IkeError Certificate := do
  let encoding ← first body
  return ⟨encoding, ← rangeFrom body 1⟩

def CertRequest.parse (body : Bytes) : Checked IkeError CertRequest := do
  let encoding ← first body
  let rest ← rangeFrom body 1
  if rest.length % 20 ≠ 0 then throw (.badLength rest.length rest.length)
  else
    let caHashes ← ((chunksExact 20 rest).mapM (array 20) : Option (List Bytes))
    return ⟨encoding, caHashes⟩

/-! ## EAP -/

def EapPacket.parse (body : Bytes) : Checked IkeError EapPacket :=
  if body.length < 4 then throw (.truncated 4 body.length)
  else do
    let length ← u16be body 2
    if length.toNat < 4 ∨ length.toNat > body.length then throw (.badLength length.toNat body.length)
    else return ⟨← index body 0, ← index body 1, ← range body 4 length.toNat⟩

/-- `data.len() < size || data[0] != MSCHAPV2 || data[1] != code`, each test behind the one before it. -/
def isOther (size : Nat) (code : UInt8) (data : Bytes) : Option Bool :=
  if data.length < size then some true
  else do
    let kind ← index data 0
    if kind ≠ eap.eap_type.mschapv2 then some true
    else do
      let found ← index data 1
      some (found != code)

def parseChallenge (data : Bytes) : Checked IkeError (UInt8 × Bytes × Bytes) := do
  let other ← isOther 22 eap.op.challenge data
  if other = true then throw (.crypto "not an EAP-MSCHAPv2 Challenge")
  else
    let challenge ← array 16 (← range data 6 22)
    return (← index data 2, challenge, ← rangeFrom data 22)

def parseResponse (data : Bytes) : Checked IkeError eap.Response := do
  let other ← isOther 55 eap.op.response data
  if other = true then throw (.crypto "not an EAP-MSCHAPv2 Response")
  else return ⟨← index data 2, ← array 16 (← range data 6 22), ← array 24 (← range data 30 54),
    ← rangeFrom data 55⟩

/-! ## Every read is in range -/

theorem IkeHeader.parse_returns (input : Bytes) :
    Returns (IkeHeader.parse input) (Ikev2.IkeHeader.parse input) := by
  rw [IkeHeader.parse, Ikev2.IkeHeader.parse]
  apply Returns.guard
  intro long
  rw [Ikev2.IkeHeader.len] at long
  apply Returns.read (index_inside (by omega))
  apply Returns.read (u64be_inside (by omega))
  apply Returns.read (u64be_inside (by omega))
  apply Returns.read (index_inside (by omega))
  apply Returns.read (index_inside (by omega))
  apply Returns.read (index_inside (by omega))
  apply Returns.read (u32be_inside (by omega))
  apply Returns.read (u32be_inside (by omega))
  exact .value _

theorem Transform.findKeyLengthLoop_returns (steps fuel : Nat) (attrs : Bytes) (keyLength : Option UInt16)
    (enough : attrs.length < steps) (fuelled : attrs.length < fuel) :
    Returns (Transform.findKeyLengthLoop steps attrs keyLength)
      (Ikev2.Transform.findKeyLengthLoop fuel attrs keyLength) := by
  induction steps generalizing attrs keyLength fuel with
  | zero => omega
  | succ steps ih =>
    obtain ⟨fuel, rfl⟩ : ∃ fewer, fuel = fewer + 1 := ⟨fuel - 1, by omega⟩
    rw [Transform.findKeyLengthLoop, Ikev2.Transform.findKeyLengthLoop]
    apply Returns.branch
    · intro short
      exact .value _
    intro long
    apply Returns.read (u16be_inside (by omega))
    apply Returns.branch
    · intro tv
      have shorter : (attrs.drop 4).length < attrs.length := by
        rw [List.length_drop]
        omega
      by_cases named : u16At attrs 0 &&& 0x7fff = Transform.attrKeyLength
      · rw [if_pos named, if_pos named]
        apply Returns.read (u16be_inside (by omega))
        apply Returns.read (rangeFrom_inside (by omega))
        exact ih _ _ _ (by omega) (by omega)
      · rw [if_neg named, if_neg named]
        apply Returns.read (rangeFrom_inside (by omega))
        exact ih _ _ _ (by omega) (by omega)
    · intro tlv
      apply Returns.read (u16be_inside (by omega))
      apply Returns.guard
      intro fits
      have shorter : (attrs.drop (4 + (u16At attrs 2).toNat)).length < attrs.length := by
        rw [List.length_drop]
        omega
      apply Returns.read (rangeFrom_inside (by omega))
      exact ih _ _ _ (by omega) (by omega)

theorem Transform.parse_returns (buf : Bytes) :
    Returns (Transform.parse buf) (Ikev2.Transform.parse buf) := by
  rw [Transform.parse, Ikev2.Transform.parse]
  apply Returns.guard
  intro long
  apply Returns.read (u16be_inside (by omega))
  apply Returns.guard
  intro header
  apply Returns.guard
  intro fits
  apply Returns.read (index_inside (by omega))
  apply Returns.read (u16be_inside (by omega))
  apply Returns.read (range_inside (by omega) (by omega))
  apply Returns.bind (Transform.findKeyLengthLoop_returns _ _ _ _ (by omega) (by omega))
  intro keyLength _
  exact .value _

theorem Transform.consumes : Consumes Ikev2.Transform.parse := by
  intro buf transform consumed parsed
  obtain ⟨long, parsed⟩ := guard_eq_ok parsed
  obtain ⟨header, parsed⟩ := guard_eq_ok parsed
  obtain ⟨fits, parsed⟩ := guard_eq_ok parsed
  obtain ⟨keyLength, -, done⟩ := bind_eq_ok parsed
  cases done
  omega

theorem Proposal.consumes : Consumes Ikev2.Proposal.parse := by
  intro buf proposal consumed parsed
  obtain ⟨long, parsed⟩ := guard_eq_ok parsed
  obtain ⟨header, parsed⟩ := guard_eq_ok parsed
  obtain ⟨fits, parsed⟩ := guard_eq_ok parsed
  obtain ⟨spiFits, parsed⟩ := guard_eq_ok parsed
  obtain ⟨transforms, -, done⟩ := bind_eq_ok parsed
  cases done
  omega

theorem TrafficSelector.consumes : Consumes Ikev2.TrafficSelector.parse := by
  intro buf ts consumed parsed
  obtain ⟨long, parsed⟩ := guard_eq_ok parsed
  obtain ⟨good, done⟩ := guard_eq_ok parsed
  cases done
  omega

theorem ConfigAttr.consumes : Consumes Ikev2.ConfigAttr.parse := by
  intro buf attr consumed parsed
  obtain ⟨long, parsed⟩ := guard_eq_ok parsed
  obtain ⟨fits, done⟩ := guard_eq_ok parsed
  cases done
  omega

theorem readsFrom_rangeFrom {α : Type} {read : Bytes → Checked IkeError (α × Nat)}
    {parse : Bytes → Result (α × Nat)} (returns : ∀ buf, Returns (read buf) (parse buf)) {body : Bytes}
    {start : Nat} (inside : start ≤ body.length) :
    ReadsFrom (fun off => do read (← rangeFrom body off)) parse start (body.drop start) := by
  intro off bound
  rw [List.length_drop] at bound
  rw [List.drop_drop]
  apply Returns.read (rangeFrom_inside (by omega))
  exact returns _

theorem Proposal.parse_returns (buf : Bytes) :
    Returns (Proposal.parse buf) (Ikev2.Proposal.parse buf) := by
  rw [Proposal.parse, Ikev2.Proposal.parse]
  apply Returns.guard
  intro long
  apply Returns.read (u16be_inside (by omega))
  apply Returns.guard
  intro header
  apply Returns.guard
  intro fits
  apply Returns.read (index_inside (by omega))
  apply Returns.read (index_inside (by omega))
  apply Returns.read (index_inside (by omega))
  apply Returns.read (index_inside (by omega))
  apply Returns.guard
  intro spiFits
  apply Returns.read (range_inside (by omega) (by omega))
  apply Returns.bind
  · apply forLoop_parseCount _ Transform.consumes
    intro off bound
    rw [slice_length (by omega)] at bound
    rw [slice_drop]
    apply Returns.read (range_inside (by omega) (by omega))
    exact Transform.parse_returns _
  · intro transforms _
    exact .value _

theorem SecurityAssociation.parse_returns (body : Bytes) :
    Returns (SecurityAssociation.parse body) (Ikev2.SecurityAssociation.parse body) := by
  apply Returns.bind
  · exact whileLoop_parseMany (readsFrom_rangeFrom Proposal.parse_returns (Nat.zero_le _))
      Proposal.consumes (Nat.zero_add _).symm (Nat.lt_succ_self _)
  · intro proposals _
    exact .value _

theorem KeyExchange.parse_returns (body : Bytes) :
    Returns (KeyExchange.parse body) (Ikev2.KeyExchange.parse body) := by
  apply Returns.guard
  intro long
  apply Returns.read (u16be_inside (by omega))
  apply Returns.read (rangeFrom_inside (by omega))
  exact .value _

theorem parseTagged_returns (body : Bytes) : Returns (parseTagged body) (Ikev2.parseTagged body) := by
  apply Returns.guard
  intro long
  apply Returns.read (index_inside (by omega))
  apply Returns.read (rangeFrom_inside (by omega))
  exact .value _

theorem Identification.parse_returns (body : Bytes) :
    Returns (Identification.parse body) (Ikev2.Identification.parse body) := by
  apply Returns.bind (parseTagged_returns body)
  intro fields _
  exact .value _

theorem Authentication.parse_returns (body : Bytes) :
    Returns (Authentication.parse body) (Ikev2.Authentication.parse body) := by
  apply Returns.bind (parseTagged_returns body)
  intro fields _
  exact .value _

theorem TrafficSelector.parse_returns (buf : Bytes) :
    Returns (TrafficSelector.parse buf) (Ikev2.TrafficSelector.parse buf) := by
  apply Returns.guard
  intro long
  apply Returns.read (u16be_inside (by omega))
  apply Returns.guard
  intro good
  apply Returns.read (index_inside (by omega))
  apply Returns.read (index_inside (by omega))
  apply Returns.read (u16be_inside (by omega))
  apply Returns.read (u16be_inside (by omega))
  apply Returns.read (range_inside (by omega) (by omega))
  apply Returns.read (range_inside (by omega) (by omega))
  exact .value _

theorem TrafficSelectors.parse_returns (body : Bytes) :
    Returns (TrafficSelectors.parse body) (Ikev2.TrafficSelectors.parse body) := by
  apply Returns.guard
  intro long
  apply Returns.read (index_inside (by omega))
  apply Returns.bind
  · exact forLoop_parseCount (readsFrom_rangeFrom TrafficSelector.parse_returns (by omega))
      TrafficSelector.consumes _
  · intro selectors _
    exact .value _

theorem ConfigAttr.parse_returns (buf : Bytes) :
    Returns (ConfigAttr.parse buf) (Ikev2.ConfigAttr.parse buf) := by
  apply Returns.guard
  intro long
  apply Returns.read (u16be_inside (by omega))
  apply Returns.read (u16be_inside (by omega))
  apply Returns.guard
  intro fits
  apply Returns.read (range_inside (by omega) (by omega))
  exact .value _

theorem Configuration.parse_returns (body : Bytes) :
    Returns (Configuration.parse body) (Ikev2.Configuration.parse body) := by
  apply Returns.guard
  intro long
  have region : (body.drop 4).length = body.length - 4 := List.length_drop
  apply Returns.read (index_inside (by omega))
  apply Returns.bind
  · exact whileLoop_parseMany (readsFrom_rangeFrom ConfigAttr.parse_returns (by omega))
      ConfigAttr.consumes (by omega) (by omega)
  · intro attrs _
    exact .value _

theorem Notify.parse_returns (body : Bytes) : Returns (Notify.parse body) (Ikev2.Notify.parse body) := by
  apply Returns.guard
  intro long
  apply Returns.read (index_inside (by omega))
  apply Returns.guard
  intro fits
  apply Returns.read (index_inside (by omega))
  apply Returns.read (range_inside (by omega) (by omega))
  apply Returns.read (u16be_inside (by omega))
  apply Returns.read (rangeFrom_inside (by omega))
  exact .value _

theorem Delete.parse_returns (body : Bytes) : Returns (Delete.parse body) (Ikev2.Delete.parse body) := by
  apply Returns.guard
  intro long
  apply Returns.read (index_inside (by omega))
  apply Returns.read (index_inside (by omega))
  apply Returns.read (u16be_inside (by omega))
  apply Returns.branch
  · intro none
    exact .value _
  intro some
  apply Returns.branch
  · intro four
    apply Returns.guard
    intro fits
    have spis : ∀ i ∈ List.range (u16At body 2).toNat,
        u32be body (4 + i * 4) = Option.some (u32At body (4 + i * 4)) := by
      intro i member
      have bound := List.mem_range.mp member
      exact u32be_inside (by omega)
    apply Returns.read (mapM_inside spis)
    exact .value _
  · intro other
    exact .error _

theorem Certificate.parse_returns (body : Bytes) :
    Returns (Certificate.parse body) (Ikev2.Certificate.parse body) := by
  cases body with
  | nil => exact .error _
  | cons encoding data => exact .read (rangeFrom_inside (Nat.le_add_left 1 _)) (.value _)

theorem CertRequest.parse_returns (body : Bytes) :
    Returns (CertRequest.parse body) (Ikev2.CertRequest.parse body) := by
  cases body with
  | nil => exact .error _
  | cons encoding rest =>
    have chunks : ∀ chunk ∈ chunksExact 20 rest, array 20 chunk = some (id chunk) := by
      intro chunk member
      obtain ⟨i, bound, rfl⟩ := List.mem_map.mp member
      have full := Nat.mul_le_of_le_div 20 _ _ (List.mem_range.mp bound)
      exact array_slice full (by omega)
    apply Returns.read (rangeFrom_inside (Nat.le_add_left 1 _))
    apply Returns.guard
    intro exactly
    apply Returns.read (mapM_inside chunks)
    rw [List.map_id]
    exact .value _

theorem EapPacket.parse_returns (body : Bytes) :
    Returns (EapPacket.parse body) (Ikev2.EapPacket.parse body) := by
  apply Returns.guard
  intro long
  apply Returns.read (u16be_inside (by omega))
  apply Returns.guard
  intro good
  apply Returns.read (index_inside (by omega))
  apply Returns.read (index_inside (by omega))
  apply Returns.read (range_inside (by omega) (by omega))
  exact .value _

theorem isOther_inside {size : Nat} (room : 2 ≤ size) (code : UInt8) (data : Bytes) :
    isOther size code data = some (decide (data.length < size ∨
      byteAt data 0 ≠ eap.eap_type.mschapv2 ∨ byteAt data 1 ≠ code)) := by
  rw [isOther]
  by_cases short : data.length < size
  · rw [if_pos short, decide_eq_true (.inl short)]
  · rw [if_neg short, index_inside (by omega), index_inside (by omega)]
    by_cases kind : byteAt data 0 = eap.eap_type.mschapv2 <;>
      by_cases found : byteAt data 1 = code <;> simp [short, kind, found]

theorem parseChallenge_returns (data : Bytes) :
    Returns (parseChallenge data) (eap.parseChallenge data) := by
  apply Returns.read (isOther_inside (by omega) _ _)
  simp only [decide_eq_true_eq]
  apply Returns.guard
  intro own
  apply Returns.read (range_inside (by omega) (by omega))
  apply Returns.read (array_slice (by omega) rfl)
  apply Returns.read (index_inside (by omega))
  apply Returns.read (rangeFrom_inside (by omega))
  exact .value _

theorem parseResponse_returns (data : Bytes) :
    Returns (parseResponse data) (eap.parseResponse data) := by
  apply Returns.read (isOther_inside (by omega) _ _)
  simp only [decide_eq_true_eq]
  apply Returns.guard
  intro own
  apply Returns.read (index_inside (by omega))
  apply Returns.read (range_inside (by omega) (by omega))
  apply Returns.read (array_slice (by omega) rfl)
  apply Returns.read (range_inside (by omega) (by omega))
  apply Returns.read (array_slice (by omega) rfl)
  apply Returns.read (rangeFrom_inside (by omega))
  exact .value _

/-! ## The payload chain -/

theorem PayloadIter.next_inside (iter : PayloadIter) : PayloadIter.next iter = some iter.next := by
  rw [PayloadIter.next, Ikev2.PayloadIter.next]
  by_cases stop : iter.done = true ∨ iter.nextType = .noNext
  · rw [if_pos stop, if_pos stop]
  rw [if_neg stop, if_neg stop]
  by_cases short : iter.rest.length < 4
  · rw [if_pos short, if_pos short]
  rw [if_neg short, if_neg short, index_inside (by omega), index_inside (by omega),
    u16be_inside (by omega)]
  dsimp only [Option.bind_eq_bind, Option.bind_some]
  by_cases tiny : (u16At iter.rest 2).toNat < 4
  · rw [if_pos tiny, if_pos tiny]
  rw [if_neg tiny, if_neg tiny]
  by_cases beyond : (u16At iter.rest 2).toNat > iter.rest.length
  · rw [if_pos beyond, if_pos beyond]
  rw [if_neg beyond, if_neg beyond, range_inside (by omega) (by omega), rangeFrom_inside (by omega)]
  rfl

theorem PayloadIter.collect_inside (calls fuel : Nat) (first : PayloadType) (body : Bytes)
    (enough : body.length + 1 < calls) (fuelled : body.length < fuel) :
    PayloadIter.collect calls ⟨first, body, false⟩ =
      some (Ikev2.PayloadIter.collect fuel ⟨first, body, false⟩) := by
  induction calls generalizing first body fuel with
  | zero => omega
  | succ calls ih =>
    obtain ⟨fuel, rfl⟩ : ∃ fewer, fuel = fewer + 1 := ⟨fuel - 1, by omega⟩
    rw [PayloadIter.collect, Ikev2.PayloadIter.collect, PayloadIter.next_inside]
    rcases PayloadIter.next_cases first body with
      stop | ⟨error, wrong⟩ | ⟨payload, following, rest, shorter, step⟩
    · rw [stop]
      rfl
    · obtain ⟨calls, rfl⟩ : ∃ fewer, calls = fewer + 1 := ⟨calls - 1, by omega⟩
      have ended : PayloadIter.collect (calls + 1) ⟨first, body, true⟩ = some [] := by
        rw [PayloadIter.collect, PayloadIter.next, if_pos (.inl rfl)]
        rfl
      rw [wrong]
      dsimp only [Option.bind_eq_bind, Option.bind_some]
      rw [ended, Ikev2.PayloadIter.collect_done]
      rfl
    · rw [step]
      dsimp only [Option.bind_eq_bind, Option.bind_some]
      rw [ih fuel following rest (by omega) (by omega)]
      rfl

theorem payloads_inside (first : PayloadType) (body : Bytes) :
    payloads first body = some (Ikev2.payloads first body) :=
  PayloadIter.collect_inside _ _ first body (by omega) (by omega)

/-- The payloads found, each with its header, stand apart in the body; at most one error ends them. -/
theorem payloads_disjoint (first : PayloadType) (body : Bytes) :
    ∃ (found : List RawPayload) (ending : List IkeError),
      Ikev2.payloads first body = found.map .ok ++ ending.map .error ∧ ending.length ≤ 1 ∧
        (found.map fun payload => 4 + payload.data.length).sum ≤ body.length := by
  induction size : body.length using Nat.strong_induction_on generalizing first body with
  | _ n ih =>
    by_cases last : first = .noNext
    · subst last
      exact ⟨[], [], payloads_noNext body, Nat.zero_le _, Nat.zero_le _⟩
    have fails : ∀ error, Ikev2.payloads first body = [.error error] →
        ∃ (found : List RawPayload) (ending : List IkeError),
          Ikev2.payloads first body = found.map .ok ++ ending.map .error ∧ ending.length ≤ 1 ∧
            (found.map fun payload => 4 + payload.data.length).sum ≤ n :=
      fun error only => ⟨[], [error], only, le_rfl, Nat.zero_le _⟩
    have step := payloads_step last body
    by_cases short : body.length < 4
    · rw [if_pos short] at step
      exact fails _ step
    by_cases tiny : (u16At body 2).toNat < 4
    · rw [if_neg short, if_pos tiny] at step
      exact fails _ step
    by_cases beyond : (u16At body 2).toNat > body.length
    · rw [if_neg short, if_neg tiny, if_pos beyond] at step
      exact fails _ step
    rw [if_neg short, if_neg tiny, if_neg beyond] at step
    have left : (body.drop (u16At body 2).toNat).length = n - (u16At body 2).toNat := by
      rw [List.length_drop, size]
    obtain ⟨found, ending, rest, single, bounded⟩ := ih _ (by omega)
      (PayloadType.fromU8 (byteAt body 0)) (body.drop (u16At body 2).toNat) left
    refine ⟨_ :: found, ending, by rw [step, rest]; rfl, single, ?_⟩
    rw [List.map_cons, List.sum_cons, slice_length (by omega)]
    omega

/-- What the typed body readers make of a byte string, whichever payload it came in. -/
structure BodiesReturn (body : Bytes) : Prop where
  sa : Returns (SecurityAssociation.parse body) (Ikev2.SecurityAssociation.parse body)
  ke : Returns (KeyExchange.parse body) (Ikev2.KeyExchange.parse body)
  id : Returns (Identification.parse body) (Ikev2.Identification.parse body)
  auth : Returns (Authentication.parse body) (Ikev2.Authentication.parse body)
  ts : Returns (TrafficSelectors.parse body) (Ikev2.TrafficSelectors.parse body)
  cp : Returns (Configuration.parse body) (Ikev2.Configuration.parse body)
  notify : Returns (Notify.parse body) (Ikev2.Notify.parse body)
  delete : Returns (Delete.parse body) (Ikev2.Delete.parse body)
  cert : Returns (Certificate.parse body) (Ikev2.Certificate.parse body)
  certRequest : Returns (CertRequest.parse body) (Ikev2.CertRequest.parse body)
  eapPacket : Returns (EapPacket.parse body) (Ikev2.EapPacket.parse body)
  challenge : Returns (parseChallenge body) (eap.parseChallenge body)
  response : Returns (parseResponse body) (eap.parseResponse body)

/-- Untrusted bytes: every reader ends, with no read out of range and with what the model reads,
and the payload chain stays within the body and stops at its first error. -/
theorem parsers_total (first : PayloadType) (input : Bytes) :
    Returns (IkeHeader.parse input) (Ikev2.IkeHeader.parse input) ∧ BodiesReturn input ∧
      payloads first input = some (Ikev2.payloads first input) ∧
      ∃ (found : List RawPayload) (ending : List IkeError),
        payloads first input = some (found.map .ok ++ ending.map .error) ∧ ending.length ≤ 1 ∧
          (found.map fun payload => 4 + payload.data.length).sum ≤ input.length := by
  refine ⟨IkeHeader.parse_returns input, ?_, payloads_inside first input, ?_⟩
  · exact {
      sa := SecurityAssociation.parse_returns input
      ke := KeyExchange.parse_returns input
      id := Identification.parse_returns input
      auth := Authentication.parse_returns input
      ts := TrafficSelectors.parse_returns input
      cp := Configuration.parse_returns input
      notify := Notify.parse_returns input
      delete := Delete.parse_returns input
      cert := Certificate.parse_returns input
      certRequest := CertRequest.parse_returns input
      eapPacket := EapPacket.parse_returns input
      challenge := parseChallenge_returns input
      response := parseResponse_returns input }
  · obtain ⟨found, ending, items, single, bounded⟩ := payloads_disjoint first input
    rw [payloads_inside, items]
    exact ⟨found, ending, rfl, single, bounded⟩

end Ryke.Ikev2.Parsers
