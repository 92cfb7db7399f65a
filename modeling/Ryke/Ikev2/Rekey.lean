import Ryke.Ikev2.AuthComplete

/-! Rekeying a CHILD SA through `CREATE_CHILD_SA`. Either end of an IKE SA may start the
exchange: the keys of the Encrypted payload go by the original roles, those of the new
CHILD SA by who started. -/

namespace Ryke.Ikev2.Rekey
open Lib Crypto

def createChildHeader (sa : CompletedSaInit) (messageId : UInt32) (isResponse : Bool) : IkeHeader where
  initiatorSpi := sa.spiI
  responderSpi := sa.spiR
  nextPayload := .noNext
  majorVersion := 2
  minorVersion := 0
  exchangeType := .createChildSa
  flags := ⟨sa.role == .initiator, false, isResponse⟩
  messageId := messageId
  length := 0

def espSpiFromSa (saBytes : Bytes) : Result UInt32 := do
  let sa ← SecurityAssociation.parse saBytes
  let proposal ← okOr sa.proposals.head? .noProposalChosen
  if proposal.spi.length ≠ 4 then .error (.crypto "expected a 4-byte ESP SPI")
  else .ok (u32At proposal.spi 0)

structure Found where
  sa : Option Bytes := none
  nonce : Option Bytes := none

def Found.add (found : Found) (payload : RawPayload) : Result Found :=
  match payload.payloadType with
  | .securityAssociation => .ok { found with sa := some payload.data }
  | .nonce => .ok { found with nonce := some payload.data }
  | _ => .ok found

def findSaAndNonce (first : PayloadType) (inner : Bytes) : Result (Bytes × Bytes) := do
  let found ← forPayloads (payloads first inner) {} Found.add
  let sa ← okOr found.sa (.missingPayload "SA")
  let nonce ← okOr found.nonce (.missingPayload "Nonce")
  .ok (sa, nonce)

structure Echo where
  tsi : Option Bytes := none
  tsr : Option Bytes := none

def Echo.add (echo : Echo) (payload : RawPayload) : Result Echo :=
  match payload.payloadType with
  | .trafficSelectorInitiator => .ok { echo with tsi := some payload.data }
  | .trafficSelectorResponder => .ok { echo with tsr := some payload.data }
  | _ => .ok echo

/-- An assigned address narrows the selectors as `IKE_AUTH` did; without one they are echoed. -/
def answerSelectors (assignedIp : Option Ipv4Addr) (echo : Echo) : Bytes × Bytes :=
  match assignedIp with
  | some ip => ((TrafficSelectors.mk [.ipv4Host ip]).toBytes, fullTunnelTs)
  | none => (echo.tsi.getD fullTunnelTs, echo.tsr.getD fullTunnelTs)

/-- `N(REKEY_SA, old_spi), SA(new_spi), Ni, TSi, TSr`. -/
def requestChain (rekeyedSpi newSpi : UInt32) (ni : Bytes) : List Payload :=
  [(.notify, (Notify.mk protocol_id.esp (u32Bytes rekeyedSpi) notify_type.rekeySa []).toBytes),
    (.securityAssociation, (espOffer newSpi).toBytes), (.nonce, ni),
    (.trafficSelectorInitiator, fullTunnelTs), (.trafficSelectorResponder, fullTunnelTs)]

def answerChain (newSpi : UInt32) (nr : Bytes) (selectors : Bytes × Bytes) : List Payload :=
  [(.securityAssociation, (espOffer newSpi).toBytes), (.nonce, nr),
    (.trafficSelectorInitiator, selectors.1), (.trafficSelectorResponder, selectors.2)]

def buildRekeyRequest (P : Primitives) (sa : CompletedSaInit) (messageId : UInt32) (rekeyedSpi newSpi : UInt32)
    (ni : Bytes) (iv : Iv) : Result Bytes :=
  let inner := requestChain rekeyedSpi newSpi ni
  buildEncryptedGcm P (createChildHeader sa messageId false) (firstPayloadType inner) (encodePayloadChain inner)
    (ourSkE sa) iv

def responderProcessRekey (P : Primitives) (sa : CompletedSaInit) (request : Bytes) (newSpi : UInt32) (nr : Bytes)
    (iv : Iv) (assignedIp : Option Ipv4Addr) : Result (Bytes × ChildSa) := do
  let header ← IkeHeader.parse request
  let (first, inner) ← openEncryptedGcm P request (peerSkE sa)
  let (saBytes, ni) ← findSaAndNonce first inner
  let peerSpi ← espSpiFromSa saBytes
  let echo ← forPayloads (payloads first inner) {} Echo.add
  let child := ChildSa.derive P sa.keys.skD ni nr .responder newSpi peerSpi
  let innerOut := answerChain newSpi nr (answerSelectors assignedIp echo)
  let response ← buildEncryptedGcm P (createChildHeader sa header.messageId true) (firstPayloadType innerOut)
    (encodePayloadChain innerOut) (ourSkE sa) iv
  .ok (response, child)

def initiatorCompleteRekey (P : Primitives) (sa : CompletedSaInit) (ni : Bytes) (newSpi : UInt32)
    (response : Bytes) : Result ChildSa := do
  let (first, inner) ← openEncryptedGcm P response (peerSkE sa)
  let (saBytes, nr) ← findSaAndNonce first inner
  let peerSpi ← espSpiFromSa saBytes
  .ok (ChildSa.derive P sa.keys.skD ni nr .initiator newSpi peerSpi)

/-! ## Reading the two messages -/

theorem espSpiFromSa_espOffer (spi : UInt32) : espSpiFromSa (espOffer spi).toBytes = .ok spi := by
  have fits : ∀ proposal ∈ (espOffer spi).proposals, proposal.Fits := by
    intro proposal member
    rw [List.mem_singleton.mp member]
    simp [Proposal.Fits]
  have value : u32At (u32Bytes spi) 0 = spi := be32_split spi
  rw [espSpiFromSa, SecurityAssociation.parse_toBytes fits, ok_bind, espOffer, List.head?_cons, okOr_some, ok_bind,
    if_neg (not_not.mpr (u32Bytes_length spi)), value]

theorem findSaAndNonce_requestChain {rekeyedSpi newSpi : UInt32} {ni : Bytes}
    (small : skPayloadLen (encodePayloadChain (requestChain rekeyedSpi newSpi ni)) < 65536) :
    findSaAndNonce (firstPayloadType (requestChain rekeyedSpi newSpi ni))
      (encodePayloadChain (requestChain rekeyedSpi newSpi ni)) = .ok ((espOffer newSpi).toBytes, ni) := by
  rw [findSaAndNonce, forPayloads_chain [.notify, .securityAssociation, .nonce, .trafficSelectorInitiator,
    .trafficSelectorResponder] rfl (by decide) small]
  rfl

theorem echo_requestChain {rekeyedSpi newSpi : UInt32} {ni : Bytes}
    (small : skPayloadLen (encodePayloadChain (requestChain rekeyedSpi newSpi ni)) < 65536) :
    forPayloads (payloads (firstPayloadType (requestChain rekeyedSpi newSpi ni))
      (encodePayloadChain (requestChain rekeyedSpi newSpi ni))) {} Echo.add =
        .ok ⟨some fullTunnelTs, some fullTunnelTs⟩ := by
  rw [forPayloads_chain [.notify, .securityAssociation, .nonce, .trafficSelectorInitiator,
    .trafficSelectorResponder] rfl (by decide) small]
  rfl

theorem findSaAndNonce_answerChain {newSpi : UInt32} {nr : Bytes} {selectors : Bytes × Bytes}
    (small : skPayloadLen (encodePayloadChain (answerChain newSpi nr selectors)) < 65536) :
    findSaAndNonce (firstPayloadType (answerChain newSpi nr selectors))
      (encodePayloadChain (answerChain newSpi nr selectors)) = .ok ((espOffer newSpi).toBytes, nr) := by
  rw [findSaAndNonce, forPayloads_chain [.securityAssociation, .nonce, .trafficSelectorInitiator,
    .trafficSelectorResponder] rfl (by decide) small]
  rfl

/-! ## The exchange -/

theorem facing_of_matching {sa peer : CompletedSaInit} (matching : Matching sa peer ∨ Matching peer sa) :
    Facing sa peer ∧ peer.keys = sa.keys := by
  rcases matching with matching | matching
  · have keys := matching.keys
    refine ⟨⟨by rw [keys], by rw [keys], matching.sizeEi, matching.sizeEr, matching.spiI, matching.spiR, ?_⟩, keys⟩
    rw [matching.initiator, matching.responder]
    exact nofun
  · have keys := matching.keys
    refine ⟨⟨by rw [keys], by rw [keys], by rw [keys]; exact matching.sizeEi, by rw [keys]; exact matching.sizeEr,
      matching.spiI.symm, matching.spiR.symm, ?_⟩, keys.symm⟩
    rw [matching.initiator, matching.responder]
    exact nofun

theorem responderProcessRekey_of_opened {P : Primitives} {sa : CompletedSaInit} {request inner saBytes ni : Bytes}
    {header : IkeHeader} {first : PayloadType} {peerSpi newSpi : UInt32} {echo : Echo} {nr response : Bytes} {iv : Iv}
    {assignedIp : Option Ipv4Addr} (parsed : IkeHeader.parse request = .ok header)
    (opened : openEncryptedGcm P request (peerSkE sa) = .ok (first, inner))
    (found : findSaAndNonce first inner = .ok (saBytes, ni)) (spi : espSpiFromSa saBytes = .ok peerSpi)
    (echoed : forPayloads (payloads first inner) {} Echo.add = .ok echo)
    (built : buildEncryptedGcm P (createChildHeader sa header.messageId true)
      (firstPayloadType (answerChain newSpi nr (answerSelectors assignedIp echo)))
      (encodePayloadChain (answerChain newSpi nr (answerSelectors assignedIp echo))) (ourSkE sa) iv = .ok response) :
    responderProcessRekey P sa request newSpi nr iv assignedIp =
      .ok (response, .derive P sa.keys.skD ni nr .responder newSpi peerSpi) := by
  rw [responderProcessRekey, parsed, ok_bind, opened, ok_bind]
  dsimp only
  rw [found, ok_bind]
  dsimp only
  rw [spi, ok_bind, echoed, ok_bind, built, ok_bind]

theorem initiatorCompleteRekey_of_opened {P : Primitives} {sa : CompletedSaInit} {response inner saBytes nr : Bytes}
    {first : PayloadType} {peerSpi : UInt32} (opened : openEncryptedGcm P response (peerSkE sa) = .ok (first, inner))
    (found : findSaAndNonce first inner = .ok (saBytes, nr)) (spi : espSpiFromSa saBytes = .ok peerSpi) (ni : Bytes)
    (newSpi : UInt32) :
    initiatorCompleteRekey P sa ni newSpi response =
      .ok (.derive P sa.keys.skD ni nr .initiator newSpi peerSpi) := by
  rw [initiatorCompleteRekey, opened, ok_bind]
  dsimp only
  rw [found, ok_bind]
  dsimp only
  rw [spi, ok_bind]

/-- Whichever end starts, the other accepts its request, it accepts the answer, and the two
new CHILD SAs mirror each other. -/
theorem rekey_agreement (P : Primitives) (correct : P.GcmCorrect) (seals : P.GcmSeals) (sa peer : CompletedSaInit)
    (matching : Matching sa peer ∨ Matching peer sa) (messageId rekeyedSpi newSpi peerSpi : UInt32) (ni nr : Bytes)
    (iv peerIv : Iv) (assignedIp : Option Ipv4Addr)
    (requestFits : skPayloadLen (encodePayloadChain (requestChain rekeyedSpi newSpi ni)) < 65536)
    (answerFits : skPayloadLen (encodePayloadChain (answerChain peerSpi nr
      (answerSelectors assignedIp ⟨some fullTunnelTs, some fullTunnelTs⟩))) < 65536) :
    ∃ request response child peerChild,
      buildRekeyRequest P sa messageId rekeyedSpi newSpi ni iv = .ok request ∧
      responderProcessRekey P peer request peerSpi nr peerIv assignedIp = .ok (response, peerChild) ∧
      initiatorCompleteRekey P sa ni newSpi response = .ok child ∧ World.Mirrored peerChild child := by
  obtain ⟨facing, keys⟩ := facing_of_matching matching
  obtain ⟨request, requested⟩ := exists_buildEncryptedGcm seals (createChildHeader sa messageId false)
    (firstPayloadType (requestChain rekeyedSpi newSpi ni)) iv facing.ourSkE_length requestFits
  obtain ⟨response, answered⟩ := exists_buildEncryptedGcm seals (createChildHeader peer messageId true)
    (firstPayloadType (answerChain peerSpi nr (answerSelectors assignedIp ⟨some fullTunnelTs, some fullTunnelTs⟩)))
    peerIv facing.symm.ourSkE_length answerFits
  have two : (2 : UInt8) < 16 := by decide
  have zero : (0 : UInt8) < 16 := by decide
  obtain ⟨length, parsed⟩ := parse_buildEncryptedGcm two zero rfl requested
  have opened := openEncryptedGcm_built correct requestFits requested
  have answerOpened := openEncryptedGcm_built correct answerFits answered
  rw [← facing.peerSkE_eq] at opened
  rw [← facing.symm.peerSkE_eq] at answerOpened
  refine ⟨request, response, .derive P sa.keys.skD ni nr .initiator newSpi peerSpi,
    .derive P peer.keys.skD ni nr .responder peerSpi newSpi, requested, ?_, ?_, ?_⟩
  · exact responderProcessRekey_of_opened parsed opened (findSaAndNonce_requestChain requestFits)
      (espSpiFromSa_espOffer newSpi) (echo_requestChain requestFits) answered
  · exact initiatorCompleteRekey_of_opened answerOpened (findSaAndNonce_answerChain answerFits)
      (espSpiFromSa_espOffer peerSpi) ni newSpi
  · rw [keys]
    exact World.mirrored_derive P _ _ _ peerSpi newSpi

/-- The original responder rekeys. -/
theorem rekey_agreement_responder :
    ∃ request response child peerChild,
      buildRekeyRequest Ryke.Toy.toyMac Toy.respSa 0 5 6 [1, 2, 3] (.ofU64 1) = .ok request ∧
      responderProcessRekey Ryke.Toy.toyMac Toy.initSa request 7 [4, 5, 6] (.ofU64 2) (some ⟨10, 8, 0, 7⟩) =
        .ok (response, peerChild) ∧
      initiatorCompleteRekey Ryke.Toy.toyMac Toy.respSa [1, 2, 3] 6 response = .ok child ∧
      World.Mirrored peerChild child :=
  rekey_agreement Ryke.Toy.toyMac Ryke.Toy.toyMac_gcmCorrect Ryke.Toy.toyMac_gcmSeals Toy.respSa Toy.initSa
    (.inr Toy.matching) 0 5 6 7 [1, 2, 3] [4, 5, 6] (.ofU64 1) (.ofU64 2) (some ⟨10, 8, 0, 7⟩) (by decide +kernel)
    (by decide +kernel)

end Ryke.Ikev2.Rekey
