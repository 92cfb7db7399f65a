import Ryke.Ikev2.Informational
import Ryke.Ikev2.Network

/-! The `IKE_AUTH` exchange of two honest ends over one IKE SA: each accepts the other's
message, learns its identity, SPI and the assigned address, and derives the mirror image
of its CHILD SA. -/

namespace Ryke.Ikev2
open Lib Crypto

/-- The initiator's and the responder's view of one completed `IKE_SA_INIT` with an
AES-GCM suite. -/
structure Matching (initSa respSa : CompletedSaInit) : Prop where
  initiator : initSa.role = .initiator
  responder : respSa.role = .responder
  spiI : respSa.spiI = initSa.spiI
  spiR : respSa.spiR = initSa.spiR
  keys : respSa.keys = initSa.keys
  ni : respSa.ni = initSa.ni
  nr : respSa.nr = initSa.nr
  initMessage : respSa.initMessage = initSa.initMessage
  respMessage : respSa.respMessage = initSa.respMessage
  sizeEi : initSa.keys.skEi.length = 36
  sizeEr : initSa.keys.skEr.length = 36

/-! ## Reading a chain -/

theorem parseAuthInner_chain {chain : List Payload} (kinds : List PayloadType) (ofKinds : chain.map Prod.fst = kinds)
    (proper : ∀ kind ∈ kinds, kind.Proper) (small : skPayloadLen (encodePayloadChain chain) < 65536) :
    parseAuthInner (firstPayloadType chain) (encodePayloadChain chain) = (do
      let found ← chain.foldlM (fun found payload => found.add (raw payload)) ({} : AuthFound)
      found.finish) := by
  rw [parseAuthInner, forPayloads_chain kinds ofKinds proper small]

theorem initiatorAuthChain_psk (P : Primitives) (id : Identification) (psk : Bytes) (auth : Authentication)
    (childSpi : UInt32) :
    initiatorAuthChain P (.psk id psk) auth [] childSpi =
      [(.idInitiator, id.toBytes), (.authentication, auth.toBytes), (.securityAssociation, (espOffer childSpi).toBytes),
        (.trafficSelectorInitiator, fullTunnelTs), (.trafficSelectorResponder, fullTunnelTs)] := rfl

theorem parse_initiatorAuthChain (P : Primitives) (id : Identification) (psk : Bytes) (auth : Authentication)
    (childSpi : UInt32) (small : skPayloadLen (encodePayloadChain (initiatorAuthChain P (.psk id psk) auth [] childSpi)) <
      65536) :
    parseAuthInner (firstPayloadType (initiatorAuthChain P (.psk id psk) auth [] childSpi))
        (encodePayloadChain (initiatorAuthChain P (.psk id psk) auth [] childSpi)) =
      .ok ⟨id.toBytes, auth, [], some childSpi, none⟩ := by
  rw [parseAuthInner_chain [.idInitiator, .authentication, .securityAssociation, .trafficSelectorInitiator,
    .trafficSelectorResponder] rfl (by decide) small, initiatorAuthChain_psk]
  simp only [List.foldlM_cons, List.foldlM_nil, AuthFound.add, raw, Authentication.parse_toBytes, ok_bind,
    espSpiFromSa_espOffer, AuthFound.finish]
  rfl

theorem responderAuthChain_none (id : Identification) (psk : Bytes) (auth : Authentication) (childSpi : UInt32) :
    responderAuthChain (.psk id psk) auth [] childSpi none =
      [(.idResponder, id.toBytes), (.authentication, auth.toBytes), (.securityAssociation, (espOffer childSpi).toBytes),
        (.trafficSelectorInitiator, fullTunnelTs), (.trafficSelectorResponder, fullTunnelTs),
        (.notify, mobikeSupported.toBytes)] := rfl

theorem responderAuthChain_some (id : Identification) (psk : Bytes) (auth : Authentication) (childSpi : UInt32)
    (config : AssignedConfig) :
    responderAuthChain (.psk id psk) auth [] childSpi (some config) =
      [(.idResponder, id.toBytes), (.authentication, auth.toBytes),
        (.configuration, (Configuration.replyIpv4 config.ip none config.dns.head?).toBytes),
        (.securityAssociation, (espOffer childSpi).toBytes),
        (.trafficSelectorInitiator, (TrafficSelectors.mk [.ipv4Host config.ip]).toBytes),
        (.trafficSelectorResponder, fullTunnelTs), (.notify, mobikeSupported.toBytes)] := rfl

theorem parse_responderAuthChain (id : Identification) (psk : Bytes) (auth : Authentication) (childSpi : UInt32)
    (assigned : Option AssignedConfig)
    (small : skPayloadLen (encodePayloadChain (responderAuthChain (.psk id psk) auth [] childSpi assigned)) < 65536) :
    parseAuthInner (firstPayloadType (responderAuthChain (.psk id psk) auth [] childSpi assigned))
        (encodePayloadChain (responderAuthChain (.psk id psk) auth [] childSpi assigned)) =
      .ok ⟨id.toBytes, auth, [], some childSpi, assigned.map AssignedConfig.ip⟩ := by
  cases assigned with
  | none =>
    rw [parseAuthInner_chain [.idResponder, .authentication, .securityAssociation, .trafficSelectorInitiator,
      .trafficSelectorResponder, .notify] rfl (by decide) small, responderAuthChain_none]
    simp only [List.foldlM_cons, List.foldlM_nil, AuthFound.add, raw, Authentication.parse_toBytes, ok_bind,
      espSpiFromSa_espOffer, AuthFound.finish]
    rfl
  | some config =>
    have parsed := Configuration.parse_replyIpv4 config.ip none config.dns.head?
    rw [parseAuthInner_chain [.idResponder, .authentication, .configuration, .securityAssociation,
      .trafficSelectorInitiator, .trafficSelectorResponder, .notify] rfl (by decide) small, responderAuthChain_some]
    simp only [List.foldlM_cons, List.foldlM_nil, AuthFound.add, raw, Authentication.parse_toBytes, ok_bind,
      espSpiFromSa_espOffer, AuthFound.finish, parsed, Configuration.assignedIpv4_replyIpv4]
    rfl

/-! ## Verifying a PSK -/

theorem ctEq_self (a : Bytes) : ctEq a a = true := by
  have zero : ∀ b : Bytes, (b.zip b).foldl (fun (diff : UInt8) p => diff ||| (p.1 ^^^ p.2)) 0 = 0 := by
    intro b
    induction b with
    | nil => rfl
    | cons x rest ih =>
      rw [List.zip_cons_cons, List.foldl_cons]
      simpa using ih
  rw [ctEq, if_neg (not_not.mpr rfl)]
  exact beq_iff_eq.mpr (zero a)

theorem verifyPsk_pskAuthPayload (P : Primitives) (psk octets : Bytes) :
    verifyPsk P (pskAuthPayload P psk octets) psk octets = .ok () := if_pos ⟨rfl, ctEq_self _⟩

/-! ## The exchange -/

theorem responderProcessAuth_of_verified {P : Primitives} {sa : CompletedSaInit} {request inner : Bytes}
    {first : PayloadType} {cfg : AuthConfig} {got : AuthPayloads} {peerId : Identification} {peerChildSpi : UInt32}
    {auth : Authentication} {certs : List Payload} {childSpi : UInt32} {iv : Iv} {assigned : Option AssignedConfig}
    {response : Bytes} (opened : openEncryptedGcm P request sa.keys.skEi = .ok (first, inner))
    (read : parseAuthInner first inner = .ok got)
    (verified : verifyPeerAuth P cfg got (initiatorSignedOctets P sa.initMessage sa.nr sa.keys.skPi got.idBody) = .ok ())
    (parsed : Identification.parse got.idBody = .ok peerId) (hasSpi : got.childSpi = some peerChildSpi)
    (ours : buildLocalAuth P cfg sa (responderSignedOctets P sa.respMessage sa.ni sa.keys.skPr cfg.id.toBytes) =
      .ok (auth, certs))
    (built : buildEncryptedGcm P (ikeAuthHeader sa true)
      (firstPayloadType (responderAuthChain cfg auth certs childSpi assigned))
      (encodePayloadChain (responderAuthChain cfg auth certs childSpi assigned)) sa.keys.skEr iv = .ok response) :
    responderProcessAuth P sa request cfg childSpi iv assigned = .ok (response, peerId, peerChildSpi) := by
  rw [responderProcessAuth, opened, ok_bind]
  dsimp only
  rw [read, ok_bind, verified, ok_bind, parsed, ok_bind, hasSpi, okOr_some, ok_bind, ours, ok_bind]
  dsimp only
  rw [built, ok_bind]

theorem initiatorVerifyAuth_of_verified {P : Primitives} {sa : CompletedSaInit} {response inner : Bytes}
    {first : PayloadType} {cfg : AuthConfig} {got : AuthPayloads} {peerId : Identification} {peerChildSpi : UInt32}
    (opened : openEncryptedGcm P response sa.keys.skEr = .ok (first, inner))
    (read : parseAuthInner first inner = .ok got)
    (verified : verifyPeerAuth P cfg got (responderSignedOctets P sa.respMessage sa.ni sa.keys.skPr got.idBody) = .ok ())
    (parsed : Identification.parse got.idBody = .ok peerId) (hasSpi : got.childSpi = some peerChildSpi) :
    initiatorVerifyAuth P sa response cfg = .ok (peerId, peerChildSpi, got.assignedIp4) := by
  rw [initiatorVerifyAuth, opened, ok_bind]
  dsimp only
  rw [read, ok_bind, verified, ok_bind, hasSpi, okOr_some, ok_bind, parsed, ok_bind]

/-- The AUTH of an end, as the other end expects it. -/
def initiatorAuth (P : Primitives) (sa : CompletedSaInit) (psk : Bytes) (id : Identification) : Authentication :=
  pskAuthPayload P psk (initiatorSignedOctets P sa.initMessage sa.nr sa.keys.skPi id.toBytes)

def responderAuth (P : Primitives) (sa : CompletedSaInit) (psk : Bytes) (id : Identification) : Authentication :=
  pskAuthPayload P psk (responderSignedOctets P sa.respMessage sa.ni sa.keys.skPr id.toBytes)

def pskRequestChain (P : Primitives) (sa : CompletedSaInit) (psk : Bytes) (id : Identification) (childSpi : UInt32) :
    List Payload :=
  initiatorAuthChain P (.psk id psk) (initiatorAuth P sa psk id) [] childSpi

def pskAnswerChain (P : Primitives) (sa : CompletedSaInit) (psk : Bytes) (id : Identification) (childSpi : UInt32)
    (assigned : Option AssignedConfig) : List Payload :=
  responderAuthChain (.psk id psk) (responderAuth P sa psk id) [] childSpi assigned

/-- Two honest ends that share a PSK complete `IKE_AUTH`, each with the identity, the SPI
and the address that the other put in, and with CHILD SAs that mirror each other. -/
theorem ikeAuth_complete (P : Primitives) (correct : P.GcmCorrect) (seals : P.GcmSeals)
    (initSa respSa : CompletedSaInit) (matching : Matching initSa respSa) (psk : Bytes) (idI idR : Identification)
    (ivI ivR : Iv) (childI childR : UInt32) (assigned : Option AssignedConfig)
    (requestFits : skPayloadLen (encodePayloadChain (pskRequestChain P initSa psk idI childI)) < 65536)
    (answerFits : skPayloadLen (encodePayloadChain (pskAnswerChain P respSa psk idR childR assigned)) < 65536) :
    ∃ request response,
      initiatorAuthRequest P initSa (.psk idI psk) childI ivI = .ok request ∧
      responderProcessAuth P respSa request (.psk idR psk) childR ivR assigned = .ok (response, idI, childI) ∧
      initiatorVerifyAuth P initSa response (.psk idI psk) = .ok (idR, childR, assigned.map AssignedConfig.ip) ∧
      World.Mirrored (.derive P respSa.keys.skD respSa.ni respSa.nr .responder childR childI)
        (.derive P initSa.keys.skD initSa.ni initSa.nr .initiator childI childR) := by
  have respEr : respSa.keys.skEr.length = 36 := by
    rw [matching.keys]
    exact matching.sizeEr
  obtain ⟨request, requested⟩ := exists_buildEncryptedGcm seals (ikeAuthHeader initSa false)
    (firstPayloadType (pskRequestChain P initSa psk idI childI)) ivI matching.sizeEi requestFits
  obtain ⟨response, answered⟩ := exists_buildEncryptedGcm seals (ikeAuthHeader respSa true)
    (firstPayloadType (pskAnswerChain P respSa psk idR childR assigned)) ivR respEr answerFits
  refine ⟨request, response, requested, ?_, ?_, ?_⟩
  · have opened := openEncryptedGcm_built correct requestFits requested
    rw [← matching.keys] at opened
    have read := parse_initiatorAuthChain P idI psk (initiatorAuth P initSa psk idI) childI requestFits
    have verified : verifyPsk P (initiatorAuth P initSa psk idI) psk
        (initiatorSignedOctets P respSa.initMessage respSa.nr respSa.keys.skPi idI.toBytes) = .ok () := by
      rw [matching.initMessage, matching.nr, matching.keys]
      exact verifyPsk_pskAuthPayload P psk _
    exact responderProcessAuth_of_verified opened read verified (Identification.parse_toBytes idI) rfl rfl answered
  · have opened := openEncryptedGcm_built correct answerFits answered
    rw [matching.keys] at opened
    have read := parse_responderAuthChain idR psk (responderAuth P respSa psk idR) childR assigned answerFits
    have verified : verifyPsk P (responderAuth P respSa psk idR) psk
        (responderSignedOctets P initSa.respMessage initSa.ni initSa.keys.skPr idR.toBytes) = .ok () := by
      rw [← matching.respMessage, ← matching.ni, ← matching.keys]
      exact verifyPsk_pskAuthPayload P psk _
    exact initiatorVerifyAuth_of_verified opened read verified (Identification.parse_toBytes idR) rfl
  · rw [matching.keys, matching.ni, matching.nr]
    exact World.mirrored_derive P _ _ _ childR childI

namespace Toy
open Ryke.Toy

theorem matching : Matching initSa respSa := by
  refine ⟨?_, ?_, ?_, ?_, ?_, ?_, ?_, ?_, ?_, ?_, ?_⟩ <;> decide +kernel

def assigned : AssignedConfig := ⟨⟨10, 9, 0, 2⟩, [⟨10, 9, 0, 1⟩]⟩

end Toy

theorem ikeAuth_complete_assigned :
    ∃ request response,
      initiatorAuthRequest Ryke.Toy.toyMac Toy.initSa (.psk Toy.alice Toy.psk) 5 (.ofU64 1) = .ok request ∧
      responderProcessAuth Ryke.Toy.toyMac Toy.respSa request (.psk Toy.bob Toy.psk) 7 (.ofU64 2) (some Toy.assigned) =
        .ok (response, Toy.alice, 5) ∧
      initiatorVerifyAuth Ryke.Toy.toyMac Toy.initSa response (.psk Toy.alice Toy.psk) =
        .ok (Toy.bob, 7, some ⟨10, 9, 0, 2⟩) := by
  obtain ⟨request, response, requested, accepted, verified, -⟩ := ikeAuth_complete Ryke.Toy.toyMac
    Ryke.Toy.toyMac_gcmCorrect Ryke.Toy.toyMac_gcmSeals Toy.initSa Toy.respSa Toy.matching Toy.psk Toy.alice Toy.bob
    (.ofU64 1) (.ofU64 2) 5 7 (some Toy.assigned) (by decide +kernel) (by decide +kernel)
  exact ⟨request, response, requested, accepted, verified⟩

end Ryke.Ikev2
