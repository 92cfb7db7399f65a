import Ryke.Ikev2.AuthComplete
import Ryke.Ikev2.EapFinality

/-! What each message of an honest EAP exchange does at the end that receives it: the
answer that goes back, the payloads the other end reads in it, and the state it leaves. -/

namespace Ryke.Ikev2
open Lib Crypto

/-! ## Messages that cross -/

namespace Matching

variable {initSa respSa : CompletedSaInit}

theorem facing (matching : Matching initSa respSa) : Facing initSa respSa where
  skEi := congrArg SessionKeys.skEi matching.keys
  skEr := congrArg SessionKeys.skEr matching.keys
  sizeEi := matching.sizeEi
  sizeEr := matching.sizeEr
  spiI := matching.spiI
  spiR := matching.spiR
  roles := by
    rw [matching.initiator, matching.responder]
    decide

theorem facing_back (matching : Matching initSa respSa) : Facing respSa initSa where
  skEi := matching.facing.skEi.symm
  skEr := matching.facing.skEr.symm
  sizeEi := by
    rw [matching.facing.skEi]
    exact matching.sizeEi
  sizeEr := by
    rw [matching.facing.skEr]
    exact matching.sizeEr
  spiI := matching.spiI.symm
  spiR := matching.spiR.symm
  roles := matching.facing.roles.symm

end Matching

/-- A message of these payloads is built, and the other end reads them and its number. -/
theorem exists_buildSk {P : Primitives} (correct : P.GcmCorrect) (seals : P.GcmSeals) {sa peer : CompletedSaInit}
    (facing : Facing sa peer) {chain : List Payload} (proper : ∀ kind ∈ chain.map Prod.fst, kind.Proper)
    (small : skPayloadLen (encodePayloadChain chain) < 65536) (msgId : UInt32) (isResponse : Bool) (iv : Iv) :
    ∃ message, buildSk P sa msgId isResponse chain iv = .ok message ∧ decrypt P peer message = .ok (msgId, chain) := by
  have fits := fits_of_small proper small
  obtain ⟨message, built⟩ := exists_buildEncryptedGcm seals ⟨sa.spiI, sa.spiR, .noNext, 2, 0, .ikeAuth,
    ⟨sa.role == .initiator, false, isResponse⟩, msgId, 0⟩ (firstPayloadType chain) iv facing.ourSkE_length small
  obtain ⟨length, parsed⟩ :=
    parse_buildEncryptedGcm (show (2 : UInt8) < 16 by decide) (show (0 : UInt8) < 16 by decide) rfl built
  have opened := openEncryptedGcm_built correct small built
  refine ⟨message, built, ?_⟩
  rw [decrypt, parsed, ok_bind, facing.peerSkE_eq, opened, ok_bind, fromU8_firstPayloadType fits]
  dsimp only
  rw [forPayloads_collect fits, ok_bind]

theorem exists_replyWith {ε : Type} [Entropy ε] {P : Primitives} (correct : P.GcmCorrect) (seals : P.GcmSeals)
    {sa peer : CompletedSaInit} (facing : Facing sa peer) {chain : List Payload}
    (proper : ∀ kind ∈ chain.map Prod.fst, kind.Proper) (small : skPayloadLen (encodePayloadChain chain) < 65536)
    (msgId : UInt32) (isResponse : Bool) (event : Bytes → EapEvent) (entropy : ε) :
    ∃ message, replyWith P sa msgId isResponse chain event entropy = (.ok (event message), (Iv.draw entropy).2) ∧
      decrypt P peer message = .ok (msgId, chain) := by
  obtain ⟨message, built, read⟩ := exists_buildSk correct seals facing proper small msgId isResponse (Iv.draw entropy).1
  refine ⟨message, ?_, read⟩
  rw [replyWith]
  dsimp only
  rw [built]
  rfl

theorem find_append (front back : List Payload) (want : PayloadType) :
    find (front ++ back) want = (find front want).or (find back want) := by
  rw [find, List.find?_append, Option.map_or]
  rfl

theorem find_single (kind : PayloadType) (body : Bytes) : find [(kind, body)] kind = some body := by
  simp [find]

theorem find_single_other {kind want : PayloadType} (differs : (kind == want) = false) (body : Bytes) :
    find [(kind, body)] want = none := by
  simp [find, differs]

theorem find_none {chain : List Payload} {want : PayloadType} (absent : ∀ kind ∈ chain.map Prod.fst, kind ≠ want) :
    find chain want = none := by
  rw [find, Option.map_eq_none_iff, List.find?_eq_none]
  intro payload member same
  exact absent payload.1 (List.mem_map_of_mem member) (beq_iff_eq.mp same)

theorem skPayloadLen_single (kind : PayloadType) (body : Bytes) :
    skPayloadLen (encodePayloadChain [(kind, body)]) = body.length + 33 := by
  rw [skPayloadLen, encodePayloadChain_length]
  simp only [List.map_cons, List.map_nil, List.sum_cons, List.sum_nil, ivLen, icvLen]
  omega

theorem EapPacket.toBytes_length (packet : EapPacket) : packet.toBytes.length = 4 + packet.data.length := by
  simp only [EapPacket.toBytes, List.length_append, List.length_cons, List.length_nil, u16Bytes_length]

theorem EapPacket.mschap_head {packet : EapPacket} {opCode mschapId : UInt8} {body : Bytes}
    (carries : packet.data = eap.mschapMessage opCode mschapId body) :
    packet.eapType = some eap.eap_type.mschapv2 ∧ packet.data[1]? = some opCode := by
  rw [EapPacket.eapType, carries]
  exact ⟨rfl, rfl⟩

theorem EapPacket.not_identity_of_mschap {packet : EapPacket} (kind : packet.eapType = some eap.eap_type.mschapv2) :
    ¬ packet.eapType = some eap.eap_type.identity := by
  rw [kind]
  decide

theorem exists_eapReply {ε : Type} [Entropy ε] {P : Primitives} (correct : P.GcmCorrect) (seals : P.GcmSeals)
    {sa peer : CompletedSaInit} (facing : Facing sa peer) (packet : EapPacket)
    (small : packet.data.length + 37 < 65536) (msgId : UInt32) (isResponse : Bool) (entropy : ε) :
    ∃ message, replyWith P sa msgId isResponse [(.eap, packet.toBytes)] .reply entropy =
        (.ok (.reply message), (Iv.draw entropy).2) ∧
      decrypt P peer message = .ok (msgId, [(.eap, packet.toBytes)]) := by
  have proper : ∀ kind ∈ [(PayloadType.eap, packet.toBytes)].map Prod.fst, kind.Proper := by
    change ∀ kind ∈ [PayloadType.eap], kind.Proper
    decide
  apply exists_replyWith correct seals facing proper
  rw [skPayloadLen_single, EapPacket.toBytes_length]
  omega

theorem pskAuthPayload_length (P : Primitives) (psk octets : Bytes) :
    (pskAuthPayload P psk octets).toBytes.length = 36 := by
  rw [Authentication.toBytes, List.length_append]
  simp only [pskAuthPayload, pskAuth, prf, P.hmacSha256_length]
  rfl

/-! ## The first message -/

namespace EapInitiator

/-- The payloads of the first message. -/
def openingPayloads (self : EapInitiator) : List Payload :=
  [(.idInitiator, self.id.toBytes), (.securityAssociation, (espOffer self.childSpi).toBytes),
    (.trafficSelectorInitiator, fullTunnelTs), (.trafficSelectorResponder, fullTunnelTs)] ++
    if self.sendCertreq then [(.certRequest, (CertRequest.x509 [List.replicate 20 0]).toBytes)] else []

theorem find_openingPayloads (self : EapInitiator) :
    find self.openingPayloads .eap = none ∧ find self.openingPayloads .authentication = none ∧
      find self.openingPayloads .securityAssociation = some (espOffer self.childSpi).toBytes ∧
      find self.openingPayloads .idInitiator = some self.id.toBytes := by
  unfold openingPayloads
  cases self.sendCertreq with
  | false => exact ⟨rfl, rfl, rfl, rfl⟩
  | true => exact ⟨rfl, rfl, rfl, rfl⟩

theorem proper_openingPayloads (self : EapInitiator) :
    ∀ kind ∈ self.openingPayloads.map Prod.fst, kind.Proper := by
  unfold openingPayloads
  cases self.sendCertreq with
  | false =>
    change ∀ kind ∈ [PayloadType.idInitiator, .securityAssociation, .trafficSelectorInitiator,
      .trafficSelectorResponder], kind.Proper
    decide
  | true =>
    change ∀ kind ∈ [PayloadType.idInitiator, .securityAssociation, .trafficSelectorInitiator,
      .trafficSelectorResponder, .certRequest], kind.Proper
    decide

theorem start_eq {ε : Type} [Entropy ε] (P : Primitives) (self : EapInitiator) (role : self.sa.role = .initiator)
    (entropy : ε) : self.start P entropy =
      (buildSk P self.sa 1 false self.openingPayloads (Iv.draw entropy).1, (Iv.draw entropy).2) := by
  rw [buildSk, ourSkE, role]
  rfl

end EapInitiator

/-! ## The responder's five answers -/

namespace EapResponder

variable {ε : Type} [Entropy ε] {P : Primitives} (correct : P.GcmCorrect) (seals : P.GcmSeals)
  {self : EapResponder} {peer : CompletedSaInit} (facing : Facing self.sa peer) {message : Bytes} {msgId : UInt32}

def ownOctets (P : Primitives) (self : EapResponder) : Bytes :=
  responderSignedOctets P self.sa.respMessage self.sa.ni self.sa.keys.skPr self.id.toBytes

/-- The payloads of the answer to the initiator's first message. -/
def greeting (self : EapResponder) (auth : List Payload) : List Payload :=
  [(.idResponder, self.id.toBytes)] ++ auth ++
    [(.eap, (⟨eap.code.request, self.eapId, [eap.eap_type.identity]⟩ : EapPacket).toBytes)]

theorem ownAuth_kinds {octets : Bytes} {auth : List Payload} (signs : self.ownAuth P octets = .ok auth) :
    (∀ kind ∈ auth.map Prod.fst, kind = .certificate ∨ kind = .authentication) ∧
      (find auth .authentication).isSome = true := by
  unfold ownAuth at signs
  cases own : self.auth with
  | psk secret =>
    rw [own] at signs
    cases signs
    exact ⟨by simp, by simp [find]⟩
  | cert key chain =>
    rw [own] at signs
    obtain ⟨signed, -, signs⟩ := bind_eq_ok signs
    cases signs
    constructor
    · intro kind member
      rw [List.map_append, List.mem_append] at member
      rcases member with isCert | isAuth
      · left
        rw [List.map_map, List.mem_map] at isCert
        obtain ⟨der, -, rfl⟩ := isCert
        rfl
      · right
        exact List.mem_singleton.mp isAuth
    · rw [find_append, find_single, Option.or_some, Option.isSome_some]

theorem proper_greeting {octets : Bytes} {auth : List Payload} (signs : self.ownAuth P octets = .ok auth) :
    ∀ kind ∈ (self.greeting auth).map Prod.fst, kind.Proper := by
  intro kind member
  rw [greeting, List.map_append, List.map_append, List.mem_append, List.mem_append] at member
  rcases member with (isId | inAuth) | isEap
  · rw [List.mem_singleton.mp isId]
    change PayloadType.idResponder.Proper
    decide
  · rcases (ownAuth_kinds signs).1 kind inAuth with rfl | rfl
    · decide
    · decide
  · rw [List.mem_singleton.mp isEap]
    change PayloadType.eap.Proper
    decide

theorem find_greeting {octets : Bytes} {auth : List Payload} (signs : self.ownAuth P octets = .ok auth) :
    find (self.greeting auth) .idResponder = some self.id.toBytes ∧
      (find (self.greeting auth) .authentication).isSome = true ∧
      find (self.greeting auth) .eap =
        some (⟨eap.code.request, self.eapId, [eap.eap_type.identity]⟩ : EapPacket).toBytes := by
  obtain ⟨kinds, hasAuth⟩ := ownAuth_kinds signs
  obtain ⟨own, isOwn⟩ := Option.isSome_iff_exists.mp hasAuth
  have noEap : find auth .eap = none := by
    apply find_none
    intro kind member isEap
    rcases kinds kind member with rfl | rfl
    · cases isEap
    · cases isEap
  refine ⟨rfl, ?_, ?_⟩
  · rw [greeting, find_append, find_append, isOwn]
    rfl
  · rw [greeting, find_append, find_append, noEap, find_single]
    rfl

variable (self)

include correct seals facing in
theorem handle_opening {initiator : EapInitiator} {auth : List Payload}
    (read : decrypt P self.sa message = .ok (msgId, initiator.openingPayloads))
    (signs : self.ownAuth P (self.ownOctets P) = .ok auth)
    (small : skPayloadLen (encodePayloadChain (self.greeting auth)) < 65536) (entropy : ε) :
    ∃ reply, self.handle P message entropy = (.ok (.reply reply),
        { self with peerChildSpi := some initiator.childSpi, peerIdi := initiator.id.toBytes }, (Iv.draw entropy).2) ∧
      decrypt P peer reply = .ok (msgId, self.greeting auth) := by
  obtain ⟨reply, replied, crossed⟩ := exists_replyWith correct seals facing (proper_greeting signs) small msgId true
    .reply entropy
  refine ⟨reply, ?_, crossed⟩
  obtain ⟨noEap, noAuth, offers, names⟩ := initiator.find_openingPayloads
  rw [handle, read]
  dsimp only
  rw [noEap, noAuth]
  dsimp only
  rw [startEap, offers, names]
  dsimp only
  -- the two fields just noted have no part in the server's own AUTH
  have own : ownAuth P { self with peerChildSpi := some initiator.childSpi, peerIdi := initiator.id.toBytes }
      (responderSignedOctets P self.sa.respMessage self.sa.ni self.sa.keys.skPr self.id.toBytes) = .ok auth := signs
  rw [espSpiFromSa_espOffer, Option.getD_some, own]
  dsimp only
  rw [show replyWith P self.sa msgId true ([(PayloadType.idResponder, self.id.toBytes)] ++ auth ++ _) _ entropy = _
    from replied]

theorem handle_eap {packet : EapPacket}
    (read : decrypt P self.sa message = .ok (msgId, [(.eap, packet.toBytes)]))
    (small : 4 + packet.data.length < 65536) (entropy : ε) :
    self.handle P message entropy = self.answer P msgId packet entropy := by
  rw [handle, read]
  dsimp only
  rw [find_single]
  dsimp only
  rw [EapPacket.parse_toBytes small]

include correct seals facing in
theorem handle_identity {packet : EapPacket} {user : Bytes} {password : Text}
    (read : decrypt P self.sa message = .ok (msgId, [(.eap, packet.toBytes)]))
    (claims : packet.data = eap.eap_type.identity :: user) (small : user.length + 92 < 65536)
    (knows : self.users.get user = some password) (entropy : ε) :
    ∃ reply, self.handle P message entropy = (.ok (.reply reply),
        { self with user := user, password := password, eapId := self.eapId + 1,
                    authChallenge := (Entropy.fill entropy 16).1 },
        (Iv.draw (Entropy.fill entropy 16).2).2) ∧
      decrypt P peer reply = .ok (msgId, [(.eap, (⟨eap.code.request, self.eapId + 1,
        eap.buildChallenge 1 (Entropy.fill entropy 16).1 (ascii "ryke")⟩ : EapPacket).toBytes)]) := by
  have size : (eap.buildChallenge 1 (Entropy.fill entropy 16).1 (ascii "ryke")).length = 26 := by
    rw [eap.buildChallenge, eap.mschapMessage_length, List.length_append, List.length_append, Entropy.fill_length]
    rfl
  obtain ⟨reply, replied, crossed⟩ := exists_eapReply correct seals facing ⟨eap.code.request, self.eapId + 1,
    eap.buildChallenge 1 (Entropy.fill entropy 16).1 (ascii "ryke")⟩ (by dsimp only; omega) msgId true
    (Entropy.fill entropy 16).2
  refine ⟨reply, ?_, crossed⟩
  have kind : packet.eapType = some eap.eap_type.identity := by
    rw [EapPacket.eapType, claims]
    rfl
  have named : self.users.get (packet.data.drop 1) = some password := by
    rw [claims]
    exact knows
  have whole : packet.data.drop 1 = user := by
    rw [claims]
    rfl
  rw [handle_eap self read (by rw [claims, List.length_cons]; omega)]
  unfold answer
  dsimp only
  rw [if_pos kind, named]
  dsimp only
  rw [whole, replied]

theorem answer_response {packet : EapPacket} {mschapId : UInt8} {challenge peerChallenge user : Bytes} {password : Text}
    (carries : packet.data = eap.buildResponse P mschapId challenge peerChallenge user password)
    (size : peerChallenge.length = 16) (entropy : ε) :
    self.answer P msgId packet entropy =
      let nt := mschapv2.generateNtResponse P self.authChallenge peerChallenge self.user self.password
      let next := { self with eapId := self.eapId + 1, ntResponse := nt }
      if nt ≠ mschapv2.generateNtResponse P challenge peerChallenge user password then (.ok .failed, next, entropy)
      else
        let success : EapPacket := ⟨eap.code.request, self.eapId + 1, eap.buildSuccess 1
          (mschapv2.generateAuthenticatorResponse P self.password nt peerChallenge self.authChallenge self.user)⟩
        let replied := replyWith P self.sa msgId true [(.eap, success.toBytes)] .reply entropy
        (replied.1, next, replied.2) := by
  have head := EapPacket.mschap_head carries
  have parsed := eap.parseResponse_buildResponse P mschapId challenge size user password
  rw [← carries] at parsed
  unfold answer
  dsimp only
  rw [if_neg (EapPacket.not_identity_of_mschap head.1), if_pos head, parsed]

include correct seals facing in
theorem handle_response {packet : EapPacket} {mschapId : UInt8} {challenge peerChallenge user : Bytes} {password : Text}
    (read : decrypt P self.sa message = .ok (msgId, [(.eap, packet.toBytes)]))
    (carries : packet.data = eap.buildResponse P mschapId challenge peerChallenge user password)
    (small : user.length + 92 < 65536) (size : peerChallenge.length = 16)
    (agrees : mschapv2.generateNtResponse P self.authChallenge peerChallenge self.user self.password =
      mschapv2.generateNtResponse P challenge peerChallenge user password) (entropy : ε) :
    ∃ reply success, self.handle P message entropy = (.ok (.reply reply),
        { self with eapId := self.eapId + 1,
                    ntResponse := mschapv2.generateNtResponse P challenge peerChallenge user password },
        (Iv.draw entropy).2) ∧
      decrypt P peer reply = .ok (msgId, [(.eap, (⟨eap.code.request, self.eapId + 1,
        eap.buildSuccess 1 success⟩ : EapPacket).toBytes)]) ∧ success.length = 42 := by
  have long : packet.data.length = 55 + user.length := by
    rw [carries, eap.buildResponse_length P size]
  let success := mschapv2.generateAuthenticatorResponse P self.password
    (mschapv2.generateNtResponse P challenge peerChallenge user password) peerChallenge self.authChallenge self.user
  have successSize : success.length = 42 := mschapv2.generateAuthenticatorResponse_length P _ _ _ _ _
  obtain ⟨reply, replied, crossed⟩ := exists_eapReply correct seals facing ⟨eap.code.request, self.eapId + 1,
    eap.buildSuccess 1 success⟩ (by
      dsimp only
      rw [eap.buildSuccess, eap.mschapMessage_length]
      omega) msgId true entropy
  refine ⟨reply, success, ?_, crossed, successSize⟩
  rw [handle_eap self read (by omega), answer_response self carries size]
  dsimp only
  rw [agrees, if_neg (not_not.mpr rfl), replied]

theorem handle_response_failed {packet : EapPacket} {mschapId : UInt8} {challenge peerChallenge user : Bytes}
    {password : Text} (read : decrypt P self.sa message = .ok (msgId, [(.eap, packet.toBytes)]))
    (carries : packet.data = eap.buildResponse P mschapId challenge peerChallenge user password)
    (small : user.length + 92 < 65536) (size : peerChallenge.length = 16)
    (differs : mschapv2.generateNtResponse P self.authChallenge peerChallenge self.user self.password ≠
      mschapv2.generateNtResponse P challenge peerChallenge user password) (entropy : ε) :
    (self.handle P message entropy).1 = .ok .failed := by
  have long : packet.data.length = 55 + user.length := by
    rw [carries, eap.buildResponse_length P size]
  rw [handle_eap self read (by omega), answer_response self carries size]
  dsimp only
  rw [if_pos differs]

include correct seals facing in
theorem handle_ack {packet : EapPacket} (read : decrypt P self.sa message = .ok (msgId, [(.eap, packet.toBytes)]))
    (acks : packet.data = [eap.eap_type.mschapv2, eap.op.success]) (entropy : ε) :
    ∃ reply, self.handle P message entropy = (.ok (.reply reply), { self with eapId := self.eapId + 1 },
        (Iv.draw entropy).2) ∧
      decrypt P peer reply =
        .ok (msgId, [(.eap, (⟨eap.code.success, packet.identifier, []⟩ : EapPacket).toBytes)]) := by
  obtain ⟨reply, replied, crossed⟩ := exists_eapReply correct seals facing ⟨eap.code.success, packet.identifier, []⟩
    (show 0 + 37 < 65536 by decide) msgId true entropy
  refine ⟨reply, ?_, crossed⟩
  have kind : packet.eapType = some eap.eap_type.mschapv2 := by
    rw [EapPacket.eapType, acks]
    rfl
  have code : packet.data[1]? = some eap.op.success := by
    rw [acks]
    rfl
  have notResponse : ¬ (packet.eapType = some eap.eap_type.mschapv2 ∧ packet.data[1]? = some eap.op.response) := by
    rintro ⟨-, isResponse⟩
    rw [code] at isResponse
    exact absurd isResponse (by decide)
  rw [handle_eap self read (by rw [acks]; decide)]
  unfold answer
  dsimp only
  rw [if_neg (EapPacket.not_identity_of_mschap kind), if_neg notResponse, if_pos ⟨kind, code⟩, replied]

theorem proper_lastPayloads (P : Primitives) (self : EapResponder) :
    ∀ kind ∈ (self.lastPayloads P).map Prod.fst, kind.Proper := by
  unfold lastPayloads
  cases self.assigned with
  | none =>
    change ∀ kind ∈ [PayloadType.idResponder, .authentication, .securityAssociation, .trafficSelectorInitiator,
      .trafficSelectorResponder, .notify], kind.Proper
    decide
  | some config =>
    change ∀ kind ∈ [PayloadType.idResponder, .authentication, .configuration, .securityAssociation,
      .trafficSelectorInitiator, .trafficSelectorResponder, .notify], kind.Proper
    decide

theorem find_lastPayloads (P : Primitives) (self : EapResponder) :
    find (self.lastPayloads P) .eap = none ∧ find (self.lastPayloads P) .idResponder = some self.id.toBytes ∧
      find (self.lastPayloads P) .authentication = some (pskAuthPayload P (self.msk P) (self.ownOctets P)).toBytes ∧
      find (self.lastPayloads P) .securityAssociation = some (espOffer self.childSpi).toBytes := by
  unfold lastPayloads
  cases self.assigned with
  | none => exact ⟨rfl, rfl, rfl, rfl⟩
  | some config => exact ⟨rfl, rfl, rfl, rfl⟩

include correct seals facing in
theorem handle_last {auth : Authentication}
    (read : decrypt P self.sa message = .ok (msgId, [(.authentication, auth.toBytes)]))
    (keyed : auth.data = pskAuth P (self.msk P)
      (initiatorSignedOctets P self.sa.initMessage self.sa.nr self.sa.keys.skPi self.peerIdi))
    (small : skPayloadLen (encodePayloadChain (self.lastPayloads P)) < 65536) (entropy : ε) :
    ∃ last, self.handle P message entropy = (.ok (.established (some last)), self, (Iv.draw entropy).2) ∧
      decrypt P peer last = .ok (msgId, self.lastPayloads P) := by
  obtain ⟨last, replied, crossed⟩ := exists_replyWith correct seals facing (proper_lastPayloads P self) small msgId true
    (fun message => .established (some message)) entropy
  refine ⟨last, ?_, crossed⟩
  have parsed := Authentication.parse_toBytes auth
  have agreed : self.keyedByMsk P auth.toBytes = true := by
    rw [keyedByMsk, parsed]
    exact beq_iff_eq.mpr keyed
  rw [handle, read]
  dsimp only
  rw [find_single_other rfl, find_single]
  dsimp only
  rw [finish_eq P self msgId parsed, if_pos agreed, replied]

end EapResponder

/-! ## The initiator's answers -/

namespace EapInitiator

variable {ε : Type} [Entropy ε] {P : Primitives} (correct : P.GcmCorrect) (seals : P.GcmSeals)
  (self : EapInitiator) {peer : CompletedSaInit} (facing : Facing self.sa peer) {message : Bytes} {msgId : UInt32}

theorem proceed_of_verified (verified : self.serverVerified = true) (ps : List Payload) (entropy : ε) :
    self.proceed P msgId ps entropy =
      match find ps .eap with
      | none => (self.confirm P ps, self, entropy)
      | some eapBytes =>
          match EapPacket.parse eapBytes with
          | .error error => (.error error, self, entropy)
          | .ok packet => self.answer P msgId packet entropy := by
  unfold proceed
  rw [verified]
  cases self.verify with
  | insecure => rfl
  | trustedCas cas expectedDns nowUnix => rfl

theorem handle_of_verified {ps : List Payload} (verified : self.serverVerified = true)
    (read : decrypt P self.sa message = .ok (msgId, ps)) (entropy : ε) :
    self.handle P message entropy = self.proceed P (msgId + 1) ps entropy := by
  have known : ¬ (¬ self.serverVerified ∧ (find ps .idResponder).isSome ∧ (find ps .authentication).isSome) :=
    fun unverified => unverified.1 verified
  rw [handle, read]
  dsimp only
  rw [if_neg known]

theorem handle_eap {packet : EapPacket} (verified : self.serverVerified = true)
    (read : decrypt P self.sa message = .ok (msgId, [(.eap, packet.toBytes)]))
    (small : 4 + packet.data.length < 65536) (entropy : ε) :
    self.handle P message entropy = self.answer P (msgId + 1) packet entropy := by
  rw [handle_of_verified self verified read, proceed_of_verified self verified, find_single]
  dsimp only
  rw [EapPacket.parse_toBytes small]

include correct seals facing in
theorem answer_identity (n : UInt8) (small : self.user.length + 92 < 65536) (nextId : UInt32) (entropy : ε) :
    ∃ reply, self.answer P nextId ⟨eap.code.request, n, [eap.eap_type.identity]⟩ entropy =
        (.ok (.reply reply), self, (Iv.draw entropy).2) ∧
      decrypt P peer reply = .ok (nextId, [(.eap, (⟨eap.code.response, n,
        eap.eap_type.identity :: self.user⟩ : EapPacket).toBytes)]) := by
  obtain ⟨reply, replied, crossed⟩ := exists_eapReply correct seals facing ⟨eap.code.response, n,
    eap.eap_type.identity :: self.user⟩ (by dsimp only; rw [List.length_cons]; omega) nextId false entropy
  refine ⟨reply, ?_, crossed⟩
  have request : ¬ eap.code.request = eap.code.failure := by decide
  have more : ¬ eap.code.request = eap.code.success := by decide
  have kind : (⟨eap.code.request, n, [eap.eap_type.identity]⟩ : EapPacket).eapType = some eap.eap_type.identity := rfl
  unfold answer
  dsimp only
  rw [if_neg request, if_neg more, if_pos kind, List.singleton_append, replied]

include correct seals facing in
theorem handle_greeting {responder : EapResponder} {octets : Bytes} {auth : List Payload}
    (fresh : self.serverVerified = false) (read : decrypt P self.sa message = .ok (msgId, responder.greeting auth))
    (signs : responder.ownAuth P octets = .ok auth) (verifies : self.verifyServer P (responder.greeting auth) = true)
    (small : self.user.length + 92 < 65536) (entropy : ε) :
    ∃ reply, self.handle P message entropy =
        (.ok (.reply reply), { self with serverVerified := true }, (Iv.draw entropy).2) ∧
      decrypt P peer reply = .ok (msgId + 1, [(.eap, (⟨eap.code.response, responder.eapId,
        eap.eap_type.identity :: self.user⟩ : EapPacket).toBytes)]) := by
  obtain ⟨names, authenticates, asks⟩ := EapResponder.find_greeting signs
  let next : EapInitiator := { self with serverVerified := true }
  obtain ⟨reply, replied, crossed⟩ := answer_identity correct seals next facing responder.eapId small (msgId + 1)
    entropy
  refine ⟨reply, ?_, crossed⟩
  have unverified : ¬ self.serverVerified ∧ (find (responder.greeting auth) .idResponder).isSome ∧
      (find (responder.greeting auth) .authentication).isSome := by
    refine ⟨?_, ?_, authenticates⟩
    · rw [fresh]
      exact Bool.false_ne_true
    · rw [names]
      rfl
  rw [handle, read]
  dsimp only
  rw [if_pos unverified, if_pos verifies]
  change next.proceed P (msgId + 1) (responder.greeting auth) entropy = _
  rw [proceed_of_verified next rfl, asks]
  dsimp only
  have short : 4 + [eap.eap_type.identity].length < 65536 := by decide
  rw [EapPacket.parse_toBytes short]
  exact replied

include correct seals facing in
theorem handle_challenge {n : UInt8} {challenge : Bytes} (verified : self.serverVerified = true)
    (size : challenge.length = 16)
    (read : decrypt P self.sa message = .ok (msgId, [(.eap, (⟨eap.code.request, n,
      eap.buildChallenge 1 challenge (ascii "ryke")⟩ : EapPacket).toBytes)]))
    (small : self.user.length + 92 < 65536) (entropy : ε) :
    let peerChallenge := (Entropy.fill entropy 16).1
    ∃ reply, self.handle P message entropy = (.ok (.reply reply),
        { self with ntResponse :=
            mschapv2.generateNtResponse P challenge peerChallenge self.user self.password },
        (Iv.draw (Entropy.fill entropy 16).2).2) ∧
      decrypt P peer reply = .ok (msgId + 1, [(.eap, (⟨eap.code.response, n, eap.buildResponse P 1 challenge
        peerChallenge self.user self.password⟩ : EapPacket).toBytes)]) := by
  intro peerChallenge
  have peerSize : peerChallenge.length = 16 := Entropy.fill_length entropy 16
  have challengeSize : (eap.buildChallenge 1 challenge (ascii "ryke")).length = 26 := by
    rw [eap.buildChallenge, eap.mschapMessage_length, List.length_append, List.length_append, size]
    rfl
  obtain ⟨reply, replied, crossed⟩ := exists_eapReply correct seals facing ⟨eap.code.response, n, eap.buildResponse P 1
    challenge peerChallenge self.user self.password⟩ (by
      dsimp only
      rw [eap.buildResponse_length P peerSize]
      omega) (msgId + 1) false (Entropy.fill entropy 16).2
  refine ⟨reply, ?_, crossed⟩
  have request : ¬ eap.code.request = eap.code.failure := by decide
  have more : ¬ eap.code.request = eap.code.success := by decide
  rw [handle_eap self verified read (by dsimp only; omega)]
  generalize isPacket : (⟨eap.code.request, n, eap.buildChallenge 1 challenge (ascii "ryke")⟩ : EapPacket) = packet
  have carries : packet.data = eap.buildChallenge 1 challenge (ascii "ryke") := by rw [← isPacket]
  have head := EapPacket.mschap_head carries
  have code : packet.code = eap.code.request := by rw [← isPacket]
  have number : packet.identifier = n := by rw [← isPacket]
  have parsed := eap.parseChallenge_buildChallenge 1 size (ascii "ryke")
  rw [← carries] at parsed
  unfold answer
  dsimp only
  rw [code, if_neg request, if_neg more, if_neg (EapPacket.not_identity_of_mschap head.1), if_pos head, parsed,
    number]
  dsimp only
  rw [show replyWith P self.sa (msgId + 1) false _ _ _ = _ from replied]

include correct seals facing in
theorem handle_success {n : UInt8} {success : Bytes} (verified : self.serverVerified = true)
    (size : success.length = 42)
    (read : decrypt P self.sa message = .ok (msgId, [(.eap, (⟨eap.code.request, n,
      eap.buildSuccess 1 success⟩ : EapPacket).toBytes)])) (entropy : ε) :
    ∃ reply, self.handle P message entropy = (.ok (.reply reply), self, (Iv.draw entropy).2) ∧
      decrypt P peer reply = .ok (msgId + 1, [(.eap, (⟨eap.code.response, n,
        [eap.eap_type.mschapv2, eap.op.success]⟩ : EapPacket).toBytes)]) := by
  have long : (eap.buildSuccess 1 success).length = 47 := by
    rw [eap.buildSuccess, eap.mschapMessage_length, size]
  obtain ⟨reply, replied, crossed⟩ := exists_eapReply correct seals facing ⟨eap.code.response, n,
    [eap.eap_type.mschapv2, eap.op.success]⟩ (show 2 + 37 < 65536 by decide) (msgId + 1) false entropy
  refine ⟨reply, ?_, crossed⟩
  have request : ¬ eap.code.request = eap.code.failure := by decide
  have more : ¬ eap.code.request = eap.code.success := by decide
  rw [handle_eap self verified read (by dsimp only; omega)]
  generalize isPacket : (⟨eap.code.request, n, eap.buildSuccess 1 success⟩ : EapPacket) = packet
  have carries : packet.data = eap.buildSuccess 1 success := by rw [← isPacket]
  have head := EapPacket.mschap_head carries
  have code : packet.code = eap.code.request := by rw [← isPacket]
  have number : packet.identifier = n := by rw [← isPacket]
  have notChallenge : ¬ (packet.eapType = some eap.eap_type.mschapv2 ∧ packet.data[1]? = some eap.op.challenge) := by
    rintro ⟨-, isChallenge⟩
    rw [head.2] at isChallenge
    exact absurd isChallenge (by decide)
  unfold answer
  dsimp only
  rw [code, if_neg request, if_neg more, if_neg (EapPacket.not_identity_of_mschap head.1), if_neg notChallenge,
    if_pos head, number, replied]

def lastAuth (P : Primitives) (self : EapInitiator) : Authentication :=
  pskAuthPayload P (mschapv2.deriveMsk P self.password self.ntResponse)
    (initiatorSignedOctets P self.sa.initMessage self.sa.nr self.sa.keys.skPi self.id.toBytes)

include correct seals facing in
theorem handle_eapSuccess {n : UInt8} (verified : self.serverVerified = true)
    (read : decrypt P self.sa message =
      .ok (msgId, [(.eap, (⟨eap.code.success, n, []⟩ : EapPacket).toBytes)])) (entropy : ε) :
    ∃ reply, self.handle P message entropy = (.ok (.reply reply), self, (Iv.draw entropy).2) ∧
      decrypt P peer reply = .ok (msgId + 1, [(.authentication, (self.lastAuth P).toBytes)]) := by
  have proper : ∀ kind ∈ [(PayloadType.authentication, (self.lastAuth P).toBytes)].map Prod.fst, kind.Proper := by
    change ∀ kind ∈ [PayloadType.authentication], kind.Proper
    decide
  have small : skPayloadLen (encodePayloadChain [(PayloadType.authentication, (self.lastAuth P).toBytes)]) <
      65536 := by
    rw [skPayloadLen_single, lastAuth, pskAuthPayload_length]
    decide
  obtain ⟨reply, replied, crossed⟩ := exists_replyWith correct seals facing proper small (msgId + 1) false .reply entropy
  refine ⟨reply, ?_, crossed⟩
  have done : ¬ eap.code.success = eap.code.failure := by decide
  rw [handle_eap self verified read (show 4 + 0 < 65536 by decide)]
  unfold answer
  dsimp only
  rw [if_neg done, if_pos rfl]
  change ((replyWith P self.sa (msgId + 1) false [(PayloadType.authentication, (self.lastAuth P).toBytes)] .reply
    entropy).1, self, _) = _
  rw [replied]
  rfl

theorem handle_last {responder : EapResponder} (verified : self.serverVerified = true)
    (read : decrypt P self.sa message = .ok (msgId, responder.lastPayloads P))
    (msk : responder.msk P = mschapv2.deriveMsk P self.password self.ntResponse)
    (octets : responder.ownOctets P =
      responderSignedOctets P self.sa.respMessage self.sa.ni self.sa.keys.skPr responder.id.toBytes) (entropy : ε) :
    self.handle P message entropy = (.ok (.established none), self, entropy) := by
  obtain ⟨noEap, names, authenticates, offers⟩ := EapResponder.find_lastPayloads P responder
  rw [handle_of_verified self verified read, proceed_of_verified self verified, noEap]
  dsimp only
  rw [confirm, authenticates, offers, names]
  dsimp only
  rw [Authentication.parse_toBytes, ok_bind, Option.getD_some, ← octets, ← msk, if_pos ⟨rfl, rfl⟩]

end EapInitiator

end Ryke.Ikev2
