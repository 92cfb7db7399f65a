import Ryke.Ikev2.Rekey

/-! Rekeying an IKE SA through `CREATE_CHILD_SA`. The responder takes the initiator's new
SPI from the first proposal of the offer and the suite from the first one it supports. -/

namespace Ryke.Ikev2.IkeRekey
open Lib Crypto Rekey

/-- A KE payload and no traffic selectors: a rekey of the IKE SA, not of a CHILD SA. -/
def isIkeSaRekey (inner : List Payload) : Bool :=
  let hasKe := inner.any fun payload => payload.1 == .keyExchange
  let hasTs := inner.any fun payload =>
    payload.1 == .trafficSelectorInitiator || payload.1 == .trafficSelectorResponder
  hasKe && !hasTs

structure Found where
  sa : Option Bytes := none
  nonce : Option Bytes := none
  ke : Option Bytes := none

def Found.add (found : Found) (payload : RawPayload) : Result Found :=
  match payload.payloadType with
  | .securityAssociation => .ok { found with sa := some payload.data }
  | .nonce => .ok { found with nonce := some payload.data }
  | .keyExchange => .ok { found with ke := some payload.data }
  | _ => .ok found

def readIkeRekey (first : PayloadType) (inner : Bytes) : Result (SecurityAssociation × Bytes × KeyExchange) := do
  let found ← forPayloads (payloads first inner) {} Found.add
  let saBytes ← okOr found.sa (.missingPayload "SA")
  let nonce ← okOr found.nonce (.missingPayload "Nonce")
  let keBytes ← okOr found.ke (.missingPayload "KE")
  let ke ← KeyExchange.parse keBytes
  let sa ← SecurityAssociation.parse saBytes
  .ok (sa, nonce, ke)

def answerProposal (suite : ChosenSuite) (newSpiR : UInt64) : Proposal :=
  { suite.toProposal with protocolId := protocol_id.ike, spi := u64Bytes newSpiR }

/-- `SA(new IKE SPIr), Nr, KEr`. -/
def answerChain (suite : ChosenSuite) (newSpiR : UInt64) (nr ourPublic : Bytes) : List Payload :=
  [(.securityAssociation, (SecurityAssociation.mk [answerProposal suite newSpiR]).toBytes), (.nonce, nr),
    (.keyExchange, (KeyExchange.mk suite.dhId ourPublic).toBytes)]

/-- No rekey of a CHILD SA is taken for a rekey of the IKE SA. -/
theorem isIkeSaRekey_tells (rekeyedSpi newSpi : UInt32) (ni : Bytes) (suite : ChosenSuite) (newSpiR : UInt64)
    (nr ourPublic : Bytes) :
    isIkeSaRekey (Rekey.requestChain rekeyedSpi newSpi ni) = false ∧
      isIkeSaRekey (IkeRekey.answerChain suite newSpiR nr ourPublic) = true :=
  ⟨rfl, rfl⟩

def responderProcessIkeRekey (P : Primitives) (oldSa : CompletedSaInit) (request : Bytes) (newSpiR : UInt64)
    (dhPrivate nr : Bytes) (iv : Iv) : Result (Bytes × CompletedSaInit) := do
  let header ← IkeHeader.parse request
  let (first, inner) ← openEncryptedGcm P request (peerSkE oldSa)
  let (sa, ni, ke) ← readIkeRekey first inner
  let proposal ← okOr sa.proposals.head? .noProposalChosen
  if proposal.spi.length ≠ 8 then .error (.crypto "expected an 8-byte IKE SPI")
  else
    let spiI := u64At proposal.spi 0
    let suite ← okOr (select sa) .noProposalChosen
    let group ← okOr (DhGroup.fromTransformId suite.dhId) .noProposalChosen
    if ke.dhGroup ≠ group.transformId then .error (.dhGroupMismatch group.transformId ke.dhGroup)
    else
      let shared ← group.shared P dhPrivate ke.data
      let innerOut := answerChain suite newSpiR nr (group.public_ P dhPrivate)
      -- still under the keys and the SPIs of the old IKE SA
      let response ← buildEncryptedGcm P (createChildHeader oldSa header.messageId true) (firstPayloadType innerOut)
        (encodePayloadChain innerOut) (ourSkE oldSa) iv
      .ok (response, {
        role := .responder
        spiI := spiI
        spiR := newSpiR
        suite := suite
        keys := deriveRekeySessionKeys P oldSa.keys.skD shared ni nr spiI newSpiR suite.keyLengths
        ni := ni
        nr := nr
        initMessage := []
        respMessage := []
        peerSignatureHashes := oldSa.peerSignatureHashes })

/-- What the one who asked computes from the answer: nonce, public value, SPI and suite are
the answer's, the Diffie-Hellman secret, the nonce and the SPI its own. The repository has
this end in its test only. -/
def initiatorKeys (P : Primitives) (oldSa : CompletedSaInit) (response dhPrivate ni : Bytes) (spiI : UInt64) :
    Result SessionKeys := do
  let (first, inner) ← openEncryptedGcm P response (peerSkE oldSa)
  let (sa, nr, ke) ← readIkeRekey first inner
  let proposal ← okOr sa.proposals.head? .noProposalChosen
  let suite ← okOr (select sa) .noProposalChosen
  let group ← okOr (DhGroup.fromTransformId suite.dhId) .noProposalChosen
  let shared ← group.shared P dhPrivate ke.data
  .ok (deriveRekeySessionKeys P oldSa.keys.skD shared ni nr spiI (u64At proposal.spi 0) suite.keyLengths)

/-! ## What an accepted request was -/

def Asks (P : Primitives) (oldSa : CompletedSaInit) (request : Bytes) (offer : SecurityAssociation) (ni : Bytes)
    (ke : KeyExchange) : Prop :=
  ∃ first inner, openEncryptedGcm P request (peerSkE oldSa) = .ok (first, inner) ∧
    readIkeRekey first inner = .ok (offer, ni, ke)

/-- An accepted request, with the proposal that the SPI is read from and the shared secret. -/
structure Accepted (P : Primitives) (oldSa : CompletedSaInit) (request dhPrivate : Bytes) (offer : SecurityAssociation)
    (ni : Bytes) (ke : KeyExchange) (leading : Proposal) (suite : ChosenSuite) (group : DhGroup) (shared : Bytes) :
    Prop where
  asks : Asks P oldSa request offer ni ke
  leads : offer.proposals.head? = some leading
  size : leading.spi.length = 8
  chosen : select offer = some suite
  known : DhGroup.fromTransformId suite.dhId = some group
  sameGroup : ke.dhGroup = group.transformId
  agreed : group.shared P dhPrivate ke.data = .ok shared

theorem responderProcessIkeRekey_eq_ok {P : Primitives} {oldSa newSa : CompletedSaInit} {request : Bytes}
    {newSpiR : UInt64} {dhPrivate nr response : Bytes} {iv : Iv}
    (accepted : responderProcessIkeRekey P oldSa request newSpiR dhPrivate nr iv = .ok (response, newSa)) :
    ∃ offer ni ke leading group shared messageId,
      Accepted P oldSa request dhPrivate offer ni ke leading newSa.suite group shared ∧
      buildEncryptedGcm P (createChildHeader oldSa messageId true)
        (firstPayloadType (answerChain newSa.suite newSpiR nr (group.public_ P dhPrivate)))
        (encodePayloadChain (answerChain newSa.suite newSpiR nr (group.public_ P dhPrivate))) (ourSkE oldSa) iv =
          .ok response ∧
      newSa.spiI = u64At leading.spi 0 ∧
      newSa.keys = deriveRekeySessionKeys P oldSa.keys.skD shared ni nr (u64At leading.spi 0) newSpiR
        newSa.suite.keyLengths := by
  unfold responderProcessIkeRekey at accepted
  obtain ⟨header, -, accepted⟩ := bind_eq_ok accepted
  obtain ⟨⟨first, inner⟩, opened, accepted⟩ := bind_eq_ok accepted
  obtain ⟨⟨offer, ni, ke⟩, read, accepted⟩ := bind_eq_ok accepted
  obtain ⟨leading, leads, accepted⟩ := bind_eq_ok accepted
  obtain ⟨size, accepted⟩ := guard_eq_ok accepted
  obtain ⟨suite, chosen, accepted⟩ := bind_eq_ok accepted
  obtain ⟨group, known, accepted⟩ := bind_eq_ok accepted
  obtain ⟨same, accepted⟩ := guard_eq_ok accepted
  obtain ⟨shared, agreed, accepted⟩ := bind_eq_ok accepted
  obtain ⟨answer, built, accepted⟩ := bind_eq_ok accepted
  cases accepted
  exact ⟨offer, ni, ke, leading, group, shared, header.messageId,
    ⟨⟨first, inner, opened, read⟩, okOr_eq_ok leads, not_not.mp size, okOr_eq_ok chosen, okOr_eq_ok known,
      not_not.mp same, agreed⟩, built, rfl, rfl⟩

/-! ## Reading the answer -/

theorem select_answerProposal {suite : ChosenSuite} (supported : suite.Supported) (newSpiR : UInt64) :
    select ⟨[answerProposal suite newSpiR]⟩ = some suite := by
  cases supported with
  | gcm num group => cases group <;> rfl
  | cbc num group => cases group <;> rfl

theorem readIkeRekey_answerChain {suite : ChosenSuite} (supported : suite.Supported) {newSpiR : UInt64}
    {nr ourPublic : Bytes}
    (small : skPayloadLen (encodePayloadChain (answerChain suite newSpiR nr ourPublic)) < 65536) :
    readIkeRekey (firstPayloadType (answerChain suite newSpiR nr ourPublic))
        (encodePayloadChain (answerChain suite newSpiR nr ourPublic)) =
      .ok (⟨[answerProposal suite newSpiR]⟩, nr, ⟨suite.dhId, ourPublic⟩) := by
  have fits : ∀ proposal ∈ (SecurityAssociation.mk [answerProposal suite newSpiR]).proposals, proposal.Fits := by
    intro proposal member
    rw [List.mem_singleton.mp member]
    have short : (u64Bytes newSpiR).length < 256 := by
      rw [u64Bytes_length]
      decide
    exact ⟨short, supported.toProposal_fits.2⟩
  rw [readIkeRekey, forPayloads_chain [.securityAssociation, .nonce, .keyExchange] rfl (by decide) small]
  simp only [answerChain, List.foldlM_cons, List.foldlM_nil, Found.add, raw, ok_bind]
  change (do
    let ke ← KeyExchange.parse (KeyExchange.mk suite.dhId ourPublic).toBytes
    let sa ← SecurityAssociation.parse (SecurityAssociation.mk [answerProposal suite newSpiR]).toBytes
    Except.ok (sa, nr, ke)) = _
  rw [KeyExchange.parse_toBytes, ok_bind, SecurityAssociation.parse_toBytes fits, ok_bind]

theorem initiatorKeys_answer {P : Primitives} (correct : P.GcmCorrect) {oldSa peer : CompletedSaInit}
    (facing : Facing peer oldSa) {suite : ChosenSuite} (supported : suite.Supported) {group : DhGroup}
    (known : DhGroup.fromTransformId suite.dhId = some group) {newSpiR : UInt64} {nr ourPublic response : Bytes}
    {messageId : UInt32} {iv : Iv}
    (small : skPayloadLen (encodePayloadChain (answerChain suite newSpiR nr ourPublic)) < 65536)
    (built : buildEncryptedGcm P (createChildHeader oldSa messageId true)
      (firstPayloadType (answerChain suite newSpiR nr ourPublic))
      (encodePayloadChain (answerChain suite newSpiR nr ourPublic)) (ourSkE oldSa) iv = .ok response)
    (dhPrivate ni : Bytes) (spiI : UInt64) :
    initiatorKeys P peer response dhPrivate ni spiI = (do
      let shared ← group.shared P dhPrivate ourPublic
      .ok (deriveRekeySessionKeys P peer.keys.skD shared ni nr spiI newSpiR suite.keyLengths)) := by
  have opened := openEncryptedGcm_built correct small built
  rw [← facing.symm.peerSkE_eq] at opened
  have canonical : PayloadType.fromU8 (firstPayloadType (answerChain suite newSpiR nr ourPublic)).toU8 =
      firstPayloadType (answerChain suite newSpiR nr ourPublic) := rfl
  have spi : u64At (answerProposal suite newSpiR).spi 0 = newSpiR := be64_split newSpiR
  rw [initiatorKeys, opened, ok_bind]
  dsimp only
  rw [canonical, readIkeRekey_answerChain supported small, ok_bind]
  dsimp only
  rw [List.head?_cons, okOr_some, ok_bind, select_answerProposal supported, okOr_some, ok_bind, known, okOr_some,
    ok_bind, spi]

/-! ## One proposal for the SPI and the suite -/

/-- The new SPI of the initiator is that of the proposal the suite was selected from, and
the initiator, with that SPI, computes the responder's keys. -/
structure Consistent (P : Primitives) (peer : CompletedSaInit) (selected : Proposal) (response initDh ni : Bytes)
    (newSa : CompletedSaInit) : Prop where
  echoes : newSa.suite.proposalNum = selected.num
  spi : selected.spi = u64Bytes newSa.spiI
  keys : initiatorKeys P peer response initDh ni (u64At selected.spi 0) = .ok newSa.keys

/-- The first proposal of the offer has the SPI of the selected one. -/
def LeadsWithSpi (offer : SecurityAssociation) (selected : Proposal) : Prop :=
  ∃ leading, offer.proposals.head? = some leading ∧ leading.spi = selected.spi

theorem preferredSuite_proposalNum (proposal : Proposal) : (preferredSuite proposal).proposalNum = proposal.num := by
  unfold preferredSuite
  split <;> rfl

theorem preferredSuite_dhId (proposal : Proposal) :
    (preferredSuite proposal).dhId = (preferredGroup proposal).transformId := by
  unfold preferredSuite
  split <;> rfl

/-- A request that is accepted is answered consistently exactly where its first proposal has
the SPI of the one that is selected, given that the answer fits its payload and that its own
public value is one that the group accepts. -/
theorem ike_rekey_consistent_iff (P : Primitives) (correct : P.GcmCorrect) (commutes : P.X25519Commutes)
    (oldSa peer : CompletedSaInit) (facing : Facing peer oldSa) (sameSkD : peer.keys.skD = oldSa.keys.skD)
    (request : Bytes) (newSpiR : UInt64) (dhPrivate nr : Bytes) (iv : Iv) (response : Bytes) (newSa : CompletedSaInit)
    (accepted : responderProcessIkeRekey P oldSa request newSpiR dhPrivate nr iv = .ok (response, newSa)) :
    ∃ offer ni ke selected, Asks P oldSa request offer ni ke ∧ FirstAcceptable offer selected ∧
      ∀ initDh, ke.data = (preferredGroup selected).public_ P initDh →
        (Consistent P peer selected response initDh ni newSa → LeadsWithSpi offer selected) ∧
        (skPayloadLen (encodePayloadChain (answerChain newSa.suite newSpiR nr
            ((preferredGroup selected).public_ P dhPrivate))) < 65536 →
          (Consistent P peer selected response initDh ni newSa ↔ LeadsWithSpi offer selected ∧
            (preferredGroup selected).validPublic ((preferredGroup selected).public_ P dhPrivate) = true)) := by
  obtain ⟨offer, ni, ke, leading, group, shared, messageId, was, built, spiI, keys⟩ :=
    responderProcessIkeRekey_eq_ok accepted
  obtain ⟨selected, isFirst, own⟩ := (select_eq_some_iff offer newSa.suite).mp was.chosen
  have supported := select_supported was.chosen
  obtain rfl : group = preferredGroup selected := by
    have known := was.known
    rw [own, preferredSuite_dhId, DhGroup.fromTransformId_transformId] at known
    exact (Option.some.inj known).symm
  have leadingSpi : leading.spi = u64Bytes newSa.spiI := by rw [spiI, u64Bytes_u64At was.size]
  refine ⟨offer, ni, ke, selected, was.asks, isFirst, fun initDh ofInitiator => ?_⟩
  have leads : Consistent P peer selected response initDh ni newSa → LeadsWithSpi offer selected := fun consistent =>
    ⟨leading, was.leads, leadingSpi.trans consistent.spi.symm⟩
  refine ⟨leads, fun small => ?_⟩
  have computed := initiatorKeys_answer correct facing supported was.known small built initDh ni
  constructor
  · intro consistent
    have done := consistent.keys
    rw [computed] at done
    obtain ⟨agreed, accepts, -⟩ := bind_eq_ok done
    exact ⟨leads consistent, ((DhGroup.shared_isOk_iff P _ initDh _).mp ⟨agreed, accepts⟩).2⟩
  · rintro ⟨⟨first, isLead, sameSpi⟩, valid⟩
    obtain rfl := Option.some.inj (was.leads.symm.trans isLead)
    obtain ⟨agreed, accepts⟩ := (DhGroup.shared_isOk_iff P (preferredGroup selected) initDh _).mpr
      ⟨DhGroup.public_length P _ dhPrivate, valid⟩
    have theirs := was.agreed
    rw [ofInitiator] at theirs
    have sameSecret : agreed = shared := DhGroup.shared_agree commutes accepts theirs
    refine ⟨?_, sameSpi ▸ leadingSpi, ?_⟩
    · rw [own, preferredSuite_proposalNum]
    · rw [computed, accepts, ok_bind, sameSecret, sameSkD, keys, sameSpi]

theorem Asks.unique {P : Primitives} {oldSa : CompletedSaInit} {request : Bytes} {offer offer' : SecurityAssociation}
    {ni ni' : Bytes} {ke ke' : KeyExchange} (asks : Asks P oldSa request offer ni ke)
    (asks' : Asks P oldSa request offer' ni' ke') : offer = offer' ∧ ni = ni' ∧ ke = ke' := by
  obtain ⟨first, inner, opened, read⟩ := asks
  obtain ⟨first', inner', opened', read'⟩ := asks'
  have same := Except.ok.inj (opened.symm.trans opened')
  cases same
  have fields := Except.ok.inj (read.symm.trans read')
  cases fields
  exact ⟨rfl, rfl, rfl⟩

namespace Toy
open Ryke.Toy Ryke.Ikev2.Toy

def rekeyProposal (num : UInt8) (spi : UInt64) (dhId : UInt16) : Proposal :=
  ⟨num, protocol_id.ike, u64Bytes spi,
    [⟨transform_type.encr, transform_id.aesGcm16, some 256⟩,
      ⟨transform_type.prf, transform_id.prfHmacSha2256, none⟩, ⟨transform_type.dh, dhId, none⟩]⟩

def oneProposal : SecurityAssociation := ⟨[rekeyProposal 1 0x22 31]⟩
def twoProposals : SecurityAssociation := ⟨[rekeyProposal 1 0x11 5, rekeyProposal 2 0x22 31]⟩
def oneSpi : SecurityAssociation := ⟨[rekeyProposal 1 0x22 5, rekeyProposal 2 0x22 31]⟩

def rekeyKe : KeyExchange := ⟨31, DhGroup.x25519.public_ toyMac (lastByte 3)⟩

def rekeyRequest (offer : SecurityAssociation) : Result Bytes :=
  let inner : List Payload := [(.securityAssociation, offer.toBytes), (.nonce, [5, 5]), (.keyExchange, rekeyKe.toBytes)]
  buildEncryptedGcm toyMac (createChildHeader initSa 5 false) (firstPayloadType inner) (encodePayloadChain inner)
    (ourSkE initSa) (.ofU64 1)

def Runs (offer : SecurityAssociation) (suite : ChosenSuite) (spiI : UInt64) : Prop :=
  ∃ request response newSa, rekeyRequest offer = .ok request ∧ Asks toyMac respSa request offer [5, 5] rekeyKe ∧
    responderProcessIkeRekey toyMac respSa request 0x33 (lastByte 9) [6, 6] (.ofU64 2) = .ok (response, newSa) ∧
    newSa.suite = suite ∧ newSa.spiI = spiI

theorem runs_of_eval {offer : SecurityAssociation} {suite : ChosenSuite} {spiI : UInt64}
    (eval : (do
      let request ← rekeyRequest offer
      let (first, inner) ← openEncryptedGcm toyMac request (peerSkE respSa)
      let read ← readIkeRekey first inner
      let (_, newSa) ← responderProcessIkeRekey toyMac respSa request 0x33 (lastByte 9) [6, 6] (.ofU64 2)
      .ok (read, newSa.suite, newSa.spiI)) = (.ok ((offer, [5, 5], rekeyKe), suite, spiI) : Result _)) :
    Runs offer suite spiI := by
  obtain ⟨request, built, eval⟩ := bind_eq_ok eval
  obtain ⟨⟨first, inner⟩, opened, eval⟩ := bind_eq_ok eval
  obtain ⟨read, isRead, eval⟩ := bind_eq_ok eval
  obtain ⟨⟨response, newSa⟩, answered, eval⟩ := bind_eq_ok eval
  have fields := Except.ok.inj eval
  simp only [Prod.mk.injEq] at fields
  rw [fields.1] at isRead
  exact ⟨request, response, newSa, built, ⟨first, inner, opened, isRead⟩, answered, fields.2⟩

theorem firstAcceptable_one : FirstAcceptable oneProposal (rekeyProposal 1 0x22 31) :=
  ⟨[], [], rfl, by decide, fun _ member => absurd member List.not_mem_nil⟩

theorem firstAcceptable_behind {leading : Proposal} (refused : ¬ Acceptable leading) :
    FirstAcceptable ⟨[leading, rekeyProposal 2 0x22 31]⟩ (rekeyProposal 2 0x22 31) := by
  refine ⟨[leading], [], rfl, by decide, fun earlier member => ?_⟩
  rw [List.mem_singleton.mp member]
  exact refused

def RunsConsistently (offer : SecurityAssociation) (selected : Proposal) : Prop :=
  ∃ request response newSa, rekeyRequest offer = .ok request ∧
    responderProcessIkeRekey toyMac respSa request 0x33 (lastByte 9) [6, 6] (.ofU64 2) = .ok (response, newSa) ∧
    Consistent toyMac initSa selected response (lastByte 3) [5, 5] newSa

end Toy

theorem ike_rekey_consistent_one_spi :
    Toy.RunsConsistently Toy.oneProposal (Toy.rekeyProposal 1 0x22 31) ∧
      Toy.RunsConsistently Toy.oneSpi (Toy.rekeyProposal 2 0x22 31) := by
  have consistently : ∀ offer num, Toy.Runs offer (.gcm num 31) 0x22 →
      FirstAcceptable offer (Toy.rekeyProposal num 0x22 31) → LeadsWithSpi offer (Toy.rekeyProposal num 0x22 31) →
      skPayloadLen (encodePayloadChain (answerChain (.gcm num 31) 0x33 [6, 6]
        (DhGroup.x25519.public_ Ryke.Toy.toyMac (Ryke.Toy.lastByte 9)))) < 65536 →
      Toy.RunsConsistently offer (Toy.rekeyProposal num 0x22 31) := by
    rintro offer num ⟨request, response, newSa, built, asks, accepted, suite, -⟩ first leads small
    obtain ⟨offer', ni, ke, selected, asks', isFirst, consistent⟩ := ike_rekey_consistent_iff Ryke.Toy.toyMac
      Ryke.Toy.toyMac_gcmCorrect Ryke.Toy.toy_commutes Ryke.Ikev2.Toy.respSa Ryke.Ikev2.Toy.initSa
      Ryke.Ikev2.Toy.facing (by decide +kernel) request 0x33 (Ryke.Toy.lastByte 9) [6, 6] (.ofU64 2) response newSa
      accepted
    obtain ⟨rfl, rfl, rfl⟩ := asks.unique asks'
    obtain rfl := first.unique isFirst
    have x25519 : preferredGroup (Toy.rekeyProposal num 0x22 31) = .x25519 := rfl
    have exactly := (consistent (Ryke.Toy.lastByte 3) (by rw [x25519]; decide +kernel)).2
    rw [suite, x25519] at exactly
    exact ⟨request, response, newSa, built, accepted, (exactly small).mpr ⟨leads, rfl⟩⟩
  refine ⟨?_, ?_⟩
  · exact consistently _ 1 (Toy.runs_of_eval (by decide +kernel)) Toy.firstAcceptable_one ⟨_, rfl, rfl⟩
      (by decide +kernel)
  · exact consistently _ 2 (Toy.runs_of_eval (by decide +kernel)) (Toy.firstAcceptable_behind (by decide))
      ⟨_, rfl, rfl⟩ (by decide +kernel)

/-- The responder takes the SPI of a proposal that it does not select. -/
theorem ike_rekey_inconsistent_two_proposals :
    ¬ ∀ request response newSa offer ni ke selected initDh,
      responderProcessIkeRekey Ryke.Toy.toyMac Ryke.Ikev2.Toy.respSa request 0x33 (Ryke.Toy.lastByte 9) [6, 6]
        (.ofU64 2) = .ok (response, newSa) →
      Asks Ryke.Toy.toyMac Ryke.Ikev2.Toy.respSa request offer ni ke → FirstAcceptable offer selected →
      ke.data = (preferredGroup selected).public_ Ryke.Toy.toyMac initDh →
      Consistent Ryke.Toy.toyMac Ryke.Ikev2.Toy.initSa selected response initDh ni newSa := by
  intro every
  obtain ⟨request, response, newSa, built, asks, accepted, -, spiI⟩ : Toy.Runs Toy.twoProposals (.gcm 2 31) 0x11 :=
    Toy.runs_of_eval (by decide +kernel)
  have consistent := every request response newSa _ _ _ _ (Ryke.Toy.lastByte 3) accepted asks
    (Toy.firstAcceptable_behind (by decide))
    (by decide +kernel)
  have spi := consistent.spi
  rw [spiI] at spi
  exact absurd spi (by decide)

end Ryke.Ikev2.IkeRekey
