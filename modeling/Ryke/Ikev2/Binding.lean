import Ryke.Ikev2.IkeAuth

/-! What a completed `IKE_AUTH` proves about the `IKE_SA_INIT` before it. The signed
octets and the key seed are bare concatenations; together with the way messages are
read they leave no room to shift bytes between a message and a nonce. -/

namespace Ryke.Ikev2
open Lib Crypto

/-! ## What the peer reads from an AUTH message built here -/

theorem lastOf_append (kind : RawPayload → Bool) (front back : List RawPayload) :
    lastOf kind (front ++ back) = (lastOf kind back).or (lastOf kind front) := by
  rw [lastOf, List.reverse_append, List.find?_append]
  rfl

theorem lastOf_eq_none {kind : RawPayload → Bool} {chain : List RawPayload}
    (absent : ∀ payload ∈ chain, kind payload = false) : lastOf kind chain = none := by
  rw [lastOf, List.find?_eq_none]
  intro payload member
  simp [absent payload (List.mem_reverse.mp member)]

/-- A chain whose last ID, AUTH and SA are the given ones. -/
structure AuthShape (chain : List Payload) (idBody : Bytes) (auth : Authentication) (childSpi : UInt32) :
    Prop where
  proper : ∀ payload ∈ chain, payload.1.Proper
  id : ∃ kind, lastOf isId (chain.map raw) = some (raw (kind, idBody))
  auth : lastOf isAuth (chain.map raw) = some (raw (.authentication, auth.toBytes))
  sa : lastOf isSa (chain.map raw) = some (raw (.securityAssociation, (espOffer childSpi).toBytes))

/-- Payloads that are neither ID, AUTH nor SA. -/
def Neutral (chain : List Payload) : Prop :=
  ∀ payload ∈ chain, payload.1.Proper ∧ isId (raw payload) = false ∧ isAuth (raw payload) = false ∧
    isSa (raw payload) = false

theorem Neutral.lastOf_none {chain : List Payload} (neutral : Neutral chain) {kind : RawPayload → Bool}
    (ofThree : kind = isId ∨ kind = isAuth ∨ kind = isSa) : lastOf kind (chain.map raw) = none := by
  apply lastOf_eq_none
  intro payload member
  obtain ⟨own, inChain, rfl⟩ := List.mem_map.mp member
  obtain ⟨-, notId, notAuth, notSa⟩ := neutral own inChain
  rcases ofThree with rfl | rfl | rfl <;> assumption

theorem AuthShape.of_parts {kind : PayloadType} (isOwnId : kind = .idInitiator ∨ kind = .idResponder)
    (idBody : Bytes) (auth : Authentication) (childSpi : UInt32) {before between after : List Payload}
    (neutralBefore : Neutral before) (neutralBetween : Neutral between) (neutralAfter : Neutral after) :
    AuthShape ([(kind, idBody)] ++ before ++ [(.authentication, auth.toBytes)] ++ between ++
      ((.securityAssociation, (espOffer childSpi).toBytes) :: after)) idBody auth childSpi := by
  have properId : kind.Proper := by rcases isOwnId with rfl | rfl <;> decide
  have idIsId : isId (raw (kind, idBody)) = true := by rcases isOwnId with rfl | rfl <;> rfl
  have idNotAuth : isAuth (raw (kind, idBody)) = false := by rcases isOwnId with rfl | rfl <;> rfl
  have idNotSa : isSa (raw (kind, idBody)) = false := by rcases isOwnId with rfl | rfl <;> rfl
  have properAuth : PayloadType.Proper .authentication := by decide
  have properSa : PayloadType.Proper .securityAssociation := by decide
  have none_of : ∀ {chain : List Payload}, Neutral chain → lastOf isId (chain.map raw) = none ∧
      lastOf isAuth (chain.map raw) = none ∧ lastOf isSa (chain.map raw) = none := fun neutral =>
    ⟨neutral.lastOf_none (.inl rfl), neutral.lastOf_none (.inr (.inl rfl)),
      neutral.lastOf_none (.inr (.inr rfl))⟩
  obtain ⟨beforeId, beforeAuth, beforeSa⟩ := none_of neutralBefore
  obtain ⟨betweenId, betweenAuth, betweenSa⟩ := none_of neutralBetween
  obtain ⟨afterId, afterAuth, afterSa⟩ := none_of neutralAfter
  have single : ∀ kind payload, lastOf kind [payload] = if kind payload then some payload else none :=
    fun kind payload => lastOf_cons kind payload []
  refine ⟨?_, ⟨kind, ?_⟩, ?_, ?_⟩
  · intro payload member
    simp only [List.mem_append, List.mem_cons, List.not_mem_nil, or_false] at member
    rcases member with (((rfl | inBefore) | rfl) | inBetween) | rfl | inAfter
    · exact properId
    · exact (neutralBefore payload inBefore).1
    · exact properAuth
    · exact (neutralBetween payload inBetween).1
    · exact properSa
    · exact (neutralAfter payload inAfter).1
  · simp only [List.map_append, List.map_cons, List.map_nil, lastOf_append, lastOf_cons, single, beforeId,
      betweenId, afterId, idIsId]
    rfl
  · simp only [List.map_append, List.map_cons, List.map_nil, lastOf_append, lastOf_cons, single, beforeAuth,
      betweenAuth, afterAuth, idNotAuth]
    rfl
  · simp only [List.map_append, List.map_cons, List.map_nil, lastOf_append, lastOf_cons, single, beforeSa,
      betweenSa, afterSa, idNotSa]
    rfl

theorem espSpiFromSa_espOffer (childSpi : UInt32) :
    espSpiFromSa (espOffer childSpi).toBytes = some childSpi := by
  have form : (espOffer childSpi).toBytes = [0, 0] ++ u16Bytes 32 ++ [1, 3, 4, 2] ++ (u32Bytes childSpi ++
      (writeTransforms [⟨transform_type.encr, transform_id.aesGcm16, some 256⟩,
        ⟨transform_type.esn, transform_id.esnNone, none⟩]).flatten) := rfl
  have spi : u32At (espOffer childSpi).toBytes 8 = childSpi := by
    rw [form]
    simp only [u32Bytes, u16Bytes, u32At, List.cons_append, List.nil_append, byteAt_cons_zero,
      byteAt_cons_succ, be32_split]
  have enough : (espOffer childSpi).toBytes.length ≥ 12 ∧ byteAt (espOffer childSpi).toBytes 6 = 4 := by
    rw [form]
    exact ⟨by simp; omega, rfl⟩
  rw [espSpiFromSa, if_pos enough, spi]

theorem AuthShape.read {P : Primitives} {chain : List Payload} {idBody : Bytes} {auth : Authentication}
    {childSpi : UInt32} (shape : AuthShape chain idBody auth childSpi) {header : IkeHeader}
    {skE skE' message inner : Bytes} {iv : Iv} {first : PayloadType} {got : AuthPayloads}
    (ideal : P.GcmIdeal [sealedText message])
    (built : buildEncryptedGcm P header (firstPayloadType chain) (encodePayloadChain chain) skE iv =
      .ok message)
    (opened : openEncryptedGcm P message skE' = .ok (first, inner))
    (read : parseAuthInner first inner = .ok got) :
    skE' = skE ∧ skE.length = 36 ∧ got.idBody = idBody ∧ got.auth = auth ∧ got.childSpi = some childSpi := by
  obtain ⟨sameKey, size, rfl, rfl, small⟩ := open_buildEncryptedGcm ideal built opened
  have fits : ∀ payload ∈ chain, Fits payload := by
    intro payload member
    have inside := length_le_encodePayloadChain member
    simp only [skPayloadLen, ivLen, icvLen] at small
    exact ⟨shape.proper payload member, by omega⟩
  have walk := payloads_encodePayloadChain fits []
  rw [List.append_nil] at walk
  rw [fromU8_firstPayloadType fits] at read
  obtain ⟨list, id, authPayload, items, isLastId, idFrom, isLastAuth, authFrom, spiFrom⟩ :=
    parseAuthInner_eq_ok read
  have same : list = chain.map raw := by
    have mapped : (chain.map raw).map Except.ok = list.map (Except.ok : RawPayload → Result RawPayload) := by
      rw [List.map_map, ← items, walk]
      rfl
    exact (List.map_injective_iff.mpr (fun _ _ same => Except.ok.inj same) mapped).symm
  subst same
  obtain ⟨kind, ownId⟩ := shape.id
  rw [ownId] at isLastId
  rw [shape.auth] at isLastAuth
  rw [shape.sa] at spiFrom
  cases isLastId
  cases isLastAuth
  refine ⟨sameKey, size, idFrom, ?_, spiFrom.trans (espSpiFromSa_espOffer childSpi)⟩
  exact (Except.ok.inj ((Authentication.parse_toBytes auth).symm.trans authFrom)).symm

theorem buildLocalAuth_neutral {P : Primitives} {cfg : AuthConfig} {sa : CompletedSaInit} {octets : Bytes}
    {auth : Authentication} {certs : List Payload}
    (built : buildLocalAuth P cfg sa octets = .ok (auth, certs)) : Neutral certs := by
  unfold buildLocalAuth at built
  split at built
  next =>
    cases built
    exact fun _ member => absurd member List.not_mem_nil
  next =>
    obtain ⟨_, _, built⟩ := bind_eq_ok built
    cases built
    intro payload member
    obtain ⟨der, -, rfl⟩ := List.mem_map.mp member
    exact ⟨(by decide : PayloadType.Proper .certificate), rfl, rfl, rfl⟩

theorem initiatorAuthChain_shape {P : Primitives} {cfg : AuthConfig} {auth : Authentication}
    {certs : List Payload} (neutral : Neutral certs) (childSpi : UInt32) :
    AuthShape (initiatorAuthChain P cfg auth certs childSpi) cfg.id.toBytes auth childSpi := by
  have requests : Neutral (certRequestPayloads P cfg) := by
    unfold certRequestPayloads
    split
    next => exact fun _ member => absurd member List.not_mem_nil
    next =>
      intro payload member
      rw [List.mem_singleton] at member
      subst member
      exact ⟨(by decide : PayloadType.Proper .certRequest), rfl, rfl, rfl⟩
  have selectors : Neutral [(.trafficSelectorInitiator, fullTunnelTs),
      (.trafficSelectorResponder, fullTunnelTs)] := by
    unfold Neutral
    decide
  have before : Neutral (certs ++ certRequestPayloads P cfg) := fun payload member =>
    (List.mem_append.mp member).elim (neutral payload) (requests payload)
  have none_between : Neutral [] := fun _ member => absurd member List.not_mem_nil
  have shape := AuthShape.of_parts (.inl rfl) cfg.id.toBytes auth childSpi before none_between selectors
  rw [List.append_nil] at shape
  simpa only [initiatorAuthChain, List.append_assoc, List.cons_append, List.nil_append] using shape

theorem responderAuthChain_shape {cfg : AuthConfig} {auth : Authentication} {certs : List Payload}
    (neutral : Neutral certs) (childSpi : UInt32) (assigned : Option AssignedConfig) :
    AuthShape (responderAuthChain cfg auth certs childSpi assigned) cfg.id.toBytes auth childSpi := by
  have between : Neutral (assignedPayloads assigned).1 := by
    unfold assignedPayloads
    split
    next =>
      intro payload member
      rw [List.mem_singleton] at member
      subst member
      exact ⟨(by decide : PayloadType.Proper .configuration), rfl, rfl, rfl⟩
    next => exact fun _ member => absurd member List.not_mem_nil
  have after : Neutral [(.trafficSelectorInitiator, (assignedPayloads assigned).2),
      (.trafficSelectorResponder, fullTunnelTs), (.notify, mobikeSupported.toBytes)] := by
    intro payload member
    simp only [List.mem_cons, List.not_mem_nil, or_false] at member
    rcases member with rfl | rfl | rfl
    · exact ⟨(by decide : PayloadType.Proper .trafficSelectorInitiator), rfl, rfl, rfl⟩
    · exact ⟨(by decide : PayloadType.Proper .trafficSelectorResponder), rfl, rfl, rfl⟩
    · exact ⟨(by decide : PayloadType.Proper .notify), rfl, rfl, rfl⟩
  exact .of_parts (.inr rfl) cfg.id.toBytes auth childSpi neutral between after

/-! ## Equal keys come from equal inputs -/

def keyQueries (P : Primitives) (sharedSecret ni nr : Bytes) (spiI spiR : UInt64) (lengths : KeyLengths) :
    List (Bytes × Bytes) :=
  let key := skeyseed P sharedSecret ni nr
  let total := 3 * lengths.prf + 2 * lengths.integ + 2 * lengths.encr
  (ni ++ nr, sharedSecret) ::
    (List.range ((total + 31) / 32)).map fun n => (key, blockInput P key (keySeed ni nr spiI spiR) n)

theorem keySeed_injective {ni nr ni' nr' : Bytes} {spiI spiR spiI' spiR' : UInt64}
    (nonces : ni ++ nr = ni' ++ nr') (same : keySeed ni nr spiI spiR = keySeed ni' nr' spiI' spiR') :
    spiI = spiI' ∧ spiR = spiR' := by
  unfold keySeed at same
  obtain ⟨front, last⟩ := List.append_inj' same rfl
  rw [nonces] at front
  exact ⟨u64Bytes_injective (List.append_cancel_left front), u64Bytes_injective last⟩

theorem same_schedule {P : Primitives} {queries : List (Bytes × Bytes)} (noCollision : P.NoCollision queries)
    {shared ni nr shared' ni' nr' : Bytes} {spiI spiR spiI' spiR' : UInt64}
    (left : ∀ query ∈ keyQueries P shared ni nr spiI spiR ⟨32, 0, 36⟩, query ∈ queries)
    (right : ∀ query ∈ keyQueries P shared' ni' nr' spiI' spiR' ⟨32, 0, 36⟩, query ∈ queries)
    (same : (deriveSessionKeys P shared ni nr spiI spiR ⟨32, 0, 36⟩).skEi =
      (deriveSessionKeys P shared' ni' nr' spiI' spiR' ⟨32, 0, 36⟩).skEi) :
    shared = shared' ∧ ni ++ nr = ni' ++ nr' ∧ spiI = spiI' ∧ spiR = spiR' := by
  have blocks := congrArg (List.take 32) same
  rw [skEi_take_gcm, skEi_take_gcm] at blocks
  have second := noCollision _ (left _ (List.mem_cons_of_mem _ (List.mem_map_of_mem (by decide : 1 ∈ List.range 6))))
    _ (right _ (List.mem_cons_of_mem _ (List.mem_map_of_mem (by decide : 1 ∈ List.range 6)))) blocks
  obtain ⟨sameSeed, sameInput⟩ := Prod.mk.inj second
  have first := noCollision _ (left _ List.mem_cons_self) _ (right _ List.mem_cons_self) sameSeed
  obtain ⟨nonces, secrets⟩ := Prod.mk.inj first
  have seeds : keySeed ni nr spiI spiR = keySeed ni' nr' spiI' spiR' := by
    simp only [blockInput] at sameInput
    obtain ⟨front, -⟩ := List.append_inj' sameInput rfl
    exact (List.append_inj front (by rw [prf_length, prf_length])).2
  exact ⟨secrets, nonces, keySeed_injective nonces seeds⟩

/-! ## Equal AUTH values come from equal octets -/

def authQueries (P : Primitives) (psk skP idBody octets : Bytes) : List (Bytes × Bytes) :=
  [(skP, idBody), (psk, keyPad), (prf P psk keyPad, octets)]

theorem foldl_or_eq_zero {pairs : List (UInt8 × UInt8)} {start : UInt8}
    (zero : pairs.foldl (fun diff (x, y) => diff ||| (x ^^^ y)) start = 0) :
    start = 0 ∧ ∀ pair ∈ pairs, pair.1 = pair.2 := by
  induction pairs generalizing start with
  | nil => exact ⟨zero, fun _ member => absurd member List.not_mem_nil⟩
  | cons pair rest ih =>
    obtain ⟨here, others⟩ := ih zero
    obtain ⟨startZero, same⟩ := UInt8.or_eq_zero_iff.mp here
    refine ⟨startZero, fun other member => ?_⟩
    rcases List.mem_cons.mp member with rfl | inRest
    · exact UInt8.xor_eq_zero_iff.mp same
    · exact others other inRest

theorem eq_of_ctEq {a b : Bytes} (equal : ctEq a b = true) : a = b := by
  unfold ctEq at equal
  split at equal
  next => cases equal
  next lengths =>
    have each := (foldl_or_eq_zero (by simpa using equal)).2
    apply List.ext_getElem (not_not.mp lengths)
    intro i inA inB
    have member : (a[i], b[i]) ∈ a.zip b := by
      rw [List.mem_iff_getElem]
      exact ⟨i, by simp [inA, inB], by simp⟩
    exact each _ member

theorem verifyPsk_eq_ok {P : Primitives} {auth : Authentication} {psk octets : Bytes}
    (verified : verifyPsk P auth psk octets = .ok ()) : auth.data = pskAuth P psk octets := by
  unfold verifyPsk at verified
  split at verified
  next equal => exact eq_of_ctEq equal.2
  next => cases verified

theorem same_octets {P : Primitives} {queries : List (Bytes × Bytes)} (noCollision : P.NoCollision queries)
    {psk psk' message nonce skP idBody message' nonce' skP' idBody' : Bytes}
    (left : ∀ query ∈ authQueries P psk skP idBody (signedOctets P message nonce skP idBody), query ∈ queries)
    (right : ∀ query ∈ authQueries P psk' skP' idBody' (signedOctets P message' nonce' skP' idBody'),
      query ∈ queries)
    (same : pskAuth P psk (signedOctets P message nonce skP idBody) =
      pskAuth P psk' (signedOctets P message' nonce' skP' idBody')) :
    message ++ nonce = message' ++ nonce' := by
  have equal := noCollision (prf P psk keyPad, signedOctets P message nonce skP idBody)
    (left _ (by simp [authQueries])) (prf P psk' keyPad, signedOctets P message' nonce' skP' idBody')
    (right _ (by simp [authQueries])) same
  have octets := (Prod.mk.inj equal).2
  unfold signedOctets at octets
  exact (List.append_inj' octets (by rw [prf_length, prf_length])).1

/-! ## No shifting between message and nonce -/

/-- The request that a responder read, followed by its nonce, tells the request apart. -/
theorem request_unshifted {P : Primitives} {initiator responder : LocalSecret} {offer : SecurityAssociation}
    (offerFits : OfferFits offer) (nonceFits : NonceFits initiator) {request : Bytes} {header : IkeHeader}
    {payloads : SaInitPayloads} {suite : ChosenSuite} {group : DhGroup} {shared : Bytes}
    (received : Received P responder request header payloads suite group shared) {nr nr' : Bytes}
    (nonces : initiator.nonce ++ nr' = payloads.nonce.data ++ nr)
    (signed : initiatorRequest P initiator offer ++ nr' = request ++ nr) :
    initiatorRequest P initiator offer = request ∧ initiator.nonce = payloads.nonce.data ∧ nr' = nr := by
  rcases List.append_eq_append_iff.mp signed with ⟨extra, longer, nonce⟩ | ⟨extra, shorter, nonce⟩
  · -- the responder read bytes behind the request, which the parser passes over
    obtain ⟨header', parsed, -, -, read⟩ := initiatorRequest_read P offerFits nonceFits extra
    rw [← longer] at parsed read
    obtain ⟨-, rfl⟩ := received.unique parsed read
    have sameNonce := List.append_cancel_left nonces
    have empty : extra = [] := by
      rw [sameNonce] at nonce
      exact List.self_eq_append_left.mp nonce
    subst empty
    exact ⟨by rw [longer, List.append_nil], rfl, sameNonce⟩
  · -- the responder read a front part of the request, which cannot be
    have empty := parseSaInit_cut offerFits (public_small P (offerDhGroup offer) initiator.dhPrivate) nonceFits
      shorter.symm received.parsed received.read
    subst empty
    rw [List.append_nil] at shorter
    obtain ⟨header', parsed, -, -, read⟩ := initiatorRequest_read P offerFits nonceFits []
    rw [List.append_nil, shorter] at parsed read
    obtain ⟨-, rfl⟩ := received.unique parsed read
    exact ⟨shorter, rfl, nonce.symm⟩

def sharedWith (P : Primitives) (secret : LocalSecret) (message : Bytes) : Bytes :=
  let shared : Result Bytes := do
    let header ← IkeHeader.parse message
    let payloads ← parseSaInit header (message.drop IkeHeader.len)
    let suite ← okOr (select payloads.sa) .noProposalChosen
    let group ← okOr (DhGroup.fromTransformId suite.dhId) .noProposalChosen
    group.shared P secret.dhPrivate payloads.ke.data
  shared.toOption.getD []

theorem Received.sharedWith_eq {P : Primitives} {secret : LocalSecret} {message : Bytes} {header : IkeHeader}
    {payloads : SaInitPayloads} {suite : ChosenSuite} {group : DhGroup} {shared : Bytes}
    (received : Received P secret message header payloads suite group shared) :
    sharedWith P secret message = shared := by
  simp only [sharedWith, received.parsed, received.read, received.chosen, received.known, received.agreed,
    okOr_some, ok_bind]
  rfl

def readIdBody (P : Primitives) (message skE : Bytes) : Bytes :=
  let body : Result Bytes := do
    let (first, inner) ← openEncryptedGcm P message skE
    let got ← parseAuthInner first inner
    .ok got.idBody
  body.toOption.getD []

theorem readIdBody_eq {P : Primitives} {message skE inner : Bytes} {first : PayloadType} {got : AuthPayloads}
    (opened : openEncryptedGcm P message skE = .ok (first, inner))
    (read : parseAuthInner first inner = .ok got) : readIdBody P message skE = got.idBody := by
  simp only [readIdBody, opened, read, ok_bind]
  rfl

def endQueries (P : Primitives) (shared : Bytes) (sa : CompletedSaInit) (pskI pskR idI idR : Bytes) :
    List (Bytes × Bytes) :=
  keyQueries P shared sa.ni sa.nr sa.spiI sa.spiR sa.suite.keyLengths ++
    authQueries P pskI sa.keys.skPi idI (initiatorSignedOctets P sa.initMessage sa.nr sa.keys.skPi idI) ++
    authQueries P pskR sa.keys.skPr idR (responderSignedOctets P sa.respMessage sa.ni sa.keys.skPr idR)

theorem gcm_of_skEi {P : Primitives} {shared : Bytes} {sa : CompletedSaInit} (supported : sa.suite.Supported)
    (derived : sa.keys = deriveSessionKeys P shared sa.ni sa.nr sa.spiI sa.spiR sa.suite.keyLengths)
    (size : sa.keys.skEi.length = 36) :
    sa.suite.keyLengths = ⟨32, 0, 36⟩ ∧
      sa.keys = deriveSessionKeys P shared sa.ni sa.nr sa.spiI sa.spiR ⟨32, 0, 36⟩ := by
  have lengths : sa.suite.keyLengths = ⟨32, 0, 36⟩ := by
    apply supported.gcm_of_encr
    rw [← skEi_length P shared sa.ni sa.nr sa.spiI sa.spiR, ← derived]
    exact size
  exact ⟨lengths, derived.trans (by rw [lengths])⟩

theorem same_inputs {P : Primitives} {sharedI sharedR pskI pskR pskI' pskR' idI idR : Bytes}
    {initSa respSa : CompletedSaInit}
    (noCollision : P.NoCollision (endQueries P sharedI initSa pskI pskR idI idR ++
      endQueries P sharedR respSa pskI' pskR' idI idR))
    (lengthsI : initSa.suite.keyLengths = ⟨32, 0, 36⟩) (lengthsR : respSa.suite.keyLengths = ⟨32, 0, 36⟩)
    (sameEi : (deriveSessionKeys P sharedI initSa.ni initSa.nr initSa.spiI initSa.spiR ⟨32, 0, 36⟩).skEi =
      (deriveSessionKeys P sharedR respSa.ni respSa.nr respSa.spiI respSa.spiR ⟨32, 0, 36⟩).skEi)
    (sameAuthI : pskAuth P pskI (initiatorSignedOctets P initSa.initMessage initSa.nr initSa.keys.skPi idI) =
      pskAuth P pskI' (initiatorSignedOctets P respSa.initMessage respSa.nr respSa.keys.skPi idI))
    (sameAuthR : pskAuth P pskR (responderSignedOctets P initSa.respMessage initSa.ni initSa.keys.skPr idR) =
      pskAuth P pskR' (responderSignedOctets P respSa.respMessage respSa.ni respSa.keys.skPr idR)) :
    (sharedI = sharedR ∧ initSa.ni ++ initSa.nr = respSa.ni ++ respSa.nr ∧ initSa.spiI = respSa.spiI ∧
        initSa.spiR = respSa.spiR) ∧
      initSa.initMessage ++ initSa.nr = respSa.initMessage ++ respSa.nr ∧
      initSa.respMessage ++ initSa.ni = respSa.respMessage ++ respSa.ni := by
  unfold endQueries at noCollision
  rw [lengthsI, lengthsR] at noCollision
  refine ⟨same_schedule noCollision ?_ ?_ sameEi, same_octets noCollision ?_ ?_ sameAuthI,
    same_octets noCollision ?_ ?_ sameAuthR⟩
  · exact fun _ member => List.mem_append_left _ (List.mem_append_left _ (List.mem_append_left _ member))
  · exact fun _ member => List.mem_append_right _ (List.mem_append_left _ (List.mem_append_left _ member))
  · exact fun _ member => List.mem_append_left _ (List.mem_append_left _ (List.mem_append_right _ member))
  · exact fun _ member => List.mem_append_right _ (List.mem_append_left _ (List.mem_append_right _ member))
  · exact fun _ member => List.mem_append_left _ (List.mem_append_right _ member)
  · exact fun _ member => List.mem_append_right _ (List.mem_append_right _ member)

/-- Where the nonces and the signed octets of the two ends are one, so are their messages. -/
theorem saInit_unshifted {P : Primitives} {initiator responder : LocalSecret} {offer : SecurityAssociation}
    (offerFits : OfferFits offer) (initiatorFits : NonceFits initiator) (responderFits : NonceFits responder)
    {received response request : Bytes} {initSa respSa : CompletedSaInit}
    (completed : initiatorComplete P initiator (initiatorRequest P initiator offer) received = .ok initSa)
    (answered : Responds P request responder response respSa)
    (nonces : initSa.ni ++ initSa.nr = respSa.ni ++ respSa.nr)
    (signedRequest : initSa.initMessage ++ initSa.nr = respSa.initMessage ++ respSa.nr)
    (signedResponse : initSa.respMessage ++ initSa.ni = respSa.respMessage ++ respSa.ni) :
    initiatorRequest P initiator offer = request ∧ response = received ∧ initSa.suite = respSa.suite ∧
      initSa.ni = respSa.ni ∧ initSa.nr = respSa.nr := by
  obtain ⟨headerI, payloadsI, groupI, sharedI, gotResponse, initForm⟩ := initiatorComplete_eq_ok completed
  obtain ⟨natt, cookie, inner⟩ := answered.inner
  obtain ⟨headerR, payloadsR, groupR, sharedR, gotRequest, sent, respForm⟩ := responderRespondInner_established inner
  have nonceI : initSa.ni = initiator.nonce := by rw [initForm]
  have nonceR : respSa.ni = payloadsR.nonce.data := by rw [respForm]
  rw [nonceI, nonceR] at nonces signedResponse
  rw [show initSa.initMessage = initiatorRequest P initiator offer by rw [initForm],
    show respSa.initMessage = request by rw [respForm]] at signedRequest
  rw [show initSa.respMessage = received by rw [initForm],
    show respSa.respMessage = response by rw [respForm]] at signedResponse
  obtain ⟨sameRequest, sameNi, sameNr⟩ := request_unshifted offerFits initiatorFits gotRequest nonces signedRequest
  rw [sameNi] at signedResponse
  have sameResponse : received = response := List.append_cancel_right signedResponse
  -- the initiator read the response that was sent, so it chose what the responder put in it
  obtain ⟨header, parsed, -, -, readBack⟩ :=
    responderResponse_read P headerR.initiatorSpi gotRequest.supported groupR natt responderFits []
  rw [List.append_nil, ← sent, ← sameResponse] at parsed readBack
  obtain ⟨-, rfl⟩ := gotResponse.unique parsed readBack
  have sameSuite : initSa.suite = respSa.suite :=
    Option.some.inj (gotResponse.chosen.symm.trans (select_toProposal gotRequest.supported))
  exact ⟨sameRequest, sameResponse.symm, sameSuite, by rw [nonceI, nonceR, sameNi], sameNr⟩

/-- A completed PSK `IKE_AUTH` leaves no tampering with `IKE_SA_INIT` undetected. -/
theorem saInit_tampering_evident (P : Primitives) (initiator responder : LocalSecret)
    (offer : SecurityAssociation) (offerFits : OfferFits offer) (initiatorFits : NonceFits initiator)
    (responderFits : NonceFits responder) (received response request : Bytes)
    (initSa respSa : CompletedSaInit)
    (completed : initiatorComplete P initiator (initiatorRequest P initiator offer) received = .ok initSa)
    (answered : Responds P request responder response respSa)
    (idI idR : Identification) (ownI peerI ownR peerR : Bytes) (childI childR : UInt32) (ivI ivR : Iv)
    (assigned : Option AssignedConfig) (authRequest authResponse : Bytes)
    (verifiedI verifiedR : Identification) (spiI spiR : UInt32) (assignedIp : Option Ipv4Addr)
    (requested : initiatorAuthRequest P initSa ⟨idI, .psk ownI, .psk peerI⟩ childI ivI = .ok authRequest)
    (processed : responderProcessAuth P respSa authRequest ⟨idR, .psk ownR, .psk peerR⟩ childR ivR assigned =
      .ok (authResponse, verifiedI, spiI))
    (verified : initiatorVerifyAuth P initSa authResponse ⟨idI, .psk ownI, .psk peerI⟩ =
      .ok (verifiedR, spiR, assignedIp))
    (ideal : P.GcmIdeal [sealedText authRequest, sealedText authResponse])
    (noCollision : P.NoCollision
      (endQueries P (sharedWith P initiator received) initSa ownI peerI idI.toBytes
          (readIdBody P authResponse initSa.keys.skEr) ++
        endQueries P (sharedWith P responder request) respSa peerR ownR
          (readIdBody P authRequest respSa.keys.skEi) idR.toBytes)) :
    initiatorRequest P initiator offer = request ∧ response = received ∧ initSa.suite = respSa.suite ∧
      initSa.keys = respSa.keys ∧ initSa.ni = respSa.ni ∧ initSa.nr = respSa.nr ∧
      initSa.spiI = respSa.spiI ∧ initSa.spiR = respSa.spiR := by
  obtain ⟨headerI, payloadsI, groupI, sharedI, gotResponse, initForm⟩ := initiatorComplete_eq_ok completed
  obtain ⟨natt, cookie, inner⟩ := answered.inner
  obtain ⟨headerR, payloadsR, groupR, sharedR, gotRequest, sent, respForm⟩ :=
    responderRespondInner_established inner
  rw [gotResponse.sharedWith_eq, gotRequest.sharedWith_eq] at noCollision
  -- the two AUTH messages open under one key each and carry what was put in
  obtain ⟨⟨authI, certsI⟩, signedI, sealedI⟩ := bind_eq_ok requested
  obtain ⟨first, plain, got, authR, certsR, opened, read, checked, -, -, signedR, sealedR⟩ :=
    responderProcessAuth_eq_ok processed
  obtain ⟨first', plain', got', opened', read', checked', -, -⟩ := initiatorVerifyAuth_eq_ok verified
  obtain ⟨sameEi, size, idBody, authBody, -⟩ :=
    (initiatorAuthChain_shape (buildLocalAuth_neutral signedI) childI).read (ideal.single List.mem_cons_self)
      sealedI opened read
  obtain ⟨-, -, idBody', authBody', -⟩ :=
    (responderAuthChain_shape (buildLocalAuth_neutral signedR) childR assigned).read
      (ideal.single (List.mem_cons_of_mem _ List.mem_cons_self)) sealedR opened' read'
  rw [readIdBody_eq opened read, readIdBody_eq opened' read', idBody, idBody'] at noCollision
  cases signedI
  cases signedR
  -- equal encryption keys: both suites are AEAD and the schedules had one input
  obtain ⟨lengthsI, keysI⟩ : initSa.suite.keyLengths = ⟨32, 0, 36⟩ ∧ initSa.keys =
      deriveSessionKeys P sharedI initSa.ni initSa.nr initSa.spiI initSa.spiR ⟨32, 0, 36⟩ :=
    gcm_of_skEi gotResponse.supported (by rw [initForm]) size
  obtain ⟨lengthsR, keysR⟩ : respSa.suite.keyLengths = ⟨32, 0, 36⟩ ∧ respSa.keys =
      deriveSessionKeys P sharedR respSa.ni respSa.nr respSa.spiI respSa.spiR ⟨32, 0, 36⟩ :=
    gcm_of_skEi gotRequest.supported (by rw [respForm]) (sameEi ▸ size)
  have valueI := verifyPsk_eq_ok checked
  have valueR := verifyPsk_eq_ok checked'
  rw [authBody, idBody] at valueI
  rw [authBody', idBody'] at valueR
  obtain ⟨⟨sameShared, sameNonces, sameSpiI, sameSpiR⟩, signedRequest, signedResponse⟩ :=
    same_inputs noCollision lengthsI lengthsR (by rw [← keysI, ← keysR, sameEi]) valueI valueR.symm
  obtain ⟨sameRequest, sameResponse, sameSuite, sameNi, sameNr⟩ :=
    saInit_unshifted offerFits initiatorFits responderFits completed answered sameNonces signedRequest signedResponse
  refine ⟨sameRequest, sameResponse, sameSuite, ?_, sameNi, sameNr, sameSpiI, sameSpiR⟩
  rw [keysI, keysR, sameShared, sameNi, sameNr, sameSpiI, sameSpiR]

namespace Toy
open Ryke.Toy

def clientConfig : AuthConfig := .psk alice psk

def clientRequest : Bytes := (initiatorAuthRequest toy initSa clientConfig 5 (.ofU64 1)).toOption.getD []

def serverAnswer : Bytes × Identification × UInt32 :=
  (responderProcessAuth toy respSa clientRequest serverConfig 7 (.ofU64 2) none).toOption.getD ([], alice, 0)

def runQueries : List (Bytes × Bytes) :=
  endQueries toy (sharedWith toy initiatorSecret saInitAnswer.1) initSa psk psk alice.toBytes
      (readIdBody toy serverAnswer.1 initSa.keys.skEr) ++
    endQueries toy (sharedWith toy responderSecret saInitRequest) respSa psk psk
      (readIdBody toy clientRequest respSa.keys.skEi) serverConfig.id.toBytes

end Toy

theorem saInit_tampering_evident_honest :
    ∃ response respSa authResponse,
      Responds toy Toy.saInitRequest Toy.responderSecret response respSa ∧
      (∃ verifiedI spiI, responderProcessAuth toy respSa Toy.clientRequest Toy.serverConfig 7 (.ofU64 2) none =
        .ok (authResponse, verifiedI, spiI)) ∧
      (∃ accepted, initiatorVerifyAuth toy Toy.initSa authResponse Toy.clientConfig = .ok accepted) ∧
      response = Toy.saInitAnswer.1 ∧ Toy.initSa.keys = respSa.keys := by
  have completed : initiatorComplete toy Toy.initiatorSecret Toy.saInitRequest Toy.saInitAnswer.1 =
      .ok Toy.initSa := by
    decide +kernel
  have answered : responderRespond toy Toy.saInitRequest Toy.responderSecret =
      .ok (Toy.saInitAnswer.1, Toy.respSa) := by
    decide +kernel
  have requested : initiatorAuthRequest toy Toy.initSa Toy.clientConfig 5 (.ofU64 1) = .ok Toy.clientRequest := by
    decide +kernel
  have processed : responderProcessAuth toy Toy.respSa Toy.clientRequest Toy.serverConfig 7 (.ofU64 2) none =
      .ok (Toy.serverAnswer.1, Toy.serverAnswer.2.1, Toy.serverAnswer.2.2) := by
    decide +kernel
  have verified : (initiatorVerifyAuth toy Toy.initSa Toy.serverAnswer.1 Toy.clientConfig).isOk = true := by
    decide +kernel
  obtain ⟨⟨peer, spi, ip⟩, verified⟩ := exists_of_isOk verified
  have noCollision : toy.NoCollision Toy.runQueries := by
    unfold Primitives.NoCollision
    decide +kernel
  have evident := saInit_tampering_evident toy Toy.initiatorSecret Toy.responderSecret
    defaultOffer (by decide) (by decide) (by decide) Toy.saInitAnswer.1 Toy.saInitAnswer.1 Toy.saInitRequest
    Toy.initSa Toy.respSa completed (.inl answered) Toy.alice Toy.serverConfig.id Toy.psk Toy.psk Toy.psk Toy.psk 5 7
    (.ofU64 1) (.ofU64 2) none Toy.clientRequest Toy.serverAnswer.1 Toy.serverAnswer.2.1 peer Toy.serverAnswer.2.2
    spi ip requested processed verified (Ryke.Toy.toy_gcmIdeal _) noCollision
  exact ⟨Toy.saInitAnswer.1, Toy.respSa, Toy.serverAnswer.1, .inl answered, ⟨_, _, processed⟩, ⟨_, verified⟩, rfl,
    evident.2.2.2.1⟩

end Ryke.Ikev2
