import Ryke.Ikev2.Credentials
import Ryke.Ikev2.EapSteps

/-! The first `IKE_AUTH` request of an initiator, which may authenticate at once or ask for
EAP, and what a responder reads in it before it picks a credential and an exchange. -/

namespace Ryke.Ikev2
open Lib Crypto

/-! ## Requests without AUTH -/

def eapRequestPayloads (id : Identification) (childSpi : UInt32) : List Payload :=
  [(.idInitiator, id.toBytes), (.securityAssociation, (espOffer childSpi).toBytes),
    (.trafficSelectorInitiator, fullTunnelTs), (.trafficSelectorResponder, fullTunnelTs)]

def initiatorEapRequest (P : Primitives) (sa : CompletedSaInit) (id : Identification) (childSpi : UInt32) (iv : Iv) :
    Result Bytes :=
  let inner := eapRequestPayloads id childSpi
  buildEncryptedGcm P (ikeAuthHeader sa false) (firstPayloadType inner) (encodePayloadChain inner) sa.keys.skEi iv

def initiatorEapRequestWithCertreq (P : Primitives) (sa : CompletedSaInit) (id : Identification) (childSpi : UInt32)
    (caHashes : List Bytes) (iv : Iv) : Result Bytes :=
  let inner := eapRequestPayloads id childSpi ++ [(.certRequest, (CertRequest.x509 caHashes).toBytes)]
  buildEncryptedGcm P (ikeAuthHeader sa false) (firstPayloadType inner) (encodePayloadChain inner) sa.keys.skEi iv

def clientSentCertreq (P : Primitives) (sa : CompletedSaInit) (request : Bytes) : Bool :=
  match openEncryptedGcm P request sa.keys.skEi with
  | .error _ => false
  | .ok (first, inner) => (flatten (payloads first inner)).any fun p => p.payloadType == .certRequest

/-! ## The kinds of request -/

/-- What an initiator may start `IKE_AUTH` with. -/
inductive FirstRequest where
  | auth (cfg : AuthConfig)
  | eap (id : Identification)
  | eapCertreq (id : Identification) (caHashes : List Bytes)

namespace FirstRequest

def id : FirstRequest → Identification
  | .auth cfg => cfg.id
  | .eap id => id
  | .eapCertreq id _ => id

def asksEap : FirstRequest → Bool
  | .auth _ => false
  | .eap _ => true
  | .eapCertreq _ _ => true

/-- Whether it asks for a certificate: of a responder that it knows by one, or as the EAP
client was told to. -/
def asksCert : FirstRequest → Bool
  | .auth cfg => match cfg.peerAuth with
    | .psk _ => false
    | .cert _ _ _ => true
  | .eap _ => false
  | .eapCertreq _ _ => true

def build (P : Primitives) (sa : CompletedSaInit) (first : FirstRequest) (childSpi : UInt32) (iv : Iv) : Result Bytes :=
  match first with
  | .auth cfg => initiatorAuthRequest P sa cfg childSpi iv
  | .eap id => initiatorEapRequest P sa id childSpi iv
  | .eapCertreq id caHashes => initiatorEapRequestWithCertreq P sa id childSpi caHashes iv

def chain (P : Primitives) (sa : CompletedSaInit) (childSpi : UInt32) : FirstRequest → Result (List Payload)
  | .auth cfg => do
      let (ownAuth, certs) ← buildLocalAuth P cfg sa (initiatorOctets P sa cfg.id)
      .ok (initiatorAuthChain P cfg ownAuth certs childSpi)
  | .eap id => .ok (eapRequestPayloads id childSpi)
  | .eapCertreq id caHashes =>
      .ok (eapRequestPayloads id childSpi ++ [(.certRequest, (CertRequest.x509 caHashes).toBytes)])

variable {P : Primitives} {sa : CompletedSaInit} {first : FirstRequest} {childSpi : UInt32} {iv : Iv}
  {payloads : List Payload}

theorem build_of_chain (sends : first.chain P sa childSpi = .ok payloads) :
    first.build P sa childSpi iv = buildEncryptedGcm P (ikeAuthHeader sa false) (firstPayloadType payloads)
      (encodePayloadChain payloads) sa.keys.skEi iv := by
  cases first with
  | auth cfg =>
    obtain ⟨⟨ownAuth, certs⟩, ours, sends⟩ := bind_eq_ok sends
    cases sends
    rw [initiatorOctets] at ours
    change initiatorAuthRequest P sa cfg childSpi iv = _
    rw [initiatorAuthRequest]
    dsimp only
    rw [ours, ok_bind]
  | eap id =>
    cases sends
    rfl
  | eapCertreq id caHashes =>
    cases sends
    rfl

/-! ### What is in the payloads -/

theorem chain_proper (sends : first.chain P sa childSpi = .ok payloads) :
    ∀ payload ∈ payloads, payload.1.Proper := by
  cases first with
  | auth cfg =>
    obtain ⟨⟨ownAuth, certs⟩, ours, sends⟩ := bind_eq_ok sends
    cases sends
    exact (initiatorAuthChain_shape (buildLocalAuth_neutral ours) childSpi).proper
  | eap id =>
    cases sends
    intro payload member
    have kind : payload.1 ∈ (eapRequestPayloads id childSpi).map Prod.fst := List.mem_map_of_mem member
    exact (by decide : ∀ kind ∈ [PayloadType.idInitiator, .securityAssociation, .trafficSelectorInitiator,
      .trafficSelectorResponder], kind.Proper) _ kind
  | eapCertreq id caHashes =>
    cases sends
    intro payload member
    have kind := List.mem_map_of_mem (f := Prod.fst) member
    exact (by decide : ∀ kind ∈ [PayloadType.idInitiator, .securityAssociation, .trafficSelectorInitiator,
      .trafficSelectorResponder, .certRequest], kind.Proper) _ kind

/-- The identity comes first, and there is an AUTH unless EAP is asked for. -/
theorem find_chain (sends : first.chain P sa childSpi = .ok payloads) :
    find payloads .idInitiator = some first.id.toBytes ∧
      (payloads.any fun payload => payload.1 == .authentication) = !first.asksEap ∧
      (payloads.any fun payload => payload.1 == .certRequest) = first.asksCert := by
  cases first with
  | auth cfg =>
    obtain ⟨⟨ownAuth, certs⟩, ours, sends⟩ := bind_eq_ok sends
    cases sends
    obtain rfl := buildLocalAuth_shown ours
    refine ⟨rfl, ?_, ?_⟩
    · rw [initiatorAuthChain, List.any_append, List.any_cons, beq_self_eq_true, Bool.true_or, Bool.or_true]
      rfl
    · have shown : ((cfg.localAuth.shown.map certPayload).any fun payload => payload.1 == .certRequest) = false := by
        rw [List.any_map, List.any_eq_false]
        intro der _
        exact Bool.false_ne_true
      rw [initiatorAuthChain, List.any_append, List.any_append, List.any_append, shown, certRequestPayloads, asksCert]
      cases cfg.peerAuth with
      | psk secret => rfl
      | cert cas expectedDns nowUnix => rfl
  | eap id =>
    cases sends
    exact ⟨rfl, rfl, rfl⟩
  | eapCertreq id caHashes =>
    cases sends
    exact ⟨rfl, rfl, rfl⟩

theorem find_certs (ders : List Bytes) {want : PayloadType} (other : want ≠ .certificate) :
    find (ders.map certPayload) want = none := by
  refine find_none fun kind member => ?_
  obtain ⟨payload, inside, rfl⟩ := List.mem_map.mp member
  obtain ⟨der, -, rfl⟩ := List.mem_map.mp inside
  exact other.symm

theorem find_certRequests (P : Primitives) (cfg : AuthConfig) {want : PayloadType} (other : want ≠ .certRequest) :
    find (certRequestPayloads P cfg) want = none := by
  unfold certRequestPayloads
  split
  next => rfl
  next => exact find_single_other (beq_eq_false_iff_ne.mpr other.symm) _

theorem find_chain_sa (sends : first.chain P sa childSpi = .ok payloads) :
    find payloads .securityAssociation = some (espOffer childSpi).toBytes ∧ find payloads .eap = none := by
  cases first with
  | auth cfg =>
    obtain ⟨⟨ownAuth, certs⟩, ours, sends⟩ := bind_eq_ok sends
    cases sends
    obtain rfl := buildLocalAuth_shown ours
    constructor
    · rw [initiatorAuthChain, find_append, find_append, find_append, find_certs _ (by decide),
        find_certRequests _ _ (by decide)]
      rfl
    · rw [initiatorAuthChain, find_append, find_append, find_append, find_certs _ (by decide),
        find_certRequests _ _ (by decide)]
      rfl
  | eap id =>
    cases sends
    exact ⟨rfl, rfl⟩
  | eapCertreq id caHashes =>
    cases sends
    exact ⟨rfl, rfl⟩

/-- Read for its AUTH, a request that asks for EAP is refused, and any other gives its identity. -/
theorem parse_chain (sends : first.chain P sa childSpi = .ok payloads)
    (small : skPayloadLen (encodePayloadChain payloads) < 65536) :
    (first.asksEap = true → parseAuthInner (firstPayloadType payloads) (encodePayloadChain payloads) =
        .error (.missingPayload "AUTH")) ∧
      (first.asksEap = false → ∃ got,
        parseAuthInner (firstPayloadType payloads) (encodePayloadChain payloads) = .ok got ∧
          got.idBody = first.id.toBytes) := by
  have proper := chain_proper sends
  cases first with
  | auth cfg =>
    obtain ⟨⟨ownAuth, certs⟩, ours, sends⟩ := bind_eq_ok sends
    cases sends
    obtain rfl := buildLocalAuth_shown ours
    exact ⟨fun asks => absurd asks Bool.false_ne_true,
      fun _ => ⟨_, parse_requestChain P cfg ownAuth cfg.localAuth.shown childSpi proper small, rfl⟩⟩
  | eap id =>
    cases sends
    refine ⟨fun _ => ?_, fun asks => absurd asks.symm Bool.false_ne_true⟩
    rw [parseAuthInner_chain [.idInitiator, .securityAssociation, .trafficSelectorInitiator, .trafficSelectorResponder]
      rfl (by decide) small]
    simp only [eapRequestPayloads, List.foldlM_cons, List.foldlM_nil, AuthFound.add, raw, ok_bind, AuthFound.finish]
    rfl
  | eapCertreq id caHashes =>
    cases sends
    refine ⟨fun _ => ?_, fun asks => absurd asks.symm Bool.false_ne_true⟩
    rw [parseAuthInner_chain [.idInitiator, .securityAssociation, .trafficSelectorInitiator, .trafficSelectorResponder,
      .certRequest] rfl (by decide) small]
    simp only [eapRequestPayloads, List.cons_append, List.nil_append, List.foldlM_cons, List.foldlM_nil, AuthFound.add,
      raw, ok_bind, AuthFound.finish]
    rfl

end FirstRequest

/-! ## What the responder reads -/

/-- A request that was sealed for it, as the responder's readers see it. -/
theorem readers_of_opened {P : Primitives} {sa : CompletedSaInit} {request : Bytes} {chain : List Payload}
    (fits : ∀ payload ∈ chain, Fits payload)
    (opened : openEncryptedGcm P request sa.keys.skEi = .ok (firstPayloadType chain, encodePayloadChain chain)) :
    peerIdFromRequest P sa request =
        (find chain .idInitiator).bind (fun body => (Identification.parse body).toOption) ∧
      isEapRequest P sa request = (!(chain.any fun payload => payload.1 == .authentication)) ∧
      clientSentCertreq P sa request = (chain.any fun payload => payload.1 == .certRequest) := by
  have walk := payloads_encodePayloadChain fits []
  rw [List.append_nil] at walk
  have flat : flatten (payloads (firstPayloadType chain) (encodePayloadChain chain)) = chain.map raw := by
    have same : chain.map (fun payload => (.ok (raw payload) : Result RawPayload)) = (chain.map raw).map .ok :=
      (List.map_map ..).symm
    rw [walk, same, flatten_map_ok]
  refine ⟨?_, ?_, ?_⟩
  · rw [peerIdFromRequest, opened]
    change ((flatten (payloads (firstPayloadType chain) (encodePayloadChain chain))).find? fun p =>
      p.payloadType == .idInitiator).bind _ = _
    rw [flat, List.find?_map, find, Option.bind_map, Option.bind_map]
    rfl
  · rw [isEapRequest, opened]
    dsimp only
    rw [flat, List.any_map]
    rfl
  · rw [clientSentCertreq, opened]
    dsimp only
    rw [flat, List.any_map]
    rfl

theorem find_isSome (chain : List Payload) (want : PayloadType) :
    (find chain want).isSome = chain.any fun payload => payload.1 == want := by
  rw [find, Option.isSome_map, Bool.eq_iff_iff, List.find?_isSome, List.any_eq_true]

theorem decrypt_request {P : Primitives} {initSa respSa : CompletedSaInit} (matching : Matching initSa respSa)
    {chain : List Payload} {iv : Iv} {request : Bytes} (fits : ∀ payload ∈ chain, Fits payload)
    (opened : openEncryptedGcm P request respSa.keys.skEi = .ok (firstPayloadType chain, encodePayloadChain chain))
    (built : buildEncryptedGcm P (ikeAuthHeader initSa false) (firstPayloadType chain) (encodePayloadChain chain)
      initSa.keys.skEi iv = .ok request) : decrypt P respSa request = .ok (1, chain) := by
  obtain ⟨length, parsed⟩ := parse_buildEncryptedGcm (show (2 : UInt8) < 16 by decide)
    (show (0 : UInt8) < 16 by decide) rfl built
  have ownKey : peerSkE respSa = respSa.keys.skEi := by rw [peerSkE, matching.responder]
  rw [decrypt, parsed, ok_bind, ownKey, opened, ok_bind]
  dsimp only
  rw [forPayloads_collect fits, ok_bind]
  rfl

/-- Whatever an honest initiator starts with, the responder reads off it who it is, whether it
asks for EAP and whether it asks for a certificate, before it verifies anything. The reader
and the exchange for AUTH refuse a request for EAP, and the EAP authenticator takes note of
the identity and the SPI in a request for EAP, and of nothing in the others. -/
theorem firstRequest_read (P : Primitives) (correct : P.GcmCorrect) (initSa respSa : CompletedSaInit)
    (matching : Matching initSa respSa) (first : FirstRequest) (childSpi : UInt32) (iv : Iv) (chain : List Payload)
    (request : Bytes) (sends : first.chain P initSa childSpi = .ok chain)
    (small : skPayloadLen (encodePayloadChain chain) < 65536) (built : first.build P initSa childSpi iv = .ok request) :
    peerIdFromRequest P respSa request = some first.id ∧
      isEapRequest P respSa request = first.asksEap ∧
      clientSentCertreq P respSa request = first.asksCert ∧
      peerIdFromAuth P respSa request =
        (if first.asksEap then .error (.missingPayload "AUTH") else .ok first.id) ∧
      (first.asksEap = true → ∀ cfg childR ivR assigned,
        responderProcessAuth P respSa request cfg childR ivR assigned = .error (.missingPayload "AUTH")) ∧
      ∀ {ε : Type} [Entropy ε] (authenticator : EapResponder) (entropy : ε), authenticator.sa = respSa →
        (authenticator.handle P request entropy).2.1 =
          if first.asksEap then { authenticator with peerIdi := first.id.toBytes, peerChildSpi := some childSpi }
          else authenticator := by
  have fits := fits_of_small (List.forall_mem_map.mpr (FirstRequest.chain_proper sends)) small
  rw [FirstRequest.build_of_chain sends] at built
  have opened := openEncryptedGcm_built correct small built
  rw [fromU8_firstPayloadType fits, ← matching.keys] at opened
  obtain ⟨fromRequest, eap, certreq⟩ := readers_of_opened fits opened
  obtain ⟨named, hasAuth, hasCertreq⟩ := FirstRequest.find_chain sends
  obtain ⟨refused, accepted⟩ := FirstRequest.parse_chain sends small
  rw [named, Option.bind_some, Identification.parse_toBytes] at fromRequest
  rw [hasAuth, Bool.not_not] at eap
  rw [hasCertreq] at certreq
  refine ⟨fromRequest, eap, certreq, ?_, ?_, ?_⟩
  · rw [peerIdFromAuth, opened, ok_bind]
    dsimp only
    cases asks : first.asksEap with
    | true =>
      rw [refused asks]
      rfl
    | false =>
      obtain ⟨got, read, body⟩ := accepted asks
      rw [read, ok_bind, body, Identification.parse_toBytes]
      rfl
  · intro asks cfg childR ivR assigned
    rw [responderProcessAuth, opened, ok_bind]
    dsimp only
    rw [refused asks]
    rfl
  · intro ε _ authenticator entropy own
    obtain ⟨offers, noEap⟩ := FirstRequest.find_chain_sa sends
    have read := decrypt_request matching fits opened built
    rw [← own] at read
    rw [EapResponder.handle, read]
    dsimp only
    rw [noEap]
    cases asks : first.asksEap with
    | true =>
      have noAuth : find chain .authentication = none := by
        rw [← Option.not_isSome_iff_eq_none, find_isSome, hasAuth, asks]
        exact Bool.false_ne_true
      rw [noAuth]
      dsimp only
      rw [EapResponder.startEap, offers, named]
      dsimp only
      rw [espSpiFromSa_espOffer, Option.getD_some]
      split <;> rfl
    | false =>
      have isAuth : (find chain .authentication).isSome = true := by
        rw [find_isSome, hasAuth, asks]
        rfl
      obtain ⟨authBytes, found⟩ := Option.isSome_iff_exists.mp isAuth
      rw [found]
      rfl

namespace Toy
open Ryke.Toy

def eapWithCertreq : FirstRequest := .eapCertreq alice [List.replicate 20 0]

end Toy

theorem firstRequest_read_certreq :
    ∃ request, initiatorEapRequestWithCertreq Ryke.Toy.toyMac Toy.initSa Toy.alice 5 [List.replicate 20 0] (.ofU64 1) =
        .ok request ∧
      peerIdFromRequest Ryke.Toy.toyMac Toy.respSa request = some Toy.alice ∧
      isEapRequest Ryke.Toy.toyMac Toy.respSa request = true ∧
      clientSentCertreq Ryke.Toy.toyMac Toy.respSa request = true := by
  have makes : (Toy.eapWithCertreq.build Ryke.Toy.toyMac Toy.initSa 5 (.ofU64 1)).isOk = true := by decide +kernel
  obtain ⟨request, built⟩ := exists_of_isOk makes
  obtain ⟨named, eap, certreq, -⟩ := firstRequest_read Ryke.Toy.toyMac Ryke.Toy.toyMac_gcmCorrect Toy.initSa
    Toy.respSa Toy.matching Toy.eapWithCertreq 5 (.ofU64 1) _ request rfl (by decide +kernel) built
  exact ⟨request, built, named, eap, certreq⟩

end Ryke.Ikev2
