import Ryke.Ikev2.AuthComplete
import Ryke.Ikev2.Binding

/-! `IKE_AUTH` between two ends that each use a pre-shared key or a certificate, and each ask
the other for one or the other. It completes in every mix in which each end has what the
other asks for. -/

namespace Ryke.Ikev2
open Lib Crypto

/-! ## Credentials that fit -/

/-- The signatures of a private key verify under a public key. -/
def Signs (P : Primitives) : SigningKey → VerifyingKey → Prop
  | .rsaSha256 key, .rsa pk => ∀ digest, ∃ sig, P.rsaPkcs1Sign key digest = some sig ∧
      P.rsaPkcs1Verify pk digest sig = true
  | .ecdsaP256 key, .ecdsaP256 vk => ∀ digest, ∃ der plain, P.ecdsaSign key digest = some (der, plain) ∧
      P.ecdsaVerify vk digest der = true
  | _, _ => False

/-- What one end shows is what the other asks for: the same secret, or a certificate that the
other trusts, for a key that signs, towards an end that has offered SHA-256. -/
inductive Credits (P : Primitives) (hashes : List UInt16) : LocalAuth → PeerAuth → Prop
  | psk (secret : Bytes) : Credits P hashes (.psk secret) (.psk secret)
  | cert {key : SigningKey} {leaf : Bytes} {intermediates cas : List Bytes} {expectedDns : Option Bytes}
      {nowUnix : UInt64} {vk : VerifyingKey} (offered : hashes.contains 2 = true)
      (trusted : (if cas.any (· == leaf) then withinValidity P leaf nowUnix
        else validateChain P leaf intermediates cas nowUnix) = .ok ())
      (named : checkDnsName P leaf expectedDns = .ok ()) (isKey : VerifyingKey.fromCertDer P leaf = .ok vk)
      (signs : Signs P key vk) : Credits P hashes (.cert key (leaf :: intermediates)) (.cert cas expectedDns nowUnix)

def LocalAuth.shown : LocalAuth → List Bytes
  | .psk _ => []
  | .cert _ chain => chain

def certPayload (der : Bytes) : Payload := (.certificate, (Certificate.x509 der).toBytes)

/-! ## Signatures -/

theorem parseAuthData_wrapAuthData {alg : Bytes} (small : alg.length < 256) (sig : Bytes) :
    parseAuthData (wrapAuthData alg sig) = .ok (alg, sig) := by
  have declared : (UInt8.ofNat alg.length).toNat = alg.length := UInt8.toNat_ofNat_of_lt small
  have enough : ¬ (UInt8.ofNat alg.length :: (alg ++ sig)).length < 1 + (UInt8.ofNat alg.length).toNat := by
    rw [declared, List.length_cons, List.length_append]
    omega
  change parseAuthData (UInt8.ofNat alg.length :: (alg ++ sig)) = _
  rw [parseAuthData, if_neg enough, declared, List.take_left, List.drop_left]

theorem verifyAuthData_signAuthData {P : Primitives} {key : SigningKey} {vk : VerifyingKey} (signs : Signs P key vk)
    (octets : Bytes) : ∃ data, key.signAuthData P octets = .ok data ∧ vk.verifyAuthData P data octets = .ok () := by
  cases key with
  | rsaSha256 key =>
    cases vk with
    | rsa pk =>
      obtain ⟨sig, signed, verifies⟩ := signs (P.sha256 octets)
      refine ⟨wrapAuthData sig_alg.rsaSha256 sig, ?_, ?_⟩
      · rw [SigningKey.signAuthData]
        dsimp only
        rw [signed]
        rfl
      · rw [VerifyingKey.verifyAuthData, parseAuthData_wrapAuthData (by decide), ok_bind]
        dsimp only
        rw [show schemeOf sig_alg.rsaSha256 = some .rsaPkcs1Sha256 by decide, okOr_some, ok_bind]
        dsimp only
        rw [verifies, if_pos rfl]
    | ecdsaP256 vk => cases signs
  | ecdsaP256 key =>
    cases vk with
    | rsa pk => cases signs
    | ecdsaP256 vk =>
      obtain ⟨der, plain, signed, verifies⟩ := signs (P.sha256 octets)
      refine ⟨wrapAuthData sig_alg.ecdsaP256Sha256 der, ?_, ?_⟩
      · rw [SigningKey.signAuthData]
        dsimp only
        rw [signed]
        rfl
      · rw [VerifyingKey.verifyAuthData, parseAuthData_wrapAuthData (by decide), ok_bind]
        dsimp only
        rw [show schemeOf sig_alg.ecdsaP256Sha256 = some .ecdsaP256Sha256 by decide, okOr_some, ok_bind]
        dsimp only
        rw [verifies, if_pos rfl]

/-! ## What an end builds, and what the other makes of it -/

theorem buildLocalAuth_shown {P : Primitives} {cfg : AuthConfig} {sa : CompletedSaInit} {octets : Bytes}
    {auth : Authentication} {certs : List Payload} (built : buildLocalAuth P cfg sa octets = .ok (auth, certs)) :
    certs = cfg.localAuth.shown.map certPayload := by
  unfold buildLocalAuth at built
  cases own : cfg.localAuth with
  | psk secret =>
    rw [own] at built
    cases built
    rfl
  | cert key chain =>
    rw [own] at built
    obtain ⟨signed, -, built⟩ := bind_eq_ok built
    cases built
    rfl

/-- An end that shows what is asked for builds its AUTH, and the AUTH is accepted. -/
theorem verifyPeerAuth_of_credits {P : Primitives} {cfg other : AuthConfig} {sa : CompletedSaInit}
    (credits : Credits P sa.peerSignatureHashes cfg.localAuth other.peerAuth) (octets : Bytes) :
    ∃ auth certs, buildLocalAuth P cfg sa octets = .ok (auth, certs) ∧ ∀ got : AuthPayloads, got.auth = auth →
      got.certs = cfg.localAuth.shown → verifyPeerAuth P other got octets = .ok () := by
  unfold buildLocalAuth verifyPeerAuth
  generalize cfg.localAuth = mine at credits
  generalize other.peerAuth = theirs at credits
  cases credits with
  | psk secret =>
    refine ⟨_, _, rfl, ?_⟩
    rintro got isAuth -
    dsimp only
    rw [isAuth]
    exact verifyPsk_pskAuthPayload P secret octets
  | @cert key leaf intermediates cas expectedDns nowUnix vk offered trusted named isKey signs =>
    obtain ⟨data, signed, verified⟩ := verifyAuthData_signAuthData signs octets
    have built : certAuthPayload P key sa.peerSignatureHashes octets = .ok ⟨auth_method.digitalSignature, data⟩ := by
      rw [certAuthPayload, if_pos offered, signed]
      rfl
    refine ⟨⟨auth_method.digitalSignature, data⟩, (leaf :: intermediates).map certPayload, ?_, ?_⟩
    · dsimp only
      rw [built]
      rfl
    · intro got isAuth isShown
      dsimp only
      rw [isAuth, isShown, if_neg (not_not.mpr rfl), LocalAuth.shown, List.head?_cons, okOr_some, ok_bind,
        List.tail_cons, verifyCertAuth]
      by_cases pinned : cas.any (· == leaf) = true
      · rw [if_pos pinned] at trusted
        rw [if_pos pinned, trusted, ok_bind, named, ok_bind, isKey, ok_bind]
        exact verified
      · rw [if_neg pinned] at trusted
        rw [if_neg pinned, trusted, ok_bind, named, ok_bind, isKey, ok_bind]
        exact verified

/-! ## Reading the chains -/

theorem foldlM_certs (ders : List Bytes) (found : AuthFound) :
    (ders.map certPayload).foldlM (fun found payload => found.add (raw payload)) found =
      .ok { found with certs := found.certs ++ ders } := by
  induction ders generalizing found with
  | nil =>
    rw [List.map_nil, List.foldlM_nil, List.append_nil]
    rfl
  | cons der rest ih =>
    have added : found.add (raw (certPayload der)) = .ok { found with certs := found.certs ++ [der] } := rfl
    rw [List.map_cons, List.foldlM_cons, added, ok_bind, ih]
    simp [List.append_assoc]

theorem foldlM_certRequests (P : Primitives) (cfg : AuthConfig) (found : AuthFound) :
    (certRequestPayloads P cfg).foldlM (fun found payload => found.add (raw payload)) found = .ok found := by
  unfold certRequestPayloads
  split <;> rfl

theorem parse_requestChain (P : Primitives) (cfg : AuthConfig) (auth : Authentication) (ders : List Bytes)
    (childSpi : UInt32)
    (proper : ∀ payload ∈ initiatorAuthChain P cfg auth (ders.map certPayload) childSpi, payload.1.Proper)
    (small : skPayloadLen (encodePayloadChain (initiatorAuthChain P cfg auth (ders.map certPayload) childSpi)) <
      65536) :
    parseAuthInner (firstPayloadType (initiatorAuthChain P cfg auth (ders.map certPayload) childSpi))
        (encodePayloadChain (initiatorAuthChain P cfg auth (ders.map certPayload) childSpi)) =
      .ok ⟨cfg.id.toBytes, auth, ders, some childSpi, none⟩ := by
  have kinds : ∀ kind ∈ (initiatorAuthChain P cfg auth (ders.map certPayload) childSpi).map Prod.fst,
      kind.Proper := by
    intro kind member
    obtain ⟨payload, inside, rfl⟩ := List.mem_map.mp member
    exact proper payload inside
  rw [parseAuthInner_chain _ rfl kinds small, initiatorAuthChain, List.foldlM_append, List.foldlM_append,
    List.foldlM_append]
  have first : [((.idInitiator, cfg.id.toBytes) : Payload)].foldlM
      (fun found payload => AuthFound.add found (raw payload)) {} = .ok { idBody := some cfg.id.toBytes } := rfl
  rw [first, ok_bind, foldlM_certs, ok_bind, foldlM_certRequests, ok_bind]
  simp only [List.foldlM_cons, List.foldlM_nil, AuthFound.add, raw, Authentication.parse_toBytes, ok_bind,
    espSpiFromSa_espOffer, AuthFound.finish, List.nil_append]
  rfl

theorem parse_answerChain (cfg : AuthConfig) (auth : Authentication) (ders : List Bytes) (childSpi : UInt32)
    (assigned : Option AssignedConfig)
    (proper : ∀ payload ∈ responderAuthChain cfg auth (ders.map certPayload) childSpi assigned, payload.1.Proper)
    (small : skPayloadLen (encodePayloadChain (responderAuthChain cfg auth (ders.map certPayload) childSpi assigned)) <
      65536) :
    parseAuthInner (firstPayloadType (responderAuthChain cfg auth (ders.map certPayload) childSpi assigned))
        (encodePayloadChain (responderAuthChain cfg auth (ders.map certPayload) childSpi assigned)) =
      .ok ⟨cfg.id.toBytes, auth, ders, some childSpi, assigned.map AssignedConfig.ip⟩ := by
  have kinds : ∀ kind ∈ (responderAuthChain cfg auth (ders.map certPayload) childSpi assigned).map Prod.fst,
      kind.Proper := by
    intro kind member
    obtain ⟨payload, inside, rfl⟩ := List.mem_map.mp member
    exact proper payload inside
  rw [parseAuthInner_chain _ rfl kinds small, responderAuthChain, List.foldlM_append, List.foldlM_append,
    List.foldlM_append, List.foldlM_append]
  have first : [((.idResponder, cfg.id.toBytes) : Payload)].foldlM
      (fun found payload => AuthFound.add found (raw payload)) {} = .ok { idBody := some cfg.id.toBytes } := rfl
  rw [first, ok_bind, foldlM_certs, ok_bind]
  cases assigned with
  | none =>
    simp only [assignedPayloads, List.foldlM_cons, List.foldlM_nil, AuthFound.add, raw, Authentication.parse_toBytes,
      ok_bind, espSpiFromSa_espOffer, AuthFound.finish, List.nil_append]
    rfl
  | some config =>
    have parsed := Configuration.parse_replyIpv4 config.ip none config.dns.head?
    simp only [assignedPayloads, List.foldlM_cons, List.foldlM_nil, AuthFound.add, raw, Authentication.parse_toBytes,
      ok_bind, espSpiFromSa_espOffer, AuthFound.finish, List.nil_append, parsed, Configuration.assignedIpv4_replyIpv4]
    rfl

/-! ## The exchange -/

def initiatorOctets (P : Primitives) (sa : CompletedSaInit) (id : Identification) : Bytes :=
  initiatorSignedOctets P sa.initMessage sa.nr sa.keys.skPi id.toBytes

def responderOctets (P : Primitives) (sa : CompletedSaInit) (id : Identification) : Bytes :=
  responderSignedOctets P sa.respMessage sa.ni sa.keys.skPr id.toBytes

/-- The messages that an end can build fit their length fields. -/
def RequestFits (P : Primitives) (sa : CompletedSaInit) (cfg : AuthConfig) (childSpi : UInt32) : Prop :=
  ∀ auth certs, buildLocalAuth P cfg sa (initiatorOctets P sa cfg.id) = .ok (auth, certs) →
    skPayloadLen (encodePayloadChain (initiatorAuthChain P cfg auth certs childSpi)) < 65536

def AnswerFits (P : Primitives) (sa : CompletedSaInit) (cfg : AuthConfig) (childSpi : UInt32)
    (assigned : Option AssignedConfig) : Prop :=
  ∀ auth certs, buildLocalAuth P cfg sa (responderOctets P sa cfg.id) = .ok (auth, certs) →
    skPayloadLen (encodePayloadChain (responderAuthChain cfg auth certs childSpi assigned)) < 65536

theorem initiatorAuthRequest_of_built {P : Primitives} {sa : CompletedSaInit} {cfg : AuthConfig} {auth : Authentication}
    {certs : List Payload} {childSpi : UInt32} {iv : Iv} {request : Bytes}
    (ours : buildLocalAuth P cfg sa (initiatorOctets P sa cfg.id) = .ok (auth, certs))
    (built : buildEncryptedGcm P (ikeAuthHeader sa false)
      (firstPayloadType (initiatorAuthChain P cfg auth certs childSpi))
      (encodePayloadChain (initiatorAuthChain P cfg auth certs childSpi)) sa.keys.skEi iv = .ok request) :
    initiatorAuthRequest P sa cfg childSpi iv = .ok request := by
  rw [initiatorOctets] at ours
  rw [initiatorAuthRequest]
  dsimp only
  rw [ours, ok_bind]
  exact built

/-- Two honest ends, each with what the other asks for, complete `IKE_AUTH`: each with the
identity, the SPI and the address that the other put in, and with CHILD SAs that mirror each
other. -/
theorem ikeAuth_complete_credentials (P : Primitives) (correct : P.GcmCorrect) (seals : P.GcmSeals)
    (initSa respSa : CompletedSaInit) (matching : Matching initSa respSa) (cfgI cfgR : AuthConfig)
    (creditsI : Credits P initSa.peerSignatureHashes cfgI.localAuth cfgR.peerAuth)
    (creditsR : Credits P respSa.peerSignatureHashes cfgR.localAuth cfgI.peerAuth) (ivI ivR : Iv)
    (childI childR : UInt32) (assigned : Option AssignedConfig) (requestFits : RequestFits P initSa cfgI childI)
    (answerFits : AnswerFits P respSa cfgR childR assigned) :
    ∃ request response,
      initiatorAuthRequest P initSa cfgI childI ivI = .ok request ∧
      responderProcessAuth P respSa request cfgR childR ivR assigned = .ok (response, cfgI.id, childI) ∧
      initiatorVerifyAuth P initSa response cfgI = .ok (cfgR.id, childR, assigned.map AssignedConfig.ip) ∧
      World.Mirrored (.derive P respSa.keys.skD respSa.ni respSa.nr .responder childR childI)
        (.derive P initSa.keys.skD initSa.ni initSa.nr .initiator childI childR) := by
  obtain ⟨authI, certsI, builtI, acceptsI⟩ := verifyPeerAuth_of_credits creditsI (initiatorOctets P initSa cfgI.id)
  obtain ⟨authR, certsR, builtR, acceptsR⟩ := verifyPeerAuth_of_credits creditsR (responderOctets P respSa cfgR.id)
  have smallI := requestFits authI certsI builtI
  have smallR := answerFits authR certsR builtR
  have shapeI : AuthShape (initiatorAuthChain P cfgI authI certsI childI) cfgI.id.toBytes authI childI :=
    initiatorAuthChain_shape (buildLocalAuth_neutral builtI) childI
  have shapeR : AuthShape (responderAuthChain cfgR authR certsR childR assigned) cfgR.id.toBytes authR childR :=
    responderAuthChain_shape (buildLocalAuth_neutral builtR) childR assigned
  obtain rfl := buildLocalAuth_shown builtI
  obtain rfl := buildLocalAuth_shown builtR
  have respEr : respSa.keys.skEr.length = 36 := by
    rw [matching.keys]
    exact matching.sizeEr
  obtain ⟨request, requested⟩ := exists_buildEncryptedGcm seals (ikeAuthHeader initSa false)
    (firstPayloadType (initiatorAuthChain P cfgI authI (cfgI.localAuth.shown.map certPayload) childI)) ivI
    matching.sizeEi smallI
  obtain ⟨response, answered⟩ := exists_buildEncryptedGcm seals (ikeAuthHeader respSa true)
    (firstPayloadType (responderAuthChain cfgR authR (cfgR.localAuth.shown.map certPayload) childR assigned)) ivR
    respEr smallR
  refine ⟨request, response, ?_, ?_, ?_, ?_⟩
  · exact initiatorAuthRequest_of_built builtI requested
  · have opened := openEncryptedGcm_built correct smallI requested
    rw [← matching.keys] at opened
    have read := parse_requestChain P cfgI authI cfgI.localAuth.shown childI shapeI.proper smallI
    have octets : initiatorSignedOctets P respSa.initMessage respSa.nr respSa.keys.skPi cfgI.id.toBytes =
        initiatorOctets P initSa cfgI.id := by
      rw [matching.initMessage, matching.nr, matching.keys, initiatorOctets]
    have verified : verifyPeerAuth P cfgR ⟨cfgI.id.toBytes, authI, cfgI.localAuth.shown, some childI, none⟩
        (initiatorSignedOctets P respSa.initMessage respSa.nr respSa.keys.skPi cfgI.id.toBytes) = .ok () := by
      rw [octets]
      exact acceptsI _ rfl rfl
    exact responderProcessAuth_of_verified opened read verified (Identification.parse_toBytes cfgI.id) rfl builtR
      answered
  · have opened := openEncryptedGcm_built correct smallR answered
    rw [matching.keys] at opened
    have read := parse_answerChain cfgR authR cfgR.localAuth.shown childR assigned shapeR.proper smallR
    have octets : responderSignedOctets P initSa.respMessage initSa.ni initSa.keys.skPr cfgR.id.toBytes =
        responderOctets P respSa cfgR.id := by
      rw [← matching.respMessage, ← matching.ni, ← matching.keys, responderOctets]
    have verified : verifyPeerAuth P cfgI ⟨cfgR.id.toBytes, authR, cfgR.localAuth.shown, some childR,
          assigned.map AssignedConfig.ip⟩
        (responderSignedOctets P initSa.respMessage initSa.ni initSa.keys.skPr cfgR.id.toBytes) = .ok () := by
      rw [octets]
      exact acceptsR _ rfl rfl
    exact initiatorVerifyAuth_of_verified opened read verified (Identification.parse_toBytes cfgR.id) rfl
  · rw [matching.keys, matching.ni, matching.nr]
    exact World.mirrored_derive P _ _ _ childR childI

namespace Toy
open Ryke.Toy

def keyedClient : AuthConfig := ⟨alice, .psk psk, .cert [[115]] (some [115]) 500⟩

def certifiedGateway : AuthConfig := ⟨bob, .cert (.rsaSha256 [1]) [[115], [116]], .psk psk⟩

theorem signs_self (key pk : Bytes) : Signs toyMac (.rsaSha256 key) (.rsa pk) := fun digest =>
  ⟨digest, rfl, beq_self_eq_true digest⟩

end Toy

theorem ikeAuth_complete_credentials_mixed :
    ∃ request response,
      initiatorAuthRequest Ryke.Toy.toyMac Toy.initSa Toy.keyedClient 5 (.ofU64 1) = .ok request ∧
      responderProcessAuth Ryke.Toy.toyMac Toy.respSa request Toy.certifiedGateway 7 (.ofU64 2) (some Toy.assigned) =
        .ok (response, Toy.alice, 5) ∧
      initiatorVerifyAuth Ryke.Toy.toyMac Toy.initSa response Toy.keyedClient =
        .ok (Toy.bob, 7, some ⟨10, 9, 0, 2⟩) := by
  have creditsR : Credits Ryke.Toy.toyMac Toy.respSa.peerSignatureHashes Toy.certifiedGateway.localAuth
      Toy.keyedClient.peerAuth :=
    .cert (by decide +kernel) (by decide +kernel) (by decide +kernel) rfl (Toy.signs_self [1] [115])
  have answerFits : (buildLocalAuth Ryke.Toy.toyMac Toy.certifiedGateway Toy.respSa
      (responderOctets Ryke.Toy.toyMac Toy.respSa Toy.bob)).toOption.all (fun built =>
        decide (skPayloadLen (encodePayloadChain
          (responderAuthChain Toy.certifiedGateway built.1 built.2 7 (some Toy.assigned))) < 65536)) = true := by
    decide +kernel
  obtain ⟨request, response, requested, accepted, verified, -⟩ := ikeAuth_complete_credentials Ryke.Toy.toyMac
    Ryke.Toy.toyMac_gcmCorrect Ryke.Toy.toyMac_gcmSeals Toy.initSa Toy.respSa Toy.matching Toy.keyedClient
    Toy.certifiedGateway (.psk Toy.psk) creditsR (.ofU64 1) (.ofU64 2) 5 7 (some Toy.assigned)
    (by
      intro auth certs built
      cases built
      decide +kernel)
    (by
      intro auth certs built
      rw [Toy.certifiedGateway] at built answerFits
      rw [built] at answerFits
      exact of_decide_eq_true answerFits)
  exact ⟨request, response, requested, accepted, verified⟩

end Ryke.Ikev2
