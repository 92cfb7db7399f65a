import Ryke.Ikev2.Exchange
import Ryke.Ikev2.Sign
import Ryke.Ikev2.Sk

/-! The `IKE_AUTH` exchange for both roles: the AUTH payload, the request and response
around it, and the readers that look into a request before it is verified. -/

namespace Ryke.Ikev2
open Lib Crypto

/-! ## The AUTH value -/

/-- `"Key Pad for IKEv2"`. -/
def keyPad : Bytes :=
  [0x4b, 0x65, 0x79, 0x20, 0x50, 0x61, 0x64, 0x20, 0x66, 0x6f, 0x72, 0x20, 0x49, 0x4b, 0x45, 0x76, 0x32]

/-- `RealMessage | peer's nonce | prf(SK_p, RestOfID)`. -/
def signedOctets (P : Primitives) (realMessage peerNonce skP idBody : Bytes) : Bytes :=
  realMessage ++ peerNonce ++ prf P skP idBody

def initiatorSignedOctets (P : Primitives) (realMessageI nr skPi idiBody : Bytes) : Bytes :=
  signedOctets P realMessageI nr skPi idiBody

def responderSignedOctets (P : Primitives) (realMessageR ni skPr idrBody : Bytes) : Bytes :=
  signedOctets P realMessageR ni skPr idrBody

def pskAuth (P : Primitives) (psk octets : Bytes) : Bytes := prf P (prf P psk keyPad) octets

/-! ## Configuration -/

inductive LocalAuth where
  | psk (secret : Bytes)
  | cert (key : SigningKey) (chain : List Bytes)

inductive PeerAuth where
  | psk (secret : Bytes)
  | cert (cas : List Bytes) (expectedDns : Option Bytes) (nowUnix : UInt64)

structure AuthConfig where
  id : Identification
  localAuth : LocalAuth
  peerAuth : PeerAuth

def AuthConfig.psk (id : Identification) (secret : Bytes) : AuthConfig := ⟨id, .psk secret, .psk secret⟩

structure AssignedConfig where
  ip : Ipv4Addr
  dns : List Ipv4Addr

def espOffer (spi : UInt32) : SecurityAssociation :=
  ⟨[⟨1, protocol_id.esp, u32Bytes spi,
    [⟨transform_type.encr, transform_id.aesGcm16, some 256⟩,
      ⟨transform_type.esn, transform_id.esnNone, none⟩]⟩]⟩

def fullTunnelTs : Bytes := (TrafficSelectors.mk [.ipv4Any]).toBytes

def ikeAuthHeader (sa : CompletedSaInit) (isResponse : Bool) : IkeHeader where
  initiatorSpi := sa.spiI
  responderSpi := sa.spiR
  nextPayload := .noNext
  majorVersion := 2
  minorVersion := 0
  exchangeType := .ikeAuth
  flags := ⟨!isResponse, false, isResponse⟩
  messageId := 1
  length := 0

/-! ## Reading the decrypted payloads -/

structure AuthPayloads where
  idBody : Bytes
  auth : Authentication
  certs : List Bytes
  childSpi : Option UInt32
  assignedIp4 : Option Ipv4Addr

structure AuthFound where
  idBody : Option Bytes := none
  auth : Option Authentication := none
  certs : List Bytes := []
  childSpi : Option UInt32 := none
  assignedIp4 : Option Ipv4Addr := none

/-- The 4-byte SPI of an SA payload's first proposal. -/
def espSpiFromSa (sa : Bytes) : Option UInt32 :=
  if sa.length ≥ 12 ∧ byteAt sa 6 = 4 then some (u32At sa 8) else none

def AuthFound.add (found : AuthFound) (payload : RawPayload) : Result AuthFound :=
  match payload.payloadType with
  | .idInitiator | .idResponder => .ok { found with idBody := some payload.data }
  | .authentication => do
      let auth ← Authentication.parse payload.data
      .ok { found with auth := some auth }
  | .certificate =>
      match Certificate.parse payload.data with
      | .ok cert => .ok { found with certs := found.certs ++ [cert.data] }
      | .error _ => .ok found
  | .securityAssociation => .ok { found with childSpi := espSpiFromSa payload.data }
  | .configuration =>
      match Configuration.parse payload.data with
      | .ok cp => .ok { found with assignedIp4 := cp.assignedIpv4 }
      | .error _ => .ok found
  | _ => .ok found

def AuthFound.finish (found : AuthFound) : Result AuthPayloads := do
  let idBody ← okOr found.idBody (.missingPayload "ID")
  let auth ← okOr found.auth (.missingPayload "AUTH")
  .ok ⟨idBody, auth, found.certs, found.childSpi, found.assignedIp4⟩

def parseAuthInner (first : PayloadType) (inner : Bytes) : Result AuthPayloads := do
  let found ← forPayloads (payloads first inner) {} AuthFound.add
  found.finish

/-! ## Producing and verifying AUTH -/

def pskAuthPayload (P : Primitives) (psk octets : Bytes) : Authentication :=
  ⟨auth_method.sharedKey, pskAuth P psk octets⟩

def ctEq (a b : Bytes) : Bool :=
  if a.length ≠ b.length then false
  else (a.zip b).foldl (fun diff (x, y) => diff ||| (x ^^^ y)) 0 == 0

def verifyPsk (P : Primitives) (auth : Authentication) (psk expectedOctets : Bytes) : Result Unit :=
  if auth.method = auth_method.sharedKey ∧ ctEq auth.data (pskAuth P psk expectedOctets) then .ok ()
  else .error .authFailed

/-- Method 14 where the peer advertised SHA-256, else the classic method 9. -/
def certAuthPayload (P : Primitives) (key : SigningKey) (peerSignatureHashes : List UInt16)
    (octets : Bytes) : Result Authentication :=
  if peerSignatureHashes.contains 2 then do
    let data ← key.signAuthData P octets
    .ok ⟨auth_method.digitalSignature, data⟩
  else do
    let data ← key.signEcdsaP256Raw P octets
    .ok ⟨auth_method.ecdsaSha256P256, data⟩

def buildLocalAuth (P : Primitives) (cfg : AuthConfig) (sa : CompletedSaInit) (octets : Bytes) :
    Result (Authentication × List Payload) :=
  match cfg.localAuth with
  | .psk secret => .ok (pskAuthPayload P secret octets, [])
  | .cert key chain => do
      let auth ← certAuthPayload P key sa.peerSignatureHashes octets
      .ok (auth, chain.map fun der => (.certificate, (Certificate.x509 der).toBytes))

def verifyPeerAuth (P : Primitives) (cfg : AuthConfig) (got : AuthPayloads) (expectedOctets : Bytes) :
    Result Unit :=
  match cfg.peerAuth with
  | .psk secret => verifyPsk P got.auth secret expectedOctets
  | .cert cas expectedDns nowUnix =>
      if got.auth.method ≠ auth_method.digitalSignature then .error .authFailed
      else do
        let leaf ← okOr got.certs.head? (.missingPayload "CERT")
        verifyCertAuth P leaf got.certs.tail cas expectedDns nowUnix got.auth.data expectedOctets

/-! ## The two roles -/

def certRequestPayloads (P : Primitives) (cfg : AuthConfig) : List Payload :=
  match cfg.peerAuth with
  | .psk _ => []
  | .cert cas _ _ =>
      [(.certRequest, (CertRequest.x509 (cas.filterMap fun ca => (caKeyHash P ca).toOption)).toBytes)]

def initiatorAuthChain (P : Primitives) (cfg : AuthConfig) (auth : Authentication)
    (certPayloads : List Payload) (childSpi : UInt32) : List Payload :=
  [(.idInitiator, cfg.id.toBytes)] ++ certPayloads ++ certRequestPayloads P cfg ++
    [(.authentication, auth.toBytes), (.securityAssociation, (espOffer childSpi).toBytes),
      (.trafficSelectorInitiator, fullTunnelTs), (.trafficSelectorResponder, fullTunnelTs)]

def initiatorAuthRequest (P : Primitives) (sa : CompletedSaInit) (cfg : AuthConfig) (childSpi : UInt32)
    (iv : Iv) : Result Bytes := do
  let octets := initiatorSignedOctets P sa.initMessage sa.nr sa.keys.skPi cfg.id.toBytes
  let (auth, certPayloads) ← buildLocalAuth P cfg sa octets
  let chain := initiatorAuthChain P cfg auth certPayloads childSpi
  buildEncryptedGcm P (ikeAuthHeader sa false) (firstPayloadType chain) (encodePayloadChain chain)
    sa.keys.skEi iv

def mobikeSupported : Notify := .status notify_type.mobikeSupported []

/-- The assigned address as a CFG_REPLY, and TSi narrowed to it. -/
def assignedPayloads (assigned : Option AssignedConfig) : List Payload × Bytes :=
  match assigned with
  | some a => ([(.configuration, (Configuration.replyIpv4 a.ip none a.dns.head?).toBytes)],
      (TrafficSelectors.mk [.ipv4Host a.ip]).toBytes)
  | none => ([], fullTunnelTs)

def responderAuthChain (cfg : AuthConfig) (auth : Authentication) (certPayloads : List Payload)
    (childSpi : UInt32) (assigned : Option AssignedConfig) : List Payload :=
  [(.idResponder, cfg.id.toBytes)] ++ certPayloads ++ [(.authentication, auth.toBytes)] ++
    (assignedPayloads assigned).1 ++
    [(.securityAssociation, (espOffer childSpi).toBytes),
      (.trafficSelectorInitiator, (assignedPayloads assigned).2),
      (.trafficSelectorResponder, fullTunnelTs), (.notify, mobikeSupported.toBytes)]

def responderProcessAuth (P : Primitives) (sa : CompletedSaInit) (request : Bytes) (cfg : AuthConfig)
    (childSpi : UInt32) (iv : Iv) (assigned : Option AssignedConfig) :
    Result (Bytes × Identification × UInt32) := do
  let (first, inner) ← openEncryptedGcm P request sa.keys.skEi
  let got ← parseAuthInner first inner
  verifyPeerAuth P cfg got (initiatorSignedOctets P sa.initMessage sa.nr sa.keys.skPi got.idBody)
  let peerId ← Identification.parse got.idBody
  let peerChildSpi ← okOr got.childSpi (.missingPayload "SA")
  let ourOctets := responderSignedOctets P sa.respMessage sa.ni sa.keys.skPr cfg.id.toBytes
  let (auth, certPayloads) ← buildLocalAuth P cfg sa ourOctets
  let chain := responderAuthChain cfg auth certPayloads childSpi assigned
  let response ← buildEncryptedGcm P (ikeAuthHeader sa true) (firstPayloadType chain)
    (encodePayloadChain chain) sa.keys.skEr iv
  .ok (response, peerId, peerChildSpi)

def peerIdFromAuth (P : Primitives) (sa : CompletedSaInit) (request : Bytes) : Result Identification := do
  let (first, inner) ← openEncryptedGcm P request sa.keys.skEi
  let got ← parseAuthInner first inner
  Identification.parse got.idBody

def flatten (items : List (Result RawPayload)) : List RawPayload := items.filterMap Except.toOption

/-- The initiator's identity, whether or not the request carries AUTH. -/
def peerIdFromRequest (P : Primitives) (sa : CompletedSaInit) (request : Bytes) : Option Identification := do
  let (first, inner) ← (openEncryptedGcm P request sa.keys.skEi).toOption
  let idi ← (flatten (payloads first inner)).find? fun p => p.payloadType == .idInitiator
  (Identification.parse idi.data).toOption

/-- A request without AUTH asks for EAP. -/
def isEapRequest (P : Primitives) (sa : CompletedSaInit) (request : Bytes) : Bool :=
  match openEncryptedGcm P request sa.keys.skEi with
  | .error _ => false
  | .ok (first, inner) =>
      !(flatten (payloads first inner)).any fun p => p.payloadType == .authentication

def initiatorVerifyAuth (P : Primitives) (sa : CompletedSaInit) (response : Bytes) (cfg : AuthConfig) :
    Result (Identification × UInt32 × Option Ipv4Addr) := do
  let (first, inner) ← openEncryptedGcm P response sa.keys.skEr
  let got ← parseAuthInner first inner
  verifyPeerAuth P cfg got (responderSignedOctets P sa.respMessage sa.ni sa.keys.skPr got.idBody)
  let peerChildSpi ← okOr got.childSpi (.missingPayload "SA")
  let id ← Identification.parse got.idBody
  .ok (id, peerChildSpi, got.assignedIp4)

/-! ## What acceptance implies -/

theorem responderProcessAuth_eq_ok {P : Primitives} {sa : CompletedSaInit} {request : Bytes}
    {cfg : AuthConfig} {childSpi : UInt32} {iv : Iv} {assigned : Option AssignedConfig} {response : Bytes}
    {peerId : Identification} {peerChildSpi : UInt32}
    (accepted : responderProcessAuth P sa request cfg childSpi iv assigned =
      .ok (response, peerId, peerChildSpi)) :
    ∃ first inner got auth certs, openEncryptedGcm P request sa.keys.skEi = .ok (first, inner) ∧
      parseAuthInner first inner = .ok got ∧
      verifyPeerAuth P cfg got (initiatorSignedOctets P sa.initMessage sa.nr sa.keys.skPi got.idBody) =
        .ok () ∧
      Identification.parse got.idBody = .ok peerId ∧ got.childSpi = some peerChildSpi ∧
      buildLocalAuth P cfg sa (responderSignedOctets P sa.respMessage sa.ni sa.keys.skPr cfg.id.toBytes) =
        .ok (auth, certs) ∧
      buildEncryptedGcm P (ikeAuthHeader sa true)
        (firstPayloadType (responderAuthChain cfg auth certs childSpi assigned))
        (encodePayloadChain (responderAuthChain cfg auth certs childSpi assigned)) sa.keys.skEr iv =
          .ok response := by
  obtain ⟨⟨first, inner⟩, opened, accepted⟩ := bind_eq_ok accepted
  obtain ⟨got, read, accepted⟩ := bind_eq_ok accepted
  obtain ⟨_, verified, accepted⟩ := bind_eq_ok accepted
  obtain ⟨id, parsed, accepted⟩ := bind_eq_ok accepted
  obtain ⟨spi, hasSpi, accepted⟩ := bind_eq_ok accepted
  obtain ⟨⟨auth, certs⟩, ours, accepted⟩ := bind_eq_ok accepted
  obtain ⟨message, built, accepted⟩ := bind_eq_ok accepted
  cases accepted
  exact ⟨first, inner, got, auth, certs, opened, read, verified, parsed, okOr_eq_ok hasSpi, ours, built⟩

theorem initiatorVerifyAuth_eq_ok {P : Primitives} {sa : CompletedSaInit} {response : Bytes}
    {cfg : AuthConfig} {peerId : Identification} {peerChildSpi : UInt32} {assignedIp : Option Ipv4Addr}
    (accepted : initiatorVerifyAuth P sa response cfg = .ok (peerId, peerChildSpi, assignedIp)) :
    ∃ first inner got, openEncryptedGcm P response sa.keys.skEr = .ok (first, inner) ∧
      parseAuthInner first inner = .ok got ∧
      verifyPeerAuth P cfg got (responderSignedOctets P sa.respMessage sa.ni sa.keys.skPr got.idBody) =
        .ok () ∧
      Identification.parse got.idBody = .ok peerId ∧ got.childSpi = some peerChildSpi := by
  obtain ⟨⟨first, inner⟩, opened, accepted⟩ := bind_eq_ok accepted
  obtain ⟨got, read, accepted⟩ := bind_eq_ok accepted
  obtain ⟨_, verified, accepted⟩ := bind_eq_ok accepted
  obtain ⟨spi, hasSpi, accepted⟩ := bind_eq_ok accepted
  obtain ⟨id, parsed, accepted⟩ := bind_eq_ok accepted
  cases accepted
  exact ⟨first, inner, got, opened, read, verified, parsed, okOr_eq_ok hasSpi⟩

/-! ## What the readers of one request see -/

theorem flatten_map_ok (chain : List RawPayload) : flatten (chain.map .ok) = chain := by
  induction chain with
  | nil => rfl
  | cons payload rest ih =>
    rw [flatten, List.map_cons, List.filterMap_cons]
    exact congrArg (payload :: ·) ih

def isId (payload : RawPayload) : Bool :=
  payload.payloadType == .idInitiator || payload.payloadType == .idResponder

def isAuth (payload : RawPayload) : Bool := payload.payloadType == .authentication

def isSa (payload : RawPayload) : Bool := payload.payloadType == .securityAssociation

/-- The last payload of a kind: the one that a loop over the chain keeps. -/
def lastOf (kind : RawPayload → Bool) (chain : List RawPayload) : Option RawPayload :=
  chain.reverse.find? kind

theorem lastOf_eq_some {kind : RawPayload → Bool} {chain : List RawPayload} {payload : RawPayload}
    (isLast : lastOf kind chain = some payload) : payload ∈ chain ∧ kind payload = true :=
  ⟨List.mem_reverse.mp (List.mem_of_find?_eq_some isLast), List.find?_some isLast⟩

theorem lastOf_cons (kind : RawPayload → Bool) (payload : RawPayload) (chain : List RawPayload) :
    lastOf kind (payload :: chain) =
      (lastOf kind chain).or (if kind payload then some payload else none) := by
  rw [lastOf, List.reverse_cons, List.find?_append, lastOf, List.find?_singleton]

structure AuthFound.Keeps (found after : AuthFound) (id auth sa : Option RawPayload) : Prop where
  idBody : after.idBody = (id.map RawPayload.data).or found.idBody
  authFrom : ∀ payload ∈ auth, (Authentication.parse payload.data).toOption = after.auth
  authElse : auth = none → after.auth = found.auth
  childSpi : after.childSpi = (match sa with
    | some payload => espSpiFromSa payload.data
    | none => found.childSpi)

theorem AuthFound.add_eq_ok {found after : AuthFound} {payload : RawPayload}
    (added : found.add payload = .ok after) :
    found.Keeps after (if isId payload then some payload else none)
      (if isAuth payload then some payload else none) (if isSa payload then some payload else none) := by
  obtain ⟨kind, critical, data⟩ := payload
  have keeps : ∀ {result : AuthFound}, .ok result = (.ok after : Result AuthFound) →
      result.idBody = found.idBody → result.auth = found.auth → result.childSpi = found.childSpi →
      found.Keeps after none none none := by
    intro result same idBody auth childSpi
    cases same
    exact ⟨idBody, nofun, fun _ => auth, childSpi⟩
  cases kind <;> simp only [AuthFound.add] at added
  case authentication =>
    obtain ⟨auth, parsed, added⟩ := bind_eq_ok added
    cases added
    refine ⟨rfl, ?_, nofun, rfl⟩
    rintro payload ⟨⟩
    rw [parsed]
    rfl
  case certificate | configuration => split at added <;> exact keeps added rfl rfl rfl
  case idInitiator | idResponder | securityAssociation =>
    cases added
    exact ⟨rfl, nofun, fun _ => rfl, rfl⟩
  all_goals exact keeps added rfl rfl rfl

theorem AuthFound.foldlM_add {chain : List RawPayload} {found after : AuthFound}
    (added : chain.foldlM AuthFound.add found = .ok after) :
    found.Keeps after (lastOf isId chain) (lastOf isAuth chain) (lastOf isSa chain) := by
  induction chain generalizing found with
  | nil =>
    cases added
    exact ⟨rfl, nofun, fun _ => rfl, rfl⟩
  | cons payload rest ih =>
    rw [List.foldlM_cons] at added
    obtain ⟨next, here, later⟩ := bind_eq_ok added
    have first := AuthFound.add_eq_ok here
    have others := ih later
    simp only [lastOf_cons]
    refine ⟨?_, ?_, ?_, ?_⟩
    · rw [others.idBody, first.idBody]
      cases lastOf isId rest <;> rfl
    · intro kept isKept
      cases inRest : lastOf isAuth rest with
      | some last =>
        rw [inRest] at isKept
        exact others.authFrom kept (inRest ▸ isKept)
      | none =>
        rw [inRest] at isKept
        rw [first.authFrom kept isKept, others.authElse inRest]
    · intro absent
      rw [Option.or_eq_none_iff] at absent
      rw [others.authElse absent.1, first.authElse absent.2]
    · rw [others.childSpi]
      cases lastOf isSa rest with
      | some last => rfl
      | none => exact first.childSpi

/-- An accepted chain has an ID, an AUTH and perhaps an SA, the last of each kept. -/
theorem parseAuthInner_eq_ok {first : PayloadType} {inner : Bytes} {got : AuthPayloads}
    (read : parseAuthInner first inner = .ok got) :
    ∃ chain id auth, payloads first inner = chain.map .ok ∧
      lastOf isId chain = some id ∧ got.idBody = id.data ∧
      lastOf isAuth chain = some auth ∧ Authentication.parse auth.data = .ok got.auth ∧
      got.childSpi = (lastOf isSa chain).bind fun sa => espSpiFromSa sa.data := by
  obtain ⟨found, walked, finished⟩ := bind_eq_ok read
  obtain ⟨chain, items, folded⟩ := forPayloads_eq_ok walked
  have keeps := AuthFound.foldlM_add folded
  obtain ⟨body, hasId, finished⟩ := bind_eq_ok finished
  obtain ⟨value, hasAuth, finished⟩ := bind_eq_ok finished
  cases finished
  have idBody := keeps.idBody
  rw [okOr_eq_ok hasId, Option.or_none] at idBody
  obtain ⟨id, isLast, rfl⟩ := Option.map_eq_some_iff.mp idBody.symm
  cases authCase : lastOf isAuth chain with
  | none =>
    have missing := keeps.authElse authCase
    rw [okOr_eq_ok hasAuth] at missing
    cases missing
  | some auth =>
    have parsed := keeps.authFrom auth (by rw [authCase]; rfl)
    rw [okOr_eq_ok hasAuth] at parsed
    refine ⟨chain, id, auth, items, isLast, rfl, authCase, ?_, ?_⟩
    · cases own : Authentication.parse auth.data with
      | error error => rw [own] at parsed; cases parsed
      | ok found => rw [own] at parsed; cases parsed; rfl
    · rw [keeps.childSpi]
      cases lastOf isSa chain <;> rfl

def requestChain (P : Primitives) (sa : CompletedSaInit) (request : Bytes) : List RawPayload :=
  match openEncryptedGcm P request sa.keys.skEi with
  | .ok (first, inner) => flatten (payloads first inner)
  | .error _ => []

/-- The first IDi names the identity of the last IDi or IDr: same type, same data. -/
def SameIdentity (chain : List RawPayload) : Prop :=
  ∃ idi ∈ chain.find? (fun p => p.payloadType == .idInitiator), ∃ last ∈ lastOf isId chain,
    4 ≤ idi.data.length ∧ byteAt idi.data 0 = byteAt last.data 0 ∧ idi.data.drop 4 = last.data.drop 4

theorem Identification.parse_eq_ok_iff {body : Bytes} {id : Identification} :
    Identification.parse body = .ok id ↔
      4 ≤ body.length ∧ id.idType = byteAt body 0 ∧ id.data = body.drop 4 := by
  rw [Identification.parse, parseTagged]
  by_cases short : body.length < 4
  · rw [if_pos short]
    exact ⟨fun parsed => (by cases parsed), fun parsed => absurd parsed.1 (by omega)⟩
  · rw [if_neg short, ok_bind]
    constructor
    · intro parsed
      cases parsed
      exact ⟨by omega, rfl, rfl⟩
    · rintro ⟨-, kind, data⟩
      obtain ⟨idType, idData⟩ := id
      exact congrArg Except.ok (by rw [← kind, ← data])

/-- The readers of an accepted request agree exactly when its first IDi and its last ID
are one identity. -/
theorem readers_agree_iff (P : Primitives) (sa : CompletedSaInit) (request : Bytes) (cfg : AuthConfig)
    (childSpi : UInt32) (iv : Iv) (assigned : Option AssignedConfig) (response : Bytes)
    (peerId : Identification) (peerChildSpi : UInt32)
    (accepted : responderProcessAuth P sa request cfg childSpi iv assigned =
      .ok (response, peerId, peerChildSpi)) :
    (peerIdFromAuth P sa request = .ok peerId ∧ peerIdFromRequest P sa request = some peerId ∧
      isEapRequest P sa request = false) ↔ SameIdentity (requestChain P sa request) := by
  obtain ⟨first, inner, got, auth, certs, opened, read, -, parsed, -⟩ := responderProcessAuth_eq_ok accepted
  obtain ⟨list, last, authPayload, items, isLast, idBody, isAuthLast, -⟩ := parseAuthInner_eq_ok read
  have walked : flatten (payloads first inner) = list := by rw [items, flatten_map_ok]
  have hasAuth : list.any (fun p => p.payloadType == .authentication) = true :=
    List.any_eq_true.mpr ⟨authPayload, lastOf_eq_some isAuthLast⟩
  have chain : requestChain P sa request = list := by rw [requestChain, opened, ← walked]
  have fromAuth : peerIdFromAuth P sa request = .ok peerId := by
    rw [peerIdFromAuth, opened, ok_bind]
    change (parseAuthInner first inner >>= _) = _
    rw [read, ok_bind, parsed]
  have notEap : isEapRequest P sa request = false := by
    rw [isEapRequest, opened]
    dsimp only
    rw [walked, hasAuth]
    rfl
  have fromRequest : peerIdFromRequest P sa request = (do
      let idi ← list.find? fun p => p.payloadType == .idInitiator
      (Identification.parse idi.data).toOption) := by
    rw [peerIdFromRequest, opened, ← walked]
    rfl
  rw [idBody] at parsed
  obtain ⟨lastLong, lastType, lastData⟩ := Identification.parse_eq_ok_iff.mp parsed
  simp only [fromAuth, notEap, true_and, and_true, fromRequest, chain, SameIdentity, isLast,
    Option.mem_def, Option.some.injEq, exists_eq_left']
  refine Option.bind_eq_some_iff.trans (exists_congr fun idi => and_congr_right fun _ => ?_)
  constructor
  · intro same
    cases own : Identification.parse idi.data with
    | error error => rw [own] at same; cases same
    | ok found =>
      rw [own] at same
      cases same
      obtain ⟨long, kind, data⟩ := Identification.parse_eq_ok_iff.mp own
      exact ⟨long, kind.symm.trans lastType, data.symm.trans lastData⟩
  · rintro ⟨long, kind, data⟩
    rw [Identification.parse_eq_ok_iff.mpr ⟨long, lastType.trans kind.symm, lastData.trans data.symm⟩]
    rfl

namespace Toy
open Ryke.Toy

def saInitRequest : Bytes := initiatorRequest toy initiatorSecret defaultOffer

def saInitAnswer : Bytes × CompletedSaInit :=
  (responderRespond toy saInitRequest responderSecret).toOption.getD default

def respSa : CompletedSaInit := saInitAnswer.2

def initSa : CompletedSaInit :=
  (initiatorComplete toy initiatorSecret saInitRequest saInitAnswer.1).toOption.getD default

def alice : Identification := ⟨2, [97]⟩
def bob : Identification := ⟨2, [98]⟩
def psk : Bytes := [112, 115, 107]
def serverConfig : AuthConfig := .psk ⟨2, [115]⟩ psk

def authRequest (ids : List Identification) (proved : Identification) : Bytes :=
  let octets := initiatorSignedOctets toy respSa.initMessage respSa.nr respSa.keys.skPi proved.toBytes
  let chain : List Payload := ids.map (fun id => (.idInitiator, id.toBytes)) ++
    [(.authentication, (pskAuthPayload toy psk octets).toBytes), (.securityAssociation, (espOffer 5).toBytes)]
  (buildEncryptedGcm toy (ikeAuthHeader respSa false) (firstPayloadType chain) (encodePayloadChain chain)
    respSa.keys.skEi (.ofU64 1)).toOption.getD []

end Toy

theorem readers_agree_iff_one_id :
    ∃ response,
      responderProcessAuth toy Toy.respSa (Toy.authRequest [Toy.alice] Toy.alice) Toy.serverConfig 7
        (.ofU64 2) none = .ok (response, Toy.alice, 5) ∧
      ((peerIdFromAuth toy Toy.respSa (Toy.authRequest [Toy.alice] Toy.alice) = .ok Toy.alice ∧
        peerIdFromRequest toy Toy.respSa (Toy.authRequest [Toy.alice] Toy.alice) = some Toy.alice ∧
        isEapRequest toy Toy.respSa (Toy.authRequest [Toy.alice] Toy.alice) = false) ↔
      SameIdentity (requestChain toy Toy.respSa (Toy.authRequest [Toy.alice] Toy.alice))) := by
  have run : (responderProcessAuth toy Toy.respSa (Toy.authRequest [Toy.alice] Toy.alice) Toy.serverConfig 7
      (.ofU64 2) none).map Prod.snd = .ok (Toy.alice, 5) := by
    decide +kernel
  obtain ⟨response, accepted⟩ := exists_of_map_snd run
  exact ⟨response, accepted, readers_agree_iff toy Toy.respSa _ Toy.serverConfig 7 (.ofU64 2) none response
    Toy.alice 5 accepted⟩

/-- A request that names alice first and bob last, with AUTH over bob, is accepted as
bob's, while the reader of the request's IDi reports alice. -/
theorem readers_disagree_two_ids :
    ∃ response,
      responderProcessAuth toy Toy.respSa (Toy.authRequest [Toy.alice, Toy.bob] Toy.bob) Toy.serverConfig 7
        (.ofU64 2) none = .ok (response, Toy.bob, 5) ∧
      ¬ (peerIdFromAuth toy Toy.respSa (Toy.authRequest [Toy.alice, Toy.bob] Toy.bob) = .ok Toy.bob ∧
        peerIdFromRequest toy Toy.respSa (Toy.authRequest [Toy.alice, Toy.bob] Toy.bob) = some Toy.bob ∧
        isEapRequest toy Toy.respSa (Toy.authRequest [Toy.alice, Toy.bob] Toy.bob) = false) := by
  have run : (responderProcessAuth toy Toy.respSa (Toy.authRequest [Toy.alice, Toy.bob] Toy.bob)
      Toy.serverConfig 7 (.ofU64 2) none).map Prod.snd = .ok (Toy.bob, 5) := by
    decide +kernel
  have other : peerIdFromRequest toy Toy.respSa (Toy.authRequest [Toy.alice, Toy.bob] Toy.bob) =
      some Toy.alice := by
    decide +kernel
  obtain ⟨response, accepted⟩ := exists_of_map_snd run
  refine ⟨response, accepted, fun agree => ?_⟩
  have same := other.symm.trans agree.2.1
  exact absurd same (by decide)

end Ryke.Ikev2
