import Ryke.Ikev2.Eap
import Ryke.Ikev2.IkeAuth
import Ryke.Lib.Run
import Ryke.Lib.Table

/-! The EAP-MSCHAPv2 exchange inside `IKE_AUTH`, for both roles. Each side is a machine
that is fed one message at a time and decides by the payloads it finds what to do. -/

namespace Ryke.Ikev2
open Lib Crypto

inductive ServerAuth where
  | psk (secret : Bytes)
  | cert (key : SigningKey) (chain : List Bytes)

inductive ServerVerify where
  | insecure
  | trustedCas (cas : List Bytes) (expectedDns : Bytes) (nowUnix : UInt64)

inductive EapEvent where
  | reply (message : Bytes)
  | established (message : Option Bytes)
  | failed
  deriving DecidableEq, Repr

def ourSkE (sa : CompletedSaInit) : Bytes :=
  match sa.role with
  | .initiator => sa.keys.skEi
  | .responder => sa.keys.skEr

def peerSkE (sa : CompletedSaInit) : Bytes :=
  match sa.role with
  | .initiator => sa.keys.skEr
  | .responder => sa.keys.skEi

def buildSk (P : Primitives) (sa : CompletedSaInit) (msgId : UInt32) (isResponse : Bool) (inner : List Payload)
    (iv : Iv) : Result Bytes :=
  let header : IkeHeader := {
    initiatorSpi := sa.spiI
    responderSpi := sa.spiR
    nextPayload := .noNext
    majorVersion := 2
    minorVersion := 0
    exchangeType := .ikeAuth
    flags := ⟨sa.role == .initiator, false, isResponse⟩
    messageId := msgId
    length := 0 }
  buildEncryptedGcm P header (firstPayloadType inner) (encodePayloadChain inner) (ourSkE sa) iv

def decrypt (P : Primitives) (sa : CompletedSaInit) (message : Bytes) : Result (UInt32 × List Payload) := do
  let header ← IkeHeader.parse message
  let (first, inner) ← openEncryptedGcm P message (peerSkE sa)
  let found ← forPayloads (payloads first inner) [] fun out payload =>
    .ok (out ++ [(payload.payloadType, payload.data)])
  .ok (header.messageId, found)

def find (payloads : List Payload) (want : PayloadType) : Option Bytes :=
  (payloads.find? fun payload => payload.1 == want).map Prod.snd

def replyWith {ε : Type} [Entropy ε] (P : Primitives) (sa : CompletedSaInit) (msgId : UInt32)
    (isResponse : Bool) (inner : List Payload) (event : Bytes → EapEvent) (entropy : ε) :
    Result EapEvent × ε :=
  let (iv, entropy) := Iv.draw entropy
  ((buildSk P sa msgId isResponse inner iv).map event, entropy)

/-! ## The initiator -/

structure EapInitiator where
  sa : CompletedSaInit
  id : Identification
  user : Bytes
  password : Text
  childSpi : UInt32
  ntResponse : Bytes
  verify : ServerVerify
  serverVerified : Bool
  sendCertreq : Bool

namespace EapInitiator

def new (sa : CompletedSaInit) (id : Identification) (user : Bytes) (password : Text) (childSpi : UInt32)
    (verify : ServerVerify) : EapInitiator :=
  ⟨sa, id, user, password, childSpi, List.replicate 24 0, verify, false, false⟩

def setSendCertreq (self : EapInitiator) (on : Bool) : EapInitiator := { self with sendCertreq := on }

def certsOf (ps : List Payload) : List Bytes :=
  (ps.filter fun payload => payload.1 == .certificate).filterMap fun payload =>
    (Certificate.parse payload.2).toOption.map Certificate.data

def verifyServer (P : Primitives) (self : EapInitiator) (ps : List Payload) : Bool :=
  match self.verify with
  | .insecure => true
  | .trustedCas cas expectedDns now =>
      match find ps .idResponder, find ps .authentication with
      | some idr, some authBytes =>
          match certsOf ps with
          | [] => false
          | leaf :: intermediates =>
              match Authentication.parse authBytes with
              | .error _ => false
              | .ok auth =>
                  if auth.method ≠ auth_method.digitalSignature then false
                  else
                    let octets := responderSignedOctets P self.sa.respMessage self.sa.ni self.sa.keys.skPr idr
                    (verifyCertAuth P leaf intermediates cas (some expectedDns) now auth.data octets).isOk
      | _, _ => false

/-- The first message, which carries no AUTH and so asks for EAP. -/
def start {ε : Type} [Entropy ε] (P : Primitives) (self : EapInitiator) (entropy : ε) : Result Bytes × ε :=
  let (iv, entropy) := Iv.draw entropy
  let certreq : List Payload :=
    if self.sendCertreq then [(.certRequest, (CertRequest.x509 [List.replicate 20 0]).toBytes)] else []
  let inner : List Payload :=
    [(.idInitiator, self.id.toBytes), (.securityAssociation, (espOffer self.childSpi).toBytes),
      (.trafficSelectorInitiator, fullTunnelTs), (.trafficSelectorResponder, fullTunnelTs)] ++ certreq
  (buildEncryptedGcm P (ikeAuthHeader self.sa false) (firstPayloadType inner) (encodePayloadChain inner)
    self.sa.keys.skEi iv, entropy)

/-- The responder's last message: its AUTH must be keyed by the same MSK. -/
def confirm (P : Primitives) (self : EapInitiator) (ps : List Payload) : Result EapEvent :=
  match find ps .authentication, find ps .securityAssociation with
  | some authBytes, some _ => do
      let idr := (find ps .idResponder).getD []
      let msk := mschapv2.deriveMsk P self.password self.ntResponse
      let expect := pskAuth P msk
        (responderSignedOctets P self.sa.respMessage self.sa.ni self.sa.keys.skPr idr)
      let got ← Authentication.parse authBytes
      .ok (if got.method = auth_method.sharedKey ∧ got.data = expect then .established none else .failed)
  | _, _ => .ok .failed

def answer {ε : Type} [Entropy ε] (P : Primitives) (self : EapInitiator) (nextId : UInt32) (packet : EapPacket)
    (entropy : ε) : Result EapEvent × EapInitiator × ε :=
  let send (self : EapInitiator) (data : Bytes) (entropy : ε) : Result EapEvent × EapInitiator × ε :=
    let response : EapPacket := ⟨eap.code.response, packet.identifier, data⟩
    let (event, entropy) := replyWith P self.sa nextId false [(.eap, response.toBytes)] .reply entropy
    (event, self, entropy)
  if packet.code = eap.code.failure then (.ok .failed, self, entropy)
  else if packet.code = eap.code.success then
    let msk := mschapv2.deriveMsk P self.password self.ntResponse
    let octets :=
      initiatorSignedOctets P self.sa.initMessage self.sa.nr self.sa.keys.skPi self.id.toBytes
    let auth := pskAuthPayload P msk octets
    let (event, entropy) :=
      replyWith P self.sa nextId false [(.authentication, auth.toBytes)] .reply entropy
    (event, self, entropy)
  else if packet.eapType = some eap.eap_type.identity then
    send self ([eap.eap_type.identity] ++ self.user) entropy
  else if packet.eapType = some eap.eap_type.mschapv2 ∧ packet.data[1]? = some eap.op.challenge then
    match eap.parseChallenge packet.data with
    | .error error => (.error error, self, entropy)
    | .ok (mschapId, authChallenge, _) =>
        let (peerChallenge, entropy) := Entropy.fill entropy 16
        let nt := mschapv2.generateNtResponse P authChallenge peerChallenge self.user self.password
        send { self with ntResponse := nt }
          (eap.buildResponse P mschapId authChallenge peerChallenge self.user self.password) entropy
  else if packet.eapType = some eap.eap_type.mschapv2 ∧ packet.data[1]? = some eap.op.success then
    send self [eap.eap_type.mschapv2, eap.op.success] entropy
  else (.ok .failed, self, entropy)

/-- The part behind the check of the server. -/
def proceed {ε : Type} [Entropy ε] (P : Primitives) (self : EapInitiator) (nextId : UInt32)
    (ps : List Payload) (entropy : ε) : Result EapEvent × EapInitiator × ε :=
  match self.verify, self.serverVerified with
  | .trustedCas _ _ _, false => (.ok .failed, self, entropy)
  | _, _ =>
      match find ps .eap with
      | none => (self.confirm P ps, self, entropy)
      | some eapBytes =>
          match EapPacket.parse eapBytes with
          | .error error => (.error error, self, entropy)
          | .ok packet => self.answer P nextId packet entropy

def handle {ε : Type} [Entropy ε] (P : Primitives) (self : EapInitiator) (message : Bytes) (entropy : ε) :
    Result EapEvent × EapInitiator × ε :=
  match decrypt P self.sa message with
  | .error error => (.error error, self, entropy)
  | .ok (msgId, ps) =>
      if ¬ self.serverVerified ∧ (find ps .idResponder).isSome ∧ (find ps .authentication).isSome then
        if self.verifyServer P ps then
          { self with serverVerified := true }.proceed P (msgId + 1) ps entropy
        else (.ok .failed, self, entropy)
      else self.proceed P (msgId + 1) ps entropy

end EapInitiator

/-! ## The responder -/

structure EapResponder where
  sa : CompletedSaInit
  id : Identification
  auth : ServerAuth
  user : Bytes
  password : Text
  users : Table Bytes Text
  childSpi : UInt32
  eapId : UInt8
  authChallenge : Bytes
  ntResponse : Bytes
  peerIdi : Bytes
  peerChildSpi : Option UInt32
  assigned : Option AssignedConfig

namespace EapResponder

def newMulti (sa : CompletedSaInit) (id : Identification) (auth : ServerAuth) (users : Table Bytes Text)
    (childSpi : UInt32) : EapResponder :=
  ⟨sa, id, auth, [], [], users, childSpi, 1, List.replicate 16 0, List.replicate 24 0, [], none, none⟩

def setAssigned (self : EapResponder) (assigned : Option AssignedConfig) : EapResponder :=
  { self with assigned := assigned }

def ownAuth (P : Primitives) (self : EapResponder) (octets : Bytes) : Result (List Payload) :=
  match self.auth with
  | .psk psk => .ok [(.authentication, (pskAuthPayload P psk octets).toBytes)]
  | .cert key chain => do
      let auth ← certAuthPayload P key self.sa.peerSignatureHashes octets
      .ok (chain.map (fun der => (.certificate, (Certificate.x509 der).toBytes)) ++
        [(.authentication, auth.toBytes)])

def startEap {ε : Type} [Entropy ε] (P : Primitives) (self : EapResponder) (msgId : UInt32)
    (ps : List Payload) (entropy : ε) : Result EapEvent × EapResponder × ε :=
  match find ps .securityAssociation with
  | none => (.ok .failed, self, entropy)
  | some sai2 =>
      let self := { self with
        peerChildSpi := espSpiFromSa sai2
        peerIdi := (find ps .idInitiator).getD [] }
      let idr := self.id.toBytes
      let octets := responderSignedOctets P self.sa.respMessage self.sa.ni self.sa.keys.skPr idr
      match self.ownAuth P octets with
      | .error error => (.error error, self, entropy)
      | .ok auth =>
          let request : EapPacket := ⟨eap.code.request, self.eapId, [eap.eap_type.identity]⟩
          let inner : List Payload := [(.idResponder, idr)] ++ auth ++ [(.eap, request.toBytes)]
          let (event, entropy) := replyWith P self.sa msgId true inner .reply entropy
          (event, self, entropy)

/-- The initiator's last message: its AUTH must be keyed by the MSK in the state. -/
def finish {ε : Type} [Entropy ε] (P : Primitives) (self : EapResponder) (msgId : UInt32) (authBytes : Bytes)
    (entropy : ε) : Result EapEvent × ε :=
  let msk := mschapv2.deriveMsk P self.password self.ntResponse
  let expect := pskAuth P msk
    (initiatorSignedOctets P self.sa.initMessage self.sa.nr self.sa.keys.skPi self.peerIdi)
  match Authentication.parse authBytes with
  | .error error => (.error error, entropy)
  | .ok got =>
      if got.data ≠ expect then (.ok .failed, entropy)
      else
        let idr := self.id.toBytes
        let ourAuth := pskAuthPayload P msk
          (responderSignedOctets P self.sa.respMessage self.sa.ni self.sa.keys.skPr idr)
        let (config, tsi) := assignedPayloads self.assigned
        let inner : List Payload :=
          [(.idResponder, idr), (.authentication, ourAuth.toBytes)] ++ config ++
            [(.securityAssociation, (espOffer self.childSpi).toBytes), (.trafficSelectorInitiator, tsi),
              (.trafficSelectorResponder, fullTunnelTs), (.notify, mobikeSupported.toBytes)]
        replyWith P self.sa msgId true inner (fun message => .established (some message)) entropy

def answer {ε : Type} [Entropy ε] (P : Primitives) (self : EapResponder) (msgId : UInt32) (packet : EapPacket)
    (entropy : ε) : Result EapEvent × EapResponder × ε :=
  let self := { self with eapId := self.eapId + 1 }
  let request (self : EapResponder) (data : Bytes) (entropy : ε) : Result EapEvent × EapResponder × ε :=
    let packet : EapPacket := ⟨eap.code.request, self.eapId, data⟩
    let (event, entropy) := replyWith P self.sa msgId true [(.eap, packet.toBytes)] .reply entropy
    (event, self, entropy)
  if packet.eapType = some eap.eap_type.identity then
    let claimed := packet.data.drop 1
    match self.users.get claimed with
    | none => (.ok .failed, self, entropy)
    | some pw =>
        let (challenge, entropy) := Entropy.fill entropy 16
        request { self with user := claimed, password := pw, authChallenge := challenge }
          (eap.buildChallenge 1 challenge (ascii "ryke")) entropy
  else if packet.eapType = some eap.eap_type.mschapv2 ∧ packet.data[1]? = some eap.op.response then
    match eap.parseResponse packet.data with
    | .error error => (.error error, self, entropy)
    | .ok resp =>
        let nt := mschapv2.generateNtResponse P self.authChallenge resp.peerChallenge self.user self.password
        let self := { self with ntResponse := nt }
        if nt ≠ resp.ntResponse then (.ok .failed, self, entropy)
        else
          let authResp := mschapv2.generateAuthenticatorResponse P self.password nt resp.peerChallenge
            self.authChallenge self.user
          request self (eap.buildSuccess 1 authResp) entropy
  else if packet.eapType = some eap.eap_type.mschapv2 ∧ packet.data[1]? = some eap.op.success then
    let success : EapPacket := ⟨eap.code.success, packet.identifier, []⟩
    let (event, entropy) := replyWith P self.sa msgId true [(.eap, success.toBytes)] .reply entropy
    (event, self, entropy)
  else (.ok .failed, self, entropy)

def handle {ε : Type} [Entropy ε] (P : Primitives) (self : EapResponder) (message : Bytes) (entropy : ε) :
    Result EapEvent × EapResponder × ε :=
  match decrypt P self.sa message with
  | .error error => (.error error, self, entropy)
  | .ok (msgId, ps) =>
      match find ps .eap, find ps .authentication with
      | none, none => self.startEap P msgId ps entropy
      | none, some authBytes =>
          let (event, entropy) := self.finish P msgId authBytes entropy
          (event, self, entropy)
      | some eapBytes, _ =>
          match EapPacket.parse eapBytes with
          | .error error => (.error error, self, entropy)
          | .ok packet => self.answer P msgId packet entropy

/-! ### What a message can change -/

theorem startEap_after {ε : Type} [Entropy ε] (P : Primitives) (self : EapResponder) (msgId : UInt32)
    (ps : List Payload) (entropy : ε) :
    ∃ peerIdi peerChildSpi, (self.startEap P msgId ps entropy).2.1 =
      { self with peerIdi := peerIdi, peerChildSpi := peerChildSpi } := by
  unfold startEap
  split
  next => exact ⟨_, _, rfl⟩
  next =>
    dsimp only
    split
    next => exact ⟨_, _, rfl⟩
    next => exact ⟨_, _, rfl⟩

/-- An EAP packet changes the credentials in use and the challenge, and nothing else. -/
theorem answer_after {ε : Type} [Entropy ε] (P : Primitives) (self : EapResponder) (msgId : UInt32)
    (packet : EapPacket) (entropy : ε) :
    ∃ user password eapId authChallenge ntResponse, (self.answer P msgId packet entropy).2.1 =
      { self with
        user := user
        password := password
        eapId := eapId
        authChallenge := authChallenge
        ntResponse := ntResponse } := by
  unfold answer
  dsimp only
  split
  next =>
    split
    next => exact ⟨_, _, _, _, _, rfl⟩
    next => exact ⟨_, _, _, _, _, rfl⟩
  next =>
    split
    next =>
      split
      next => exact ⟨_, _, _, _, _, rfl⟩
      next =>
        split
        next => exact ⟨_, _, _, _, _, rfl⟩
        next => exact ⟨_, _, _, _, _, rfl⟩
    next =>
      split
      next => exact ⟨_, _, _, _, _, rfl⟩
      next => exact ⟨_, _, _, _, _, rfl⟩

end EapResponder

end Ryke.Ikev2
