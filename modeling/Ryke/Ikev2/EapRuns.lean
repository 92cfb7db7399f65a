import Ryke.Ikev2.EapAuth

/-! What whole runs of the two EAP machines guarantee, whatever messages they are fed
and in whatever order. -/

namespace Ryke.Ikev2
open Lib Crypto

/-! ## The initiator's credential firewall -/

namespace EapInitiator

def machine {ε : Type} [Entropy ε] (P : Primitives) : Machine EapInitiator (Bytes × ε) (Result EapEvent) :=
  fun self (message, entropy) =>
    let (event, after, _) := self.handle P message entropy
    (event, after)

/-- The message carries a server certificate and a signature that check out. -/
def ServerProved (P : Primitives) (sa : CompletedSaInit) (cas : List Bytes) (expectedDns : Bytes)
    (nowUnix : UInt64) (message : Bytes) : Prop :=
  ∃ msgId ps idr authBytes auth leaf intermediates,
    decrypt P sa message = .ok (msgId, ps) ∧ find ps .idResponder = some idr ∧
    find ps .authentication = some authBytes ∧ Authentication.parse authBytes = .ok auth ∧
    auth.method = auth_method.digitalSignature ∧ certsOf ps = leaf :: intermediates ∧
    verifyCertAuth P leaf intermediates cas (some expectedDns) nowUnix auth.data
      (responderSignedOctets P sa.respMessage sa.ni sa.keys.skPr idr) = .ok ()

def Answers (event : Result EapEvent) : Prop :=
  (∃ message, event = .ok (.reply message)) ∨ ∃ last, event = .ok (.established last)

theorem not_answers_failed : ¬ Answers (.ok .failed) := by
  rintro (⟨message, reply⟩ | ⟨last, established⟩)
  · cases reply
  · cases established

theorem not_answers_error (error : IkeError) : ¬ Answers (.error error) := by
  rintro (⟨message, reply⟩ | ⟨last, established⟩)
  · cases reply
  · cases established

theorem serverProved_of_verifyServer {P : Primitives} {self : EapInitiator} {cas : List Bytes}
    {expectedDns : Bytes} {nowUnix : UInt64} (requires : self.verify = .trustedCas cas expectedDns nowUnix)
    {message : Bytes} {msgId : UInt32} {ps : List Payload} (opened : decrypt P self.sa message = .ok (msgId, ps))
    (verified : self.verifyServer P ps = true) :
    ServerProved P self.sa cas expectedDns nowUnix message := by
  unfold verifyServer at verified
  rw [requires] at verified
  dsimp only at verified
  split at verified
  next idr authBytes hasId hasAuth =>
    split at verified
    next => cases verified
    next leaf intermediates certs =>
      split at verified
      next => cases verified
      next auth parsed =>
        split at verified
        next => cases verified
        next method =>
          obtain ⟨⟨⟩, accepted⟩ := exists_of_isOk verified
          exact ⟨msgId, ps, idr, authBytes, auth, leaf, intermediates, opened, hasId, hasAuth, parsed,
            not_not.mp method, certs, accepted⟩
  next => cases verified

/-- What a call leaves as it was. -/
structure Keeps (before after : EapInitiator) : Prop where
  sa : after.sa = before.sa
  verify : after.verify = before.verify
  serverVerified : after.serverVerified = before.serverVerified

theorem answer_keeps {ε : Type} [Entropy ε] (P : Primitives) (self : EapInitiator) (nextId : UInt32)
    (packet : EapPacket) (entropy : ε) : self.Keeps (self.answer P nextId packet entropy).2.1 := by
  unfold answer
  dsimp only
  split
  next => exact ⟨rfl, rfl, rfl⟩
  next =>
    split
    next => exact ⟨rfl, rfl, rfl⟩
    next =>
      split
      next => exact ⟨rfl, rfl, rfl⟩
      next =>
        split
        next => split <;> exact ⟨rfl, rfl, rfl⟩
        next => split <;> exact ⟨rfl, rfl, rfl⟩

theorem proceed_keeps {ε : Type} [Entropy ε] (P : Primitives) (self : EapInitiator) (nextId : UInt32)
    (ps : List Payload) (entropy : ε) : self.Keeps (self.proceed P nextId ps entropy).2.1 := by
  unfold proceed
  split
  next => exact ⟨rfl, rfl, rfl⟩
  next =>
    split
    next => exact ⟨rfl, rfl, rfl⟩
    next =>
      split
      next => exact ⟨rfl, rfl, rfl⟩
      next => exact answer_keeps P self nextId _ entropy

theorem serverVerified_of_proceed {ε : Type} [Entropy ε] {P : Primitives} {self : EapInitiator}
    {cas : List Bytes} {expectedDns : Bytes} {nowUnix : UInt64}
    (requires : self.verify = .trustedCas cas expectedDns nowUnix) {nextId : UInt32} {ps : List Payload}
    {entropy : ε} (answers : Answers (self.proceed P nextId ps entropy).1) : self.serverVerified = true := by
  cases verified : self.serverVerified with
  | true => rfl
  | false =>
    have blocked : self.proceed P nextId ps entropy = (.ok .failed, self, entropy) := by
      rw [proceed, requires, verified]
    rw [blocked] at answers
    exact absurd answers not_answers_failed

/-- What one call does to the check of the server. -/
structure Guarded (P : Primitives) (cas : List Bytes) (expectedDns : Bytes) (nowUnix : UInt64)
    (before : EapInitiator) (message : Bytes) (event : Result EapEvent) (after : EapInitiator) : Prop where
  sa : after.sa = before.sa
  verify : after.verify = before.verify
  raise : after.serverVerified = true →
    before.serverVerified = true ∨ ServerProved P before.sa cas expectedDns nowUnix message
  answers : Answers event → after.serverVerified = true

theorem handle_guarded {ε : Type} [Entropy ε] (P : Primitives) {self : EapInitiator} {cas : List Bytes}
    {expectedDns : Bytes} {nowUnix : UInt64} (requires : self.verify = .trustedCas cas expectedDns nowUnix)
    (message : Bytes) (entropy : ε) :
    Guarded P cas expectedDns nowUnix self message (self.handle P message entropy).1
      (self.handle P message entropy).2.1 := by
  unfold handle
  split
  next error _ => exact ⟨rfl, rfl, .inl, fun answers => absurd answers (not_answers_error error)⟩
  next msgId ps opened =>
    split
    next =>
      split
      next verified =>
        have keeps := proceed_keeps P { self with serverVerified := true } (msgId + 1) ps entropy
        exact ⟨keeps.sa, keeps.verify, fun _ => .inr (serverProved_of_verifyServer requires opened verified),
          fun _ => keeps.serverVerified⟩
      next => exact ⟨rfl, rfl, .inl, fun answers => absurd answers not_answers_failed⟩
    next =>
      have keeps := proceed_keeps P self (msgId + 1) ps entropy
      refine ⟨keeps.sa, keeps.verify, fun up => .inl (keeps.serverVerified ▸ up), fun answers => ?_⟩
      rw [keeps.serverVerified]
      exact serverVerified_of_proceed requires answers

/-- A client that trusts only its CAs answers nobody before a server has proved itself. -/
theorem credential_firewall {ε : Type} [Entropy ε] (P : Primitives) (sa : CompletedSaInit)
    (id : Identification) (user : Bytes) (password : Text) (childSpi : UInt32) (cas : List Bytes)
    (expectedDns : Bytes) (nowUnix : UInt64) (sendCertreq : Bool) (inputs : List (Bytes × ε)) (k : Nat)
    (made : Call EapInitiator (Bytes × ε) (Result EapEvent))
    (isCall : ((machine P).calls
      ((new sa id user password childSpi (.trustedCas cas expectedDns nowUnix)).setSendCertreq sendCertreq)
      inputs)[k]? = some made)
    (answers : Answers made.output) :
    ∃ j ≤ k, ∃ earlier, ((machine P).calls
        ((new sa id user password childSpi (.trustedCas cas expectedDns nowUnix)).setSendCertreq sendCertreq)
        inputs)[j]? = some earlier ∧
      ServerProved P sa cas expectedDns nowUnix earlier.input.1 := by
  let first := (new sa id user password childSpi (.trustedCas cas expectedDns nowUnix)).setSendCertreq sendCertreq
  let inv : EapInitiator → Prop := fun self =>
    self.sa = sa ∧ self.verify = .trustedCas cas expectedDns nowUnix
  have base : inv first := ⟨rfl, rfl⟩
  have lowered : ¬ first.serverVerified = true := Bool.false_ne_true
  have keep : ∀ self (input : Bytes × ε), inv self → inv (machine P self input).2 := by
    intro self input ⟨sameSa, requires⟩
    have step := handle_guarded P requires input.1 input.2
    exact ⟨step.sa.trans sameSa, step.verify.trans requires⟩
  refine Machine.caused inv (fun self => self.serverVerified = true)
    (fun call => ServerProved P sa cas expectedDns nowUnix call.input.1) base lowered keep ?_ isCall ?_
  · intro self input ⟨sameSa, requires⟩ up
    have raise := (handle_guarded P requires input.1 input.2).raise up
    rwa [sameSa] at raise
  · obtain ⟨input, rfl⟩ := Machine.calls_getElem? isCall
    have reached := Machine.invariant (machine P) first inv base keep (inputs.take k)
    exact (handle_guarded P reached.2 input.1 input.2).answers answers

end EapInitiator

namespace Toy
open Ryke.Toy

def eapClient : EapInitiator :=
  (EapInitiator.new initSa alice [97] ['p'] 5 (.trustedCas [[115]] [115] 0)).setSendCertreq false

def eapUsers : Table Bytes Text := Table.ofList [([97], ['p'])]

def eapServer : EapResponder :=
  (EapResponder.newMulti respSa ⟨2, [115]⟩ (.cert (.rsaSha256 []) [[115]]) eapUsers 7).setAssigned none

def eapMessageOf (event : Result EapEvent) : Bytes :=
  match event with
  | .ok (.reply message) => message
  | _ => []

def serverProof : Bytes :=
  eapMessageOf (eapServer.handle toy ((eapClient.start toy (⟨1⟩ : Counter)).1.toOption.getD []) (⟨2⟩ : Counter)).1

def clientIdentity : Bytes := eapMessageOf (eapClient.handle toy serverProof (⟨3⟩ : Counter)).1

end Toy

namespace EapInitiator

theorem credential_firewall_first_reply :
    ((machine toy).call Toy.eapClient (Toy.serverProof, (⟨3⟩ : Ryke.Toy.Counter))).output =
        .ok (.reply Toy.clientIdentity) ∧
      ServerProved toy Toy.initSa [[115]] [115] 0 Toy.serverProof := by
  let made := (machine toy).call Toy.eapClient (Toy.serverProof, (⟨3⟩ : Ryke.Toy.Counter))
  have only : ((machine toy).calls
      ((new Toy.initSa Toy.alice [97] ['p'] 5 (.trustedCas [[115]] [115] 0)).setSendCertreq false)
      [(Toy.serverProof, (⟨3⟩ : Ryke.Toy.Counter))])[0]? = some made := rfl
  have replied : made.output = .ok (.reply Toy.clientIdentity) := by
    decide +kernel
  obtain ⟨j, first, earlier, isCall, proved⟩ := credential_firewall toy Toy.initSa Toy.alice [97] ['p'] 5 [[115]]
    [115] 0 false [(Toy.serverProof, (⟨3⟩ : Ryke.Toy.Counter))] 0 made only (.inl ⟨Toy.clientIdentity, replied⟩)
  obtain rfl := Nat.le_zero.mp first
  obtain rfl := Option.some.inj (only.symm.trans isCall)
  dsimp only [made, Machine.call] at proved
  exact ⟨replied, proved⟩

end EapInitiator

/-! ## The responder's authentication -/

namespace EapResponder

def machine {ε : Type} [Entropy ε] (P : Primitives) : Machine EapResponder (Bytes × ε) (Result EapEvent) :=
  fun self (message, entropy) =>
    let (event, after, _) := self.handle P message entropy
    (event, after)

def eapOf (P : Primitives) (sa : CompletedSaInit) (message : Bytes) : Option EapPacket := do
  let (_, ps) ← (decrypt P sa message).toOption
  let bytes ← find ps .eap
  (EapPacket.parse bytes).toOption

def identityOf (P : Primitives) (sa : CompletedSaInit) (message : Bytes) : Option Bytes := do
  let packet ← eapOf P sa message
  if packet.eapType = some eap.eap_type.identity then some (packet.data.drop 1) else none

def responseOf (P : Primitives) (sa : CompletedSaInit) (message : Bytes) : Option eap.Response := do
  let packet ← eapOf P sa message
  if packet.eapType = some eap.eap_type.mschapv2 ∧ packet.data[1]? = some eap.op.response then
    (eap.parseResponse packet.data).toOption
  else none

/-- A message with AUTH and without EAP: the initiator's last one. -/
def isFinal (P : Primitives) (sa : CompletedSaInit) (message : Bytes) : Bool :=
  match decrypt P sa message with
  | .ok (_, ps) => (find ps .authentication).isSome && (find ps .eap).isNone
  | .error _ => false

def isEstablished (event : Result EapEvent) : Bool :=
  match event with
  | .ok (.established _) => true
  | _ => false

def Established (event : Result EapEvent) : Prop := isEstablished event = true

/-- What one call can do to the selected credentials. -/
inductive Handled (P : Primitives) (before : EapResponder) (message : Bytes) :
    Result EapEvent → EapResponder → Prop where
  | final {event : Result EapEvent} (isLast : isFinal P before.sa message = true)
      (noIdentity : identityOf P before.sa message = none) (noResponse : responseOf P before.sa message = none) :
      Handled P before message event before
  | identity {event : Result EapEvent} {after : EapResponder} (name : Bytes)
      (claims : identityOf P before.sa message = some name) (known : before.users.get name = some after.password)
      (selects : after.user = name) (sa : after.sa = before.sa) (users : after.users = before.users)
      (quiet : ¬ Established event) : Handled P before message event after
  | response {event : Result EapEvent} {after : EapResponder} (resp : eap.Response)
      (noIdentity : identityOf P before.sa message = none)
      (carries : responseOf P before.sa message = some resp) (user : after.user = before.user)
      (password : after.password = before.password) (sa : after.sa = before.sa)
      (users : after.users = before.users) (quiet : ¬ Established event) : Handled P before message event after
  | other {event : Result EapEvent} {after : EapResponder}
      (noUser : ∀ name, identityOf P before.sa message = some name → before.users.get name = none)
      (noResponse : responseOf P before.sa message = none) (user : after.user = before.user)
      (password : after.password = before.password) (sa : after.sa = before.sa)
      (users : after.users = before.users) (quiet : ¬ Established event) : Handled P before message event after

theorem not_established_replyWith {ε : Type} [Entropy ε] {P : Primitives} {sa : CompletedSaInit} {msgId : UInt32}
    {isResponse : Bool} {inner : List Payload} {entropy : ε} :
    ¬ Established (replyWith P sa msgId isResponse inner .reply entropy).1 := by
  unfold replyWith
  dsimp only
  cases buildSk P sa msgId isResponse inner (Iv.draw entropy).1 with
  | error error => exact Bool.false_ne_true
  | ok message => exact Bool.false_ne_true

theorem not_established_failed : ¬ Established (.ok .failed) := Bool.false_ne_true

theorem not_established_error (error : IkeError) : ¬ Established (.error error) := Bool.false_ne_true

theorem no_user {P : Primitives} {self : EapResponder} {message : Bytes}
    (noIdentity : identityOf P self.sa message = none) (name : Bytes)
    (claims : identityOf P self.sa message = some name) : self.users.get name = none := by
  rw [noIdentity] at claims
  cases claims

theorem no_response {P : Primitives} {sa : CompletedSaInit} {message : Bytes} (noEap : eapOf P sa message = none) :
    identityOf P sa message = none ∧ responseOf P sa message = none := by
  rw [identityOf, responseOf, noEap]
  exact ⟨rfl, rfl⟩

theorem answer_handled {ε : Type} [Entropy ε] {P : Primitives} {self : EapResponder} {message : Bytes}
    {packet : EapPacket} (carried : eapOf P self.sa message = some packet) (msgId : UInt32) (entropy : ε) :
    Handled P self message (self.answer P msgId packet entropy).1 (self.answer P msgId packet entropy).2.1 := by
  have identity : identityOf P self.sa message =
      if packet.eapType = some eap.eap_type.identity then some (packet.data.drop 1) else none := by
    rw [identityOf, carried]
    rfl
  have response : responseOf P self.sa message =
      if packet.eapType = some eap.eap_type.mschapv2 ∧ packet.data[1]? = some eap.op.response then
        (eap.parseResponse packet.data).toOption
      else none := by
    rw [responseOf, carried]
    rfl
  unfold answer
  dsimp only
  split
  next isIdentity =>
    rw [if_pos isIdentity] at identity
    have noResponse : responseOf P self.sa message = none := by
      rw [response, if_neg]
      rintro ⟨isMschap, -⟩
      rw [isIdentity] at isMschap
      exact absurd isMschap (by decide)
    split
    next unknown =>
      refine .other ?_ noResponse rfl rfl rfl rfl not_established_failed
      intro name claims
      rw [identity] at claims
      cases claims
      exact unknown
    next pw known =>
      exact .identity _ identity known rfl rfl rfl not_established_replyWith
  next notIdentity =>
    rw [if_neg notIdentity] at identity
    split
    next isResponse =>
      rw [if_pos isResponse] at response
      split
      next error malformed =>
        rw [malformed] at response
        exact .other (no_user identity) response rfl rfl rfl rfl (not_established_error error)
      next resp parsed =>
        rw [parsed] at response
        split
        next => exact .response resp identity response rfl rfl rfl rfl not_established_failed
        next => exact .response resp identity response rfl rfl rfl rfl not_established_replyWith
    next notResponse =>
      rw [if_neg notResponse] at response
      split
      next => exact .other (no_user identity) response rfl rfl rfl rfl not_established_replyWith
      next => exact .other (no_user identity) response rfl rfl rfl rfl not_established_failed

theorem startEap_handled {ε : Type} [Entropy ε] {P : Primitives} {self : EapResponder} {message : Bytes}
    (noEap : eapOf P self.sa message = none) (msgId : UInt32) (ps : List Payload) (entropy : ε) :
    Handled P self message (self.startEap P msgId ps entropy).1 (self.startEap P msgId ps entropy).2.1 := by
  obtain ⟨noIdentity, noResponse⟩ := no_response noEap
  unfold startEap
  split
  next => exact .other (no_user noIdentity) noResponse rfl rfl rfl rfl not_established_failed
  next =>
    dsimp only
    split
    next error _ => exact .other (no_user noIdentity) noResponse rfl rfl rfl rfl (not_established_error error)
    next => exact .other (no_user noIdentity) noResponse rfl rfl rfl rfl not_established_replyWith

theorem eapOf_eq {P : Primitives} {sa : CompletedSaInit} {message : Bytes} {msgId : UInt32} {ps : List Payload}
    (opened : decrypt P sa message = .ok (msgId, ps)) :
    eapOf P sa message = (find ps .eap).bind fun bytes => (EapPacket.parse bytes).toOption := by
  rw [eapOf, opened]
  rfl

/-- The step lemma: every branch of `handle`, by what it can do. -/
theorem handle_handled {ε : Type} [Entropy ε] (P : Primitives) (self : EapResponder) (message : Bytes)
    (entropy : ε) :
    Handled P self message (self.handle P message entropy).1 (self.handle P message entropy).2.1 := by
  have unread : ∀ error, eapOf P self.sa message = none → Handled P self message (.error error) self := by
    intro error noEap
    obtain ⟨noIdentity, noResponse⟩ := no_response noEap
    exact .other (no_user noIdentity) noResponse rfl rfl rfl rfl (not_established_error error)
  unfold handle
  split
  next error sealed =>
    apply unread
    rw [eapOf, sealed]
    rfl
  next msgId ps opened =>
    have packets := eapOf_eq opened
    split
    next noEap _ =>
      rw [noEap] at packets
      exact startEap_handled packets msgId ps entropy
    next authBytes noEap hasAuth =>
      rw [noEap] at packets
      obtain ⟨noIdentity, noResponse⟩ := no_response packets
      refine .final ?_ noIdentity noResponse
      simp only [isFinal, opened, hasAuth, noEap]
      rfl
    next _ eapBytes hasEap =>
      rw [hasEap] at packets
      split
      next error malformed =>
        apply unread
        rw [packets, Option.bind_some, malformed]
        rfl
      next packet parsed =>
        apply answer_handled
        rw [packets, Option.bind_some, parsed]
        rfl

theorem final_of_established {P : Primitives} {before after : EapResponder} {message : Bytes} {event : Result EapEvent}
    (handled : Handled P before message event after) (established : Established event) :
    isFinal P before.sa message = true ∧ after = before := by
  cases handled with
  | final isLast _ _ => exact ⟨isLast, rfl⟩
  | identity _ _ _ _ _ _ quiet => exact absurd established quiet
  | response _ _ _ _ _ _ _ quiet => exact absurd established quiet
  | other _ _ _ _ _ _ quiet => exact absurd established quiet

def msk (P : Primitives) (self : EapResponder) : Bytes := mschapv2.deriveMsk P self.password self.ntResponse

def lastPayloads (P : Primitives) (self : EapResponder) : List Payload :=
  [(.idResponder, self.id.toBytes), (.authentication, (pskAuthPayload P (self.msk P)
    (responderSignedOctets P self.sa.respMessage self.sa.ni self.sa.keys.skPr self.id.toBytes)).toBytes)] ++
    (assignedPayloads self.assigned).1 ++
    [(.securityAssociation, (espOffer self.childSpi).toBytes),
      (.trafficSelectorInitiator, (assignedPayloads self.assigned).2),
      (.trafficSelectorResponder, fullTunnelTs), (.notify, mobikeSupported.toBytes)]

/-- The data is the AUTH of the initiator, keyed by the MSK in the state. -/
def keyedByMsk (P : Primitives) (self : EapResponder) (authBytes : Bytes) : Bool :=
  match Authentication.parse authBytes with
  | .error _ => false
  | .ok got => got.data == pskAuth P (self.msk P)
      (initiatorSignedOctets P self.sa.initMessage self.sa.nr self.sa.keys.skPi self.peerIdi)

/-- A message with AUTH and without EAP, whose AUTH is keyed by the MSK in the state. -/
def takesLast (P : Primitives) (self : EapResponder) (message : Bytes) : Bool :=
  match decrypt P self.sa message with
  | .error _ => false
  | .ok (_, ps) => (find ps .eap).isNone && (find ps .authentication).any (self.keyedByMsk P)

/-- A message with AUTH and without EAP, whose AUTH agrees with the state and whose answer
can be sealed. -/
def agrees {ε : Type} [Entropy ε] (P : Primitives) (self : EapResponder) (input : Bytes × ε) : Bool :=
  match decrypt P self.sa input.1 with
  | .error _ => false
  | .ok (msgId, ps) =>
      match find ps .eap, find ps .authentication with
      | none, some authBytes => self.keyedByMsk P authBytes &&
          (buildSk P self.sa msgId true (self.lastPayloads P) (Iv.draw input.2).1).isOk
      | _, _ => false

theorem isEstablished_map (result : Result Bytes) :
    isEstablished (result.map fun message => .established (some message)) = result.isOk := by
  cases result with
  | error error => rfl
  | ok message => rfl

theorem finish_eq {ε : Type} [Entropy ε] (P : Primitives) (self : EapResponder) (msgId : UInt32)
    {authBytes : Bytes} {got : Authentication} (parsed : Authentication.parse authBytes = .ok got) (entropy : ε) :
    self.finish P msgId authBytes entropy =
      if self.keyedByMsk P authBytes then replyWith P self.sa msgId true (self.lastPayloads P)
        (fun message => .established (some message)) entropy
      else (.ok .failed, entropy) := by
  unfold finish keyedByMsk
  rw [parsed]
  dsimp only
  by_cases same : got.data = pskAuth P (self.msk P)
      (initiatorSignedOctets P self.sa.initMessage self.sa.nr self.sa.keys.skPi self.peerIdi)
  · rw [if_pos (beq_iff_eq.mpr same)]
    exact if_neg (not_not.mpr same)
  · have differs : ¬ (got.data == pskAuth P (self.msk P)
        (initiatorSignedOctets P self.sa.initMessage self.sa.nr self.sa.keys.skPi self.peerIdi)) = true :=
      fun equal => same (beq_iff_eq.mp equal)
    rw [if_neg differs]
    exact if_pos same

theorem isEstablished_finish {ε : Type} [Entropy ε] (P : Primitives) (self : EapResponder) (msgId : UInt32)
    (authBytes : Bytes) (entropy : ε) :
    isEstablished (self.finish P msgId authBytes entropy).1 = (self.keyedByMsk P authBytes &&
      (buildSk P self.sa msgId true (self.lastPayloads P) (Iv.draw entropy).1).isOk) := by
  cases parsed : Authentication.parse authBytes with
  | error error =>
    unfold finish keyedByMsk
    rw [parsed]
    rfl
  | ok got =>
    rw [finish_eq P self msgId parsed]
    cases self.keyedByMsk P authBytes with
    | false => rfl
    | true =>
      rw [if_pos rfl, Bool.true_and]
      exact isEstablished_map _

/-- The step lemma: a call says Established to exactly the messages that agree. -/
theorem isEstablished_handle {ε : Type} [Entropy ε] (P : Primitives) (self : EapResponder) (input : Bytes × ε) :
    isEstablished (self.handle P input.1 input.2).1 = self.agrees P input := by
  have handled := handle_handled P self input.1 input.2
  cases opened : decrypt P self.sa input.1 with
  | error error =>
    rw [agrees, handle, opened]
    rfl
  | ok pair =>
    obtain ⟨msgId, ps⟩ := pair
    cases hasEap : find ps .eap with
    | none =>
      cases hasAuth : find ps .authentication with
      | some authBytes =>
        simp only [agrees, handle, opened, hasEap, hasAuth]
        exact isEstablished_finish P self msgId authBytes input.2
      | none =>
        have notLast : ¬ isFinal P self.sa input.1 = true := by
          simp only [isFinal, opened, hasAuth]
          exact Bool.false_ne_true
        rw [agrees, opened]
        simp only [hasEap, hasAuth]
        exact Bool.eq_false_iff.mpr fun established => notLast (final_of_established handled established).1
    | some eapBytes =>
      have notLast : ¬ isFinal P self.sa input.1 = true := by
        simp only [isFinal, opened, hasEap, Option.isNone_some, Bool.and_false]
        exact Bool.false_ne_true
      rw [agrees, opened]
      simp only [hasEap]
      exact Bool.eq_false_iff.mpr fun established => notLast (final_of_established handled established).1

theorem agrees_eq_true {ε : Type} [Entropy ε] {P : Primitives} {self : EapResponder} {input : Bytes × ε}
    (agreed : self.agrees P input = true) :
    ∃ msgId ps authBytes got response, decrypt P self.sa input.1 = .ok (msgId, ps) ∧ find ps .eap = none ∧
      find ps .authentication = some authBytes ∧ Authentication.parse authBytes = .ok got ∧
      self.keyedByMsk P authBytes = true ∧
      buildSk P self.sa msgId true (self.lastPayloads P) (Iv.draw input.2).1 = .ok response := by
  unfold agrees at agreed
  split at agreed
  next => cases agreed
  next msgId ps opened =>
    split at agreed
    next authBytes noEap hasAuth =>
      obtain ⟨keyed, sealed⟩ := Bool.and_eq_true_iff.mp agreed
      obtain ⟨response, built⟩ := exists_of_isOk sealed
      have parses := keyed
      unfold keyedByMsk at parses
      split at parses
      next => cases parses
      next got parsed => exact ⟨msgId, ps, authBytes, got, response, opened, noEap, hasAuth, parsed, keyed, built⟩
    next => cases agreed

theorem takesLast_of_established {ε : Type} [Entropy ε] {P : Primitives} {self : EapResponder} {input : Bytes × ε}
    (established : Established (self.handle P input.1 input.2).1) : self.takesLast P input.1 = true := by
  have agreed : self.agrees P input = true := (isEstablished_handle P self input).symm.trans established
  obtain ⟨msgId, ps, authBytes, got, _, opened, noEap, hasAuth, parsed, keyed, -⟩ := agrees_eq_true agreed
  rw [takesLast, opened]
  dsimp only
  rw [noEap, hasAuth]
  exact keyed

theorem keyedByMsk_of_parsed {P : Primitives} {self : EapResponder} {authBytes : Bytes} {got : Authentication}
    (keyed : self.keyedByMsk P authBytes = true) (parsed : Authentication.parse authBytes = .ok got) :
    got.data = pskAuth P (self.msk P)
      (initiatorSignedOctets P self.sa.initMessage self.sa.nr self.sa.keys.skPi self.peerIdi) := by
  unfold keyedByMsk at keyed
  rw [parsed] at keyed
  exact eq_of_beq keyed

/-- How far the client has come, by the messages fed so far: no user named, a user
named and challenged, or the challenge answered. -/
inductive Phase where
  | start
  | challenged
  | answered
  deriving DecidableEq

/-- An Identity with a known name leads to a challenge; from there a Response with the
right NT-Response answers it and any other leaves it open. -/
def Phase.next {ε : Type} (P : Primitives) (sa : CompletedSaInit) (phase : Phase)
    (call : Call EapResponder (Bytes × ε) (Result EapEvent)) : Phase :=
  match identityOf P sa call.input.1, responseOf P sa call.input.1 with
  | some name, _ => if (call.before.users.get name).isSome then .challenged else phase
  | none, some resp =>
      if phase = .start then .start
      else if resp.ntResponse = mschapv2.generateNtResponse P call.before.authChallenge resp.peerChallenge
        call.before.user call.before.password then .answered
      else .challenged
  | none, none => phase

def phaseAfter {ε : Type} (P : Primitives) (sa : CompletedSaInit)
    (past : List (Call EapResponder (Bytes × ε) (Result EapEvent))) : Phase :=
  past.foldl (Phase.next P sa) .start

/-- A last message of the initiator that is keyed by the state it meets is fed only once the
challenge is answered. -/
def InOrder {ε : Type} (P : Primitives) (sa : CompletedSaInit)
    (calls : List (Call EapResponder (Bytes × ε) (Result EapEvent))) : Prop :=
  ∀ k (inside : k < calls.length), calls[k].before.takesLast P calls[k].input.1 = true →
    phaseAfter P sa (calls.take k) = .answered

/-- An Identity response for `user`, then a Response that proves its password. -/
def ProvedPassword {ε : Type} (P : Primitives) (sa : CompletedSaInit) (user : Bytes) (password : Text)
    (calls : List (Call EapResponder (Bytes × ε) (Result EapEvent))) (k : Nat) : Prop :=
  ∃ i j, i < j ∧ j < k ∧ (∃ named, calls[i]? = some named ∧ identityOf P sa named.input.1 = some user) ∧
    ∃ proved resp, calls[j]? = some proved ∧ responseOf P sa proved.input.1 = some resp ∧
      resp.ntResponse = mschapv2.generateNtResponse P proved.before.authChallenge resp.peerChallenge user password

/-- Whoever is established has named a user and proved its password before. -/
def Authenticated {ε : Type} (P : Primitives) (sa : CompletedSaInit) (users : Table Bytes Text)
    (calls : List (Call EapResponder (Bytes × ε) (Result EapEvent))) : Prop :=
  ∀ k call, calls[k]? = some call → Established call.output →
    ∃ user password, users.get user = some password ∧ call.after.user = user ∧
      ProvedPassword P sa user password calls k

structure Evidence {ε : Type} (P : Primitives) (sa : CompletedSaInit) (users : Table Bytes Text)
    (past : List (Call EapResponder (Bytes × ε) (Result EapEvent))) (state : EapResponder) : Prop where
  sameSa : state.sa = sa
  sameUsers : state.users = users
  named : phaseAfter P sa past ≠ .start → users.get state.user = some state.password ∧
    ∃ call ∈ past, identityOf P sa call.input.1 = some state.user
  proved : phaseAfter P sa past = .answered → ProvedPassword P sa state.user state.password past past.length

theorem ProvedPassword.mono {ε : Type} {P : Primitives} {sa : CompletedSaInit} {user : Bytes} {password : Text}
    {past : List (Call EapResponder (Bytes × ε) (Result EapEvent))} {k l : Nat} (longer : k ≤ l)
    (more : List (Call EapResponder (Bytes × ε) (Result EapEvent)))
    (proved : ProvedPassword P sa user password past k) : ProvedPassword P sa user password (past ++ more) l := by
  obtain ⟨i, j, before, inside, ⟨named, atI, identity⟩, call, resp, atJ, response, right⟩ := proved
  exact ⟨i, j, before, by omega, ⟨named, Machine.getElem?_append_of_some atI more, identity⟩, call, resp,
    Machine.getElem?_append_of_some atJ more, response, right⟩

theorem Evidence.keep {ε : Type} {P : Primitives} {sa : CompletedSaInit} {users : Table Bytes Text}
    {past : List (Call EapResponder (Bytes × ε) (Result EapEvent))} {self after : EapResponder}
    (evidence : Evidence P sa users past self) (call : Call EapResponder (Bytes × ε) (Result EapEvent))
    (user : after.user = self.user) (password : after.password = self.password) (sameSa : after.sa = self.sa)
    (sameUsers : after.users = self.users)
    (phase : phaseAfter P sa (past ++ [call]) = phaseAfter P sa past) :
    Evidence P sa users (past ++ [call]) after := by
  refine ⟨sameSa.trans evidence.sameSa, sameUsers.trans evidence.sameUsers, fun started => ?_, fun answered => ?_⟩
  · rw [phase] at started
    obtain ⟨known, named, member, identity⟩ := evidence.named started
    rw [user, password]
    exact ⟨known, named, List.mem_append_left _ member, identity⟩
  · rw [phase] at answered
    rw [user, password]
    exact (evidence.proved answered).mono (by simp) [call]

theorem Evidence.step {ε : Type} {P : Primitives} {sa : CompletedSaInit} {users : Table Bytes Text}
    {past : List (Call EapResponder (Bytes × ε) (Result EapEvent))} {self after : EapResponder} {input : Bytes × ε}
    {event : Result EapEvent} (evidence : Evidence P sa users past self)
    (handled : Handled P self input.1 event after) :
    Evidence P sa users (past ++ [⟨self, input, event, after⟩]) after := by
  have phase : phaseAfter P sa (past ++ [⟨self, input, event, after⟩]) =
      (phaseAfter P sa past).next P sa ⟨self, input, event, after⟩ := by
    rw [phaseAfter, List.foldl_append]
    rfl
  obtain rfl := evidence.sameSa
  cases handled with
  | final isLast noIdentity noResponse =>
    apply evidence.keep _ rfl rfl rfl rfl
    rw [phase, Phase.next, noIdentity, noResponse]
  | identity name claims known selects sameSa sameUsers quiet =>
    have challenged : phaseAfter P self.sa (past ++ [⟨self, input, event, after⟩]) = .challenged := by
      rw [phase, Phase.next, claims]
      simp only [known, Option.isSome_some, if_true]
    refine ⟨sameSa, sameUsers.trans evidence.sameUsers, fun _ => ?_, fun answered => ?_⟩
    · rw [selects, ← evidence.sameUsers]
      exact ⟨known, _, List.mem_append_right _ List.mem_cons_self, claims⟩
    · rw [challenged] at answered
      cases answered
  | response resp noIdentity carries user password sameSa sameUsers quiet =>
    rw [Phase.next, noIdentity, carries] at phase
    dsimp only at phase
    by_cases started : phaseAfter P self.sa past = .start
    · apply evidence.keep _ user password sameSa sameUsers
      rw [phase, if_pos started, started]
    · obtain ⟨known, named, member, identity⟩ := evidence.named started
      rw [if_neg started] at phase
      refine ⟨sameSa, sameUsers.trans evidence.sameUsers, fun _ => ?_, fun answered => ?_⟩
      · rw [user, password]
        exact ⟨known, named, List.mem_append_left _ member, identity⟩
      · rw [phase] at answered
        split at answered
        next right =>
          obtain ⟨i, atI⟩ := List.mem_iff_getElem?.mp member
          have inside := (List.getElem?_eq_some_iff.mp atI).1
          rw [user, password]
          exact ⟨i, past.length, inside, by simp, ⟨named, Machine.getElem?_append_of_some atI _, identity⟩,
            _, resp, List.getElem?_concat_length, carries, right⟩
        next => cases answered
  | other noUser noResponse user password sameSa sameUsers quiet =>
    apply evidence.keep _ user password sameSa sameUsers
    rw [phase, Phase.next]
    cases claims : identityOf P self.sa input.1 with
    | none => rw [noResponse]
    | some name =>
      simp only [noUser name claims, Option.isSome_none]
      rfl

/-- In every run whose last messages come in order, whoever is established has named a
user and proved its password. -/
theorem authenticated_of_inOrder {ε : Type} [Entropy ε] (P : Primitives) (sa : CompletedSaInit)
    (id : Identification) (auth : ServerAuth) (users : Table Bytes Text) (childSpi : UInt32)
    (assigned : Option AssignedConfig) (inputs : List (Bytes × ε))
    (inOrder : InOrder P sa ((machine P).calls ((newMulti sa id auth users childSpi).setAssigned assigned) inputs)) :
    Authenticated P sa users
      ((machine P).calls ((newMulti sa id auth users childSpi).setAssigned assigned) inputs) := by
  intro k call isCall established
  obtain ⟨input, rfl⟩ := Machine.calls_getElem? isCall
  have evidence := Machine.history (machine P) ((newMulti sa id auth users childSpi).setAssigned assigned)
    (Evidence P sa users) ⟨rfl, rfl, fun start => absurd rfl start, nofun⟩
    (fun past self input evidence => evidence.step (handle_handled P self input.1 input.2)) (inputs.take k)
  rw [← Machine.calls_take] at evidence
  obtain ⟨-, same⟩ := final_of_established (handle_handled P _ input.1 input.2) established
  obtain ⟨inside, atK⟩ := List.getElem?_eq_some_iff.mp isCall
  have answered := inOrder k inside (by rw [atK]; exact takesLast_of_established established)
  have proved := (evidence.proved answered).mono
    (List.length_take_le k _) (((machine P).calls ((newMulti sa id auth users childSpi).setAssigned assigned) inputs).drop k)
  rw [List.take_append_drop] at proved
  refine ⟨_, _, (evidence.named (by rw [answered]; decide)).1, ?_, proved⟩
  exact congrArg EapResponder.user same

end EapResponder

namespace Toy
open Ryke.Toy

def exchange : Nat → EapInitiator → EapResponder → Bytes → List Bytes
  | 0, _, _, message => [message]
  | rounds + 1, client, server, message =>
      let (event, server, _) := server.handle toy message (⟨2⟩ : Counter)
      let (answer, client, _) := client.handle toy (eapMessageOf event) (⟨3⟩ : Counter)
      message :: exchange rounds client server (eapMessageOf answer)

def honestInputs : List (Bytes × Counter) :=
  (exchange 4 eapClient eapServer ((eapClient.start toy (⟨1⟩ : Counter)).1.toOption.getD [])).map (·, ⟨2⟩)

def emptyFinal : Bytes :=
  let msk := mschapv2.deriveMsk toy [] (List.replicate 24 0)
  let octets := initiatorSignedOctets toy initSa.initMessage initSa.nr initSa.keys.skPi []
  (buildSk toy initSa 1 false [(.authentication, (pskAuthPayload toy msk octets).toBytes)]
    (.ofU64 1)).toOption.getD []

end Toy

namespace EapResponder

theorem authenticated_of_inOrder_honest :
    InOrder toy Toy.respSa ((machine toy).calls Toy.eapServer Toy.honestInputs) ∧
      (((machine toy).calls Toy.eapServer Toy.honestInputs).map fun call => isEstablished call.output) =
        [false, false, false, false, true] ∧
      Authenticated toy Toy.respSa Toy.eapUsers ((machine toy).calls Toy.eapServer Toy.honestInputs) := by
  have inOrder : InOrder toy Toy.respSa ((machine toy).calls Toy.eapServer Toy.honestInputs) := by
    unfold InOrder
    decide +kernel
  have ends : (((machine toy).calls Toy.eapServer Toy.honestInputs).map fun call => isEstablished call.output) =
      [false, false, false, false, true] := by
    decide +kernel
  exact ⟨inOrder, ends, authenticated_of_inOrder toy Toy.respSa ⟨2, [115]⟩ (.cert (.rsaSha256 []) [[115]]) Toy.eapUsers
    7 none Toy.honestInputs inOrder⟩

/-- A fresh responder that is fed nothing but an AUTH keyed by the empty password is
established. -/
theorem not_authenticated_final_first :
    ¬ Authenticated toy Toy.respSa Toy.eapUsers
      ((machine toy).calls Toy.eapServer [(Toy.emptyFinal, (⟨2⟩ : Ryke.Toy.Counter))]) := by
  intro authenticated
  have established : isEstablished ((machine toy).call Toy.eapServer
      (Toy.emptyFinal, (⟨2⟩ : Ryke.Toy.Counter))).output = true := by
    decide +kernel
  obtain ⟨user, password, -, -, i, j, before, none_before, -⟩ :=
    authenticated 0 _ rfl established
  exact absurd none_before (Nat.not_lt_zero j)

end EapResponder

end Ryke.Ikev2
