import Ryke.Ikev2.EapChild
import Ryke.Ikev2.EapClientRuns
import Ryke.Ikev2.EapSteps

/-! An EAP client and an EAP responder over a network that delivers what it likes. Neither end
accepts a sealed message that the other did not send, so every message tells how far its
sender had come, and whoever is established is so with the other end. -/

namespace Ryke.Ikev2
open Lib Crypto

/-! ## The two ends -/

structure EapParties where
  client : EapInitiator
  responder : EapResponder

inductive EapAction (ε δ : Type) where
  | start (entropy : ε)
  | toServer (message : Bytes) (entropy : δ)
  | toClient (message : Bytes) (entropy : ε)

/-! ## Sealed messages -/

theorem decrypt_built {P : Primitives} {header : IkeHeader} {inner : List Payload} {skE message : Bytes} {iv : Iv}
    (ideal : P.GcmIdeal [sealedText message])
    (built : buildEncryptedGcm P header (firstPayloadType inner) (encodePayloadChain inner) skE iv = .ok message)
    (proper : ∀ kind ∈ inner.map Prod.fst, kind.Proper) {sa : CompletedSaInit} {msgId : UInt32} {ps : List Payload}
    (opened : decrypt P sa message = .ok (msgId, ps)) :
    ps = inner ∧ skPayloadLen (encodePayloadChain inner) < 65536 := by
  unfold decrypt at opened
  obtain ⟨own, -, opened⟩ := bind_eq_ok opened
  obtain ⟨⟨first, plain⟩, plainly, opened⟩ := bind_eq_ok opened
  obtain ⟨found, collected, opened⟩ := bind_eq_ok opened
  cases opened
  obtain ⟨-, -, rfl, rfl, small⟩ := open_buildEncryptedGcm ideal built plainly
  have fits := fits_of_small proper small
  rw [fromU8_firstPayloadType fits, forPayloads_collect fits] at collected
  exact ⟨(Except.ok.inj collected).symm, small⟩

theorem decrypt_built_eap {P : Primitives} {sa sender : CompletedSaInit} {msgId number : UInt32} {isResponse : Bool}
    {packet : EapPacket} {iv : Iv} {message : Bytes} (ideal : P.GcmIdeal [sealedText message])
    (built : buildSk P sender number isResponse [(.eap, packet.toBytes)] iv = .ok message) {ps : List Payload}
    (opened : decrypt P sa message = .ok (msgId, ps)) :
    ps = [(.eap, packet.toBytes)] ∧ EapPacket.parse packet.toBytes = .ok packet := by
  have proper : ∀ kind ∈ [(PayloadType.eap, packet.toBytes)].map Prod.fst, kind.Proper := by
    change ∀ kind ∈ [PayloadType.eap], kind.Proper
    decide
  obtain ⟨same, small⟩ := decrypt_built ideal built proper opened
  rw [skPayloadLen_single, EapPacket.toBytes_length] at small
  exact ⟨same, EapPacket.parse_toBytes (by omega)⟩

def sentWith : Result EapEvent → Option Bytes
  | .ok (.reply message) => some message
  | .ok (.established message) => message
  | _ => none

def idrOf (P : Primitives) (sa : CompletedSaInit) (message : Bytes) : Bytes :=
  ((decrypt P sa message).toOption.bind fun found => find found.2 .idResponder).getD []

theorem idrOf_eq {P : Primitives} {sa : CompletedSaInit} {message : Bytes} {msgId : UInt32} {ps : List Payload}
    (opened : decrypt P sa message = .ok (msgId, ps)) : idrOf P sa message = (find ps .idResponder).getD [] := by
  rw [idrOf, opened]
  rfl

/-- A message as the client or the responder finds it: its Message ID and payloads. -/
inductive Heard where
  | byServer (msgId : UInt32) (ps : List Payload)
  | byClient (msgId : UInt32) (ps : List Payload)
  deriving DecidableEq

theorem same_auth {P : Primitives} {queries : List (Bytes × Bytes)} (noCollision : P.NoCollision queries)
    {psk psk' message nonce skP idBody message' nonce' skP' idBody' : Bytes}
    (left : ∀ query ∈ authQueries P psk skP idBody (signedOctets P message nonce skP idBody), query ∈ queries)
    (right : ∀ query ∈ authQueries P psk' skP' idBody' (signedOctets P message' nonce' skP' idBody'),
      query ∈ queries)
    (same : pskAuth P psk (signedOctets P message nonce skP idBody) =
      pskAuth P psk' (signedOctets P message' nonce' skP' idBody')) :
    psk = psk' ∧ message ++ nonce = message' ++ nonce' ∧ skP = skP' ∧ idBody = idBody' := by
  have keyed := noCollision (prf P psk keyPad, signedOctets P message nonce skP idBody)
    (left _ (by simp [authQueries])) (prf P psk' keyPad, signedOctets P message' nonce' skP' idBody')
    (right _ (by simp [authQueries])) same
  obtain ⟨keys, octets⟩ := Prod.mk.inj keyed
  have secrets := noCollision (psk, keyPad) (left _ (by simp [authQueries])) (psk', keyPad)
    (right _ (by simp [authQueries])) keys
  unfold signedOctets at octets
  obtain ⟨signed, macs⟩ := List.append_inj' octets (by rw [prf_length, prf_length])
  have identities := noCollision (skP, idBody) (left _ (by simp [authQueries])) (skP', idBody')
    (right _ (by simp [authQueries])) macs
  exact ⟨(Prod.mk.inj secrets).1, signed, Prod.mk.inj identities⟩

theorem sentWith_replyWith {ε : Type} [Entropy ε] {P : Primitives} {sa : CompletedSaInit} {msgId : UInt32}
    {isResponse : Bool} {inner : List Payload} {event : Bytes → EapEvent} {entropy : ε} {message : Bytes}
    (own : ∀ message, sentWith (.ok (event message)) = some message)
    (sent : sentWith (replyWith P sa msgId isResponse inner event entropy).1 = some message) :
    ∃ iv, buildSk P sa msgId isResponse inner iv = .ok message := by
  refine ⟨(Iv.draw entropy).1, ?_⟩
  unfold replyWith at sent
  dsimp only at sent
  cases built : buildSk P sa msgId isResponse inner (Iv.draw entropy).1 with
  | error error =>
    rw [built] at sent
    cases sent
  | ok whole =>
    rw [built] at sent
    exact congrArg Except.ok (Option.some.inj ((own whole).symm.trans sent))

/-! ## The client's messages -/

namespace EapInitiator

def msk (P : Primitives) (self : EapInitiator) : Bytes := mschapv2.deriveMsk P self.password self.ntResponse

inductive Utters (P : Primitives) (self : EapInitiator) (packet : EapPacket) : List Payload → Prop
  | auth (isSuccess : packet.code = eap.code.success) :
      Utters P self packet [(.authentication, (self.mskAuth P).toBytes)]
  | identity (asks : packet.eapType = some eap.eap_type.identity) :
      Utters P self packet [(.eap, (⟨eap.code.response, packet.identifier, [eap.eap_type.identity] ++ self.user⟩ :
        EapPacket).toBytes)]
  | mschap (kind : packet.eapType = some eap.eap_type.mschapv2) {data : Bytes}
      (own : data.head? = some eap.eap_type.mschapv2) :
      Utters P self packet [(.eap, (⟨eap.code.response, packet.identifier, data⟩ : EapPacket).toBytes)]

theorem answer_utters {ε : Type} [Entropy ε] {P : Primitives} {self : EapInitiator} {nextId : UInt32}
    {packet : EapPacket} {entropy : ε} {message : Bytes}
    (sent : sentWith (self.answer P nextId packet entropy).1 = some message) :
    ∃ inner iv, Utters P self packet inner ∧ buildSk P self.sa nextId false inner iv = .ok message := by
  unfold answer at sent
  dsimp only at sent
  split at sent
  next => cases sent
  split at sent
  next isSuccess =>
    obtain ⟨iv, built⟩ := sentWith_replyWith (fun _ => rfl) sent
    exact ⟨_, iv, .auth isSuccess, built⟩
  split at sent
  next asks =>
    obtain ⟨iv, built⟩ := sentWith_replyWith (fun _ => rfl) sent
    exact ⟨_, iv, .identity asks, built⟩
  split at sent
  next challenge =>
    split at sent
    next => cases sent
    next =>
      obtain ⟨iv, built⟩ := sentWith_replyWith (fun _ => rfl) sent
      exact ⟨_, iv, .mschap challenge.1 rfl, built⟩
  split at sent
  next success =>
    obtain ⟨iv, built⟩ := sentWith_replyWith (fun _ => rfl) sent
    exact ⟨_, iv, .mschap success.1 rfl, built⟩
  next => cases sent

/-- What a call leaves: the NT-Response and the check of the server may change. -/
theorem handle_after {ε : Type} [Entropy ε] (P : Primitives) (self : EapInitiator) (message : Bytes) (entropy : ε) :
    ∃ ntResponse verified, (self.handle P message entropy).2.1 =
      { self with ntResponse := ntResponse, serverVerified := verified } := by
  rcases handle_packetOf P self message entropy with ⟨verified, msgId, packet, -, answers⟩ | ⟨-, -, verified, same⟩
  · rw [answers]
    have acts := answer_acts P (self.withVerified verified) (msgId + 1) packet entropy
    generalize (self.withVerified verified).answer P (msgId + 1) packet entropy = result at acts
    obtain ⟨event, after, rest⟩ := result
    cases acts with
    | silent | auth | other => exact ⟨self.ntResponse, verified, rfl⟩
    | challenge => exact ⟨_, verified, rfl⟩
  · rw [same]
    exact ⟨self.ntResponse, verified, rfl⟩

def expectedAuth (P : Primitives) (self : EapInitiator) (idr : Bytes) : Bytes :=
  pskAuth P (self.msk P) (responderSignedOctets P self.sa.respMessage self.sa.ni self.sa.keys.skPr idr)

def ownQueries (P : Primitives) (self : EapInitiator) : List (Bytes × Bytes) :=
  authQueries P (self.msk P) self.sa.keys.skPi self.id.toBytes
    (initiatorSignedOctets P self.sa.initMessage self.sa.nr self.sa.keys.skPi self.id.toBytes)

def expectedQueries (P : Primitives) (self : EapInitiator) (idr : Bytes) : List (Bytes × Bytes) :=
  authQueries P (self.msk P) self.sa.keys.skPr idr
    (responderSignedOctets P self.sa.respMessage self.sa.ni self.sa.keys.skPr idr)

structure Confirmed (P : Primitives) (state : EapInitiator) (ps : List Payload) : Prop where
  noEap : find ps .eap = none
  auth : ∃ authBytes auth, find ps .authentication = some authBytes ∧ Authentication.parse authBytes = .ok auth ∧
    auth.data = state.expectedAuth P ((find ps .idResponder).getD [])

theorem confirm_established {P : Primitives} {self : EapInitiator} {ps : List Payload} (noEap : find ps .eap = none)
    {last : Option Bytes} (established : self.confirm P ps = .ok (.established last)) :
    last = none ∧ Confirmed P self ps := by
  unfold confirm at established
  split at established
  next authBytes _ hasAuth _ =>
    obtain ⟨got, parsed, established⟩ := bind_eq_ok established
    split at established
    next agrees =>
      cases established
      exact ⟨rfl, noEap, authBytes, got, hasAuth, parsed, agrees.2⟩
    next => cases established
  next => cases established

theorem not_established_answer {ε : Type} [Entropy ε] (P : Primitives) (self : EapInitiator) (nextId : UInt32)
    (packet : EapPacket) (entropy : ε) : ¬ EapResponder.Established (self.answer P nextId packet entropy).1 := by
  unfold answer
  dsimp only
  split
  next => exact EapResponder.not_established_failed
  split
  next => exact EapResponder.not_established_replyWith
  split
  next => exact EapResponder.not_established_replyWith
  split
  next =>
    split
    next error _ => exact EapResponder.not_established_error error
    next => exact EapResponder.not_established_replyWith
  split
  next => exact EapResponder.not_established_replyWith
  next => exact EapResponder.not_established_failed

theorem proceed_established {ε : Type} [Entropy ε] {P : Primitives} {self : EapInitiator} {nextId : UInt32}
    {ps : List Payload} {entropy : ε} {last : Option Bytes}
    (established : (self.proceed P nextId ps entropy).1 = .ok (.established last)) : last = none ∧ Confirmed P self ps := by
  unfold proceed at established
  split at established
  next => cases established
  next =>
    split at established
    next noEap => exact confirm_established noEap established
    next =>
      split at established
      next => cases established
      next packet _ =>
        refine absurd ?_ (not_established_answer P self nextId packet entropy)
        rw [established]
        rfl

theorem handle_established {ε : Type} [Entropy ε] {P : Primitives} {self : EapInitiator} {message : Bytes} {entropy : ε}
    {last : Option Bytes} (established : (self.handle P message entropy).1 = .ok (.established last)) :
    last = none ∧ ∃ msgId ps, decrypt P self.sa message = .ok (msgId, ps) ∧ Confirmed P self ps := by
  unfold handle at established
  split at established
  next => cases established
  next msgId ps opened =>
    have goesOn : ∀ verified nextId,
        ((self.withVerified verified).proceed P nextId ps entropy).1 = .ok (.established last) →
        last = none ∧ ∃ msgId ps, decrypt P self.sa message = .ok (msgId, ps) ∧ Confirmed P self ps := by
      intro verified nextId goes
      obtain ⟨quiet, confirmed⟩ := proceed_established goes
      exact ⟨quiet, msgId, ps, opened, confirmed.noEap, confirmed.auth⟩
    split at established
    next =>
      split at established
      next => exact goesOn true _ established
      next => cases established
    next => exact goesOn self.serverVerified _ established

/-- A message goes out only in answer to a packet. -/
theorem handle_utters {ε : Type} [Entropy ε] {P : Primitives} {self : EapInitiator} {message sent : Bytes} {entropy : ε}
    (answers : sentWith (self.handle P message entropy).1 = some sent) :
    ∃ msgId packet inner iv, packetOf P self message = some (msgId, packet) ∧ Utters P self packet inner ∧
      buildSk P self.sa (msgId + 1) false inner iv = .ok sent := by
  rcases handle_packetOf P self message entropy with ⟨verified, msgId, packet, carried, handled⟩ | ⟨-, quiet, -⟩
  · rw [handled] at answers
    obtain ⟨inner, iv, utters, built⟩ := answer_utters answers
    refine ⟨msgId, packet, inner, iv, carried, ?_, built⟩
    cases utters with
    | auth isSuccess => exact .auth isSuccess
    | identity asks => exact .identity asks
    | mschap kind own => exact .mschap kind own
  · cases event : (self.handle P message entropy).1 with
    | error error =>
      rw [event] at answers
      cases answers
    | ok outcome =>
      rw [event] at answers quiet
      cases outcome with
      | reply reply => cases quiet
      | established last =>
        obtain ⟨rfl, -⟩ := handle_established event
        cases answers
      | failed => cases answers

end EapInitiator

/-! ## The responder's messages -/

namespace EapResponder

def expectedQueries (P : Primitives) (self : EapResponder) : List (Bytes × Bytes) :=
  authQueries P (self.msk P) self.sa.keys.skPi self.peerIdi
    (initiatorSignedOctets P self.sa.initMessage self.sa.nr self.sa.keys.skPi self.peerIdi)

def ownQueries (P : Primitives) (self : EapResponder) : List (Bytes × Bytes) :=
  authQueries P (self.msk P) self.sa.keys.skPr self.id.toBytes (self.ownOctets P)

theorem answer_sends {ε : Type} [Entropy ε] {P : Primitives} {self : EapResponder} {msgId : UInt32}
    {packet : EapPacket} {entropy : ε} {message : Bytes}
    (sent : sentWith (self.answer P msgId packet entropy).1 = some message) :
    ∃ next iv, next.eapType ≠ some eap.eap_type.identity ∧
      buildSk P self.sa msgId true [(.eap, (next : EapPacket).toBytes)] iv = .ok message := by
  have mschap : ∀ code identifier opCode mschapId body,
      (EapPacket.mk code identifier (eap.mschapMessage opCode mschapId body)).eapType ≠ some eap.eap_type.identity :=
    fun code identifier opCode mschapId body =>
      EapPacket.not_identity_of_mschap (EapPacket.mschap_head rfl).1
  unfold answer at sent
  dsimp only at sent
  split at sent
  next =>
    split at sent
    next => cases sent
    next =>
      obtain ⟨iv, built⟩ := sentWith_replyWith (fun _ => rfl) sent
      exact ⟨_, iv, mschap _ _ _ _ _, built⟩
  split at sent
  next =>
    split at sent
    next => cases sent
    next =>
      split at sent
      next => cases sent
      next =>
        obtain ⟨iv, built⟩ := sentWith_replyWith (fun _ => rfl) sent
        exact ⟨_, iv, mschap _ _ _ _ _, built⟩
  split at sent
  next =>
    obtain ⟨iv, built⟩ := sentWith_replyWith (fun _ => rfl) sent
    refine ⟨⟨eap.code.success, packet.identifier, []⟩, iv, ?_, built⟩
    change none ≠ some eap.eap_type.identity
    decide
  next => cases sent

/-- An Identity response selects the user's credentials, or is not answered. -/
theorem answer_naming {ε : Type} [Entropy ε] (P : Primitives) (self : EapResponder) (msgId : UInt32)
    {packet : EapPacket} {user : Bytes} (claims : packet.data = eap.eap_type.identity :: user) (entropy : ε) :
    (sentWith (self.answer P msgId packet entropy).1 = none ∧
      (self.answer P msgId packet entropy).2.1 = { self with eapId := self.eapId + 1 }) ∨
    ∃ password challenge, self.users.get user = some password ∧ (self.answer P msgId packet entropy).2.1 =
      { self with user := user, password := password, eapId := self.eapId + 1, authChallenge := challenge } := by
  have kind : packet.eapType = some eap.eap_type.identity := by
    rw [EapPacket.eapType, claims]
    rfl
  have named : packet.data.drop 1 = user := by
    rw [claims]
    rfl
  unfold answer
  dsimp only
  rw [if_pos kind, named]
  cases known : self.users.get user with
  | none => exact .inl ⟨rfl, rfl⟩
  | some password => exact .inr ⟨password, _, rfl, rfl⟩

theorem answer_unnamed {ε : Type} [Entropy ε] (P : Primitives) (self : EapResponder) (msgId : UInt32)
    {packet : EapPacket} (kind : packet.eapType ≠ some eap.eap_type.identity) (entropy : ε) :
    ∃ ntResponse, (self.answer P msgId packet entropy).2.1 =
      { self with eapId := self.eapId + 1, ntResponse := ntResponse } := by
  unfold answer
  dsimp only
  rw [if_neg kind]
  split
  next =>
    split
    next => exact ⟨_, rfl⟩
    next => split <;> exact ⟨_, rfl⟩
  next => split <;> exact ⟨_, rfl⟩

theorem startEap_sends {ε : Type} [Entropy ε] {P : Primitives} {self : EapResponder} {msgId : UInt32}
    {ps : List Payload} {entropy : ε} {message : Bytes}
    (sent : sentWith (self.startEap P msgId ps entropy).1 = some message) :
    ∃ auth iv, self.ownAuth P (self.ownOctets P) = .ok auth ∧
      buildSk P self.sa msgId true (self.greeting auth) iv = .ok message := by
  unfold startEap at sent
  split at sent
  next => cases sent
  next =>
    dsimp only at sent
    split at sent
    next => cases sent
    next auth signs =>
      obtain ⟨iv, built⟩ := sentWith_replyWith (fun _ => rfl) sent
      exact ⟨auth, iv, signs, built⟩

theorem startEap_notes {ε : Type} [Entropy ε] (P : Primitives) (self : EapResponder) (msgId : UInt32)
    {ps : List Payload} {sai2 : Bytes} (offers : find ps .securityAssociation = some sai2) (entropy : ε) :
    (self.startEap P msgId ps entropy).2.1 =
      { self with peerChildSpi := espSpiFromSa sai2, peerIdi := (find ps .idInitiator).getD [] } := by
  unfold startEap
  rw [offers]
  dsimp only
  split <;> rfl

theorem finish_sends {ε : Type} [Entropy ε] {P : Primitives} {self : EapResponder} {msgId : UInt32} {authBytes : Bytes}
    {entropy : ε} {message : Bytes} (sent : sentWith (self.finish P msgId authBytes entropy).1 = some message) :
    isEstablished (self.finish P msgId authBytes entropy).1 = true ∧
      ∃ iv, buildSk P self.sa msgId true (self.lastPayloads P) iv = .ok message := by
  cases parsed : Authentication.parse authBytes with
  | error error =>
    unfold finish at sent
    rw [parsed] at sent
    cases sent
  | ok got =>
    rw [finish_eq P self msgId parsed] at sent ⊢
    cases agreed : self.keyedByMsk P authBytes with
    | false =>
      rw [agreed] at sent
      cases sent
    | true =>
      rw [agreed, if_pos rfl] at sent
      obtain ⟨iv, built⟩ := sentWith_replyWith (fun _ => rfl) sent
      refine ⟨?_, iv, built⟩
      rw [if_pos rfl]
      unfold replyWith at sent ⊢
      dsimp only at sent ⊢
      cases made : buildSk P self.sa msgId true (self.lastPayloads P) (Iv.draw entropy).1 with
      | error error =>
        rw [made] at sent
        cases sent
      | ok whole => rfl

end EapResponder

namespace EapParties

variable {ε δ : Type} (P : Primitives)

def machine [Entropy ε] [Entropy δ] : Machine EapParties (EapAction ε δ) (Result EapEvent) := fun self action =>
  match action with
  | .start entropy => ((self.client.start P entropy).1.map .reply, self)
  | .toServer message entropy =>
      let (event, responder, _) := self.responder.handle P message entropy
      (event, { self with responder })
  | .toClient message entropy =>
      let (event, client, _) := self.client.handle P message entropy
      (event, { self with client })

def heardByServer (self : EapParties) (message : Bytes) : List Heard :=
  ((decrypt P self.responder.sa message).toOption.map fun found => Heard.byServer found.1 found.2).toList

def heardByClient (self : EapParties) (message : Bytes) : List Heard :=
  ((decrypt P self.client.sa message).toOption.map fun found => Heard.byClient found.1 found.2).toList

def takes (call : Call EapParties (EapAction ε δ) (Result EapEvent)) : List Heard :=
  match call.input with
  | .start _ => []
  | .toServer message _ => call.before.heardByServer P message
  | .toClient message _ => call.before.heardByClient P message

def gives (call : Call EapParties (EapAction ε δ) (Result EapEvent)) : List Heard :=
  match sentWith call.output with
  | none => []
  | some message =>
      match call.input with
      | .toServer _ _ => call.before.heardByClient P message
      | .start _ | .toClient _ _ => call.before.heardByServer P message

def sealedTexts (call : Call EapParties (EapAction ε δ) (Result EapEvent)) : List Bytes :=
  ((sentWith call.output).map sealedText).toList

def ToClient (call : Call EapParties (EapAction ε δ) (Result EapEvent)) : Prop :=
  ∃ message entropy, call.input = .toClient message entropy

def ServerDone (call : Call EapParties (EapAction ε δ) (Result EapEvent)) : Prop :=
  (∃ message entropy, call.input = .toServer message entropy) ∧ EapResponder.isEstablished call.output = true

def ClientDone (call : Call EapParties (EapAction ε δ) (Result EapEvent)) : Prop :=
  ToClient call ∧ EapResponder.isEstablished call.output = true

/-! ## What a message tells of its sender -/

theorem mem_heardByServer {P : Primitives} {world : EapParties} {message : Bytes} {heard : Heard} :
    heard ∈ world.heardByServer P message ↔
      ∃ msgId ps, decrypt P world.responder.sa message = .ok (msgId, ps) ∧ heard = .byServer msgId ps := by
  unfold heardByServer
  cases decrypt P world.responder.sa message with
  | error error => simp [Except.toOption]
  | ok found => simp [Except.toOption, Prod.ext_iff]

theorem mem_heardByClient {P : Primitives} {world : EapParties} {message : Bytes} {heard : Heard} :
    heard ∈ world.heardByClient P message ↔
      ∃ msgId ps, decrypt P world.client.sa message = .ok (msgId, ps) ∧ heard = .byClient msgId ps := by
  unfold heardByClient
  cases decrypt P world.client.sa message with
  | error error => simp [Except.toOption]
  | ok found => simp [Except.toOption, Prod.ext_iff]

structure Opened (client : EapInitiator) (responder : EapResponder) : Prop where
  identity : responder.peerIdi = client.id.toBytes
  childSpi : responder.peerChildSpi = some client.childSpi

/-- It holds the user of this client too, with the password that it accepts for it. -/
structure Named (client : EapInitiator) (responder : EapResponder) : Prop extends Opened client responder where
  user : responder.user = client.user
  known : responder.users.get client.user = some responder.password

/-- What is known where a message of these payloads has been sent. -/
inductive Known (past : List (Call EapParties (EapAction ε δ) (Result EapEvent))) (world : EapParties) : Heard → Prop
  | opening {msgId : UInt32} {ps : List Payload} (noEap : find ps .eap = none) (noAuth : find ps .authentication = none)
      (offers : find ps .securityAssociation = some (espOffer world.client.childSpi).toBytes)
      (names : find ps .idInitiator = some world.client.id.toBytes) : Known past world (.byServer msgId ps)
  | identity {msgId : UInt32} {packet : EapPacket} (opened : Opened world.client world.responder)
      (whole : EapPacket.parse packet.toBytes = .ok packet)
      (claims : packet.data = eap.eap_type.identity :: world.client.user) :
      Known past world (.byServer msgId [(.eap, packet.toBytes)])
  | mschap {msgId : UInt32} {packet : EapPacket} (named : Named world.client world.responder)
      (whole : EapPacket.parse packet.toBytes = .ok packet) (kind : packet.eapType = some eap.eap_type.mschapv2) :
      Known past world (.byServer msgId [(.eap, packet.toBytes)])
  | auth {msgId : UInt32} {sender : Call EapParties (EapAction ε δ) (Result EapEvent)}
      (named : Named world.client world.responder) (member : sender ∈ past) (answers : ToClient sender)
      (sent : .byServer msgId [(.authentication, (sender.before.client.mskAuth P).toBytes)] ∈ gives P sender) :
      Known past world (.byServer msgId [(.authentication, (sender.before.client.mskAuth P).toBytes)])
  | greeting {msgId : UInt32} {ps : List Payload} {n : UInt8} (opened : Opened world.client world.responder)
      (asks : find ps .eap = some (⟨eap.code.request, n, [eap.eap_type.identity]⟩ : EapPacket).toBytes) :
      Known past world (.byClient msgId ps)
  | request {msgId : UInt32} {packet : EapPacket} (named : Named world.client world.responder)
      (whole : EapPacket.parse packet.toBytes = .ok packet) (kind : packet.eapType ≠ some eap.eap_type.identity) :
      Known past world (.byClient msgId [(.eap, packet.toBytes)])
  | last {msgId : UInt32} {done : Call EapParties (EapAction ε δ) (Result EapEvent)} (member : done ∈ past)
      (established : ServerDone done) : Known past world (.byClient msgId (done.before.responder.lastPayloads P))

structure Grows (world after : EapParties) : Prop where
  client : ∃ ntResponse verified, after.client =
    { world.client with ntResponse := ntResponse, serverVerified := verified }
  opened : Opened world.client world.responder → Opened after.client after.responder
  named : Named world.client world.responder → Named after.client after.responder

variable {P}

theorem Known.mono {past later : List (Call EapParties (EapAction ε δ) (Result EapEvent))} {world after : EapParties}
    {heard : Heard} (known : Known P past world heard) (within : ∀ call ∈ past, call ∈ later)
    (grows : Grows world after) : Known P later after heard := by
  obtain ⟨ntResponse, verified, same⟩ := grows.client
  cases known with
  | opening noEap noAuth offers names =>
    refine .opening noEap noAuth ?_ ?_
    · rw [offers, same]
    · rw [names, same]
  | identity opened whole claims =>
    refine .identity (grows.opened opened) whole ?_
    rw [claims, same]
  | mschap named whole kind => exact .mschap (grows.named named) whole kind
  | auth named member answers sent => exact .auth (grows.named named) (within _ member) answers sent
  | greeting opened asks => exact .greeting (grows.opened opened) asks
  | request named whole kind => exact .request (grows.named named) whole kind
  | last member established => exact .last (within _ member) established

theorem Grows.of_client {world : EapParties} {client : EapInitiator} (kept : ∃ ntResponse verified, client =
    { world.client with ntResponse := ntResponse, serverVerified := verified }) : Grows world { world with client } := by
  refine ⟨kept, ?_, ?_⟩
  · obtain ⟨ntResponse, verified, rfl⟩ := kept
    exact fun opened => ⟨opened.identity, opened.childSpi⟩
  · obtain ⟨ntResponse, verified, rfl⟩ := kept
    exact fun named => ⟨⟨named.identity, named.childSpi⟩, named.user, named.known⟩

theorem Grows.of_responder {world : EapParties} {responder : EapResponder}
    (opened : Opened world.client world.responder → Opened world.client responder)
    (named : Named world.client world.responder → Named world.client responder) : Grows world { world with responder } :=
  ⟨⟨world.client.ntResponse, world.client.serverVerified, rfl⟩, opened, named⟩

/-- Every message that reached an end was known to come from the other one. -/
structure Told (P : Primitives) (past : List (Call EapParties (EapAction ε δ) (Result EapEvent))) (world : EapParties) :
    Prop where
  given : ∀ heard ∈ past.flatMap (gives P), Known P past world heard
  taken : ∀ (k : Nat) call, past[k]? = some call → ∀ heard ∈ takes P call, Known P (past.take k) call.before heard

theorem Told.push {past : List (Call EapParties (EapAction ε δ) (Result EapEvent))} {world : EapParties}
    (told : Told P past world) {call : Call EapParties (EapAction ε δ) (Result EapEvent)} (here : call.before = world)
    (taken : ∀ heard ∈ takes P call, Known P past world heard) (grows : Grows world call.after)
    (given : ∀ heard ∈ gives P call, Known P (past ++ [call]) call.after heard) :
    Told P (past ++ [call]) call.after := by
  refine ⟨?_, ?_⟩
  · intro heard member
    rw [List.flatMap_append, List.mem_append] at member
    rcases member with earlier | now
    · exact (told.given heard earlier).mono (fun _ inPast => List.mem_append_left _ inPast) grows
    · exact given heard (by simpa using now)
  · intro k later isCall
    rcases Nat.lt_or_ge k past.length with inside | beyond
    · rw [List.getElem?_append_left inside] at isCall
      rw [List.take_append_of_le_length (Nat.le_of_lt inside)]
      exact told.taken k later isCall
    · have bound := (List.getElem?_eq_some_iff.mp isCall).1
      rw [List.length_append, List.length_singleton] at bound
      obtain rfl : k = past.length := by omega
      rw [List.getElem?_concat_length, Option.some.injEq] at isCall
      subst isCall
      rw [List.take_left, here]
      exact taken

/-! ## Steps -/

theorem known_start [Entropy ε] {past : List (Call EapParties (EapAction ε δ) (Result EapEvent))} {world : EapParties}
    {entropy : ε} {message : Bytes} (ideal : P.GcmIdeal [sealedText message])
    (started : (world.client.start P entropy).1 = .ok message)
    {heard : Heard} (inside : heard ∈ world.heardByServer P message) : Known P past world heard := by
  obtain ⟨msgId, ps, opened, rfl⟩ := mem_heardByServer.mp inside
  obtain ⟨rfl, -⟩ := decrypt_built ideal started world.client.proper_openingPayloads opened
  obtain ⟨noEap, noAuth, offers, names⟩ := world.client.find_openingPayloads
  exact .opening noEap noAuth offers names

theorem packetOf_some {self : EapInitiator} {message : Bytes} {msgId : UInt32} {packet : EapPacket}
    (carried : self.packetOf P message = some (msgId, packet)) :
    ∃ ps bytes, decrypt P self.sa message = .ok (msgId, ps) ∧ find ps .eap = some bytes ∧
      EapPacket.parse bytes = .ok packet := by
  obtain ⟨ps, opened⟩ := EapInitiator.packetOf_opened carried
  rw [EapInitiator.packetOf_eq opened] at carried
  split at carried
  next =>
    obtain ⟨packet', inside, same⟩ := Option.map_eq_some_iff.mp carried
    cases same
    obtain ⟨bytes, found, parsed⟩ := Option.bind_eq_some_iff.mp inside
    refine ⟨ps, bytes, opened, found, ?_⟩
    cases whole : EapPacket.parse bytes with
    | error error =>
      rw [whole] at parsed
      cases parsed
    | ok own =>
      rw [whole] at parsed
      cases parsed
      rfl
  next => cases carried

theorem mem_sealedTexts {call : Call EapParties (EapAction ε δ) (Result EapEvent)} {message : Bytes}
    (sent : sentWith call.output = some message) : sealedText message ∈ sealedTexts call := by
  rw [sealedTexts, sent]
  exact List.mem_singleton_self _

theorem gives_none {call : Call EapParties (EapAction ε δ) (Result EapEvent)} (quiet : sentWith call.output = none) :
    gives P call = [] := by
  rw [gives, quiet]

variable [Entropy ε] [Entropy δ]

theorem gives_toClient {world : EapParties} {message sent : Bytes} {entropy : ε}
    (answers : sentWith (world.client.handle P message entropy).1 = some sent) :
    gives P ((machine P : Machine EapParties (EapAction ε δ) _).call world (.toClient message entropy)) =
      world.heardByServer P sent := by
  have own : sentWith ((machine P : Machine EapParties (EapAction ε δ) _).call world (.toClient message entropy)).output =
      some sent := answers
  rw [gives, own]
  rfl

theorem gives_toServer {world : EapParties} {message sent : Bytes} {entropy : δ}
    (answers : sentWith (world.responder.handle P message entropy).1 = some sent) :
    gives P ((machine P : Machine EapParties (EapAction ε δ) _).call world (.toServer message entropy)) =
      world.heardByClient P sent := by
  have own : sentWith ((machine P : Machine EapParties (EapAction ε δ) _).call world (.toServer message entropy)).output =
      some sent := answers
  rw [gives, own]
  rfl

theorem known_toClient {past : List (Call EapParties (EapAction ε δ) (Result EapEvent))} {world : EapParties}
    {message sent : Bytes} {entropy : ε} (ideal : P.GcmIdeal [sealedText sent])
    (before : ∀ heard ∈ world.heardByClient P message, Known P past world heard)
    (answers : sentWith (world.client.handle P message entropy).1 = some sent) {heard : Heard}
    (inside : heard ∈ world.heardByServer P sent) :
    Known P (past ++ [(machine P : Machine EapParties (EapAction ε δ) _).call world (.toClient message entropy)]) world
      heard := by
  obtain ⟨msgId, packet, inner, iv, carried, utters, built⟩ := EapInitiator.handle_utters answers
  obtain ⟨ps, bytes, read, found, parsed⟩ := packetOf_some carried
  obtain ⟨msgId', ps', opened, rfl⟩ := mem_heardByServer.mp inside
  have known := before _ (mem_heardByClient.mpr ⟨msgId, ps, read, rfl⟩)
  cases known with
  | @greeting _ _ n learnt asks =>
    have short : 4 + [eap.eap_type.identity].length < 65536 := by decide
    rw [asks, Option.some.injEq] at found
    rw [← found, EapPacket.parse_toBytes short] at parsed
    cases parsed
    cases utters with
    | auth isSuccess => cases isSuccess
    | identity _ =>
      obtain ⟨rfl, entire⟩ := decrypt_built_eap ideal built opened
      exact .identity learnt entire rfl
    | mschap kind _ => cases kind
  | @request _ asked named entire kind =>
    rw [find_single, Option.some.injEq] at found
    rw [← found, entire] at parsed
    cases parsed
    cases utters with
    | auth isSuccess =>
      have proper : ∀ kind ∈ [(PayloadType.authentication, (world.client.mskAuth P).toBytes)].map Prod.fst,
          kind.Proper := by
        change ∀ kind ∈ [PayloadType.authentication], kind.Proper
        decide
      obtain ⟨rfl, -⟩ := decrypt_built ideal built proper opened
      let sender := (machine P : Machine EapParties (EapAction ε δ) _).call world (.toClient message entropy)
      have given : Heard.byServer msgId' [(.authentication, (sender.before.client.mskAuth P).toBytes)] ∈
          gives P sender := by
        rw [gives_toClient answers]
        exact inside
      have known : Known P (past ++ [sender]) world
          (.byServer msgId' [(.authentication, (sender.before.client.mskAuth P).toBytes)]) :=
        .auth named (List.mem_append_right _ List.mem_cons_self) ⟨message, entropy, rfl⟩ given
      exact known
    | identity asks => exact absurd asks kind
    | mschap _ own =>
      obtain ⟨rfl, entire⟩ := decrypt_built_eap ideal built opened
      exact .mschap named entire own
  | last member established =>
    rw [(EapResponder.find_lastPayloads P _).1] at found
    cases found

structure Serves (P : Primitives) (past : List (Call EapParties (EapAction ε δ) (Result EapEvent))) (world : EapParties)
    (message : Bytes) (entropy : δ) : Prop where
  grows : Grows world { world with responder := (world.responder.handle P message entropy).2.1 }
  known : ∀ sent, sentWith (world.responder.handle P message entropy).1 = some sent → ∀ heard ∈ world.heardByClient P sent,
    Known P (past ++ [(machine P : Machine EapParties (EapAction ε δ) _).call world (.toServer message entropy)])
      { world with responder := (world.responder.handle P message entropy).2.1 } heard

theorem serves_opening {past : List (Call EapParties (EapAction ε δ) (Result EapEvent))} {world : EapParties}
    {message : Bytes} {entropy : δ} {msgId : UInt32} {ps : List Payload}
    (ideal : ∀ sent, sentWith (world.responder.handle P message entropy).1 = some sent → P.GcmIdeal [sealedText sent])
    (handled : world.responder.handle P message entropy = world.responder.startEap P msgId ps entropy)
    (offers : find ps .securityAssociation = some (espOffer world.client.childSpi).toBytes)
    (names : find ps .idInitiator = some world.client.id.toBytes) : Serves P past world message entropy := by
  have notes := EapResponder.startEap_notes P world.responder msgId offers entropy
  rw [espSpiFromSa_espOffer, names, Option.getD_some, ← handled] at notes
  have opened : Opened world.client (world.responder.handle P message entropy).2.1 := by
    rw [notes]
    exact ⟨rfl, rfl⟩
  refine ⟨.of_responder (fun _ => opened) (fun named => ⟨opened, ?_, ?_⟩), ?_⟩
  · rw [notes]
    exact named.user
  · rw [notes]
    exact named.known
  · intro sent answers heard inside
    have own := ideal sent answers
    rw [handled] at answers
    obtain ⟨auth, iv, signs, built⟩ := EapResponder.startEap_sends answers
    obtain ⟨msgId', ps', read, rfl⟩ := mem_heardByClient.mp inside
    obtain ⟨rfl, -⟩ := decrypt_built own built (EapResponder.proper_greeting signs) read
    exact .greeting opened (EapResponder.find_greeting signs).2.2

theorem serves_packet {past : List (Call EapParties (EapAction ε δ) (Result EapEvent))} {world : EapParties}
    {message : Bytes} {entropy : δ} {msgId : UInt32} {packet : EapPacket}
    (ideal : ∀ sent, sentWith (world.responder.handle P message entropy).1 = some sent → P.GcmIdeal [sealedText sent])
    (handled : world.responder.handle P message entropy = world.responder.answer P msgId packet entropy)
    (grows : Grows world { world with responder := (world.responder.handle P message entropy).2.1 })
    (named : (sentWith (world.responder.handle P message entropy).1).isSome →
      Named world.client (world.responder.handle P message entropy).2.1) : Serves P past world message entropy := by
  refine ⟨grows, fun sent answers heard inside => ?_⟩
  have held := named (by rw [answers]; rfl)
  have own := ideal sent answers
  rw [handled] at answers
  obtain ⟨next, iv, kind, built⟩ := EapResponder.answer_sends answers
  obtain ⟨msgId', ps', read, rfl⟩ := mem_heardByClient.mp inside
  obtain ⟨rfl, whole⟩ := decrypt_built_eap own built read
  exact .request held whole kind

theorem serves_identity {past : List (Call EapParties (EapAction ε δ) (Result EapEvent))} {world : EapParties}
    {message : Bytes} {entropy : δ} {msgId : UInt32} {packet : EapPacket}
    (ideal : ∀ sent, sentWith (world.responder.handle P message entropy).1 = some sent → P.GcmIdeal [sealedText sent])
    (handled : world.responder.handle P message entropy = world.responder.answer P msgId packet entropy)
    (opened : Opened world.client world.responder) (claims : packet.data = eap.eap_type.identity :: world.client.user) :
    Serves P past world message entropy := by
  rcases EapResponder.answer_naming P world.responder msgId claims entropy with
    ⟨quiet, kept⟩ | ⟨password, challenge, known, named⟩
  · rw [← handled] at quiet kept
    apply serves_packet ideal handled
    · rw [kept]
      exact .of_responder (fun held => ⟨held.identity, held.childSpi⟩)
        (fun held => ⟨⟨held.identity, held.childSpi⟩, held.user, held.known⟩)
    · rw [quiet]
      exact fun some => absurd some Bool.false_ne_true
  · rw [← handled] at named
    have held : Named world.client (world.responder.handle P message entropy).2.1 := by
      rw [named]
      exact ⟨⟨opened.identity, opened.childSpi⟩, rfl, known⟩
    exact serves_packet ideal handled (.of_responder (fun _ => held.toOpened) (fun _ => held)) (fun _ => held)

theorem serves_mschap {past : List (Call EapParties (EapAction ε δ) (Result EapEvent))} {world : EapParties}
    {message : Bytes} {entropy : δ} {msgId : UInt32} {packet : EapPacket}
    (ideal : ∀ sent, sentWith (world.responder.handle P message entropy).1 = some sent → P.GcmIdeal [sealedText sent])
    (handled : world.responder.handle P message entropy = world.responder.answer P msgId packet entropy)
    (named : Named world.client world.responder) (kind : packet.eapType = some eap.eap_type.mschapv2) :
    Serves P past world message entropy := by
  obtain ⟨ntResponse, kept⟩ := EapResponder.answer_unnamed P world.responder msgId
    (EapPacket.not_identity_of_mschap kind) entropy
  rw [← handled] at kept
  have held : Named world.client (world.responder.handle P message entropy).2.1 := by
    rw [kept]
    exact ⟨⟨named.identity, named.childSpi⟩, named.user, named.known⟩
  exact serves_packet ideal handled (.of_responder (fun _ => held.toOpened) (fun _ => held)) (fun _ => held)

theorem serves_auth {past : List (Call EapParties (EapAction ε δ) (Result EapEvent))} {world : EapParties}
    {message : Bytes} {entropy : δ} {msgId : UInt32} {authBytes : Bytes}
    (ideal : ∀ sent, sentWith (world.responder.handle P message entropy).1 = some sent → P.GcmIdeal [sealedText sent])
    (handled : world.responder.handle P message entropy =
      ((world.responder.finish P msgId authBytes entropy).1, world.responder,
        (world.responder.finish P msgId authBytes entropy).2)) : Serves P past world message entropy := by
  have kept : (world.responder.handle P message entropy).2.1 = world.responder := by rw [handled]
  have event : (world.responder.handle P message entropy).1 = (world.responder.finish P msgId authBytes entropy).1 := by
    rw [handled]
  refine ⟨?_, fun sent answers heard inside => ?_⟩
  · rw [kept]
    exact .of_responder (fun opened => opened) (fun named => named)
  · have own := ideal sent answers
    rw [event] at answers
    obtain ⟨established, iv, built⟩ := EapResponder.finish_sends answers
    obtain ⟨msgId', ps', read, rfl⟩ := mem_heardByClient.mp inside
    obtain ⟨rfl, -⟩ := decrypt_built own built (EapResponder.proper_lastPayloads P world.responder) read
    let done := (machine P : Machine EapParties (EapAction ε δ) _).call world (.toServer message entropy)
    have isDone : ServerDone done := ⟨⟨message, entropy, rfl⟩, (congrArg EapResponder.isEstablished event).trans established⟩
    rw [kept]
    have known : Known P (past ++ [done]) world (.byClient msgId' (done.before.responder.lastPayloads P)) :=
      .last (List.mem_append_right _ List.mem_cons_self) isDone
    exact known

/-- The step lemma of the responder: one case for each message that a client sends. -/
theorem serves {past : List (Call EapParties (EapAction ε δ) (Result EapEvent))} {world : EapParties} {message : Bytes}
    {entropy : δ}
    (ideal : ∀ sent, sentWith (world.responder.handle P message entropy).1 = some sent → P.GcmIdeal [sealedText sent])
    (before : ∀ heard ∈ world.heardByServer P message, Known P past world heard) :
    Serves P past world message entropy := by
  cases read : decrypt P world.responder.sa message with
  | error error =>
    have refused : world.responder.handle P message entropy = (.error error, world.responder, entropy) := by
      rw [EapResponder.handle, read]
    refine ⟨?_, fun sent answers => ?_⟩
    · rw [refused]
      exact .of_responder (fun opened => opened) (fun named => named)
    · rw [refused] at answers
      cases answers
  | ok found =>
    obtain ⟨msgId, ps⟩ := found
    have known := before _ (mem_heardByServer.mpr ⟨msgId, ps, read, rfl⟩)
    have packet : ∀ packet : EapPacket, ps = [(.eap, packet.toBytes)] → EapPacket.parse packet.toBytes = .ok packet →
        world.responder.handle P message entropy = world.responder.answer P msgId packet entropy := by
      rintro packet rfl whole
      rw [EapResponder.handle, read]
      dsimp only
      rw [find_single]
      dsimp only
      rw [whole]
    cases known with
    | opening noEap noAuth offers names =>
      have handled : world.responder.handle P message entropy = world.responder.startEap P msgId ps entropy := by
        rw [EapResponder.handle, read]
        dsimp only
        rw [noEap, noAuth]
      exact serves_opening ideal handled offers names
    | identity opened whole claims => exact serves_identity ideal (packet _ rfl whole) opened claims
    | mschap named whole kind => exact serves_mschap ideal (packet _ rfl whole) named kind
    | @auth _ sender named member _ _ =>
      have handled : world.responder.handle P message entropy =
          ((world.responder.finish P msgId (sender.before.client.mskAuth P).toBytes entropy).1, world.responder,
            (world.responder.finish P msgId (sender.before.client.mskAuth P).toBytes entropy).2) := by
        rw [EapResponder.handle, read]
        dsimp only
        rw [find_single_other rfl, find_single]
      exact serves_auth ideal handled

/-! ## Runs -/

/-- The step lemma. -/
theorem Told.step {past : List (Call EapParties (EapAction ε δ) (Result EapEvent))} {world : EapParties}
    (told : Told P past world) (action : EapAction ε δ)
    (ideal : P.GcmIdeal (sealedTexts ((machine P).call world action)))
    (taken : ∀ heard ∈ takes P ((machine P).call world action), Known P past world heard) :
    Told P (past ++ [(machine P).call world action]) (machine P world action).2 := by
  have same : Grows world world := .of_responder (fun opened => opened) (fun named => named)
  cases action with
  | start entropy =>
    refine told.push rfl taken same ?_
    intro heard member
    cases started : (world.client.start P entropy).1 with
    | error error =>
      rw [gives_none (by rw [Machine.call, machine, started]; rfl)] at member
      cases member
    | ok message =>
      have sent : gives P ((machine P : Machine EapParties (EapAction ε δ) _).call world (.start entropy)) =
          world.heardByServer P message := by
        rw [gives, Machine.call, machine, started]
        rfl
      rw [sent] at member
      have goesOut : sentWith ((machine P : Machine EapParties (EapAction ε δ) _).call world (.start entropy)).output =
          some message := by
        rw [Machine.call, machine, started]
        rfl
      exact known_start (ideal.single (mem_sealedTexts goesOut)) started member
  | toServer message entropy =>
    have serving := serves (fun sent answers => ideal.single (mem_sealedTexts answers)) taken
    refine told.push rfl taken serving.grows ?_
    intro heard member
    cases answers : sentWith (world.responder.handle P message entropy).1 with
    | none =>
      rw [gives_none answers] at member
      cases member
    | some sent =>
      rw [gives_toServer answers] at member
      exact serving.known sent answers heard member
  | toClient message entropy =>
    have grows : Grows world { world with client := (world.client.handle P message entropy).2.1 } :=
      .of_client (EapInitiator.handle_after P world.client message entropy)
    refine told.push rfl taken grows ?_
    intro heard member
    cases answers : sentWith (world.client.handle P message entropy).1 with
    | none =>
      rw [gives_none answers] at member
      cases member
    | some sent =>
      rw [gives_toClient answers] at member
      have own : P.GcmIdeal [sealedText sent] := ideal.single (mem_sealedTexts answers)
      exact (known_toClient own taken answers member).mono (fun _ inPast => inPast) grows

theorem told_of_unforged (world : EapParties) (actions : List (EapAction ε δ))
    (unforged : Machine.Sourced (takes P) (gives P) ((machine P).calls world actions))
    (ideal : P.GcmIdeal (((machine P).calls world actions).flatMap sealedTexts)) :
    Told P ((machine P).calls world actions) ((machine P).final world actions) := by
  apply Machine.history_of (machine P) world
    (fun calls => Machine.Sourced (takes P) (gives P) calls ∧ P.GcmIdeal (calls.flatMap sealedTexts)) ?_
    (Told P) ?_ ?_ ⟨unforged, ideal⟩
  · rintro past call ⟨sourced, sealed⟩
    refine ⟨sourced.front, sealed.mono fun text inside => ?_⟩
    rw [List.flatMap_append]
    exact List.mem_append_left _ inside
  · refine ⟨?_, ?_⟩
    · intro heard member
      cases member
    · intro k call isCall
      cases isCall
  · rintro past state action ⟨sourced, sealed⟩ told
    refine told.step action (sealed.mono fun text inside => ?_) fun heard taken =>
      told.given heard (sourced.last taken)
    rw [List.flatMap_append]
    exact List.mem_append_right _ (List.mem_flatMap.mpr ⟨_, List.mem_cons_self, inside⟩)

/-! ## Agreement -/

def queries (P : Primitives) (call : Call EapParties (EapAction ε δ) (Result EapEvent)) : List (Bytes × Bytes) :=
  match call.input with
  | .start _ => []
  | .toServer _ _ =>
      if EapResponder.isEstablished call.output then
        call.before.responder.expectedQueries P ++ call.before.responder.ownQueries P
      else []
  | .toClient message _ =>
      call.before.client.ownQueries P ++ call.before.client.expectedQueries P (idrOf P call.before.client.sa message)

/-- The ends share the MSK, and the IKE_SA_INIT request with the nonce that answered it. -/
structure SameRequest (P : Primitives) (client : EapInitiator) (responder : EapResponder) : Prop where
  msk : client.msk P = responder.msk P
  signed : client.sa.initMessage ++ client.sa.nr = responder.sa.initMessage ++ responder.sa.nr
  skPi : client.sa.keys.skPi = responder.sa.keys.skPi

/-- The ends share the MSK, and the IKE_SA_INIT response with the nonce of the request. -/
structure SameAnswer (P : Primitives) (client : EapInitiator) (responder : EapResponder) : Prop where
  msk : client.msk P = responder.msk P
  signed : client.sa.respMessage ++ client.sa.ni = responder.sa.respMessage ++ responder.sa.ni
  skPr : client.sa.keys.skPr = responder.sa.keys.skPr

/-- An earlier call sent the client's AUTH, made with what the responder holds. -/
def AuthSent (P : Primitives) (past : List (Call EapParties (EapAction ε δ) (Result EapEvent)))
    (responder : EapResponder) : Prop :=
  ∃ sender ∈ past, ToClient sender ∧
    (∃ msgId, .byServer msgId [(.authentication, (sender.before.client.mskAuth P).toBytes)] ∈ gives P sender) ∧
    SameRequest P sender.before.client responder

/-- An earlier call established the responder, and the client has its last message. -/
def Answered (P : Primitives) (past : List (Call EapParties (EapAction ε δ) (Result EapEvent)))
    (call : Call EapParties (EapAction ε δ) (Result EapEvent)) : Prop :=
  ∃ done ∈ past, ServerDone done ∧
    (∃ msgId, .byClient msgId (done.before.responder.lastPayloads P) ∈ takes P call) ∧
    SameAnswer P call.before.client done.before.responder

omit [Entropy ε] in
theorem authSent_of_known {past : List (Call EapParties (EapAction ε δ) (Result EapEvent))} {world : EapParties}
    {message : Bytes} {entropy : δ} (known : ∀ heard ∈ world.heardByServer P message, Known P past world heard)
    (established : EapResponder.isEstablished (world.responder.handle P message entropy).1 = true)
    {prf : List (Bytes × Bytes)} (noCollision : P.NoCollision prf)
    (before : ∀ call ∈ past, ∀ query ∈ queries P call, query ∈ prf)
    (now : ∀ query ∈ world.responder.expectedQueries P, query ∈ prf) :
    Named world.client world.responder ∧ AuthSent P past world.responder := by
  have agreed := (EapResponder.isEstablished_handle P world.responder (message, entropy)).symm.trans established
  obtain ⟨msgId, ps, authBytes, got, _, read, noEap, hasAuth, parsed, keyed, -⟩ := EapResponder.agrees_eq_true agreed
  have taken := known _ (mem_heardByServer.mpr ⟨msgId, ps, read, rfl⟩)
  cases taken with
  | opening _ noAuth _ _ => cases noAuth.symm.trans hasAuth
  | identity => cases (find_single .eap _).symm.trans noEap
  | mschap => cases (find_single .eap _).symm.trans noEap
  | @auth _ sender named member answers sent =>
    obtain ⟨prompt, source, isInput⟩ := answers
    rw [find_single, Option.some.injEq] at hasAuth
    subst hasAuth
    rw [Authentication.parse_toBytes] at parsed
    cases parsed
    have same := EapResponder.keyedByMsk_of_parsed keyed (Authentication.parse_toBytes _)
    have own : ∀ query ∈ sender.before.client.ownQueries P, query ∈ prf := by
      intro query inOwn
      apply before sender member
      rw [queries, isInput]
      exact List.mem_append_left _ inOwn
    obtain ⟨msk, signed, skPi, -⟩ := same_auth noCollision own now same
    exact ⟨named, sender, member, ⟨prompt, source, isInput⟩, ⟨msgId, sent⟩, msk, signed, skPi⟩

theorem exists_established {event : Result EapEvent} (established : EapResponder.isEstablished event = true) :
    ∃ last, event = .ok (.established last) := by
  unfold EapResponder.isEstablished at established
  split at established
  next last => exact ⟨last, rfl⟩
  next => cases established

theorem answered_of_known {past : List (Call EapParties (EapAction ε δ) (Result EapEvent))} {world : EapParties}
    {message : Bytes} {entropy : ε} (known : ∀ heard ∈ world.heardByClient P message, Known P past world heard)
    (established : EapResponder.isEstablished (world.client.handle P message entropy).1 = true)
    {prf : List (Bytes × Bytes)} (noCollision : P.NoCollision prf)
    (before : ∀ call ∈ past, ∀ query ∈ queries P call, query ∈ prf)
    (now : ∀ query ∈ world.client.expectedQueries P (idrOf P world.client.sa message), query ∈ prf) :
    Answered P past ((machine P).call world (.toClient message entropy)) := by
  obtain ⟨last, event⟩ := exists_established established
  obtain ⟨-, msgId, ps, read, noEap, authBytes, auth, hasAuth, parsed, expected⟩ :=
    EapInitiator.handle_established event
  have found := mem_heardByClient.mpr ⟨msgId, ps, read, rfl⟩
  have taken := known _ found
  cases taken with
  | greeting _ asks => cases asks.symm.trans noEap
  | request => cases (find_single .eap _).symm.trans noEap
  | @last _ done member isDone =>
    obtain ⟨-, names, authenticates, -⟩ := EapResponder.find_lastPayloads P done.before.responder
    obtain rfl := Option.some.inj (hasAuth.symm.trans authenticates)
    rw [Authentication.parse_toBytes, Except.ok.injEq] at parsed
    rw [← parsed, names, Option.getD_some] at expected
    rw [idrOf_eq read, names, Option.getD_some] at now
    have own : ∀ query ∈ done.before.responder.ownQueries P, query ∈ prf := by
      obtain ⟨⟨prompt, source, isInput⟩, isEstablished⟩ := isDone
      intro query inOwn
      apply before done member
      rw [queries, isInput, isEstablished]
      exact List.mem_append_right _ inOwn
    obtain ⟨msk, signed, skPr, -⟩ := same_auth noCollision now own expected.symm
    exact ⟨done, member, isDone, ⟨msgId, found⟩, msk, signed, skPr⟩

omit [Entropy ε] [Entropy δ] in
theorem mem_queries {calls : List (Call EapParties (EapAction ε δ) (Result EapEvent))} {k : Nat} :
    ∀ call ∈ calls.take k, ∀ query ∈ queries P call, query ∈ calls.flatMap (queries P) :=
  fun call member _ inside => List.mem_flatMap.mpr ⟨call, List.mem_of_mem_take member, inside⟩

section

variable (world : EapParties) (actions : List (EapAction ε δ))
  (unforged : Machine.Sourced (takes P) (gives P) ((machine P).calls world actions))
  (ideal : P.GcmIdeal (((machine P).calls world actions).flatMap sealedTexts))
  {prf : List (Bytes × Bytes)} (noCollision : P.NoCollision prf)
  (within : ∀ query ∈ ((machine P).calls world actions).flatMap (queries P), query ∈ prf) {k : Nat}
  {call : Call EapParties (EapAction ε δ) (Result EapEvent)}
  (isCall : ((machine P).calls world actions)[k]? = some call)

include unforged ideal noCollision within isCall

theorem authSent_of_serverDone (done : ServerDone call) : Named call.before.client call.before.responder ∧
    AuthSent P (((machine P).calls world actions).take k) call.before.responder := by
  have taken := (told_of_unforged world actions unforged ideal).taken k call isCall
  have own : ∀ query ∈ queries P call, query ∈ prf :=
    fun query inside => within query (List.mem_flatMap.mpr ⟨call, List.mem_of_getElem? isCall, inside⟩)
  have before : ∀ earlier ∈ ((machine P).calls world actions).take k, ∀ query ∈ queries P earlier, query ∈ prf :=
    fun earlier member query inside => within query (mem_queries earlier member query inside)
  obtain ⟨action, rfl⟩ := Machine.calls_getElem? isCall
  obtain ⟨⟨message, entropy, rfl⟩, established⟩ := done
  refine authSent_of_known taken established noCollision before fun query inside => own query ?_
  change query ∈ if EapResponder.isEstablished _ = true then _ else _
  rw [if_pos established]
  exact List.mem_append_left _ inside

theorem answered_of_clientDone (done : ClientDone call) :
    Answered P (((machine P).calls world actions).take k) call := by
  have taken := (told_of_unforged world actions unforged ideal).taken k call isCall
  have own : ∀ query ∈ queries P call, query ∈ prf :=
    fun query inside => within query (List.mem_flatMap.mpr ⟨call, List.mem_of_getElem? isCall, inside⟩)
  have before : ∀ earlier ∈ ((machine P).calls world actions).take k, ∀ query ∈ queries P earlier, query ∈ prf :=
    fun earlier member query inside => within query (mem_queries earlier member query inside)
  obtain ⟨action, rfl⟩ := Machine.calls_getElem? isCall
  obtain ⟨⟨message, entropy, rfl⟩, established⟩ := done
  exact answered_of_known taken established noCollision before
    fun query inside => own query (List.mem_append_right _ inside)

end

/-- Whatever reaches the two ends in whatever order: where neither accepts a sealed message
that the other did not send, an established responder has named the client's own user, and
goes by its identity and its SPI; and an established client has the last message of an
established responder. Each pair holds one MSK. -/
theorem established_of_unforged (P : Primitives) (world : EapParties) (actions : List (EapAction ε δ))
    (unforged : Machine.Sourced (takes P) (gives P) ((machine P).calls world actions))
    (ideal : P.GcmIdeal (((machine P).calls world actions).flatMap sealedTexts))
    (noCollision : P.NoCollision (((machine P).calls world actions).flatMap (queries P))) (k : Nat)
    (call : Call EapParties (EapAction ε δ) (Result EapEvent))
    (isCall : ((machine P).calls world actions)[k]? = some call) :
    (ServerDone call → Named call.before.client call.before.responder ∧
      AuthSent P (((machine P).calls world actions).take k) call.before.responder) ∧
    (ClientDone call → Answered P (((machine P).calls world actions).take k) call) :=
  ⟨authSent_of_serverDone world actions unforged ideal noCollision (fun _ member => member) isCall,
    answered_of_clientDone world actions unforged ideal noCollision (fun _ member => member) isCall⟩

end EapParties

namespace Toy
open Ryke.Toy

def eapMachine : Machine EapParties (EapAction Counter Counter) (Result EapEvent) := EapParties.machine toy

def eapParties : EapParties := ⟨eapClient, eapServer⟩

def nextDelivery (last : Call EapParties (EapAction Counter Counter) (Result EapEvent)) : EapAction Counter Counter :=
  let message := (sentWith last.output).getD []
  match last.input with
  | .toServer _ _ => .toClient message ⟨3⟩
  | .start _ | .toClient _ _ => .toServer message ⟨2⟩

def eapTurn : Nat → Call EapParties (EapAction Counter Counter) (Result EapEvent) :=
  eapMachine.turns nextDelivery eapParties (.start ⟨1⟩)

end Toy

namespace EapParties

theorem established_of_unforged_honest :
    (ServerDone (Toy.eapTurn 9) ∧ Named (Toy.eapTurn 9).before.client (Toy.eapTurn 9).before.responder ∧
      AuthSent Ryke.toy ((List.range 9).map Toy.eapTurn) (Toy.eapTurn 9).before.responder) ∧
    ClientDone (Toy.eapTurn 10) ∧ Answered Ryke.toy ((List.range 10).map Toy.eapTurn) (Toy.eapTurn 10) := by
  let inputs := (List.range 11).map fun k => (Toy.eapTurn k).input
  have made : (machine Ryke.toy).calls Toy.eapParties inputs = (List.range 11).map Toy.eapTurn :=
    (Machine.calls_turns Toy.eapMachine Toy.nextDelivery Toy.eapParties (.start ⟨1⟩) 10).1
  have unforged : Machine.Sourced (takes Ryke.toy) (gives Ryke.toy) ((List.range 11).map Toy.eapTurn) := by
    decide +kernel
  have noCollision : Ryke.toy.NoCollision (((List.range 11).map Toy.eapTurn).flatMap (queries Ryke.toy)) := by
    unfold Primitives.NoCollision
    decide +kernel
  have agreed := established_of_unforged Ryke.toy Toy.eapParties inputs (made.symm ▸ unforged)
    (Ryke.Toy.toy_gcmIdeal _) (made.symm ▸ noCollision)
  rw [made] at agreed
  have serverDone : ServerDone (Toy.eapTurn 9) := ⟨⟨_, _, rfl⟩, by decide +kernel⟩
  have clientDone : ClientDone (Toy.eapTurn 10) := ⟨⟨_, _, rfl⟩, by decide +kernel⟩
  obtain ⟨named, sent⟩ := (agreed 9 (Toy.eapTurn 9) rfl).1 serverDone
  exact ⟨⟨serverDone, named, sent⟩, clientDone, (agreed 10 (Toy.eapTurn 10) rfl).2 clientDone⟩

end EapParties

end Ryke.Ikev2
