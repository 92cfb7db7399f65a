import Ryke.Ikev2.EapRuns

/-! Runs of the EAP client behind its check of the server. It goes on by whatever EAP packet
comes next, numbers its requests by the message it answers, and keeps no counter of its own. -/

namespace Ryke.Ikev2
open Lib Crypto

/-! ## Packets -/

namespace EapPacket

def Requests (packet : EapPacket) : Prop := packet.code ≠ eap.code.failure ∧ packet.code ≠ eap.code.success

instance (packet : EapPacket) : Decidable packet.Requests := inferInstanceAs (Decidable (_ ∧ _))

def challenge (packet : EapPacket) : Option Bytes :=
  if packet.Requests ∧ packet.eapType = some eap.eap_type.mschapv2 ∧ packet.data[1]? = some eap.op.challenge then
    (eap.parseChallenge packet.data).toOption.map fun parsed => parsed.2.1
  else none

def successText (packet : EapPacket) : Option Bytes :=
  if packet.Requests ∧ packet.eapType = some eap.eap_type.mschapv2 ∧ packet.data[1]? = some eap.op.success then
    some (packet.data.drop 5)
  else none

def Prompts (packet : EapPacket) : Prop :=
  packet.code = eap.code.success ∨ (packet.Requests ∧ packet.eapType = some eap.eap_type.identity) ∨
    packet.challenge.isSome = true ∨ packet.successText.isSome = true

end EapPacket

namespace EapInitiator

/-! ## What one call does -/

/-- The message gets past the check of the server. -/
def admits (P : Primitives) (self : EapInitiator) (ps : List Payload) : Bool :=
  if ¬ self.serverVerified ∧ (find ps .idResponder).isSome ∧ (find ps .authentication).isSome then
    self.verifyServer P ps
  else
    match self.verify with
    | .insecure => true
    | .trustedCas _ _ _ => self.serverVerified

def packetIn (ps : List Payload) : Option EapPacket := do
  let bytes ← find ps .eap
  (EapPacket.parse bytes).toOption

/-- The EAP packet that the client acts on, with the Message ID it came under. -/
def packetOf (P : Primitives) (self : EapInitiator) (message : Bytes) : Option (UInt32 × EapPacket) := do
  let (msgId, ps) ← (decrypt P self.sa message).toOption
  if self.admits P ps then (packetIn ps).map (msgId, ·) else none

def isReply (event : Result EapEvent) : Bool :=
  match event with
  | .ok (.reply _) => true
  | _ => false

def mskAuth (P : Primitives) (self : EapInitiator) : Authentication :=
  pskAuthPayload P (mschapv2.deriveMsk P self.password self.ntResponse)
    (initiatorSignedOctets P self.sa.initMessage self.sa.nr self.sa.keys.skPi self.id.toBytes)

def ntResponseTo (P : Primitives) (self : EapInitiator) (authChallenge peerChallenge : Bytes) : Bytes :=
  mschapv2.generateNtResponse P authChallenge peerChallenge self.user self.password

/-- What the client makes of a packet: nothing, its AUTH, the answer to a challenge, or
another EAP response. -/
inductive Acts {ε : Type} [Entropy ε] (P : Primitives) (self : EapInitiator) (nextId : UInt32) (packet : EapPacket)
    (entropy : ε) : Result EapEvent → EapInitiator → Prop
  | silent {event : Result EapEvent} (noChallenge : packet.challenge = none) (quiet : isReply event = false) :
      Acts P self nextId packet entropy event self
  | auth (isSuccess : packet.code = eap.code.success) :
      Acts P self nextId packet entropy
        (replyWith P self.sa nextId false [(.authentication, (self.mskAuth P).toBytes)] .reply entropy).1 self
  | challenge {authChallenge body : Bytes} (asks : packet.challenge = some authChallenge) :
      Acts P self nextId packet entropy
        (replyWith P self.sa nextId false [(.eap, body)] .reply (Entropy.fill entropy 16).2).1
        { self with ntResponse := self.ntResponseTo P authChallenge (Entropy.fill entropy 16).1 }
  | other {body : Bytes} (noChallenge : packet.challenge = none) (notSuccess : packet.code ≠ eap.code.success)
      (prompts : packet.Prompts) :
      Acts P self nextId packet entropy (replyWith P self.sa nextId false [(.eap, body)] .reply entropy).1 self

theorem challenge_of_not {packet : EapPacket} (other : ¬ (packet.Requests ∧
    packet.eapType = some eap.eap_type.mschapv2 ∧ packet.data[1]? = some eap.op.challenge)) :
    packet.challenge = none := if_neg other

theorem answer_acts {ε : Type} [Entropy ε] (P : Primitives) (self : EapInitiator) (nextId : UInt32)
    (packet : EapPacket) (entropy : ε) :
    Acts P self nextId packet entropy (self.answer P nextId packet entropy).1
      (self.answer P nextId packet entropy).2.1 := by
  unfold answer
  dsimp only
  by_cases failed : packet.code = eap.code.failure
  · rw [if_pos failed]
    exact .silent (challenge_of_not fun asks => asks.1.1 failed) rfl
  rw [if_neg failed]
  by_cases succeeded : packet.code = eap.code.success
  · rw [if_pos succeeded]
    exact .auth succeeded
  rw [if_neg succeeded]
  have requests : packet.Requests := ⟨failed, succeeded⟩
  by_cases identity : packet.eapType = some eap.eap_type.identity
  · rw [if_pos identity]
    have notMschap : packet.eapType ≠ some eap.eap_type.mschapv2 := by
      rw [identity]
      decide
    exact .other (challenge_of_not fun asks => notMschap asks.2.1) succeeded (.inr (.inl ⟨requests, identity⟩))
  rw [if_neg identity]
  by_cases challenge : packet.eapType = some eap.eap_type.mschapv2 ∧ packet.data[1]? = some eap.op.challenge
  · rw [if_pos challenge]
    have asked : packet.challenge = (eap.parseChallenge packet.data).toOption.map fun parsed => parsed.2.1 :=
      if_pos ⟨requests, challenge⟩
    cases parsed : eap.parseChallenge packet.data with
    | error error =>
      rw [parsed] at asked
      exact .silent asked rfl
    | ok triple =>
      obtain ⟨mschapId, authChallenge, name⟩ := triple
      rw [parsed] at asked
      exact .challenge asked
  rw [if_neg challenge]
  have noChallenge : packet.challenge = none := challenge_of_not fun asks => challenge asks.2
  by_cases success : packet.eapType = some eap.eap_type.mschapv2 ∧ packet.data[1]? = some eap.op.success
  · rw [if_pos success]
    have text : packet.successText = some (packet.data.drop 5) := if_pos ⟨requests, success⟩
    exact .other noChallenge succeeded (.inr (.inr (.inr (by rw [text]; rfl))))
  · rw [if_neg success]
    exact .silent noChallenge rfl

theorem isReply_confirm (P : Primitives) (self : EapInitiator) (ps : List Payload) :
    isReply (self.confirm P ps) = false := by
  unfold confirm
  cases find ps .authentication with
  | none => rfl
  | some authBytes =>
    cases find ps .securityAssociation with
    | none => rfl
    | some sa =>
      dsimp only
      cases Authentication.parse authBytes with
      | error error => rfl
      | ok got =>
        rw [ok_bind]
        split <;> rfl

/-- The client needs no proof of the server, or has seen one. -/
def Free (self : EapInitiator) : Prop := self.verify = .insecure ∨ self.serverVerified = true

theorem proceed_blocked {ε : Type} [Entropy ε] (P : Primitives) {self : EapInitiator} (blocked : ¬ self.Free)
    (nextId : UInt32) (ps : List Payload) (entropy : ε) :
    self.proceed P nextId ps entropy = (.ok .failed, self, entropy) := by
  unfold proceed
  unfold Free at blocked
  cases verify : self.verify with
  | insecure => exact absurd (.inl verify) blocked
  | trustedCas cas dns now =>
    cases verified : self.serverVerified with
    | false => rfl
    | true => exact absurd (.inr verified) blocked

theorem proceed_packetIn {ε : Type} [Entropy ε] (P : Primitives) {self : EapInitiator} (free : self.Free)
    (nextId : UInt32) (ps : List Payload) (entropy : ε) :
    (∃ packet, packetIn ps = some packet ∧
      self.proceed P nextId ps entropy = self.answer P nextId packet entropy) ∨
    packetIn ps = none ∧ isReply (self.proceed P nextId ps entropy).1 = false ∧
      (self.proceed P nextId ps entropy).2.1 = self := by
  generalize value : self.proceed P nextId ps entropy = result
  unfold proceed at value
  split at value
  next isCas unverified =>
    rcases free with insecure | verified
    · cases isCas.symm.trans insecure
    · cases unverified.symm.trans verified
  next =>
    split at value
    next absent =>
      have none_ : packetIn ps = none := by
        rw [packetIn, absent]
        rfl
      rw [← value]
      exact .inr ⟨none_, isReply_confirm P self ps, rfl⟩
    next bytes found =>
      have read : packetIn ps = (EapPacket.parse bytes).toOption := by
        rw [packetIn, found]
        rfl
      split at value
      next error failed =>
        rw [read, failed, ← value]
        exact .inr ⟨rfl, rfl, rfl⟩
      next packet parsed =>
        rw [read, parsed, ← value]
        exact .inl ⟨packet, rfl, rfl⟩

theorem admits_iff_free {P : Primitives} {self : EapInitiator} {ps : List Payload}
    (noProof : ¬ (¬ self.serverVerified ∧ (find ps .idResponder).isSome ∧ (find ps .authentication).isSome)) :
    self.admits P ps = true ↔ self.Free := by
  unfold admits Free
  rw [if_neg noProof]
  cases self.verify <;> simp

theorem packetOf_eq {P : Primitives} {self : EapInitiator} {message : Bytes} {msgId : UInt32} {ps : List Payload}
    (opened : decrypt P self.sa message = .ok (msgId, ps)) :
    packetOf P self message = if self.admits P ps then (packetIn ps).map (msgId, ·) else none := by
  rw [packetOf, opened]
  rfl

def withVerified (self : EapInitiator) (verified : Bool) : EapInitiator := { self with serverVerified := verified }

/-- A call acts on a packet, or says nothing. -/
theorem handle_packetOf {ε : Type} [Entropy ε] (P : Primitives) (self : EapInitiator) (message : Bytes) (entropy : ε) :
    (∃ verified msgId packet, packetOf P self message = some (msgId, packet) ∧
      self.handle P message entropy = (self.withVerified verified).answer P (msgId + 1) packet entropy) ∨
    packetOf P self message = none ∧ isReply (self.handle P message entropy).1 = false ∧
      ∃ verified, (self.handle P message entropy).2.1 = self.withVerified verified := by
  cases opened : decrypt P self.sa message with
  | error error =>
    right
    rw [packetOf, handle, opened]
    exact ⟨rfl, rfl, self.serverVerified, rfl⟩
  | ok pair =>
    obtain ⟨msgId, ps⟩ := pair
    have carried := packetOf_eq opened
    have refused : self.admits P ps = false → self.handle P message entropy = (.ok .failed, self, entropy) →
        packetOf P self message = none ∧ isReply (self.handle P message entropy).1 = false ∧
          ∃ verified, (self.handle P message entropy).2.1 = self.withVerified verified := by
      intro notAdmitted failed
      rw [notAdmitted] at carried
      rw [failed]
      exact ⟨carried, rfl, self.serverVerified, rfl⟩
    have goesOn : ∀ verified, self.admits P ps = true → (self.withVerified verified).Free →
        self.handle P message entropy = (self.withVerified verified).proceed P (msgId + 1) ps entropy →
        (∃ verified msgId packet, packetOf P self message = some (msgId, packet) ∧
          self.handle P message entropy = (self.withVerified verified).answer P (msgId + 1) packet entropy) ∨
        packetOf P self message = none ∧ isReply (self.handle P message entropy).1 = false ∧
          ∃ verified, (self.handle P message entropy).2.1 = self.withVerified verified := by
      intro verified admitted free goes
      rw [admitted, if_pos rfl] at carried
      rcases proceed_packetIn P free (msgId + 1) ps entropy with ⟨packet, inside, answers⟩ | ⟨noPacket, quiet, same⟩
      · rw [inside] at carried
        exact .inl ⟨verified, msgId, packet, carried, goes.trans answers⟩
      · rw [noPacket] at carried
        rw [← goes] at quiet same
        exact .inr ⟨carried, quiet, verified, same⟩
    have value : self.handle P message entropy =
        if ¬ self.serverVerified ∧ (find ps .idResponder).isSome ∧ (find ps .authentication).isSome then
          if self.verifyServer P ps then (self.withVerified true).proceed P (msgId + 1) ps entropy
          else (.ok .failed, self, entropy)
        else self.proceed P (msgId + 1) ps entropy := by
      rw [handle, opened]
      rfl
    by_cases proof : ¬ self.serverVerified ∧ (find ps .idResponder).isSome ∧ (find ps .authentication).isSome
    · have admits : self.admits P ps = self.verifyServer P ps := if_pos proof
      rw [if_pos proof] at value
      cases verified : self.verifyServer P ps with
      | true =>
        rw [if_pos verified] at value
        exact goesOn true (admits.trans verified) (.inr rfl) value
      | false =>
        rw [verified] at value admits
        exact .inr (refused admits value)
    · rw [if_neg proof] at value
      by_cases free : self.Free
      · exact goesOn self.serverVerified ((admits_iff_free proof).mpr free) free value
      · rw [proceed_blocked P free] at value
        exact .inr (refused (Bool.eq_false_iff.mpr (mt (admits_iff_free proof).mp free)) value)

/-! ## What a call sends and keeps -/

def replyOf (event : Result EapEvent) : Option Bytes :=
  match event with
  | .ok (.reply message) => some message
  | _ => none

theorem replyOf_eq_none {event : Result EapEvent} (quiet : isReply event = false) : replyOf event = none := by
  unfold isReply at quiet
  split at quiet
  next => cases quiet
  next other =>
    unfold replyOf
    split
    next message => exact absurd rfl (other message)
    next => rfl

theorem buildSk_fields {P : Primitives} {sa : CompletedSaInit} {msgId : UInt32} {isResponse : Bool}
    {inner : List Payload} {iv : Iv} {message : Bytes} (built : buildSk P sa msgId isResponse inner iv = .ok message) :
    (∃ header, IkeHeader.parse message = .ok header ∧ header.messageId = msgId) ∧
      byteAt message IkeHeader.len = (firstPayloadType inner).toU8 := by
  constructor
  · obtain ⟨length, parsed⟩ := parse_buildEncryptedGcm (show (2 : UInt8) < 16 by decide)
      (show (0 : UInt8) < 16 by decide) rfl built
    exact ⟨_, parsed, rfl⟩
  · obtain ⟨sealed, -, built⟩ := bind_eq_ok built
    cases built
    rfl

theorem replyWith_reply {ε : Type} [Entropy ε] {P : Primitives} {sa : CompletedSaInit} {msgId : UInt32}
    {inner : List Payload} {entropy : ε} {message : Bytes}
    (sent : replyOf (replyWith P sa msgId false inner .reply entropy).1 = some message) :
    ∃ iv, buildSk P sa msgId false inner iv = .ok message := by
  refine ⟨(Iv.draw entropy).1, ?_⟩
  unfold replyWith at sent
  dsimp only at sent
  cases built : buildSk P sa msgId false inner (Iv.draw entropy).1 with
  | error error =>
    rw [built] at sent
    cases sent
  | ok own =>
    rw [built] at sent
    exact congrArg Except.ok (Option.some.inj sent)

inductive Sends (P : Primitives) (self : EapInitiator) (packet : EapPacket) : List Payload → Prop
  | auth (isSuccess : packet.code = eap.code.success) :
      Sends P self packet [(.authentication, (self.mskAuth P).toBytes)]
  | response (notSuccess : packet.code ≠ eap.code.success) (body : Bytes) : Sends P self packet [(.eap, body)]

theorem requests_of_challenge {packet : EapPacket} {authChallenge : Bytes}
    (asks : packet.challenge = some authChallenge) : packet.Requests := by
  unfold EapPacket.challenge at asks
  split at asks
  next requests => exact requests.1
  next => cases asks

theorem Acts.sends {ε : Type} [Entropy ε] {P : Primitives} {self after : EapInitiator} {nextId : UInt32}
    {packet : EapPacket} {entropy : ε} {event : Result EapEvent} (acts : Acts P self nextId packet entropy event after)
    {message : Bytes} (sent : replyOf event = some message) :
    packet.Prompts ∧ ∃ inner iv, Sends P self packet inner ∧ buildSk P self.sa nextId false inner iv = .ok message := by
  cases acts with
  | silent noChallenge quiet => cases (replyOf_eq_none quiet).symm.trans sent
  | auth isSuccess =>
    obtain ⟨iv, built⟩ := replyWith_reply sent
    exact ⟨.inl isSuccess, _, iv, .auth isSuccess, built⟩
  | challenge asks =>
    obtain ⟨iv, built⟩ := replyWith_reply sent
    exact ⟨.inr (.inr (.inl (by rw [asks]; rfl))), _, iv, .response (requests_of_challenge asks).2 _, built⟩
  | other noChallenge notSuccess prompts =>
    obtain ⟨iv, built⟩ := replyWith_reply sent
    exact ⟨prompts, _, iv, .response notSuccess _, built⟩

theorem handle_sends {ε : Type} [Entropy ε] (P : Primitives) (self : EapInitiator) (message : Bytes) (entropy : ε)
    {reply : Bytes} (sent : replyOf (self.handle P message entropy).1 = some reply) :
    ∃ msgId packet, packetOf P self message = some (msgId, packet) ∧ packet.Prompts ∧
      ∃ inner iv, Sends P self packet inner ∧ buildSk P self.sa (msgId + 1) false inner iv = .ok reply := by
  rcases handle_packetOf P self message entropy with ⟨verified, msgId, packet, carried, answers⟩ | ⟨-, quiet, -⟩
  · rw [answers] at sent
    obtain ⟨prompts, inner, iv, sends, built⟩ :=
      (answer_acts P (self.withVerified verified) (msgId + 1) packet entropy).sends sent
    refine ⟨msgId, packet, carried, prompts, inner, iv, ?_, built⟩
    cases sends with
    | auth isSuccess => exact .auth isSuccess
    | response notSuccess body => exact .response notSuccess body
  · cases (replyOf_eq_none quiet).symm.trans sent

def challengeOf (P : Primitives) (self : EapInitiator) (message : Bytes) : Option Bytes := do
  let (_, packet) ← packetOf P self message
  packet.challenge

def successTextOf (P : Primitives) (self : EapInitiator) (message : Bytes) : Option Bytes := do
  let (_, packet) ← packetOf P self message
  packet.successText

structure Leaves {ε : Type} [Entropy ε] (P : Primitives) (before : EapInitiator) (input : Bytes × ε)
    (after : EapInitiator) : Prop where
  sa : after.sa = before.sa
  user : after.user = before.user
  password : after.password = before.password
  ntResponse : after.ntResponse =
    match challengeOf P before input.1 with
    | some authChallenge => before.ntResponseTo P authChallenge (Entropy.fill input.2 16).1
    | none => before.ntResponse

theorem handle_leaves {ε : Type} [Entropy ε] (P : Primitives) (self : EapInitiator) (input : Bytes × ε) :
    Leaves P self input (self.handle P input.1 input.2).2.1 := by
  rcases handle_packetOf P self input.1 input.2 with
    ⟨verified, msgId, packet, carried, answers⟩ | ⟨noPacket, -, verified, same⟩
  · have asked : challengeOf P self input.1 = packet.challenge := by
      rw [challengeOf, carried]
      rfl
    rw [answers]
    have acts := answer_acts P (self.withVerified verified) (msgId + 1) packet input.2
    generalize (self.withVerified verified).answer P (msgId + 1) packet input.2 = result at acts
    obtain ⟨event, after, rest⟩ := result
    cases acts with
    | silent noChallenge quiet => exact ⟨rfl, rfl, rfl, by rw [asked, noChallenge]⟩
    | auth isSuccess =>
      have noChallenge : packet.challenge = none := challenge_of_not fun asks => asks.1.2 isSuccess
      exact ⟨rfl, rfl, rfl, by rw [asked, noChallenge]⟩
    | challenge asks => exact ⟨rfl, rfl, rfl, by rw [asked, asks]; rfl⟩
    | other noChallenge notSuccess prompts => exact ⟨rfl, rfl, rfl, by rw [asked, noChallenge]⟩
  · have noChallenge : challengeOf P self input.1 = none := by
      rw [challengeOf, noPacket]
      rfl
    rw [same]
    exact ⟨rfl, rfl, rfl, by rw [noChallenge]; rfl⟩

/-! ## Message IDs -/

def replies {ε : Type} (calls : List (Call EapInitiator (Bytes × ε) (Result EapEvent))) : List Bytes :=
  calls.filterMap fun call => replyOf call.output

theorem replies_concat {ε : Type} (past : List (Call EapInitiator (Bytes × ε) (Result EapEvent)))
    (call : Call EapInitiator (Bytes × ε) (Result EapEvent)) :
    replies (past ++ [call]) = replies past ++ (replyOf call.output).toList := by
  rw [replies, List.filterMap_append, replies]
  cases sent : replyOf call.output <;> simp [sent]

/-- Every message that opens leaves room for the next number, and one that prompts an answer
comes under the number of the client's last request. -/
def InStep {ε : Type} (P : Primitives) (calls : List (Call EapInitiator (Bytes × ε) (Result EapEvent))) : Prop :=
  ∀ (k : Nat) call, calls[k]? = some call → ∀ msgId ps, decrypt P call.before.sa call.input.1 = .ok (msgId, ps) →
    msgId ≠ 0xFFFFFFFF ∧
      ∀ packet, packetOf P call.before call.input.1 = some (msgId, packet) → packet.Prompts →
        msgId.toNat = (replies (calls.take k)).length + 1

/-- The messages carry the numbers from one on. -/
def Numbered (messages : List Bytes) : Prop :=
  ∀ (k : Nat) message, messages[k]? = some message →
    ∃ header, IkeHeader.parse message = .ok header ∧ header.messageId.toNat = k + 1

theorem Numbered.push {messages : List Bytes} (numbered : Numbered messages) {message : Bytes} {header : IkeHeader}
    (parsed : IkeHeader.parse message = .ok header) (number : header.messageId.toNat = messages.length + 1) :
    Numbered (messages ++ [message]) := by
  intro k other isOther
  rcases Nat.lt_or_ge k messages.length with inside | past
  · rw [List.getElem?_append_left inside] at isOther
    exact numbered k other isOther
  · rw [List.getElem?_append_right past] at isOther
    cases beyond : k - messages.length with
    | zero =>
      rw [beyond] at isOther
      cases isOther
      exact ⟨header, parsed, by omega⟩
    | succ n =>
      rw [beyond] at isOther
      cases isOther

theorem start_numbered {ε : Type} [Entropy ε] {P : Primitives} {self : EapInitiator} {entropy : ε} {first : Bytes}
    (started : (self.start P entropy).1 = .ok first) : Numbered [first] := by
  obtain ⟨length, parsed⟩ := parse_buildEncryptedGcm (show (2 : UInt8) < 16 by decide)
    (show (0 : UInt8) < 16 by decide) rfl started
  have empty : Numbered [] := fun k message isMessage => by cases isMessage
  exact empty.push parsed rfl

theorem packetOf_opened {P : Primitives} {self : EapInitiator} {message : Bytes} {msgId : UInt32} {packet : EapPacket}
    (carried : packetOf P self message = some (msgId, packet)) :
    ∃ ps, decrypt P self.sa message = .ok (msgId, ps) := by
  cases opened : decrypt P self.sa message with
  | error error =>
    rw [packetOf, opened] at carried
    cases carried
  | ok pair =>
    obtain ⟨msgId', ps⟩ := pair
    rw [packetOf_eq opened] at carried
    split at carried
    · obtain ⟨packet', -, same⟩ := Option.map_eq_some_iff.mp carried
      cases same
      exact ⟨ps, rfl⟩
    · cases carried

theorem succ_toNat_of_ne_max {msgId : UInt32} (room : msgId ≠ 0xFFFFFFFF) : (msgId + 1).toNat = msgId.toNat + 1 := by
  have bound := msgId.toNat_lt
  have below : msgId.toNat ≠ 4294967295 := fun same => room (UInt32.toNat_inj.mp same)
  rw [UInt32.toNat_add]
  change (msgId.toNat + 1) % 2 ^ 32 = _
  omega

theorem inStep_of_append {ε : Type} {P : Primitives} {past : List (Call EapInitiator (Bytes × ε) (Result EapEvent))}
    {call : Call EapInitiator (Bytes × ε) (Result EapEvent)} (inStep : InStep P (past ++ [call])) : InStep P past := by
  intro k earlier isCall msgId ps opened
  have inside := (List.getElem?_eq_some_iff.mp isCall).1
  have step := inStep k earlier (Machine.getElem?_append_of_some isCall [call]) msgId ps opened
  rwa [List.take_append_of_le_length (Nat.le_of_lt inside)] at step

/-- In a run in step the `k`-th message of the client carries the number `k`, and no number wraps. -/
theorem numbered_of_inStep {ε : Type} [Entropy ε] (P : Primitives) (self : EapInitiator) (entropy : ε) (first : Bytes)
    (started : (self.start P entropy).1 = .ok first) (inputs : List (Bytes × ε))
    (inStep : InStep P ((machine P).calls self inputs)) :
    Numbered (first :: replies ((machine P).calls self inputs)) ∧
      ∀ (k : Nat) call, ((machine P).calls self inputs)[k]? = some call → ∀ msgId ps,
        decrypt P call.before.sa call.input.1 = .ok (msgId, ps) → (msgId + 1).toNat = msgId.toNat + 1 := by
  constructor
  · refine Machine.history (machine P) self (fun past _ => InStep P past → Numbered (first :: replies past))
      (fun _ => start_numbered started) ?_ inputs inStep
    intro past state input numbered inStep
    have before := numbered (inStep_of_append inStep)
    have here : (past ++ [(machine P).call state input])[past.length]? = some ((machine P).call state input) :=
      List.getElem?_concat_length
    rw [replies_concat, ← List.cons_append]
    cases sent : replyOf ((machine P).call state input).output with
    | none =>
      rw [Option.toList_none, List.append_nil]
      exact before
    | some reply =>
      rw [Option.toList_some]
      obtain ⟨msgId, packet, carried, prompts, inner, iv, -, built⟩ := handle_sends P state input.1 input.2 sent
      obtain ⟨ps, opened⟩ := packetOf_opened carried
      obtain ⟨room, last⟩ := inStep past.length _ here msgId ps opened
      have number := last packet carried prompts
      rw [List.take_left] at number
      obtain ⟨header, parsed, own⟩ := (buildSk_fields built).1
      apply before.push parsed
      rw [own, succ_toNat_of_ne_max room, number]
      rfl
  · intro k call isCall msgId ps opened
    exact succ_toNat_of_ne_max (inStep k call isCall msgId ps opened).1

/-- A short run in which every message opens under the number of the client's last request. -/
theorem inStep_of_numbers {ε : Type} {P : Primitives} {calls : List (Call EapInitiator (Bytes × ε) (Result EapEvent))}
    (short : calls.length < 2 ^ 32 - 2)
    (numbers : ∀ k (inside : k < calls.length), (decrypt P calls[k].before.sa calls[k].input.1).map Prod.fst =
      .ok (UInt32.ofNat ((replies (calls.take k)).length + 1))) : InStep P calls := by
  intro k call isCall msgId ps opened
  obtain ⟨inside, atK⟩ := List.getElem?_eq_some_iff.mp isCall
  have number := numbers k inside
  rw [atK, opened] at number
  have few : (replies (calls.take k)).length ≤ k :=
    (List.length_filterMap_le _ _).trans (List.length_take_le k calls)
  have own : msgId.toNat = (replies (calls.take k)).length + 1 := by
    have same : msgId = UInt32.ofNat ((replies (calls.take k)).length + 1) := Except.ok.inj number
    have bound : (replies (calls.take k)).length + 1 < 2 ^ 32 := by omega
    rw [same]
    exact UInt32.toNat_ofNat_of_lt bound
  refine ⟨fun isMax => ?_, fun _ _ _ => own⟩
  rw [isMax] at own
  change 4294967295 = _ at own
  omega

end EapInitiator

namespace Toy
open Ryke.Toy

def answers : Nat → EapInitiator → EapResponder → Bytes → List Bytes
  | 0, _, _, _ => []
  | rounds + 1, client, server, message =>
      let (event, server, _) := server.handle toy message (⟨2⟩ : Counter)
      let (answer, client, _) := client.handle toy (eapMessageOf event) (⟨3⟩ : Counter)
      eapMessageOf event :: answers rounds client server (eapMessageOf answer)

def firstMessage : Bytes := (eapClient.start toy (⟨1⟩ : Counter)).1.toOption.getD []

def honestAnswers : List (Bytes × Counter) := (answers 4 eapClient eapServer firstMessage).map (·, ⟨3⟩)

def trustingClient : EapInitiator := EapInitiator.new initSa alice [97] ['p'] 5 .insecure

def trustingFirst : Bytes := (trustingClient.start toyMac (⟨1⟩ : Counter)).1.toOption.getD []

def identityRequest (msgId : UInt32) : Bytes × Counter :=
  ((buildSk toyMac respSa msgId true [(.eap, (EapPacket.mk eap.code.request 1 [eap.eap_type.identity]).toBytes)]
    (.ofU64 7)).toOption.getD [], ⟨3⟩)

end Toy

namespace EapInitiator

theorem numbered_of_inStep_honest :
    (replies ((machine toy).calls Toy.eapClient Toy.honestAnswers)).length = 4 ∧
      Numbered (Toy.firstMessage :: replies ((machine toy).calls Toy.eapClient Toy.honestAnswers)) := by
  have started : (Toy.eapClient.start toy (⟨1⟩ : Ryke.Toy.Counter)).1 = .ok Toy.firstMessage := by
    decide +kernel
  have inStep : InStep toy ((machine toy).calls Toy.eapClient Toy.honestAnswers) := by
    apply inStep_of_numbers
    · decide +kernel
    · decide +kernel
  have replied : (replies ((machine toy).calls Toy.eapClient Toy.honestAnswers)).length = 4 := by
    decide +kernel
  have numbered := numbered_of_inStep toy Toy.eapClient (⟨1⟩ : Ryke.Toy.Counter) Toy.firstMessage started
    Toy.honestAnswers inStep
  exact ⟨replied, numbered.1⟩

/-- A request that comes again is answered under the same number again, and one under the
last Message ID is answered under zero. -/
theorem not_numbered_replayed :
    ¬ Numbered (Toy.trustingFirst :: replies ((machine Ryke.Toy.toyMac).calls Toy.trustingClient
      [Toy.identityRequest 1, Toy.identityRequest 1])) ∧
    ¬ Numbered (Toy.trustingFirst :: replies ((machine Ryke.Toy.toyMac).calls Toy.trustingClient
      [Toy.identityRequest 0xFFFFFFFF])) := by
  have refuted : ∀ (messages : List Bytes) (k : Nat) (number : UInt32), number.toNat ≠ k + 1 →
      messages[k]?.map (fun message => (IkeHeader.parse message).map IkeHeader.messageId) = some (.ok number) →
      ¬ Numbered messages := by
    intro messages k number differs there numbered
    obtain ⟨message, isMessage, said⟩ := Option.map_eq_some_iff.mp there
    obtain ⟨header, parsed, own⟩ := numbered k message isMessage
    rw [parsed] at said
    apply differs
    rw [← Except.ok.inj said]
    exact own
  constructor
  · exact refuted _ 2 2 (by decide) (by decide +kernel)
  · exact refuted _ 1 0 (by decide) (by decide +kernel)

end EapInitiator

end Ryke.Ikev2
