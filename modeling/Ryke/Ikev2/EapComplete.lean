import Ryke.Ikev2.EapSteps

/-! The EAP exchange of two honest ends, in lock step. Five messages of the initiator
reach the responder, and the network may hand each of them over again before the next
one. What the exchange comes to is decided by the challenge that the responder holds
when the Response arrives. -/

namespace Ryke.Ikev2
open Lib Crypto

/-! ## The exchange -/

/-- What an exchange came to, with the states in which both ends are established. -/
inductive EapOutcome where
  | established (rounds : Nat) (initiator : EapInitiator) (responder : EapResponder)
  | failed

def EapOutcome.isEstablished : EapOutcome → Bool
  | .established _ _ _ => true
  | .failed => false

def EapResponder.hearAgain {ε : Type} [Entropy ε] (P : Primitives) (message : Bytes) :
    Nat → EapResponder → ε → EapResponder × ε
  | 0, self, entropy => (self, entropy)
  | copies + 1, self, entropy =>
      let (_, self, entropy) := self.handle P message entropy
      hearAgain P message copies self entropy

/-- Rounds of an initiator's message and the responder's answer. The message of round `n`
is handed over `copies n` more times, and the initiator takes the first answer. -/
def drive {ε δ : Type} [Entropy ε] [Entropy δ] (P : Primitives) (copies : Nat → Nat) :
    Nat → Nat → EapInitiator → EapResponder → ε → δ → Bytes → EapOutcome
  | 0, _, _, _, _, _, _ => .failed
  | rounds + 1, round, initiator, responder, initEntropy, respEntropy, message =>
      match responder.handle P message respEntropy with
      | (.ok (.reply answer), responder, respEntropy) =>
          let (responder, respEntropy) := responder.hearAgain P message (copies round) respEntropy
          match initiator.handle P answer initEntropy with
          | (.ok (.reply next), initiator, initEntropy) =>
              drive P copies rounds (round + 1) initiator responder initEntropy respEntropy next
          | _ => .failed
      | (.ok (.established (some last)), responder, respEntropy) =>
          let (responder, _) := responder.hearAgain P message (copies round) respEntropy
          match initiator.handle P last initEntropy with
          | (.ok (.established none), initiator, _) => .established (round + 1) initiator responder
          | _ => .failed
      | _ => .failed

/-- A whole exchange, of at most twelve rounds. -/
def exchange {ε δ : Type} [Entropy ε] [Entropy δ] (P : Primitives) (copies : Nat → Nat) (initiator : EapInitiator)
    (responder : EapResponder) (initEntropy : ε) (respEntropy : δ) : EapOutcome :=
  match initiator.start P initEntropy with
  | (.ok message, initEntropy) => drive P copies 12 0 initiator responder initEntropy respEntropy message
  | (.error _, _) => .failed

/-- Two ends that are able to complete an exchange: they share an IKE SA and a
credential, the server can produce its own AUTH, the client accepts it, and the messages
fit their length fields. -/
structure Able (P : Primitives) (initiator : EapInitiator) (responder : EapResponder) (auth : List Payload) : Prop where
  matching : Matching initiator.sa responder.sa
  knows : responder.users.get initiator.user = some initiator.password
  signs : responder.ownAuth P (responder.ownOctets P) = .ok auth
  verifies : initiator.verifyServer P (responder.greeting auth) = true
  openingFits : skPayloadLen (encodePayloadChain initiator.openingPayloads) < 65536
  greetingFits : skPayloadLen (encodePayloadChain (responder.greeting auth)) < 65536
  userFits : initiator.user.length + 92 < 65536
  lastFits : skPayloadLen (encodePayloadChain (responder.lastPayloads P)) < 65536

/-! ## What the sources give -/

section Draws

variable {ε : Type} [Entropy ε]

def afterOpening : Nat → ε → ε
  | 0, source => (Iv.draw source).2
  | copies + 1, source => afterOpening copies (Iv.draw source).2

/-- The challenge that the responder holds after the Identity response was heard
`copies + 1` times: the last one drawn. -/
def challengeAfter : Nat → ε → Bytes
  | 0, source => (Entropy.fill source 16).1
  | copies + 1, source => challengeAfter copies (Iv.draw (Entropy.fill source 16).2).2

def peerChallengeOf (source : ε) : Bytes := (Entropy.fill (Iv.draw (Iv.draw source).2).2 16).1

theorem challengeAfter_length (copies : Nat) (source : ε) : (challengeAfter copies source).length = 16 := by
  induction copies generalizing source with
  | zero => exact Entropy.fill_length source 16
  | succ copies ih => exact ih _

end Draws

/-- The Response to the challenge that was answered is also the one to the challenge held:
always so when the Identity response came once. -/
def SameResponse {ε δ : Type} [Entropy ε] [Entropy δ] (P : Primitives) (copies : Nat → Nat) (user : Bytes)
    (password : Text) (initEntropy : ε) (respEntropy : δ) : Prop :=
  mschapv2.generateNtResponse P (challengeAfter (copies 1) (afterOpening (copies 0) respEntropy))
      (peerChallengeOf initEntropy) user password =
    mschapv2.generateNtResponse P (challengeAfter 0 (afterOpening (copies 0) respEntropy))
      (peerChallengeOf initEntropy) user password

theorem sameResponse_of_once {ε δ : Type} [Entropy ε] [Entropy δ] (P : Primitives) {copies : Nat → Nat}
    (once : copies 1 = 0) (user : Bytes) (password : Text) (initEntropy : ε) (respEntropy : δ) :
    SameResponse P copies user password initEntropy respEntropy := by
  rw [SameResponse, once]

/-! ## Hearing a message again -/

namespace EapResponder

variable {ε : Type} [Entropy ε] {P : Primitives}

/-- What every copy keeps, all copies keep. -/
theorem hearAgain_keeps {message : Bytes} {Kept : EapResponder → Prop}
    (step : ∀ self (entropy : ε), Kept self → Kept (self.handle P message entropy).2.1) (copies : Nat)
    {self : EapResponder} (kept : Kept self) (entropy : ε) : Kept (self.hearAgain P message copies entropy).1 := by
  induction copies generalizing self entropy with
  | zero => exact kept
  | succ copies ih => exact ih (step self entropy kept) _

/-- A first message that was heard changes nothing when it is heard again. -/
theorem hearAgain_opening {message : Bytes} {self : EapResponder}
    (again : ∀ entropy : ε, ∃ event, self.handle P message entropy = (event, self, (Iv.draw entropy).2)) (copies : Nat)
    (entropy : ε) : self.hearAgain P message copies (Iv.draw entropy).2 = (self, afterOpening copies entropy) := by
  induction copies generalizing entropy with
  | zero => rfl
  | succ copies ih =>
    obtain ⟨event, handled⟩ := again (Iv.draw entropy).2
    rw [hearAgain, handled]
    exact ih _

theorem hearAgain_identity {message : Bytes} {holding : UInt8 → Bytes → EapResponder}
    (again : ∀ (n : UInt8) (held : Bytes) (entropy : ε), ∃ event, (holding n held).handle P message entropy =
      (event, holding (n + 1) (Entropy.fill entropy 16).1, (Iv.draw (Entropy.fill entropy 16).2).2))
    (copies : Nat) (n : UInt8) (entropy : ε) :
    ∃ m, ((holding n (Entropy.fill entropy 16).1).hearAgain P message copies
      (Iv.draw (Entropy.fill entropy 16).2).2).1 = holding m (challengeAfter copies entropy) := by
  induction copies generalizing n entropy with
  | zero => exact ⟨n, rfl⟩
  | succ copies ih =>
    obtain ⟨event, handled⟩ := again n (Entropy.fill entropy 16).1 (Iv.draw (Entropy.fill entropy 16).2).2
    obtain ⟨m, held⟩ := ih (n + 1) (Iv.draw (Entropy.fill entropy 16).2).2
    refine ⟨m, ?_⟩
    rw [hearAgain, handled]
    exact held

theorem lastPayloads_size {self other : EapResponder} (id : other.id = self.id) (childSpi : other.childSpi = self.childSpi)
    (assigned : other.assigned = self.assigned) :
    skPayloadLen (encodePayloadChain (other.lastPayloads P)) = skPayloadLen (encodePayloadChain (self.lastPayloads P)) := by
  rw [skPayloadLen, skPayloadLen, encodePayloadChain_length, encodePayloadChain_length, lastPayloads, lastPayloads, id,
    childSpi, assigned]
  simp only [List.map_append, List.map_cons, List.map_nil, pskAuthPayload_length]

end EapResponder

/-! ## The rounds -/

section Rounds

variable {ε δ : Type} [Entropy ε] [Entropy δ] {P : Primitives} {copies : Nat → Nat} {rounds round : Nat}
  {initiator initiator' : EapInitiator} {responder responder' : EapResponder} {initEntropy initEntropy' : ε}
  {respEntropy respEntropy' : δ} {message answer : Bytes}

theorem drive_reply {next : Bytes}
    (handled : responder.handle P message respEntropy = (.ok (.reply answer), responder', respEntropy'))
    (answered : initiator.handle P answer initEntropy = (.ok (.reply next), initiator', initEntropy')) :
    drive P copies (rounds + 1) round initiator responder initEntropy respEntropy message =
      drive P copies rounds (round + 1) initiator' (responder'.hearAgain P message (copies round) respEntropy').1
        initEntropy' (responder'.hearAgain P message (copies round) respEntropy').2 next := by
  rw [drive, handled]
  dsimp only
  rw [answered]

theorem drive_established
    (handled : responder.handle P message respEntropy = (.ok (.established (some answer)), responder', respEntropy'))
    (answered : initiator.handle P answer initEntropy = (.ok (.established none), initiator', initEntropy')) :
    drive P copies (rounds + 1) round initiator responder initEntropy respEntropy message =
      .established (round + 1) initiator' (responder'.hearAgain P message (copies round) respEntropy').1 := by
  rw [drive, handled]
  dsimp only
  rw [answered]

theorem drive_failed (handled : (responder.handle P message respEntropy).1 = .ok .failed) :
    drive P copies (rounds + 1) round initiator responder initEntropy respEntropy message = .failed := by
  rcases split : responder.handle P message respEntropy with ⟨event, responder', respEntropy'⟩
  rw [split] at handled
  cases handled
  rw [drive, split]

end Rounds

section Exchange

variable {ε δ : Type} [Entropy ε] [Entropy δ] {P : Primitives} (correct : P.GcmCorrect) (seals : P.GcmSeals)
  {initiator : EapInitiator} {responder : EapResponder} {auth : List Payload} (able : Able P initiator responder auth)
  (copies : Nat → Nat) (initEntropy : ε) (respEntropy : δ)

def greeted (initiator : EapInitiator) (responder : EapResponder) : EapResponder :=
  { responder with peerChildSpi := some initiator.childSpi, peerIdi := initiator.id.toBytes }

def challenged (initiator : EapInitiator) (responder : EapResponder) (n : UInt8) (challenge : Bytes) : EapResponder :=
  { greeted initiator responder with
    user := initiator.user
    password := initiator.password
    eapId := n
    authChallenge := challenge }

def responded (P : Primitives) (initiator : EapInitiator) (challenge peerChallenge : Bytes) : EapInitiator :=
  { initiator with
    serverVerified := true
    ntResponse := mschapv2.generateNtResponse P challenge peerChallenge initiator.user initiator.password }

include correct seals able in
theorem exchange_named (fresh : initiator.serverVerified = false) :
    ∃ message msgId,
      exchange P copies initiator responder initEntropy respEntropy = drive P copies 11 1
        { initiator with serverVerified := true } (greeted initiator responder)
        (Iv.draw (Iv.draw initEntropy).2).2 (afterOpening (copies 0) respEntropy) message ∧
      decrypt P responder.sa message = .ok (msgId, [(.eap, (⟨eap.code.response, responder.eapId,
        eap.eap_type.identity :: initiator.user⟩ : EapPacket).toBytes)]) := by
  have forth := able.matching.facing
  have back := able.matching.facing_back
  obtain ⟨opening, built, opened⟩ := exists_buildSk correct seals forth initiator.proper_openingPayloads
    able.openingFits 1 false (Iv.draw initEntropy).1
  obtain ⟨greeting, replied, proof⟩ := EapResponder.handle_opening correct seals responder back opened able.signs
    able.greetingFits respEntropy
  obtain ⟨identity, answered, named⟩ := EapInitiator.handle_greeting correct seals initiator forth fresh proof able.signs
    able.verifies able.userFits (Iv.draw initEntropy).2
  have again : ∀ entropy : δ, ∃ event, (greeted initiator responder).handle P opening entropy =
      (event, greeted initiator responder, (Iv.draw entropy).2) := by
    intro entropy
    obtain ⟨reply, handled, -⟩ := EapResponder.handle_opening correct seals (greeted initiator responder) back opened
      able.signs able.greetingFits entropy
    exact ⟨_, handled⟩
  have copied := EapResponder.hearAgain_opening again (copies 0) respEntropy
  refine ⟨identity, 1 + 1, ?_, named⟩
  rw [exchange, EapInitiator.start_eq P initiator able.matching.initiator, built]
  dsimp only
  rw [drive_reply replied answered]
  change drive P copies 11 1 _ ((greeted initiator responder).hearAgain P opening (copies 0) (Iv.draw respEntropy).2).1 _
    ((greeted initiator responder).hearAgain P opening (copies 0) (Iv.draw respEntropy).2).2 identity = _
  rw [copied]

include correct seals able in
theorem drive_challenged (rounds : Nat) {message : Bytes} {msgId : UInt32} {k : UInt8}
    (read : decrypt P responder.sa message = .ok (msgId, [(.eap, (⟨eap.code.response, k,
      eap.eap_type.identity :: initiator.user⟩ : EapPacket).toBytes)])) :
    ∃ (n l : UInt8) (initEntropy' : ε) (respEntropy' : δ) (response : Bytes) (nextId : UInt32),
      drive P copies (rounds + 1) 1 { initiator with serverVerified := true } (greeted initiator responder) initEntropy
          respEntropy message =
        drive P copies rounds 2
          (responded P initiator (challengeAfter 0 respEntropy) (Entropy.fill initEntropy 16).1)
          (challenged initiator responder n (challengeAfter (copies 1) respEntropy)) initEntropy' respEntropy'
          response ∧
      decrypt P responder.sa response = .ok (nextId, [(.eap, (⟨eap.code.response, l, eap.buildResponse P 1
        (challengeAfter 0 respEntropy) (Entropy.fill initEntropy 16).1 initiator.user
        initiator.password⟩ : EapPacket).toBytes)]) := by
  have forth := able.matching.facing
  have back := able.matching.facing_back
  obtain ⟨challenge, replied, asked⟩ := EapResponder.handle_identity correct seals (greeted initiator responder) back
    read rfl able.userFits able.knows respEntropy
  obtain ⟨response, answered, proved⟩ := EapInitiator.handle_challenge correct seals
    { initiator with serverVerified := true } forth rfl (challengeAfter_length 0 respEntropy) asked able.userFits
    initEntropy
  have again : ∀ (n : UInt8) (held : Bytes) (entropy : δ), ∃ event,
      (challenged initiator responder n held).handle P message entropy =
        (event, challenged initiator responder (n + 1) (Entropy.fill entropy 16).1,
          (Iv.draw (Entropy.fill entropy 16).2).2) := by
    intro n held entropy
    obtain ⟨reply, handled, -⟩ := EapResponder.handle_identity correct seals (challenged initiator responder n held)
      back read rfl able.userFits able.knows entropy
    exact ⟨_, handled⟩
  obtain ⟨n, copied⟩ := EapResponder.hearAgain_identity again (copies 1) (responder.eapId + 1) respEntropy
  let first := challenged initiator responder (responder.eapId + 1) (challengeAfter 0 respEntropy)
  let heard := first.hearAgain P message (copies 1) (Iv.draw (Entropy.fill respEntropy 16).2).2
  refine ⟨n, _, (Iv.draw (Entropy.fill initEntropy 16).2).2, heard.2, response, _, ?_, proved⟩
  rw [drive_reply replied answered, ← copied]
  rfl

def proved (initiator : EapInitiator) (responder : EapResponder) (held nt : Bytes) (n : UInt8) : EapResponder :=
  { challenged initiator responder n held with ntResponse := nt }

/-- The states that differ in the EAP identifier only. -/
def UpToId (states : UInt8 → EapResponder) (self : EapResponder) : Prop := ∃ n, self = states n

theorem UpToId.hearAgain {states : UInt8 → EapResponder} {message : Bytes}
    (step : ∀ (n : UInt8) (entropy : δ), ∃ event m entropy',
      (states n).handle P message entropy = (event, states m, entropy')) (times : Nat) {self : EapResponder}
    (kept : UpToId states self) (entropy : δ) : UpToId states (self.hearAgain P message times entropy).1 := by
  apply EapResponder.hearAgain_keeps ?_ times kept entropy
  rintro _ entropy ⟨n, rfl⟩
  obtain ⟨event, m, entropy', handled⟩ := step n entropy
  rw [handled]
  exact ⟨m, rfl⟩

include correct seals able in
theorem drive_proved (rounds : Nat) (n : UInt8) {message : Bytes} {msgId : UInt32} {k : UInt8}
    {challenge held peerChallenge : Bytes} (size : peerChallenge.length = 16)
    (read : decrypt P responder.sa message = .ok (msgId, [(.eap, (⟨eap.code.response, k, eap.buildResponse P 1 challenge
      peerChallenge initiator.user initiator.password⟩ : EapPacket).toBytes)]))
    (agrees : mschapv2.generateNtResponse P held peerChallenge initiator.user initiator.password =
      mschapv2.generateNtResponse P challenge peerChallenge initiator.user initiator.password) :
    ∃ (m l : UInt8) (initEntropy' : ε) (respEntropy' : δ) (ack : Bytes) (nextId : UInt32),
      drive P copies (rounds + 1) 2 (responded P initiator challenge peerChallenge)
          (challenged initiator responder n held) initEntropy respEntropy message =
        drive P copies rounds 3 (responded P initiator challenge peerChallenge) (proved initiator responder held
          (mschapv2.generateNtResponse P challenge peerChallenge initiator.user initiator.password) m) initEntropy'
          respEntropy' ack ∧
      decrypt P responder.sa ack = .ok (nextId, [(.eap, (⟨eap.code.response, l,
        [eap.eap_type.mschapv2, eap.op.success]⟩ : EapPacket).toBytes)]) := by
  have forth := able.matching.facing
  have back := able.matching.facing_back
  let nt := mschapv2.generateNtResponse P challenge peerChallenge initiator.user initiator.password
  obtain ⟨reply, success, replied, sent, successSize⟩ := EapResponder.handle_response correct seals
    (challenged initiator responder n held) back read rfl able.userFits size agrees respEntropy
  obtain ⟨ack, answered, acked⟩ := EapInitiator.handle_success correct seals
    (responded P initiator challenge peerChallenge) forth rfl successSize sent initEntropy
  have kept : UpToId (proved initiator responder held nt) ((proved initiator responder held nt (n + 1)).hearAgain P
      message (copies 2) (Iv.draw respEntropy).2).1 := by
    apply UpToId.hearAgain ?_ (copies 2) ⟨n + 1, rfl⟩
    intro m entropy
    obtain ⟨again, _, handled, -, -⟩ := EapResponder.handle_response correct seals
      (proved initiator responder held nt m) back read rfl able.userFits size agrees entropy
    exact ⟨_, m + 1, _, handled⟩
  obtain ⟨m, isState⟩ := kept
  refine ⟨m, _, (Iv.draw initEntropy).2, ((proved initiator responder held nt (n + 1)).hearAgain P message (copies 2)
    (Iv.draw respEntropy).2).2, ack, _, ?_, acked⟩
  rw [drive_reply replied answered, ← isState]
  rfl

include correct seals able in
theorem drive_acked (rounds : Nat) (n : UInt8) (challenge peerChallenge held nt : Bytes) {message : Bytes}
    {msgId : UInt32} {k : UInt8}
    (read : decrypt P responder.sa message = .ok (msgId, [(.eap, (⟨eap.code.response, k,
      [eap.eap_type.mschapv2, eap.op.success]⟩ : EapPacket).toBytes)])) :
    ∃ (m : UInt8) (initEntropy' : ε) (respEntropy' : δ) (last : Bytes) (nextId : UInt32),
      drive P copies (rounds + 1) 3 (responded P initiator challenge peerChallenge) (proved initiator responder held nt n)
          initEntropy respEntropy message =
        drive P copies rounds 4 (responded P initiator challenge peerChallenge) (proved initiator responder held nt m)
          initEntropy' respEntropy' last ∧
      decrypt P responder.sa last = .ok (nextId, [(.authentication,
        ((responded P initiator challenge peerChallenge).lastAuth P).toBytes)]) := by
  have forth := able.matching.facing
  have back := able.matching.facing_back
  obtain ⟨reply, replied, sent⟩ := EapResponder.handle_ack correct seals (proved initiator responder held nt n) back read
    rfl respEntropy
  obtain ⟨last, answered, signed⟩ := EapInitiator.handle_eapSuccess correct seals
    (responded P initiator challenge peerChallenge) forth rfl sent initEntropy
  have kept : UpToId (proved initiator responder held nt) ((proved initiator responder held nt (n + 1)).hearAgain P
      message (copies 3) (Iv.draw respEntropy).2).1 := by
    apply UpToId.hearAgain ?_ (copies 3) ⟨n + 1, rfl⟩
    intro m entropy
    obtain ⟨again, handled, -⟩ := EapResponder.handle_ack correct seals (proved initiator responder held nt m) back read
      rfl entropy
    exact ⟨_, m + 1, _, handled⟩
  obtain ⟨m, isState⟩ := kept
  refine ⟨m, (Iv.draw initEntropy).2, ((proved initiator responder held nt (n + 1)).hearAgain P message (copies 3)
    (Iv.draw respEntropy).2).2, last, _, ?_, signed⟩
  rw [drive_reply replied answered, ← isState]
  rfl

include correct seals able in
theorem handle_lastAuth (n : UInt8) (held : Bytes) {challenge peerChallenge nt : Bytes}
    (same : nt = mschapv2.generateNtResponse P challenge peerChallenge initiator.user initiator.password)
    {message : Bytes} {msgId : UInt32}
    (read : decrypt P responder.sa message = .ok (msgId, [(.authentication,
      ((responded P initiator challenge peerChallenge).lastAuth P).toBytes)])) (entropy : δ) :
    ∃ last, (proved initiator responder held nt n).handle P message entropy =
        (.ok (.established (some last)), proved initiator responder held nt n, (Iv.draw entropy).2) ∧
      decrypt P initiator.sa last = .ok (msgId, (proved initiator responder held nt n).lastPayloads P) := by
  have matching := able.matching
  apply EapResponder.handle_last correct seals (proved initiator responder held nt n) matching.facing_back read
  · change _ = pskAuth P _ (initiatorSignedOctets P responder.sa.initMessage responder.sa.nr responder.sa.keys.skPi
      initiator.id.toBytes)
    rw [matching.initMessage, matching.nr, matching.keys, same]
    rfl
  · have size : skPayloadLen (encodePayloadChain ((proved initiator responder held nt n).lastPayloads P)) =
        skPayloadLen (encodePayloadChain (responder.lastPayloads P)) := EapResponder.lastPayloads_size rfl rfl rfl
    rw [size]
    exact able.lastFits

include correct seals able in
theorem drive_last (rounds : Nat) (n : UInt8) (held : Bytes) {challenge peerChallenge : Bytes} {message : Bytes}
    {msgId : UInt32}
    (read : decrypt P responder.sa message = .ok (msgId, [(.authentication,
      ((responded P initiator challenge peerChallenge).lastAuth P).toBytes)])) :
    ∃ m, drive P copies (rounds + 1) 4 (responded P initiator challenge peerChallenge) (proved initiator responder held
        (mschapv2.generateNtResponse P challenge peerChallenge initiator.user initiator.password) n) initEntropy
        respEntropy message =
      .established 5 (responded P initiator challenge peerChallenge) (proved initiator responder held
        (mschapv2.generateNtResponse P challenge peerChallenge initiator.user initiator.password) m) := by
  have matching := able.matching
  let nt := mschapv2.generateNtResponse P challenge peerChallenge initiator.user initiator.password
  obtain ⟨last, replied, sent⟩ := handle_lastAuth correct seals able n held rfl read respEntropy
  have octets : (proved initiator responder held nt n).ownOctets P = responderSignedOctets P initiator.sa.respMessage
      initiator.sa.ni initiator.sa.keys.skPr responder.id.toBytes := by
    change responderSignedOctets P responder.sa.respMessage responder.sa.ni responder.sa.keys.skPr _ = _
    rw [matching.respMessage, matching.ni, matching.keys]
    rfl
  have answered := EapInitiator.handle_last (responded P initiator challenge peerChallenge) rfl sent rfl octets initEntropy
  have kept : UpToId (proved initiator responder held nt) ((proved initiator responder held nt n).hearAgain P
      message (copies 4) (Iv.draw respEntropy).2).1 := by
    apply UpToId.hearAgain ?_ (copies 4) ⟨n, rfl⟩
    intro m entropy
    obtain ⟨again, handled, -⟩ := handle_lastAuth correct seals able m held rfl read entropy
    exact ⟨_, m, _, handled⟩
  obtain ⟨m, isState⟩ := kept
  refine ⟨m, ?_⟩
  rw [drive_established replied answered, isState]

include correct seals able in
theorem exchange_responded (fresh : initiator.serverVerified = false) :
    ∃ (n l : UInt8) (initEntropy' : ε) (respEntropy' : δ) (response : Bytes) (msgId : UInt32),
      exchange P copies initiator responder initEntropy respEntropy = drive P copies 10 2
        (responded P initiator (challengeAfter 0 (afterOpening (copies 0) respEntropy)) (peerChallengeOf initEntropy))
        (challenged initiator responder n (challengeAfter (copies 1) (afterOpening (copies 0) respEntropy)))
        initEntropy' respEntropy' response ∧
      decrypt P responder.sa response = .ok (msgId, [(.eap, (⟨eap.code.response, l, eap.buildResponse P 1
        (challengeAfter 0 (afterOpening (copies 0) respEntropy)) (peerChallengeOf initEntropy) initiator.user
        initiator.password⟩ : EapPacket).toBytes)]) := by
  obtain ⟨identity, _, named, read⟩ := exchange_named correct seals able copies initEntropy respEntropy fresh
  obtain ⟨n, l, initEntropy', respEntropy', response, msgId, asked, read⟩ := drive_challenged correct seals able copies
    (Iv.draw (Iv.draw initEntropy).2).2 (afterOpening (copies 0) respEntropy) 10 read
  exact ⟨n, l, initEntropy', respEntropy', response, msgId, named.trans asked, read⟩

include correct seals able in
theorem exchange_established (fresh : initiator.serverVerified = false)
    (same : SameResponse P copies initiator.user initiator.password initEntropy respEntropy) :
    ∃ established held nt n, exchange P copies initiator responder initEntropy respEntropy =
      .established 5 established (proved initiator responder held nt n) := by
  have size : (peerChallengeOf initEntropy).length = 16 := Entropy.fill_length _ 16
  obtain ⟨n₂, _, initEntropy₂, respEntropy₂, _, _, asked, read⟩ :=
    exchange_responded correct seals able copies initEntropy respEntropy fresh
  obtain ⟨n₃, _, initEntropy₃, respEntropy₃, _, _, agreed, read⟩ :=
    drive_proved correct seals able copies initEntropy₂ respEntropy₂ 9 n₂ size read same
  obtain ⟨n₄, initEntropy₄, respEntropy₄, _, _, acked, read⟩ :=
    drive_acked correct seals able copies initEntropy₃ respEntropy₃ 8 n₃ _ _ _ _ read
  obtain ⟨n₅, ended⟩ := drive_last correct seals able copies initEntropy₄ respEntropy₄ 7 n₄ _ read
  exact ⟨_, _, _, n₅, ((asked.trans agreed).trans acked).trans ended⟩

include correct seals able in
theorem exchange_failed (fresh : initiator.serverVerified = false)
    (differs : ¬ SameResponse P copies initiator.user initiator.password initEntropy respEntropy) :
    exchange P copies initiator responder initEntropy respEntropy = .failed := by
  have size : (peerChallengeOf initEntropy).length = 16 := Entropy.fill_length _ 16
  obtain ⟨n, _, _, respEntropy', _, _, asked, read⟩ :=
    exchange_responded correct seals able copies initEntropy respEntropy fresh
  rw [asked]
  apply drive_failed
  exact EapResponder.handle_response_failed (challenged initiator responder n _) read rfl able.userFits size differs
    respEntropy'

end Exchange

namespace Toy
open Ryke.Toy

def assigningServer : EapResponder :=
  (EapResponder.newMulti respSa ⟨2, [115]⟩ (.cert (.rsaSha256 []) [[115]]) eapUsers 7).setAssigned (some assigned)

def serverAuth : List Payload := (assigningServer.ownAuth toyMac (assigningServer.ownOctets toyMac)).toOption.getD []

theorem signs : assigningServer.ownAuth toyMac (assigningServer.ownOctets toyMac) = .ok serverAuth := by
  have succeeds : (assigningServer.ownAuth toyMac (assigningServer.ownOctets toyMac)).isOk = true := by decide +kernel
  obtain ⟨auth, signed⟩ := exists_of_isOk succeeds
  have same : serverAuth = auth := by
    rw [serverAuth, signed]
    exact Option.getD_some
  rw [same, signed]

theorem able : Able toyMac eapClient assigningServer serverAuth where
  matching := by
    simp only [eapClient, assigningServer, EapInitiator.setSendCertreq, EapInitiator.new, EapResponder.setAssigned,
      EapResponder.newMulti]
    exact matching
  knows := by decide +kernel
  signs := signs
  verifies := by decide +kernel
  openingFits := by decide +kernel
  greetingFits := by decide +kernel
  userFits := by decide
  lastFits := by decide +kernel

def identityTwice (round : Nat) : Nat := if round = 1 then 1 else 0

def othersThrice (round : Nat) : Nat := if round = 1 then 0 else 2

end Toy

/-! ## Completeness and retransmission -/

/-- Two honest ends complete the exchange in exactly five rounds, for every identity,
credential and source, and the responder knows the user and the initiator's SPI. -/
theorem eap_complete {ε δ : Type} [Entropy ε] [Entropy δ] (P : Primitives) (correct : P.GcmCorrect) (seals : P.GcmSeals)
    (initSa respSa : CompletedSaInit) (idI idR : Identification) (user : Bytes) (password : Text)
    (childI childR : UInt32) (verify : ServerVerify) (sendCertreq : Bool) (serverAuth : ServerAuth)
    (users : Table Bytes Text) (assigned : Option AssignedConfig) (auth : List Payload)
    (able : Able P ((EapInitiator.new initSa idI user password childI verify).setSendCertreq sendCertreq)
      ((EapResponder.newMulti respSa idR serverAuth users childR).setAssigned assigned) auth)
    (initEntropy : ε) (respEntropy : δ) :
    ∃ initiator responder,
      exchange P (fun _ => 0) ((EapInitiator.new initSa idI user password childI verify).setSendCertreq sendCertreq)
          ((EapResponder.newMulti respSa idR serverAuth users childR).setAssigned assigned) initEntropy respEntropy =
        .established 5 initiator responder ∧
      responder.user = user ∧ responder.peerChildSpi = some childI := by
  have same : SameResponse P (fun _ => 0) user password initEntropy respEntropy :=
    sameResponse_of_once P rfl user password initEntropy respEntropy
  obtain ⟨initiator, held, nt, n, ended⟩ := exchange_established correct seals able (fun _ => 0) initEntropy respEntropy
    rfl same
  exact ⟨initiator, _, ended, rfl, rfl⟩

theorem eap_complete_assigning :
    ∃ initiator responder,
      exchange Ryke.Toy.toyMac (fun _ => 0) Toy.eapClient Toy.assigningServer (⟨1⟩ : Ryke.Toy.Counter)
        (⟨2⟩ : Ryke.Toy.Counter) = .established 5 initiator responder ∧
      responder.user = [97] ∧ responder.peerChildSpi = some 5 := by
  have done := eap_complete Ryke.Toy.toyMac Ryke.Toy.toyMac_gcmCorrect Ryke.Toy.toyMac_gcmSeals Toy.initSa Toy.respSa
    Toy.alice ⟨2, [115]⟩ [97] ['p'] 5 7 (.trustedCas [[115]] [115] 0) false (.cert (.rsaSha256 []) [[115]]) Toy.eapUsers
    (some Toy.assigned) Toy.serverAuth Toy.able (⟨1⟩ : Ryke.Toy.Counter) (⟨2⟩ : Ryke.Toy.Counter)
  unfold Toy.eapClient Toy.assigningServer
  exact done

/-- However often the messages are handed over, both ends are established exactly when
the Response to the first challenge is also the one to the last challenge drawn. -/
theorem eap_established_iff {ε δ : Type} [Entropy ε] [Entropy δ] (P : Primitives) (correct : P.GcmCorrect)
    (seals : P.GcmSeals) (initSa respSa : CompletedSaInit) (idI idR : Identification) (user : Bytes) (password : Text)
    (childI childR : UInt32) (verify : ServerVerify) (sendCertreq : Bool) (serverAuth : ServerAuth)
    (users : Table Bytes Text) (assigned : Option AssignedConfig) (auth : List Payload)
    (able : Able P ((EapInitiator.new initSa idI user password childI verify).setSendCertreq sendCertreq)
      ((EapResponder.newMulti respSa idR serverAuth users childR).setAssigned assigned) auth)
    (copies : Nat → Nat) (initEntropy : ε) (respEntropy : δ) :
    (exchange P copies ((EapInitiator.new initSa idI user password childI verify).setSendCertreq sendCertreq)
        ((EapResponder.newMulti respSa idR serverAuth users childR).setAssigned assigned) initEntropy
        respEntropy).isEstablished = true ↔
      SameResponse P copies user password initEntropy respEntropy := by
  constructor
  · intro established
    by_contra differs
    rw [exchange_failed correct seals able copies initEntropy respEntropy rfl differs] at established
    cases established
  · intro same
    obtain ⟨initiator, held, nt, n, ended⟩ := exchange_established correct seals able copies initEntropy respEntropy rfl
      same
    rw [ended]
    rfl

theorem eap_established_iff_othersThrice :
    (exchange Ryke.Toy.toyMac Toy.othersThrice Toy.eapClient Toy.assigningServer (⟨1⟩ : Ryke.Toy.Counter)
      (⟨2⟩ : Ryke.Toy.Counter)).isEstablished = true := by
  have exactly := eap_established_iff Ryke.Toy.toyMac Ryke.Toy.toyMac_gcmCorrect Ryke.Toy.toyMac_gcmSeals Toy.initSa
    Toy.respSa Toy.alice ⟨2, [115]⟩ [97] ['p'] 5 7 (.trustedCas [[115]] [115] 0) false
    (.cert (.rsaSha256 []) [[115]]) Toy.eapUsers (some Toy.assigned) Toy.serverAuth Toy.able Toy.othersThrice
    (⟨1⟩ : Ryke.Toy.Counter) (⟨2⟩ : Ryke.Toy.Counter)
  unfold Toy.eapClient Toy.assigningServer
  exact exactly.mpr (sameResponse_of_once Ryke.Toy.toyMac rfl [97] ['p'] _ _)

/-- An Identity response that comes twice has the responder hold a challenge that the
initiator never answers. -/
theorem not_established_identityTwice :
    Able Ryke.Toy.toyMac Toy.eapClient Toy.assigningServer Toy.serverAuth ∧
      ¬ ∀ (copies : Nat → Nat) (initEntropy respEntropy : Ryke.Toy.Counter),
        (exchange Ryke.Toy.toyMac copies Toy.eapClient Toy.assigningServer initEntropy
          respEntropy).isEstablished = true := by
  refine ⟨Toy.able, ?_⟩
  intro tolerates
  have established := tolerates Toy.identityTwice ⟨1⟩ ⟨2⟩
  revert established
  decide +kernel

end Ryke.Ikev2
