import Ryke.Ikev1.Client
import Ryke.Ikev1.Covered
import Ryke.Ikev1.Schedule
import Ryke.Ikev1.KeySeparation
import Ryke.Ikev1.ServerRuns

/-! An IKEv1 handshake whose network is in other hands: whatever bytes come, whoever sent
them, reach either end in any order. Phase 1 leaves no mark at the server that a CHILD SA
depends on. What does are the HASH payloads of Quick Mode: if no end accepts one that the
other did not compute, a CHILD SA at the server has its mirror image at the client. -/

namespace Ryke.Ikev1
open Lib Crypto

/-- A HASH of Quick Mode: which of the three, the key, and the bytes it covers. -/
inductive QuickHash where
  | hash1 (prf : Prf) (skeyidA covered : Bytes)
  | hash2 (prf : Prf) (skeyidA covered : Bytes)
  | hash3 (prf : Prf) (skeyidA covered : Bytes)
  deriving DecidableEq

namespace QuickInitiator

def hash1 (qi : QuickInitiator) (cfg : ConnectConfig) : QuickHash :=
  .hash1 qi.prf qi.skeyidA
    (u32Bytes qi.msgid ++ (encodePayloads (quickChain qi.localSpi qi.ni cfg.tsLocal cfg.tsRemote)).2)

def hash2 (qi : QuickInitiator) (ps : List Payload) : QuickHash :=
  .hash2 qi.prf qi.skeyidA (u32Bytes qi.msgid ++ qi.ni ++ afterHash ps)

def hash3 (qi : QuickInitiator) (nr : Bytes) : QuickHash :=
  .hash3 qi.prf qi.skeyidA ([0] ++ u32Bytes qi.msgid ++ qi.ni ++ nr)

end QuickInitiator

def QuickResponder.hash3 (qr : QuickResponder) : QuickHash :=
  .hash3 qr.prf qr.skeyidA ([0] ++ u32Bytes qr.msgid ++ qr.ni ++ qr.nr)

/-- A Quick-Mode message 1 that the server answered: the Phase 1 it came under, its payloads
and the exchange. -/
structure Answered where
  st : Phase1State
  ps : List Payload
  qr : QuickResponder
  deriving DecidableEq

def Answered.hash1 (answered : Answered) : QuickHash :=
  .hash1 answered.qr.prf answered.qr.skeyidA (u32Bytes answered.qr.msgid ++ afterHash answered.ps)

def Answered.hash2 (answered : Answered) : QuickHash :=
  .hash2 answered.qr.prf answered.qr.skeyidA (u32Bytes answered.qr.msgid ++ answered.qr.ni ++
    (encodePayloads (echoChain answered.qr.localSpi answered.qr.nr answered.ps)).2)

/-! ## What Quick Mode reads -/

theorem readQuick_eq_ok {P : Primitives} {st : Phase1State} {msg1 iv1 ni : Bytes} {msgid peerSpi : UInt32}
    {ps : List Payload} (read : readQuick P st msg1 = .ok (msgid, ps, iv1, ni, peerSpi)) :
    (∀ p ∈ ps, Fits (p.payloadType, p.data)) ∧ (∃ nonceP, find ps payload.nonce = some nonceP ∧ nonceP.data = ni) ∧
      peerEspSpi ps = .ok peerSpi := by
  unfold readQuick at read
  obtain ⟨hdr, -, read⟩ := bind_eq_ok read
  obtain ⟨-, read⟩ := guard_eq_ok read
  dsimp only at read
  obtain ⟨⟨header, chain, next⟩, verified, read⟩ := bind_eq_ok read
  obtain ⟨nonceP, nonceFound, read⟩ := bind_eq_ok read
  obtain ⟨spi, spiRead, read⟩ := bind_eq_ok read
  cases read
  unfold parseEncrypted at verified
  obtain ⟨⟨header', chain', next'⟩, decrypted, verified⟩ := bind_eq_ok verified
  obtain ⟨hashP, -, verified⟩ := bind_eq_ok verified
  obtain ⟨-, verified⟩ := guard_eq_ok verified
  cases verified
  exact ⟨fits_of_decryptPayloads decrypted, ⟨nonceP, okOr_eq_ok nonceFound, rfl⟩, spiRead⟩

theorem respondQuick_eq_ok {δ : Type} [Entropy δ] {P : Primitives} {st : Phase1State} {msg1 msg2 : Bytes} {entropy : δ}
    {qr : QuickResponder} (answered : (respondQuick P st msg1 entropy).1 = .ok (msg2, qr)) :
    ∃ ps iv1, readQuick P st msg1 = .ok (qr.msgid, ps, iv1, qr.ni, qr.peerSpi) ∧ qr.nr.length = 16 ∧
      qr.prf = st.prf ∧ qr.skeyidA = st.skeyidA ∧ qr.skeyidD = st.skeyidD := by
  unfold respondQuick at answered
  split at answered
  next => cases answered
  next msgid ps iv1 ni peerSpi read =>
    dsimp only at answered
    unfold answerQuick at answered
    obtain ⟨⟨sent, iv2⟩, -, answered⟩ := bind_eq_ok answered
    cases answered
    exact ⟨ps, iv1, read, Entropy.fill_length _ 16, rfl, rfl, rfl⟩

theorem initiateQuick_eq_ok {ε : Type} [Entropy ε] {P : Primitives} {st : Phase1State} {entropy : ε}
    {tsLocal tsRemote : Bytes × Bytes} {msg1 : Bytes} {qi : QuickInitiator}
    (initiated : (initiateQuick P st entropy tsLocal tsRemote).1 = .ok (msg1, qi)) :
    qi.ni.length = 16 ∧ qi.prf = st.prf ∧ qi.skeyidA = st.skeyidA ∧ qi.skeyidD = st.skeyidD := by
  unfold initiateQuick at initiated
  dsimp only at initiated
  obtain ⟨⟨sent, iv1⟩, -, initiated⟩ := bind_eq_ok initiated
  cases initiated
  exact ⟨Entropy.fill_length _ 16, rfl, rfl, rfl⟩

/-! ## The server's Phase 1 and its answers -/

namespace Server

variable {δ : Type}

theorem handleOne_offers [Entropy δ] {P : Primitives} {self : Server δ} {received : Option (Bytes × SocketAddr)}
    {sendOk : Bool} (offered : (self.handleOne P received sendOk).event = .ok .phase1SaInit) :
    ∃ data sender hdr msg2 st, received = some (data, sender) ∧ IsakmpHeader.parse data = .ok hdr ∧
      (respondAggressive P self.cfg data self.entropy).1 = .ok (msg2, st) ∧
      (self.handleOne P received sendOk).server.sessions = self.sessions.insert hdr.initCookie ⟨some st, none⟩ := by
  cases received with
  | none => cases offered
  | some pair =>
    obtain ⟨data, sender⟩ := pair
    cases parsed : IsakmpHeader.parse data with
    | error error =>
      simp only [handleOne, parsed] at offered
      cases offered
    | ok hdr =>
      by_cases aggressive : hdr.exchangeType = exchange.aggressive
      · simp only [handleOne, parsed, if_pos aggressive, handleAggressive] at offered ⊢
        cases chain : parsePayloads hdr.nextPayload (data.drop IsakmpHeader.len) with
        | error error =>
          rw [chain] at offered
          cases offered
        | ok ps =>
          rw [chain] at offered
          dsimp only at offered ⊢
          by_cases sa : has ps payload.sa = true
          · rw [if_pos sa] at offered ⊢
            unfold handleOffer at offered ⊢
            cases answered : (respondAggressive P self.cfg data self.entropy).1 with
            | error error =>
              simp only [answered] at offered
              cases offered
            | ok sent =>
              obtain ⟨msg2, st⟩ := sent
              cases sendOk with
              | false =>
                simp only [answered] at offered
                cases offered
              | true =>
                refine ⟨data, sender, hdr, msg2, st, rfl, parsed, answered, ?_⟩
                simp only [answered]
                rfl
          · rw [if_neg sa] at offered
            unfold handleHashI at offered
            split at offered
            next =>
              split at offered
              next => cases offered
              next => split at offered <;> cases offered
            next => cases offered
      · simp only [handleOne, parsed, if_neg aggressive] at offered
        split at offered
        next =>
          unfold handleQuick handleQuick1 handleQuick3 at offered
          dsimp only at offered
          split at offered
          next => cases offered
          next =>
            split at offered
            next => cases offered
            next =>
              split at offered
              next => cases offered
              next => split at offered <;> cases offered
            next => split at offered <;> cases offered
        next => cases offered

theorem phase1_insert {sessions : Table Cookie Session} {own ckyI : Cookie} {session : Session} {st : Phase1State}
    (stored : ((sessions.insert own session).get ckyI).bind Session.phase1 = some st) :
    own = ckyI ∧ session.phase1 = some st ∨ (sessions.get ckyI).bind Session.phase1 = some st := by
  rw [Table.get_insert] at stored
  split at stored
  next same => exact .inl ⟨same.symm, stored⟩
  next => exact .inr stored

theorem handleOne_phase1 [Entropy δ] {P : Primitives} {self : Server δ} {received : Option (Bytes × SocketAddr)}
    {sendOk : Bool} {ckyI : Cookie} {st : Phase1State}
    (stored : (self.handleOne P received sendOk).server.phase1 ckyI = some st) :
    self.phase1 ckyI = some st ∨ ∃ data sender hdr msg2, received = some (data, sender) ∧
      IsakmpHeader.parse data = .ok hdr ∧ hdr.initCookie = ckyI ∧
      (respondAggressive P self.cfg data self.entropy).1 = .ok (msg2, st) := by
  have kept : (self.handleOne P received sendOk).server.sessions = self.sessions → self.phase1 ckyI = some st := by
    intro sessions
    rw [phase1, ← sessions]
    exact stored
  have rewritten : ∀ own st' quick, self.phase1 own = some st' →
      (self.handleOne P received sendOk).server.sessions = self.sessions.insert own ⟨some st', quick⟩ →
      self.phase1 ckyI = some st := by
    intro own st' quick known sessions
    rw [phase1, sessions] at stored
    rcases phase1_insert stored with ⟨rfl, same⟩ | before
    · rw [known]
      exact same
    · exact before
  have known : ∀ own st' quick, self.sessions.get own = some ⟨some st', quick⟩ → self.phase1 own = some st' := by
    intro own st' quick session
    rw [phase1, session]
    rfl
  cases self.handleOne_step P received sendOk with
  | quiet sessions _ _ => exact .inl (kept sessions)
  | verified _ _ _ sessions _ _ => exact .inl (kept sessions)
  | started own st' _ _ _ _ _ _ stored' _ sessions _ _ => exact .inl (rewritten own st' _ stored' sessions)
  | dropped own st' _ _ _ stored' _ sessions _ _ => exact .inl (rewritten own st' _ (known _ _ _ stored') sessions)
  | completed own st' _ _ _ _ stored' _ sessions _ _ =>
    exact .inl (rewritten own st' _ (known _ _ _ stored') sessions)
  | offered own st' sessions _ event =>
    obtain ⟨data, sender, hdr, msg2, drawn, got, parsed, answered, written⟩ := handleOne_offers event
    rw [phase1, written] at stored
    rcases phase1_insert stored with ⟨rfl, same⟩ | before
    · cases same
      exact .inr ⟨data, sender, hdr, msg2, got, parsed, rfl, answered⟩
    · exact .inl before

def answer [Entropy δ] (P : Primitives) (self : Server δ) (received : Option (Bytes × SocketAddr)) : Option Answered := do
  let (data, sender) ← received
  let (_, st) ← self.startsQuick P (some (data, sender))
  let (_, ps, _) ← (readQuick P st data).toOption
  let (_, qr) ← (respondQuick P st data self.entropy).1.toOption
  some ⟨st, ps, qr⟩

theorem answer_eq_some [Entropy δ] {P : Primitives} {self : Server δ} {ckyI : Cookie} {st : Phase1State} {data : Bytes}
    {sender : SocketAddr} {msg2 : Bytes} {qr : QuickResponder}
    (starts : self.startsQuick P (some (data, sender)) = some (ckyI, st))
    (responds : (respondQuick P st data self.entropy).1 = .ok (msg2, qr)) :
    ∃ ps, self.answer P (some (data, sender)) = some ⟨st, ps, qr⟩ := by
  obtain ⟨ps, iv1, read, -⟩ := respondQuick_eq_ok responds
  refine ⟨ps, ?_⟩
  simp only [answer, Option.bind_eq_bind, Option.bind_some, starts, read, Except.toOption, responds]

end Server

namespace World

variable {ε δ : Type}

/-! ## What a call computes and accepts -/

def answers [Entropy δ] (P : Primitives) (call : Call (World ε δ) NetAction (List Bytes)) : List Answered :=
  (call.before.server.answer P call.input.received).toList

def serverGives [Entropy δ] (P : Primitives) (call : Call (World ε δ) NetAction (List Bytes)) : List QuickHash :=
  (answers P call).map Answered.hash2

def clientGives (P : Primitives) (cfg : ConnectConfig) (call : Call (World ε δ) NetAction (List Bytes)) :
    List QuickHash :=
  match call.before.client, call.after.client, call.input with
  | .awaitMsg2 _ _, .awaitQm2 _ qi, _ => [qi.hash1 cfg]
  | .awaitQm2 _ qi, .connected _ _, .toClient (some data) _ =>
      ((qi.keyInputs P data).toOption.map fun inputs => qi.hash3 inputs.nr).toList
  | _, _, _ => []

def finishes (P : Primitives) (call : Call (World ε δ) NetAction (List Bytes)) : Option QuickResponder := do
  let (_, qr, data) ← call.before.server.continuesQuick call.input.received
  if qr.carriesHash3 P data then some qr else none

def serverTakes [Entropy δ] (P : Primitives) (call : Call (World ε δ) NetAction (List Bytes)) : List QuickHash :=
  (answers P call).map Answered.hash1 ++ (finishes P call).toList.map QuickResponder.hash3

def clientTakes (P : Primitives) (call : Call (World ε δ) NetAction (List Bytes)) : List QuickHash :=
  match call.before.client, call.after.client, call.input with
  | .awaitQm2 _ qi, .connected _ _, .toClient (some data) _ =>
      ((decryptPayloads P data qi.encKey qi.iv1).toOption.map fun opened => qi.hash2 opened.2.1).toList
  | _, _, _ => []

def queries [Entropy δ] (P : Primitives) (call : Call (World ε δ) NetAction (List Bytes)) : List PrfQuery :=
  match call.input with
  | .toClient (some data) _ =>
      match call.before.client with
      | .awaitMsg2 ai _ =>
          match ai.complete P data with
          | .ok (_, st) => scheduleOf P ai.group ai.dhPrivate st.gxr st
          | .error _ => []
      | _ => []
  | .toServer (some (data, _)) _ =>
      match (respondAggressive P call.before.server.cfg data call.before.server.entropy).1 with
      | .ok (_, st) => scheduleOf P st.group (exponentOf call.before.server.entropy) st.gxi st
      | .error _ => []
  | _ => []

/-- Answers under one nonce have one SPI. -/
def Fresh (answered : List Answered) : Prop :=
  ∀ one ∈ answered, ∀ other ∈ answered, one.qr.nr = other.qr.nr → one.qr.localSpi = other.qr.localSpi

instance (answered : List Answered) : Decidable (Fresh answered) :=
  inferInstanceAs (Decidable (∀ one ∈ answered, ∀ other ∈ answered, _ = _ → _ = _))

/-- The PRF does its work: its inputs do not collide, and either end accepts only what the
other one computed before. -/
structure Unforged [Entropy δ] (P : Primitives) (cfg : ConnectConfig)
    (calls : List (Call (World ε δ) NetAction (List Bytes))) : Prop where
  noCollision : Prf.NoCollision P (calls.flatMap (queries P))
  server : Machine.Sourced (serverTakes P) (clientGives P cfg) calls
  client : Machine.Sourced (clientTakes P) (serverGives P) calls

theorem Unforged.front [Entropy δ] {P : Primitives} {cfg : ConnectConfig}
    {past : List (Call (World ε δ) NetAction (List Bytes))} {call : Call (World ε δ) NetAction (List Bytes)}
    (unforged : Unforged P cfg (past ++ [call])) : Unforged P cfg past := by
  obtain ⟨noCollision, server, client⟩ := unforged
  refine ⟨noCollision.mono fun query member => ?_, server.front, client.front⟩
  rw [List.flatMap_append]
  exact List.mem_append_left _ member

/-- Every child at the server is the mirror image of the one that `connect` returned, and
stands under its cookie. -/
def Agreed (world : World ε δ) : Prop :=
  ∀ ckyI held, world.server.child ckyI = some held →
    ∃ phase1 child, world.client = .connected phase1 child ∧ phase1.ckyI = ckyI ∧ Mirror child held

/-! ## Both ends of an exchange -/

structure Sound (P : Primitives) (queries : List PrfQuery) (answered : Answered) : Prop where
  scheduled : Scheduled P queries answered.st
  prf : answered.qr.prf = answered.st.prf
  skeyidA : answered.qr.skeyidA = answered.st.skeyidA
  skeyidD : answered.qr.skeyidD = answered.st.skeyidD
  nonce : answered.qr.nr.length = 16
  fits : ∀ p ∈ answered.ps, Fits (p.payloadType, p.data)
  carries : ∃ nonceP, find answered.ps payload.nonce = some nonceP ∧ nonceP.data = answered.qr.ni
  spi : peerEspSpi answered.ps = .ok answered.qr.peerSpi

structure Opened (P : Primitives) (queries : List PrfQuery) (phase1 : Phase1State) (qi : QuickInitiator) : Prop where
  scheduled : Scheduled P queries phase1
  prf : qi.prf = phase1.prf
  skeyidA : qi.skeyidA = phase1.skeyidA
  skeyidD : qi.skeyidD = phase1.skeyidD
  nonce : qi.ni.length = 16

theorem Sound.mono {P : Primitives} {fewer more : List PrfQuery} {answered : Answered}
    (sound : Sound P fewer answered) (within : ∀ query ∈ fewer, query ∈ more) : Sound P more answered :=
  { sound with scheduled := sound.scheduled.mono within }

theorem Opened.mono {P : Primitives} {fewer more : List PrfQuery} {phase1 : Phase1State} {qi : QuickInitiator}
    (opened : Opened P fewer phase1 qi) (within : ∀ query ∈ fewer, query ∈ more) : Opened P more phase1 qi :=
  { opened with scheduled := opened.scheduled.mono within }

/-- What the two ends of one exchange have in common. -/
structure Meets (phase1 : Phase1State) (qi : QuickInitiator) (answered : Answered) : Prop where
  prf : answered.qr.prf = qi.prf
  msgid : answered.qr.msgid = qi.msgid
  ni : answered.qr.ni = qi.ni
  peerSpi : answered.qr.peerSpi = qi.localSpi
  skeyidD : answered.qr.skeyidD = qi.skeyidD
  ckyI : answered.st.ckyI = phase1.ckyI

theorem Opened.meets {P : Primitives} {cfg : ConnectConfig} {queries : List PrfQuery}
    (noCollision : Prf.NoCollision P queries) {phase1 : Phase1State} {qi : QuickInitiator}
    (opened : Opened P queries phase1 qi) {answered : Answered} (sound : Sound P queries answered)
    (same : answered.hash1 = qi.hash1 cfg) : Meets phase1 qi answered := by
  obtain ⟨prf, skeyidA, bytes⟩ := QuickHash.hash1.inj same
  obtain ⟨msgids, covers⟩ := List.append_inj bytes (by rw [u32Bytes_length, u32Bytes_length])
  obtain ⟨nonceP, found, isNi⟩ := sound.carries
  have answering := answering_quickChain qi.localSpi opened.nonce cfg.tsLocal cfg.tsRemote
  obtain ⟨nonces, spis⟩ := answering.carried sound.fits covers found sound.spi
  have schedules := opened.scheduled.same noCollision sound.scheduled
    (by rw [← sound.prf, prf, opened.prf]) (by rw [← sound.skeyidA, skeyidA, opened.skeyidA])
  refine ⟨prf, u32Bytes_injective msgids, isNi.symm.trans nonces, spis, ?_, schedules.2.1⟩
  rw [sound.skeyidD, schedules.1, opened.skeyidD]

theorem Meets.of_hash2 {P : Primitives} {queries : List PrfQuery} {phase1 : Phase1State} {qi : QuickInitiator}
    {answered : Answered} (meets : Meets phase1 qi answered) (sound : Sound P queries answered) {ps : List Payload}
    (fits : ∀ p ∈ ps, Fits (p.payloadType, p.data)) (same : qi.hash2 ps = answered.hash2) {nonceP : Payload}
    (found : find ps payload.nonce = some nonceP) {peerSpi : UInt32} (read : peerEspSpi ps = .ok peerSpi) :
    nonceP.data = answered.qr.nr ∧ peerSpi = answered.qr.localSpi := by
  obtain ⟨-, -, bytes⟩ := QuickHash.hash2.inj same
  rw [meets.msgid, meets.ni] at bytes
  have covers := List.append_cancel_left bytes
  exact (answering_echoChain _ sound.nonce sound.fits).carried fits covers found read

theorem Meets.of_hash3 {phase1 : Phase1State} {qi : QuickInitiator} {answered : Answered}
    (meets : Meets phase1 qi answered) {nr : Bytes} (same : answered.qr.hash3 = qi.hash3 nr) : answered.qr.nr = nr := by
  obtain ⟨-, -, bytes⟩ := QuickHash.hash3.inj same
  rw [meets.msgid, meets.ni] at bytes
  exact List.append_cancel_left bytes

/-! ## The invariant -/

def ClientInv (P : Primitives) (cfg : ConnectConfig) (queries : List PrfQuery) (said : List QuickHash)
    (answered : List Answered) (client : Connect ε) : Prop :=
  match client with
  | .idle _ => said = []
  | .awaitMsg2 ai _ => said = [] ∧ ai.ckyI.length = 8
  | .awaitQm2 phase1 qi => said = [qi.hash1 cfg] ∧ Opened P queries phase1 qi
  | .connected phase1 child => ∃ qi own, said = [qi.hash1 cfg, qi.hash3 own.qr.nr] ∧ Opened P queries phase1 qi ∧
      own ∈ answered ∧ deriveChild P qi.prf qi.skeyidD qi.ni own.qr.nr qi.localSpi own.qr.localSpi = .ok child
  | .failed _ => ∀ qr : QuickResponder, qr.hash3 ∉ said

/-- What is true of every reachable state. -/
structure Inv (P : Primitives) (cfg : ConnectConfig) (queries : List PrfQuery) (said : List QuickHash)
    (answered : List Answered) (world : World ε δ) : Prop where
  phase1 : ∀ ckyI st, world.server.phase1 ckyI = some st → st.ckyI = ckyI ∧ Scheduled P queries st
  sound : ∀ own ∈ answered, Sound P queries own ∧ own.hash1 ∈ said
  quick : ∀ ckyI session qr, world.server.sessions.get ckyI = some session → session.quick = some qr →
    ∃ own ∈ answered, own.qr = qr ∧ own.st.ckyI = ckyI
  client : ClientInv P cfg queries said answered world.client
  agreed : Agreed world

theorem ClientInv.mono {P : Primitives} {cfg : ConnectConfig} {fewer more : List PrfQuery} {said : List QuickHash}
    {answered later : List Answered} {client : Connect ε} (inv : ClientInv P cfg fewer said answered client)
    (within : ∀ query ∈ fewer, query ∈ more) (kept : ∀ own ∈ answered, own ∈ later) :
    ClientInv P cfg more said later client := by
  unfold ClientInv at inv ⊢
  split at inv
  next => exact inv
  next => exact inv
  next => exact ⟨inv.1, inv.2.mono within⟩
  next =>
    obtain ⟨qi, own, saying, opened, member, derived⟩ := inv
    exact ⟨qi, own, saying, opened.mono within, kept own member, derived⟩
  next => exact inv

theorem Inv.mono {P : Primitives} {cfg : ConnectConfig} {fewer more : List PrfQuery} {said : List QuickHash}
    {answered : List Answered} {world : World ε δ} (inv : Inv P cfg fewer said answered world)
    (within : ∀ query ∈ fewer, query ∈ more) : Inv P cfg more said answered world := by
  refine ⟨?_, ?_, inv.quick, inv.client.mono within fun _ member => member, inv.agreed⟩
  · intro ckyI st stored
    exact ⟨(inv.phase1 ckyI st stored).1, (inv.phase1 ckyI st stored).2.mono within⟩
  · intro own member
    exact ⟨(inv.sound own member).1.mono within, (inv.sound own member).2⟩

theorem ClientInv.connected {P : Primitives} {cfg : ConnectConfig} {queries : List PrfQuery} {said : List QuickHash}
    {answered : List Answered} {client : Connect ε} (inv : ClientInv P cfg queries said answered client)
    {qr : QuickResponder} (heard : qr.hash3 ∈ said) : ∃ phase1 child, client = .connected phase1 child := by
  unfold ClientInv at inv
  split at inv
  next =>
    rw [inv] at heard
    cases heard
  next =>
    rw [inv.1] at heard
    cases heard
  next =>
    rw [inv.1, List.mem_singleton] at heard
    cases heard
  next phase1 child => exact ⟨phase1, child, rfl⟩
  next => exact absurd heard (inv qr)

theorem Inv.completes {P : Primitives} {cfg : ConnectConfig} {queries : List PrfQuery}
    (noCollision : Prf.NoCollision P queries) {said : List QuickHash} {answered : List Answered}
    (fresh : Fresh answered) {self : World ε δ} (inv : Inv P cfg queries said answered self) {ckyI : Cookie}
    {session : Session} {qr : QuickResponder} (stored : self.server.sessions.get ckyI = some session)
    (inProgress : session.quick = some qr) (heard : qr.hash3 ∈ said) {data : Bytes} {held : ChildSa}
    (completed : qr.complete P data = .ok held) :
    ∃ phase1 child, self.client = .connected phase1 child ∧ phase1.ckyI = ckyI ∧ Mirror child held := by
  obtain ⟨own, member, rfl, cookie⟩ := inv.quick ckyI session qr stored inProgress
  obtain ⟨phase1, child, stands⟩ := inv.client.connected heard
  have client := inv.client
  rw [stands] at client
  obtain ⟨qi, peer, said_, opened, isPeer, derived⟩ := client
  have first : ∀ other ∈ answered, Meets phase1 qi other := by
    intro other isOther
    obtain ⟨sound, hash1⟩ := inv.sound other isOther
    rw [said_, List.mem_cons, List.mem_singleton] at hash1
    rcases hash1 with same | other
    · exact opened.meets noCollision sound same
    · cases other
  have meets := first own member
  have nonce : own.qr.nr = peer.qr.nr := by
    rw [said_, List.mem_cons, List.mem_singleton] at heard
    rcases heard with other | same
    · cases other
    · exact meets.of_hash3 same
  have spi := fresh own member peer isPeer nonce
  have theirs := QuickResponder.complete_eq_ok completed
  rw [meets.prf, meets.skeyidD, meets.ni, meets.peerSpi, nonce, spi] at theirs
  obtain ⟨childI, childR, derivedI, derivedR, mirror⟩ :=
    mirror_deriveChild P qi.prf qi.skeyidD qi.ni peer.qr.nr qi.localSpi peer.qr.localSpi
  cases derivedI.symm.trans derived
  cases derivedR.symm.trans theirs
  exact ⟨phase1, child, stands, meets.ckyI.symm.trans cookie, mirror⟩

/-! ## Steps of the server -/

theorem startsQuick_eq_some {P : Primitives} {self : Server δ} {received : Option (Bytes × SocketAddr)} {ckyI : Cookie}
    {st : Phase1State} (starts : self.startsQuick P received = some (ckyI, st)) : self.phase1 ckyI = some st := by
  unfold Server.startsQuick at starts
  obtain ⟨⟨hdr, data⟩, -, starts⟩ := Option.bind_eq_some_iff.mp starts
  obtain ⟨session, stored, starts⟩ := Option.bind_eq_some_iff.mp starts
  obtain ⟨known, isKnown, starts⟩ := Option.bind_eq_some_iff.mp starts
  split at starts
  next =>
    cases starts
    rw [Server.phase1, stored]
    exact isKnown
  next => cases starts

theorem Inv.sound_answer [Entropy δ] {P : Primitives} {cfg : ConnectConfig} {queries : List PrfQuery}
    {said : List QuickHash} {answered : List Answered} {call : Call (World ε δ) NetAction (List Bytes)}
    (inv : Inv P cfg queries said answered call.before) {own : Answered} (member : own ∈ answers P call) :
    Sound P queries own ∧ own.hash1 ∈ serverTakes P call := by
  refine ⟨?_, List.mem_append_left _ (List.mem_map_of_mem member)⟩
  have isAnswer : call.before.server.answer P call.input.received = some own := Option.mem_toList.mp member
  obtain ⟨⟨data, sender⟩, -, isAnswer⟩ := Option.bind_eq_some_iff.mp isAnswer
  obtain ⟨⟨ckyI, st⟩, starts, isAnswer⟩ := Option.bind_eq_some_iff.mp isAnswer
  obtain ⟨⟨msgid, ps, iv1, ni, peerSpi⟩, read, isAnswer⟩ := Option.bind_eq_some_iff.mp isAnswer
  obtain ⟨⟨msg2, qr⟩, responds, isAnswer⟩ := Option.bind_eq_some_iff.mp isAnswer
  cases isAnswer
  have responds := toOption_eq_some responds
  obtain ⟨ps', iv1', read', nonce, prf, skeyidA, skeyidD⟩ := respondQuick_eq_ok responds
  cases (toOption_eq_some read).symm.trans read'
  obtain ⟨fits, carries, spi⟩ := readQuick_eq_ok read'
  exact ⟨(inv.phase1 ckyI st (startsQuick_eq_some starts)).2, prf, skeyidA, skeyidD, nonce, fits, carries, spi⟩

theorem Inv.phase1_step [Entropy ε] [Entropy δ] {P : Primitives} {cfg : ConnectConfig} {queries : List PrfQuery}
    {said : List QuickHash} {answered : List Answered} {self : World ε δ} (inv : Inv P cfg queries said answered self)
    {received : Option (Bytes × SocketAddr)} {sendOk : Bool}
    (schedule : ∀ query ∈ World.queries P ((machine P cfg).call self (.toServer received sendOk)), query ∈ queries)
    {ckyI : Cookie} {st : Phase1State}
    (stored : (self.server.handleOne P received sendOk).server.phase1 ckyI = some st) :
    st.ckyI = ckyI ∧ Scheduled P queries st := by
  rcases Server.handleOne_phase1 stored with before | ⟨data, sender, hdr, msg2, rfl, parsed, rfl, responds⟩
  · exact inv.phase1 ckyI st before
  · have scheduled := scheduled_of_responds responds
    obtain ⟨offer, gxy, ckyR, dhR, nr, read, -, -, -, -, rfl⟩ := respondAggressive_eq_ok responds
    obtain ⟨header, ps, parsed', -, -, -, own, -⟩ := readOffer_eq_ok read
    cases parsed.symm.trans parsed'
    refine ⟨own, scheduled.mono fun query member => schedule query ?_⟩
    simp only [World.queries, Machine.call, responds]
    exact member

theorem Inv.quick_step [Entropy ε] [Entropy δ] {P : Primitives} {cfg : ConnectConfig} {queries : List PrfQuery}
    {said : List QuickHash} {answered : List Answered} {self : World ε δ} (inv : Inv P cfg queries said answered self)
    {received : Option (Bytes × SocketAddr)} {sendOk : Bool} {ckyI : Cookie} {session : Session} {qr : QuickResponder}
    (stored : (self.server.handleOne P received sendOk).server.sessions.get ckyI = some session)
    (inProgress : session.quick = some qr) :
    ∃ own ∈ answered ++ answers P ((machine P cfg).call self (.toServer received sendOk)), own.qr = qr ∧
      own.st.ckyI = ckyI := by
  have before : self.server.sessions.get ckyI = some session →
      ∃ own ∈ answered ++ answers P ((machine P cfg).call self (.toServer received sendOk)), own.qr = qr ∧
        own.st.ckyI = ckyI := by
    intro known
    obtain ⟨own, member, same⟩ := inv.quick ckyI session qr known inProgress
    exact ⟨own, List.mem_append_left _ member, same⟩
  cases self.server.handleOne_step P received sendOk with
  | quiet sessions _ _ => exact before (sessions ▸ stored)
  | verified _ _ _ sessions _ _ => exact before (sessions ▸ stored)
  | offered _ _ sessions _ _ =>
    rw [sessions] at stored
    exact before (Server.get_of_insert_idle stored inProgress)
  | dropped _ _ _ _ _ _ _ sessions _ _ =>
    rw [sessions] at stored
    exact before (Server.get_of_insert_idle stored inProgress)
  | completed _ _ _ _ _ _ _ _ sessions _ _ =>
    rw [sessions] at stored
    exact before (Server.get_of_insert_idle stored inProgress)
  | started own st data sender msg2 _ got starts known responds sessions _ _ =>
    rw [sessions, Table.get_insert] at stored
    split at stored
    next same =>
      cases stored
      cases inProgress
      subst same got
      obtain ⟨ps, isAnswer⟩ := Server.answer_eq_some starts responds
      exact ⟨_, List.mem_append_right _ (Option.mem_toList.mpr isAnswer), rfl, (inv.phase1 _ st known).1⟩
    next => exact before stored

theorem Inv.agreed_step [Entropy ε] [Entropy δ] {P : Primitives} {cfg : ConnectConfig} {queries : List PrfQuery}
    (noCollision : Prf.NoCollision P queries) {said : List QuickHash} {answered : List Answered}
    (fresh : Fresh answered) {self : World ε δ} (inv : Inv P cfg queries said answered self)
    {received : Option (Bytes × SocketAddr)} {sendOk : Bool}
    (takes : ∀ hash ∈ serverTakes P ((machine P cfg).call self (.toServer received sendOk)), hash ∈ said) :
    Agreed { self with server := (self.server.handleOne P received sendOk).server } := by
  intro ckyI held isHeld
  have before : (self.server.handleOne P received sendOk).server.children = self.server.children →
      ∃ phase1 child, self.client = .connected phase1 child ∧ phase1.ckyI = ckyI ∧ Mirror child held := by
    intro children
    apply inv.agreed ckyI held
    rw [Server.child, ← children]
    exact isHeld
  cases self.server.handleOne_step P received sendOk with
  | quiet _ children _ => exact before children
  | offered _ _ _ children _ => exact before children
  | verified _ _ _ _ children _ => exact before children
  | started _ _ _ _ _ _ _ _ _ _ _ children _ => exact before children
  | dropped _ _ _ _ _ _ _ _ children _ => exact before children
  | completed own st qr data child continues stored completes _ children _ =>
    change (self.server.handleOne P received sendOk).server.children.get ckyI = some held at isHeld
    rw [children, Table.get_insert] at isHeld
    split at isHeld
    next same =>
      cases isHeld
      subst same
      have carries : qr.carriesHash3 P data = true := by
        rw [← qr.complete_isOk, completes]
        rfl
      have finished : finishes P ((machine P cfg).call self (.toServer received sendOk)) = some qr := by
        change (self.server.continuesQuick received >>= _) = some qr
        rw [continues]
        exact if_pos carries
      have heard : qr.hash3 ∈ said := by
        apply takes
        rw [serverTakes, finished]
        exact List.mem_append_right _ List.mem_cons_self
      exact inv.completes noCollision fresh stored rfl heard completes
    next => exact inv.agreed ckyI held isHeld

theorem Inv.toServer [Entropy ε] [Entropy δ] {P : Primitives} {cfg : ConnectConfig} {queries : List PrfQuery}
    (noCollision : Prf.NoCollision P queries) {said : List QuickHash} {answered : List Answered} {self : World ε δ}
    (inv : Inv P cfg queries said answered self) {received : Option (Bytes × SocketAddr)} {sendOk : Bool}
    (schedule : ∀ query ∈ World.queries P ((machine P cfg).call self (.toServer received sendOk)), query ∈ queries)
    (fresh : Fresh answered)
    (takes : ∀ hash ∈ serverTakes P ((machine P cfg).call self (.toServer received sendOk)), hash ∈ said) :
    Inv P cfg queries said (answered ++ answers P ((machine P cfg).call self (.toServer received sendOk)))
      { self with server := (self.server.handleOne P received sendOk).server } := by
  refine ⟨fun ckyI st stored => inv.phase1_step schedule stored, ?_,
    fun ckyI session qr stored inProgress => inv.quick_step stored inProgress,
    inv.client.mono (fun _ member => member) fun _ member => List.mem_append_left _ member,
    inv.agreed_step noCollision fresh takes⟩
  intro own member
  rcases List.mem_append.mp member with known | now
  · exact inv.sound own known
  · obtain ⟨sound, taken⟩ := Inv.sound_answer inv now
    exact ⟨sound, takes _ taken⟩

theorem Inv.takeChild {P : Primitives} {cfg : ConnectConfig} {queries : List PrfQuery} {said : List QuickHash}
    {answered : List Answered} {self : World ε δ} (inv : Inv P cfg queries said answered self) (own : Cookie) :
    Inv P cfg queries said answered { self with server := (self.server.takeChild own).2 } := by
  refine ⟨inv.phase1, inv.sound, inv.quick, inv.client, fun ckyI held isHeld => ?_⟩
  change (self.server.children.remove own).get ckyI = some held at isHeld
  rw [Table.get_remove] at isHeld
  split at isHeld
  next => cases isHeld
  next => exact inv.agreed ckyI held isHeld

/-! ## Steps of the client -/

theorem clientGives_of_same {P : Primitives} {cfg : ConnectConfig} {call : Call (World ε δ) NetAction (List Bytes)}
    (same : call.after.client = call.before.client) : clientGives P cfg call = [] := by
  unfold clientGives
  rw [same]
  cases call.before.client <;> rfl

theorem Inv.unheld {P : Primitives} {cfg : ConnectConfig} {queries : List PrfQuery} {said : List QuickHash}
    {answered : List Answered} {self : World ε δ} (inv : Inv P cfg queries said answered self)
    (waits : ∀ phase1 child, self.client ≠ .connected phase1 child) (client : Connect ε) :
    Agreed { self with client := client } := by
  intro ckyI held isHeld
  obtain ⟨phase1, child, stands, -⟩ := inv.agreed ckyI held isHeld
  exact absurd stands (waits phase1 child)

theorem Inv.moves {P : Primitives} {cfg : ConnectConfig} {queries : List PrfQuery} {said more : List QuickHash}
    {answered : List Answered} {self : World ε δ} (inv : Inv P cfg queries said answered self)
    (waits : ∀ phase1 child, self.client ≠ .connected phase1 child) {client : Connect ε}
    (moved : ClientInv P cfg queries (said ++ more) answered client) :
    Inv P cfg queries (said ++ more) answered { self with client := client } := by
  refine ⟨inv.phase1, fun own member => ?_, inv.quick, moved, inv.unheld waits client⟩
  obtain ⟨sound, heard⟩ := inv.sound own member
  exact ⟨sound, List.mem_append_left _ heard⟩

theorem Inv.connect [Entropy ε] {P : Primitives} {cfg : ConnectConfig} {queries : List PrfQuery}
    {said : List QuickHash} {answered : List Answered} {self : World ε δ} (inv : Inv P cfg queries said answered self)
    {entropy : ε} (stands : self.client = .idle entropy) (sendOk : Bool) :
    Inv P cfg queries (said ++ []) answered { self with client := (Connect.start P cfg entropy sendOk).2 } := by
  have client := inv.client
  rw [stands] at client
  have silent : said = [] := client
  apply inv.moves
  · intro phase1 child same
    rw [stands] at same
    cases same
  · rw [silent]
    cases sendOk with
    | false => exact fun qr heard => absurd heard List.not_mem_nil
    | true => exact ⟨rfl, Entropy.fill_length entropy 8⟩

theorem opened_of_completes [Entropy ε] {P : Primitives} {cfg : ConnectConfig} {queries : List PrfQuery}
    {ai : AggressiveInitiator} (sizeI : ai.ckyI.length = 8) {msg2 msg3 qm1 : Bytes} {entropy : ε} {phase1 : Phase1State}
    {qi : QuickInitiator} (completed : ai.complete P msg2 = .ok (msg3, phase1))
    (initiated : Connect.openQuick P cfg phase1 entropy = .ok (qm1, qi))
    (schedule : ∀ query ∈ scheduleOf P ai.group ai.dhPrivate phase1.gxr phase1, query ∈ queries) :
    Opened P queries phase1 qi := by
  obtain ⟨nonce, prf, skeyidA, skeyidD⟩ := initiateQuick_eq_ok initiated
  exact ⟨(scheduled_of_completes completed sizeI).mono schedule, prf, skeyidA, skeyidD, nonce⟩

theorem Inv.returns [Entropy δ] {P : Primitives} {cfg : ConnectConfig} {queries : List PrfQuery}
    (noCollision : Prf.NoCollision P queries) {said : List QuickHash} {answered : List Answered} {self : World ε δ}
    (inv : Inv P cfg queries said answered self) {phase1 : Phase1State} {qi : QuickInitiator}
    (stands : self.client = .awaitQm2 phase1 qi) {data qm3 : Bytes} {child : ChildSa}
    (completed : qi.complete P data = .ok (qm3, child))
    (takes : ∀ ps, (decryptPayloads P data qi.encKey qi.iv1).toOption.map (fun opened => opened.2.1) = some ps →
      qi.hash2 ps ∈ answered.map Answered.hash2) :
    ∃ own ∈ answered, (qi.keyInputs P data).toOption.map KeyInputs.nr = some own.qr.nr ∧
      deriveChild P qi.prf qi.skeyidD qi.ni own.qr.nr qi.localSpi own.qr.localSpi = .ok child := by
  have client := inv.client
  rw [stands] at client
  obtain ⟨said_, opened⟩ := client
  obtain ⟨header, ps, iv2, nonceP, peerSpi, decrypted, nonceFound, read, -, derived⟩ :=
    QuickInitiator.complete_eq_ok completed
  have heard := takes ps (by rw [decrypted]; rfl)
  obtain ⟨own, member, same⟩ := List.mem_map.mp heard
  obtain ⟨sound, hash1⟩ := inv.sound own member
  rw [said_, List.mem_singleton] at hash1
  have meets := opened.meets noCollision sound hash1
  obtain ⟨nonce, spi⟩ := meets.of_hash2 sound (fits_of_decryptPayloads decrypted) same.symm nonceFound read
  rw [nonce, spi] at derived
  refine ⟨own, member, ?_, derived⟩
  rw [QuickInitiator.keyInputs, decrypted, ok_bind]
  dsimp only
  rw [nonceFound, okOr_some, ok_bind, read, ok_bind, nonce]
  rfl

theorem Inv.stays [Entropy ε] [Entropy δ] {P : Primitives} {cfg : ConnectConfig} {queries : List PrfQuery}
    {said : List QuickHash} {answered : List Answered} {self : World ε δ} (inv : Inv P cfg queries said answered self)
    {received : Option Bytes} {sendOk : Bool × Bool}
    (unread : (self.client.receive P cfg received sendOk).2 = self.client) :
    Inv P cfg queries (said ++ clientGives P cfg ((machine P cfg).call self (.toClient received sendOk))) answered
      { self with client := (self.client.receive P cfg received sendOk).2 } := by
  have quiet : clientGives P cfg ((machine P cfg).call self (.toClient received sendOk)) = [] :=
    clientGives_of_same unread
  rw [quiet, List.append_nil, unread]
  exact inv

theorem Inv.toClient [Entropy ε] [Entropy δ] {P : Primitives} {cfg : ConnectConfig} {queries : List PrfQuery}
    (noCollision : Prf.NoCollision P queries) {said : List QuickHash} {answered : List Answered} {self : World ε δ}
    (inv : Inv P cfg queries said answered self) {received : Option Bytes} {sendOk : Bool × Bool}
    (schedule : ∀ query ∈ World.queries P ((machine P cfg).call self (.toClient received sendOk)), query ∈ queries)
    (takes : ∀ hash ∈ clientTakes P ((machine P cfg).call self (.toClient received sendOk)),
      hash ∈ answered.map Answered.hash2) :
    Inv P cfg queries (said ++ clientGives P cfg ((machine P cfg).call self (.toClient received sendOk))) answered
      { self with client := (self.client.receive P cfg received sendOk).2 } := by
  have client := inv.client
  cases stands : self.client with
  | idle entropy =>
    rw [← stands]
    exact inv.stays (by rw [stands]; rfl)
  | connected phase1 child =>
    rw [← stands]
    exact inv.stays (by rw [stands]; rfl)
  | failed error =>
    rw [← stands]
    exact inv.stays (by rw [stands]; rfl)
  | awaitMsg2 ai entropy =>
    rw [stands] at client
    obtain ⟨silent, sizeI⟩ := client
    have waits : ∀ phase1 child, self.client ≠ .connected phase1 child := by
      intro phase1 child same
      rw [stands] at same
      cases same
    apply inv.moves waits
    rw [silent]
    cases received with
    | none =>
      simp only [clientGives, Machine.call, machine, stands, Connect.receive]
      exact fun qr heard => absurd heard List.not_mem_nil
    | some msg2 =>
      rcases Connect.completePhase1_cases P cfg ai msg2 entropy sendOk with
        ⟨error, failed⟩ | ⟨msg3, phase1, qm1, qi, completed, initiated, opens⟩
      · simp only [clientGives, Machine.call, machine, stands, Connect.receive, failed]
        exact fun qr heard => absurd heard List.not_mem_nil
      · simp only [clientGives, Machine.call, machine, stands, Connect.receive, opens]
        refine ⟨rfl, opened_of_completes sizeI completed initiated fun query member => schedule query ?_⟩
        simp only [World.queries, Machine.call, stands, completed]
        exact member
  | awaitQm2 phase1 qi =>
    rw [stands] at client
    obtain ⟨said_, opened⟩ := client
    have waits : ∀ phase1 child, self.client ≠ .connected phase1 child := by
      intro phase1 child same
      rw [stands] at same
      cases same
    have unsaid : ∀ qr : QuickResponder, qr.hash3 ∉ said ++ [] := by
      intro qr heard
      rw [said_, List.append_nil, List.mem_singleton] at heard
      cases heard
    apply inv.moves waits
    cases received with
    | none =>
      simp only [clientGives, Machine.call, machine, stands, Connect.receive]
      exact unsaid
    | some data =>
      rcases Connect.completeQuick_cases (ε := ε) P phase1 qi data sendOk.1 with
        ⟨error, failed⟩ | ⟨qm3, child, completed, returns⟩
      · simp only [clientGives, Machine.call, machine, stands, Connect.receive, failed]
        exact unsaid
      · simp only [clientTakes, Machine.call, machine, stands, Connect.receive, returns] at takes
        obtain ⟨own, member, nonce, derived⟩ := inv.returns noCollision stands completed (by
          intro ps isPs
          apply takes
          rw [Option.mem_toList]
          obtain ⟨result, isResult, rfl⟩ := Option.map_eq_some_iff.mp isPs
          rw [isResult]
          rfl)
        obtain ⟨inputs, isInputs, nr⟩ := Option.map_eq_some_iff.mp nonce
        simp only [clientGives, Machine.call, machine, stands, Connect.receive, returns, isInputs, Option.map_some,
          Option.toList_some, nr]
        exact ⟨qi, own, by rw [said_]; rfl, opened, member, derived⟩

/-! ## Runs -/

theorem Inv.step [Entropy ε] [Entropy δ] {P : Primitives} {cfg : ConnectConfig} {queries : List PrfQuery}
    (noCollision : Prf.NoCollision P queries) {said : List QuickHash} {answered : List Answered} {self : World ε δ}
    (inv : Inv P cfg queries said answered self) (fresh : Fresh answered) (action : NetAction)
    (schedule : ∀ query ∈ World.queries P ((machine P cfg).call self action), query ∈ queries)
    (server : ∀ hash ∈ serverTakes P ((machine P cfg).call self action), hash ∈ said)
    (client : ∀ hash ∈ clientTakes P ((machine P cfg).call self action), hash ∈ answered.map Answered.hash2) :
    Inv P cfg queries (said ++ clientGives P cfg ((machine P cfg).call self action))
      (answered ++ answers P ((machine P cfg).call self action)) (machine P cfg self action).2 := by
  have unasked : (∀ received sendOk, action ≠ .toServer received sendOk) →
      answers P ((machine P cfg).call self action) = [] := by
    intro other
    cases action with
    | toServer received sendOk => exact absurd rfl (other received sendOk)
    | connect | toClient | takeChild => rfl
  cases action with
  | connect sendOk =>
    rw [unasked (fun _ _ => NetAction.noConfusion), List.append_nil]
    cases stands : self.client with
    | idle entropy =>
      have quiet : clientGives P cfg ((machine P cfg).call self (.connect sendOk)) = [] := by
        cases sendOk <;> simp only [clientGives, Machine.call, machine, stands]
      rw [quiet]
      simp only [machine, stands]
      exact inv.connect stands sendOk
    | awaitMsg2 | awaitQm2 | connected | failed =>
      have still : (machine P cfg self (.connect sendOk)).2 = self := by simp only [machine, stands]
      have quiet : clientGives P cfg ((machine P cfg).call self (.connect sendOk)) = [] :=
        clientGives_of_same (congrArg World.client still)
      rw [quiet, List.append_nil, still]
      exact inv
  | toClient received sendOk =>
    rw [unasked (fun _ _ => NetAction.noConfusion), List.append_nil]
    exact inv.toClient noCollision schedule client
  | toServer received sendOk =>
    have quiet : clientGives P cfg ((machine P cfg).call self (.toServer received sendOk)) = [] :=
      clientGives_of_same rfl
    rw [quiet, List.append_nil]
    exact inv.toServer noCollision schedule fresh server
  | takeChild ckyI =>
    have quiet : clientGives P cfg ((machine P cfg).call self (.takeChild ckyI)) = [] := clientGives_of_same rfl
    rw [unasked (fun _ _ => NetAction.noConfusion), quiet, List.append_nil, List.append_nil]
    exact inv.takeChild ckyI

/-- Whatever bytes reach the two ends in whatever order: where neither accepts a HASH of
Quick Mode that the other did not compute, and the server draws no nonce twice, a child at
the server stands for a `connect` that returned, with the mirror image of it. -/
theorem agreed_of_unforged [Entropy ε] [Entropy δ] (P : Primitives) (cfg : ConnectConfig) (serverCfg : Phase1Config)
    (clientEntropy : ε) (serverEntropy : δ) (actions : List NetAction)
    (unforged : Unforged P cfg ((machine P cfg).calls (init clientEntropy serverEntropy serverCfg) actions))
    (fresh : Fresh (((machine P cfg).calls (init clientEntropy serverEntropy serverCfg) actions).flatMap (answers P))) :
    Agreed ((machine P cfg).final (init clientEntropy serverEntropy serverCfg) actions) := by
  let kind : List (Call (World ε δ) NetAction (List Bytes)) → Prop := fun calls =>
    Unforged P cfg calls ∧ Fresh (calls.flatMap (answers P))
  have front : ∀ past call, kind (past ++ [call]) → kind past := by
    rintro past call ⟨unforged, fresh⟩
    refine ⟨unforged.front, fun one isOne other isOther => fresh one ?_ other ?_⟩
    · rw [List.flatMap_append]
      exact List.mem_append_left _ isOne
    · rw [List.flatMap_append]
      exact List.mem_append_left _ isOther
  have inv := Machine.history_of (machine P cfg) (init clientEntropy serverEntropy serverCfg) kind front
    (fun past world => Inv P cfg (past.flatMap (World.queries P)) (past.flatMap (clientGives P cfg))
      (past.flatMap (answers P)) world)
    (by
      refine ⟨?_, ?_, ?_, rfl, ?_⟩
      · intro ckyI st stored
        cases stored
      · intro own member
        cases member
      · intro ckyI session qr stored
        cases stored
      · intro ckyI held isHeld
        cases isHeld)
    (by
      rintro past world action known before
      obtain ⟨unforged, fresh⟩ := known
      have grows : ∀ query ∈ past.flatMap (World.queries P),
          query ∈ (past ++ [(machine P cfg).call world action]).flatMap (World.queries P) := by
        intro query member
        rw [List.flatMap_append]
        exact List.mem_append_left _ member
      have step := (before.mono grows).step unforged.noCollision (front past _ ⟨unforged, fresh⟩).2 action
        (fun query member => by
          rw [List.flatMap_append]
          exact List.mem_append_right _ (List.mem_flatMap.mpr ⟨_, List.mem_cons_self, member⟩))
        (fun hash taken => unforged.server.last taken)
        (fun hash taken => by
          have given := unforged.client.last taken
          rwa [List.map_flatMap])
      simp only [List.flatMap_append, List.flatMap_singleton] at step ⊢
      exact step)
    ⟨unforged, fresh⟩
  exact inv.agreed

end World

namespace Toy
open Ryke.Toy

def connectCfg : ConnectConfig :=
  ⟨⟨[112], ourId, .modp1024, false⟩, (⟨10, 0, 0, 0⟩, ⟨255, 0, 0, 0⟩), (⟨10, 0, 0, 0⟩, ⟨255, 0, 0, 0⟩)⟩

def bothIdle : World Counter Counter := .init ⟨1⟩ ⟨10⟩ ⟨[112], ourId⟩

def toServer (message : Bytes) : NetAction := .toServer (some (message, peerAddr)) true

def toClient (message : Bytes) : NetAction := .toClient (some message) (true, true)

def forward (actions : List NetAction) (deliver : Bytes → NetAction) : List NetAction :=
  actions ++ ((((World.machine toy connectCfg).calls bothIdle actions).getLast?.map Call.output).getD []).map deliver

def connects : List NetAction := [toServer, toClient, toServer, toClient, toServer].foldl forward [.connect true]

def disturbed : List NetAction := toServer bareAggressive :: connects ++ connects.filter (·.received.isSome)

end Toy

namespace World
open Ryke.Toy

/-- The server holds a child after a handshake with forged and repeated messages, and so it
has its mirror image at the client. -/
theorem agreed_disturbed :
    (((machine toy Toy.connectCfg).final Toy.bothIdle Toy.disturbed).server.child (Toy.offer.1.take 8)).isSome = true ∧
      Agreed ((machine toy Toy.connectCfg).final Toy.bothIdle Toy.disturbed) :=
  ⟨by decide +kernel,
    agreed_of_unforged toy Toy.connectCfg ⟨[112], Toy.ourId⟩ (⟨1⟩ : Counter) (⟨10⟩ : Counter) Toy.disturbed
      ⟨by decide +kernel, by decide +kernel, by decide +kernel⟩ (by decide +kernel)⟩

end World

end Ryke.Ikev1
