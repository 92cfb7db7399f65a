import Ryke.Ikev1.Network
import Ryke.Lib.Relay

/-! An IKEv1 handshake over a network that keeps the order and loses nothing, to a server
that other clients use at the same time. Whatever they send under cookies of their own, and
whenever the two ends get to run, the handshake comes to its end. -/

namespace Ryke.Ikev1
open Lib Crypto

/-! ## The messages of an honest handshake -/

def Headed (message : Bytes) (kind : UInt8) (ckyI : Cookie) : Prop :=
  ∃ header, IsakmpHeader.parse message = .ok header ∧ header.exchangeType = kind ∧ header.initCookie = ckyI

theorem parse_encryptPayloads {P : Primitives} {header : IsakmpHeader} (sizeI : header.initCookie.length = 8)
    (sizeR : header.respCookie.length = 8) {encKey iv message next : Bytes} {chain : List (UInt8 × Bytes)}
    (encrypted : encryptPayloads P header encKey iv chain = .ok (message, next)) :
    Headed message header.exchangeType header.initCookie := by
  unfold encryptPayloads at encrypted
  obtain ⟨ct, -, encrypted⟩ := bind_eq_ok encrypted
  cases encrypted
  let written := encryptedHeader header (encodePayloads chain).1 (UInt32.ofNat (IsakmpHeader.len + ct.length))
  have writtenI : written.initCookie.length = 8 := sizeI
  have writtenR : written.respCookie.length = 8 := sizeR
  exact ⟨written, IsakmpHeader.parse_toBytes writtenI writtenR ct, rfl, rfl⟩

theorem headed_initiateQuick {ε : Type} [Entropy ε] {P : Primitives} {st : Phase1State} (sized : st.Sized) {entropy : ε}
    {tsLocal tsRemote : Bytes × Bytes} {msg1 : Bytes} {qi : QuickInitiator}
    (initiated : (initiateQuick P st entropy tsLocal tsRemote).1 = .ok (msg1, qi)) :
    Headed msg1 exchange.quick st.ckyI ∧ qi.ckyI = st.ckyI ∧ qi.ckyR = st.ckyR := by
  unfold initiateQuick at initiated
  dsimp only at initiated
  obtain ⟨⟨sent, iv1⟩, built, initiated⟩ := bind_eq_ok initiated
  cases initiated
  exact ⟨parse_encryptPayloads sized.ckyI sized.ckyR built, rfl, rfl⟩

theorem headed_completeQuick {P : Primitives} {qi : QuickInitiator} (sizeI : qi.ckyI.length = 8)
    (sizeR : qi.ckyR.length = 8) {msg2 msg3 : Bytes} {child : ChildSa} (completed : qi.complete P msg2 = .ok (msg3, child)) :
    Headed msg3 exchange.quick qi.ckyI := by
  unfold QuickInitiator.complete at completed
  obtain ⟨⟨header, ps, iv2⟩, -, completed⟩ := bind_eq_ok completed
  obtain ⟨nonceP, -, completed⟩ := bind_eq_ok completed
  obtain ⟨peerSpi, -, completed⟩ := bind_eq_ok completed
  obtain ⟨got, -, completed⟩ := bind_eq_ok completed
  obtain ⟨-, completed⟩ := guard_eq_ok completed
  obtain ⟨⟨sent, last⟩, encrypted, completed⟩ := bind_eq_ok completed
  obtain ⟨derived, -, completed⟩ := bind_eq_ok completed
  cases completed
  exact parse_encryptPayloads sizeI sizeR encrypted

/-- A message that only proves: a HASH and no SA. -/
def Proves (message : Bytes) (ckyI : Cookie) : Prop :=
  ∃ header ps, IsakmpHeader.parse message = .ok header ∧ header.exchangeType = exchange.aggressive ∧
    header.initCookie = ckyI ∧ parsePayloads header.nextPayload (message.drop IsakmpHeader.len) = .ok ps ∧
    Server.has ps payload.sa = false ∧ Server.has ps payload.hash = true

theorem proves_hash {ckyI ckyR : Cookie} (sizeI : ckyI.length = 8) (sizeR : ckyR.length = 8) {proof : Bytes}
    (fits : Fits (payload.hash, proof)) :
    Proves (buildMessage (aggressiveHeader ckyI ckyR) [(payload.hash, proof)]) ckyI := by
  have all : ∀ item ∈ [(payload.hash, proof)], Fits item := by
    intro item member
    rw [List.mem_singleton.mp member]
    exact fits
  have cookieI : (aggressiveHeader ckyI ckyR).initCookie.length = 8 := sizeI
  have cookieR : (aggressiveHeader ckyI ckyR).respCookie.length = 8 := sizeR
  obtain ⟨header, length, isHeader, parsed, read⟩ := parse_buildMessage cookieI cookieR all
  exact ⟨header, _, parsed, by rw [isHeader]; rfl, by rw [isHeader]; rfl, read, rfl, rfl⟩

structure Phase1Done (P : Primitives) (ai : AggressiveInitiator) (msg2 msg3 : Bytes) (st : Phase1State) : Prop where
  completed : ai.complete P msg2 = .ok (msg3, st)
  verified : st.verifyHashI P msg3 = .ok ()
  proves : Proves msg3 ai.ckyI
  sized : st.Sized
  ckyI : st.ckyI = ai.ckyI

section Phase1

variable {ε δ : Type} [Entropy ε] [Entropy δ] (P : Primitives) {cfg : InitiatorConfig} {idR : Id}
  (idIFits : cfg.ourId.Fits) (idRFits : idR.Fits) (modp : Modp cfg.group) (initEntropy : ε) (respEntropy : δ)
  (validI : cfg.group.validPublic (cfg.group.public_ P (exponentOf initEntropy)) = true)
  (validR : cfg.group.validPublic (cfg.group.public_ P (exponentOf respEntropy)) = true)

include idIFits idRFits modp validI validR in
theorem aggressive_agreement :
    ∃ msg2 msg3 st,
      (respondAggressive P ⟨cfg.psk, idR⟩ (initiateAggressive P cfg initEntropy).1.1 respEntropy).1 = .ok (msg2, st) ∧
      Phase1Done P (initiateAggressive P cfg initEntropy).1.2 msg2 msg3 st := by
  let ckyI := (Entropy.fill initEntropy 8).1
  let ckyR := (Entropy.fill respEntropy 8).1
  let dhI := exponentOf initEntropy
  let dhR := exponentOf respEntropy
  let ni := (Entropy.fill (Entropy.nextArray32 (Entropy.fill initEntropy 8).2).2 16).1
  let nr := (Entropy.fill (Entropy.nextArray32 (Entropy.fill respEntropy 8).2).2 16).1
  have ckyISize : ckyI.length = 8 := Entropy.fill_length _ 8
  have ckyRSize : ckyR.length = 8 := Entropy.fill_length _ 8
  have niSize : ni.length = 16 := Entropy.fill_length _ 16
  have nrSize : nr.length = 16 := Entropy.fill_length _ 16
  have gxiSize := cfg.group.public_length P dhI
  have gxrSize := cfg.group.public_length P dhR
  obtain ⟨gxy, sharedI, sharedR⟩ := shared_of_validPublic P modp validI validR
  have read : readOffer (initiateAggressive P cfg initEntropy).1.1 =
      .ok (offerOf cfg.group cfg.xauth cfg.ourId ckyI (cfg.group.public_ P dhI) ni) :=
    readOffer_offerChain modp cfg.xauth idIFits ckyISize gxiSize niSize
  let saiB := (initiatorSa cfg.group cfg.xauth).toBytes
  let gxi := cfg.group.public_ P dhI
  let gxr := cfg.group.public_ P dhR
  let state := derivePhase1 P .sha256 cfg.group cfg.psk ckyI ckyR gxy gxi gxr ni nr saiB cfg.ourId.toBytes 32
  let proofR := hashR P .sha256 state.skeyid gxr gxi ckyR ckyI saiB idR.toBytes
  let proofI := hashI P .sha256 state.skeyid gxi gxr ckyI ckyR saiB cfg.ourId.toBytes
  let msg2 := buildMessage (aggressiveHeader ckyI ckyR) (answerChain cfg.group cfg.xauth idR gxr nr proofR)
  let msg3 := buildMessage (aggressiveHeader ckyI ckyR) [(payload.hash, proofI)]
  have completed : (initiateAggressive P cfg initEntropy).1.2.complete P msg2 = .ok (msg3, state) :=
    complete_answerChain cfg.xauth idRFits ckyISize ckyRSize gxrSize nrSize sharedI
  refine ⟨msg2, msg3, state, ?_, completed, ?_, ?_, ?_, rfl⟩
  · rw [respondAggressive, read]
    exact answerOffer_eq cfg.xauth rfl sharedR
  · exact verifyHashI_ok ckyISize ckyRSize state rfl rfl
  · exact proves_hash ckyISize ckyRSize (fits_hash P _ _ _)
  · exact ⟨ckyISize, ckyRSize, (derivePhase1_sizes ..).1⟩

end Phase1

/-! ## What the server does with them -/

def cookieOf (received : Option (Bytes × SocketAddr)) : Option Cookie := do
  let (data, _) ← received
  let header ← (IsakmpHeader.parse data).toOption
  some header.initCookie

namespace Server

variable {δ : Type}

structure SameFor (ckyI : Cookie) (before after : Server δ) : Prop where
  cfg : after.cfg = before.cfg
  session : after.sessions.get ckyI = before.sessions.get ckyI
  child : after.children.get ckyI = before.children.get ckyI

theorem handleOne_cfg [Entropy δ] (P : Primitives) (self : Server δ) (received : Option (Bytes × SocketAddr))
    (sendOk : Bool) : (self.handleOne P received sendOk).server.cfg = self.cfg := by
  unfold handleOne
  split
  next => rfl
  next data sender =>
    split
    next => rfl
    next hdr _ =>
      split
      next =>
        unfold handleAggressive
        split
        next => rfl
        next =>
          split
          next =>
            unfold handleOffer
            dsimp only
            split
            next => rfl
            next => split <;> rfl
          next =>
            split
            next =>
              unfold handleHashI
              split
              next => rfl
              next => split <;> rfl
            next => rfl
      next =>
        split
        next =>
          unfold handleQuick
          split
          next => rfl
          next session _ =>
            split
            next => rfl
            next =>
              unfold handleQuick1
              dsimp only
              split
              next => rfl
              next => split <;> rfl
            next =>
              unfold handleQuick3
              dsimp only
              split <;> rfl
        next => rfl

theorem cookieOf_parsed {data : Bytes} {header : IsakmpHeader} (parsed : IsakmpHeader.parse data = .ok header)
    (sender : SocketAddr) : cookieOf (some (data, sender)) = some header.initCookie := by
  simp only [cookieOf, Option.bind_eq_bind, Option.bind_some, parsed, Except.toOption]

theorem cookieOf_starts {P : Primitives} {self : Server δ} {received : Option (Bytes × SocketAddr)} {ckyI : Cookie}
    {st : Phase1State} (starts : self.startsQuick P received = some (ckyI, st)) : cookieOf received = some ckyI := by
  unfold startsQuick at starts
  obtain ⟨⟨hdr, data⟩, found, starts⟩ := Option.bind_eq_some_iff.mp starts
  obtain ⟨session, -, starts⟩ := Option.bind_eq_some_iff.mp starts
  obtain ⟨known, -, starts⟩ := Option.bind_eq_some_iff.mp starts
  split at starts
  next =>
    cases starts
    obtain ⟨sender, got, parsed, -⟩ := headed_eq_some found
    rw [got]
    exact cookieOf_parsed parsed sender
  next => cases starts

theorem cookieOf_continues {self : Server δ} {received : Option (Bytes × SocketAddr)} {ckyI : Cookie}
    {qr : QuickResponder} {data : Bytes} (continues : self.continuesQuick received = some (ckyI, qr, data)) :
    cookieOf received = some ckyI := by
  obtain ⟨hdr, sender, st, rfl, parsed, -, rfl, -⟩ := continuesQuick_eq_some continues
  exact cookieOf_parsed parsed sender

theorem handleOne_sameFor [Entropy δ] (P : Primitives) (self : Server δ) {received : Option (Bytes × SocketAddr)}
    (sendOk : Bool) {ckyI : Cookie} (foreign : cookieOf received ≠ some ckyI) :
    SameFor ckyI self (self.handleOne P received sendOk).server := by
  have elsewhere : ∀ own, cookieOf received = some own → ckyI ≠ own := by
    rintro own isOwn rfl
    exact foreign isOwn
  have cfg := self.handleOne_cfg P received sendOk
  cases self.handleOne_step P received sendOk with
  | quiet sessions children _ => exact ⟨cfg, by rw [sessions], by rw [children]⟩
  | verified _ _ _ sessions children _ => exact ⟨cfg, by rw [sessions], by rw [children]⟩
  | offered own st sessions children event =>
    obtain ⟨data, sender, hdr, msg2, drawn, rfl, parsed, -, written⟩ := handleOne_offers event
    refine ⟨cfg, ?_, by rw [children]⟩
    rw [written, Table.get_insert_of_ne _ _ (elsewhere _ (cookieOf_parsed parsed sender))]
  | started own st data sender msg2 qr got starts _ _ sessions children _ =>
    refine ⟨cfg, ?_, by rw [children]⟩
    rw [sessions, Table.get_insert_of_ne _ _ (elsewhere own (cookieOf_starts starts))]
  | dropped own st qr data continues _ _ sessions children _ =>
    refine ⟨cfg, ?_, by rw [children]⟩
    rw [sessions, Table.get_insert_of_ne _ _ (elsewhere own (cookieOf_continues continues))]
  | completed own st qr data child continues _ _ sessions children _ =>
    have other := elsewhere own (cookieOf_continues continues)
    exact ⟨cfg, by rw [sessions, Table.get_insert_of_ne _ _ other], by rw [children, Table.get_insert_of_ne _ _ other]⟩

theorem takeChild_sameFor (self : Server δ) {own ckyI : Cookie} (foreign : own ≠ ckyI) :
    SameFor ckyI self (self.takeChild own).2 := by
  refine ⟨rfl, rfl, ?_⟩
  change (self.children.remove own).get ckyI = _
  rw [Table.get_remove, if_neg foreign.symm]

theorem handleOne_msg1 [Entropy δ] {P : Primitives} {self : Server δ} {data : Bytes} (sender : SocketAddr)
    {msg2 : Bytes} {st : Phase1State} (answered : (respondAggressive P self.cfg data self.entropy).1 = .ok (msg2, st)) :
    let outcome := self.handleOne P (some (data, sender)) true
    outcome.sent = some (msg2, sender) ∧ outcome.server.cfg = self.cfg ∧
      outcome.server.sessions = self.sessions.insert st.ckyI ⟨some st, none⟩ := by
  obtain ⟨offer, gxy, ckyR, dhR, nr, read, -, -, -, -, isState⟩ := respondAggressive_eq_ok answered
  obtain ⟨header, ps, parsed, kind, chain, saFound, own, -⟩ := readOffer_eq_ok read
  have sa : has ps payload.sa = true := by
    rw [has, List.any_eq_true]
    exact ⟨_, List.mem_of_find?_eq_some saFound, rfl⟩
  have cookie : st.ckyI = header.initCookie := by
    rw [isState]
    exact own
  simp only [handleOne, parsed, if_pos kind, handleAggressive, chain, if_pos sa, handleOffer, answered, if_true, cookie]
  exact ⟨trivial, trivial, trivial⟩

theorem handleOne_msg3 [Entropy δ] {P : Primitives} {self : Server δ} {data : Bytes} (sender : SocketAddr)
    {ckyI : Cookie} {st : Phase1State} {quick : Option QuickResponder} (proves : Proves data ckyI)
    (stored : self.sessions.get ckyI = some ⟨some st, quick⟩) (verified : st.verifyHashI P data = .ok ()) :
    self.handleOne P (some (data, sender)) true = ⟨.ok .phase1Established, none, self⟩ := by
  obtain ⟨header, ps, parsed, kind, rfl, chain, noSa, hash⟩ := proves
  have known : self.phase1 header.initCookie = some st := by
    rw [phase1, stored]
    rfl
  simp only [handleOne, parsed, if_pos kind, handleAggressive, chain, noSa, Bool.false_eq_true, if_false, hash, if_true,
    handleHashI, known, verified]

theorem handleOne_qm1 [Entropy δ] {P : Primitives} {self : Server δ} {data : Bytes} (sender : SocketAddr)
    {ckyI : Cookie} {st : Phase1State} (headed : Headed data exchange.quick ckyI)
    (stored : self.sessions.get ckyI = some ⟨some st, none⟩) {msg2 : Bytes} {qr : QuickResponder}
    (answered : (respondQuick P st data self.entropy).1 = .ok (msg2, qr)) :
    let outcome := self.handleOne P (some (data, sender)) true
    outcome.sent = some (msg2, sender) ∧ outcome.server.cfg = self.cfg ∧
      outcome.server.sessions = self.sessions.insert ckyI ⟨some st, some qr⟩ := by
  obtain ⟨header, parsed, kind, rfl⟩ := headed
  have other : ¬ header.exchangeType = exchange.aggressive := by
    rw [kind]
    decide
  simp only [handleOne, parsed, if_neg other, if_pos kind, handleQuick, stored, handleQuick1, answered, if_true]
  exact ⟨trivial, trivial, trivial⟩

theorem handleOne_qm3 [Entropy δ] {P : Primitives} {self : Server δ} {data : Bytes} (sender : SocketAddr)
    {ckyI : Cookie} {st : Phase1State} {qr : QuickResponder} (headed : Headed data exchange.quick ckyI)
    (stored : self.sessions.get ckyI = some ⟨some st, some qr⟩) {child : ChildSa}
    (completed : qr.complete P data = .ok child) :
    let outcome := self.handleOne P (some (data, sender)) true
    outcome.sent = none ∧ outcome.server.cfg = self.cfg ∧ outcome.server.children = self.children.insert ckyI child := by
  obtain ⟨header, parsed, kind, rfl⟩ := headed
  have other : ¬ header.exchangeType = exchange.aggressive := by
    rw [kind]
    decide
  simp only [handleOne, parsed, if_neg other, if_pos kind, handleQuick, stored, handleQuick3, completed]
  exact ⟨trivial, trivial, trivial⟩

end Server

/-! ## Messages in order -/

inductive Outside where
  | foreign (received : Option (Bytes × SocketAddr)) (sendOk : Bool)
  | takeChild (ckyI : Cookie)
  deriving DecidableEq

/-- It has nothing to do with the handshake of a cookie. -/
def Foreign (ckyI : Cookie) : RelayAction Outside → Prop
  | .outside (.foreign received _) => cookieOf received ≠ some ckyI
  | .outside (.takeChild own) => own ≠ ckyI
  | _ => True

instance (ckyI : Cookie) : (action : RelayAction Outside) → Decidable (Foreign ckyI action)
  | .outside (.foreign received _) => inferInstanceAs (Decidable (cookieOf received ≠ some ckyI))
  | .outside (.takeChild own) => inferInstanceAs (Decidable (own ≠ ckyI))
  | .connect | .deliverServer | .deliverClient => inferInstanceAs (Decidable True)

namespace World

variable {ε δ : Type}

/-- Both ends over such a network. The client has the given address, and the socket takes
every message. -/
def ends [Entropy ε] [Entropy δ] (P : Primitives) (cfg : ConnectConfig) (addr : SocketAddr) :
    Ends (World ε δ) Bytes Outside where
  start self := machine P cfg self (.connect true)
  atServer data self := machine P cfg self (.toServer (some (data, addr)) true)
  atClient data self := machine P cfg self (.toClient (some data) (true, true))
  outside action self :=
    match action with
    | .foreign received sendOk => (machine P cfg self (.toServer received sendOk)).2
    | .takeChild ckyI => (machine P cfg self (.takeChild ckyI)).2

def script : List (RelayAction Outside) :=
  [.connect, .deliverServer, .deliverClient, .deliverServer, .deliverServer, .deliverClient, .deliverServer]

/-- Where a handshake stands: what is left of the script, and what the two ends hold. -/
inductive Stage [Entropy ε] (P : Primitives) (cfg : ConnectConfig) (entropy : ε) (serverCfg : Phase1Config) :
    List (RelayAction Outside) → Relay (World ε δ) Bytes → Prop where
  | idle (server : Server δ) (same : server.cfg = serverCfg) :
      Stage P cfg entropy serverCfg script ⟨⟨.idle entropy, server⟩, [], []⟩
  | offered (server : Server δ) (same : server.cfg = serverCfg) :
      Stage P cfg entropy serverCfg (script.drop 1)
        ⟨⟨.awaitMsg2 (initiateAggressive P cfg.initiator entropy).1.2 (initiateAggressive P cfg.initiator entropy).2, server⟩,
          [(initiateAggressive P cfg.initiator entropy).1.1], []⟩
  | answered (server : Server δ) (ai : AggressiveInitiator) (after : ε) (msg2 msg3 : Bytes) (st : Phase1State)
      (cookie : ai.ckyI = (Entropy.fill entropy 8).1) (done : Phase1Done P ai msg2 msg3 st)
      (stored : server.sessions.get ai.ckyI = some ⟨some st, none⟩) :
      Stage P cfg entropy serverCfg (script.drop 2) ⟨⟨.awaitMsg2 ai after, server⟩, [], [msg2]⟩
  | proved (server : Server δ) (after : ε) (msg3 qm1 : Bytes) (st : Phase1State) (qi : QuickInitiator)
      (cookie : st.ckyI = (Entropy.fill entropy 8).1) (verified : st.verifyHashI P msg3 = .ok ())
      (proves : Proves msg3 st.ckyI) (sized : st.Sized)
      (opened : Connect.openQuick P cfg st after = .ok (qm1, qi))
      (stored : server.sessions.get st.ckyI = some ⟨some st, none⟩) :
      Stage P cfg entropy serverCfg (script.drop 3) ⟨⟨.awaitQm2 st qi, server⟩, [msg3, qm1], []⟩
  | verified (server : Server δ) (after : ε) (qm1 : Bytes) (st : Phase1State) (qi : QuickInitiator)
      (cookie : st.ckyI = (Entropy.fill entropy 8).1) (sized : st.Sized)
      (opened : Connect.openQuick P cfg st after = .ok (qm1, qi))
      (stored : server.sessions.get st.ckyI = some ⟨some st, none⟩) :
      Stage P cfg entropy serverCfg (script.drop 4) ⟨⟨.awaitQm2 st qi, server⟩, [qm1], []⟩
  | echoed (server : Server δ) (qm2 qm3 : Bytes) (st : Phase1State) (qi : QuickInitiator) (qr : QuickResponder)
      (childI childR : ChildSa) (cookie : st.ckyI = (Entropy.fill entropy 8).1)
      (completed : qi.complete P qm2 = .ok (qm3, childI)) (completes : qr.complete P qm3 = .ok childR)
      (headed : Headed qm3 exchange.quick st.ckyI) (mirror : Mirror childI childR)
      (stored : server.sessions.get st.ckyI = some ⟨some st, some qr⟩) :
      Stage P cfg entropy serverCfg (script.drop 5) ⟨⟨.awaitQm2 st qi, server⟩, [], [qm2]⟩
  | returned (server : Server δ) (qm3 : Bytes) (st : Phase1State) (qr : QuickResponder) (childI childR : ChildSa)
      (cookie : st.ckyI = (Entropy.fill entropy 8).1) (completes : qr.complete P qm3 = .ok childR)
      (headed : Headed qm3 exchange.quick st.ckyI) (mirror : Mirror childI childR)
      (stored : server.sessions.get st.ckyI = some ⟨some st, some qr⟩) :
      Stage P cfg entropy serverCfg (script.drop 6) ⟨⟨.connected st childI, server⟩, [qm3], []⟩
  | done (server : Server δ) (st : Phase1State) (childI childR : ChildSa)
      (cookie : st.ckyI = (Entropy.fill entropy 8).1) (mirror : Mirror childI childR)
      (held : server.child st.ckyI = some childR) :
      Stage P cfg entropy serverCfg [] ⟨⟨.connected st childI, server⟩, [], []⟩

theorem Stage.server [Entropy ε] {P : Primitives} {cfg : ConnectConfig} {entropy : ε} {serverCfg : Phase1Config}
    {left : List (RelayAction Outside)} {self : Relay (World ε δ) Bytes}
    (stage : Stage P cfg entropy serverCfg left self) {after : Server δ}
    (same : Server.SameFor (Entropy.fill entropy 8).1 self.ends.server after) :
    Stage P cfg entropy serverCfg left { self with ends := { self.ends with server := after } } := by
  obtain ⟨config, session, child⟩ := same
  cases stage with
  | idle server isCfg => exact .idle after (config.trans isCfg)
  | offered server isCfg => exact .offered after (config.trans isCfg)
  | answered server ai source msg2 msg3 st cookie done stored =>
    exact .answered after ai source msg2 msg3 st cookie done (by rw [cookie, session, ← cookie, stored])
  | proved server source msg3 qm1 st qi cookie verified proves sized opened stored =>
    exact .proved after source msg3 qm1 st qi cookie verified proves sized opened (by rw [cookie, session, ← cookie, stored])
  | verified server source qm1 st qi cookie sized opened stored =>
    exact .verified after source qm1 st qi cookie sized opened (by rw [cookie, session, ← cookie, stored])
  | echoed server qm2 qm3 st qi qr childI childR cookie completed completes headed mirror stored =>
    exact .echoed after qm2 qm3 st qi qr childI childR cookie completed completes headed mirror
      (by rw [cookie, session, ← cookie, stored])
  | returned server qm3 st qr childI childR cookie completes headed mirror stored =>
    exact .returned after qm3 st qr childI childR cookie completes headed mirror
      (by rw [cookie, session, ← cookie, stored])
  | done server st childI childR cookie mirror held =>
    refine .done after st childI childR cookie mirror ?_
    rw [Server.child, cookie, child, ← cookie]
    exact held

/-- What is asked of a call: it is the handshake's own or leaves it alone, and where the
server draws the exponent that answers message 1, its public value is in range. -/
def Ready [Entropy ε] [Entropy δ] (P : Primitives) (cfg : ConnectConfig) (entropy : ε)
    (call : Call (Relay (World ε δ) Bytes) (RelayAction Outside) (List Bytes)) : Prop :=
  Foreign (Entropy.fill entropy 8).1 call.input ∧
    (call.input = .deliverServer →
      call.before.toServer.head? = some (initiateAggressive P cfg.initiator entropy).1.1 →
      cfg.initiator.group.validPublic (cfg.initiator.group.public_ P (exponentOf call.before.ends.server.entropy)) = true)

instance [Entropy ε] [Entropy δ] (P : Primitives) (cfg : ConnectConfig) (entropy : ε)
    (call : Call (Relay (World ε δ) Bytes) (RelayAction Outside) (List Bytes)) : Decidable (Ready P cfg entropy call) :=
  inferInstanceAs (Decidable (_ ∧ (_ → _ → _ = true)))

structure Honest [Entropy ε] (P : Primitives) (cfg : ConnectConfig) (entropy : ε) (serverCfg : Phase1Config) : Prop where
  psk : serverCfg.psk = cfg.initiator.psk
  idI : cfg.initiator.ourId.Fits
  idR : serverCfg.ourId.Fits
  modp : Modp cfg.initiator.group
  valid : cfg.initiator.group.validPublic (cfg.initiator.group.public_ P (exponentOf entropy)) = true

section Steps

variable [Entropy ε] [Entropy δ] {P : Primitives} {cfg : ConnectConfig} {entropy : ε} {serverCfg : Phase1Config}
  (addr : SocketAddr)

theorem offered_answered (honest : Honest P cfg entropy serverCfg) {server : Server δ} (same : server.cfg = serverCfg)
    (valid : cfg.initiator.group.validPublic (cfg.initiator.group.public_ P (exponentOf server.entropy)) = true) :
    Stage P cfg entropy serverCfg (script.drop 2) ((ends P cfg addr).machine
      ⟨⟨.awaitMsg2 (initiateAggressive P cfg.initiator entropy).1.2 (initiateAggressive P cfg.initiator entropy).2, server⟩,
        [(initiateAggressive P cfg.initiator entropy).1.1], []⟩ .deliverServer).2 := by
  obtain ⟨msg2, msg3, st, answered, done⟩ := aggressive_agreement P honest.idI honest.idR honest.modp entropy
    server.entropy honest.valid valid
  have isCfg : server.cfg = ⟨cfg.initiator.psk, serverCfg.ourId⟩ := by
    rw [same, ← honest.psk]
  rw [← isCfg] at answered
  obtain ⟨sent, -, sessions⟩ := Server.handleOne_msg1 addr answered
  have stored : (server.handleOne P (some ((initiateAggressive P cfg.initiator entropy).1.1, addr)) true).server.sessions.get
      (initiateAggressive P cfg.initiator entropy).1.2.ckyI = some ⟨some st, none⟩ := by
    rw [sessions, ← done.ckyI]
    exact Table.get_insert_self _ _ _
  simp only [Ends.machine, ends, machine, sent, Option.map_some, Option.toList_some, List.nil_append]
  exact .answered _ _ _ msg2 msg3 st rfl done stored

theorem answered_proved (correct : P.CbcCorrect) {server : Server δ} {ai : AggressiveInitiator} {after : ε}
    {msg2 msg3 : Bytes} {st : Phase1State} (cookie : ai.ckyI = (Entropy.fill entropy 8).1)
    (done : Phase1Done P ai msg2 msg3 st) (stored : server.sessions.get ai.ckyI = some ⟨some st, none⟩) :
    Stage P cfg entropy serverCfg (script.drop 3)
      ((ends P cfg addr).machine ⟨⟨.awaitMsg2 ai after, server⟩, [], [msg2]⟩ .deliverClient).2 := by
  obtain ⟨qm1, qi, qm2, qr, qm3, childI, childR, opened, -⟩ :=
    quick_agreement correct done.sized cfg.tsLocal cfg.tsRemote after server.entropy
  change Connect.openQuick P cfg st after = .ok (qm1, qi) at opened
  simp only [Ends.machine, ends, machine, Connect.receive, Connect.completePhase1, done.completed, opened, if_true,
    List.nil_append]
  have proves := done.proves
  rw [← done.ckyI] at proves stored cookie
  exact .proved server after msg3 qm1 st qi cookie done.verified proves done.sized opened stored

theorem proved_verified {server : Server δ} {after : ε} {msg3 qm1 : Bytes} {st : Phase1State} {qi : QuickInitiator}
    (cookie : st.ckyI = (Entropy.fill entropy 8).1) (verified : st.verifyHashI P msg3 = .ok ())
    (proves : Proves msg3 st.ckyI) (sized : st.Sized) (opened : Connect.openQuick P cfg st after = .ok (qm1, qi))
    (stored : server.sessions.get st.ckyI = some ⟨some st, none⟩) :
    Stage P cfg entropy serverCfg (script.drop 4)
      ((ends P cfg addr).machine ⟨⟨.awaitQm2 st qi, server⟩, [msg3, qm1], []⟩ .deliverServer).2 := by
  simp only [Ends.machine, ends, machine, Server.handleOne_msg3 addr proves stored verified, Option.map_none,
    Option.toList_none,
    List.append_nil]
  exact .verified server after qm1 st qi cookie sized opened stored

theorem verified_echoed (correct : P.CbcCorrect) {server : Server δ} {after : ε} {qm1 : Bytes} {st : Phase1State}
    {qi : QuickInitiator} (cookie : st.ckyI = (Entropy.fill entropy 8).1) (sized : st.Sized)
    (opened : Connect.openQuick P cfg st after = .ok (qm1, qi))
    (stored : server.sessions.get st.ckyI = some ⟨some st, none⟩) :
    Stage P cfg entropy serverCfg (script.drop 5)
      ((ends P cfg addr).machine ⟨⟨.awaitQm2 st qi, server⟩, [qm1], []⟩ .deliverServer).2 := by
  obtain ⟨qm1', qi', qm2, qr, qm3, childI, childR, opened', answered, completed, completes, mirror⟩ :=
    quick_agreement correct sized cfg.tsLocal cfg.tsRemote after server.entropy
  cases opened.symm.trans opened'
  obtain ⟨headed, isI, isR⟩ := headed_initiateQuick sized opened
  have cookieI : qi.ckyI.length = 8 := isI ▸ sized.ckyI
  have cookieR : qi.ckyR.length = 8 := isR ▸ sized.ckyR
  have headed3 := headed_completeQuick cookieI cookieR completed
  rw [isI] at headed3
  obtain ⟨sent, -, sessions⟩ := Server.handleOne_qm1 addr headed stored answered
  have now : (server.handleOne P (some (qm1, addr)) true).server.sessions.get st.ckyI = some ⟨some st, some qr⟩ := by
    rw [sessions]
    exact Table.get_insert_self _ _ _
  simp only [Ends.machine, ends, machine, sent, Option.map_some, Option.toList_some, List.nil_append]
  exact .echoed _ qm2 qm3 st qi qr childI childR cookie completed completes headed3 mirror now

theorem echoed_returned {server : Server δ} {qm2 qm3 : Bytes} {st : Phase1State} {qi : QuickInitiator}
    {qr : QuickResponder} {childI childR : ChildSa} (cookie : st.ckyI = (Entropy.fill entropy 8).1)
    (completed : qi.complete P qm2 = .ok (qm3, childI)) (completes : qr.complete P qm3 = .ok childR)
    (headed : Headed qm3 exchange.quick st.ckyI) (mirror : Mirror childI childR)
    (stored : server.sessions.get st.ckyI = some ⟨some st, some qr⟩) :
    Stage P cfg entropy serverCfg (script.drop 6)
      ((ends P cfg addr).machine ⟨⟨.awaitQm2 st qi, server⟩, [], [qm2]⟩ .deliverClient).2 := by
  simp only [Ends.machine, ends, machine, Connect.receive, Connect.completeQuick, completed, if_true, List.nil_append]
  exact .returned server qm3 st qr childI childR cookie completes headed mirror stored

theorem returned_done {server : Server δ} {qm3 : Bytes} {st : Phase1State} {qr : QuickResponder}
    {childI childR : ChildSa} (cookie : st.ckyI = (Entropy.fill entropy 8).1) (completes : qr.complete P qm3 = .ok childR)
    (headed : Headed qm3 exchange.quick st.ckyI) (mirror : Mirror childI childR)
    (stored : server.sessions.get st.ckyI = some ⟨some st, some qr⟩) :
    Stage P cfg entropy serverCfg []
      ((ends P cfg addr).machine ⟨⟨.connected st childI, server⟩, [qm3], []⟩ .deliverServer).2 := by
  obtain ⟨sent, -, children⟩ := Server.handleOne_qm3 addr headed stored completes
  have held : (server.handleOne P (some (qm3, addr)) true).server.child st.ckyI = some childR := by
    rw [Server.child, children]
    exact Table.get_insert_self _ _ _
  simp only [Ends.machine, ends, machine, sent, Option.map_none, Option.toList_none, List.append_nil]
  exact .done _ st childI childR cookie mirror held

theorem Stage.advance (correct : P.CbcCorrect) (honest : Honest P cfg entropy serverCfg) {input : RelayAction Outside}
    {left : List (RelayAction Outside)} {self : Relay (World ε δ) Bytes}
    (ready : Ready P cfg entropy ((ends P cfg addr).machine.call self input))
    (stage : Stage P cfg entropy serverCfg (input :: left) self) :
    Stage P cfg entropy serverCfg left ((ends P cfg addr).machine self input).2 := by
  generalize whole : input :: left = rest at stage
  cases stage with
  | idle server same =>
    cases whole
    exact .offered server same
  | offered server same =>
    cases whole
    exact offered_answered addr honest same (ready.2 rfl rfl)
  | answered server ai after msg2 msg3 st cookie done stored =>
    cases whole
    exact answered_proved addr correct cookie done stored
  | proved server after msg3 qm1 st qi cookie verified proves sized opened stored =>
    cases whole
    exact proved_verified addr cookie verified proves sized opened stored
  | verified server after qm1 st qi cookie sized opened stored =>
    cases whole
    exact verified_echoed addr correct cookie sized opened stored
  | echoed server qm2 qm3 st qi qr childI childR cookie completed completes headed mirror stored =>
    cases whole
    exact echoed_returned addr cookie completed completes headed mirror stored
  | returned server qm3 st qr childI childR cookie completes headed mirror stored =>
    cases whole
    exact returned_done addr cookie completes headed mirror stored
  | done => cases whole

theorem Stage.keep {input : RelayAction Outside} {left : List (RelayAction Outside)} {self : Relay (World ε δ) Bytes}
    (ready : Ready P cfg entropy ((ends P cfg addr).machine.call self input)) (other : left.head? ≠ some input)
    (stage : Stage P cfg entropy serverCfg left self) :
    Stage P cfg entropy serverCfg left ((ends P cfg addr).machine self input).2 := by
  have still : ((ends P cfg addr).machine self input).2 = self →
      Stage P cfg entropy serverCfg left ((ends P cfg addr).machine self input).2 := by
    intro same
    rw [same]
    exact stage
  cases input with
  | connect =>
    apply still
    cases stage with
    | idle => exact absurd rfl other
    | offered | answered | proved | verified | echoed | returned | done =>
      simp only [Ends.machine, ends, machine, List.append_nil]
  | deliverServer =>
    apply still
    cases stage with
    | offered | proved | verified | returned => exact absurd rfl other
    | idle | answered | echoed | done => rfl
  | deliverClient =>
    apply still
    cases stage with
    | answered | echoed => exact absurd rfl other
    | idle | offered | proved | verified | returned | done => rfl
  | outside action =>
    cases action with
    | foreign received sendOk => exact stage.server (Server.handleOne_sameFor P self.ends.server sendOk ready.1)
    | takeChild own => exact stage.server (Server.takeChild_sameFor self.ends.server ready.1)

end Steps

/-- The client is back with a child, and the server holds the mirror image of it under the
cookie of the handshake. -/
def Connected (ckyI : Cookie) (self : World ε δ) : Prop :=
  ∃ phase1 child held, self.client = .connected phase1 child ∧ phase1.ckyI = ckyI ∧
    self.server.child ckyI = some held ∧ Mirror child held

theorem Stage.connected [Entropy ε] {P : Primitives} {cfg : ConnectConfig} {entropy : ε} {serverCfg : Phase1Config}
    {self : Relay (World ε δ) Bytes} (stage : Stage P cfg entropy serverCfg [] self) :
    Connected (Entropy.fill entropy 8).1 self.ends := by
  generalize nothing : ([] : List (RelayAction Outside)) = left at stage
  cases stage with
  | done server st childI childR cookie mirror held => exact ⟨st, childI, childR, rfl, cookie, cookie ▸ held, mirror⟩
  | idle | offered | answered | proved | verified | echoed | returned => cases nothing

/-- Whatever the server held before: a schedule in which the handshake gets its seven turns
in order connects, with any datagrams under other cookies and any other turns between. -/
theorem connected_of_script [Entropy ε] [Entropy δ] (P : Primitives) (correct : P.CbcCorrect) (cfg : ConnectConfig)
    (addr : SocketAddr) (entropy : ε) (server : Server δ) (honest : Honest P cfg entropy server.cfg)
    (schedule : List (RelayAction Outside)) (turns : script.Sublist schedule)
    (ready : ∀ call ∈ (ends P cfg addr).machine.calls ⟨⟨.idle entropy, server⟩, [], []⟩ schedule, Ready P cfg entropy call) :
    Connected (Entropy.fill entropy 8).1 ((ends P cfg addr).machine.final ⟨⟨.idle entropy, server⟩, [], []⟩ schedule).ends :=
  Stage.connected (Machine.plays (Stage P cfg entropy server.cfg) (Ready P cfg entropy)
    (fun _ _ _ ready stage => stage.advance addr correct honest ready)
    (fun _ _ _ ready other stage => stage.keep addr ready other) turns (Stage.idle server rfl) ready)

end World

namespace Toy
open Ryke.Toy

def otherOffer : RelayAction Outside :=
  .outside (.foreign (some ((initiateAggressive toy ⟨[112], ourId, .modp1024, false⟩ (⟨50⟩ : Counter)).1.1, peerAddr)) true)

def busy : List (RelayAction Outside) := World.script.flatMap fun turn => [otherOffer, turn] ++ [.connect]

end Toy

namespace World
open Ryke.Toy

theorem connected_busy :
    Connected (Entropy.fill (⟨1⟩ : Counter) 8).1
      ((ends toy Toy.connectCfg Toy.peerAddr).machine.final ⟨⟨.idle (⟨1⟩ : Counter), Toy.start⟩, [], []⟩ Toy.busy).ends := by
  have honest : Honest toy Toy.connectCfg (⟨1⟩ : Counter) Toy.start.cfg :=
    ⟨rfl, by unfold Id.Fits; decide, by unfold Id.Fits; decide, .inl rfl, by decide +kernel⟩
  exact connected_of_script toy toy_cbcCorrect Toy.connectCfg Toy.peerAddr (⟨1⟩ : Counter) Toy.start honest Toy.busy
    (by decide) (by decide +kernel)

end World

end Ryke.Ikev1
