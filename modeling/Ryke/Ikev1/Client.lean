import Ryke.Ikev1.Agreement
import Ryke.Ikev1.Server
import Ryke.Lib.Run

/-! The blocking IKEv1 client: `connect` runs Aggressive Mode and then Quick Mode. Here it
stops at every read, so that anything may happen between two of them. -/

namespace Ryke.Ikev1
open Lib Crypto

/-- What the caller passes to `connect`. The traffic selectors are an address and a mask each. -/
structure ConnectConfig where
  initiator : InitiatorConfig
  tsLocal : Ipv4Addr × Ipv4Addr
  tsRemote : Ipv4Addr × Ipv4Addr

/-- Where a call of `Client::connect` stands. -/
inductive Connect (ε : Type) where
  | idle (entropy : ε)
  | awaitMsg2 (ai : AggressiveInitiator) (entropy : ε)
  | awaitQm2 (phase1 : Phase1State) (qi : QuickInitiator)
  | connected (phase1 : Phase1State) (child : ChildSa)
  | failed (error : DriverError)

namespace Connect

variable {ε : Type}

def start [Entropy ε] (P : Primitives) (cfg : ConnectConfig) (entropy : ε) (sendOk : Bool) : List Bytes × Connect ε :=
  let ((msg1, ai), entropy) := initiateAggressive P cfg.initiator entropy
  if sendOk then ([msg1], .awaitMsg2 ai entropy) else ([], .failed .io)

def openQuick [Entropy ε] (P : Primitives) (cfg : ConnectConfig) (phase1 : Phase1State) (entropy : ε) :
    Result (Bytes × QuickInitiator) :=
  (initiateQuick P phase1 entropy (cfg.tsLocal.1.octets, cfg.tsLocal.2.octets)
    (cfg.tsRemote.1.octets, cfg.tsRemote.2.octets)).1

/-- Message 2: send message 3 and, without an answer to it, message 1 of Quick Mode. The
flags say whether the socket takes each of the two. -/
def completePhase1 [Entropy ε] (P : Primitives) (cfg : ConnectConfig) (ai : AggressiveInitiator) (msg2 : Bytes)
    (entropy : ε) (sendOk : Bool × Bool) : List Bytes × Connect ε :=
  match ai.complete P msg2 with
  | .error error => ([], .failed (.ike error))
  | .ok (msg3, phase1) =>
      if sendOk.1 then
        match openQuick P cfg phase1 entropy with
        | .error error => ([msg3], .failed (.ike error))
        | .ok (qm1, qi) => if sendOk.2 then ([msg3, qm1], .awaitQm2 phase1 qi) else ([msg3], .failed .io)
      else ([], .failed .io)

def completeQuick (P : Primitives) (phase1 : Phase1State) (qi : QuickInitiator) (qm2 : Bytes) (sendOk : Bool) :
    List Bytes × Connect ε :=
  match qi.complete P qm2 with
  | .error error => ([], .failed (.ike error))
  | .ok (qm3, child) => if sendOk then ([qm3], .connected phase1 child) else ([], .failed .io)

/-- A datagram that reaches the client, or none where the socket fails; it reads only while
it waits for one. -/
def receive [Entropy ε] (P : Primitives) (cfg : ConnectConfig) (self : Connect ε) (received : Option Bytes)
    (sendOk : Bool × Bool) : List Bytes × Connect ε :=
  match self with
  | .awaitMsg2 ai entropy =>
      match received with
      | some msg2 => completePhase1 P cfg ai msg2 entropy sendOk
      | none => ([], .failed .io)
  | .awaitQm2 phase1 qi =>
      match received with
      | some qm2 => completeQuick P phase1 qi qm2 sendOk.1
      | none => ([], .failed .io)
  | other => ([], other)

theorem completePhase1_cases [Entropy ε] (P : Primitives) (cfg : ConnectConfig) (ai : AggressiveInitiator)
    (msg2 : Bytes) (entropy : ε) (sendOk : Bool × Bool) :
    (∃ error, (completePhase1 P cfg ai msg2 entropy sendOk).2 = .failed error) ∨
      ∃ msg3 phase1 qm1 qi, ai.complete P msg2 = .ok (msg3, phase1) ∧
        openQuick P cfg phase1 entropy = .ok (qm1, qi) ∧
        completePhase1 P cfg ai msg2 entropy sendOk = ([msg3, qm1], .awaitQm2 phase1 qi) := by
  unfold completePhase1
  split
  next => exact .inl ⟨_, rfl⟩
  next msg3 phase1 completed =>
    split
    next =>
      split
      next => exact .inl ⟨_, rfl⟩
      next qm1 qi opened =>
        split
        next => exact .inr ⟨msg3, phase1, qm1, qi, completed, opened, rfl⟩
        next => exact .inl ⟨_, rfl⟩
    next => exact .inl ⟨_, rfl⟩

theorem completeQuick_cases (P : Primitives) (phase1 : Phase1State) (qi : QuickInitiator) (qm2 : Bytes)
    (sendOk : Bool) :
    (∃ error, (completeQuick P phase1 qi qm2 sendOk : List Bytes × Connect ε).2 = .failed error) ∨
      ∃ qm3 child, qi.complete P qm2 = .ok (qm3, child) ∧
        (completeQuick P phase1 qi qm2 sendOk : List Bytes × Connect ε) = ([qm3], .connected phase1 child) := by
  unfold completeQuick
  split
  next => exact .inl ⟨_, rfl⟩
  next qm3 child completed =>
    split
    next => exact .inr ⟨qm3, child, completed, rfl⟩
    next => exact .inl ⟨_, rfl⟩

end Connect

structure World (ε δ : Type) where
  client : Connect ε
  server : Server δ

/-- What can happen next. Nothing ties the bytes that reach an end to those that the other
one sent. -/
inductive NetAction where
  | connect (sendOk : Bool)
  | toClient (received : Option Bytes) (sendOk : Bool × Bool)
  | toServer (received : Option (Bytes × SocketAddr)) (sendOk : Bool)
  | takeChild (ckyI : Cookie)

def NetAction.received : NetAction → Option (Bytes × SocketAddr)
  | .toServer received _ => received
  | _ => none

namespace World

variable {ε δ : Type}

def machine [Entropy ε] [Entropy δ] (P : Primitives) (cfg : ConnectConfig) :
    Machine (World ε δ) NetAction (List Bytes) := fun self action =>
  match action with
  | .connect sendOk =>
      match self.client with
      | .idle entropy =>
          let (sent, client) := Connect.start P cfg entropy sendOk
          (sent, { self with client := client })
      | _ => ([], self)
  | .toClient received sendOk =>
      let (sent, client) := self.client.receive P cfg received sendOk
      (sent, { self with client := client })
  | .toServer received sendOk =>
      let outcome := self.server.handleOne P received sendOk
      ((outcome.sent.map Prod.fst).toList, { self with server := outcome.server })
  | .takeChild ckyI => ([], { self with server := (self.server.takeChild ckyI).2 })

def init (clientEntropy : ε) (serverEntropy : δ) (cfg : Phase1Config) : World ε δ :=
  ⟨.idle clientEntropy, .bind serverEntropy cfg⟩

end World

end Ryke.Ikev1
