import Ryke.Ikev1.Selection
import Ryke.Ikev1.Server
import Ryke.Lib.Run

/-! Runs of the IKEv1 responder under any datagrams. A failed call should leave both
tables alone, and a CHILD SA should rest on a Phase 1 whose HASH_I was verified. Neither
is so: an exchange in progress is taken out before message 3 is read, and Quick Mode
starts on a Phase 1 that is still half-open. -/

namespace Ryke.Ikev1
open Lib

inductive Action where
  | receive (received : Option (Bytes × SocketAddr)) (sendOk : Bool)
  | takeChild (ckyI : Cookie)

def Action.received : Action → Option (Bytes × SocketAddr)
  | .receive received _ => received
  | .takeChild _ => none

/-- The action brings a message 1 for the cookie that can be agreed to, and its answer is taken. -/
def Action.Proposes (action : Action) (ckyI : Cookie) (msg1 : Bytes) : Prop :=
  ∃ sender header, action = .receive (some (msg1, sender)) true ∧ IsakmpHeader.parse msg1 = .ok header ∧
    header.initCookie = ckyI ∧ ∃ sa gxi t prf group, Agreeable msg1 sa gxi t prf group

theorem Action.Proposes.read {action : Action} {ckyI : Cookie} {msg1 : Bytes} (proposes : action.Proposes ckyI msg1) :
    ∃ received ∈ action.received, (readOffer received.1).isOk = true := by
  obtain ⟨sender, header, rfl, -, -, sa, gxi, t, prf, group, agreeable⟩ := proposes
  obtain ⟨ckyI, saiB, idiiB, ni, -, -, -, read⟩ :=
    agreeable.offers.settled agreeable.isFirst agreeable.acceptable agreeable.sized
  refine ⟨(msg1, sender), rfl, ?_⟩
  rw [read]
  rfl

abbrev Answer := Option (Except DriverError ServerEvent)

namespace Server

variable {ε : Type}

def machine [Entropy ε] (P : Primitives) : Machine (Server ε) Action Answer := fun self action =>
  match action with
  | .receive received sendOk =>
      let outcome := self.handleOne P received sendOk
      (some outcome.event, outcome.server)
  | .takeChild ckyI => (none, (self.takeChild ckyI).2)

/-! ## Where the entries come from -/

theorem get_of_insert_idle {sessions : Table Cookie Session} {own ckyI : Cookie} {phase1 : Option Phase1State}
    {session : Session} {qr : QuickResponder} (stored : (sessions.insert own ⟨phase1, none⟩).get ckyI = some session)
    (inProgress : session.quick = some qr) : sessions.get ckyI = some session := by
  rw [Table.get_insert] at stored
  split at stored
  next =>
    cases stored
    cases inProgress
  next => exact stored

theorem quick_origin [Entropy ε] {P : Primitives} {self : Server ε} {action : Action} {ckyI : Cookie}
    {session : Session} {qr : QuickResponder} (stored : (machine P self action).2.sessions.get ckyI = some session)
    (inProgress : session.quick = some qr) :
    self.sessions.get ckyI = some session ∨
      ∃ st data sender msg2, action.received = some (data, sender) ∧
        self.startsQuick P action.received = some (ckyI, st) ∧
        (respondQuick P st data self.entropy).1 = .ok (msg2, qr) := by
  cases action with
  | takeChild => exact .inl stored
  | receive received sendOk =>
    change (self.handleOne P received sendOk).server.sessions.get ckyI = some session at stored
    cases handleOne_step P self received sendOk with
    | quiet sessions _ _ => exact .inl (sessions ▸ stored)
    | offered _ _ sessions _ _ =>
      rw [sessions] at stored
      exact .inl (get_of_insert_idle stored inProgress)
    | verified _ _ _ sessions _ _ => exact .inl (sessions ▸ stored)
    | dropped _ _ _ _ _ _ _ sessions _ _ =>
      rw [sessions] at stored
      exact .inl (get_of_insert_idle stored inProgress)
    | completed _ _ _ _ _ _ _ _ sessions _ _ =>
      rw [sessions] at stored
      exact .inl (get_of_insert_idle stored inProgress)
    | started own st data sender msg2 _ got starts _ answered sessions _ _ =>
      rw [sessions, Table.get_insert] at stored
      split at stored
      next same =>
        cases stored
        cases inProgress
        subst same
        exact .inr ⟨st, data, sender, msg2, got, starts, answered⟩
      next => exact .inl stored

theorem child_origin [Entropy ε] {P : Primitives} {self : Server ε} {action : Action} {ckyI : Cookie}
    {child : ChildSa} (held : (machine P self action).2.child ckyI = some child) :
    self.child ckyI = some child ∨
      ∃ st qr data, self.sessions.get ckyI = some ⟨some st, some qr⟩ ∧ qr.complete P data = .ok child := by
  cases action with
  | takeChild own =>
    change (self.children.remove own).get ckyI = some child at held
    rw [Table.get_remove] at held
    split at held
    next => cases held
    next => exact .inl held
  | receive received sendOk =>
    change (self.handleOne P received sendOk).server.children.get ckyI = some child at held
    have before : (self.handleOne P received sendOk).server.children = self.children →
        self.child ckyI = some child := by
      intro children
      rw [Server.child, ← children]
      exact held
    cases handleOne_step P self received sendOk with
    | quiet _ children _ => exact .inl (before children)
    | offered _ _ _ children _ => exact .inl (before children)
    | verified _ _ _ _ children _ => exact .inl (before children)
    | started _ _ _ _ _ _ _ _ _ _ _ children _ => exact .inl (before children)
    | dropped _ _ _ _ _ _ _ _ children _ => exact .inl (before children)
    | completed own st qr data _ _ stored completes _ children _ =>
      rw [children, Table.get_insert] at held
      split at held
      next same =>
        cases held
        subst same
        exact .inr ⟨st, qr, data, stored, completes⟩
      next => exact .inl held

/-! ## Errors leave no trace -/

def Atomic (call : Call (Server ε) Action Answer) : Prop :=
  ∀ error, call.output = some (.error error) →
    call.after.sessions = call.before.sessions ∧ call.after.children = call.before.children

theorem call_atomic_iff [Entropy ε] (P : Primitives) (self : Server ε) (action : Action) :
    Atomic ((machine P).call self action) ↔ ¬ self.discards P action.received = true := by
  cases action with
  | takeChild ckyI =>
    constructor
    · intro _ drops
      cases drops
    · intro _ error failed
      cases failed
  | receive received sendOk =>
    constructor
    · intro atomic drops
      obtain ⟨⟨error, failed⟩, changed⟩ := handleOne_discards drops sendOk
      exact changed (atomic error (congrArg some failed)).1
    · intro keeps error failed
      exact handleOne_error keeps (Option.some.inj failed)

/-- In every run, a call is atomic unless a Quick-Mode datagram meets an exchange in
progress without the HASH(3) that would complete it. -/
theorem atomic_iff_not_discards [Entropy ε] (P : Primitives) (entropy : ε) (cfg : Phase1Config)
    (actions : List Action) (call : Call (Server ε) Action Answer)
    (isCall : call ∈ (machine P).calls (bind entropy cfg) actions) :
    Atomic call ↔ ¬ call.before.discards P call.input.received = true := by
  obtain ⟨past, action, rfl⟩ := Machine.mem_calls isCall
  exact call_atomic_iff P _ action

end Server

namespace Toy
open Ryke.Toy

def ourId : Id := ⟨id_type.ipv4Addr, 0, 0, [10, 0, 0, 1]⟩
def peerAddr : SocketAddr := ⟨.v4 ⟨10, 0, 0, 2⟩, 500⟩
def subnet : Bytes × Bytes := ([10, 0, 0, 0], [255, 0, 0, 0])

def start : Server Counter := .bind ⟨10⟩ ⟨[112], ourId⟩

def deliver (message : Bytes) : Action := .receive (some (message, peerAddr)) true

def answerTo (before : List Bytes) (message : Bytes) : Bytes :=
  let state := (Server.machine toy).final start (before.map deliver)
  ((state.handleOne toy (some (message, peerAddr)) true).sent.map Prod.fst).getD []

def offer : Bytes × AggressiveInitiator :=
  (initiateAggressive toy ⟨[112], ourId, .modp1024, false⟩ (⟨1⟩ : Counter)).1

def agreed : Result (Bytes × Phase1State) := offer.2.complete toy (answerTo [] offer.1)

def proof : Bytes := (agreed.toOption.map Prod.fst).getD []

def quick : Option (Bytes × QuickInitiator) := do
  let (_, st) ← agreed.toOption
  (initiateQuick toy st (⟨20⟩ : Counter) subnet subnet).1.toOption

def quick1 : Bytes := (quick.map Prod.fst).getD []

def quick3 : Bytes :=
  ((quick.bind fun (_, qi) => (qi.complete toy (answerTo [offer.1] quick1)).toOption).map Prod.fst).getD []

def bareQuick : Bytes := (qmHeader (offer.1.take 8) (List.replicate 8 0) 0).toBytes

def underWay : List Action := [offer.1, proof, quick1].map deliver

def inOrder : List Action := [offer.1, proof, quick1, quick3].map deliver

def skipping : List Action := [offer.1, quick1, quick3].map deliver

end Toy

namespace Server
open Ryke.Toy

/-- An empty datagram fails, and the exchange in progress goes on. -/
theorem atomic_empty_datagram :
    ((machine toy).call ((machine toy).final Toy.start Toy.underWay) (Toy.deliver [])).output =
        some (.error (.ike (.truncated 28 0))) ∧
      Atomic ((machine toy).call ((machine toy).final Toy.start Toy.underWay) (Toy.deliver [])) := by
  have isCall : (machine toy).call ((machine toy).final Toy.start Toy.underWay) (Toy.deliver []) ∈
      (machine toy).calls Toy.start (Toy.underWay ++ [Toy.deliver []]) := by
    rw [Machine.calls_append]
    exact List.mem_append_right _ List.mem_cons_self
  have criterion := atomic_iff_not_discards toy (⟨10⟩ : Counter) ⟨[112], Toy.ourId⟩ _ _ isCall
  dsimp only [Machine.call] at criterion
  exact ⟨rfl, criterion.mpr Bool.false_ne_true⟩

/-- A bare header fails, and takes the exchange in progress with it. -/
theorem not_atomic_bareQuick :
    ¬ ∀ call ∈ (machine toy).calls Toy.start (Toy.underWay ++ [Toy.deliver Toy.bareQuick]), Atomic call := by
  intro atomic
  rw [Machine.calls_append] at atomic
  have drops : ((machine toy).final Toy.start Toy.underWay).discards toy (some (Toy.bareQuick, Toy.peerAddr)) = true := by
    decide +kernel
  have last : Atomic ((machine toy).call ((machine toy).final Toy.start Toy.underWay) (Toy.deliver Toy.bareQuick)) :=
    atomic _ (List.mem_append_right _ List.mem_cons_self)
  exact (call_atomic_iff toy _ (Toy.deliver Toy.bareQuick)).mp last drops

/-! ## Phases in order -/

variable {ε : Type}

/-- Before call `k`, HASH_I was verified against the state that was stored for the cookie. -/
def VerifiedBefore (P : Primitives) (calls : List (Call (Server ε) Action Answer)) (k : Nat) (ckyI : Cookie)
    (st : Phase1State) : Prop :=
  ∃ j < k, ∃ call, calls[j]? = some call ∧ call.output = some (.ok .phase1Established) ∧
    call.before.verifiesHashI P call.input.received = some (ckyI, st)

def StartedBefore [Entropy ε] (P : Primitives) (calls : List (Call (Server ε) Action Answer)) (k : Nat)
    (ckyI : Cookie) (st : Phase1State) (qr : QuickResponder) : Prop :=
  ∃ i < k, ∃ call data sender msg2, calls[i]? = some call ∧ call.input.received = some (data, sender) ∧
    call.before.startsQuick P call.input.received = some (ckyI, st) ∧
    (respondQuick P st data call.before.entropy).1 = .ok (msg2, qr)

/-- Every CHILD SA comes from an exchange started on a Phase-1 state, whose SKEYID_d it
uses, and that very state had its HASH_I verified. -/
def PhaseOrdered [Entropy ε] (P : Primitives) (calls : List (Call (Server ε) Action Answer)) : Prop :=
  ∀ k call ckyI, calls[k]? = some call → call.output = some (.ok (.childSaEstablished ckyI)) →
    ∃ st qr data child, VerifiedBefore P calls k ckyI st ∧ StartedBefore P calls k ckyI st qr ∧
      qr.skeyidD = st.skeyidD ∧ call.before.continuesQuick call.input.received = some (ckyI, qr, data) ∧
      qr.complete P data = .ok child ∧ call.after.children.get ckyI = some child

/-- No Quick Mode is started on a Phase-1 state before its HASH_I is verified. -/
def HashIFirst (P : Primitives) (calls : List (Call (Server ε) Action Answer)) : Prop :=
  ∀ k (inside : k < calls.length), ∀ pair ∈ calls[k].before.startsQuick P calls[k].input.received,
    ∃ earlier ∈ calls.take k, earlier.before.verifiesHashI P earlier.input.received = some pair

instance (P : Primitives) (calls : List (Call (Server ε) Action Answer)) : Decidable (HashIFirst P calls) :=
  inferInstanceAs (Decidable (∀ k (_ : k < calls.length), ∀ pair ∈ _, ∃ earlier ∈ _, _ = some pair))

theorem handleOne_verifies [Entropy ε] {P : Primitives} {self : Server ε} {received : Option (Bytes × SocketAddr)}
    {pair : Cookie × Phase1State} (verifies : self.verifiesHashI P received = some pair) (sendOk : Bool) :
    (self.handleOne P received sendOk).event = .ok .phase1Established := by
  unfold verifiesHashI at verifies
  obtain ⟨⟨hdr, data⟩, found, reads⟩ := Option.bind_eq_some_iff.mp verifies
  obtain ⟨ps, read, finds⟩ := Option.bind_eq_some_iff.mp reads
  obtain ⟨st, stored, accepts⟩ := Option.bind_eq_some_iff.mp finds
  obtain ⟨sender, rfl, parsed, kind⟩ := headed_eq_some found
  split at accepts
  next all =>
    obtain ⟨noSa, hash, accepted⟩ := all
    obtain ⟨⟨⟩, accepted⟩ := exists_of_isOk accepted
    have chain : parsePayloads hdr.nextPayload (data.drop IsakmpHeader.len) = .ok ps := by
      cases result : parsePayloads hdr.nextPayload (data.drop IsakmpHeader.len) with
      | error error => rw [result] at read; cases read
      | ok chain => rw [result] at read; cases read; rfl
    simp only [handleOne, parsed, if_pos kind, handleAggressive, chain, if_neg noSa, if_pos hash, handleHashI, stored,
      accepted]
  next => cases accepts

theorem call_verifies [Entropy ε] {P : Primitives} {self : Server ε} {action : Action} {pair : Cookie × Phase1State}
    (verifies : self.verifiesHashI P action.received = some pair) :
    ((machine P).call self action).output = some (.ok .phase1Established) := by
  cases action with
  | takeChild ckyI => cases verifies
  | receive received sendOk => exact congrArg some (handleOne_verifies verifies sendOk)

theorem skeyidD_of_respondQuick [Entropy ε] {P : Primitives} {st : Phase1State} {data : Bytes} {entropy : ε}
    {msg2 : Bytes} {qr : QuickResponder} (answered : (respondQuick P st data entropy).1 = .ok (msg2, qr)) :
    qr.skeyidD = st.skeyidD := by
  unfold respondQuick at answered
  split at answered
  next => cases answered
  next msgid ps iv1 ni peerSpi _ =>
    obtain ⟨built, -, same⟩ := bind_eq_ok answered
    cases same
    rfl

theorem StartedBefore.mono [Entropy ε] {P : Primitives} {past : List (Call (Server ε) Action Answer)} {k l : Nat}
    {ckyI : Cookie} {st : Phase1State} {qr : QuickResponder} (longer : k ≤ l)
    (more : List (Call (Server ε) Action Answer)) (started : StartedBefore P past k ckyI st qr) :
    StartedBefore P (past ++ more) l ckyI st qr := by
  obtain ⟨i, before, call, data, sender, msg2, found, rest⟩ := started
  exact ⟨i, by omega, call, data, sender, msg2, Machine.getElem?_append_of_some found more, rest⟩

def Evidence [Entropy ε] (P : Primitives) (past : List (Call (Server ε) Action Answer)) (state : Server ε) : Prop :=
  ∀ ckyI session qr, state.sessions.get ckyI = some session → session.quick = some qr →
    ∃ st, StartedBefore P past past.length ckyI st qr

theorem Evidence.step [Entropy ε] {P : Primitives} {past : List (Call (Server ε) Action Answer)} {self : Server ε}
    (evidence : Evidence P past self) (action : Action) :
    Evidence P (past ++ [(machine P).call self action]) (machine P self action).2 := by
  intro ckyI session qr stored inProgress
  rcases quick_origin stored inProgress with before | ⟨st, data, sender, msg2, got, starts, answered⟩
  · obtain ⟨st, started⟩ := evidence ckyI session qr before inProgress
    exact ⟨st, started.mono (by simp) _⟩
  · exact ⟨st, past.length, by simp, _, data, sender, msg2, List.getElem?_concat_length, got, starts, answered⟩

theorem call_established [Entropy ε] {P : Primitives} {self : Server ε} {action : Action} {ckyI : Cookie}
    (established : ((machine P).call self action).output = some (.ok (.childSaEstablished ckyI))) :
    ∃ st qr data child, self.sessions.get ckyI = some ⟨some st, some qr⟩ ∧
      self.continuesQuick action.received = some (ckyI, qr, data) ∧ qr.complete P data = .ok child ∧
      ((machine P).call self action).after.children.get ckyI = some child := by
  cases action with
  | takeChild => cases established
  | receive received sendOk =>
    have done : (self.handleOne P received sendOk).event = .ok (.childSaEstablished ckyI) :=
      Option.some.inj established
    cases handleOne_step P self received sendOk with
    | quiet _ _ idle =>
      rcases idle with ignored | ⟨error, failed⟩
      · rw [ignored] at done; cases done
      · rw [failed] at done; cases done
    | offered _ _ _ _ event => rw [event] at done; cases done
    | verified _ _ _ _ _ event => rw [event] at done; cases done
    | started _ _ _ _ _ _ _ _ _ _ _ _ event => rw [event] at done; cases done
    | dropped _ _ _ _ _ _ _ _ _ event =>
      obtain ⟨error, failed⟩ := event
      rw [failed] at done
      cases done
    | completed own st qr data child continues stored completes _ children event =>
      rw [event] at done
      cases done
      refine ⟨st, qr, data, child, stored, continues, completes, ?_⟩
      change (self.handleOne P received sendOk).server.children.get ckyI = some child
      rw [children, Table.get_insert_self]

/-- In every run that starts no Quick Mode before the HASH_I of its Phase 1, every CHILD SA
rests on a verified Phase 1. -/
theorem phaseOrdered_of_hashIFirst [Entropy ε] (P : Primitives) (entropy : ε) (cfg : Phase1Config)
    (actions : List Action) (first : HashIFirst P ((machine P).calls (bind entropy cfg) actions)) :
    PhaseOrdered P ((machine P).calls (bind entropy cfg) actions) := by
  intro k call ckyI isCall established
  obtain ⟨action, rfl⟩ := Machine.calls_getElem? isCall
  have evidence := Machine.history (machine P) (bind entropy cfg) (Evidence P) nofun
    (fun past self action evidence => evidence.step action) (actions.take k)
  rw [← Machine.calls_take] at evidence
  obtain ⟨phase1, qr, data, child, stored, continues, completes, held⟩ := call_established established
  obtain ⟨st, started⟩ := evidence ckyI _ qr stored rfl
  have started := started.mono (List.length_take_le k _) (((machine P).calls (bind entropy cfg) actions).drop k)
  rw [List.take_append_drop] at started
  refine ⟨st, qr, data, child, ?_, started, ?_, continues, completes, held⟩
  · obtain ⟨i, before, start, _, _, _, atI, _, starts, _⟩ := started
    obtain ⟨inside, isStart⟩ := List.getElem?_eq_some_iff.mp atI
    obtain ⟨earlier, member, verifies⟩ := first i inside (ckyI, st) (by rw [isStart]; exact starts)
    obtain ⟨j, sooner, atJ⟩ := Machine.getElem?_of_mem_take member
    obtain ⟨_, rfl⟩ := Machine.calls_getElem? atJ
    exact ⟨j, Nat.lt_trans sooner before, _, atJ, call_verifies verifies, verifies⟩
  · obtain ⟨_, _, _, _, _, _, _, _, _, answered⟩ := started
    exact skeyidD_of_respondQuick answered

theorem phaseOrdered_of_hashIFirst_in_order :
    HashIFirst toy ((machine toy).calls Toy.start Toy.inOrder) ∧
      ((machine toy).calls Toy.start Toy.inOrder).map Call.output = [some (.ok .phase1SaInit),
        some (.ok .phase1Established), some (.ok .quickSaInit),
        some (.ok (.childSaEstablished [0, 0, 0, 0, 0, 0, 0, 1]))] ∧
      PhaseOrdered toy ((machine toy).calls Toy.start Toy.inOrder) := by
  have first : HashIFirst toy ((machine toy).calls Toy.start Toy.inOrder) := by decide +kernel
  refine ⟨first, by decide +kernel, ?_⟩
  exact phaseOrdered_of_hashIFirst toy (⟨10⟩ : Counter) ⟨[112], Toy.ourId⟩ _ first

theorem PhaseOrdered.answers [Entropy ε] {P : Primitives} {calls : List (Call (Server ε) Action Answer)}
    (ordered : PhaseOrdered P calls) {k : Nat} {ckyI : Cookie}
    (established : (calls.map Call.output)[k]? = some (some (.ok (.childSaEstablished ckyI)))) :
    some (.ok .phase1Established) ∈ calls.map Call.output := by
  rw [List.getElem?_map, Option.map_eq_some_iff] at established
  obtain ⟨call, isCall, answer⟩ := established
  obtain ⟨_, _, _, _, ⟨j, _, verified, atJ, accepted, _⟩, _⟩ := ordered k call ckyI isCall answer
  exact List.mem_map.mpr ⟨verified, List.mem_of_getElem? atJ, accepted⟩

/-- An initiator that skips HASH_I and goes on to Quick Mode gets its CHILD SA. -/
theorem not_phaseOrdered_skipping : ¬ PhaseOrdered toy ((machine toy).calls Toy.start Toy.skipping) := by
  intro ordered
  have answers : ((machine toy).calls Toy.start Toy.skipping).map Call.output = [some (.ok .phase1SaInit),
      some (.ok .quickSaInit), some (.ok (.childSaEstablished [0, 0, 0, 0, 0, 0, 0, 1]))] := by
    decide +kernel
  have child : (((machine toy).calls Toy.start Toy.skipping).map Call.output)[2]? =
      some (some (.ok (.childSaEstablished [0, 0, 0, 0, 0, 0, 0, 1]))) := by
    rw [answers]
    rfl
  have verified := ordered.answers child
  rw [answers] at verified
  exact absurd verified (by decide)

/-! ## Established sessions -/

/-- Once HASH_I was verified against a session, an Aggressive-Mode datagram without a HASH
that verifies under it changes neither its Phase-1 state nor its Quick Mode. -/
def Undisplaced (P : Primitives) (calls : List (Call (Server ε) Action Answer)) : Prop :=
  ∀ k call ckyI st hdr data, calls[k]? = some call → VerifiedBefore P calls k ckyI st →
    headed exchange.aggressive call.input.received = some (hdr, data) → ¬ (st.verifyHashI P data).isOk = true →
    call.after.sessions.get ckyI = call.before.sessions.get ckyI

/-- Once HASH_I was verified against a session, no message 1 that can be agreed to comes for
its cookie, unless it carries a HASH that verifies under it. -/
def NoReoffer (P : Primitives) (calls : List (Call (Server ε) Action Answer)) : Prop :=
  ∀ k call ckyI st msg1, calls[k]? = some call → VerifiedBefore P calls k ckyI st →
    call.input.Proposes ckyI msg1 → (st.verifyHashI P msg1).isOk = true

theorem handleOffer_other [Entropy ε] (P : Primitives) (self : Server ε) {ckyI other : Cookie} {data : Bytes}
    (sender : SocketAddr) {sendOk : Bool}
    (unanswered : other = ckyI → ¬ ((respondAggressive P self.cfg data self.entropy).1.isOk = true ∧ sendOk = true)) :
    (self.handleOffer P ckyI data sender sendOk).server.sessions.get other = self.sessions.get other := by
  unfold handleOffer
  dsimp only
  split
  next => rfl
  next msg2 st answered =>
    by_cases sends : sendOk = true
    · rw [if_pos sends]
      apply Table.get_insert_of_ne
      intro same
      apply unanswered same
      rw [answered]
      exact ⟨rfl, sends⟩
    · rw [if_neg sends]

theorem handleHashI_server (P : Primitives) (self : Server ε) (ckyI : Cookie) (data : Bytes) :
    (self.handleHashI P ckyI data).server = self := by
  unfold handleHashI
  split
  next => rfl
  next => split <;> rfl

/-- An Aggressive-Mode datagram only touches the session whose message 1 it is. -/
theorem aggressive_keeps [Entropy ε] {P : Primitives} {self : Server ε} {action : Action} {hdr : IsakmpHeader}
    {data : Bytes} (found : headed exchange.aggressive action.received = some (hdr, data)) {ckyI : Cookie}
    (unoffered : ¬ action.Proposes ckyI data) :
    (machine P self action).2.sessions.get ckyI = self.sessions.get ckyI := by
  cases action with
  | takeChild other => rfl
  | receive received sendOk =>
    obtain ⟨sender, rfl, parsed, kind⟩ := headed_eq_some found
    change (self.handleOne P (some (data, sender)) sendOk).server.sessions.get ckyI = _
    simp only [handleOne, parsed, if_pos kind, handleAggressive]
    split
    next => rfl
    next ps chain =>
      by_cases sa : has ps payload.sa = true
      · rw [if_pos sa]
        apply handleOffer_other P self sender
        rintro rfl ⟨isOk, rfl⟩
        obtain ⟨answer, answered⟩ := exists_of_isOk isOk
        exact unoffered ⟨sender, hdr, rfl, parsed, rfl, agreeable_of_answered P self.entropy answered⟩
      · rw [if_neg sa]
        split
        next => rw [handleHashI_server]
        next => rfl

/-- In every run without a message 1 to agree to for the cookie of an established session, such
a session stays as it is under Aggressive-Mode datagrams that do not authenticate. -/
theorem undisplaced_of_noReoffer [Entropy ε] (P : Primitives) (entropy : ε) (cfg : Phase1Config)
    (actions : List Action) (absent : NoReoffer P ((machine P).calls (bind entropy cfg) actions)) :
    Undisplaced P ((machine P).calls (bind entropy cfg) actions) := by
  intro k call ckyI st hdr data isCall verified found unverified
  obtain ⟨action, rfl⟩ := Machine.calls_getElem? isCall
  apply aggressive_keeps found
  intro proposes
  exact unverified (absent k _ ckyI st data isCall verified proposes)

end Server

namespace Toy
open Ryke.Toy

def bareAggressive : Bytes := (aggressiveHeader (offer.1.take 8) (List.replicate 8 0)).toBytes

def reoffered : List Action := underWay ++ [deliver offer.1]

end Toy

namespace Server
open Ryke.Toy

/-- Quick Mode goes on after a bare header for the established session. -/
theorem undisplaced_bareAggressive :
    NoReoffer toy ((machine toy).calls Toy.start (Toy.underWay ++ [Toy.deliver Toy.bareAggressive])) ∧
      Undisplaced toy ((machine toy).calls Toy.start (Toy.underWay ++ [Toy.deliver Toy.bareAggressive])) := by
  have absent : NoReoffer toy ((machine toy).calls Toy.start (Toy.underWay ++ [Toy.deliver Toy.bareAggressive])) := by
    have later : ∀ call ∈ ((machine toy).calls Toy.start (Toy.underWay ++ [Toy.deliver Toy.bareAggressive])).drop 1,
        ∀ received ∈ call.input.received, ¬ (readOffer received.1).isOk = true := by
      decide +kernel
    intro k call ckyI st msg1 isCall verified proposes
    obtain ⟨j, sooner, -⟩ := verified
    have member : call ∈ ((machine toy).calls Toy.start (Toy.underWay ++ [Toy.deliver Toy.bareAggressive])).drop 1 := by
      apply List.mem_of_getElem? (i := k - 1)
      rw [List.getElem?_drop, Nat.add_sub_cancel' (Nat.one_le_of_lt sooner)]
      exact isCall
    obtain ⟨received, isReceived, read⟩ := proposes.read
    exact absurd read (later call member received isReceived)
  exact ⟨absent, undisplaced_of_noReoffer toy (⟨10⟩ : Counter) ⟨[112], Toy.ourId⟩ _ absent⟩

/-- Message 1 sent again takes the Quick Mode in progress with it. -/
theorem not_undisplaced_reoffered : ¬ Undisplaced toy ((machine toy).calls Toy.start Toy.reoffered) := by
  intro undisplaced
  let half := (machine toy).final Toy.start [Toy.deliver Toy.offer.1]
  let full := (machine toy).final Toy.start Toy.underWay
  have accepted : ((machine toy).call half (Toy.deliver Toy.proof)).output = some (.ok .phase1Established) := by
    decide +kernel
  have some_pair : (half.verifiesHashI toy (some (Toy.proof, Toy.peerAddr))).isSome = true := by decide +kernel
  obtain ⟨⟨ckyI, st⟩, verifies⟩ := Option.isSome_iff_exists.mp some_pair
  have lacks : ∀ pair ∈ half.verifiesHashI toy (some (Toy.proof, Toy.peerAddr)),
      ¬ (pair.2.verifyHashI toy Toy.offer.1).isOk = true ∧
        (machine toy full (Toy.deliver Toy.offer.1)).2.sessions.get pair.1 ≠ full.sessions.get pair.1 := by
    decide +kernel
  obtain ⟨unverified, changed⟩ := lacks (ckyI, st) verifies
  have verified : VerifiedBefore toy ((machine toy).calls Toy.start Toy.reoffered) 3 ckyI st := by
    refine ⟨1, by decide, (machine toy).call half (Toy.deliver Toy.proof), rfl, accepted, ?_⟩
    dsimp only [Machine.call, Toy.deliver, Action.received]
    exact verifies
  have aggressive : (headed exchange.aggressive (some (Toy.offer.1, Toy.peerAddr))).isSome = true := by decide +kernel
  obtain ⟨⟨hdr, data⟩, found⟩ := Option.isSome_iff_exists.mp aggressive
  obtain ⟨sender, got, -⟩ := headed_eq_some found
  have own : Toy.offer.1 = data := (Prod.mk.inj (Option.some.inj got)).1
  rw [own] at unverified
  have same := undisplaced 3 ((machine toy).call full (Toy.deliver Toy.offer.1)) ckyI st hdr data rfl verified
  dsimp only [Machine.call, Toy.deliver, Action.received] at same changed
  exact changed (same found unverified)

end Server

end Ryke.Ikev1
