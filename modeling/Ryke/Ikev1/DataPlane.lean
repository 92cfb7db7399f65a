import Ryke.Ikev1.Network

/-! The packets sealed on the CHILD SAs that the IKEv1 server hands out. An exchange leaves
its session when its message 3 is read, and a child leaves the table when it is taken: so
the key of an exchange is never in two places, whatever is sent again. -/

namespace Ryke.Ikev1
open Lib Crypto

def QuickResponder.outboundKey (P : Primitives) (self : QuickResponder) : Bytes :=
  (keymat P self.prf self.skeyidD protocol.esp (u32Bytes self.peerSpi) self.ni self.nr espKeymatLen).take 32

theorem QuickResponder.complete_key {P : Primitives} {qr : QuickResponder} {data : Bytes} {child : ChildSa}
    (completed : qr.complete P data = .ok child) : child.outbound.key = qr.outboundKey P := by
  have derived := complete_eq_ok completed
  rw [deriveChild_eq] at derived
  rw [← Except.ok.inj derived]
  rfl

structure SealedUnder where
  key : Bytes
  nonce : Bytes
  deriving DecidableEq

structure DataPlane (ε : Type) where
  server : Server ε
  taken : List ChildSa

inductive PlaneAction where
  | receive (received : Option (Bytes × SocketAddr)) (sendOk : Bool)
  | takeChild (ckyI : Cookie)
  | seal_ (n : Nat) (inner : Bytes) (nextHeader : UInt8)

def PlaneAction.received : PlaneAction → Option (Bytes × SocketAddr)
  | .receive received _ => received
  | _ => none

/-- Where a key can be: with an exchange in progress, a child that is held or one taken. -/
inductive Place where
  | session (ckyI : Cookie)
  | held (ckyI : Cookie)
  | taken (n : Nat)

namespace DataPlane

variable {ε : Type}

def machine [Entropy ε] (P : Primitives) : Machine (DataPlane ε) PlaneAction (Option SealedUnder) := fun self action =>
  match action with
  | .receive received sendOk => (none, { self with server := (self.server.handleOne P received sendOk).server })
  | .takeChild ckyI =>
      let (child, server) := self.server.takeChild ckyI
      match child with
      | some child => (none, ⟨server, self.taken ++ [child]⟩)
      | none => (none, ⟨server, self.taken⟩)
  | .seal_ n inner nextHeader =>
      match self.taken[n]? with
      | none => (none, self)
      | some child =>
          let (packet, outbound) := child.outbound.seal_ P inner nextHeader
          let self := { self with taken := self.taken.set n { child with outbound := outbound } }
          match packet with
          | .ok _ => (some ⟨outbound.key, outbound.nonce outbound.iv⟩, self)
          | .error _ => (none, self)

def sealedIn (calls : List (Call (DataPlane ε) PlaneAction (Option SealedUnder))) : List SealedUnder :=
  calls.filterMap Call.output

def draws [Entropy ε] (P : Primitives) (call : Call (DataPlane ε) PlaneAction (Option SealedUnder)) :
    Option QuickResponder :=
  (call.before.server.answer P call.input.received).map Answered.qr

/-- KEYMAT gives no two exchanges one key to seal with, unless all it is computed from is
the same. -/
def KeymatNoCollision (P : Primitives) (drawn : List QuickResponder) : Prop :=
  ∀ one ∈ drawn, ∀ other ∈ drawn, one.outboundKey P = other.outboundKey P → one.keyInputs = other.keyInputs

instance (P : Primitives) (drawn : List QuickResponder) : Decidable (KeymatNoCollision P drawn) :=
  inferInstanceAs (Decidable (∀ one ∈ drawn, ∀ other ∈ drawn, _ = _ → _ = _))

theorem keys_nodup {P : Primitives} {drawn : List QuickResponder} (nonces : (drawn.map QuickResponder.nr).Nodup)
    (noCollision : KeymatNoCollision P drawn) : (drawn.map (QuickResponder.outboundKey P)).Nodup := by
  refine List.Nodup.map_on (fun one isOne other isOther same => ?_) nonces.of_map
  have inputs := noCollision one isOne other isOther same
  exact List.inj_on_of_nodup_map nonces isOne isOther (congrArg KeyInputs.nr inputs)

def keys (P : Primitives) (self : DataPlane ε) : Table Place Bytes
  | .session ckyI => ((self.server.sessions.get ckyI).bind Session.quick).map (QuickResponder.outboundKey P)
  | .held ckyI => (self.server.child ckyI).map fun child => child.outbound.key
  | .taken n => self.taken[n]?.map fun child => child.outbound.key

def SealedOn (packet : SealedUnder) (child : ChildSa) : Prop :=
  packet.key = child.outbound.key ∧
    ∃ seq : UInt32, seq.toNat ≤ child.outbound.seq.toNat ∧ packet.nonce = child.outbound.salt ++ u64Bytes seq.toUInt64

/-- One place for each key, and every packet sealed on a child that was taken. -/
structure Inv (P : Primitives) (drawn : List Bytes) (packets : List SealedUnder) (state : DataPlane ε) : Prop where
  known : ∀ place key, (state.keys P).get place = some key → key ∈ drawn
  apart : (state.keys P).Apart
  sealedOn : ∀ packet ∈ packets, ∃ (n : Nat) (child : ChildSa), state.taken[n]? = some child ∧ SealedOn packet child
  distinct : packets.Nodup

theorem Inv.of_kept {P : Primitives} {drawn more : List Bytes} {packets : List SealedUnder} {self : DataPlane ε}
    (inv : Inv P drawn packets self) (grows : ∀ key ∈ drawn, key ∈ more) {server : Server ε}
    (kept : ∀ place key, (keys P ⟨server, self.taken⟩).get place = some key → (self.keys P).get place = some key) :
    Inv P more packets ⟨server, self.taken⟩ :=
  ⟨fun place key isKey => grows key (inv.known place key (kept place key isKey)), inv.apart.mono kept, inv.sealedOn,
    inv.distinct⟩

section Receive

variable {P : Primitives} {drawn : List Bytes} {packets : List SealedUnder} {self : DataPlane ε}

theorem keys_idle {server : Server ε} {own : Cookie} {phase1 : Option Phase1State}
    (sessions : server.sessions = self.server.sessions.insert own ⟨phase1, none⟩)
    (children : server.children = self.server.children) (place : Place) (key : Bytes)
    (isKey : (keys P ⟨server, self.taken⟩).get place = some key) : (self.keys P).get place = some key := by
  cases place with
  | session ckyI =>
    change ((server.sessions.get ckyI).bind Session.quick).map _ = some key at isKey
    rw [sessions, Table.get_insert] at isKey
    split at isKey
    next => cases isKey
    next => exact isKey
  | held ckyI =>
    change (server.children.get ckyI).map _ = some key at isKey
    rw [children] at isKey
    exact isKey
  | taken n => exact isKey

theorem keys_same {server : Server ε} (sessions : server.sessions = self.server.sessions)
    (children : server.children = self.server.children) : keys P ⟨server, self.taken⟩ = self.keys P := by
  funext place
  cases place with
  | session ckyI => simp only [keys, sessions]
  | held ckyI => simp only [keys, Server.child, children]
  | taken n => rfl

theorem Inv.started (inv : Inv P drawn packets self) {server : Server ε} {own : Cookie} {phase1 : Option Phase1State}
    {qr : QuickResponder} (sessions : server.sessions = self.server.sessions.insert own ⟨phase1, some qr⟩)
    (children : server.children = self.server.children) (fresh : (drawn ++ [qr.outboundKey P]).Nodup) :
    Inv P (drawn ++ [qr.outboundKey P]) packets ⟨server, self.taken⟩ := by
  have here : (keys P ⟨server, self.taken⟩).get (.session own) = some (qr.outboundKey P) := by
    change ((server.sessions.get own).bind Session.quick).map _ = _
    rw [sessions, Table.get_insert_self]
    rfl
  have kept : ∀ place key, place ≠ .session own → (keys P ⟨server, self.taken⟩).get place = some key →
      (self.keys P).get place = some key := by
    intro place key other isKey
    cases place with
    | session ckyI =>
      have apart : ckyI ≠ own := fun same => other (congrArg Place.session same)
      change ((server.sessions.get ckyI).bind Session.quick).map _ = some key at isKey
      rw [sessions, Table.get_insert_of_ne _ _ apart] at isKey
      exact isKey
    | held ckyI =>
      change (server.children.get ckyI).map _ = some key at isKey
      rw [children] at isKey
      exact isKey
    | taken n => exact isKey
  have new : qr.outboundKey P ∉ drawn := by
    intro member
    exact (List.nodup_append.mp fresh).2.2 _ member _ List.mem_cons_self rfl
  refine ⟨?_, inv.apart.mint (fun place isKey => new (inv.known place _ isKey)) here kept, inv.sealedOn, inv.distinct⟩
  intro place key isKey
  classical
  by_cases same : place = .session own
  · rw [same, here] at isKey
    cases isKey
    exact List.mem_append_right _ List.mem_cons_self
  · exact List.mem_append_left _ (inv.known place key (kept place key same isKey))

def beforeCompleted (own : Cookie) : Place → Place
  | .held ckyI => if ckyI = own then .session own else .held ckyI
  | place => place

theorem Inv.completed (inv : Inv P drawn packets self) {server : Server ε} {own : Cookie} {st : Phase1State}
    {qr : QuickResponder} {child : ChildSa} (stored : self.server.sessions.get own = some ⟨some st, some qr⟩)
    (key : child.outbound.key = qr.outboundKey P)
    (sessions : server.sessions = self.server.sessions.insert own ⟨some st, none⟩)
    (children : server.children = self.server.children.insert own child) :
    Inv P drawn packets ⟨server, self.taken⟩ := by
  have gone : (keys P ⟨server, self.taken⟩).get (.session own) = none := by
    change ((server.sessions.get own).bind Session.quick).map _ = none
    rw [sessions, Table.get_insert_self]
    rfl
  have moved : ∀ place found, (keys P ⟨server, self.taken⟩).get place = some found →
      (self.keys P).get (beforeCompleted own place) = some found := by
    intro place found isKey
    cases place with
    | session ckyI =>
      change ((server.sessions.get ckyI).bind Session.quick).map _ = some found at isKey
      rw [sessions, Table.get_insert] at isKey
      split at isKey
      next => cases isKey
      next => exact isKey
    | held ckyI =>
      change (server.children.get ckyI).map _ = some found at isKey
      rw [children, Table.get_insert] at isKey
      split at isKey
      next same =>
        rw [beforeCompleted, if_pos same]
        change ((self.server.sessions.get own).bind Session.quick).map _ = some found
        rw [stored, ← Option.some.inj isKey]
        exact congrArg some key.symm
      next other =>
        rw [beforeCompleted, if_neg other]
        exact isKey
    | taken n => exact isKey
  refine ⟨fun place found isKey => inv.known _ found (moved place found isKey), inv.apart.move _ moved ?_, inv.sealedOn,
    inv.distinct⟩
  have present : ∀ ckyI, ((keys P ⟨server, self.taken⟩).get (.session ckyI)).isSome = true → ckyI ≠ own := by
    rintro ckyI isSome rfl
    rw [gone] at isSome
    cases isSome
  intro one other isOne isOther same
  cases one <;> cases other <;> simp only [beforeCompleted] at same <;> grind

theorem Inv.receive [Entropy ε] (inv : Inv P drawn packets self) (received : Option (Bytes × SocketAddr)) (sendOk : Bool)
    (fresh : (drawn ++ ((self.server.answer P received).map fun own => own.qr.outboundKey P).toList).Nodup) :
    Inv P (drawn ++ ((self.server.answer P received).map fun own => own.qr.outboundKey P).toList) packets
      { self with server := (self.server.handleOne P received sendOk).server } := by
  have grows : ∀ key ∈ drawn, key ∈ drawn ++ ((self.server.answer P received).map fun own => own.qr.outboundKey P).toList :=
    fun key member => List.mem_append_left _ member
  cases self.server.handleOne_step P received sendOk with
  | quiet sessions children _ =>
    refine inv.of_kept grows fun place key isKey => ?_
    rw [keys_same sessions children] at isKey
    exact isKey
  | verified _ _ _ sessions children _ =>
    refine inv.of_kept grows fun place key isKey => ?_
    rw [keys_same sessions children] at isKey
    exact isKey
  | offered _ _ sessions children _ => exact inv.of_kept grows (keys_idle sessions children)
  | dropped _ _ _ _ _ _ _ sessions children _ => exact inv.of_kept grows (keys_idle sessions children)
  | started own st data sender msg2 qr got starts _ responds sessions children _ =>
    subst got
    obtain ⟨ps, isAnswer⟩ := Server.answer_eq_some starts responds
    rw [isAnswer] at fresh ⊢
    exact inv.started sessions children fresh
  | completed own st qr data child _ stored completes sessions children _ =>
    have after := inv.completed stored (QuickResponder.complete_key completes) sessions children
    exact ⟨fun place key isKey => grows key (after.known place key isKey), after.apart, after.sealedOn, after.distinct⟩

end Receive

section Take

variable {P : Primitives} {drawn : List Bytes} {packets : List SealedUnder} {self : DataPlane ε}

theorem Inv.takeNone (inv : Inv P drawn packets self) (own : Cookie) :
    Inv P drawn packets ⟨(self.server.takeChild own).2, self.taken⟩ := by
  refine inv.of_kept (fun _ member => member) fun place key isKey => ?_
  cases place with
  | session ckyI => exact isKey
  | taken n => exact isKey
  | held ckyI =>
    change ((self.server.children.remove own).get ckyI).map _ = some key at isKey
    rw [Table.get_remove] at isKey
    split at isKey
    next => cases isKey
    next => exact isKey

def beforeTaken (own : Cookie) (n : Nat) : Place → Place
  | .taken m => if m = n then .held own else .taken m
  | place => place

theorem Inv.takeChild (inv : Inv P drawn packets self) {own : Cookie} {child : ChildSa}
    (held : self.server.children.get own = some child) :
    Inv P drawn packets ⟨(self.server.takeChild own).2, self.taken ++ [child]⟩ := by
  have gone : (keys P ⟨(self.server.takeChild own).2, self.taken ++ [child]⟩).get (.held own) = none := by
    change ((self.server.children.remove own).get own).map _ = none
    rw [Table.get_remove_self]
    rfl
  have moved : ∀ place found,
      (keys P ⟨(self.server.takeChild own).2, self.taken ++ [child]⟩).get place = some found →
      (self.keys P).get (beforeTaken own self.taken.length place) = some found := by
    intro place found isKey
    cases place with
    | session ckyI => exact isKey
    | held ckyI =>
      change ((self.server.children.remove own).get ckyI).map _ = some found at isKey
      rw [Table.get_remove] at isKey
      split at isKey
      next => cases isKey
      next => exact isKey
    | taken n =>
      change (self.taken ++ [child])[n]?.map _ = some found at isKey
      rcases Nat.lt_trichotomy n self.taken.length with before | rfl | after
      · rw [List.getElem?_append_left before] at isKey
        rw [beforeTaken, if_neg (Nat.ne_of_lt before)]
        exact isKey
      · rw [List.getElem?_concat_length] at isKey
        rw [beforeTaken, if_pos rfl]
        change (self.server.children.get own).map _ = some found
        rw [held]
        exact isKey
      · rw [List.getElem?_eq_none (by rw [List.length_append, List.length_singleton]; omega)] at isKey
        cases isKey
  refine ⟨fun place found isKey => inv.known _ found (moved place found isKey), inv.apart.move _ moved ?_,
    fun packet sealed => ?_, inv.distinct⟩
  · have present : ∀ ckyI,
        ((keys P ⟨(self.server.takeChild own).2, self.taken ++ [child]⟩).get (.held ckyI)).isSome = true → ckyI ≠ own := by
      rintro ckyI isSome rfl
      rw [gone] at isSome
      cases isSome
    intro one other isOne isOther same
    cases one <;> cases other <;> simp only [beforeTaken] at same <;> grind
  · obtain ⟨n, own, atN, sealedOn⟩ := inv.sealedOn packet sealed
    exact ⟨n, own, Machine.getElem?_append_of_some atN _, sealedOn⟩

end Take

section Seal

variable {P : Primitives} {drawn : List Bytes} {packets : List SealedUnder} {self : DataPlane ε} {n : Nat}
  {child after : ChildSa}

theorem keys_set (held : self.taken[n]? = some child) (key : after.outbound.key = child.outbound.key) :
    keys P { self with taken := self.taken.set n after } = self.keys P := by
  funext place
  cases place with
  | session ckyI => rfl
  | held ckyI => rfl
  | taken m =>
    simp only [keys, List.getElem?_set]
    split
    next same =>
      subst same
      rw [if_pos (List.getElem?_eq_some_iff.mp held).1, held, Option.map_some, Option.map_some, key]
    next => rfl

theorem SealedOn.advance {packet : SealedUnder} (sealedOn : SealedOn packet child)
    (key : after.outbound.key = child.outbound.key) (salt : after.outbound.salt = child.outbound.salt)
    (later : child.outbound.seq.toNat ≤ after.outbound.seq.toNat) : SealedOn packet after := by
  obtain ⟨sameKey, seq, passed, nonce⟩ := sealedOn
  exact ⟨sameKey.trans key.symm, seq, Nat.le_trans passed later, by rw [nonce, salt]⟩

theorem Inv.advance (inv : Inv P drawn packets self) (held : self.taken[n]? = some child)
    (key : after.outbound.key = child.outbound.key) (salt : after.outbound.salt = child.outbound.salt)
    (later : child.outbound.seq.toNat ≤ after.outbound.seq.toNat) :
    Inv P drawn packets { self with taken := self.taken.set n after } := by
  refine ⟨?_, ?_, fun packet sealed => ?_, inv.distinct⟩
  · rw [keys_set held key]
    exact inv.known
  · rw [keys_set held key]
    exact inv.apart
  · obtain ⟨m, own, atM, sealedOn⟩ := inv.sealedOn packet sealed
    by_cases same : n = m
    · subst same
      cases held.symm.trans atM
      refine ⟨n, after, ?_, sealedOn.advance key salt later⟩
      rw [List.getElem?_set_self (List.getElem?_eq_some_iff.mp held).1]
    · exact ⟨m, own, by rw [List.getElem?_set_ne same, atM], sealedOn⟩

theorem Inv.sealPacket (inv : Inv P drawn packets self) (held : self.taken[n]? = some child)
    (key : after.outbound.key = child.outbound.key) (salt : after.outbound.salt = child.outbound.salt)
    (later : child.outbound.seq.toNat < after.outbound.seq.toNat) :
    Inv P drawn (packets ++ [⟨after.outbound.key, after.outbound.nonce after.outbound.iv⟩])
      { self with taken := self.taken.set n after } := by
  have rest := inv.advance held key salt (Nat.le_of_lt later)
  refine ⟨rest.known, rest.apart, fun packet sealed => ?_, ?_⟩
  · rcases List.mem_append.mp sealed with before | now
    · exact rest.sealedOn packet before
    · rw [List.mem_singleton] at now
      subst now
      refine ⟨n, after, ?_, rfl, after.outbound.seq, Nat.le_refl _, rfl⟩
      rw [List.getElem?_set_self (List.getElem?_eq_some_iff.mp held).1]
  · refine List.nodup_append.mpr ⟨inv.distinct, List.nodup_singleton _, fun packet before other isOther => ?_⟩
    rw [List.mem_singleton] at isOther
    subst isOther
    rintro rfl
    obtain ⟨m, own, atM, sameKey, seq, passed, nonce⟩ := inv.sealedOn _ before
    have here : (self.keys P).get (.taken n) = some child.outbound.key := by
      change self.taken[n]?.map _ = _
      rw [held]
      rfl
    have there : (self.keys P).get (.taken m) = some child.outbound.key := by
      change self.taken[m]?.map _ = _
      rw [atM, ← key]
      exact congrArg some sameKey.symm
    cases inv.apart _ _ _ here there
    cases held.symm.trans atM
    rw [← salt] at nonce
    have sameSeq := congrArg UInt64.toNat (u64Bytes_injective (List.append_cancel_left nonce))
    rw [UInt32.toNat_toUInt64, UInt32.toNat_toUInt64] at sameSeq
    omega

end Seal

theorem Inv.step [Entropy ε] {P : Primitives} {drawn : List QuickResponder} {packets : List SealedUnder}
    {self : DataPlane ε} (inv : Inv P (drawn.map (QuickResponder.outboundKey P)) packets self) (action : PlaneAction)
    (fresh : ((drawn ++ (draws P ((machine P).call self action)).toList).map (QuickResponder.outboundKey P)).Nodup) :
    Inv P ((drawn ++ (draws P ((machine P).call self action)).toList).map (QuickResponder.outboundKey P))
      (packets ++ (machine P self action).1.toList) (machine P self action).2 := by
  cases action with
  | receive received sendOk =>
    have drawnNow : (draws P ((machine P).call self (.receive received sendOk))).toList.map (QuickResponder.outboundKey P) =
        ((self.server.answer P received).map fun own => own.qr.outboundKey P).toList := by
      change ((self.server.answer P received).map Answered.qr).toList.map _ = _
      cases self.server.answer P received <;> rfl
    rw [List.map_append, drawnNow] at fresh ⊢
    rw [machine, Option.toList_none, List.append_nil]
    exact inv.receive received sendOk fresh
  | takeChild own =>
    have quiet : draws P ((machine P).call self (.takeChild own)) = none := rfl
    rw [quiet, Option.toList_none, List.append_nil]
    cases held : self.server.children.get own with
    | none =>
      simp only [machine, Server.takeChild, held, Option.toList_none, List.append_nil]
      exact inv.takeNone own
    | some child =>
      simp only [machine, Server.takeChild, held, Option.toList_none, List.append_nil]
      exact inv.takeChild held
  | seal_ n inner nextHeader =>
    have quiet : draws P ((machine P).call self (.seal_ n inner nextHeader)) = none := rfl
    rw [quiet, Option.toList_none, List.append_nil]
    cases held : self.taken[n]? with
    | none =>
      simp only [machine, held, Option.toList_none, List.append_nil]
      exact inv
    | some child =>
      obtain ⟨-, key, salt, atLeast, advances⟩ := child.outbound.seal_spec P inner nextHeader
      let after : ChildSa := { child with outbound := (child.outbound.seal_ P inner nextHeader).2 }
      cases packet : (child.outbound.seal_ P inner nextHeader).1 with
      | error error =>
        simp only [machine, held, packet, Option.toList_none, List.append_nil]
        exact inv.advance held key salt atLeast
      | ok bytes =>
        rw [packet] at advances
        simp only [machine, held, packet, Option.toList_some]
        have later : child.outbound.seq.toNat < after.outbound.seq.toNat := advances rfl
        exact inv.sealPacket held key salt later

/-- Where the server draws a nonce of its own for every exchange, no two packets that it
seals share a key and a nonce, whatever it is sent and however often. -/
theorem sealed_nodup_of_nonces [Entropy ε] (P : Primitives) (entropy : ε) (cfg : Phase1Config) (actions : List PlaneAction)
    (nonces : ((((machine P).calls ⟨Server.bind entropy cfg, []⟩ actions).filterMap (draws P)).map
      QuickResponder.nr).Nodup)
    (noCollision : KeymatNoCollision P (((machine P).calls ⟨Server.bind entropy cfg, []⟩ actions).filterMap (draws P))) :
    (sealedIn ((machine P).calls ⟨Server.bind entropy cfg, []⟩ actions)).Nodup := by
  have grows : ∀ (past : List (Call (DataPlane ε) PlaneAction (Option SealedUnder))) call,
      (past ++ [call]).filterMap (draws P) = past.filterMap (draws P) ++ (draws P call).toList := by
    intro past call
    rw [List.filterMap_append, List.filterMap_cons]
    cases draws P call <;> rfl
  have inv := Machine.history_of (machine P) ⟨Server.bind entropy cfg, []⟩
    (fun calls => ((calls.filterMap (draws P)).map (QuickResponder.outboundKey P)).Nodup)
    (fun past call fresh => by
      rw [grows, List.map_append] at fresh
      exact (List.nodup_append.mp fresh).1)
    (fun past state => Inv P ((past.filterMap (draws P)).map (QuickResponder.outboundKey P)) (sealedIn past) state)
    (by
      refine ⟨?_, ?_, fun packet sealed => absurd sealed List.not_mem_nil, List.nodup_nil⟩
      · intro place key isKey
        cases place <;> cases isKey
      · intro one other key isOne
        cases one <;> cases isOne)
    (by
      intro past state action fresh before
      have sealedNow : sealedIn (past ++ [(machine P).call state action]) =
          sealedIn past ++ (machine P state action).1.toList := by
        rw [sealedIn, List.filterMap_append, List.filterMap_cons, Machine.call]
        cases (machine P state action).1 <;> rfl
      rw [grows] at fresh ⊢
      rw [sealedNow]
      exact before.step action fresh)
    (keys_nodup nonces noCollision)
  exact inv.distinct

end DataPlane

namespace Toy
open Ryke.Toy

def toPlane (message : Bytes) : PlaneAction := .receive (some (message, peerAddr)) true

/-- A handshake, its child taken and two packets sealed; then Quick Mode again, message by
message, and all that its child would be used for. -/
def repeated : List PlaneAction :=
  [offer.1, proof, quick1, quick3].map toPlane ++ [.takeChild (offer.1.take 8), .seal_ 0 [1] 4, .seal_ 0 [2] 4] ++
    [quick1, quick3].map toPlane ++ [.takeChild (offer.1.take 8), .seal_ 1 [1] 4]

end Toy

namespace DataPlane
open Ryke.Toy

theorem sealed_nodup_repeated :
    (sealedIn ((machine toyMac).calls ⟨Server.bind (⟨10⟩ : Counter) ⟨[112], Toy.ourId⟩, []⟩ Toy.repeated)).length = 2 ∧
      (sealedIn ((machine toyMac).calls ⟨Server.bind (⟨10⟩ : Counter) ⟨[112], Toy.ourId⟩, []⟩ Toy.repeated)).Nodup :=
  ⟨by decide +kernel, sealed_nodup_of_nonces toyMac (⟨10⟩ : Counter) ⟨[112], Toy.ourId⟩ Toy.repeated (by decide +kernel)
    (by decide +kernel)⟩

end DataPlane

end Ryke.Ikev1
