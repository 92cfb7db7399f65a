import Mathlib.Data.List.Nodup
import Ryke.Ikev2.Server

/-! The packets sealed on the CHILD SAs that a server hands out. GCM needs every packet
under one key to have a nonce of its own; the counter of one SA provides that, and a
second SA with the same keys takes it away. -/

namespace Ryke.Ikev2
open Lib

/-- The AES-GCM key and nonce of a packet, and the IKE SA it was sealed for. -/
structure SealedUnder where
  ike : SpiPair
  key : Bytes
  nonce : Bytes
  deriving DecidableEq

structure DataPlane (ε : Type) where
  server : Server ε
  taken : List (SpiPair × ChildSa)

inductive Action where
  | receive (received : Option (Bytes × SocketAddr)) (sendOk : Bool)
  | takeChild (spiI spiR : UInt64)
  | seal_ (n : Nat) (inner : Bytes) (nextHeader : UInt8)

def Action.received : Action → Option (Bytes × SocketAddr)
  | .receive received _ => received
  | _ => none

def Action.sends : Action → Bool
  | .receive _ sendOk => sendOk
  | _ => false

namespace DataPlane

variable {ε : Type}

def machine [Entropy ε] (P : Primitives) : Machine (DataPlane ε) Action (Option SealedUnder) := fun self action =>
  match action with
  | .receive received sendOk => (none, { self with server := (self.server.handleOne P received sendOk).server })
  | .takeChild spiI spiR =>
      let (child, server) := self.server.takeChild spiI spiR
      match child with
      | some child => (none, ⟨server, self.taken ++ [((spiI, spiR), child)]⟩)
      | none => (none, ⟨server, self.taken⟩)
  | .seal_ n inner nextHeader =>
      match self.taken[n]? with
      | none => (none, self)
      | some (ike, child) =>
          let (packet, outbound) := child.outbound.seal_ P inner nextHeader
          let self := { self with taken := self.taken.set n (ike, { child with outbound := outbound }) }
          match packet with
          | .ok _ => (some ⟨ike, outbound.key, outbound.nonce outbound.iv⟩, self)
          | .error _ => (none, self)

def sealedIn (calls : List (Call (DataPlane ε) Action (Option SealedUnder))) : List SealedUnder :=
  calls.filterMap Call.output

/-- No `IKE_AUTH` is accepted and answered for an IKE SA whose child was already taken. -/
def Fresh [Entropy ε] (P : Primitives) (call : Call (DataPlane ε) Action (Option SealedUnder)) : Prop :=
  ∀ key ∈ call.before.server.acceptsAuth P call.input.received call.input.sends, key ∉ call.before.taken.map Prod.fst

instance [Entropy ε] (P : Primitives) (call : Call (DataPlane ε) Action (Option SealedUnder)) :
    Decidable (Fresh P call) :=
  Option.decidableForallMem _

def SealedOn (packet : SealedUnder) (entry : SpiPair × ChildSa) : Prop :=
  packet.ike = entry.1 ∧ packet.key = entry.2.outbound.key ∧
    ∃ seq : UInt32, seq.toNat ≤ entry.2.outbound.seq.toNat ∧
      packet.nonce = entry.2.outbound.salt ++ u64Bytes seq.toUInt64

/-- One child for each IKE SA, and every packet sealed on one of them. -/
structure Inv (packets : List SealedUnder) (state : DataPlane ε) : Prop where
  oneEach : (state.taken.map Prod.fst).Nodup
  gone : ∀ key ∈ state.taken.map Prod.fst, state.server.children.get key = none
  sealedOn : ∀ packet ∈ packets, ∃ entry ∈ state.taken, SealedOn packet entry
  distinct : packets.Nodup

theorem Inv.receive [Entropy ε] {packets : List SealedUnder} {self : DataPlane ε} (inv : Inv packets self) {P : Primitives}
    {received : Option (Bytes × SocketAddr)} {sendOk : Bool} {outcome : Outcome ε}
    (step : self.server.Step P received sendOk outcome)
    (fresh : ∀ key ∈ self.server.acceptsAuth P received sendOk, key ∉ self.taken.map Prod.fst) :
    Inv packets { self with server := outcome.server } := by
  refine ⟨inv.oneEach, fun key member => ?_, inv.sealedOn, inv.distinct⟩
  cases step with
  | quiet _ children _ _ => rw [children]; exact inv.gone key member
  | saInit _ _ _ _ _ _ _ _ children _ => rw [children]; exact inv.gone key member
  | auth _ _ _ own _ _ _ _ _ _ _ accepts _ _ _ _ children _ =>
    have other : key ≠ own := fun same => fresh own accepts (same ▸ member)
    rw [children, Table.get_insert_of_ne _ _ other]
    exact inv.gone key member

theorem Inv.takeNone {packets : List SealedUnder} {self : DataPlane ε} (inv : Inv packets self) (pair : SpiPair) :
    Inv packets ⟨{ self.server with children := self.server.children.remove pair }, self.taken⟩ := by
  refine ⟨inv.oneEach, fun key member => ?_, inv.sealedOn, inv.distinct⟩
  rw [Table.get_remove]
  split
  next => rfl
  next => exact inv.gone key member

theorem Inv.takeChild {packets : List SealedUnder} {self : DataPlane ε} (inv : Inv packets self)
    {pair : SpiPair} {child : ChildSa} (held : self.server.children.get pair = some child) :
    Inv packets ⟨{ self.server with children := self.server.children.remove pair },
      self.taken ++ [(pair, child)]⟩ := by
  have rest := inv.takeNone pair
  have first : pair ∉ self.taken.map Prod.fst := by
    intro member
    rw [inv.gone pair member] at held
    cases held
  refine ⟨?_, fun key member => ?_, fun packet sealed => ?_, inv.distinct⟩
  · rw [List.map_append, List.nodup_append]
    refine ⟨inv.oneEach, List.nodup_singleton _, fun key member other isOther => ?_⟩
    rw [List.map_cons, List.map_nil, List.mem_singleton] at isOther
    subst isOther
    exact fun same => first (same ▸ member)
  · rw [List.map_append, List.mem_append] at member
    rcases member with before | now
    · exact rest.gone key before
    · rw [List.map_cons, List.map_nil, List.mem_singleton] at now
      subst now
      exact Table.get_remove_self _ _
  · obtain ⟨entry, member, sealedOn⟩ := inv.sealedOn packet sealed
    exact ⟨entry, List.mem_append_left _ member, sealedOn⟩

section Seal

variable {self : DataPlane ε} {n : Nat} {ike : SpiPair} {child : ChildSa}

theorem map_fst_set (held : self.taken[n]? = some (ike, child)) (after : ChildSa) :
    (self.taken.set n (ike, after)).map Prod.fst = self.taken.map Prod.fst := by
  have same : (self.taken.map Prod.fst)[n]? = some ike := by
    rw [List.getElem?_map, held]
    rfl
  rw [List.map_set]
  apply List.ext_getElem?
  intro i
  rw [List.getElem?_set]
  split
  next here =>
    subst here
    rw [if_pos (List.getElem?_eq_some_iff.mp same).1, same]
  next => rfl

theorem mem_set_of_other (held : self.taken[n]? = some (ike, child)) (after : ChildSa) {entry : SpiPair × ChildSa}
    (member : entry ∈ self.taken) (other : entry.1 ≠ ike) : entry ∈ self.taken.set n (ike, after) := by
  obtain ⟨i, atI⟩ := List.mem_iff_getElem?.mp member
  have apart : n ≠ i := by
    rintro rfl
    rw [held] at atI
    cases atI
    exact other rfl
  exact List.mem_iff_getElem?.mpr ⟨i, by rw [List.getElem?_set_ne apart, atI]⟩

theorem Inv.advance {packets : List SealedUnder} (inv : Inv packets self)
    (held : self.taken[n]? = some (ike, child)) {after : ChildSa} (key : after.outbound.key = child.outbound.key)
    (salt : after.outbound.salt = child.outbound.salt)
    (later : child.outbound.seq.toNat ≤ after.outbound.seq.toNat) :
    Inv packets { self with taken := self.taken.set n (ike, after) } := by
  have member : (ike, child) ∈ self.taken := List.mem_of_getElem? held
  refine ⟨?_, ?_, fun packet sealed => ?_, inv.distinct⟩
  · rw [map_fst_set held]
    exact inv.oneEach
  · rw [map_fst_set held]
    exact inv.gone
  · obtain ⟨entry, inTaken, sameIke, sameKey, seq, passed, nonce⟩ := inv.sealedOn packet sealed
    by_cases own : entry.1 = ike
    · obtain rfl : entry = (ike, child) := List.inj_on_of_nodup_map inv.oneEach inTaken member own
      refine ⟨(ike, after), List.mem_set (List.getElem?_eq_some_iff.mp held).1 _, sameIke, ?_, seq,
        Nat.le_trans passed later, ?_⟩
      · rw [sameKey, key]
      · rw [nonce, salt]
    · exact ⟨entry, mem_set_of_other held after inTaken own, sameIke, sameKey, seq, passed, nonce⟩

theorem Inv.sealPacket {packets : List SealedUnder} (inv : Inv packets self)
    (held : self.taken[n]? = some (ike, child)) {after : ChildSa} (key : after.outbound.key = child.outbound.key)
    (salt : after.outbound.salt = child.outbound.salt)
    (later : child.outbound.seq.toNat < after.outbound.seq.toNat) :
    Inv (packets ++ [⟨ike, after.outbound.key, after.outbound.nonce after.outbound.iv⟩])
      { self with taken := self.taken.set n (ike, after) } := by
  have member : (ike, child) ∈ self.taken := List.mem_of_getElem? held
  have rest := inv.advance held key salt (Nat.le_of_lt later)
  refine ⟨rest.oneEach, rest.gone, fun packet sealed => ?_, ?_⟩
  · rcases List.mem_append.mp sealed with before | now
    · exact rest.sealedOn packet before
    · rw [List.mem_singleton] at now
      subst now
      exact ⟨(ike, after), List.mem_set (List.getElem?_eq_some_iff.mp held).1 _, rfl, rfl,
        after.outbound.seq, Nat.le_refl _, rfl⟩
  · refine List.nodup_append.mpr ⟨inv.distinct, List.nodup_singleton _, fun packet before other isOther => ?_⟩
    rw [List.mem_singleton] at isOther
    subst isOther
    rintro rfl
    obtain ⟨entry, inTaken, sameIke, -, seq, passed, nonce⟩ := inv.sealedOn _ before
    obtain rfl : entry = (ike, child) := List.inj_on_of_nodup_map inv.oneEach inTaken member sameIke.symm
    rw [← salt] at nonce
    have sameSeq := congrArg UInt64.toNat (u64Bytes_injective (List.append_cancel_left nonce))
    rw [UInt32.toNat_toUInt64, UInt32.toNat_toUInt64] at sameSeq
    dsimp only at passed
    omega

end Seal

theorem Inv.step [Entropy ε] {packets : List SealedUnder} {self : DataPlane ε} (inv : Inv packets self)
    (P : Primitives) (action : Action) (fresh : Fresh P ((machine P).call self action)) :
    Inv (packets ++ (machine P self action).1.toList) (machine P self action).2 := by
  cases action with
  | receive received sendOk =>
    rw [machine, Option.toList_none, List.append_nil]
    exact inv.receive (self.server.handleOne_step P received sendOk) fresh
  | takeChild spiI spiR =>
    cases held : self.server.children.get (spiI, spiR) with
    | none =>
      simp only [machine, Server.takeChild, held, Option.toList_none, List.append_nil]
      exact inv.takeNone (spiI, spiR)
    | some child =>
      simp only [machine, Server.takeChild, held, Option.toList_none, List.append_nil]
      exact inv.takeChild held
  | seal_ n inner nextHeader =>
    cases held : self.taken[n]? with
    | none =>
      simp only [machine, held, Option.toList_none, List.append_nil]
      exact inv
    | some entry =>
      obtain ⟨ike, child⟩ := entry
      obtain ⟨-, key, salt, atLeast, advances⟩ := child.outbound.seal_spec P inner nextHeader
      cases packet : (child.outbound.seal_ P inner nextHeader).1 with
      | error error =>
        simp only [machine, held, packet, Option.toList_none, List.append_nil]
        exact inv.advance held key salt atLeast
      | ok bytes =>
        rw [packet] at advances
        simp only [machine, held, packet, Option.toList_some]
        let after : ChildSa := { child with outbound := (child.outbound.seal_ P inner nextHeader).2 }
        have later : child.outbound.seq.toNat < after.outbound.seq.toNat := advances rfl
        exact inv.sealPacket held key salt later

/-- Where no `IKE_AUTH` is accepted again after its child was taken, no two packets of
an IKE SA share a key and a nonce. -/
theorem sealed_nodup_of_fresh [Entropy ε] (P : Primitives) (entropy : ε) (auth : AuthConfig)
    (actions : List Action)
    (fresh : ∀ call ∈ (machine P).calls ⟨Server.bind entropy auth, []⟩ actions, Fresh P call) :
    (sealedIn ((machine P).calls ⟨Server.bind entropy auth, []⟩ actions)).Nodup := by
  have inv := Machine.history (machine P) ⟨Server.bind entropy auth, []⟩
    (fun past state => (∀ call ∈ past, Fresh P call) → Inv (sealedIn past) state)
    (fun _ => ⟨List.nodup_nil, nofun, nofun, List.nodup_nil⟩)
    (by
      intro past state action holds fresh
      have before := holds fun call member => fresh call (List.mem_append_left _ member)
      have now := fresh _ (List.mem_append_right _ List.mem_cons_self)
      have step := before.step P action now
      have grows : sealedIn (past ++ [(machine P).call state action]) =
          sealedIn past ++ (machine P state action).1.toList := by
        rw [sealedIn, List.filterMap_append, List.filterMap_cons, Machine.call]
        cases (machine P state action).1 <;> rfl
      rw [grows]
      exact step)
    actions fresh
  exact inv.distinct

end DataPlane

namespace Toy
open Ryke.Toy

def server : Server Counter := .bind ⟨1⟩ serverConfig

def clientSa : CompletedSaInit :=
  let sent := (server.handleOne toy (some (saInitRequest, clientAddr)) true).sent
  (initiatorComplete toy initiatorSecret saInitRequest ((sent.map Prod.fst).getD [])).toOption.getD default

def clientAuth : Bytes :=
  (initiatorAuthRequest toy clientSa (.psk alice psk) 5 (.ofU64 1)).toOption.getD []

def oneChild : List Action :=
  [.receive (some (saInitRequest, clientAddr)) true, .receive (some (clientAuth, clientAddr)) true,
    .takeChild clientSa.spiI clientSa.spiR, .seal_ 0 [1] 4, .seal_ 0 [2] 4]

def replayed : List Action :=
  oneChild ++ [.receive (some (clientAuth, clientAddr)) true, .takeChild clientSa.spiI clientSa.spiR,
    .seal_ 1 [3] 4]

end Toy

namespace DataPlane

theorem sealed_nodup_of_fresh_one_child :
    (sealedIn ((machine toy).calls ⟨Server.bind (⟨1⟩ : Ryke.Toy.Counter) Toy.serverConfig, []⟩ Toy.oneChild)).length = 2 ∧
      (sealedIn ((machine toy).calls ⟨Server.bind (⟨1⟩ : Ryke.Toy.Counter) Toy.serverConfig, []⟩
        Toy.oneChild)).Nodup := by
  have fresh : ∀ call ∈ (machine toy).calls ⟨Server.bind (⟨1⟩ : Ryke.Toy.Counter) Toy.serverConfig, []⟩ Toy.oneChild,
      Fresh toy call := by
    decide +kernel
  have both : (sealedIn ((machine toy).calls ⟨Server.bind (⟨1⟩ : Ryke.Toy.Counter) Toy.serverConfig, []⟩
      Toy.oneChild)).length = 2 := by
    decide +kernel
  exact ⟨both, sealed_nodup_of_fresh toy (⟨1⟩ : Ryke.Toy.Counter) Toy.serverConfig Toy.oneChild fresh⟩

/-- A replayed `IKE_AUTH` gives the server a second child with the same keys and a
counter that starts over. -/
theorem sealed_twice_after_replay :
    ¬ (sealedIn ((machine toy).calls ⟨Server.bind (⟨1⟩ : Ryke.Toy.Counter) Toy.serverConfig, []⟩
      Toy.replayed)).Nodup := by
  decide +kernel

end DataPlane

end Ryke.Ikev2
