import Ryke.Esp
import Ryke.Ikev1.Phase1

/-! Quick Mode: an ESP CHILD SA negotiated under the SKEYIDs of Phase 1, both halves. -/

namespace Ryke.Ikev1
open Lib Crypto

def espKeymatLen : Nat := 36
def espAesGcm16 : UInt8 := 20

namespace esp_attr
def lifeType : UInt16 := 1
def lifeDuration : UInt16 := 2
def encapMode : UInt16 := 4
def keyLength : UInt16 := 6
end esp_attr

def encapTunnel : UInt16 := 1
def lifeSeconds : UInt16 := 1

def qmHeader (ckyI ckyR : Cookie) (msgid : UInt32) : IsakmpHeader where
  initCookie := ckyI
  respCookie := ckyR
  nextPayload := payload.none
  version := IsakmpHeader.version10
  exchangeType := exchange.quick
  flags := 0
  messageId := msgid
  length := 0

def espSa (spi : UInt32) : SaPayload where
  doi := ipsecDoi
  situation := sitIdentityOnly
  proposals := [{
    num := 1
    protocolId := protocol.esp
    spi := u32Bytes spi
    transforms := [{
      num := 1
      transformId := espAesGcm16
      attributes := [
        .ofShort esp_attr.encapMode encapTunnel,
        .ofShort esp_attr.lifeType lifeSeconds,
        .longU32 esp_attr.lifeDuration 3600,
        .ofShort esp_attr.keyLength 256] }] }]

def tsId (addr mask : Bytes) : Bytes :=
  { idType := id_type.ipv4AddrSubnet, protocol := 0, port := 0, data := addr ++ mask : Id }.toBytes

def peerEspSpi (ps : List Payload) : Result UInt32 := do
  let saP ← okOr (find ps payload.sa) (.missingPayload "SA")
  let sa ← SaPayload.parse saP.data
  let prop ← okOr sa.proposals.head? .noProposalChosen
  if prop.spi.length ≠ 4 then .error .noProposalChosen else .ok (u32At prop.spi 0)

def hash3 (P : Primitives) (prf : Prf) (skeyidA : Bytes) (msgid : UInt32) (ni nr : Bytes) : Bytes :=
  prf.mac P skeyidA ([0] ++ u32Bytes msgid ++ ni ++ nr)

def deriveChild (P : Primitives) (prf : Prf) (skeyidD ni nr : Bytes) (localSpi peerSpi : UInt32) :
    Result ChildSa := do
  let kmLocal := keymat P prf skeyidD protocol.esp (u32Bytes localSpi) ni nr espKeymatLen
  let kmPeer := keymat P prf skeyidD protocol.esp (u32Bytes peerSpi) ni nr espKeymatLen
  let outbound ← EspSa.new peerSpi kmPeer
  let inbound ← EspSa.new localSpi kmLocal
  .ok ⟨outbound, inbound⟩

theorem deriveChild_eq (P : Primitives) (prf : Prf) (skeyidD ni nr : Bytes) (localSpi peerSpi : UInt32) :
    deriveChild P prf skeyidD ni nr localSpi peerSpi = .ok
      ⟨.ofMaterial peerSpi (keymat P prf skeyidD protocol.esp (u32Bytes peerSpi) ni nr espKeymatLen) (keymat_length ..),
        .ofMaterial localSpi (keymat P prf skeyidD protocol.esp (u32Bytes localSpi) ni nr espKeymatLen)
          (keymat_length ..)⟩ := by
  have fits : ∀ spi : UInt32,
      (keymat P prf skeyidD protocol.esp (u32Bytes spi) ni nr espKeymatLen).length = 36 :=
    fun spi => keymat_length ..
  simp only [deriveChild, EspSa.new, dif_pos (fits _)]
  rfl

theorem deriveChild_isOk (P : Primitives) (prf : Prf) (skeyidD ni nr : Bytes) (localSpi peerSpi : UInt32) :
    (deriveChild P prf skeyidD ni nr localSpi peerSpi).isOk = true := by
  rw [deriveChild_eq]
  rfl

/-! ## Initiator -/

structure QuickInitiator where
  prf : Prf
  skeyidA : Bytes
  skeyidD : Bytes
  encKey : Bytes
  ckyI : Cookie
  ckyR : Cookie
  msgid : UInt32
  localSpi : UInt32
  ni : Bytes
  iv1 : Bytes
  deriving DecidableEq

/-- The traffic selectors are an address and a mask each. -/
def initiateQuick {ε : Type} [Entropy ε] (P : Primitives) (st : Phase1State) (entropy : ε)
    (tsLocal tsRemote : Bytes × Bytes) : Result (Bytes × QuickInitiator) × ε :=
  let (spiB, entropy) := Entropy.fill entropy 4
  let localSpi := u32At spiB 0
  let (midB, entropy) := Entropy.fill entropy 4
  let msgid := u32At midB 0 ||| 1
  let (ni, entropy) := Entropy.fill entropy 16
  let iv0 := phase2Iv P st.prf st.phase1Iv msgid aesBlock
  let after := [(payload.sa, (espSa localSpi).toBytes), (payload.nonce, ni),
    (payload.id, tsId tsLocal.1 tsLocal.2), (payload.id, tsId tsRemote.1 tsRemote.2)]
  let initiated : Result (Bytes × QuickInitiator) := do
    let (msg1, iv1) ← buildEncrypted P (qmHeader st.ckyI st.ckyR msgid) st.prf st.skeyidA st.encKey iv0 after
    .ok (msg1, ⟨st.prf, st.skeyidA, st.skeyidD, st.encKey, st.ckyI, st.ckyR, msgid, localSpi, ni, iv1⟩)
  (initiated, entropy)

def QuickInitiator.complete (P : Primitives) (self : QuickInitiator) (msg2 : Bytes) : Result (Bytes × ChildSa) := do
  let (_, ps, iv2) ← decryptPayloads P msg2 self.encKey self.iv1
  let nonceP ← okOr (find ps payload.nonce) (.missingPayload "NONCE")
  let nr := nonceP.data
  let peerSpi ← peerEspSpi ps
  let got ← okOr (find ps payload.hash) (.missingPayload "HASH")
  if got.data ≠ self.prf.mac P self.skeyidA (u32Bytes self.msgid ++ self.ni ++ afterHash ps) then .error .authFailed
  else
    let h3 := hash3 P self.prf self.skeyidA self.msgid self.ni nr
    let (msg3, _) ← encryptPayloads P (qmHeader self.ckyI self.ckyR self.msgid) self.encKey iv2 [(payload.hash, h3)]
    let child ← deriveChild P self.prf self.skeyidD self.ni nr self.localSpi peerSpi
    .ok (msg3, child)

def QuickInitiator.hashed (P : Primitives) (self : QuickInitiator) (ps : List Payload) : Bool :=
  (find ps payload.hash).any fun got =>
    got.data == self.prf.mac P self.skeyidA (u32Bytes self.msgid ++ self.ni ++ afterHash ps)

theorem QuickInitiator.complete_eq_ok {P : Primitives} {self : QuickInitiator} {msg2 msg3 : Bytes} {child : ChildSa}
    (completed : self.complete P msg2 = .ok (msg3, child)) :
    ∃ header ps iv2 nonceP peerSpi, decryptPayloads P msg2 self.encKey self.iv1 = .ok (header, ps, iv2) ∧
      find ps payload.nonce = some nonceP ∧ peerEspSpi ps = .ok peerSpi ∧ self.hashed P ps = true ∧
      deriveChild P self.prf self.skeyidD self.ni nonceP.data self.localSpi peerSpi = .ok child := by
  unfold complete at completed
  obtain ⟨⟨header, ps, iv2⟩, decrypted, completed⟩ := bind_eq_ok completed
  obtain ⟨nonceP, nonceFound, completed⟩ := bind_eq_ok completed
  obtain ⟨peerSpi, spiRead, completed⟩ := bind_eq_ok completed
  obtain ⟨got, hashFound, completed⟩ := bind_eq_ok completed
  obtain ⟨agrees, completed⟩ := guard_eq_ok completed
  have hashed : self.hashed P ps = true := by
    rw [hashed, okOr_eq_ok hashFound]
    exact beq_iff_eq.mpr (not_not.mp agrees)
  obtain ⟨⟨sent, last⟩, -, completed⟩ := bind_eq_ok completed
  obtain ⟨derived, isDerived, completed⟩ := bind_eq_ok completed
  cases completed
  exact ⟨header, ps, iv2, nonceP, peerSpi, decrypted, okOr_eq_ok nonceFound, spiRead, hashed, isDerived⟩

/-! ## Responder -/

structure QuickResponder where
  prf : Prf
  skeyidA : Bytes
  skeyidD : Bytes
  encKey : Bytes
  msgid : UInt32
  localSpi : UInt32
  peerSpi : UInt32
  ni : Bytes
  nr : Bytes
  iv2 : Bytes
  deriving DecidableEq

/-- Message 1 with its HASH(1) checked: the message ID, the payloads, the next IV, and
the nonce and SPI it carries. -/
def readQuick (P : Primitives) (st : Phase1State) (msg1 : Bytes) :
    Result (UInt32 × List Payload × Bytes × Bytes × UInt32) := do
  let hdr ← IsakmpHeader.parse msg1
  if hdr.exchangeType ≠ exchange.quick then .error (.crypto "not a Quick Mode message")
  else
    let msgid := hdr.messageId
    let iv0 := phase2Iv P st.prf st.phase1Iv msgid aesBlock
    let (_, ps, iv1) ← parseEncrypted P msg1 st.prf st.skeyidA st.encKey iv0
    let nonceP ← okOr (find ps payload.nonce) (.missingPayload "NONCE")
    let peerSpi ← peerEspSpi ps
    .ok (msgid, ps, iv1, nonceP.data, peerSpi)

def answerQuick (P : Primitives) (st : Phase1State) (msgid : UInt32) (ps : List Payload) (iv1 ni : Bytes)
    (peerSpi localSpi : UInt32) (nr : Bytes) : Result (Bytes × QuickResponder) := do
  let ids := (ps.filter fun p => p.payloadType == payload.id).map fun p => (payload.id, p.data)
  let after := [(payload.sa, (espSa localSpi).toBytes), (payload.nonce, nr)] ++ ids
  let (msg2, iv2) ←
    buildEncryptedPrefixed P (qmHeader st.ckyI st.ckyR msgid) st.prf st.skeyidA st.encKey iv1 ni after
  .ok (msg2, ⟨st.prf, st.skeyidA, st.skeyidD, st.encKey, msgid, localSpi, peerSpi, ni, nr, iv2⟩)

def respondQuick {ε : Type} [Entropy ε] (P : Primitives) (st : Phase1State) (msg1 : Bytes) (entropy : ε) :
    Result (Bytes × QuickResponder) × ε :=
  match readQuick P st msg1 with
  | .error error => (.error error, entropy)
  | .ok (msgid, ps, iv1, ni, peerSpi) =>
      let (spiB, entropy) := Entropy.fill entropy 4
      let (nr, entropy) := Entropy.fill entropy 16
      (answerQuick P st msgid ps iv1 ni peerSpi (u32At spiB 0) nr, entropy)

def QuickResponder.complete (P : Primitives) (self : QuickResponder) (msg3 : Bytes) : Result ChildSa := do
  let (_, ps, _) ← decryptPayloads P msg3 self.encKey self.iv2
  let got ← okOr (find ps payload.hash) (.missingPayload "HASH")
  if got.data ≠ hash3 P self.prf self.skeyidA self.msgid self.ni self.nr then .error .authFailed
  else deriveChild P self.prf self.skeyidD self.ni self.nr self.localSpi self.peerSpi

theorem QuickResponder.complete_eq_ok {P : Primitives} {self : QuickResponder} {msg3 : Bytes} {child : ChildSa}
    (completed : self.complete P msg3 = .ok child) :
    deriveChild P self.prf self.skeyidD self.ni self.nr self.localSpi self.peerSpi = .ok child := by
  unfold complete at completed
  obtain ⟨⟨header, ps, iv3⟩, -, completed⟩ := bind_eq_ok completed
  obtain ⟨got, -, completed⟩ := bind_eq_ok completed
  exact (guard_eq_ok completed).2

/-- A datagram decrypts to a payload chain whose HASH payload is this exchange's HASH(3). -/
def QuickResponder.carriesHash3 (P : Primitives) (self : QuickResponder) (msg3 : Bytes) : Bool :=
  match decryptPayloads P msg3 self.encKey self.iv2 with
  | .error _ => false
  | .ok (_, ps, _) =>
      (find ps payload.hash).map Payload.data = some (hash3 P self.prf self.skeyidA self.msgid self.ni self.nr)

theorem QuickResponder.complete_isOk (P : Primitives) (self : QuickResponder) (msg3 : Bytes) :
    (self.complete P msg3).isOk = self.carriesHash3 P msg3 := by
  unfold complete carriesHash3
  cases decryptPayloads P msg3 self.encKey self.iv2 with
  | error error => rfl
  | ok parts =>
    obtain ⟨header, ps, iv⟩ := parts
    rw [ok_bind]
    dsimp only
    cases find ps payload.hash with
    | none => rfl
    | some got =>
      rw [okOr_some, ok_bind]
      simp only [Option.map_some, Option.some.injEq]
      by_cases same : got.data = hash3 P self.prf self.skeyidA self.msgid self.ni self.nr
      · rw [if_neg (not_not.mpr same), deriveChild_isOk, decide_eq_true same]
      · rw [if_pos same, decide_eq_false same]
        rfl

end Ryke.Ikev1
