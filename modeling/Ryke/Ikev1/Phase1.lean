import Ryke.Ikev1.Crypto1

/-! Phase 1 in Aggressive Mode with a pre-shared key, both halves. -/

namespace Ryke.Ikev1
open Lib Crypto

def xauthVendorId : Bytes := [0x09, 0x00, 0x26, 0x89, 0xdf, 0xd6, 0xb7, 0x12]

def isXauthAuth (method : UInt16) : Bool := 65001 ≤ method && method ≤ 65010

structure Phase1Config where
  psk : Bytes
  ourId : Id
  deriving DecidableEq, Repr

/-- Everything Phase 1 establishes. `saiB` and `idiiB` are kept for HASH_I alone. -/
structure Phase1State where
  prf : Prf
  group : DhGroup
  ckyI : Cookie
  ckyR : Cookie
  skeyid : Bytes
  skeyidD : Bytes
  skeyidA : Bytes
  skeyidE : Bytes
  encKey : Bytes
  phase1Iv : Bytes
  gxi : Bytes
  gxr : Bytes
  ni : Bytes
  nr : Bytes
  saiB : Bytes
  idiiB : Bytes
  deriving DecidableEq

/-- The key schedule, the same computation at both ends. -/
def derivePhase1 (P : Primitives) (prf : Prf) (group : DhGroup) (psk : Bytes) (ckyI ckyR : Cookie)
    (gxy gxi gxr ni nr saiB idiiB : Bytes) (keyLen : Nat) : Phase1State :=
  let skeyid := skeyidPsk P prf psk ni nr
  let skeyidD := skeyidD P prf skeyid gxy ckyI ckyR
  let skeyidA := skeyidA P prf skeyid skeyidD gxy ckyI ckyR
  let skeyidE := skeyidE P prf skeyid skeyidA gxy ckyI ckyR
  { prf, group, ckyI, ckyR, skeyid, skeyidD, skeyidA, skeyidE
    encKey := deriveCipherKey P prf skeyidE keyLen
    phase1Iv := phase1Iv P prf gxi gxr aesBlock
    gxi, gxr, ni, nr, saiB, idiiB }

theorem derivePhase1_sizes (P : Primitives) (prf : Prf) (group : DhGroup) (psk : Bytes) (ckyI ckyR : Cookie)
    (gxy gxi gxr ni nr saiB idiiB : Bytes) (keyLen : Nat) :
    (derivePhase1 P prf group psk ckyI ckyR gxy gxi gxr ni nr saiB idiiB keyLen).encKey.length = keyLen ∧
      (derivePhase1 P prf group psk ckyI ckyR gxy gxi gxr ni nr saiB idiiB keyLen).phase1Iv.length = aesBlock := by
  refine ⟨deriveCipherKey_length .., ?_⟩
  change (phase1Iv P prf gxi gxr aesBlock).length = aesBlock
  rw [phase1Iv, List.length_take, prf.hash_length]
  exact Nat.min_eq_left prf.aesBlock_le_outputLen

def aggressiveHeader (ckyI ckyR : Cookie) : IsakmpHeader where
  initCookie := ckyI
  respCookie := ckyR
  nextPayload := payload.none
  version := IsakmpHeader.version10
  exchangeType := exchange.aggressive
  flags := 0
  messageId := 0
  length := 0

/-! ## Responder -/

def supportedPrf (t : Transform) : Option Prf :=
  if t.attr attr.hash = some hash.sha2256 then some .sha256
  else if t.attr attr.hash = some hash.sha1 then some .sha1
  else none

def supportedGroup (t : Transform) : Option DhGroup :=
  if t.attr attr.groupDesc = some 2 then some .modp1024
  else if t.attr attr.groupDesc = some 14 then some .modp2048
  else none

def supported (t : Transform) : Option (Transform × Prf × DhGroup × Nat) :=
  if t.attr attr.encryption ≠ some enc.aesCbc ∨ t.attr attr.keyLength ≠ some 256 then none
  else do
    let prf ← supportedPrf t
    let group ← supportedGroup t
    if t.attr attr.authMethod = some auth.psk ∨ t.attr attr.authMethod = some auth.xauthInitPsk then
      some (t, prf, group, 32)
    else none

/-- The first supported transform of the first proposal that has one. -/
def selectTransform (sa : SaPayload) : Option (Transform × Prf × DhGroup × Nat) :=
  sa.proposals.findSome? fun prop => prop.transforms.findSome? supported

structure Offer where
  ckyI : Cookie
  saiB : Bytes
  idiiB : Bytes
  gxi : Bytes
  ni : Bytes
  sa : SaPayload
  chosen : Transform
  prf : Prf
  group : DhGroup
  keyLen : Nat

def readOffer (msg1 : Bytes) : Result Offer := do
  let hdr ← IsakmpHeader.parse msg1
  if hdr.exchangeType ≠ exchange.aggressive then .error (.crypto "not an Aggressive Mode message")
  else
    let ps ← parsePayloads hdr.nextPayload (msg1.drop IsakmpHeader.len)
    let saP ← okOr (find ps payload.sa) (.missingPayload "SA")
    let keP ← okOr (find ps payload.ke) (.missingPayload "KE")
    let nonceP ← okOr (find ps payload.nonce) (.missingPayload "NONCE")
    let idP ← okOr (find ps payload.id) (.missingPayload "ID")
    let sa ← SaPayload.parse saP.data
    let (chosen, prf, group, keyLen) ← okOr (selectTransform sa) .noProposalChosen
    if keP.data.length ≠ group.publicLen then .error (.badKeyExchange group.transformId keP.data.length)
    else .ok {
      ckyI := hdr.initCookie, saiB := saP.data, idiiB := idP.data, gxi := keP.data, ni := nonceP.data
      sa, chosen, prf, group, keyLen }

def answerOffer (P : Primitives) (cfg : Phase1Config) (offer : Offer) (ckyR : Cookie) (dhPrivate nr : Bytes) :
    Result (Bytes × Phase1State) := do
  let gxr := offer.group.public_ P dhPrivate
  let gxy ← offer.group.shared P dhPrivate offer.gxi
  let state := derivePhase1 P offer.prf offer.group cfg.psk offer.ckyI ckyR gxy offer.gxi gxr offer.ni nr
    offer.saiB offer.idiiB offer.keyLen
  let idirB := cfg.ourId.toBytes
  let hashR := hashR P offer.prf state.skeyid gxr offer.gxi ckyR offer.ckyI offer.saiB idirB
  let sar : SaPayload := {
    doi := offer.sa.doi
    situation := offer.sa.situation
    proposals := [{ num := 1, protocolId := protocol.isakmp, spi := [], transforms := [offer.chosen] }] }
  let outPayloads := [(payload.sa, sar.toBytes), (payload.ke, gxr), (payload.nonce, nr), (payload.id, idirB),
    (payload.hash, hashR)]
  let vendor :=
    if isXauthAuth ((offer.chosen.attr attr.authMethod).getD 0) then [(payload.vendorId, xauthVendorId)] else []
  .ok (buildMessage (aggressiveHeader offer.ckyI ckyR) (outPayloads ++ vendor), state)

/-- The ephemerals are drawn only for an offer that can be answered so far. -/
def respondAggressive {ε : Type} [Entropy ε] (P : Primitives) (cfg : Phase1Config) (msg1 : Bytes) (entropy : ε) :
    Result (Bytes × Phase1State) × ε :=
  match readOffer msg1 with
  | .error error => (.error error, entropy)
  | .ok offer =>
      let (ckyR, entropy) := Entropy.fill entropy 8
      let (dhPrivate, entropy) := Entropy.nextArray32 entropy
      let (nr, entropy) := Entropy.fill entropy 16
      (answerOffer P cfg offer ckyR dhPrivate nr, entropy)

def Phase1State.verifyHashI (P : Primitives) (self : Phase1State) (msg3 : Bytes) : Result Unit := do
  let hdr ← IsakmpHeader.parse msg3
  let body := msg3.drop IsakmpHeader.len
  let payloadBytes ← if hdr.encrypted then aes256CbcDecrypt P self.encKey self.phase1Iv body else .ok body
  let ps ← parsePayloads hdr.nextPayload payloadBytes
  let hashP ← okOr (find ps payload.hash) (.missingPayload "HASH")
  if hashP.data = hashI P self.prf self.skeyid self.gxi self.gxr self.ckyI self.ckyR self.saiB self.idiiB then .ok ()
  else .error .authFailed

/-! ## Initiator -/

structure InitiatorConfig where
  psk : Bytes
  ourId : Id
  group : DhGroup
  xauth : Bool
  deriving DecidableEq

def initiatorSa (group : DhGroup) (xauth : Bool) : SaPayload where
  doi := ipsecDoi
  situation := sitIdentityOnly
  proposals := [{
    num := 1
    protocolId := protocol.isakmp
    spi := []
    transforms := [{
      num := 1
      transformId := 1
      attributes := [
        .ofShort attr.encryption enc.aesCbc,
        .ofShort attr.keyLength 256,
        .ofShort attr.hash hash.sha2256,
        .ofShort attr.groupDesc group.transformId,
        .ofShort attr.authMethod (if xauth then auth.xauthInitPsk else auth.psk),
        .ofShort attr.lifeType life.seconds,
        .longU32 attr.lifeDuration 28800] }] }]

structure AggressiveInitiator where
  prf : Prf
  group : DhGroup
  psk : Bytes
  ckyI : Cookie
  dhPrivate : Bytes
  gxi : Bytes
  ni : Bytes
  idiB : Bytes
  saiB : Bytes
  keyLen : Nat
  deriving DecidableEq

def initiateAggressive {ε : Type} [Entropy ε] (P : Primitives) (cfg : InitiatorConfig) (entropy : ε) :
    (Bytes × AggressiveInitiator) × ε :=
  let (ckyI, entropy) := Entropy.fill entropy 8
  let (dhPrivate, entropy) := Entropy.nextArray32 entropy
  let gxi := cfg.group.public_ P dhPrivate
  let (ni, entropy) := Entropy.fill entropy 16
  let saiB := (initiatorSa cfg.group cfg.xauth).toBytes
  let idiB := cfg.ourId.toBytes
  let msg1 := buildMessage (aggressiveHeader ckyI (List.replicate 8 0))
    [(payload.sa, saiB), (payload.ke, gxi), (payload.nonce, ni), (payload.id, idiB)]
  ((msg1, ⟨.sha256, cfg.group, cfg.psk, ckyI, dhPrivate, gxi, ni, idiB, saiB, 32⟩), entropy)

def AggressiveInitiator.complete (P : Primitives) (self : AggressiveInitiator) (msg2 : Bytes) :
    Result (Bytes × Phase1State) := do
  let hdr ← IsakmpHeader.parse msg2
  if hdr.exchangeType ≠ exchange.aggressive then .error (.crypto "not an Aggressive Mode message")
  else
    let ckyR := hdr.respCookie
    let ps ← parsePayloads hdr.nextPayload (msg2.drop IsakmpHeader.len)
    let keP ← okOr (find ps payload.ke) (.missingPayload "KE")
    let nonceP ← okOr (find ps payload.nonce) (.missingPayload "NONCE")
    let hashP ← okOr (find ps payload.hash) (.missingPayload "HASH")
    let idP ← okOr (find ps payload.id) (.missingPayload "ID")
    let gxr := keP.data
    if gxr.length ≠ self.group.publicLen then .error (.badKeyExchange self.group.transformId gxr.length)
    else
      let gxy ← self.group.shared P self.dhPrivate gxr
      let state := derivePhase1 P self.prf self.group self.psk self.ckyI ckyR gxy self.gxi gxr self.ni
        nonceP.data self.saiB self.idiB self.keyLen
      if hashP.data ≠ hashR P self.prf state.skeyid gxr self.gxi ckyR self.ckyI self.saiB idP.data then
        .error .authFailed
      else
        let hashI := hashI P self.prf state.skeyid self.gxi gxr self.ckyI ckyR self.saiB self.idiB
        .ok (buildMessage (aggressiveHeader self.ckyI ckyR) [(payload.hash, hashI)], state)

end Ryke.Ikev1
