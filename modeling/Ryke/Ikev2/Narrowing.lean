import Ryke.Ikev2.Limits
import Ryke.Ikev2.Rekey

/-! The traffic selectors of a rekey. Without an assigned address the responder gives back
what it was asked; with one it answers the address and the full tunnel, whatever was asked. -/

namespace Ryke.Ikev2
open Lib Crypto

/-! ## Reading selectors back -/

namespace TrafficSelector

def Fits (ts : TrafficSelector) : Prop :=
  ts.endAddr.length = ts.startAddr.length ∧ 8 + 2 * ts.startAddr.length < 65536

theorem encodes_write {ts : TrafficSelector} (fits : ts.Fits) : Encodes parse ts ts.write := by
  obtain ⟨same, small⟩ := fits
  refine ⟨by simp [write], fun rest => ?_⟩
  have declared : (UInt16.ofNat (8 + ts.startAddr.length + ts.endAddr.length)).toNat =
      8 + 2 * ts.startAddr.length := by
    simp
    omega
  have own : ts.write.length = 8 + 2 * ts.startAddr.length := by
    simp [write]
    omega
  generalize frontEq : [ts.tsType, ts.ipProtocol] ++
      u16Bytes (UInt16.ofNat (8 + ts.startAddr.length + ts.endAddr.length)) ++ u16Bytes ts.startPort ++
      u16Bytes ts.endPort = front
  have eight : front.length = 8 := by rw [← frontEq]; rfl
  have form : ts.write ++ rest = front ++ (ts.startAddr ++ (ts.endAddr ++ rest)) := by
    simp only [write, ← frontEq, List.append_assoc]
  have total : (ts.write ++ rest).length = 8 + 2 * ts.startAddr.length + rest.length := by
    rw [List.length_append, own]
  have field : ∀ i < 8, byteAt (ts.write ++ rest) i = byteAt front i := by
    intro i inside
    rw [form]
    exact byteAt_append_left (by omega)
  have fields : ∀ i < 7, u16At (ts.write ++ rest) i = u16At front i := by
    intro i inside
    rw [u16At, u16At, field i (by omega), field (i + 1) (by omega)]
  have start : slice (ts.write ++ rest) 8 (8 + ts.startAddr.length) = ts.startAddr := by
    rw [form]
    exact slice_append_mid eight.symm (by rw [eight])
  have stop : slice (ts.write ++ rest) (8 + ts.startAddr.length) (8 + 2 * ts.startAddr.length) = ts.endAddr := by
    rw [form, ← List.append_assoc]
    exact slice_append_mid (by simp [eight]) (by simp [eight]; omega)
  have length : u16At front 2 = UInt16.ofNat (8 + ts.startAddr.length + ts.endAddr.length) := by
    rw [← frontEq]
    simp only [u16At, u16Bytes, List.cons_append, List.nil_append, byteAt_cons_zero, byteAt_cons_succ, be16_split]
  have ports : u16At front 4 = ts.startPort ∧ u16At front 6 = ts.endPort := by
    rw [← frontEq]
    simp only [u16At, u16Bytes, List.cons_append, List.nil_append, byteAt_cons_zero, byteAt_cons_succ, be16_split,
      and_self]
  have half : (8 + 2 * ts.startAddr.length - 8) / 2 = ts.startAddr.length := by omega
  rw [parse, total, fields 2 (by omega), length, declared, if_neg (by omega), if_neg (by omega), half]
  dsimp only
  rw [start, stop, fields 4 (by omega), fields 6 (by omega), ports.1, ports.2, field 0 (by omega), field 1 (by omega),
    own, ← frontEq]
  rfl

end TrafficSelector

theorem TrafficSelectors.parse_toBytes {ts : TrafficSelectors} (few : ts.selectors.length < 256)
    (fits : ∀ selector ∈ ts.selectors, selector.Fits) : parse ts.toBytes = .ok ts := by
  have encodes : List.Forall₂ (Encodes TrafficSelector.parse) ts.selectors (ts.selectors.map TrafficSelector.write) := by
    rw [List.forall₂_map_right_iff, List.forall₂_same]
    exact fun selector member => TrafficSelector.encodes_write (fits selector member)
  have long : ¬ ts.toBytes.length < 4 := by simp [toBytes]
  have count : (byteAt ts.toBytes 0).toNat = ts.selectors.length := by
    simp only [toBytes, List.cons_append, byteAt_cons_zero, UInt8.toNat_ofNat']
    omega
  have body : ts.toBytes.drop 4 = (ts.selectors.map TrafficSelector.write).flatten := rfl
  have read := parseCount_encodes encodes []
  rw [List.append_nil] at read
  rw [parse, if_neg long, count, body, read]
  rfl

theorem parse_hostTs (ip : Ipv4Addr) :
    TrafficSelectors.parse (TrafficSelectors.mk [.ipv4Host ip]).toBytes = .ok ⟨[.ipv4Host ip]⟩ := by
  apply TrafficSelectors.parse_toBytes (by simp)
  intro selector member
  rw [List.mem_singleton.mp member]
  exact ⟨rfl, by simp [TrafficSelector.ipv4Host, Ipv4Addr.octets]⟩

theorem parse_fullTunnelTs : TrafficSelectors.parse fullTunnelTs = .ok ⟨[.ipv4Any]⟩ := by decide

/-! ## Selectors within selectors -/

/-- An address by its value, most significant byte first. -/
def addrValue (addr : Bytes) : Nat := addr.foldl (fun value byte => value * 256 + byte.toNat) 0

/-- Whatever `inner` selects, `outer` selects. -/
structure TrafficSelector.Within (inner outer : TrafficSelector) : Prop where
  tsType : inner.tsType = outer.tsType
  ipProtocol : inner.ipProtocol = outer.ipProtocol
  startPort : outer.startPort ≤ inner.startPort
  endPort : inner.endPort ≤ outer.endPort
  startLength : inner.startAddr.length = outer.startAddr.length
  endLength : inner.endAddr.length = outer.endAddr.length
  startAddr : addrValue outer.startAddr ≤ addrValue inner.startAddr
  endAddr : addrValue inner.endAddr ≤ addrValue outer.endAddr

/-- Every selector of the answer is within one that was asked for. -/
def Narrows (answer asked : TrafficSelectors) : Prop :=
  ∀ inner ∈ answer.selectors, ∃ outer ∈ asked.selectors, inner.Within outer

theorem TrafficSelector.Within.refl (ts : TrafficSelector) : ts.Within ts :=
  ⟨rfl, rfl, UInt16.le_refl _, UInt16.le_refl _, rfl, rfl, le_rfl, le_rfl⟩

theorem narrows_refl (asked : TrafficSelectors) : Narrows asked asked :=
  fun inner member => ⟨inner, member, .refl inner⟩

theorem narrows_singleton {inner : TrafficSelector} {asked : TrafficSelectors} :
    Narrows ⟨[inner]⟩ asked ↔ ∃ outer ∈ asked.selectors, inner.Within outer := by
  simp only [Narrows, List.mem_singleton, forall_eq]

theorem addrValue_four (a b c d : UInt8) :
    addrValue [a, b, c, d] = ((a.toNat * 256 + b.toNat) * 256 + c.toNat) * 256 + d.toNat := by
  simp only [addrValue, List.foldl_cons, List.foldl_nil, Nat.zero_mul, Nat.zero_add]

theorem ipv4Any_within_iff (outer : TrafficSelector) :
    TrafficSelector.ipv4Any.Within outer ↔ outer = .ipv4Any := by
  constructor
  · intro within
    obtain ⟨tsType, ipProtocol, firstPort, lastPort, start, stop⟩ := outer
    obtain ⟨a, b, c, d, rfl⟩ := List.length_eq_four.mp within.startLength.symm
    obtain ⟨e, f, g, h, rfl⟩ := List.length_eq_four.mp within.endLength.symm
    have low : addrValue [a, b, c, d] ≤ addrValue [0, 0, 0, 0] := within.startAddr
    have high : addrValue [255, 255, 255, 255] ≤ addrValue [e, f, g, h] := within.endAddr
    have lowPort : firstPort.toNat ≤ 0 := UInt16.le_iff_toNat_le.mp within.startPort
    have highPort : 65535 ≤ lastPort.toNat := UInt16.le_iff_toNat_le.mp within.endPort
    rw [addrValue_four, addrValue_four] at low high
    simp only [UInt8.reduceToNat] at low high
    have zeros : ∀ byte : UInt8, byte.toNat = 0 → byte = 0 := fun byte value => UInt8.toNat_inj.mp value
    have ones : ∀ byte : UInt8, byte.toNat = 255 → byte = 255 := fun byte value => UInt8.toNat_inj.mp value
    have size : ∀ byte : UInt8, byte.toNat < 256 := fun byte => UInt8.toNat_lt byte
    have sizeE := size e
    have sizeF := size f
    have sizeG := size g
    have sizeH := size h
    rw [zeros a (by omega), zeros b (by omega), zeros c (by omega), zeros d (by omega), ones e (by omega),
      ones f (by omega), ones g (by omega), ones h (by omega)]
    have zeroPort : firstPort = 0 := UInt16.toNat_inj.mp (Nat.le_zero.mp lowPort)
    have maxPort : lastPort = 65535 := by
      have top := UInt16.toNat_lt lastPort
      apply UInt16.toNat_inj.mp
      change lastPort.toNat = 65535
      omega
    have sameType : 7 = tsType := within.tsType
    have sameProtocol : 0 = ipProtocol := within.ipProtocol
    rw [zeroPort, maxPort, ← sameType, ← sameProtocol]
    rfl
  · rintro rfl
    exact .refl _

end Ryke.Ikev2

namespace Ryke.Ikev2.Rekey
open Lib Crypto

/-! ## Selectors of a rekey -/

def readSelectors (P : Primitives) (message skE : Bytes) : Result (TrafficSelectors × TrafficSelectors) := do
  let (first, inner) ← openEncryptedGcm P message skE
  let echo ← forPayloads (payloads first inner) {} Echo.add
  let tsi ← okOr echo.tsi (.missingPayload "TSi")
  let tsr ← okOr echo.tsr (.missingPayload "TSr")
  let initiators ← TrafficSelectors.parse tsi
  let responders ← TrafficSelectors.parse tsr
  .ok (initiators, responders)

/-- The response seals an answer with these selectors. -/
def AnswersWith (P : Primitives) (sa : CompletedSaInit) (response : Bytes) (tsi tsr : TrafficSelectors) : Prop :=
  ∃ header iv newSpi nr bodies,
    buildEncryptedGcm P header (firstPayloadType (answerChain newSpi nr bodies))
      (encodePayloadChain (answerChain newSpi nr bodies)) (ourSkE sa) iv = .ok response ∧
    TrafficSelectors.parse bodies.1 = .ok tsi ∧ TrafficSelectors.parse bodies.2 = .ok tsr

theorem echo_answerChain {newSpi : UInt32} {nr : Bytes} {bodies : Bytes × Bytes}
    (small : skPayloadLen (encodePayloadChain (answerChain newSpi nr bodies)) < 65536) :
    forPayloads (payloads (firstPayloadType (answerChain newSpi nr bodies))
      (encodePayloadChain (answerChain newSpi nr bodies))) {} Echo.add = .ok ⟨some bodies.1, some bodies.2⟩ := by
  rw [forPayloads_chain [.securityAssociation, .nonce, .trafficSelectorInitiator, .trafficSelectorResponder] rfl
    (by decide) small]
  rfl

theorem AnswersWith.read {P : Primitives} (correct : P.GcmCorrect) {sa : CompletedSaInit} {response : Bytes}
    {tsi tsr : TrafficSelectors} (answers : AnswersWith P sa response tsi tsr) (fits : LengthExact response) :
    readSelectors P response (ourSkE sa) = .ok (tsi, tsr) := by
  obtain ⟨header, iv, newSpi, nr, bodies, built, parsedI, parsedR⟩ := answers
  have short := (lengthExact_iff built).mp fits
  have small : skPayloadLen (encodePayloadChain (answerChain newSpi nr bodies)) < 65536 := by
    simp only [skPayloadLen, ivLen, icvLen]
    omega
  have kind : PayloadType.fromU8 (firstPayloadType (answerChain newSpi nr bodies)).toU8 =
      firstPayloadType (answerChain newSpi nr bodies) := rfl
  rw [readSelectors, openEncryptedGcm_built correct small built, ok_bind]
  dsimp only
  rw [kind, echo_answerChain small, ok_bind, okOr_some, ok_bind, okOr_some, ok_bind, parsedI, ok_bind, parsedR, ok_bind]

theorem readSelectors_eq_ok {P : Primitives} {message skE : Bytes} {tsi tsr : TrafficSelectors}
    (read : readSelectors P message skE = .ok (tsi, tsr)) :
    ∃ first inner bodyI bodyR, openEncryptedGcm P message skE = .ok (first, inner) ∧
      forPayloads (payloads first inner) {} Echo.add = .ok ⟨some bodyI, some bodyR⟩ ∧
      TrafficSelectors.parse bodyI = .ok tsi ∧ TrafficSelectors.parse bodyR = .ok tsr := by
  obtain ⟨⟨first, inner⟩, opened, read⟩ := bind_eq_ok read
  obtain ⟨⟨tsi, tsr⟩, walked, read⟩ := bind_eq_ok read
  obtain ⟨bodyI, hasI, read⟩ := bind_eq_ok read
  obtain ⟨bodyR, hasR, read⟩ := bind_eq_ok read
  obtain ⟨initiators, parsedI, read⟩ := bind_eq_ok read
  obtain ⟨responders, parsedR, read⟩ := bind_eq_ok read
  cases read
  obtain rfl : tsi = some bodyI := okOr_eq_ok hasI
  obtain rfl : tsr = some bodyR := okOr_eq_ok hasR
  exact ⟨first, inner, bodyI, bodyR, opened, walked, parsedI, parsedR⟩

theorem answer_of_accepted {P : Primitives} {sa : CompletedSaInit} {request nr response inner : Bytes} {newSpi : UInt32}
    {iv : Iv} {assignedIp : Option Ipv4Addr} {child : ChildSa} {first : PayloadType} {echo : Echo}
    (accepted : responderProcessRekey P sa request newSpi nr iv assignedIp = .ok (response, child))
    (opened : openEncryptedGcm P request (peerSkE sa) = .ok (first, inner))
    (walked : forPayloads (payloads first inner) {} Echo.add = .ok echo) :
    ∃ header, buildEncryptedGcm P header (firstPayloadType (answerChain newSpi nr (answerSelectors assignedIp echo)))
      (encodePayloadChain (answerChain newSpi nr (answerSelectors assignedIp echo))) (ourSkE sa) iv = .ok response := by
  obtain ⟨header, -, accepted⟩ := bind_eq_ok accepted
  obtain ⟨⟨first', inner'⟩, opened', accepted⟩ := bind_eq_ok accepted
  cases opened.symm.trans opened'
  obtain ⟨⟨saBytes, ni⟩, -, accepted⟩ := bind_eq_ok accepted
  obtain ⟨peerSpi, -, accepted⟩ := bind_eq_ok accepted
  obtain ⟨echo', walked', accepted⟩ := bind_eq_ok accepted
  cases walked.symm.trans walked'
  obtain ⟨response', built, accepted⟩ := bind_eq_ok accepted
  cases accepted
  exact ⟨_, built⟩

/-- The selectors of an answer: those of the request without an assigned address, the
address and the full tunnel with one. -/
theorem rekey_selectors (P : Primitives) (sa : CompletedSaInit) (request : Bytes) (newSpi : UInt32) (nr : Bytes)
    (iv : Iv) (assignedIp : Option Ipv4Addr) (response : Bytes) (child : ChildSa) (tsi tsr : TrafficSelectors)
    (accepted : responderProcessRekey P sa request newSpi nr iv assignedIp = .ok (response, child))
    (asked : readSelectors P request (peerSkE sa) = .ok (tsi, tsr)) :
    ∃ tsi' tsr', AnswersWith P sa response tsi' tsr' ∧
      (P.GcmCorrect → LengthExact response → readSelectors P response (ourSkE sa) = .ok (tsi', tsr')) ∧
      (assignedIp = none → tsi' = tsi ∧ tsr' = tsr ∧ Narrows tsi' tsi ∧ Narrows tsr' tsr) ∧
      ∀ ip, assignedIp = some ip → tsi' = ⟨[.ipv4Host ip]⟩ ∧ tsr' = ⟨[.ipv4Any]⟩ ∧
        ((Narrows tsi' tsi ∧ Narrows tsr' tsr) ↔
          (∃ outer ∈ tsi.selectors, (TrafficSelector.ipv4Host ip).Within outer) ∧ .ipv4Any ∈ tsr.selectors) := by
  obtain ⟨first, inner, bodyI, bodyR, opened, walked, parsedI, parsedR⟩ := readSelectors_eq_ok asked
  obtain ⟨header, built⟩ := answer_of_accepted accepted opened walked
  cases assignedIp with
  | none =>
    have answers : AnswersWith P sa response tsi tsr := ⟨header, iv, newSpi, nr, _, built, parsedI, parsedR⟩
    refine ⟨tsi, tsr, answers, fun correct => answers.read correct, ?_, nofun⟩
    intro _
    exact ⟨rfl, rfl, narrows_refl tsi, narrows_refl tsr⟩
  | some ip =>
    have answers : AnswersWith P sa response ⟨[.ipv4Host ip]⟩ ⟨[.ipv4Any]⟩ :=
      ⟨header, iv, newSpi, nr, _, built, parse_hostTs ip, parse_fullTunnelTs⟩
    refine ⟨_, _, answers, fun correct => answers.read correct, nofun, ?_⟩
    rintro _ ⟨⟩
    refine ⟨rfl, rfl, ?_⟩
    rw [narrows_singleton, narrows_singleton]
    apply and_congr_right
    intro _
    simp only [ipv4Any_within_iff, exists_eq_right]

namespace Toy
open Ryke.Toy Ryke.Ikev2.Toy

def assigned : Ipv4Addr := ⟨10, 8, 0, 7⟩
def resource : Ipv4Addr := ⟨10, 8, 0, 1⟩

def selectorsRequest (responders : TrafficSelectors) : Result Bytes :=
  let inner : List Payload := [(.securityAssociation, (espOffer 0xAA).toBytes), (.nonce, [5, 5]),
    (.trafficSelectorInitiator, (TrafficSelectors.mk [.ipv4Host assigned]).toBytes),
    (.trafficSelectorResponder, responders.toBytes)]
  buildEncryptedGcm toyMac (createChildHeader initSa 2 false) (firstPayloadType inner) (encodePayloadChain inner)
    (ourSkE initSa) (.ofU64 1)

def Runs (responders : TrafficSelectors) : Prop :=
  ∃ request response child, selectorsRequest responders = .ok request ∧
    responderProcessRekey toyMac respSa request 0xBB [6, 6] (.ofU64 2) (some assigned) = .ok (response, child) ∧
    readSelectors toyMac request (peerSkE respSa) = .ok (⟨[.ipv4Host assigned]⟩, responders) ∧
    readSelectors toyMac response (ourSkE respSa) = .ok (⟨[.ipv4Host assigned]⟩, ⟨[.ipv4Any]⟩)

theorem runs_of_eval {responders : TrafficSelectors}
    (eval : (do
      let request ← selectorsRequest responders
      let asked ← readSelectors toyMac request (peerSkE respSa)
      let (response, _) ← responderProcessRekey toyMac respSa request 0xBB [6, 6] (.ofU64 2) (some assigned)
      let answered ← readSelectors toyMac response (ourSkE respSa)
      .ok (asked, answered)) = (.ok ((⟨[.ipv4Host assigned]⟩, responders), ⟨[.ipv4Host assigned]⟩, ⟨[.ipv4Any]⟩) :
        Result _)) : Runs responders := by
  obtain ⟨request, built, eval⟩ := bind_eq_ok eval
  obtain ⟨asked, isAsked, eval⟩ := bind_eq_ok eval
  obtain ⟨⟨response, child⟩, accepted, eval⟩ := bind_eq_ok eval
  obtain ⟨answered, isAnswered, eval⟩ := bind_eq_ok eval
  have both := Except.ok.inj eval
  rw [Prod.mk.injEq] at both
  rw [both.1] at isAsked
  rw [both.2] at isAnswered
  exact ⟨request, response, child, built, accepted, isAsked, isAnswered⟩

end Toy

theorem rekey_selectors_full_tunnel :
    ∃ request response child, Toy.selectorsRequest ⟨[.ipv4Any]⟩ = .ok request ∧
      responderProcessRekey Ryke.Toy.toyMac Ryke.Ikev2.Toy.respSa request 0xBB [6, 6] (.ofU64 2)
        (some Toy.assigned) = .ok (response, child) ∧
      AnswersWith Ryke.Toy.toyMac Ryke.Ikev2.Toy.respSa response ⟨[.ipv4Host Toy.assigned]⟩ ⟨[.ipv4Any]⟩ ∧
      Narrows ⟨[.ipv4Host Toy.assigned]⟩ ⟨[.ipv4Host Toy.assigned]⟩ ∧ Narrows ⟨[.ipv4Any]⟩ ⟨[.ipv4Any]⟩ := by
  obtain ⟨request, response, child, built, accepted, asked, -⟩ : Toy.Runs ⟨[.ipv4Any]⟩ :=
    Toy.runs_of_eval (by decide +kernel)
  obtain ⟨tsi, tsr, answers, -, -, narrow⟩ := rekey_selectors Ryke.Toy.toyMac Ryke.Ikev2.Toy.respSa request 0xBB [6, 6]
    (.ofU64 2) (some Toy.assigned) response child _ _ accepted asked
  obtain ⟨rfl, rfl, within⟩ := narrow Toy.assigned rfl
  refine ⟨request, response, child, built, accepted, answers, within.mpr ⟨?_, List.mem_singleton_self _⟩⟩
  exact ⟨_, List.mem_singleton_self _, .refl _⟩

/-- Asked for one host behind the responder, the response selects the full tunnel. -/
theorem rekey_widens :
    ¬ ∀ request newSpi nr iv assignedIp response child tsi tsr tsi' tsr',
      responderProcessRekey Ryke.Toy.toyMac Ryke.Ikev2.Toy.respSa request newSpi nr iv assignedIp =
        .ok (response, child) →
      readSelectors Ryke.Toy.toyMac request (peerSkE Ryke.Ikev2.Toy.respSa) = .ok (tsi, tsr) →
      readSelectors Ryke.Toy.toyMac response (ourSkE Ryke.Ikev2.Toy.respSa) = .ok (tsi', tsr') →
      Narrows tsi' tsi ∧ Narrows tsr' tsr := by
  intro every
  obtain ⟨request, response, child, -, accepted, asked, answered⟩ : Toy.Runs ⟨[.ipv4Host Toy.resource]⟩ :=
    Toy.runs_of_eval (by decide +kernel)
  have narrow := (every request 0xBB [6, 6] (.ofU64 2) _ response child _ _ _ _ accepted asked answered).2
  obtain ⟨outer, member, within⟩ := narrows_singleton.mp narrow
  rw [List.mem_singleton.mp member, ipv4Any_within_iff] at within
  exact absurd within (by decide)

end Ryke.Ikev2.Rekey
