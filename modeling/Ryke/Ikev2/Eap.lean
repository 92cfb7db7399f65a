import Ryke.Primitives

/-! MS-CHAP-v2 and the EAP framing it travels in: the NT-Response, the MSK it yields,
and the Challenge, Response and Success messages of one authentication round. -/

namespace Ryke.Ikev2
open Lib

/-! ## MS-CHAP-v2 -/

/-- A string by its characters. -/
abbrev Text := List Char

def ascii (text : String) : Bytes := text.toList.map fun c => UInt8.ofNat c.toNat

def utf16Bytes (c : Char) : Bytes :=
  let unit (value : Nat) : Bytes := [UInt8.ofNat value, UInt8.ofNat (value / 256)]
  if c.toNat < 0x10000 then unit c.toNat
  else unit (0xD800 + (c.toNat - 0x10000) / 0x400) ++ unit (0xDC00 + (c.toNat - 0x10000) % 0x400)

namespace mschapv2

def ntPasswordHash (P : Primitives) (password : Text) : Bytes := P.md4 (password.flatMap utf16Bytes)

def hashNtPasswordHash (P : Primitives) (passwordHash : Bytes) : Bytes := P.md4 passwordHash

def challengeHash (P : Primitives) (peerChallenge authenticatorChallenge userName : Bytes) : Bytes :=
  (P.sha1 (peerChallenge ++ authenticatorChallenge ++ userName)).take 8

/-- Seven bytes spread over an eight-byte DES key, the low bit of each left for parity. -/
def strToKey (s : Bytes) : Bytes :=
  let b := byteAt s
  [b 0 >>> 1, ((b 0 &&& 0x01) <<< 6) ||| (b 1 >>> 2), ((b 1 &&& 0x03) <<< 5) ||| (b 2 >>> 3),
    ((b 2 &&& 0x07) <<< 4) ||| (b 3 >>> 4), ((b 3 &&& 0x0F) <<< 3) ||| (b 4 >>> 5),
    ((b 4 &&& 0x1F) <<< 2) ||| (b 5 >>> 6), ((b 5 &&& 0x3F) <<< 1) ||| (b 6 >>> 7),
    b 6 &&& 0x7F].map fun byte : UInt8 => byte <<< 1

def desEncrypt (P : Primitives) (challenge key7 : Bytes) : Bytes :=
  P.desEncryptBlock (strToKey key7) challenge

def challengeResponse (P : Primitives) (challenge passwordHash : Bytes) : Bytes :=
  let zph := passwordHash ++ List.replicate 5 0
  desEncrypt P challenge (slice zph 0 7) ++ desEncrypt P challenge (slice zph 7 14) ++
    desEncrypt P challenge (slice zph 14 21)

def generateNtResponse (P : Primitives) (authenticatorChallenge peerChallenge userName : Bytes)
    (password : Text) : Bytes :=
  challengeResponse P (challengeHash P peerChallenge authenticatorChallenge userName)
    (ntPasswordHash P password)

def magic1 : Bytes := ascii "Magic server to client signing constant"
def magic2 : Bytes := ascii "Pad to make it do more than one iteration"

def hexDigit (n : UInt8) : UInt8 := if n < 10 then 48 + n else 55 + n

/-- `"S=<40 hex>"`. -/
def generateAuthenticatorResponse (P : Primitives) (password : Text)
    (ntResponse peerChallenge authenticatorChallenge userName : Bytes) : Bytes :=
  let passwordHashHash := hashNtPasswordHash P (ntPasswordHash P password)
  let digest := P.sha1 (passwordHashHash ++ ntResponse ++ magic1)
  let challenge := challengeHash P peerChallenge authenticatorChallenge userName
  let digest2 := P.sha1 (digest ++ challenge ++ magic2)
  ascii "S=" ++ digest2.flatMap fun b : UInt8 => [hexDigit (b >>> 4), hexDigit (b &&& 0x0F)]

def mppeMasterMagic : Bytes := ascii "This is the MPPE Master Key"

def mppeMagic2 : Bytes :=
  ascii "On the client side, this is the send key; on the server side, it is the receive key."

def mppeMagic3 : Bytes :=
  ascii "On the client side, this is the receive key; on the server side, it is the send key."

def shsPad1 : Bytes := List.replicate 40 0x00
def shsPad2 : Bytes := List.replicate 40 0xF2

def getMasterKey (P : Primitives) (passwordHashHash ntResponse : Bytes) : Bytes :=
  (P.sha1 (passwordHashHash ++ ntResponse ++ mppeMasterMagic)).take 16

def asymmetricStartKey (P : Primitives) (masterKey magic : Bytes) : Bytes :=
  (P.sha1 (masterKey ++ shsPad1 ++ magic ++ shsPad2)).take 16

/-- The 64-byte MSK, which keys the AUTH payloads after EAP. -/
def deriveMsk (P : Primitives) (password : Text) (ntResponse : Bytes) : Bytes :=
  let phh := hashNtPasswordHash P (ntPasswordHash P password)
  let mk := getMasterKey P phh ntResponse
  asymmetricStartKey P mk mppeMagic2 ++ asymmetricStartKey P mk mppeMagic3 ++ List.replicate 32 0

theorem generateNtResponse_length (P : Primitives) (authenticatorChallenge peerChallenge userName : Bytes)
    (password : Text) :
    (generateNtResponse P authenticatorChallenge peerChallenge userName password).length = 24 := by
  simp [generateNtResponse, challengeResponse, desEncrypt, P.desEncryptBlock_length]

theorem generateAuthenticatorResponse_length (P : Primitives) (password : Text)
    (ntResponse peerChallenge authenticatorChallenge userName : Bytes) :
    (generateAuthenticatorResponse P password ntResponse peerChallenge authenticatorChallenge
      userName).length = 42 := by
  rw [generateAuthenticatorResponse, List.length_append, List.length_flatMap]
  simp [P.sha1_length]
  rfl

end mschapv2

/-! ## EAP packets -/

namespace eap

namespace code
def request : UInt8 := 1
def response : UInt8 := 2
def success : UInt8 := 3
def failure : UInt8 := 4
end code

namespace eap_type
def identity : UInt8 := 1
def mschapv2 : UInt8 := 26
end eap_type

namespace op
def challenge : UInt8 := 1
def response : UInt8 := 2
def success : UInt8 := 3
end op

end eap

structure EapPacket where
  code : UInt8
  identifier : UInt8
  data : Bytes
  deriving DecidableEq, Repr

namespace EapPacket

def parse (body : Bytes) : Result EapPacket :=
  if body.length < 4 then .error (.truncated 4 body.length)
  else
    let length := (u16At body 2).toNat
    if length < 4 ∨ length > body.length then .error (.badLength length body.length)
    else .ok ⟨byteAt body 0, byteAt body 1, slice body 4 length⟩

def toBytes (packet : EapPacket) : Bytes :=
  [packet.code, packet.identifier] ++ u16Bytes (UInt16.ofNat (4 + packet.data.length)) ++ packet.data

def eapType (packet : EapPacket) : Option UInt8 := packet.data.head?

theorem parse_toBytes {packet : EapPacket} (small : 4 + packet.data.length < 65536) :
    parse packet.toBytes = .ok packet := by
  have size : packet.toBytes.length = 4 + packet.data.length := by
    simp [toBytes]
    omega
  have declared : (u16At packet.toBytes 2).toNat = 4 + packet.data.length := by
    simp only [toBytes, u16Bytes, u16At, List.cons_append, List.nil_append, byteAt_cons_succ,
      byteAt_cons_zero, be16_split]
    exact UInt16.toNat_ofNat_of_lt small
  have body : slice packet.toBytes 4 (4 + packet.data.length) = packet.data :=
    slice_append_end rfl rfl
  have long : ¬ packet.toBytes.length < 4 := by omega
  have fits : ¬ (4 + packet.data.length < 4 ∨ 4 + packet.data.length > packet.toBytes.length) := by omega
  simp only [parse, if_neg long, declared, if_neg fits, body]
  rfl

end EapPacket

/-! ## EAP-MSCHAPv2 messages -/

namespace eap

def mschapMessage (opCode mschapId : UInt8) (body : Bytes) : Bytes :=
  [eap_type.mschapv2, opCode, mschapId] ++ u16Bytes (UInt16.ofNat (4 + body.length)) ++ body

def buildChallenge (mschapId : UInt8) (challenge name : Bytes) : Bytes :=
  mschapMessage op.challenge mschapId ([16] ++ challenge ++ name)

def parseChallenge (data : Bytes) : Result (UInt8 × Bytes × Bytes) :=
  if data.length < 22 ∨ byteAt data 0 ≠ eap_type.mschapv2 ∨ byteAt data 1 ≠ op.challenge then
    .error (.crypto "not an EAP-MSCHAPv2 Challenge")
  else .ok (byteAt data 2, slice data 6 22, data.drop 22)

def buildResponse (P : Primitives) (mschapId : UInt8) (authenticatorChallenge peerChallenge user : Bytes)
    (password : Text) : Bytes :=
  let nt := mschapv2.generateNtResponse P authenticatorChallenge peerChallenge user password
  mschapMessage op.response mschapId ([49] ++ peerChallenge ++ List.replicate 8 0 ++ nt ++ [0] ++ user)

structure Response where
  mschapId : UInt8
  peerChallenge : Bytes
  ntResponse : Bytes
  name : Bytes
  deriving DecidableEq, Repr

def parseResponse (data : Bytes) : Result Response :=
  if data.length < 55 ∨ byteAt data 0 ≠ eap_type.mschapv2 ∨ byteAt data 1 ≠ op.response then
    .error (.crypto "not an EAP-MSCHAPv2 Response")
  else .ok ⟨byteAt data 2, slice data 6 22, slice data 30 54, data.drop 55⟩

def buildSuccess (mschapId : UInt8) (authResponse : Bytes) : Bytes :=
  mschapMessage op.success mschapId authResponse

theorem mschapMessage_length (opCode mschapId : UInt8) (body : Bytes) :
    (mschapMessage opCode mschapId body).length = 5 + body.length := by
  simp [mschapMessage]
  omega

theorem mschapMessage_drop (opCode mschapId : UInt8) (body : Bytes) (n : Nat) :
    (mschapMessage opCode mschapId body).drop (5 + n) = body.drop n := by
  rw [← List.drop_drop]
  rfl

theorem parseChallenge_buildChallenge (mschapId : UInt8) {challenge : Bytes} (size : challenge.length = 16)
    (name : Bytes) : parseChallenge (buildChallenge mschapId challenge name) = .ok (mschapId, challenge, name) := by
  have total : (buildChallenge mschapId challenge name).length = 22 + name.length := by
    rw [buildChallenge, mschapMessage_length]
    simp [size]
    omega
  have heads : ¬ ((buildChallenge mschapId challenge name).length < 22 ∨
      byteAt (buildChallenge mschapId challenge name) 0 ≠ eap_type.mschapv2 ∨
      byteAt (buildChallenge mschapId challenge name) 1 ≠ op.challenge) := by
    rintro (short | kind | code)
    · omega
    · exact kind rfl
    · exact code rfl
  have value : slice (buildChallenge mschapId challenge name) 6 22 = challenge := by
    rw [slice, buildChallenge, mschapMessage_drop _ _ _ 1]
    change (challenge ++ name).take 16 = challenge
    exact List.take_left' size
  have rest : (buildChallenge mschapId challenge name).drop 22 = name := by
    rw [buildChallenge, mschapMessage_drop _ _ _ 17]
    apply List.drop_left'
    rw [List.length_append, size]
    rfl
  rw [parseChallenge, if_neg heads, value, rest]
  rfl

theorem buildResponse_length (P : Primitives) {mschapId : UInt8} {authenticatorChallenge peerChallenge user : Bytes}
    {password : Text} (size : peerChallenge.length = 16) :
    (buildResponse P mschapId authenticatorChallenge peerChallenge user password).length = 55 + user.length := by
  rw [buildResponse, mschapMessage_length]
  simp [size, mschapv2.generateNtResponse_length]
  omega

theorem parseResponse_buildResponse (P : Primitives) (mschapId : UInt8) (authenticatorChallenge : Bytes)
    {peerChallenge : Bytes} (size : peerChallenge.length = 16) (user : Bytes) (password : Text) :
    parseResponse (buildResponse P mschapId authenticatorChallenge peerChallenge user password) =
      .ok ⟨mschapId, peerChallenge,
        mschapv2.generateNtResponse P authenticatorChallenge peerChallenge user password, user⟩ := by
  let nt := mschapv2.generateNtResponse P authenticatorChallenge peerChallenge user password
  have ntSize : nt.length = 24 := mschapv2.generateNtResponse_length P _ _ _ _
  let body := [49] ++ peerChallenge ++ List.replicate 8 0 ++ nt ++ [0] ++ user
  have form : buildResponse P mschapId authenticatorChallenge peerChallenge user password =
      mschapMessage op.response mschapId body := rfl
  have total : (mschapMessage op.response mschapId body).length = 55 + user.length := buildResponse_length P size
  have heads : ¬ ((mschapMessage op.response mschapId body).length < 55 ∨
      byteAt (mschapMessage op.response mschapId body) 0 ≠ eap_type.mschapv2 ∨
      byteAt (mschapMessage op.response mschapId body) 1 ≠ op.response) := by
    rintro (short | kind | code)
    · omega
    · exact kind rfl
    · exact code rfl
  have challenge : slice (mschapMessage op.response mschapId body) 6 22 = peerChallenge := by
    rw [slice, mschapMessage_drop _ _ _ 1]
    simp only [body, List.append_assoc]
    change (peerChallenge ++ (List.replicate 8 0 ++ (nt ++ ([0] ++ user)))).take 16 = peerChallenge
    exact List.take_left' size
  have response : slice (mschapMessage op.response mschapId body) 30 54 = nt := by
    have front : ([49] ++ peerChallenge ++ List.replicate 8 0 : Bytes).length = 25 := by simp [size]
    rw [slice, mschapMessage_drop _ _ _ 25]
    simp only [body]
    rw [List.append_assoc, List.append_assoc, List.drop_left' front]
    exact List.take_left' ntSize
  have name : (mschapMessage op.response mschapId body).drop 55 = user := by
    rw [mschapMessage_drop _ _ _ 50]
    apply List.drop_left'
    simp [size, ntSize]
  rw [form, parseResponse, if_neg heads, challenge, response, name]
  rfl

end eap

end Ryke.Ikev2
