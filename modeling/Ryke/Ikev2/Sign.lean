import Ryke.Ikev2.Payload

/-! Digital Signature authentication and the X.509 checks behind it: what a peer's
certificate must satisfy before its signature over the AUTH octets counts. -/

namespace Ryke.Ikev2
open Lib

namespace sig_alg

def rsaSha256 : Bytes :=
  [0x30, 0x0d, 0x06, 0x09, 0x2a, 0x86, 0x48, 0x86, 0xf7, 0x0d, 0x01, 0x01, 0x0b, 0x05, 0x00]

def ecdsaP256Sha256 : Bytes := [0x30, 0x0a, 0x06, 0x08, 0x2a, 0x86, 0x48, 0xce, 0x3d, 0x04, 0x03, 0x02]

/-- RSASSA-PSS with SHA-256 and a 32-byte salt. -/
def rsaPssSha256 : Bytes :=
  [0x30, 0x41, 0x06, 0x09, 0x2a, 0x86, 0x48, 0x86, 0xf7, 0x0d, 0x01, 0x01, 0x0a,
    0x30, 0x34,
    0xa0, 0x0f, 0x30, 0x0d, 0x06, 0x09, 0x60, 0x86, 0x48, 0x01, 0x65, 0x03, 0x04, 0x02, 0x01, 0x05, 0x00,
    0xa1, 0x1c, 0x30, 0x1a, 0x06, 0x09, 0x2a, 0x86, 0x48, 0x86, 0xf7, 0x0d, 0x01, 0x01, 0x08,
    0x30, 0x0d, 0x06, 0x09, 0x60, 0x86, 0x48, 0x01, 0x65, 0x03, 0x04, 0x02, 0x01, 0x05, 0x00,
    0xa2, 0x03, 0x02, 0x01, 0x20]

end sig_alg

def oidRsaEncryption : Oid := [1, 2, 840, 113549, 1, 1, 1]
def oidEcPublicKey : Oid := [1, 2, 840, 10045, 2, 1]
def oidSha256WithRsa : Oid := [1, 2, 840, 113549, 1, 1, 11]
def oidEcdsaWithSha256 : Oid := [1, 2, 840, 10045, 4, 3, 2]
def oidSubjectAltName : Oid := [2, 5, 29, 17]
def oidBasicConstraints : Oid := [2, 5, 29, 19]

inductive Scheme where
  | rsaPkcs1Sha256
  | rsaPssSha256
  | ecdsaP256Sha256
  deriving DecidableEq, Repr

def schemeOf (alg : Bytes) : Option Scheme :=
  if alg = sig_alg.rsaSha256 then some .rsaPkcs1Sha256
  else if alg = sig_alg.rsaPssSha256 then some .rsaPssSha256
  else if alg = sig_alg.ecdsaP256Sha256 then some .ecdsaP256Sha256
  else none

/-- `[len][DER AlgorithmIdentifier][signature]`. -/
def wrapAuthData (alg sig : Bytes) : Bytes := [UInt8.ofNat alg.length] ++ alg ++ sig

def parseAuthData (data : Bytes) : Result (Bytes × Bytes) :=
  match data with
  | [] => .error (.truncated 1 0)
  | l :: rest =>
      if data.length < 1 + l.toNat then .error (.truncated (1 + l.toNat) data.length)
      else .ok (rest.take l.toNat, rest.drop l.toNat)

inductive SigningKey where
  | rsaSha256 (key : Bytes)
  | ecdsaP256 (key : Bytes)
  deriving DecidableEq

namespace SigningKey

def algorithmId : SigningKey → Bytes
  | .rsaSha256 _ => sig_alg.rsaSha256
  | .ecdsaP256 _ => sig_alg.ecdsaP256Sha256

def signAuthData (P : Primitives) (key : SigningKey) (signedOctets : Bytes) : Result Bytes := do
  let digest := P.sha256 signedOctets
  let sig ← match key with
    | .rsaSha256 key => okOr (P.rsaPkcs1Sign key digest) (.crypto "RSA signing failed")
    | .ecdsaP256 key => okOr ((P.ecdsaSign key digest).map Prod.fst) (.crypto "ECDSA signing failed")
  .ok (wrapAuthData key.algorithmId sig)

/-- The classic method-9 signature: raw `r || s`. -/
def signEcdsaP256Raw (P : Primitives) (key : SigningKey) (signedOctets : Bytes) : Result Bytes :=
  match key with
  | .ecdsaP256 key =>
      okOr ((P.ecdsaSign key (P.sha256 signedOctets)).map Prod.snd) (.crypto "ECDSA signing failed")
  | .rsaSha256 _ => .error (.crypto "method 9 needs an ECDSA P-256 key")

end SigningKey

inductive VerifyingKey where
  | rsa (key : Bytes)
  | ecdsaP256 (key : Bytes)
  deriving DecidableEq

def decodeCert (P : Primitives) (certDer : Bytes) : Result X509 :=
  okOr (P.x509FromDer certDer) (.crypto "malformed certificate DER")

namespace VerifyingKey

def fromSpkiDer (P : Primitives) (spkiDer : Bytes) (algOid : Oid) : Result VerifyingKey :=
  if algOid = oidRsaEncryption then do
    let key ← okOr (P.rsaFromSpki spkiDer) (.crypto "malformed RSA public key")
    .ok (.rsa key)
  else if algOid = oidEcPublicKey then do
    let key ← okOr (P.p256FromSpki spkiDer) (.crypto "unsupported EC curve (need P-256)")
    .ok (.ecdsaP256 key)
  else .error (.crypto "unsupported certificate key algorithm")

def fromCertDer (P : Primitives) (certDer : Bytes) : Result VerifyingKey := do
  let cert ← decodeCert P certDer
  let spkiDer ← okOr cert.spki (.crypto "malformed SPKI")
  fromSpkiDer P spkiDer cert.spkiAlgorithm

def verifyAuthData (P : Primitives) (key : VerifyingKey) (authData signedOctets : Bytes) : Result Unit := do
  let (alg, sig) ← parseAuthData authData
  let scheme ← okOr (schemeOf alg) (.crypto "unsupported signature algorithm")
  let digest := P.sha256 signedOctets
  let verdict (good : Bool) : Result Unit := if good then .ok () else .error .authFailed
  match key, scheme with
  | .rsa pk, .rsaPkcs1Sha256 => verdict (P.rsaPkcs1Verify pk digest sig)
  | .rsa pk, .rsaPssSha256 => verdict (P.rsaPssVerify pk digest sig)
  | .ecdsaP256 vk, .ecdsaP256Sha256 => verdict (P.ecdsaVerify vk digest sig)
  | _, _ => .error (.crypto "signature algorithm does not match certificate key")

end VerifyingKey

/-- One hop of a chain: the leaf's signature under the issuer's key. -/
def verifyCertSignedBy (P : Primitives) (leafDer issuerDer : Bytes) : Result Unit := do
  let leaf ← okOr (P.x509FromDer leafDer) (.crypto "malformed leaf certificate")
  let issuerKey ← VerifyingKey.fromCertDer P issuerDer
  let tbs ← okOr leaf.tbs (.crypto "malformed TBS")
  let sig ← okOr leaf.signature (.crypto "unaligned cert signature")
  let digest := P.sha256 tbs
  let verdict (good : Bool) : Result Unit := if good then .ok () else .error .authFailed
  match issuerKey with
  | .rsa pk =>
      if leaf.signatureAlgorithm = oidSha256WithRsa then verdict (P.rsaPkcs1Verify pk digest sig)
      else .error (.crypto "unsupported certificate signature algorithm")
  | .ecdsaP256 vk =>
      if leaf.signatureAlgorithm = oidEcdsaWithSha256 then verdict (P.ecdsaVerify vk digest sig)
      else .error (.crypto "unsupported certificate signature algorithm")

def toAsciiLowercase (b : UInt8) : UInt8 := if 65 ≤ b ∧ b ≤ 90 then b + 32 else b

def eqIgnoreAsciiCase (a b : Bytes) : Bool := a.map toAsciiLowercase == b.map toAsciiLowercase

def hasDnsNameIn (P : Primitives) (name : Bytes) : List (Oid × Bytes) → Result Bool
  | [] => .ok false
  | (oid, value) :: rest =>
      if oid ≠ oidSubjectAltName then hasDnsNameIn P name rest
      else do
        let names ← okOr (P.subjectAltNames value) (.crypto "malformed SubjectAltName")
        if names.any (eqIgnoreAsciiCase · name) then .ok true else hasDnsNameIn P name rest

def certHasDnsName (P : Primitives) (certDer name : Bytes) : Result Bool := do
  let cert ← decodeCert P certDer
  match cert.extensions with
  | none => .ok false
  | some exts => hasDnsNameIn P name exts

def certValidity (P : Primitives) (certDer : Bytes) : Result (UInt64 × UInt64) := do
  let cert ← decodeCert P certDer
  .ok (cert.notBefore, cert.notAfter)

def certIsCa (P : Primitives) (certDer : Bytes) : Result Bool := do
  let cert ← decodeCert P certDer
  match cert.extensions with
  | none => .ok false
  | some exts =>
      match exts.find? (fun ext => ext.1 == oidBasicConstraints) with
      | none => .ok false
      | some (_, value) => okOr (P.basicConstraintsCa value) (.crypto "malformed BasicConstraints")

def subjectDn (P : Primitives) (certDer : Bytes) : Result Bytes := do
  let cert ← decodeCert P certDer
  okOr cert.subject (.crypto "bad subject DN")

def issuerDn (P : Primitives) (certDer : Bytes) : Result Bytes := do
  let cert ← decodeCert P certDer
  okOr cert.issuer (.crypto "bad issuer DN")

def withinValidity (P : Primitives) (certDer : Bytes) (nowUnix : UInt64) : Result Unit := do
  let (notBefore, notAfter) ← certValidity P certDer
  if nowUnix < notBefore ∨ nowUnix > notAfter then .error .authFailed else .ok ()

/-- Whether one of the anchors issued `current`; an anchor that cannot be read stops the search. -/
def reachesAnchor (P : Primitives) (current wantIssuer : Bytes) : List Bytes → Result Bool
  | [] => .ok false
  | anchor :: rest => do
      let subject ← subjectDn P anchor
      if subject = wantIssuer ∧ (verifyCertSignedBy P current anchor).isOk then .ok true
      else reachesAnchor P current wantIssuer rest

/-- At most `hops` steps up from `current`. -/
def climbChain (P : Primitives) (intermediates anchors : List Bytes) (nowUnix : UInt64) :
    Nat → Bytes → Result Unit
  | 0, _ => .error .authFailed
  | hops + 1, current => do
      withinValidity P current nowUnix
      let wantIssuer ← issuerDn P current
      let reached ← reachesAnchor P current wantIssuer anchors
      if reached then .ok ()
      else
        let next := intermediates.find? fun inter =>
          (match subjectDn P inter with | .ok subject => subject == wantIssuer | .error _ => false) &&
          (match certIsCa P inter with | .ok isCa => isCa | .error _ => false) &&
          (verifyCertSignedBy P current inter).isOk
        match next with
        | some inter => climbChain P intermediates anchors nowUnix hops inter
        | none => .error .authFailed

def validateChain (P : Primitives) (leafDer : Bytes) (intermediates anchors : List Bytes)
    (nowUnix : UInt64) : Result Unit :=
  climbChain P intermediates anchors nowUnix (intermediates.length + 1) leafDer

def checkDnsName (P : Primitives) (leafDer : Bytes) (expectedDns : Option Bytes) : Result Unit :=
  match expectedDns with
  | none => .ok ()
  | some name =>
      match certHasDnsName P leafDer name with
      | .ok true => .ok ()
      | _ => .error .authFailed

def verifyCertAuth (P : Primitives) (leafDer : Bytes) (intermediates trusted : List Bytes)
    (expectedDns : Option Bytes) (nowUnix : UInt64) (authData signedOctets : Bytes) : Result Unit := do
  if trusted.any (· == leafDer) then withinValidity P leafDer nowUnix
  else validateChain P leafDer intermediates trusted nowUnix
  checkDnsName P leafDer expectedDns
  let key ← VerifyingKey.fromCertDer P leafDer
  key.verifyAuthData P authData signedOctets

/-- The trust-anchor identifier of a CERTREQ payload. -/
def caKeyHash (P : Primitives) (certDer : Bytes) : Result Bytes := do
  let cert ← decodeCert P certDer
  let spkiDer ← okOr cert.spki (.crypto "malformed SPKI")
  .ok (P.sha1 spkiDer)

end Ryke.Ikev2
