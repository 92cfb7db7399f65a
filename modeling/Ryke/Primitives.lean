import Mathlib.Data.List.Forall2
import Ryke.Lib.Bytes

/-! What every exchange is built over: the error types, the two roles, sources of
randomness, socket addresses, and the cryptographic functions that ryke takes from other
crates. -/

namespace Ryke
open Lib

inductive IkeError where
  | truncated (need have_ : Nat)
  | badLength (declared available : Nat)
  | shortPayload (length : UInt16)
  | missingPayload (name : String)
  | noProposalChosen
  | dhGroupMismatch (expected got : UInt16)
  | badKeyExchange (group : UInt16) (len : Nat)
  | badIntegrity
  | authFailed
  | crypto (reason : String)
  deriving DecidableEq, Repr

abbrev Result := Except IkeError

def okOr {α : Type} (value : Option α) (error : IkeError) : Result α :=
  match value with
  | some value => .ok value
  | none => .error error

@[simp] theorem okOr_some {α : Type} (value : α) (error : IkeError) :
    okOr (some value) error = .ok value := rfl

@[simp] theorem okOr_none {α : Type} (error : IkeError) :
    okOr (none : Option α) error = .error error := rfl

theorem okOr_eq_ok {α : Type} {value : Option α} {error : IkeError} {result : α}
    (done : okOr value error = .ok result) : value = some result := by
  cases value with
  | none => cases done
  | some found => cases done; rfl

theorem ok_bind {α β : Type} (value : α) (next : α → Result β) :
    ((.ok value : Result α) >>= next) = next value := rfl

/-- A computation that succeeded had a first step that succeeded. -/
theorem bind_eq_ok {α β : Type} {first : Result α} {next : α → Result β} {result : β}
    (done : (first >>= next) = .ok result) : ∃ value, first = .ok value ∧ next value = .ok result := by
  cases first with
  | error error => cases done
  | ok value => exact ⟨value, rfl, done⟩

theorem bind_eq_error {α β : Type} {first : Result α} {next : α → Result β} {error : IkeError}
    (failed : (first >>= next) = .error error) :
    first = .error error ∨ ∃ value, first = .ok value ∧ next value = .error error := by
  cases first with
  | error error =>
    cases failed
    exact .inl rfl
  | ok value => exact .inr ⟨value, rfl, failed⟩

/-- What comes behind an early return comes behind its test. -/
theorem guard_eq_ok {α : Type} {c : Prop} [Decidable c] {error : IkeError} {rest : Result α} {value : α}
    (done : (if c then .error error else rest) = .ok value) : ¬ c ∧ rest = .ok value := by
  by_cases test : c
  · rw [if_pos test] at done
    cases done
  · rw [if_neg test] at done
    exact ⟨test, done⟩

theorem toOption_eq_some {α : Type} {result : Result α} {value : α} (known : result.toOption = some value) :
    result = .ok value := by
  cases result with
  | error error => cases known
  | ok found => cases known; rfl

theorem exists_of_any {α : Type} {result : Result α} {p : α → Bool} (checked : result.toOption.any p = true) :
    ∃ value, result = .ok value ∧ p value = true := by
  cases result with
  | error error => cases checked
  | ok value => exact ⟨value, rfl, checked⟩

theorem exists_of_isOk {α : Type} {result : Result α} (succeeds : result.isOk = true) :
    ∃ value, result = .ok value := by
  cases result with
  | error error => cases succeeds
  | ok value => exact ⟨value, rfl⟩

theorem exists_of_map_snd {α β : Type} {result : Result (α × β)} {second : β}
    (known : result.map Prod.snd = .ok second) : ∃ first, result = .ok (first, second) := by
  cases result with
  | error error => cases known
  | ok pair =>
    cases known
    exact ⟨pair.1, rfl⟩

/-- `collect::<Result<_, _>>` succeeds when every item does. -/
theorem mapM_eq_ok {α β : Type} {f : α → Result β} {list : List α} {results : List β} :
    list.mapM f = .ok results ↔ List.Forall₂ (fun a b => f a = .ok b) list results := by
  induction list generalizing results with
  | nil =>
    rw [List.mapM_nil]
    constructor
    · intro same
      cases same
      exact .nil
    · intro each
      cases each
      rfl
  | cons a rest ih =>
    rw [List.mapM_cons]
    constructor
    · intro done
      obtain ⟨b, first, done⟩ := bind_eq_ok done
      obtain ⟨later, others, done⟩ := bind_eq_ok done
      cases done
      exact .cons first (ih.mp others)
    · intro each
      cases each with
      | cons first others => rw [first, ok_bind, ih.mpr others, ok_bind]; rfl

theorem exists_of_mem_mapM {α β : Type} {f : α → Result β} {list : List α} {results : List β}
    (done : list.mapM f = .ok results) {b : β} (member : b ∈ results) : ∃ a ∈ list, f a = .ok b := by
  have each := mapM_eq_ok.mp done
  clear done
  induction each with
  | nil => cases member
  | cons here _ ih =>
    rcases List.mem_cons.mp member with rfl | inRest
    · exact ⟨_, List.mem_cons_self, here⟩
    · obtain ⟨a, isItem, found⟩ := ih inRest
      exact ⟨a, List.mem_cons_of_mem _ isItem, found⟩

inductive Role where
  | initiator
  | responder
  deriving DecidableEq, Inhabited, Repr

/-- A source of random bytes: `fill` answers a request for `n` bytes. -/
class Entropy (ε : Type) where
  fill : ε → Nat → Bytes × ε
  fill_length : ∀ source n, (fill source n).1.length = n

namespace Entropy

def nextU64 {ε : Type} [Entropy ε] (source : ε) : UInt64 × ε :=
  let (bytes, source) := fill source 8
  (u64At bytes 0, source)

def nextArray32 {ε : Type} [Entropy ε] (source : ε) : Bytes × ε := fill source 32

end Entropy

/-- SplitMix64, the deterministic source of the repository's own tests. -/
structure SeedEntropy where
  state : UInt64
  deriving DecidableEq, Repr

namespace SeedEntropy

def next (source : SeedEntropy) : UInt64 × SeedEntropy :=
  let state := source.state + 0x9E3779B97F4A7C15
  let z := (state ^^^ (state >>> 30)) * 0xBF58476D1CE4E5B9
  let z := (z ^^^ (z >>> 27)) * 0x94D049BB133111EB
  (z ^^^ (z >>> 31), ⟨state⟩)

def fillChunks : Nat → SeedEntropy → Nat → Bytes × SeedEntropy
  | 0, source, _ => ([], source)
  | chunks + 1, source, n =>
      let (word, source) := source.next
      let (rest, source) := fillChunks chunks source (n - 8)
      ((u64Bytes word).take n ++ rest, source)

theorem fillChunks_length (chunks : Nat) (source : SeedEntropy) (n : Nat) (enough : n ≤ 8 * chunks) :
    (fillChunks chunks source n).1.length = n := by
  induction chunks generalizing source n with
  | zero => simp only [fillChunks, List.length_nil]; omega
  | succ chunks ih =>
    simp only [fillChunks, List.length_append, List.length_take, u64Bytes_length]
    rw [ih _ _ (by omega)]
    omega

instance : Entropy SeedEntropy where
  fill source n := fillChunks ((n + 7) / 8) source n
  fill_length source n := fillChunks_length _ source n (by omega)

end SeedEntropy

/-! ## The socket -/

structure Ipv4Addr where
  a : UInt8
  b : UInt8
  c : UInt8
  d : UInt8
  deriving DecidableEq, Repr

def Ipv4Addr.octets (addr : Ipv4Addr) : Bytes := [addr.a, addr.b, addr.c, addr.d]

inductive IpAddr where
  | v4 (addr : Ipv4Addr)
  | v6 (addr : Vector UInt8 16)
  deriving DecidableEq, Repr

def IpAddr.octets : IpAddr → Bytes
  | .v4 addr => addr.octets
  | .v6 addr => addr.toList

structure SocketAddr where
  ip : IpAddr
  port : UInt16
  deriving DecidableEq, Repr

inductive DriverError where
  | io
  | ike (error : IkeError)
  deriving DecidableEq, Repr

/-! ## Cryptography -/

abbrev Oid := List Nat

/-- The fields of a decoded X.509 certificate that the code reads. A field that is
re-encoded on the way is `none` where that encoding fails. -/
structure X509 where
  tbs : Option Bytes
  subject : Option Bytes
  issuer : Option Bytes
  notBefore : UInt64
  notAfter : UInt64
  spki : Option Bytes
  spkiAlgorithm : Oid
  signature : Option Bytes
  signatureAlgorithm : Oid
  extensions : Option (List (Oid × Bytes))

/-- The functions of the hmac, sha2, sha1, md4, des, x25519-dalek, aes-gcm, cbc, x509
and signature crates. The lengths are those of the crates' own array types. -/
structure Primitives where
  hmacSha256 : Bytes → Bytes → Bytes
  hmacSha1 : Bytes → Bytes → Bytes
  sha256 : Bytes → Bytes
  sha1 : Bytes → Bytes
  md4 : Bytes → Bytes
  desEncryptBlock : Bytes → Bytes → Bytes
  x25519Public : Bytes → Bytes
  x25519Shared : Bytes → Bytes → Bytes
  /-- AES-256-GCM over key, nonce, associated data and message. -/
  gcmEncrypt : Bytes → Bytes → Bytes → Bytes → Option Bytes
  gcmDecrypt : Bytes → Bytes → Bytes → Bytes → Option Bytes
  /-- AES-256-CBC without padding over key, IV and a block-aligned text. -/
  cbcEncrypt : Bytes → Bytes → Bytes → Bytes
  cbcDecrypt : Bytes → Bytes → Bytes → Bytes
  x509FromDer : Bytes → Option X509
  subjectAltNames : Bytes → Option (List Bytes)
  basicConstraintsCa : Bytes → Option Bool
  rsaFromSpki : Bytes → Option Bytes
  p256FromSpki : Bytes → Option Bytes
  rsaPkcs1Verify : Bytes → Bytes → Bytes → Bool
  rsaPssVerify : Bytes → Bytes → Bytes → Bool
  ecdsaVerify : Bytes → Bytes → Bytes → Bool
  rsaPkcs1Sign : Bytes → Bytes → Option Bytes
  ecdsaSign : Bytes → Bytes → Option (Bytes × Bytes)
  hmacSha256_length : ∀ key data, (hmacSha256 key data).length = 32
  hmacSha1_length : ∀ key data, (hmacSha1 key data).length = 20
  sha256_length : ∀ data, (sha256 data).length = 32
  sha1_length : ∀ data, (sha1 data).length = 20
  md4_length : ∀ data, (md4 data).length = 16
  desEncryptBlock_length : ∀ key block, (desEncryptBlock key block).length = 8
  x25519Public_length : ∀ secret, (x25519Public secret).length = 32
  x25519Shared_length : ∀ secret peer, (x25519Shared secret peer).length = 32
  /-- The ciphertext carries a 16-byte tag. -/
  gcmEncrypt_length : ∀ key nonce aad msg sealed,
    gcmEncrypt key nonce aad msg = some sealed → sealed.length = msg.length + 16
  cbcEncrypt_length : ∀ key iv text, (cbcEncrypt key iv text).length = text.length
  cbcDecrypt_length : ∀ key iv text, (cbcDecrypt key iv text).length = text.length

namespace Primitives

/-- AES-GCM opens what it sealed. -/
def GcmCorrect (P : Primitives) : Prop :=
  ∀ key nonce aad msg sealed, P.gcmEncrypt key nonce aad msg = some sealed →
    P.gcmDecrypt key nonce aad sealed = some msg

/-- AES-GCM seals whatever fits a datagram, under a key and a nonce of the right size. -/
def GcmSeals (P : Primitives) : Prop :=
  ∀ key nonce aad msg, key.length = 32 → nonce.length = 12 → msg.length < 65536 →
    (P.gcmEncrypt key nonce aad msg).isSome = true

/-- A sealed text of the list opens only whole, and only under the key, nonce and associated
data it was sealed with; it then gives the message back. -/
def GcmIdeal (P : Primitives) (texts : List Bytes) : Prop :=
  ∀ key nonce aad msg front lost key' nonce' aad' msg', front ++ lost ∈ texts →
    P.gcmEncrypt key nonce aad msg = some (front ++ lost) →
    P.gcmDecrypt key' nonce' aad' front = some msg' →
    lost = [] ∧ key' = key ∧ nonce' = nonce ∧ aad' = aad ∧ msg' = msg

theorem GcmIdeal.mono {P : Primitives} {more fewer : List Bytes} (ideal : P.GcmIdeal more)
    (within : ∀ text ∈ fewer, text ∈ more) : P.GcmIdeal fewer :=
  fun _ _ _ _ _ _ _ _ _ _ sealed => ideal _ _ _ _ _ _ _ _ _ _ (within _ sealed)

theorem GcmIdeal.single {P : Primitives} {texts : List Bytes} (ideal : P.GcmIdeal texts) {text : Bytes}
    (member : text ∈ texts) : P.GcmIdeal [text] :=
  ideal.mono fun _ inside => List.mem_singleton.mp inside ▸ member

/-- AES-CBC decryption undoes encryption, under a key and an IV of the right size. -/
def CbcCorrect (P : Primitives) : Prop :=
  ∀ key iv text, key.length = 32 → iv.length = 16 → text.length % 16 = 0 →
    P.cbcDecrypt key iv (P.cbcEncrypt key iv text) = text

/-- X25519 agrees: each side's secret with the other's public value. -/
def X25519Commutes (P : Primitives) : Prop :=
  ∀ a b, P.x25519Shared a (P.x25519Public b) = P.x25519Shared b (P.x25519Public a)

/-- HMAC-SHA256 has no collision among the (key, data) pairs of a set. -/
def NoCollision (P : Primitives) (queries : List (Bytes × Bytes)) : Prop :=
  ∀ first ∈ queries, ∀ second ∈ queries,
    P.hmacSha256 first.1 first.2 = P.hmacSha256 second.1 second.2 → first = second

end Primitives

end Ryke
