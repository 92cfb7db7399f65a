import Mathlib.Data.List.Chain
import Ryke.Lib.Climb
import Ryke.Ikev2.Sign
import Ryke.Toy

/-! The path behind an accepted certificate. What the search accepts is a path to an anchor
with every hop checked; but it takes the first issuer that fits and never another, so a
path that exists may be missed for the order of the lists. -/

namespace Ryke.Ikev2
open Lib

/-! ## Certificates -/

/-- The certificate's validity covers the time. -/
def InForce (P : Primitives) (certDer : Bytes) (nowUnix : UInt64) : Prop :=
  ∃ cert, P.x509FromDer certDer = some cert ∧ cert.notBefore ≤ nowUnix ∧ nowUnix ≤ cert.notAfter

/-- The issuer's name is the one in the certificate, and its key verifies the signature. -/
def IssuedBy (P : Primitives) (certDer issuerDer : Bytes) : Prop :=
  ∃ name, issuerDn P certDer = .ok name ∧ subjectDn P issuerDer = .ok name ∧
    verifyCertSignedBy P certDer issuerDer = .ok ()

def AssertsCa (P : Primitives) (certDer : Bytes) : Prop := certIsCa P certDer = .ok true

/-- One of the names in a SubjectAltName extension is the expected one, up to ASCII case. -/
def Vouches (P : Primitives) (certDer name : Bytes) : Prop :=
  ∃ cert exts value names, P.x509FromDer certDer = some cert ∧ cert.extensions = some exts ∧
    (oidSubjectAltName, value) ∈ exts ∧ P.subjectAltNames value = some names ∧
    ∃ dns ∈ names, eqIgnoreAsciiCase dns name = true

theorem withinValidity_eq_ok {P : Primitives} {certDer : Bytes} {nowUnix : UInt64} :
    withinValidity P certDer nowUnix = .ok () ↔ InForce P certDer nowUnix := by
  constructor
  · intro valid
    obtain ⟨⟨notBefore, notAfter⟩, window, valid⟩ := bind_eq_ok valid
    obtain ⟨cert, decoded, window⟩ := bind_eq_ok window
    obtain ⟨inside, -⟩ := guard_eq_ok valid
    cases window
    rw [not_or, UInt64.not_lt, UInt64.not_lt] at inside
    exact ⟨cert, okOr_eq_ok decoded, inside.1, inside.2⟩
  · rintro ⟨cert, decoded, started, notOver⟩
    have inside : ¬ (nowUnix < cert.notBefore ∨ nowUnix > cert.notAfter) := by
      rw [not_or, UInt64.not_lt, UInt64.not_lt]
      exact ⟨started, notOver⟩
    rw [withinValidity, certValidity, decodeCert, decoded, okOr_some, ok_bind, ok_bind]
    dsimp only
    rw [if_neg inside]

theorem hasDnsNameIn_eq_ok_true {P : Primitives} {name : Bytes} {exts : List (Oid × Bytes)}
    (found : hasDnsNameIn P name exts = .ok true) :
    ∃ value names, (oidSubjectAltName, value) ∈ exts ∧ P.subjectAltNames value = some names ∧
      ∃ dns ∈ names, eqIgnoreAsciiCase dns name = true := by
  induction exts with
  | nil => cases found
  | cons ext rest ih =>
    obtain ⟨oid, value⟩ := ext
    rw [hasDnsNameIn] at found
    split at found
    next =>
      obtain ⟨value, names, member, more⟩ := ih found
      exact ⟨value, names, List.mem_cons_of_mem _ member, more⟩
    next isSan =>
      obtain ⟨names, decoded, found⟩ := bind_eq_ok found
      split at found
      next listed =>
        obtain ⟨dns, member, same⟩ := List.any_eq_true.mp listed
        refine ⟨value, names, ?_, okOr_eq_ok decoded, dns, member, same⟩
        rw [not_not.mp isSan]
        exact List.mem_cons_self
      next =>
        obtain ⟨value, names, member, more⟩ := ih found
        exact ⟨value, names, List.mem_cons_of_mem _ member, more⟩

theorem vouches_of_checkDnsName {P : Primitives} {leafDer name : Bytes} {expectedDns : Option Bytes}
    (checked : checkDnsName P leafDer expectedDns = .ok ()) (expected : expectedDns = some name) :
    Vouches P leafDer name := by
  unfold checkDnsName at checked
  rw [expected] at checked
  dsimp only at checked
  split at checked
  next has =>
    obtain ⟨cert, decoded, has⟩ := bind_eq_ok has
    split at has
    next => cases has
    next exts hasExts =>
      obtain ⟨value, names, member, read, more⟩ := hasDnsNameIn_eq_ok_true has
      exact ⟨cert, exts, value, names, okOr_eq_ok decoded, hasExts, member, read, more⟩
  next => cases checked

/-! ## Paths -/

/-- A path from the leaf over intermediates to an anchor, every hop checked. -/
structure CertPath (P : Primitives) (intermediates anchors : List Bytes) (nowUnix : UInt64) (leafDer : Bytes)
    (rest : List Bytes) : Prop where
  inForce : ∀ certDer ∈ leafDer :: rest, InForce P certDer nowUnix
  cas : ∀ certDer ∈ rest, certDer ∈ intermediates ∧ AssertsCa P certDer
  linked : List.IsChain (IssuedBy P) (leafDer :: rest)
  anchored : ∃ anchor ∈ anchors, IssuedBy P ((leafDer :: rest).getLast (List.cons_ne_nil _ _)) anchor

/-! ## The search as a climb -/

def issues (P : Primitives) (certDer issuerDer : Bytes) : Bool :=
  match issuerDn P certDer, subjectDn P issuerDer with
  | .ok wanted, .ok subject => subject == wanted && (verifyCertSignedBy P certDer issuerDer).isOk
  | _, _ => false

/-- A certificate can be stood on while it is in force and names its issuer; an anchor that
issued it ends the climb, a CA that issued it is a step up. -/
def certSlope (P : Primitives) (anchors : List Bytes) (nowUnix : UInt64) : Slope Bytes where
  usable certDer := (withinValidity P certDer nowUnix).isOk && (issuerDn P certDer).isOk
  top certDer := anchors.any (issues P certDer)
  up certDer issuerDer :=
    issues P certDer issuerDer && (match certIsCa P issuerDer with | .ok isCa => isCa | .error _ => false)

theorem issues_iff {P : Primitives} {certDer issuerDer : Bytes} :
    issues P certDer issuerDer = true ↔ IssuedBy P certDer issuerDer := by
  unfold issues IssuedBy
  cases wanted : issuerDn P certDer with
  | error error =>
    constructor
    · intro issued
      cases issued
    · rintro ⟨name, names, -⟩
      cases names
  | ok name =>
    cases named : subjectDn P issuerDer with
    | error error =>
      constructor
      · intro issued
        cases issued
      · rintro ⟨name, -, names, -⟩
        cases names
    | ok subject =>
      dsimp only
      rw [Bool.and_eq_true, beq_iff_eq]
      constructor
      · rintro ⟨rfl, verifies⟩
        obtain ⟨⟨⟩, verified⟩ := exists_of_isOk verifies
        exact ⟨subject, rfl, rfl, verified⟩
      · rintro ⟨shared, wants, names, verified⟩
        rw [verified]
        exact ⟨(Except.ok.inj names).trans (Except.ok.inj wants).symm, rfl⟩

theorem issues_eq {P : Primitives} {certDer wanted : Bytes} (names : issuerDn P certDer = .ok wanted)
    (issuerDer : Bytes) : issues P certDer issuerDer =
      ((match subjectDn P issuerDer with | .ok subject => subject == wanted | .error _ => false) &&
        (verifyCertSignedBy P certDer issuerDer).isOk) := by
  unfold issues
  rw [names]
  cases subjectDn P issuerDer <;> rfl

theorem reachesAnchor_eq {P : Primitives} {certDer wanted : Bytes} {anchors : List Bytes} {reached : Bool}
    (names : issuerDn P certDer = .ok wanted) (done : reachesAnchor P certDer wanted anchors = .ok reached) :
    reached = anchors.any (issues P certDer) := by
  induction anchors with
  | nil =>
    cases done
    rfl
  | cons anchor rest ih =>
    obtain ⟨subject, named, done⟩ := bind_eq_ok done
    have here : issues P certDer anchor = (subject == wanted && (verifyCertSignedBy P certDer anchor).isOk) := by
      rw [issues_eq names, named]
    rw [List.any_cons, here]
    split at done
    next found =>
      cases done
      rw [beq_iff_eq.mpr found.1, found.2]
      rfl
    next notFound =>
      have no : (subject == wanted && (verifyCertSignedBy P certDer anchor).isOk) = false := by
        rw [← Bool.not_eq_true, Bool.and_eq_true, beq_iff_eq]
        exact notFound
      rw [no, Bool.false_or]
      exact ih done

theorem exists_reachesAnchor {P : Primitives} {anchors : List Bytes}
    (readable : ∀ anchor ∈ anchors, (subjectDn P anchor).isOk = true) (certDer wanted : Bytes) :
    ∃ reached, reachesAnchor P certDer wanted anchors = .ok reached := by
  induction anchors with
  | nil => exact ⟨false, rfl⟩
  | cons anchor rest ih =>
    obtain ⟨subject, named⟩ := exists_of_isOk (readable anchor List.mem_cons_self)
    rw [reachesAnchor, named, ok_bind]
    by_cases found : subject = wanted ∧ (verifyCertSignedBy P certDer anchor).isOk = true
    · exact ⟨true, if_pos found⟩
    · rw [if_neg found]
      exact ih fun other member => readable other (List.mem_cons_of_mem _ member)

theorem find_issuer {P : Primitives} {certDer wanted : Bytes} (names : issuerDn P certDer = .ok wanted)
    (intermediates anchors : List Bytes) (nowUnix : UInt64) :
    (intermediates.find? fun inter =>
      (match subjectDn P inter with | .ok subject => subject == wanted | .error _ => false) &&
      (match certIsCa P inter with | .ok isCa => isCa | .error _ => false) &&
      (verifyCertSignedBy P certDer inter).isOk) = intermediates.find? ((certSlope P anchors nowUnix).up certDer) := by
  congr 1
  funext inter
  change _ = (issues P certDer inter && _)
  rw [issues_eq names, Bool.and_right_comm]

theorem usable_eq_true {P : Primitives} {anchors : List Bytes} {nowUnix : UInt64} {certDer : Bytes} :
    (certSlope P anchors nowUnix).usable certDer = true ↔
      withinValidity P certDer nowUnix = .ok () ∧ ∃ wanted, issuerDn P certDer = .ok wanted := by
  change ((withinValidity P certDer nowUnix).isOk && (issuerDn P certDer).isOk) = true ↔ _
  rw [Bool.and_eq_true]
  constructor
  · rintro ⟨valid, names⟩
    obtain ⟨⟨⟩, valid⟩ := exists_of_isOk valid
    exact ⟨valid, exists_of_isOk names⟩
  · rintro ⟨valid, wanted, names⟩
    rw [valid, names]
    exact ⟨rfl, rfl⟩

theorem up_eq_true {P : Primitives} {anchors : List Bytes} {nowUnix : UInt64} {certDer issuerDer : Bytes} :
    (certSlope P anchors nowUnix).up certDer issuerDer = true ↔ IssuedBy P certDer issuerDer ∧ AssertsCa P issuerDer := by
  change (issues P certDer issuerDer && _) = true ↔ _
  rw [Bool.and_eq_true, issues_iff, AssertsCa]
  apply and_congr_right
  intro _
  cases certIsCa P issuerDer with
  | error error => exact ⟨nofun, nofun⟩
  | ok isCa => exact ⟨congrArg Except.ok, Except.ok.inj⟩

theorem top_eq_true {P : Primitives} {anchors : List Bytes} {nowUnix : UInt64} {certDer : Bytes} :
    (certSlope P anchors nowUnix).top certDer = true ↔ ∃ anchor ∈ anchors, IssuedBy P certDer anchor := by
  change anchors.any (issues P certDer) = true ↔ _
  rw [List.any_eq_true]
  exact exists_congr fun anchor => and_congr_right fun _ => issues_iff

theorem climb_of_climbChain {P : Primitives} {intermediates anchors : List Bytes} {nowUnix : UInt64} {hops : Nat}
    {certDer : Bytes} (accepted : climbChain P intermediates anchors nowUnix hops certDer = .ok ()) :
    (certSlope P anchors nowUnix).climb intermediates hops certDer = true := by
  induction hops generalizing certDer with
  | zero => cases accepted
  | succ hops ih =>
    obtain ⟨⟨⟩, valid, accepted⟩ := bind_eq_ok accepted
    obtain ⟨wanted, names, accepted⟩ := bind_eq_ok accepted
    obtain ⟨reached, scanned, accepted⟩ := bind_eq_ok accepted
    have usable : (certSlope P anchors nowUnix).usable certDer = true :=
      usable_eq_true.mpr ⟨valid, wanted, names⟩
    split at accepted
    next isTop => exact Slope.climb_of_top usable ((reachesAnchor_eq names scanned).symm.trans isTop) hops
    next =>
      dsimp only at accepted
      split at accepted
      next next first =>
        exact Slope.climb_of_step usable ((find_issuer names intermediates anchors nowUnix).symm.trans first) (ih accepted)
      next => cases accepted

theorem climbChain_of_climb {P : Primitives} {intermediates anchors : List Bytes} {nowUnix : UInt64}
    (readable : ∀ anchor ∈ anchors, (subjectDn P anchor).isOk = true) {hops : Nat} {certDer : Bytes}
    (climbs : (certSlope P anchors nowUnix).climb intermediates hops certDer = true) :
    climbChain P intermediates anchors nowUnix hops certDer = .ok () := by
  induction hops generalizing certDer with
  | zero => cases climbs
  | succ hops ih =>
    obtain ⟨usable, goes⟩ := Slope.climb_succ climbs
    obtain ⟨valid, wanted, names⟩ := usable_eq_true.mp usable
    obtain ⟨reached, scanned⟩ := exists_reachesAnchor readable certDer wanted
    rw [climbChain, valid, ok_bind, names, ok_bind, scanned, ok_bind, reachesAnchor_eq names scanned]
    by_cases isTop : anchors.any (issues P certDer) = true
    · rw [if_pos isTop]
    · obtain ⟨next, first, later⟩ := goes.resolve_left isTop
      have found := (find_issuer names intermediates anchors nowUnix).trans first
      rw [if_neg isTop]
      dsimp only
      split
      next other isFirst =>
        obtain rfl := Option.some.inj (found.symm.trans isFirst)
        exact ih later
      next noFirst => cases found.symm.trans noFirst

/-- The paths of the climb are the certificate paths. -/
theorem path_iff_certPath {P : Primitives} {intermediates anchors : List Bytes} {nowUnix : UInt64}
    {leafDer : Bytes} {rest : List Bytes} :
    Slope.Path (certSlope P anchors nowUnix) intermediates leafDer rest ↔
      CertPath P intermediates anchors nowUnix leafDer rest := by
  constructor
  · intro path
    induction path with
    | @top certDer usable isTop =>
      have valid := withinValidity_eq_ok.mp (usable_eq_true.mp usable).1
      refine ⟨?_, fun other member => absurd member List.not_mem_nil, .singleton certDer, top_eq_true.mp isTop⟩
      intro other member
      rwa [List.mem_singleton.mp member]
    | @step certDer next rest usable member up _ ih =>
      have valid := withinValidity_eq_ok.mp (usable_eq_true.mp usable).1
      obtain ⟨issued, isCa⟩ := up_eq_true.mp up
      refine ⟨?_, ?_, List.isChain_cons_cons.mpr ⟨issued, ih.linked⟩, ?_⟩
      · exact List.forall_mem_cons.mpr ⟨valid, ih.inForce⟩
      · exact List.forall_mem_cons.mpr ⟨⟨member, isCa⟩, ih.cas⟩
      · rw [List.getLast_cons_cons]
        exact ih.anchored
  · intro path
    induction rest generalizing leafDer with
    | nil =>
      obtain ⟨anchor, member, issued⟩ := path.anchored
      obtain ⟨name, names, -⟩ := id issued
      have valid := withinValidity_eq_ok.mpr (path.inForce leafDer List.mem_cons_self)
      exact .top (usable_eq_true.mpr ⟨valid, name, names⟩) (top_eq_true.mpr ⟨anchor, member, issued⟩)
    | cons next rest ih =>
      obtain ⟨issued, linked⟩ := List.isChain_cons_cons.mp path.linked
      obtain ⟨name, names, -⟩ := id issued
      obtain ⟨member, isCa⟩ := path.cas next List.mem_cons_self
      have valid := withinValidity_eq_ok.mpr (path.inForce leafDer List.mem_cons_self)
      have anchored := path.anchored
      rw [List.getLast_cons_cons] at anchored
      exact .step (usable_eq_true.mpr ⟨valid, name, names⟩) member (up_eq_true.mpr ⟨issued, isCa⟩)
        (ih ⟨fun other inRest => path.inForce other (List.mem_cons_of_mem _ inRest),
          fun other inRest => path.cas other (List.mem_cons_of_mem _ inRest), linked, anchored⟩)

theorem certPath_of_validateChain {P : Primitives} {leafDer : Bytes} {intermediates anchors : List Bytes}
    {nowUnix : UInt64} (accepted : validateChain P leafDer intermediates anchors nowUnix = .ok ()) :
    ∃ rest, CertPath P intermediates anchors nowUnix leafDer rest ∧ rest.length ≤ intermediates.length := by
  obtain ⟨rest, path, short⟩ := Slope.path_of_climb (climb_of_climbChain accepted)
  exact ⟨rest, path_iff_certPath.mp path, Nat.le_of_lt_succ short⟩

/-! ## Soundness -/

theorem leaf_of_verified {P : Primitives} {leafDer authData signedOctets : Bytes} {expectedDns : Option Bytes}
    (accepted : (do
      checkDnsName P leafDer expectedDns
      let key ← VerifyingKey.fromCertDer P leafDer
      key.verifyAuthData P authData signedOctets) = .ok ()) :
    (∀ name, expectedDns = some name → Vouches P leafDer name) ∧
      ∃ key, VerifyingKey.fromCertDer P leafDer = .ok key ∧ key.verifyAuthData P authData signedOctets = .ok () := by
  obtain ⟨⟨⟩, checked, accepted⟩ := bind_eq_ok accepted
  obtain ⟨key, ofLeaf, verified⟩ := bind_eq_ok accepted
  exact ⟨fun name expected => vouches_of_checkDnsName checked expected, key, ofLeaf, verified⟩

/-- Behind an accepted chain there is a path to an anchor; behind an accepted AUTH also the
expected name and a signature under the leaf's key. -/
theorem certPath_sound (P : Primitives) (leafDer : Bytes) (intermediates anchors : List Bytes) (nowUnix : UInt64) :
    (validateChain P leafDer intermediates anchors nowUnix = .ok () →
      ∃ rest, CertPath P intermediates anchors nowUnix leafDer rest ∧ rest.length ≤ intermediates.length) ∧
    ∀ (expectedDns : Option Bytes) (authData signedOctets : Bytes),
      verifyCertAuth P leafDer intermediates anchors expectedDns nowUnix authData signedOctets = .ok () →
      ((leafDer ∈ anchors ∧ InForce P leafDer nowUnix) ∨
        ∃ rest, CertPath P intermediates anchors nowUnix leafDer rest ∧ rest.length ≤ intermediates.length) ∧
      (∀ name, expectedDns = some name → Vouches P leafDer name) ∧
      ∃ key, VerifyingKey.fromCertDer P leafDer = .ok key ∧
        key.verifyAuthData P authData signedOctets = .ok () := by
  refine ⟨certPath_of_validateChain, ?_⟩
  intro expectedDns authData signedOctets accepted
  unfold verifyCertAuth at accepted
  split at accepted
  next pinned =>
    obtain ⟨⟨⟩, valid, accepted⟩ := bind_eq_ok accepted
    obtain ⟨pin, member, same⟩ := List.any_eq_true.mp pinned
    rw [beq_iff_eq] at same
    exact ⟨.inl ⟨same ▸ member, withinValidity_eq_ok.mp valid⟩, leaf_of_verified accepted⟩
  next =>
    obtain ⟨⟨⟩, chained, accepted⟩ := bind_eq_ok accepted
    exact ⟨.inr (certPath_of_validateChain chained), leaf_of_verified accepted⟩

namespace Toy
open Ryke.Toy

/-- Certificates of five bytes: subject, issuer, the two ends of the validity, and the CA
flag. A key is its subject, a signature its issuer. -/
def pki : Primitives :=
  { toy with
    x509FromDer := fun der =>
      if der.length ≠ 5 then none
      else some {
        tbs := some der
        subject := some [byteAt der 0]
        issuer := some [byteAt der 1]
        notBefore := (byteAt der 2).toUInt64
        notAfter := (byteAt der 3).toUInt64
        spki := some [byteAt der 0]
        spkiAlgorithm := oidRsaEncryption
        signature := some [byteAt der 1]
        signatureAlgorithm := oidSha256WithRsa
        extensions := some [(oidBasicConstraints, [byteAt der 4]), (oidSubjectAltName, [byteAt der 0])] }
    basicConstraintsCa := fun value => some (value == [1])
    rsaPkcs1Verify := fun key _ signature => signature == key }

def leafCert : Bytes := [1, 2, 0, 100, 0]
def caCert : Bytes := [2, 3, 0, 100, 1]
def rootCert : Bytes := [3, 3, 0, 100, 1]

def expiredCaCert : Bytes := [2, 3, 0, 10, 1]

end Toy

theorem certPath_sound_one_hop :
    (∃ rest, CertPath Toy.pki [Toy.caCert] [Toy.rootCert] 50 Toy.leafCert rest ∧ rest.length ≤ 1) ∧
      Vouches Toy.pki Toy.leafCert [1] := by
  have sound := certPath_sound Toy.pki Toy.leafCert [Toy.caCert] [Toy.rootCert] 50
  have chained : validateChain Toy.pki Toy.leafCert [Toy.caCert] [Toy.rootCert] 50 = .ok () := by decide +kernel
  have verified : verifyCertAuth Toy.pki Toy.leafCert [Toy.caCert] [Toy.rootCert] (some [1]) 50
      (wrapAuthData sig_alg.rsaSha256 [1]) [] = .ok () := by decide +kernel
  exact ⟨sound.1 chained, (sound.2 (some [1]) _ [] verified).2.1 [1] rfl⟩

/-! ## The order of the lists -/

/-- The search gives the same answer for every order of its lists, and misses no path. -/
structure OrderFree (P : Primitives) (leafDer : Bytes) (intermediates anchors : List Bytes) (nowUnix : UInt64) :
    Prop where
  order : ∀ intermediates' anchors' : List Bytes, intermediates'.Perm intermediates → anchors'.Perm anchors →
    (validateChain P leafDer intermediates' anchors' nowUnix = .ok () ↔
      validateChain P leafDer intermediates anchors nowUnix = .ok ())
  complete : (∃ rest, CertPath P intermediates anchors nowUnix leafDer rest) →
    validateChain P leafDer intermediates anchors nowUnix = .ok ()

theorem CertPath.perm {P : Primitives} {intermediates intermediates' anchors anchors' : List Bytes} {nowUnix : UInt64}
    {leafDer : Bytes} {rest : List Bytes} (path : CertPath P intermediates anchors nowUnix leafDer rest)
    (sameCas : intermediates.Perm intermediates') (sameAnchors : anchors.Perm anchors') :
    CertPath P intermediates' anchors' nowUnix leafDer rest := by
  obtain ⟨anchor, member, issued⟩ := path.anchored
  refine ⟨path.inForce, fun certDer inRest => ?_, path.linked, anchor, sameAnchors.mem_iff.mp member, issued⟩
  obtain ⟨isIntermediate, isCa⟩ := path.cas certDer inRest
  exact ⟨sameCas.mem_iff.mp isIntermediate, isCa⟩

theorem certSlope_perm (P : Primitives) {anchors anchors' : List Bytes} (same : anchors.Perm anchors')
    (nowUnix : UInt64) : certSlope P anchors nowUnix = certSlope P anchors' nowUnix := by
  have top : (fun certDer => anchors.any (issues P certDer)) = fun certDer => anchors'.any (issues P certDer) := by
    funext certDer
    exact same.any_eq
  rw [certSlope, certSlope, top]

theorem not_validateChain_unreadable {P : Primitives} {anchor : Bytes}
    (unreadable : ¬ (subjectDn P anchor).isOk = true) (leafDer : Bytes) (intermediates rest : List Bytes)
    (nowUnix : UInt64) : ¬ validateChain P leafDer intermediates (anchor :: rest) nowUnix = .ok () := by
  intro accepted
  obtain ⟨⟨⟩, -, accepted⟩ := bind_eq_ok accepted
  obtain ⟨wanted, -, accepted⟩ := bind_eq_ok accepted
  obtain ⟨reached, scanned, -⟩ := bind_eq_ok accepted
  obtain ⟨subject, named, -⟩ := bind_eq_ok scanned
  rw [named] at unreadable
  exact unreadable rfl

/-- The order matters exactly where a path exists, and either an anchor cannot be read or
some issuer that fits leads nowhere. -/
theorem orderFree_iff (P : Primitives) (leafDer : Bytes) (intermediates anchors : List Bytes) (nowUnix : UInt64) :
    OrderFree P leafDer intermediates anchors nowUnix ↔
      ((∃ rest, CertPath P intermediates anchors nowUnix leafDer rest) →
        (∀ anchor ∈ anchors, (subjectDn P anchor).isOk = true) ∧
          (certSlope P anchors nowUnix).Sure intermediates leafDer) := by
  constructor
  · intro free path
    have accepted := free.complete path
    constructor
    · intro anchor member
      by_contra unreadable
      have moved := (free.order intermediates _ (.refl _) (List.perm_cons_erase member).symm).mpr accepted
      exact not_validateChain_unreadable unreadable leafDer intermediates _ nowUnix moved
    · apply Slope.sure_iff_climb_perm.mpr
      intro order perm
      exact climb_of_climbChain ((free.order order anchors perm (.refl _)).mpr accepted)
  · intro sound
    have decided : ∀ intermediates' anchors' : List Bytes, intermediates'.Perm intermediates → anchors'.Perm anchors →
        (validateChain P leafDer intermediates' anchors' nowUnix = .ok () ↔
          ∃ rest, CertPath P intermediates anchors nowUnix leafDer rest) := by
      intro intermediates' anchors' sameCas sameAnchors
      constructor
      · intro accepted
        obtain ⟨rest, path, -⟩ := certPath_of_validateChain accepted
        exact ⟨rest, path.perm sameCas sameAnchors⟩
      · intro path
        obtain ⟨readable, sure⟩ := sound path
        apply climbChain_of_climb
        · intro anchor member
          exact readable anchor (sameAnchors.mem_iff.mp member)
        · rw [certSlope_perm P sameAnchors]
          exact Slope.sure_iff_climb_perm.mp sure intermediates' sameCas
    refine ⟨fun intermediates' anchors' sameCas sameAnchors => ?_, (decided _ _ (.refl _) (.refl _)).mpr⟩
    rw [decided intermediates' anchors' sameCas sameAnchors, decided intermediates anchors (.refl _) (.refl _)]

/-- A renewed CA next to the expired one: whichever comes first decides. -/
theorem not_orderFree_renewed_ca :
    ¬ ∀ leafDer intermediates anchors nowUnix, OrderFree Toy.pki leafDer intermediates anchors nowUnix := by
  intro free
  have swapped : [Toy.expiredCaCert, Toy.caCert].Perm [Toy.caCert, Toy.expiredCaCert] := .swap _ _ _
  have renewed : validateChain Toy.pki Toy.leafCert [Toy.caCert, Toy.expiredCaCert] [Toy.rootCert] 50 = .ok () := by
    decide +kernel
  have expired : ¬ validateChain Toy.pki Toy.leafCert [Toy.expiredCaCert, Toy.caCert] [Toy.rootCert] 50 = .ok () := by
    decide +kernel
  exact expired (((free Toy.leafCert [Toy.caCert, Toy.expiredCaCert] [Toy.rootCert] 50).order _ _ swapped (.refl _)).mpr
    renewed)

end Ryke.Ikev2
