import TrustSchema.Proofs.Validation.History

/-!
# Fixed signers and trust anchors

There are two ways to pin the certificate of a key. A fixed-signer checker holds it and verifies the
signature itself; the verdict is there at once. A trust anchor comes into play later, when a checker
has left the signature open. The verification is written down twice, and the two have to agree:
which signatures cannot be checked with the key, which are wrong, and what is said about both
(`Checker.check_fixedSigner`, `Judge.judgeSignature_of_anchor`).

They differ where there is no certificate for the key. Without an anchor the cache is asked, and
then the certificate is waited for. Without a fixed signer the packet is refused, and neither the
cache nor what could be fetched makes a difference (`Judge.RefusesOutright`).
-/

namespace TrustSchema

variable {p : SignedPacket} {c : Certificate}

namespace Judge

variable {j : Judge} {now : Instant} {policy : Policy} {step : Nat} {cache : Cache}
  {keyName : Name} {checker : Checker} {reason : Rejection}

/-! ## Signatures that are left open -/

/-- The signature is verified with the anchor of the key, whatever the cache holds. -/
theorem judgeSignature_of_anchor (keyed : p.signatureType ≠ .digestSha256)
    (located : p.keyLocator = some keyName) (anchored : policy.anchors.find? keyName = some c) :
    j.judgeSignature now policy p cache = (j.judgeWith p c, cache) := by
  unfold judgeSignature
  rw [if_neg keyed, located]
  dsimp only
  rw [anchored]

theorem judgeSignature_of_unlocated (keyed : p.signatureType ≠ .digestSha256)
    (unlocated : p.keyLocator = none) :
    j.judgeSignature now policy p cache = (.reject (.missingKeyLocator p.signedName), cache) := by
  unfold judgeSignature
  rw [if_neg keyed, unlocated]

/-! ## What a checker refuses -/

/-- A packet that the checker refuses is refused, whatever the cache holds. -/
theorem judge_of_refused (allowed : step < j.stepLimit)
    (found : policy.checkerFor? p = some checker)
    (refused : checker.check j.verifier p = .reject reason) :
    j.judge now policy p step cache = (.reject reason, cache) := by
  obtain ⟨rule, hrule, hchecker⟩ := Option.bind_eq_some_iff.1 found
  have hcheck : rule.check j.verifier p = .reject reason := by
    unfold Rule.check
    rw [hchecker]
    exact refused
  unfold judge
  rw [overLimit?_eq_none_iff.2 allowed, hrule]
  dsimp only
  rw [hcheck]

end Judge

/-- A packet is refused under a policy, whatever the cache holds, which is left as it is, and
whatever could be fetched: when it is checked, when it is validated, in which case nothing is
fetched, and when it is itself fetched as a certificate. -/
structure Judge.RefusesOutright (j : Judge) (policy : Policy) (p : SignedPacket)
    (reason : Rejection) : Prop where
  check_eq : ∀ now packet step cache, SignedPacket.ofPacket packet = .ok p → step < j.stepLimit →
    j.check now policy packet step cache = (.rejected reason, cache)
  validate_eq : ∀ (σ : Type) (fetcher : Fetcher σ) now packet s,
    SignedPacket.ofPacket packet = .ok p → 0 < j.stepLimit →
      j.validate now policy fetcher packet s = (.error reason, s)
  resume_eq : ∀ now (r : Request) d cache, p = .data d → r.policy = policy →
    r.step < j.stepLimit → d.name.parent = r.certificateName →
      j.resume now r d cache = (.rejected reason, cache)

/-- What the checker refuses is refused outright. -/
theorem Judge.refusesOutright_of_refused {j : Judge} {policy : Policy} {checker : Checker}
    {reason : Rejection} (found : policy.checkerFor? p = some checker)
    (refused : checker.check j.verifier p = .reject reason) :
    j.RefusesOutright policy p reason := by
  constructor
  · intro now packet step cache read allowed
    exact check_of_judge allowed read (judge_of_refused allowed found refused)
  · intro σ fetcher now packet s read allowed
    unfold validate
    rw [check_of_judge allowed read (judge_of_refused allowed found refused)]
    rfl
  · rintro now r d cache rfl rfl allowed named
    unfold resume
    rw [overLimit?_eq_none_iff.2 allowed]
    dsimp only
    rw [if_neg (not_not.2 named), judge_of_refused allowed found refused]
    rfl

/-! ## Fixed signers -/

namespace Checker

variable {v : Verifier} {t : SignatureType} {signers : Keyring} {keyName : Name}

theorem check_fixedSigner_of_unlocated (unlocated : p.keyLocator = none) :
    (Checker.fixedSigner t signers).check v p = .reject (.missingKeyLocator p.signedName) := by
  unfold check
  rw [unlocated]

theorem check_fixedSigner_of_missing (located : p.keyLocator = some keyName)
    (missing : signers.find? keyName = none) :
    (Checker.fixedSigner t signers).check v p = .reject (.signerNotFixed keyName) := by
  unfold check
  rw [located]
  dsimp only
  rw [missing]

/-- **A fixed signer is as good as a trust anchor.** Take any packet whose signature is no digest,
any fixed signers and any verifier.

- If the certificate of the key that the packet names is among the fixed signers, the checker
  decides. It accepts the packet exactly if the signature is accepted under a policy with this
  certificate as the trust anchor of the key, and it refuses the packet for a reason exactly if the
  signature is refused there for the same reason. The cache makes no difference and stays as it is.
- If the packet names no key, both refuse it for this.
- If the key is not that of a fixed signer, the checker refuses the packet for this. Where it is the
  checker that judges the packet, neither the cache nor any certificate that could be fetched
  changes that (`Judge.RefusesOutright`). -/
theorem fixedSigner_agrees (keyed : p.signatureType ≠ .digestSha256) (t : SignatureType)
    (signers : Keyring) (j : Judge) :
    (∀ keyName c, p.keyLocator = some keyName → signers.find? keyName = some c →
      (Checker.fixedSigner t signers).check j.verifier p ≠ .undecided ∧
        ∀ now (policy : Policy) cache, policy.anchors.find? keyName = some c →
          ((Checker.fixedSigner t signers).check j.verifier p = .accept ↔
              j.judgeSignature now policy p cache = (.accept, cache)) ∧
            ∀ reason, (Checker.fixedSigner t signers).check j.verifier p = .reject reason ↔
              j.judgeSignature now policy p cache = (.reject reason, cache)) ∧
      (p.keyLocator = none →
        (Checker.fixedSigner t signers).check j.verifier p =
            .reject (.missingKeyLocator p.signedName) ∧
          ∀ now policy cache, j.judgeSignature now policy p cache =
            (.reject (.missingKeyLocator p.signedName), cache)) ∧
      ∀ keyName, p.keyLocator = some keyName → signers.find? keyName = none →
        (Checker.fixedSigner t signers).check j.verifier p = .reject (.signerNotFixed keyName) ∧
          ∀ policy : Policy, policy.checkerFor? p = some (.fixedSigner t signers) →
            j.RefusesOutright policy p (.signerNotFixed keyName) := by
  refine ⟨fun keyName c located held => ?_, fun unlocated => ?_, fun keyName located missing => ?_⟩
  · rw [check_fixedSigner located held]
    constructor
    · cases j.verifier.checkSignature p c <;> nofun
    · intro now policy cache anchored
      rw [Judge.judgeSignature_of_anchor keyed located anchored]
      -- Both come to what the verification of the signature comes to.
      unfold Judge.judgeWith
      cases j.verifier.checkSignature p c with
      | ok _ => simp [Ruling.ofSignature]
      | error reason => simp [Ruling.ofSignature]
  · refine ⟨check_fixedSigner_of_unlocated unlocated, fun now policy cache => ?_⟩
    exact Judge.judgeSignature_of_unlocated keyed unlocated
  · have refused : (Checker.fixedSigner t signers).check j.verifier p =
        .reject (.signerNotFixed keyName) := check_fixedSigner_of_missing located missing
    exact ⟨refused, fun policy found => Judge.refusesOutright_of_refused found refused⟩

end Checker

namespace Sample

/-- The certificate of the third key, which is pinned. -/
def thirdCertificate : Certificate := ⟨certificate 3 1, ⟨.ecdsa, [3]⟩, 0, 10⟩

def board : Keyring := .ofList [thirdCertificate]

def boardChecker : Checker := .fixedSigner .ecdsaSha256 board

/-- The certificate as that of a fixed signer, and as a trust anchor. -/
def boardPolicy : Policy := .ofRules [⟨"board", .data, [], [boardChecker]⟩] .empty

def anchoredPolicy : Policy := .ofRules [] board

/-- A packet with a wrong signature, one that names no key, and one with the key of a stranger. -/
def forgery : SignedPacket := .data ⟨name [9, 6], [], ⟨⟨.ecdsaSha256, some (name [3])⟩, [5]⟩⟩

def anonymous : SignedPacket := .data ⟨name [9, 5], [], ⟨⟨.ecdsaSha256, none⟩, [3]⟩⟩

def stranger : SignedPacket := .data ⟨name [9, 4], [], signature 4⟩

/-- All three are refused: the forgery for the same reason as under the anchor, even where the cache
holds the certificate as well, and the packet of the stranger for good. -/
theorem board_refuses :
    forgery.signatureType ≠ .digestSha256 ∧ board.find? (name [3]) = some thirdCertificate ∧
      judge.judgeSignature 5 anchoredPolicy forgery (Cache.empty.insert thirdCertificate) =
        (.reject (.signatureInvalid (name [9, 6])), Cache.empty.insert thirdCertificate) ∧
      boardChecker.check verifier forgery = .reject (.signatureInvalid (name [9, 6])) ∧
      boardChecker.check verifier anonymous = .reject (.missingKeyLocator (name [9, 5])) ∧
      boardPolicy.checkerFor? stranger = some boardChecker ∧
      judge.RefusesOutright boardPolicy stranger (.signerNotFixed (name [4])) := by
  have keyed : forgery.signatureType ≠ .digestSha256 := by decide
  obtain ⟨hforgery, -, -⟩ := Checker.fixedSigner_agrees keyed .ecdsaSha256 board judge
  have keyed' : anonymous.signatureType ≠ .digestSha256 := by decide
  obtain ⟨-, hanonymous, -⟩ := Checker.fixedSigner_agrees keyed' .ecdsaSha256 board judge
  have keyed'' : stranger.signatureType ≠ .digestSha256 := by decide
  obtain ⟨-, -, hstranger⟩ := Checker.fixedSigner_agrees keyed'' .ecdsaSha256 board judge
  have refused : boardChecker.check verifier forgery = .reject (.signatureInvalid (name [9, 6])) :=
    rfl
  have hsame := (hforgery (name [3]) thirdCertificate rfl rfl).2 5 anchoredPolicy
    (Cache.empty.insert thirdCertificate) rfl
  exact ⟨keyed, rfl, (hsame.2 _).1 refused, refused, (hanonymous rfl).1, rfl,
    (hstranger (name [4]) rfl rfl).2 boardPolicy rfl⟩

end Sample

end TrustSchema
