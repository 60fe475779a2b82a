import TrustSchema.Validation.Cache
import TrustSchema.Validation.Outcome

/-!
# Judging packets

The judgement about a packet never waits. If the certificate that its signature needs is neither a
trust anchor nor in the cache, the outcome is a request for it. When the certificate is there, it is
itself judged as a data packet, one step further; once it is trusted, the packets that wait are
verified from the inside out, each becoming the signer of the next.

- `Judge.check`: judges a packet at a step, under a policy.
- `Judge.resume`: goes on with the certificate that a request asked for.
- `Judge.verifyChain`: verifies the packets that wait.

All of them take the current time and the cache, and give the cache back.
-/

namespace TrustSchema

/-- Verifies the signature of a packet with the key of a certificate. -/
def Verifier.checkSignature (v : Verifier) (p : SignedPacket) (c : Certificate) :
    Except Rejection Unit :=
  if !v.supports p.signatureType c.publicKey.keyType then
    .error (.unsupportedSignatureType p.signedName p.signatureType)
  else if v.verify p.signedBytes p.signature c.publicKey then .ok ()
  else .error (.signatureInvalid p.signedName)

/-- What does not change from one judgement to the next. -/
structure Judge where
  verifier : Verifier
  /-- The number of steps, from a packet to the certificates it depends on, that may be taken. -/
  stepLimit : Nat
  /-- How many times a fetch is tried again when no answer comes. -/
  fetchRetries : Nat

namespace Judge

/-- The judgement about one packet. -/
inductive Verdict
  | accept
  | reject (reason : Rejection)
  /-- The certificate with this key name decides. -/
  | need (keyName : Name)
  deriving DecidableEq

variable (j : Judge)

/-- Verifies the signature of a packet with a trusted certificate. -/
def judgeWith (p : SignedPacket) (c : Certificate) : Verdict :=
  match j.verifier.checkSignature p c with
  | .ok () => .accept
  | .error reason => .reject reason

/-- Verifies a signature whose signer is acceptable: a digest by itself, any other signature with a
trust anchor or else with a certificate from the cache. -/
def judgeSignature (now : Instant) (policy : Policy) (p : SignedPacket) (cache : Cache) :
    Verdict × Cache :=
  if p.signatureType = .digestSha256 then
    if verifiesDigest p.signedBytes p.signature.value then (.accept, cache)
    else (.reject (.signatureInvalid p.signedName), cache)
  else match p.keyLocator with
    | none => (.reject (.missingKeyLocator p.signedName), cache)
    | some locator =>
      match policy.anchors.find? locator with
      | some anchor => (j.judgeWith p anchor, cache)
      | none =>
        match cache.lookup now locator with
        | (some certificate, cache) => (j.judgeWith p certificate, cache)
        | (none, cache) => (.need locator, cache)

/-- The rejection of a step that is not allowed any more. -/
def overLimit? (step : Nat) : Option Rejection :=
  if j.stepLimit ≤ step then some (.stepLimitReached j.stepLimit) else none

/-- The judgement about a packet at a step, under a policy. -/
def judge (now : Instant) (policy : Policy) (p : SignedPacket) (step : Nat) (cache : Cache) :
    Verdict × Cache :=
  match j.overLimit? step with
  | some reason => (.reject reason, cache)
  | none =>
    match policy.ruleFor? p with
    | none => (.reject (.noRuleMatched p.signedName), cache)
    | some rule =>
      match rule.check j.verifier p with
      | .accept => (.accept, cache)
      | .reject reason => (.reject reason, cache)
      | .undecided => j.judgeSignature now policy p cache

/-- The verdict about a packet while nothing is cached. -/
def assess (policy : Policy) (p : SignedPacket) (step : Nat) : Verdict :=
  (j.judge 0 policy p step .empty).1

/-- The outcome of a judgement at a step, with the packets that wait for it. -/
def outcome (policy : Policy) (waiting : List SignedPacket) (step : Nat) : Verdict → Outcome
  | .accept => .accepted
  | .reject reason => .rejected reason
  | .need keyName => .pending [⟨keyName, step + 1, j.fetchRetries, waiting, policy⟩]

/-- Checks a packet, whose signature is read first. A validation begins at step 0. -/
def check (now : Instant) (policy : Policy) (packet : Packet) (step : Nat) (cache : Cache) :
    Outcome × Cache :=
  match j.overLimit? step with
  | some reason => (.rejected reason, cache)
  | none =>
    match SignedPacket.ofPacket packet with
    | .error reason => (.rejected (.malformedInterest reason), cache)
    | .ok p =>
      let (verdict, cache) := j.judge now policy p step cache
      (j.outcome policy [p] step verdict, cache)

/-- Verifies the packets that wait, from the inside out: the first with a trusted certificate, each
other one with the packet before it. Each certificate is put into the cache before it is used. -/
def verifyChain (now : Instant) : Data → List SignedPacket → Cache → Outcome × Cache
  | _, [], cache => (.accepted, cache)
  | signer, p :: waiting, cache =>
    match Certificate.ofData signer with
    | .error reason => (.rejected (.certificateMalformed signer.name reason), cache)
    | .ok certificate =>
      if certificate.isValidAt now then
        -- It is kept even if the packet that it signed is refused.
        let cache := cache.insert certificate
        match j.verifier.checkSignature p certificate, p with
        | .error reason, _ => (.rejected reason, cache)
        | .ok (), .data d => verifyChain now d waiting cache
        | .ok (), .interest .. => (.accepted, cache)
      else (.rejected (.certificateExpired signer.name), cache)

/-- Goes on with a validation, now that the certificate is there. It is judged under the policy of
the request, at the step of the request. -/
def resume (now : Instant) (r : Request) (certificate : Data) (cache : Cache) : Outcome × Cache :=
  match j.overLimit? r.step with
  | some reason => (.rejected reason, cache)
  | none =>
    -- A certificate is filed under its own key name, so it must not answer for another one.
    if certificate.name.parent ≠ r.certificateName then
      (.rejected (.certificateUnresolved r.certificateName
        ("fetched data " ++ certificate.name.toUri ++ " does not belong to this key")), cache)
    else
      match j.judge now r.policy (.data certificate) r.step cache with
      | (.accept, cache) => j.verifyChain now certificate r.waiting cache
      | (verdict, cache) =>
        (j.outcome r.policy (.data certificate :: r.waiting) r.step verdict, cache)

/-- The steps that may be taken are those below the limit. -/
theorem overLimit?_eq_none_iff {j : Judge} {step : Nat} :
    j.overLimit? step = none ↔ step < j.stepLimit := by
  simp [overLimit?]

/-- Once the certificate is trusted, nothing more is waited for. -/
theorem requests_verifyChain (j : Judge) (now : Instant) (signer : Data)
    (waiting : List SignedPacket) (cache : Cache) :
    (j.verifyChain now signer waiting cache).1.requests = [] := by
  fun_induction verifyChain j now signer waiting cache <;> simp_all [Outcome.requests]

/-- What may be waited for after the answer to a request: at most one other certificate, one step
further, and only if the step of the first one was allowed. -/
def Continues (j : Judge) (r : Request) (requests : List Request) : Prop :=
  requests = [] ∨ r.step < j.stepLimit ∧ ∃ next, requests = [next] ∧ next.step = r.step + 1

theorem continues_outcome {j : Judge} {r : Request} (hstep : r.step < j.stepLimit)
    (waiting : List SignedPacket) (verdict : Verdict) :
    j.Continues r (j.outcome r.policy waiting r.step verdict).requests := by
  cases verdict with
  | need keyName => exact Or.inr ⟨hstep, _, rfl, rfl⟩
  | accept => exact Or.inl rfl
  | reject reason => exact Or.inl rfl

theorem continues_resume (j : Judge) (now : Instant) (r : Request) (d : Data) (cache : Cache) :
    j.Continues r (j.resume now r d cache).1.requests := by
  unfold resume
  split
  · exact Or.inl rfl
  · next hstep =>
    split
    · exact Or.inl rfl
    · split
      · exact Or.inl (requests_verifyChain ..)
      · exact continues_outcome (overLimit?_eq_none_iff.1 hstep) ..

end Judge

end TrustSchema
