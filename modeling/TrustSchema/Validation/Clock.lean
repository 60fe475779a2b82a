import TrustSchema.Validation.Fetch

/-!
# Validation on a clock

`Judge.validate` knows one time. But while certificates are fetched time goes by, and a certificate
that was valid when it was fetched may have expired when it is used. On a clock, the time is read
wherever it matters: when a certificate is found in the cache, and when one that came from a fetch
is about to be used on a packet that waits for it.

- `Clock`: a clock shares its state with the fetcher. Both may move it, so that each reading may show
  another time, be it after a fetch or right after the last one.
- `Judge.validateBy`: validation on any clock.
- `Judge.validateOn`: validation on a clock that is moved by nothing but the fetches.
-/

namespace TrustSchema

/-- A clock, with a state. It may be moved when it is read. -/
abbrev Clock (σ : Type) := σ → Instant × σ

variable {σ : Type}

/-- The clock that shows the time of the state. -/
def Clock.ofTime (time : σ → Instant) : Clock σ := fun s => (time s, s)

/-- The clock that stands still. -/
def Clock.still (now : Instant) : Clock σ := .ofTime fun _ => now

namespace FetchState

/-- Reads a clock. -/
def read (clock : Clock σ) (s : FetchState σ) : Instant × FetchState σ :=
  ((clock s.fetcher).1, { s with fetcher := (clock s.fetcher).2 })

/-- Does something to the cache. -/
def onCache {α : Type} (s : FetchState σ) (f : Cache → α × Cache) : α × FetchState σ :=
  ((f s.cache).1, { s with cache := (f s.cache).2 })

/-- Looks up the certificate with a key name. The clock is read only if there is one. -/
def lookup (clock : Clock σ) (keyName : Name) (s : FetchState σ) :
    Option Certificate × FetchState σ :=
  match s.cache.ring.find? keyName with
  | none => (none, s)
  | some _ =>
    let (now, s) := s.read clock
    s.onCache fun cache => cache.lookup now keyName

end FetchState

namespace Judge

variable (j : Judge)

/-- The judgement about a packet at a step. What the policy says by itself needs no clock; if it
leaves the packet to a key, the cache is asked for the certificate. -/
def judgeBy (clock : Clock σ) (policy : Policy) (p : SignedPacket) (step : Nat)
    (s : FetchState σ) : Verdict × FetchState σ :=
  match j.assess policy p step with
  | .need keyName =>
    match s.lookup clock keyName with
    | (some certificate, s) => (j.judgeWith p certificate, s)
    | (none, s) => (.need keyName, s)
  | verdict => (verdict, s)

/-- Checks a packet, whose signature is read first. A validation begins at step 0. -/
def checkBy (clock : Clock σ) (policy : Policy) (packet : Packet) (step : Nat)
    (s : FetchState σ) : Outcome × FetchState σ :=
  match j.overLimit? step with
  | some reason => (.rejected reason, s)
  | none =>
    match SignedPacket.ofPacket packet with
    | .error reason => (.rejected (.malformedInterest reason), s)
    | .ok p =>
      let (verdict, s) := j.judgeBy clock policy p step s
      (j.outcome policy [p] step verdict, s)

/-- Uses a data packet that is trusted as a certificate on a packet that waits for it. If it can be
read as one, it has to be valid at that time. -/
def endorseBy (clock : Clock σ) (signer : Data) (p : SignedPacket) (s : FetchState σ) :
    Except Rejection Unit × FetchState σ :=
  match Certificate.ofData signer with
  | .error reason => (.error (.certificateMalformed signer.name reason), s)
  | .ok certificate =>
    let (now, s) := s.read clock
    if certificate.isValidAt now then
      (j.verifier.checkSignature p certificate, { s with cache := s.cache.insert certificate })
    else (.error (.certificateExpired signer.name), s)

/-- Verifies the packets that wait, from the inside out. The clock is read for each of them. -/
def verifyChainBy (clock : Clock σ) :
    Data → List SignedPacket → FetchState σ → Outcome × FetchState σ
  | _, [], s => (.accepted, s)
  | signer, p :: waiting, s =>
    match j.endorseBy clock signer p s with
    | (.error reason, s) => (.rejected reason, s)
    | (.ok (), s) =>
      match p with
      | .data d => verifyChainBy clock d waiting s
      | .interest .. => (.accepted, s)

/-- Goes on with a validation, now that the certificate is there. -/
def resumeBy (clock : Clock σ) (r : Request) (certificate : Data) (s : FetchState σ) :
    Outcome × FetchState σ :=
  match j.overLimit? r.step with
  | some reason => (.rejected reason, s)
  | none =>
    if certificate.name.parent ≠ r.certificateName then
      (.rejected (.certificateUnresolved r.certificateName
        ("fetched data " ++ certificate.name.toUri ++ " does not belong to this key")), s)
    else
      match j.judgeBy clock r.policy (.data certificate) r.step s with
      | (.accept, s) => j.verifyChainBy clock certificate r.waiting s
      | (verdict, s) => (j.outcome r.policy (.data certificate :: r.waiting) r.step verdict, s)

/-- Fetches the certificate of a request and goes on with the answer. -/
def answerBy (clock : Clock σ) (fetcher : Fetcher σ) (r : Request) (s : FetchState σ) :
    Outcome × FetchState σ :=
  match fetcher.fetch r.certificateName r.retries s.fetcher with
  | (.ok certificate, state) => j.resumeBy clock r certificate { s with fetcher := state }
  | (.error reason, state) => (r.fail reason.message, { s with fetcher := state })

theorem requests_verifyChainBy (j : Judge) (clock : Clock σ) (signer : Data)
    (waiting : List SignedPacket) (s : FetchState σ) :
    (j.verifyChainBy clock signer waiting s).1.requests = [] := by
  fun_induction verifyChainBy j clock signer waiting s <;> simp_all [Outcome.requests]

theorem continues_resumeBy (j : Judge) (clock : Clock σ) (r : Request) (d : Data)
    (s : FetchState σ) : j.Continues r (j.resumeBy clock r d s).1.requests := by
  unfold resumeBy
  split
  · exact Or.inl rfl
  · next hstep =>
    split
    · exact Or.inl rfl
    · split
      · exact Or.inl (requests_verifyChainBy ..)
      · exact continues_outcome (overLimit?_eq_none_iff.1 hstep) ..

theorem continues_of_answerBy {j : Judge} {clock : Clock σ} {fetcher : Fetcher σ} {r : Request}
    {s s' : FetchState σ} {more : List Request}
    (h : j.answerBy clock fetcher r s = (.pending more, s')) : j.Continues r more := by
  unfold answerBy at h
  split at h
  · next certificate state _ =>
    have hresumed := continues_resumeBy j clock r certificate { s with fetcher := state }
    rwa [h] at hresumed
  · cases h

/-- Answers requests in order until there is a verdict about the packet with a name. -/
def settleBy (clock : Clock σ) (fetcher : Fetcher σ) (name : Name) (requests : List Request)
    (s : FetchState σ) : Except Rejection Unit × FetchState σ :=
  match requests with
  | [] => (.error (.undecided name), s)
  | r :: queue =>
    match _h : j.answerBy clock fetcher r s with
    | (.accepted, s) => (.ok (), s)
    | (.rejected reason, s) => (.error reason, s)
    | (.pending more, s) => settleBy clock fetcher name (queue ++ more) s
termination_by (j.stepsLeftOfAll requests, requests.length)
decreasing_by exact measure_lt_of_continues queue (continues_of_answerBy _h)

/-- The verdict that an outcome leads to. -/
def concludeBy (clock : Clock σ) (fetcher : Fetcher σ) (name : Name) (outcome : Outcome)
    (s : FetchState σ) : Except Rejection Unit × FetchState σ :=
  match outcome with
  | .accepted => (.ok (), s)
  | .rejected reason => (.error reason, s)
  | .pending requests => j.settleBy clock fetcher name requests s

/-- Validates a packet under a policy, on a clock. -/
def validateBy (clock : Clock σ) (policy : Policy) (fetcher : Fetcher σ) (packet : Packet)
    (s : FetchState σ) : Except Rejection Unit × FetchState σ :=
  let checked := j.checkBy clock policy packet 0 s
  j.concludeBy clock fetcher packet.name checked.1 checked.2

/-- Validates a packet under a policy, at the times that the state of the fetcher shows. -/
def validateOn (time : σ → Instant) (policy : Policy) (fetcher : Fetcher σ) (packet : Packet)
    (s : FetchState σ) : Except Rejection Unit × FetchState σ :=
  j.validateBy (.ofTime time) policy fetcher packet s

end Judge

end TrustSchema
