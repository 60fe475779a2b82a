import Mathlib.Data.List.Nodup
import TrustSchema.Proofs.Validation.History

/-!
# Independent resumptions commute

Certificates arrive in any order. An answer to one request can matter to another one only through
the cache: it may put certificates there that the other one finds, or in whose place the other one
puts its own. This module says where an answer looks and where it writes.

- `Cache.Footprint`: an operation looks at one entry at most, and what it does to each entry is
  determined by that entry alone. An entry that it looks at and that is not valid is dropped; others
  are changed only under the key names that it writes to.
- `Judge.footprint_resume`: the answer to a request looks at the entry of its own key locator, and
  writes to its key name and to those of the packets that wait, but for the last one.
- `Cache.Footprint.comm`: operations that do not write where the other one looks or writes commute.
  Both may look at the same entry, as it does not matter which of them drops it.

**So independent resumptions commute** (`Validator.resume_comm`), whatever each of them comes to.
-/

namespace TrustSchema

namespace Cache

variable {cache cache' : Cache} {now : Instant} {n m : Name} {c : Certificate}

/-! ## The entries of a cache -/

/-- The entry, unless it is not valid. -/
def ifValid (now : Instant) (entry : Option Certificate) : Option Certificate :=
  entry.filter fun c => c.isValidAt now

theorem ifValid_ifValid (entry : Option Certificate) :
    ifValid now (ifValid now entry) = ifValid now entry := by
  simp [ifValid, Option.filter_filter]

theorem lookup_fst : (cache.lookup now n).1 = ifValid now (cache.ring.find? n) := by
  unfold lookup ifValid
  cases cache.ring.find? n with
  | none => rfl
  | some c => cases hc : c.isValidAt now <;> simp [Option.filter, hc]

/-- A look-up drops an entry that is not valid, and leaves all others as they are. -/
theorem find?_lookup : (cache.lookup now n).2.ring.find? m =
    if n = m then ifValid now (cache.ring.find? m) else cache.ring.find? m := by
  by_cases hm : n = m
  · subst hm
    rw [if_pos rfl]
    unfold lookup
    cases hfound : cache.ring.find? n with
    | none => exact hfound
    | some c =>
      cases hc : c.isValidAt now with
      | false => simp [hc, ifValid, Option.filter, erase, Keyring.find?_erase]
      | true => simp [hc, ifValid, Option.filter, hfound]
  · rw [if_neg hm]
    unfold lookup
    cases cache.ring.find? n with
    | none => rfl
    | some c =>
      cases hc : c.isValidAt now with
      | false => simp [hc, erase, Keyring.find?_erase, hm]
      | true => simp [hc]

theorem find?_insert : (cache.insert c).ring.find? n =
    if cache.retains ∧ c.keyName = n then some c else cache.ring.find? n := by
  unfold insert
  split
  · next h => simp only [h, true_and, Keyring.find?_insert]
  · next h => simp [h]

theorem retains_lookup : (cache.lookup now n).2.retains = cache.retains := by
  unfold lookup
  split
  · rfl
  · split <;> rfl

theorem retains_insert : (cache.insert c).retains = cache.retains := by
  unfold insert
  split <;> rfl

/-- Caches that hold the same certificates. The order in which a keyring lists them means nothing.
-/
structure Alike (a b : Cache) : Prop where
  retains_eq : a.retains = b.retains
  find?_eq : ∀ n, a.ring.find? n = b.ring.find? n
  perm : a.ring.certificates.Perm b.ring.certificates

theorem Alike.of_find?_eq {a b : Cache} (hretains : a.retains = b.retains)
    (hfind : ∀ n, a.ring.find? n = b.ring.find? n) : a.Alike b where
  retains_eq := hretains
  find?_eq := hfind
  perm := by
    refine (List.perm_ext_iff_of_nodup (.of_map _ a.ring.distinct) (.of_map _ b.ring.distinct)).2
      fun c => ?_
    rw [Keyring.mem_certificates_iff, Keyring.mem_certificates_iff, hfind]

/-! ## Where an operation looks and writes -/

/-- An operation on a cache looks at the entry under one key name at most, and only at whether there
is a valid one; it may drop it if it is not valid. It writes under some key names. Otherwise what it
does to each entry is determined by this entry alone. -/
def Footprint (now : Instant) (looksAt : Option Name) (writes : List Name)
    (operation : Cache → Outcome × Cache) : Prop :=
  ∀ cache : Cache, ∃ act : Name → Option Certificate → Option Certificate,
    (∀ n ∉ writes, act n = id ∨ n ∈ looksAt ∧ act n = ifValid now) ∧
    ∀ cache' : Cache, cache'.retains = cache.retains →
      (∀ n ∈ looksAt, ifValid now (cache'.ring.find? n) = ifValid now (cache.ring.find? n)) →
        (operation cache').1 = (operation cache).1 ∧
        (operation cache').2.retains = cache.retains ∧
        ∀ n, (operation cache').2.ring.find? n = act n (cache'.ring.find? n)

namespace Footprint

variable {looksAt looksAt' : Option Name} {writes writes' : List Name}
  {operation : Cache → Outcome × Cache}

theorem mono (h : Footprint now looksAt writes operation) (hlooks : ∀ n ∈ looksAt, n ∈ looksAt')
    (hwrites : writes ⊆ writes') : Footprint now looksAt' writes' operation := by
  intro cache
  obtain ⟨act, hact, hlocal⟩ := h cache
  refine ⟨act, fun n hn => ?_, fun cache' hretains hlooked => ?_⟩
  · exact (hact n fun hmem => hn (hwrites hmem)).imp_right fun h => ⟨hlooks n h.1, h.2⟩
  · exact hlocal cache' hretains fun n hn => hlooked n (hlooks n hn)

/-- An outcome that does not depend on the cache. -/
theorem pure (outcome : Outcome) :
    Footprint now looksAt writes fun cache => (outcome, cache) := by
  intro cache
  refine ⟨fun _ => id, fun _ _ => Or.inl rfl, fun cache' hretains _ => ?_⟩
  exact ⟨rfl, hretains, fun _ => rfl⟩

/-- A certificate is put into the cache before an operation that looks at nothing. -/
theorem insert (h : Footprint now none writes operation) (hc : c.keyName ∈ writes) :
    Footprint now none writes fun cache => operation (cache.insert c) := by
  intro cache
  obtain ⟨act, hact, hlocal⟩ := h (cache.insert c)
  refine ⟨fun n entry => act n (if cache.retains ∧ c.keyName = n then some c else entry), ?_, ?_⟩
  · intro n hn
    have hne : ¬ (cache.retains ∧ c.keyName = n) := by
      rintro ⟨-, rfl⟩
      exact hn hc
    simp only [if_neg hne]
    exact hact n hn
  · intro cache' hretains _
    obtain ⟨hout, hret, hfind⟩ := hlocal (cache'.insert c)
      (by rw [retains_insert, retains_insert, hretains]) nofun
    refine ⟨hout, hret.trans retains_insert, fun n => ?_⟩
    rw [hfind n, find?_insert, hretains]

/-- An entry is looked up, and the operation goes on with what is found. -/
theorem lookup {next : Option Certificate → Cache → Outcome × Cache}
    (h : ∀ found, Footprint now none writes (next found)) (n : Name) :
    Footprint now (some n) writes fun cache =>
      next (cache.lookup now n).1 (cache.lookup now n).2 := by
  intro cache
  obtain ⟨act, hact, hlocal⟩ := h (cache.lookup now n).1 (cache.lookup now n).2
  refine ⟨fun m entry => act m (if n = m then ifValid now entry else entry), ?_, ?_⟩
  · intro m hm
    obtain hsame | ⟨⟨⟩, -⟩ := hact m hm
    simp only [hsame, id]
    by_cases heq : n = m
    · subst heq
      exact Or.inr ⟨rfl, funext fun _ => if_pos rfl⟩
    · exact Or.inl (funext fun _ => if_neg heq)
  · intro cache' hretains hlooked
    have hfound : (cache'.lookup now n).1 = (cache.lookup now n).1 := by
      rw [lookup_fst, lookup_fst, hlooked n rfl]
    obtain ⟨hout, hret, hfind⟩ := hlocal (cache'.lookup now n).2
      (by rw [retains_lookup, retains_lookup, hretains]) nofun
    dsimp only
    rw [hfound]
    refine ⟨hout, hret.trans retains_lookup, fun m => ?_⟩
    rw [hfind m, find?_lookup]

/-- Where an operation does not write, there is a valid certificate afterwards exactly if there was
one before. -/
theorem ifValid_act {act : Option Certificate → Option Certificate} {P : Prop}
    (hact : act = id ∨ P ∧ act = ifValid now) (entry : Option Certificate) :
    ifValid now (act entry) = ifValid now entry := by
  rcases hact with rfl | ⟨-, rfl⟩
  · rfl
  · exact ifValid_ifValid entry

/-- **Operations that do not write where the other one looks or writes commute.** Both come to the
same as without the other one before it. -/
theorem comm {f g : Cache → Outcome × Cache} (hf : Footprint now looksAt writes f)
    (hg : Footprint now looksAt' writes' g) (hwrites : ∀ n ∈ writes, n ∉ writes')
    (hlooks : ∀ n ∈ looksAt, n ∉ writes') (hlooks' : ∀ n ∈ looksAt', n ∉ writes) (cache : Cache) :
    (f (g cache).2).1 = (f cache).1 ∧ (g (f cache).2).1 = (g cache).1 ∧
      (g (f cache).2).2.Alike (f (g cache).2).2 := by
  obtain ⟨act, hact, hlocal⟩ := hf cache
  obtain ⟨act', hact', hlocal'⟩ := hg cache
  obtain ⟨-, hretains, hfind⟩ := hlocal cache rfl fun _ _ => rfl
  obtain ⟨-, hretains', hfind'⟩ := hlocal' cache rfl fun _ _ => rfl
  -- Each finds the same where it looks, although the other one has been there.
  obtain ⟨hout, hret, hboth⟩ := hlocal (g cache).2 hretains' fun n hn => by
    rw [hfind', ifValid_act (hact' n (hlooks n hn))]
  obtain ⟨hout', hret', hboth'⟩ := hlocal' (f cache).2 hretains fun n hn => by
    rw [hfind, ifValid_act (hact n (hlooks' n hn))]
  refine ⟨hout, hout', .of_find?_eq (hret'.trans hret.symm) fun n => ?_⟩
  rw [hboth', hboth, hfind, hfind']
  by_cases hn : n ∈ writes
  · -- Here only the first one writes, and the other one does not look.
    rw [(hact' n (hwrites n hn)).resolve_right fun h => hlooks' n h.1 hn]
    rfl
  · by_cases hn' : n ∈ writes'
    · rw [(hact n hn).resolve_right fun h => hlooks n h.1 hn']
      rfl
    · -- Neither writes, so the entry is dropped at most, once or twice.
      rcases hact n hn with h | ⟨-, h⟩ <;> rcases hact' n hn' with h' | ⟨-, h'⟩ <;>
        simp only [h, h', id]

end Footprint

end Cache

/-! ## The answer to a request -/

/-- The key names under which the answer to a request can put certificates into the cache. It is
used itself, and so are the packets that wait for it, but for the one to be validated. -/
def Request.writes (r : Request) (d : Data) : List Name :=
  (SignedPacket.data d :: r.waiting.dropLast).map fun p => p.name.parent

namespace Judge

variable {j : Judge} {now : Instant} {cache : Cache}

/-- The packets that wait are used one after the other. The last one is not put to any use. -/
theorem footprint_verifyChain (d : Data) (waiting : List SignedPacket) :
    Cache.Footprint now none ((SignedPacket.data d :: waiting).dropLast.map fun p => p.name.parent)
      fun cache => j.verifyChain now d waiting cache := by
  induction waiting generalizing d with
  | nil => exact .pure .accepted
  | cons p waiting ih =>
    simp only [verifyChain_cons, endorse, List.dropLast_cons_cons, List.map_cons]
    cases hread : Certificate.ofData d with
    | error reason => exact .pure _
    | ok c =>
      have hkey : c.keyName ∈ d.name.parent :: (p :: waiting).dropLast.map fun p => p.name.parent :=
        List.mem_cons.2 (Or.inl (Certificate.keyName_of_ofData hread))
      by_cases hvalid : c.isValidAt now
      · simp only [if_pos hvalid]
        cases j.verifier.checkSignature p c with
        | error reason => exact .insert (.pure _) hkey
        | ok _ =>
          cases p with
          | data d' => exact .insert ((ih d').mono nofun (List.subset_cons_self _ _)) hkey
          | interest signedName signature => exact .insert (.pure _) hkey
      · simp only [if_neg hvalid]
        exact .pure _

/-- A judgement looks at the entry of the key locator, if the policy leaves the packet to it. -/
theorem footprint_judge {policy : Policy} {p : SignedPacket} {step : Nat} {writes : List Name}
    {next : Verdict → Cache → Outcome × Cache}
    (h : ∀ verdict, Cache.Footprint now none writes (next verdict)) :
    Cache.Footprint now p.keyLocator writes fun cache =>
      next (j.judge now policy p step cache).1 (j.judge now policy p step cache).2 := by
  simp only [judge_eq_consult]
  cases hassess : j.assess policy p step with
  | accept => exact (h _).mono nofun (List.Subset.refl _)
  | reject reason => exact (h _).mono nofun (List.Subset.refl _)
  | need n =>
    rw [(assess_eq_need_iff.1 hassess).2.located]
    have hconsult : ∀ cache : Cache, j.consult now p cache (.need n) =
        (((cache.lookup now n).1.map (j.judgeWith p)).getD (.need n), (cache.lookup now n).2) := by
      intro cache
      unfold consult
      dsimp only
      split <;> next hlookup => rw [hlookup]; rfl
    simp only [hconsult]
    exact .lookup (fun found => h ((found.map (j.judgeWith p)).getD (.need n))) n

/-- What the verdict about the answer to a request comes to. -/
def heed (j : Judge) (now : Instant) (r : Request) (d : Data) :
    Verdict → Cache → Outcome × Cache
  | .accept, cache => j.verifyChain now d r.waiting cache
  | verdict, cache => (j.outcome r.policy (.data d :: r.waiting) r.step verdict, cache)

theorem footprint_heed (r : Request) (d : Data) (verdict : Verdict) :
    Cache.Footprint now none (r.writes d) (j.heed now r d verdict) := by
  cases verdict with
  | accept =>
    refine (footprint_verifyChain d r.waiting).mono nofun (List.map_subset _ ?_)
    cases r.waiting with
    | nil => exact List.nil_subset _
    | cons p waiting => exact List.Subset.refl _
  | reject reason => exact .pure _
  | need keyName => exact .pure _

theorem resume_eq_heed {r : Request} {d : Data} (hstep : j.overLimit? r.step = none)
    (hnamed : d.name.parent = r.certificateName) (cache : Cache) :
    j.resume now r d cache =
      j.heed now r d (j.judge now r.policy (.data d) r.step cache).1
        (j.judge now r.policy (.data d) r.step cache).2 := by
  unfold resume heed
  rw [hstep]
  dsimp only
  rw [if_neg (not_not.2 hnamed)]
  generalize j.judge now r.policy (.data d) r.step cache = judged
  obtain ⟨verdict, cache'⟩ := judged
  cases verdict <;> rfl

/-- **The answer to a request looks at the entry of its own key locator**, and writes under its key
name and those of the packets that wait. -/
theorem footprint_resume (r : Request) (d : Data) :
    Cache.Footprint now d.signature.keyLocator (r.writes d) fun cache =>
      j.resume now r d cache := by
  cases hstep : j.overLimit? r.step with
  | some reason =>
    unfold resume
    rw [hstep]
    exact .pure _
  | none =>
    by_cases hnamed : d.name.parent = r.certificateName
    · simp only [resume_eq_heed hstep hnamed]
      exact footprint_judge (p := .data d) (footprint_heed r d)
    · unfold resume
      rw [hstep]
      simp only [if_pos hnamed]
      exact .pure _

end Judge

/-- Two answers have nothing to do with each other: neither puts a certificate where the other one
puts one, nor where the other one looks for one. -/
structure Request.Independent (r₁ : Request) (d₁ : Data) (r₂ : Request) (d₂ : Data) : Prop where
  disjoint : ∀ n ∈ r₁.writes d₁, n ∉ r₂.writes d₂
  not_first : ∀ n ∈ d₁.signature.keyLocator, n ∉ r₂.writes d₂
  not_second : ∀ n ∈ d₂.signature.keyLocator, n ∉ r₁.writes d₁

/-- **Independent resumptions commute.** In either order, each answer comes to what it comes to
without the other one, and the caches end alike. Nothing is asked of the state or the requests: an
answer may be accepted or refused, it may lead to another request, or the packets that wait may fail
half-way. -/
theorem Validator.resume_comm (v : Validator) (now : Instant) {r₁ r₂ : Request} {d₁ d₂ : Data}
    (independent : r₁.Independent d₁ r₂ d₂) :
    ((v.resume now r₂ d₂).2.resume now r₁ d₁).1 = (v.resume now r₁ d₁).1 ∧
    ((v.resume now r₁ d₁).2.resume now r₂ d₂).1 = (v.resume now r₂ d₂).1 ∧
    ((v.resume now r₁ d₁).2.resume now r₂ d₂).2.cache.Alike
      ((v.resume now r₂ d₂).2.resume now r₁ d₁).2.cache := by
  have hfirst : Cache.Footprint now d₁.signature.keyLocator (r₁.writes d₁) fun cache =>
      v.judge.resume now r₁ d₁ cache := Judge.footprint_resume r₁ d₁
  have hsecond : Cache.Footprint now d₂.signature.keyLocator (r₂.writes d₂) fun cache =>
      v.judge.resume now r₂ d₂ cache := Judge.footprint_resume r₂ d₂
  exact hfirst.comm hsecond independent.disjoint independent.not_first independent.not_second
    v.cache

namespace Sample

/-- Another packet waits for a certificate that is signed with the same key. -/
def otherRequest : Request := ⟨name [4], 1, 1, [.data ⟨name [9, 8], [], signature 4⟩], policy⟩

/-- Both answers look for the certificate of one key. It is in the cache, but no longer valid. In
either order, the first one drops it, and both wait for another certificate of this key. -/
theorem answers_commute :
    firstRequest.Independent (certificate 3 2) otherRequest (certificate 4 2) ∧
      (settled.after.cache.ring.find? (name [2])).any (fun c => !c.isValidAt 11) ∧
      ((settled.after.resume 11 otherRequest (certificate 4 2)).2.resume 11 firstRequest
        (certificate 3 2)).1 = .pending [secondRequest] ∧
      ((settled.after.resume 11 firstRequest (certificate 3 2)).2.resume 11 otherRequest
        (certificate 4 2)).1 =
          .pending [⟨name [2], 2, 1, .data (certificate 4 2) :: otherRequest.waiting, policy⟩] ∧
      ((settled.after.resume 11 firstRequest (certificate 3 2)).2.resume 11 otherRequest
        (certificate 4 2)).2.cache.Alike
          ((settled.after.resume 11 otherRequest (certificate 4 2)).2.resume 11 firstRequest
            (certificate 3 2)).2.cache := by
  have independent : firstRequest.Independent (certificate 3 2) otherRequest (certificate 4 2) := by
    constructor <;> decide +kernel
  obtain ⟨hfirst, hother, hcaches⟩ := settled.after.resume_comm 11 independent
  exact ⟨independent, by decide +kernel, hfirst.trans rfl, hother.trans rfl, hcaches⟩

end Sample

end TrustSchema
