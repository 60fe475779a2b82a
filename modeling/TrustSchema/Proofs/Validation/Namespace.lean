import TrustSchema.Proofs.Policy.Identity
import TrustSchema.Proofs.Policy.Loaded
import TrustSchema.Proofs.Validation.Trust

/-!
# Trust stays below the anchors

A hierarchical checker wants the identity of a key to lead the names that the key signs. This says
something about one packet and one signer. Under a policy that has no other checkers it goes on from
signer to signer: whatever is accepted has a name that begins with the identity of a trust anchor
(`Validator.Run.governed_of_accepted`), however many certificates lie in between, and whether they
have been fetched for the packet or for another one long before.

The proof goes along the chain of signers that is behind each accepted packet (`History.Trusted`),
from the anchor to the packet. At each link, the name of a certificate begins with the identity of
the anchor, and the packet with that of the certificate (`Policy.Defers.governs`). It needs to know
that all the key locators in the chain are marked with `KEY`. Those of the packets that come in are,
and there are no others in a chain (`Validator.Run.exists_arrival`).
-/

namespace TrustSchema

/-! ## Hierarchical policies -/

/-- A policy without other than hierarchical checkers. -/
def Policy.Hierarchical (policy : Policy) : Prop :=
  ∀ rule ∈ policy.rules, ∀ checker ∈ rule.checkers, ∃ t, checker = .hierarchical t

/-- A policy has a trust anchor for a name: the key name of the anchor has a component `KEY`, there
is something before the first one, and the name begins with it. -/
def Policy.Governs (policy : Policy) (n : Name) : Prop :=
  ∃ anchor ∈ policy.anchors.certificates, anchor.keyName.IsMarked ∧
    anchor.keyName.beforeMarker.isEmpty = false ∧ anchor.keyName.beforeMarker.isPrefixOf n

section Policy

variable {policy : Policy} {v : Verifier} {p : SignedPacket} {checker : Checker} {keyName : Name}

/-- The checker that judges the signer of a packet belongs to a rule of the policy, and is for the
packet's type of signature. -/
theorem Policy.mem_of_checkerFor? (found : policy.checkerFor? p = some checker) :
    ∃ rule ∈ policy.rules, checker ∈ rule.checkers ∧ checker.signatureType = p.signatureType := by
  obtain ⟨rule, hrule, hchecker⟩ := Option.bind_eq_some_iff.1 found
  refine ⟨rule, ?_, List.mem_of_find?_eq_some hchecker, ?_⟩
  · have hmem := List.mem_of_find?_eq_some hrule
    cases hkind : p.kind with
    | data =>
      rw [hkind] at hmem
      exact List.mem_append_left _ hmem
    | interest =>
      rw [hkind] at hmem
      exact List.mem_append_right _ hmem
  · unfold Rule.checkerFor? at hchecker
    have hfor := List.find?_some hchecker
    exact eq_of_beq hfor

/-- A packet that a hierarchical policy leaves to a key is one that the key's owner is in charge of.
-/
theorem Policy.Hierarchical.isAncestor (hierarchical : policy.Hierarchical)
    (found : policy.checkerFor? p = some checker) (undecided : checker.check v p = .undecided)
    (located : p.keyLocator = some keyName) : Checker.isAncestor keyName p.signedName := by
  obtain ⟨rule, hrule, hchecker, -⟩ := mem_of_checkerFor? found
  obtain ⟨t, rfl⟩ := hierarchical rule hrule checker hchecker
  simp only [Checker.check, located] at undecided
  split at undecided
  · assumption
  · cases undecided

/-- What a loaded hierarchical policy accepts by itself is signed with the key of an anchor: there
are no fixed signers, and no checkers for digests. -/
theorem Policy.Settles.exists_anchor (settles : policy.Settles v p) (loaded : policy.Loaded)
    (hierarchical : policy.Hierarchical) : ∃ checker keyName c,
      policy.checkerFor? p = some checker ∧ checker.check v p = .undecided ∧
        p.keyLocator = some keyName ∧ policy.anchors.find? keyName = some c := by
  cases settles with
  | fixedSigner found =>
    obtain ⟨rule, hrule, hchecker, -⟩ := mem_of_checkerFor? found
    obtain ⟨t, ht⟩ := hierarchical rule hrule _ hchecker
    cases ht
  | digest found undecided unkeyed =>
    obtain ⟨rule, hrule, hchecker, htype⟩ := mem_of_checkerFor? found
    obtain ⟨t, rfl⟩ := hierarchical rule hrule _ hchecker
    exact absurd (htype.trans unkeyed) (loaded.hierarchical_keyed hrule hchecker)
  | anchor found undecided _ located anchored _ =>
    exact ⟨_, _, _, found, undecided, located, anchored⟩

/-- The owner of the anchor is in charge of what is accepted. -/
theorem Policy.Settles.governs (settles : policy.Settles v p) (loaded : policy.Loaded)
    (hierarchical : policy.Hierarchical) (marked : ∀ n ∈ p.keyLocator, n.IsMarked) :
    policy.Governs p.signedName := by
  obtain ⟨checker, keyName, c, found, undecided, located, anchored⟩ :=
    settles.exists_anchor loaded hierarchical
  have hmarked : keyName.IsMarked := marked keyName located
  have hcharge := hierarchical.isAncestor found undecided located
  obtain ⟨hne, hleads⟩ := (Checker.isAncestor_iff hmarked).1 hcharge
  have hkey : c.keyName = keyName := Keyring.keyName_of_find? anchored
  refine ⟨c, List.mem_of_find?_eq_some anchored, ?_⟩
  rw [hkey]
  exact ⟨hmarked, hne, hleads⟩

/-- **What governs a signer governs what it signs.** The identity of the anchor leads the name of
the certificate, so it leads the identity of the certificate, which leads the name of the packet. -/
theorem Policy.Defers.governs {c : Certificate} (defers : policy.Defers v p c.keyName)
    (hierarchical : policy.Hierarchical) (marked : ∀ n ∈ p.keyLocator, n.IsMarked)
    (governs : policy.Governs c.name) : policy.Governs p.signedName := by
  obtain ⟨checker, found, undecided⟩ := defers.undecided
  have hmarked : c.keyName.IsMarked := marked c.keyName defers.located
  have hcharge := hierarchical.isAncestor found undecided defers.located
  obtain ⟨-, hleads⟩ := (Checker.isAncestor_iff hmarked).1 hcharge
  obtain ⟨anchor, hanchor, hkey, hne, hname⟩ := governs
  refine ⟨anchor, hanchor, hkey, hne, ?_⟩
  -- The certificate's name goes on behind its `KEY`, but the identity of the anchor ends before.
  have hidentity := Name.isPrefixOf_beforeMarker anchor.keyName.not_isMarked_beforeMarker hname
  rw [hmarked.beforeMarker_eq c.name.parent_isPrefixOf] at hidentity
  exact Name.isPrefixOf_trans hidentity hleads

end Policy

/-! ## Chains of signers -/

/-- **What is trusted is governed**, by induction along the chain of signers, from the one that the
policy accepts by itself. -/
theorem History.Trusted.governs {h : History} {v : Verifier} {p : SignedPacket} {policy : Policy}
    (trusted : h.Trusted v p) (loaded : policy.Loaded) (hierarchical : policy.Hierarchical)
    (policies : ∀ e ∈ h, e.before.policy = policy)
    (marked : ∀ e ∈ h, ∀ q ∈ e.operation.packets, ∀ n ∈ q.keyLocator, n.IsMarked) :
    policy.Governs p.signedName := by
  obtain ⟨root, chain, hroot⟩ := trusted
  induction chain using Relation.ReflTransGen.head_induction_on with
  | refl =>
    obtain ⟨o, e, hb, hhead, hsettles⟩ := hroot
    rw [policies o hb.mem.1] at hsettles
    exact hsettles.governs loaded hierarchical
      (marked e hb.mem.2 root (List.mem_of_mem_head? hhead))
  | @head p q hpq _ ih =>
    -- The signer is a certificate, cached or in hand, and governed by induction.
    obtain ⟨o, e, c, hb, rfl, hverifies⟩ := hpq
    have hdefers := hverifies.deferred
    rw [policies o hb.mem.1] at hdefers
    have hmem : p ∈ e.operation.packets := by
      rcases hverifies.used with hside | ⟨hhead, -⟩
      · exact hside.subset (by simp)
      · exact List.mem_of_mem_head? hhead
    exact hdefers.governs hierarchical (marked e hb.mem.2 p hmem) ih

/-- **Trust stays below the anchors.** Take a validator whose policy has been loaded, with only
hierarchical checkers, and whose cache is empty at first. In every run that does not replace the
policy, and in which every key locator that comes in has a component `KEY`: when an operation
accepts a packet, there is a trust anchor whose key name has a component `KEY`, and what stands
before the first one is not empty and leads the signed name of the packet. -/
theorem Validator.Run.governed_of_accepted {v₀ v : Validator} {h : History} {e : Event}
    (run : v₀.Run (e :: h) v) (empty : v₀.cache.ring = .empty) (loaded : v₀.policy.Loaded)
    (hierarchical : v₀.policy.Hierarchical) (kept : ∀ e' ∈ e :: h, e'.operation.KeepsPolicy)
    (marked : ∀ e' ∈ e :: h, ∀ p ∈ e'.operation.arrival?, ∀ n ∈ p.keyLocator, n.IsMarked)
    (accepted : e.outcome? = some .accepted) :
    ∃ p, e.operation.subject? = some p ∧ ∃ anchor ∈ v₀.policy.anchors.certificates,
      anchor.keyName.IsMarked ∧ anchor.keyName.beforeMarker.isEmpty = false ∧
        anchor.keyName.beforeMarker.isPrefixOf p.signedName := by
  have hpackets : ∀ e' ∈ e :: h, ∀ q ∈ e'.operation.packets, ∀ n ∈ q.keyLocator, n.IsMarked := by
    intro e' he' q hq
    obtain ⟨e'', he'', harrival⟩ := run.exists_arrival he' hq
    exact marked e'' he'' q harrival
  have hkeeps : e.Keeps (e :: h) := by
    cases run with
    | next earlier operation granted =>
      exact (earlier.next operation granted).keeps (earlier.sound empty)
  obtain ⟨p, hsubject, trusted⟩ := hkeeps.trusted accepted
  refine ⟨p, hsubject, ?_⟩
  exact trusted.governs loaded hierarchical (fun e' he' => run.policy_before kept he') hpackets

namespace Sample

/-- The name of a key of an owner. -/
def keyOf (owner : List UInt8) (key : UInt8) : Name :=
  ⟨(name owner).components ++ [.keyMarker, ⟨[key]⟩]⟩

/-- The signature with a key of an owner. -/
def signatureOf (owner : List UInt8) (key : UInt8) : Signature :=
  ⟨⟨.ecdsaSha256, some (keyOf owner key)⟩, [key]⟩

/-- The certificate of a key of an owner. -/
def certificateOf (owner : List UInt8) (key : UInt8) (issued : Signature) : Data :=
  ⟨(keyOf owner key).push ⟨[0]⟩, CertificateContent.encode ⟨0, 10, ⟨.ecdsa, [key]⟩⟩, issued⟩

/-- The certificate of the key `/a/KEY/%01`, which signs itself. -/
def rootCertificate : Certificate :=
  ⟨certificateOf [97] 1 (signatureOf [97] 1), ⟨.ecdsa, [1]⟩, 0, 10⟩

def rootText : String := "EARhDEtFWQQBBABMAAAAAAAAAAAKAAAAAAAAAAAEAQIBDARhDEtFWQQBBAE="

theorem rootText_eq : Certificate.ofBase64 rootText = .ok rootCertificate :=
  toOption_eq_some_iff.1 (by decide +kernel)

/-- The configuration of the site needs no files besides. -/
def siteSource : CertificateSource := ⟨fun _ => .error .notFound, Path.directory "site.conf"⟩

def siteRule : Rule := ⟨"site", .data, [], [.hierarchical .ecdsaSha256]⟩

def sitePolicy : Policy := .ofRules [siteRule] (.ofList [rootCertificate])

def ruleEntry : Entry :=
  .mk "rule" "" [.mk "id" "site" [], .mk "for" "data" [],
    .mk "checker" "" [.mk "type" "hierarchical" [], .mk "sig-type" "ecdsa-sha256" []]]

def anchorEntry : Entry :=
  .mk "trust-anchor" "" [.mk "type" "base64" [], .mk "base64-string" rootText []]

theorem ruleEntry_eq :
    Policy.Part.ofEntry siteSource "site.conf" ruleEntry = .ok (.rule siteRule) := rfl

theorem anchorEntry_eq :
    Policy.Part.ofEntry siteSource "site.conf" anchorEntry = .ok (.anchor rootCertificate) := by
  have hcertificate :
      siteSource.certificate "trust-anchor" anchorEntry.children = .ok rootCertificate := by
    refine bind_eq_ok_iff.2 ⟨("base64", anchorEntry.children.tail), rfl, ?_⟩
    dsimp only
    rw [if_neg (by decide), if_pos (by decide)]
    refine bind_eq_ok_iff.2 ⟨(rootText, []), rfl, ?_⟩
    exact bind_eq_ok_iff.2 ⟨(), rfl, mapError_eq_ok_iff.2 rootText_eq⟩
  unfold Policy.Part.ofEntry
  rw [if_neg (by decide), if_pos (by decide), hcertificate]
  rfl

theorem sitePolicy_loaded : sitePolicy.Loaded := by
  refine ⟨siteSource.files, "site.conf", [ruleEntry, anchorEntry], ?_⟩
  refine bind_eq_ok_iff.2 ⟨[.rule siteRule, .anchor rootCertificate], ?_, rfl⟩
  show [ruleEntry, anchorEntry].mapM (Policy.Part.ofEntry siteSource "site.conf") = _
  rw [List.mapM_cons, List.mapM_cons, ruleEntry_eq, anchorEntry_eq]
  rfl

theorem sitePolicy_hierarchical : sitePolicy.Hierarchical := by
  intro rule hrule checker hchecker
  obtain rfl : rule = siteRule := List.mem_singleton.1 hrule
  exact ⟨.ecdsaSha256, List.mem_singleton.1 hchecker⟩

def siteStart : Validator := ⟨judge, sitePolicy, .empty⟩

/-- A packet in the namespace of `/a/b`, whose key is certified by that of `/a`. -/
def letter : Data := ⟨name [97, 98, 99], [], signatureOf [97, 98] 2⟩

def letterRequest : Request := ⟨keyOf [97, 98] 2, 1, 1, [.data letter], sitePolicy⟩

def submitted : Event := ⟨siteStart, .check 5 (.data letter) 0⟩

def delivered : Event :=
  ⟨submitted.after, .resume 6 letterRequest (certificateOf [97, 98] 2 (signatureOf [97] 1))⟩

theorem run_delivered : siteStart.Run [delivered, submitted] delivered.after := by
  have pending : submitted.outcome? = some (.pending [letterRequest]) := rfl
  have run : siteStart.Run [submitted] submitted.after :=
    Validator.Run.start.next submitted.operation nofun
  exact run.answer List.mem_cons_self pending 6 (certificateOf [97, 98] 2 (signatureOf [97] 1))

/-- The letter is accepted through a certificate that is fetched. The trust anchor is in charge of
its name. -/
theorem letter_governed :
    siteStart.Run [delivered, submitted] delivered.after ∧ siteStart.cache.ring = .empty ∧
      sitePolicy.Loaded ∧ sitePolicy.Hierarchical ∧ delivered.outcome? = some .accepted ∧
      ∃ p, delivered.operation.subject? = some p ∧ ∃ anchor ∈ sitePolicy.anchors.certificates,
        anchor.keyName.IsMarked ∧ anchor.keyName.beforeMarker.isEmpty = false ∧
          anchor.keyName.beforeMarker.isPrefixOf p.signedName := by
  have accepted : delivered.outcome? = some .accepted := rfl
  refine ⟨run_delivered, rfl, sitePolicy_loaded, sitePolicy_hierarchical, accepted, ?_⟩
  refine run_delivered.governed_of_accepted rfl sitePolicy_loaded sitePolicy_hierarchical ?_ ?_
    accepted
  · simp [delivered, submitted, Operation.KeepsPolicy]
  · intro e he p harrival n hlocated
    simp only [List.mem_cons, List.not_mem_nil, or_false] at he
    rcases he with rfl | rfl
    · cases harrival
      cases hlocated
      decide
    · cases harrival
      cases hlocated
      decide

end Sample

end TrustSchema
