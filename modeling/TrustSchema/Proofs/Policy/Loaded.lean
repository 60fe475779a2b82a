import TrustSchema.Proofs.Policy.RuleShape

/-!
# Loaded policies

A policy can be put together from any rules and checkers. Those that are loaded from configurations
keep to what the format allows. This module takes loading apart: the rules and the trust anchors of
a loaded policy are each read from a section (`Policy.Loaded.exists_ofEntries_rule`,
`Policy.Loaded.exists_certificate_anchor`), a rule has checkers (`Rule.checkers_of_ofEntries`), and a
checker that looks at the signer is for signatures that have one (`Checker.Read`).
-/

namespace TrustSchema

/-- A policy that has been loaded from a configuration. -/
def Policy.Loaded (policy : Policy) : Prop :=
  ∃ files filename document, Policy.ofDocument files filename document = .ok policy

theorem Policy.loaded_of_ofText {files : Files} {filename text : String} {policy : Policy}
    (h : Policy.ofText files filename text = .ok policy) : policy.Loaded := by
  obtain ⟨document, -, h⟩ := bind_eq_ok_iff.1 h
  exact ⟨files, filename, document, h⟩

theorem Policy.loaded_of_ofFile {files : Files} {path : String} {policy : Policy}
    (h : Policy.ofFile files path = .ok policy) : policy.Loaded := by
  obtain ⟨text, -, h⟩ := bind_eq_ok_iff.1 h
  exact Policy.loaded_of_ofText h

/-- What a checker can be read as. A checker that looks at the signer is not for digests, which have
none. -/
inductive Checker.Read (source : CertificateSource) : Checker → Prop
  | customized {t : SignatureType} {locator : Option LocatorCheck} {entries rest : List Entry}
      (read : Checker.readLocator t entries = .ok (locator, rest)) :
      Read source (.customized t locator)
  | hierarchical {t : SignatureType} (keyed : t ≠ .digestSha256) : Read source (.hierarchical t)
  | fixedSigner {t : SignatureType} {signers : Keyring} {entries rest : List Entry}
      (keyed : t ≠ .digestSha256)
      (read : Checker.readSigners source entries = .ok (signers, rest)) :
      Read source (.fixedSigner t signers)

/-- A checker section begins with the type of the checker and the type of signature that it is for.
-/
inductive Checker.Opens : List Entry → SignatureType → Prop
  | intro {type signed : Entry} {rest : List Entry} {t : SignatureType}
      (typed : Section.IsKeyed "type" type) (directed : Section.IsKeyed "sig-type" signed)
      (named : Text.lower signed.value = t.label) : Opens (type :: signed :: rest) t

/-- A checker is read from a section that begins with its type of signature. -/
theorem Checker.opens_and_read_of_ofEntries {source : CertificateSource} {entries : List Entry}
    {checker : Checker} (h : Checker.ofEntries source entries = .ok checker) :
    Checker.Opens entries checker.signatureType ∧ checker.Read source := by
  obtain ⟨⟨type, rest⟩, htype, h⟩ := bind_eq_ok_iff.1 h
  obtain ⟨⟨word, rest'⟩, hword, h⟩ := bind_eq_ok_iff.1 h
  obtain ⟨t, ht, h⟩ := bind_eq_ok_iff.1 h
  have opens : Checker.Opens entries t := by
    obtain ⟨e, rfl, typed, -⟩ := (Section.requireValue_eq_ok_iff (by decide)).1 htype
    obtain ⟨e', rfl, directed, rfl⟩ := (Section.requireValue_eq_ok_iff (by decide)).1 hword
    exact .intro typed directed
      (SignatureType.ofKeyword?_eq_some_iff.1 (Section.keyword_eq_ok_iff.1 ht))
  dsimp only at h
  split at h
  · obtain ⟨⟨locator, entries⟩, hlocator, h⟩ := bind_eq_ok_iff.1 h
    obtain ⟨-, -, h⟩ := bind_eq_ok_iff.1 h
    cases h
    exact ⟨opens, .customized hlocator⟩
  · split at h
    · split at h
      · cases h
      · next hkeyed =>
        obtain ⟨-, -, h⟩ := bind_eq_ok_iff.1 h
        cases h
        exact ⟨opens, .hierarchical hkeyed⟩
    · split at h
      · split at h
        · cases h
        · next hkeyed =>
          obtain ⟨⟨signers, entries⟩, hsigners, h⟩ := bind_eq_ok_iff.1 h
          obtain ⟨-, -, h⟩ := bind_eq_ok_iff.1 h
          cases h
          exact ⟨opens, .fixedSigner hkeyed hsigners⟩
      · cases h

/-- A rule has checkers, and every one of them is read from a section of the rule's. -/
theorem Rule.checkers_of_ofEntries {source : CertificateSource} {filename : String}
    {entries : List Entry} {rule : Rule} (h : Rule.ofEntries source filename entries = .ok rule) :
    rule.checkers ≠ [] ∧ ∀ checker ∈ rule.checkers, checker.Read source := by
  cases Rule.ofEntries_eq_ok_iff.1 h with
  | intro opens filtered checked some_checker =>
    refine ⟨checked.ne_nil some_checker, fun checker hc => ?_⟩
    obtain ⟨e, -, he⟩ := exists_of_mem_mapM checked.mapM_eq hc
    exact (Checker.opens_and_read_of_ofEntries he).2

theorem Policy.mem_of_mem_rules_ofRules {rules : List Rule} {anchors : Keyring} {rule : Rule}
    (h : rule ∈ (Policy.ofRules rules anchors).rules) : rule ∈ rules := by
  rcases List.mem_append.1 h with h | h
  · exact (List.mem_filter.1 h).1
  · exact (List.mem_filter.1 h).1

/-- A document is loaded by reading its sections, one by one. -/
theorem Policy.ofDocument_eq_ok_iff {files : Files} {filename : String} {document : Document}
    {policy : Policy} : ofDocument files filename document = .ok policy ↔ document ≠ [] ∧
      ∃ parts, document.mapM (Part.ofEntry ⟨files, Path.directory filename⟩ filename) =
        .ok parts ∧ ofParts parts = policy := by
  cases document with
  | nil => exact ⟨nofun, fun h => absurd rfl h.1⟩
  | cons e document =>
    unfold ofDocument
    rw [if_neg (by simp)]
    refine Iff.trans bind_eq_ok_iff ?_
    simp only [ne_eq, reduceCtorEq, not_false_eq_true, true_and]
    exact exists_congr fun parts => and_congr_right fun _ => ⟨Except.ok.inj, congrArg Except.ok⟩

namespace Policy.Part

variable {source : CertificateSource} {filename : String} {e : Entry}

/-- A rule is read from a rule section. -/
theorem ofEntry_eq_rule_iff {rule : Rule} : ofEntry source filename e = .ok (.rule rule) ↔
    Section.IsKeyed "rule" e ∧ Rule.ofEntries source filename e.children = .ok rule := by
  rw [← Section.hasKey_iff (show Text.lower "rule" = "rule" by decide)]
  unfold ofEntry
  split
  · next hrule =>
    rw [map_eq_ok_iff, and_iff_right hrule]
    simp
  · next hrule =>
    refine iff_of_false ?_ fun h => hrule h.1
    split
    · intro h
      obtain ⟨c, -, hc⟩ := map_eq_ok_iff.1 h
      cases hc
    · nofun

/-- A trust anchor is read from a section of its own. -/
theorem ofEntry_eq_anchor_iff {c : Certificate} : ofEntry source filename e = .ok (.anchor c) ↔
    Section.IsKeyed "trust-anchor" e ∧
      source.certificate "trust-anchor" e.children = .ok c := by
  unfold ofEntry
  split
  · next hrule =>
    refine iff_of_false ?_ ?_
    · intro h
      obtain ⟨r, -, hr⟩ := map_eq_ok_iff.1 h
      cases hr
    · rintro ⟨hanchor, -⟩
      have hkeyed : Section.IsKeyed "rule" e := (Section.hasKey_iff (by decide)).1 hrule
      exact absurd (hkeyed.unique hanchor) (by decide)
  · rw [← Section.hasKey_iff (show Text.lower "trust-anchor" = "trust-anchor" by decide)]
    split
    · next hanchor =>
      rw [map_eq_ok_iff, and_iff_right hanchor]
      simp only [anchor.injEq, exists_eq_right]
      exact mapError_eq_ok_iff
    · next hanchor => exact iff_of_false nofun fun h => hanchor h.1

end Policy.Part

/-- A loaded policy is put together from parts, each of which is read from a section. -/
theorem Policy.Loaded.exists_parts {policy : Policy} (h : policy.Loaded) :
    ∃ source filename parts, policy = .ofParts parts ∧
      ∀ part ∈ parts, ∃ e, Part.ofEntry source filename e = .ok part := by
  obtain ⟨files, filename, document, h⟩ := h
  obtain ⟨-, parts, hparts, rfl⟩ := ofDocument_eq_ok_iff.1 h
  refine ⟨⟨files, Path.directory filename⟩, filename, parts, rfl, fun part hpart => ?_⟩
  obtain ⟨e, -, he⟩ := exists_of_mem_mapM hparts hpart
  exact ⟨e, he⟩

/-- Every rule of a loaded policy is read from a section. -/
theorem Policy.Loaded.exists_ofEntries_rule {policy : Policy} (h : policy.Loaded) {rule : Rule}
    (hr : rule ∈ policy.rules) :
    ∃ source filename entries, Rule.ofEntries source filename entries = .ok rule := by
  obtain ⟨source, filename, parts, rfl, hparts⟩ := h.exists_parts
  obtain ⟨part, hpart, hrule⟩ := List.mem_filterMap.1 (mem_of_mem_rules_ofRules hr)
  obtain ⟨e, he⟩ := hparts part hpart
  cases part with
  | rule r =>
    cases hrule
    exact ⟨source, filename, e.children, (Part.ofEntry_eq_rule_iff.1 he).2⟩
  | anchor c => cases hrule

/-- Every trust anchor of a loaded policy is read from a section. -/
theorem Policy.Loaded.exists_certificate_anchor {policy : Policy} (h : policy.Loaded)
    {c : Certificate} (hc : c ∈ policy.anchors.certificates) : ∃ source : CertificateSource,
      ∃ sectionName entries, source.certificate sectionName entries = .ok c := by
  obtain ⟨source, filename, parts, rfl, hparts⟩ := h.exists_parts
  obtain ⟨part, hpart, hanchor⟩ := List.mem_filterMap.1 (Keyring.mem_of_mem_ofList hc)
  obtain ⟨e, he⟩ := hparts part hpart
  cases part with
  | rule r => cases hanchor
  | anchor c' =>
    cases hanchor
    exact ⟨source, _, e.children, (Part.ofEntry_eq_anchor_iff.1 he).2⟩

/-- **In a loaded policy, a hierarchical checker is for signatures with a key.** -/
theorem Policy.Loaded.hierarchical_keyed {policy : Policy} (h : policy.Loaded) {rule : Rule}
    (hr : rule ∈ policy.rules) {t : SignatureType} (hc : .hierarchical t ∈ rule.checkers) :
    t ≠ .digestSha256 := by
  obtain ⟨source, filename, entries, hrule⟩ := h.exists_ofEntries_rule hr
  cases (Rule.checkers_of_ofEntries hrule).2 _ hc with
  | hierarchical keyed => exact keyed

end TrustSchema
