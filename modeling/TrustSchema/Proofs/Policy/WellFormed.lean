import TrustSchema.Proofs.Policy.Loaded

/-!
# Loaded policies are well formed

A policy that is loaded keeps to what the rest of the program relies on (`Policy.WellFormed`). Its
rules are sorted by kind and each has a checker. Digests, which have no signer, are left to
customized checkers, and only they need no condition on the key. Certificates, those of fixed
signers and those that serve as trust anchors, have been read from data packets and are filed under
their own key names.

Each reader has one lemma here, and `Policy.Loaded.wellFormed` puts them together.
-/

namespace TrustSchema

/-- Certificates that are read from data packets and are found under their own key names, and under
no others. -/
structure Keyring.Filed (k : Keyring) : Prop where
  entry : ∀ n c, k.find? n = some c → Certificate.ofData c.data = .ok c ∧ n = c.name.parent
  found : ∀ c ∈ k.certificates, k.find? c.name.parent = some c

/-- A checker that a configuration can give. -/
inductive Checker.WellFormed : Checker → Prop
  /-- Only digests need no condition on the key. -/
  | unconditioned : WellFormed (.customized .digestSha256 none)
  | conditioned {t : SignatureType} {check : LocatorCheck} : WellFormed (.customized t (some check))
  | hierarchical {t : SignatureType} (keyed : t ≠ .digestSha256) : WellFormed (.hierarchical t)
  | fixedSigner {t : SignatureType} {signers : Keyring} (keyed : t ≠ .digestSha256)
      (some_signer : signers.certificates ≠ []) (filed : signers.Filed) :
      WellFormed (.fixedSigner t signers)

/-- A rule that a configuration can give. -/
structure Rule.WellFormed (r : Rule) : Prop where
  some_checker : r.checkers ≠ []
  checkers : ∀ checker ∈ r.checkers, checker.WellFormed

/-- A policy that a configuration can give. -/
structure Policy.WellFormed (policy : Policy) : Prop where
  data_kind : ∀ r ∈ policy.dataRules, r.kind = .data
  interest_kind : ∀ r ∈ policy.interestRules, r.kind = .interest
  rules : ∀ r ∈ policy.rules, r.WellFormed
  anchors : policy.anchors.Filed

/-- The policy without rules and anchors is one that a configuration could give. -/
theorem Policy.wellFormed_empty : Policy.empty.WellFormed where
  data_kind := List.forall_mem_nil _
  interest_kind := List.forall_mem_nil _
  rules := List.forall_mem_nil _
  anchors := ⟨nofun, List.forall_mem_nil _⟩

/-! ## Certificates -/

/-- Certificates with different key names are found under them. -/
theorem Keyring.filed_of_decoded {k : Keyring}
    (decoded : ∀ c ∈ k.certificates, Certificate.ofData c.data = .ok c) : k.Filed where
  entry := fun _ c hc => ⟨decoded c (List.mem_of_find?_eq_some hc), (keyName_of_find? hc).symm⟩
  found := fun _ hc => find?_keyName_of_mem hc

namespace Certificate

theorem decoded_of_ofBytes {bytes : List UInt8} {c : Certificate} (h : ofBytes bytes = .ok c) :
    ofData c.data = .ok c := by
  obtain ⟨d, -, h⟩ := bind_eq_ok_iff.1 h
  have hd := mapError_eq_ok_iff.1 h
  rw [data_of_ofData hd, hd]

theorem decoded_of_ofBase64 {text : String} {c : Certificate} (h : ofBase64 text = .ok c) :
    ofData c.data = .ok c := by
  obtain ⟨bytes, -, h⟩ := bind_eq_ok_iff.1 h
  exact decoded_of_ofBytes h

theorem decoded_of_ofText {text : String} {c : Certificate} (h : ofText text = .ok c) :
    ofData c.data = .ok c := by
  unfold ofText at h
  split at h
  · obtain ⟨block, -, h⟩ := bind_eq_ok_iff.1 h
    split at h
    · exact decoded_of_ofBytes h
    · cases h
  · exact decoded_of_ofBase64 h

end Certificate

/-- A certificate of a configuration is read from a data packet, wherever the text comes from. -/
theorem CertificateSource.decoded_of_certificate {source : CertificateSource}
    {sectionName : String} {entries : List Entry} {c : Certificate}
    (h : source.certificate sectionName entries = .ok c) : Certificate.ofData c.data = .ok c := by
  obtain ⟨⟨type, entries⟩, -, h⟩ := bind_eq_ok_iff.1 h
  dsimp only at h
  split at h
  · obtain ⟨⟨file, entries⟩, -, h⟩ := bind_eq_ok_iff.1 h
    obtain ⟨-, -, h⟩ := bind_eq_ok_iff.1 h
    obtain ⟨text, -, h⟩ := bind_eq_ok_iff.1 (mapError_eq_ok_iff.1 h)
    exact Certificate.decoded_of_ofText h
  · split at h
    · obtain ⟨⟨text, entries⟩, -, h⟩ := bind_eq_ok_iff.1 h
      obtain ⟨-, -, h⟩ := bind_eq_ok_iff.1 h
      exact Certificate.decoded_of_ofBase64 (mapError_eq_ok_iff.1 h)
    · cases h

/-! ## Checkers, rules and policies -/

/-- A fixed-signer checker has a signer, and all of them are filed. -/
theorem Checker.filed_of_readSigners {source : CertificateSource} {entries rest : List Entry}
    {signers : Keyring} (h : readSigners source entries = .ok (signers, rest)) :
    signers.certificates ≠ [] ∧ signers.Filed := by
  obtain ⟨certificates, hcertificates, h⟩ := bind_eq_ok_iff.1 h
  split at h
  · cases h
  · next hsome =>
    cases h
    refine ⟨Keyring.ofList_ne_nil (by simpa using hsome), Keyring.filed_of_decoded fun c hc => ?_⟩
    obtain ⟨e, -, he⟩ := exists_of_mem_mapM hcertificates (Keyring.mem_of_mem_ofList hc)
    exact CertificateSource.decoded_of_certificate he

theorem Checker.Read.wellFormed {source : CertificateSource} {checker : Checker}
    (h : checker.Read source) : checker.WellFormed := by
  cases h with
  | @customized t locator entries rest read =>
    unfold readLocator at read
    split at read
    · obtain ⟨check, -, read⟩ := bind_eq_ok_iff.1 read
      cases read
      exact .conditioned
    · split at read
      · next hdigest =>
        cases read
        rw [hdigest]
        exact .unconditioned
      · cases read
  | hierarchical keyed => exact .hierarchical keyed
  | fixedSigner keyed read =>
    obtain ⟨hsome, hfiled⟩ := Checker.filed_of_readSigners read
    exact .fixedSigner keyed hsome hfiled

/-- **Every loaded policy is well formed.** -/
theorem Policy.Loaded.wellFormed {policy : Policy} (h : policy.Loaded) : policy.WellFormed where
  data_kind := by
    obtain ⟨source, filename, parts, rfl, -⟩ := h.exists_parts
    intro r hr
    exact eq_of_beq (List.mem_filter.1 hr).2
  interest_kind := by
    obtain ⟨source, filename, parts, rfl, -⟩ := h.exists_parts
    intro r hr
    exact eq_of_beq (List.mem_filter.1 hr).2
  rules := by
    intro r hr
    obtain ⟨source, filename, entries, hrule⟩ := h.exists_ofEntries_rule hr
    obtain ⟨hsome, hread⟩ := Rule.checkers_of_ofEntries hrule
    exact ⟨hsome, fun checker hchecker => (hread checker hchecker).wellFormed⟩
  anchors := by
    refine Keyring.filed_of_decoded fun c hc => ?_
    obtain ⟨source, sectionName, entries, hc⟩ := h.exists_certificate_anchor hc
    exact CertificateSource.decoded_of_certificate hc

/-- **Whatever is loaded is well formed**, from a document, a text or a file, and whatever the files
hold. Whether or not all of a document can be loaded, each rule that is read from a section of it
has a checker. -/
theorem Policy.wellFormed_of_loading (files : Files) :
    (∀ filename document policy, Policy.ofDocument files filename document = .ok policy →
      policy.WellFormed) ∧
    (∀ filename text policy, Policy.ofText files filename text = .ok policy →
      policy.WellFormed) ∧
    (∀ path policy, Policy.ofFile files path = .ok policy → policy.WellFormed) ∧
    ∀ source filename entries rule, Rule.ofEntries source filename entries = .ok rule →
      rule.checkers ≠ [] := by
  refine ⟨?_, ?_, ?_, ?_⟩
  · intro filename document policy h
    exact Policy.Loaded.wellFormed ⟨files, filename, document, h⟩
  · intro filename text policy h
    exact (Policy.loaded_of_ofText h).wellFormed
  · intro path policy h
    exact (Policy.loaded_of_ofFile h).wellFormed
  · intro source filename entries rule h
    exact (Rule.checkers_of_ofEntries h).1

namespace Sample

/-- The certificate of a guest, whose key is `/g/%01`. -/
def guest : Certificate :=
  ⟨⟨⟨[⟨[103]⟩, ⟨[1]⟩, ⟨[0]⟩]⟩, CertificateContent.encode ⟨0, 10, ⟨.ecdsa, [7]⟩⟩,
    ⟨⟨.digestSha256, none⟩, []⟩⟩, ⟨.ecdsa, [7]⟩, 0, 10⟩

def guestText : String := "DARnBAEEAEwAAAAAAAAAAAoAAAAAAAAAAAQHAAAA"

theorem guestText_eq : Certificate.ofBase64 guestText = .ok guest :=
  toOption_eq_some_iff.1 (by decide +kernel)

/-- The configuration of the guest book needs no files besides. -/
def guestFiles : Files := fun _ => .error .notFound

def guestSource : CertificateSource := ⟨guestFiles, Path.directory "guests.conf"⟩

def signerEntry : Entry :=
  .mk "signer" "" [.mk "type" "base64" [], .mk "base64-string" guestText []]

theorem signerEntry_eq :
    guestSource.certificate "checker.signer" signerEntry.children = .ok guest := by
  refine bind_eq_ok_iff.2 ⟨("base64", signerEntry.children.tail), rfl, ?_⟩
  dsimp only
  rw [if_neg (by decide), if_pos (by decide)]
  refine bind_eq_ok_iff.2 ⟨(guestText, []), rfl, ?_⟩
  exact bind_eq_ok_iff.2 ⟨(), rfl, mapError_eq_ok_iff.2 guestText_eq⟩

def guestChecker : Checker := .fixedSigner .ecdsaSha256 (.ofList [guest])

def guestCheckerEntry : Entry :=
  .mk "checker" "" [.mk "type" "fixed-signer" [], .mk "sig-type" "ecdsa-sha256" [], signerEntry]

theorem guestCheckerEntry_eq : Checker.ofEntry guestSource guestCheckerEntry = .ok guestChecker := by
  refine bind_eq_ok_iff.2 ⟨("fixed-signer", guestCheckerEntry.children.tail), rfl, ?_⟩
  refine bind_eq_ok_iff.2 ⟨("ecdsa-sha256", [signerEntry]), rfl, ?_⟩
  refine bind_eq_ok_iff.2 ⟨.ecdsaSha256, rfl, ?_⟩
  dsimp only
  rw [if_neg (by decide), if_neg (by decide), if_pos (by decide), if_neg (by decide)]
  have hsigners : Checker.readSigners guestSource [signerEntry] = .ok (.ofList [guest], []) := by
    refine bind_eq_ok_iff.2 ⟨[guest], ?_, rfl⟩
    show [signerEntry].mapM (fun e => guestSource.certificate "checker.signer" e.children) = _
    rw [List.mapM_cons, signerEntry_eq]
    rfl
  exact bind_eq_ok_iff.2 ⟨(.ofList [guest], []), hsigners, rfl⟩

def asking : Rule := ⟨"asking", .interest, [], [guestChecker]⟩

def answering : Rule := ⟨"answering", .data, [], [.customized .digestSha256 none]⟩

/-- Guests ask, and everyone may answer. -/
def guestPolicy : Policy := ⟨[answering], [asking], .empty⟩

def askingEntry : Entry :=
  .mk "rule" "" [.mk "id" "asking" [], .mk "for" "interest" [], guestCheckerEntry]

def answeringEntry : Entry :=
  .mk "rule" "" [.mk "id" "answering" [], .mk "for" "data" [],
    .mk "checker" "" [.mk "type" "customized" [], .mk "sig-type" "digest-sha256" []]]

theorem askingEntry_eq :
    Policy.Part.ofEntry guestSource "guests.conf" askingEntry = .ok (.rule asking) := by
  unfold Policy.Part.ofEntry
  rw [if_pos (by decide)]
  refine map_eq_ok_iff.2 ⟨asking, ?_, rfl⟩
  refine bind_eq_ok_iff.2 ⟨("asking", askingEntry.children.tail), rfl, ?_⟩
  refine bind_eq_ok_iff.2 ⟨("interest", [guestCheckerEntry]), rfl, ?_⟩
  refine bind_eq_ok_iff.2 ⟨.interest, rfl, ?_⟩
  refine bind_eq_ok_iff.2 ⟨[], rfl, ?_⟩
  refine bind_eq_ok_iff.2 ⟨[guestChecker], mapError_eq_ok_iff.2 ?_, rfl⟩
  show [guestCheckerEntry].mapM (Checker.ofEntry guestSource) = _
  rw [List.mapM_cons, guestCheckerEntry_eq]
  rfl

theorem answeringEntry_eq :
    Policy.Part.ofEntry guestSource "guests.conf" answeringEntry = .ok (.rule answering) := rfl

theorem guestPolicy_eq :
    Policy.ofDocument guestFiles "guests.conf" [askingEntry, answeringEntry] = .ok guestPolicy := by
  refine bind_eq_ok_iff.2 ⟨[.rule asking, .rule answering], ?_, rfl⟩
  show [askingEntry, answeringEntry].mapM (Policy.Part.ofEntry guestSource "guests.conf") = _
  rw [List.mapM_cons, List.mapM_cons, askingEntry_eq, answeringEntry_eq]
  rfl

/-- The guest book is sorted by kind, and its fixed signer is found under the key name. -/
theorem guestPolicy_wellFormed :
    Policy.ofDocument guestFiles "guests.conf" [askingEntry, answeringEntry] = .ok guestPolicy ∧
      guestPolicy.WellFormed ∧ guestPolicy.interestRules = [asking] ∧
      (Keyring.ofList [guest]).find? guest.name.parent = some guest := by
  have hall := (Policy.wellFormed_of_loading guestFiles).1 _ _ _ guestPolicy_eq
  have hchecker : guestChecker.WellFormed :=
    (hall.rules asking (by simp [guestPolicy, Policy.rules])).checkers _ List.mem_cons_self
  cases hchecker with
  | fixedSigner keyed some_signer filed =>
    exact ⟨guestPolicy_eq, hall, rfl, filed.found guest List.mem_cons_self⟩

end Sample

end TrustSchema
