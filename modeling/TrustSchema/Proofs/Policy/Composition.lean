import TrustSchema.Proofs.Document.Composition
import TrustSchema.Proofs.Document.Layout
import TrustSchema.Proofs.Policy.WellFormed

/-!
# Configurations one below the other

A configuration may be put together from parts that are kept apart, one below the other. Loading
the whole is loading the parts one after the other (`Policy.ofText_append`): the first fault counts,
the rules of the second part follow those of the first, and its trust anchors take the place of
anchors of the first with the same key name (`Policy.Joins`).

A policy is loaded by reading each section by itself, so this comes down to lists: what is read of
two lists of sections is what is read of each.
-/

namespace TrustSchema.Policy

/-- A policy has the rules of two others, those of the first one before those of the second in
either list. Of their anchors with one key name that of the second counts. -/
structure Joins (policy first second : Policy) : Prop where
  dataRules_eq : policy.dataRules = first.dataRules ++ second.dataRules
  interestRules_eq : policy.interestRules = first.interestRules ++ second.interestRules
  find?_anchors : ∀ n, policy.anchors.find? n =
    (second.anchors.find? n).or (first.anchors.find? n)

theorem ofParts_joins (parts parts' : List Part) :
    (ofParts (parts ++ parts')).Joins (ofParts parts) (ofParts parts') where
  dataRules_eq := by
    show (_ : List Rule).filter _ = _
    rw [List.filterMap_append, List.filter_append]
    rfl
  interestRules_eq := by
    show (_ : List Rule).filter _ = _
    rw [List.filterMap_append, List.filter_append]
    rfl
  find?_anchors n := by
    show (Keyring.ofList _).find? n = ((Keyring.ofList _).find? n).or ((Keyring.ofList _).find? n)
    rw [List.filterMap_append, Keyring.find?_ofList, Keyring.find?_ofList, Keyring.find?_ofList,
      Keyring.last?_append]

section Loading

variable {files : Files} {filename text : String} {document : Document}

theorem ofDocument_of_ne_nil (hne : document ≠ []) : ofDocument files filename document =
    ofParts <$> document.mapM (Part.ofEntry ⟨files, Path.directory filename⟩ filename) := by
  unfold ofDocument
  rw [if_neg (by simpa using hne)]
  exact bind_pure_comp _ _

theorem ofText_of_parse (h : Document.parse text = .ok document) :
    ofText files filename text = ofDocument files filename document := by
  unfold ofText
  rw [h]
  rfl

/-- The trust anchors that the sections of a document configure, in order. -/
def configuredAnchors (files : Files) (filename : String) (document : Document) :
    List Certificate :=
  document.filterMap fun e =>
    (Part.ofEntry ⟨files, Path.directory filename⟩ filename e).toOption.bind Part.anchor?

theorem mem_configuredAnchors_iff {c : Certificate} :
    c ∈ configuredAnchors files filename document ↔
      ∃ e ∈ document, Section.IsKeyed "trust-anchor" e ∧
        CertificateSource.certificate ⟨files, Path.directory filename⟩ "trust-anchor" e.children =
          .ok c := by
  unfold configuredAnchors
  rw [List.mem_filterMap]
  refine exists_congr fun e => and_congr_right fun _ => ?_
  rw [← Part.ofEntry_eq_anchor_iff, Option.bind_eq_some_iff]
  constructor
  · rintro ⟨part, hpart, hanchor⟩
    cases part with
    | rule r => cases hanchor
    | anchor c' =>
      cases hanchor
      exact toOption_eq_some_iff.1 hpart
  · intro h
    exact ⟨.anchor c, toOption_eq_some_iff.2 h, rfl⟩

/-- **The anchor that is found for a key is the last one that is configured for it.** -/
theorem find?_anchors_of_ofDocument {policy : Policy}
    (h : ofDocument files filename document = .ok policy) (n : Name) :
    policy.anchors.find? n = Keyring.last? (configuredAnchors files filename document) n := by
  obtain ⟨-, parts, hparts, rfl⟩ := ofDocument_eq_ok_iff.1 h
  have hanchors : configuredAnchors files filename document = parts.filterMap Part.anchor? := by
    unfold configuredAnchors
    have hread := congrArg
      (List.filterMap fun read : Except LoadError Part => read.toOption.bind Part.anchor?)
      (mapM_eq_ok_iff.1 hparts)
    rw [List.filterMap_map, List.filterMap_map] at hread
    exact hread
  rw [hanchors]
  exact Keyring.find?_ofList _ n

/-- **A section that cannot be read refuses the whole document**, if not another one does before.
-/
theorem ofDocument_eq_error_of_mem {e : Entry} {reason : LoadError} (he : e ∈ document)
    (hread : Part.ofEntry ⟨files, Path.directory filename⟩ filename e = .error reason) :
    ∃ e' ∈ document, ∃ reason',
      Part.ofEntry ⟨files, Path.directory filename⟩ filename e' = .error reason' ∧
        ofDocument files filename document = .error reason' := by
  rw [ofDocument_of_ne_nil (List.ne_nil_of_mem he)]
  cases hall : document.mapM (Part.ofEntry ⟨files, Path.directory filename⟩ filename) with
  | error reason' =>
    obtain ⟨e', he', hread'⟩ := exists_of_mapM_eq_error hall
    exact ⟨e', he', reason', hread', rfl⟩
  | ok parts =>
    have hok : (.error reason : Except LoadError Part) ∈ parts.map .ok := by
      rw [← mapM_eq_ok_iff.1 hall, ← hread]
      exact List.mem_map_of_mem he
    obtain ⟨part, -, ⟨⟩⟩ := List.mem_map.1 hok

/-- The sections of two documents are loaded one after the other. -/
theorem ofDocument_append {document' : Document} (hne : document ≠ []) (hne' : document' ≠ []) :
    (∀ reason, ofDocument files filename document = .error reason →
      ofDocument files filename (document ++ document') = .error reason) ∧
    ∀ policy, ofDocument files filename document = .ok policy →
      (∀ reason, ofDocument files filename document' = .error reason →
        ofDocument files filename (document ++ document') = .error reason) ∧
      ∀ policy', ofDocument files filename document' = .ok policy' →
        ∃ both, ofDocument files filename (document ++ document') = .ok both ∧
          both.Joins policy policy' := by
  rw [ofDocument_of_ne_nil hne, ofDocument_of_ne_nil hne',
    ofDocument_of_ne_nil (List.append_ne_nil_of_left_ne_nil hne _), List.mapM_append]
  cases document.mapM (Part.ofEntry ⟨files, Path.directory filename⟩ filename) with
  | error reason => exact ⟨fun _ h => h, nofun⟩
  | ok parts =>
    refine ⟨nofun, ?_⟩
    rintro _ ⟨⟩
    cases document'.mapM (Part.ofEntry ⟨files, Path.directory filename⟩ filename) with
    | error reason => exact ⟨fun _ h => h, nofun⟩
    | ok parts' =>
      refine ⟨nofun, ?_⟩
      rintro _ ⟨⟩
      exact ⟨_, rfl, ofParts_joins parts parts'⟩

end Loading

/-- **Loading is compositional.** Let two texts each be a document with at least one section. One
below the other they are the document with the sections of both. If the first one cannot be loaded,
neither can the whole, with the same error; or else if the second one cannot. Otherwise the whole
gives a policy with the rules of both in order, and with the anchors of both, of which those of the
second come first.

So of the anchors that are configured for a key name the last is found, and a document with a
section that cannot be read gives no policy, but the error of such a section. -/
theorem ofText_append (files : Files) (filename : String) :
    (∀ a b docA docB, Document.parse a = .ok docA → Document.parse b = .ok docB →
      docA ≠ [] → docB ≠ [] →
        Document.parse (a ++ "\n" ++ b) = .ok (docA ++ docB) ∧
        (∀ reason, ofText files filename a = .error reason →
          ofText files filename (a ++ "\n" ++ b) = .error reason) ∧
        ∀ policy, ofText files filename a = .ok policy →
          (∀ reason, ofText files filename b = .error reason →
            ofText files filename (a ++ "\n" ++ b) = .error reason) ∧
          ∀ policy', ofText files filename b = .ok policy' →
            ∃ both, ofText files filename (a ++ "\n" ++ b) = .ok both ∧
              both.Joins policy policy') ∧
    (∀ document policy, ofDocument files filename document = .ok policy → ∀ n,
      policy.anchors.find? n = Keyring.last? (configuredAnchors files filename document) n) ∧
    ∀ document, ∀ e ∈ document, ∀ reason,
      Part.ofEntry ⟨files, Path.directory filename⟩ filename e = .error reason →
        ∃ e' ∈ document, ∃ reason',
          Part.ofEntry ⟨files, Path.directory filename⟩ filename e' = .error reason' ∧
            ofDocument files filename document = .error reason' := by
  refine ⟨fun a b docA docB ha hb hneA hneB => ?_,
    fun document policy h => find?_anchors_of_ofDocument h,
    fun document e he reason hread => ofDocument_eq_error_of_mem he hread⟩
  have hboth := Document.parse_append ha hb
  rw [ofText_of_parse ha, ofText_of_parse hb, ofText_of_parse hboth]
  exact ⟨hboth, ofDocument_append hneA hneB⟩

end TrustSchema.Policy

namespace TrustSchema.Sample

/-- The section of a trust anchor that is given by its text. -/
def pinnedEntry (text : String) : Entry :=
  .mk "trust-anchor" "" [.mk "type" "base64" [], .mk "base64-string" text []]

theorem pinnedEntry_eq {source : CertificateSource} {filename text : String} {c : Certificate}
    (h : Certificate.ofBase64 text = .ok c) :
    Policy.Part.ofEntry source filename (pinnedEntry text) = .ok (.anchor c) := by
  have hcertificate : source.certificate "trust-anchor" (pinnedEntry text).children = .ok c := by
    refine bind_eq_ok_iff.2 ⟨("base64", [.mk "base64-string" text []]), rfl, ?_⟩
    dsimp only
    rw [if_neg (by decide), if_pos (by decide)]
    have hkey : Section.hasKey "base64-string" (.mk "base64-string" text []) := by
      show Text.sameKeyword "base64-string" "base64-string" = true
      decide
    refine bind_eq_ok_iff.2 ⟨(text, []), ?_, ?_⟩
    · unfold Section.requireValue Section.require
      dsimp only
      rw [if_pos hkey]
      rfl
    · exact bind_eq_ok_iff.2 ⟨(), rfl, mapError_eq_ok_iff.2 h⟩
  have hrule : ¬ Section.hasKey "rule" (pinnedEntry text) := by
    show ¬ Text.sameKeyword "trust-anchor" "rule" = true
    decide
  have hanchor : Section.hasKey "trust-anchor" (pinnedEntry text) := by
    show Text.sameKeyword "trust-anchor" "trust-anchor" = true
    decide
  unfold Policy.Part.ofEntry
  rw [if_neg hrule, if_pos hanchor, hcertificate]
  rfl

/-- A later certificate of the guest's key. -/
def laterGuest : Certificate :=
  ⟨⟨⟨[⟨[103]⟩, ⟨[1]⟩, ⟨[1]⟩]⟩, CertificateContent.encode ⟨0, 20, ⟨.ecdsa, [7]⟩⟩,
    ⟨⟨.digestSha256, none⟩, []⟩⟩, ⟨.ecdsa, [7]⟩, 0, 20⟩

def laterGuestText : String := "DARnBAEEAUwAAAAAAAAAABQAAAAAAAAAAAQHAAAA"

theorem laterGuestText_eq : Certificate.ofBase64 laterGuestText = .ok laterGuest :=
  toOption_eq_some_iff.1 (by decide +kernel)

/-- The guest book with the guest's certificate as an anchor. -/
def pinned : Document := [answeringEntry, pinnedEntry guestText]

/-- What is put below it to replace the anchor. -/
def renewal : Document := [pinnedEntry laterGuestText]

theorem pinned_eq : Policy.ofText guestFiles "guests.conf" (Document.render pinned) =
    .ok (.ofRules [answering] (.ofList [guest])) := by
  rw [Policy.ofText_of_parse (Document.parse_of_layout (Document.layout_render pinned))]
  refine bind_eq_ok_iff.2 ⟨[.rule answering, .anchor guest], mapM_eq_ok_iff.2 ?_, rfl⟩
  exact congrArg₂ (fun rule anchor => [rule, anchor]) answeringEntry_eq
    (pinnedEntry_eq guestText_eq)

theorem renewal_eq : Policy.ofText guestFiles "guests.conf" (Document.render renewal) =
    .ok (.ofRules [] (.ofList [laterGuest])) := by
  rw [Policy.ofText_of_parse (Document.parse_of_layout (Document.layout_render renewal))]
  refine bind_eq_ok_iff.2 ⟨[.anchor laterGuest], mapM_eq_ok_iff.2 ?_, rfl⟩
  exact congrArg (fun anchor => [anchor]) (pinnedEntry_eq laterGuestText_eq)

/-- With the renewal below it, the guest book has the later certificate, and its rule. -/
theorem renewal_replaces : ∃ policy,
    Policy.ofText guestFiles "guests.conf"
      (Document.render pinned ++ "\n" ++ Document.render renewal) = .ok policy ∧
    policy.dataRules = [answering] ∧
    policy.anchors.find? laterGuest.keyName = some laterGuest ∧
    laterGuest.keyName = guest.keyName ∧
    (∀ n, policy.anchors.find? n =
      Keyring.last? (Policy.configuredAnchors guestFiles "guests.conf" (pinned ++ renewal)) n) ∧
    ∃ reason, Policy.ofDocument guestFiles "guests.conf" (pinned ++ [signerEntry]) =
      .error reason := by
  obtain ⟨happend, hlast, hrefuse⟩ := Policy.ofText_append guestFiles "guests.conf"
  obtain ⟨hparse, -, hload⟩ := happend _ _ _ _
    (Document.parse_of_layout (Document.layout_render pinned))
    (Document.parse_of_layout (Document.layout_render renewal)) (List.cons_ne_nil _ _)
    (List.cons_ne_nil _ _)
  obtain ⟨-, hload⟩ := hload _ pinned_eq
  obtain ⟨policy, hpolicy, hjoins⟩ := hload _ renewal_eq
  have hunknown : Policy.Part.ofEntry guestSource "guests.conf" signerEntry =
      .error (.unknownSection "guests.conf" "signer") := rfl
  obtain ⟨-, -, reason, -, hrefused⟩ := hrefuse (pinned ++ [signerEntry]) signerEntry (by simp) _
    hunknown
  refine ⟨policy, hpolicy, hjoins.dataRules_eq, ?_, by decide, hlast _ _ ?_, reason, hrefused⟩
  · rw [hjoins.find?_anchors]
    decide +kernel
  · rw [← Policy.ofText_of_parse hparse]
    exact hpolicy

end TrustSchema.Sample
