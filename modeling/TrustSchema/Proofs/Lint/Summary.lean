import TrustSchema.Lint.Command
import TrustSchema.Proofs.Name.Order
import TrustSchema.Proofs.Policy.Composition

/-!
# What the lint command says of a document

The command prints a summary of the policy that it has loaded. On the way from the document to the
summary the sections are read, rules are split by the kinds of packets, anchors with one key name
take each other's place, and key names are sorted. This module says what has to come out in terms of
the document alone (`Summary.Describes`), and that it does (`Lint.summary_faithful`).

Each rule section has a line, which can be told from the keys and values of the section
(`RuleLine.Outlines`). The lines are sorted by the kinds of packets and otherwise stay in text order
(`RuleLine.SortedByKind`). The anchors are listed by key name, each once and in ascending order,
however the keyring keeps them.
-/

namespace TrustSchema

open Section (IsKeyed)

/-! ## The line of a rule -/

theorem Checker.Opens.unique {entries : List Entry} {t t' : SignatureType}
    (h : Checker.Opens entries t) (h' : Checker.Opens entries t') : t = t' := by
  cases h with
  | intro typed directed named =>
    cases h' with
    | intro typed' directed' named' =>
      have hword := SignatureType.ofKeyword?_eq_some_iff.2 named
      rw [SignatureType.ofKeyword?_eq_some_iff.2 named'] at hword
      exact (Option.some.inj hword).symm

namespace RuleLine

/-- A line outlines a rule section. It has the id, the kind of packets, the number of filters and,
in order, the type of signature that each checker is for. -/
inductive Outlines : List Entry → RuleLine → Prop
  | intro {id usage : Entry} {kind : PacketKind} {fs cs : List Entry} {types : List SignatureType}
      (opens : Rule.Opens id usage kind) (filtered : ∀ e ∈ fs, IsKeyed "filter" e)
      (checked : ∀ e ∈ cs, IsKeyed "checker" e)
      (typed : List.Forall₂ (fun e t => Checker.Opens e.children t) cs types) :
      Outlines (id :: usage :: (fs ++ cs)) ⟨id.value, kind, fs.length, types⟩

variable {source : CertificateSource} {filename : String} {entries : List Entry} {rule : Rule}
  {line line' : RuleLine} {lines sorted : List RuleLine}

/-- There is only one line for a section. -/
theorem Outlines.unique (h : Outlines entries line) (h' : Outlines entries line') :
    line = line' := by
  cases h with
  | @intro id usage kind fs cs types opens filtered checked typed =>
    generalize hentries : id :: usage :: (fs ++ cs) = entries at h'
    cases h' with
    | @intro id' usage' kind' fs' cs' types' opens' filtered' checked' typed' =>
      obtain ⟨rfl, hbehind⟩ := List.cons.inj hentries
      obtain ⟨rfl, hrest⟩ := List.cons.inj hbehind
      have hkind := PacketKind.ofKeyword?_eq_some_iff.2 opens.named
      rw [PacketKind.ofKeyword?_eq_some_iff.2 opens'.named] at hkind
      -- Where the filters end is known, since checkers have another key.
      have hends : ∀ {cs : List Entry}, (∀ e ∈ cs, IsKeyed "checker" e) →
          ∀ e ∈ cs.head?, ¬ IsKeyed "filter" e := fun hcs e he =>
        Rule.not_isKeyed_filter (hcs e (List.mem_of_mem_head? he))
      have htaken := Section.takeAll_append (by decide) filtered (hends checked)
      rw [hrest, Section.takeAll_append (by decide) filtered' (hends checked')] at htaken
      obtain ⟨rfl, rfl⟩ := Prod.mk.inj htaken
      have hright : Relator.RightUnique fun (e : Entry) t => Checker.Opens e.children t :=
        fun _ _ _ => Checker.Opens.unique
      have htypes : types = types' := hright.forall₂ typed typed'
      rw [Option.some.inj hkind, htypes]

/-- The line of a rule outlines the section that the rule is read from. -/
theorem outlines_ofRule (h : Rule.ofEntries source filename entries = .ok rule) :
    Outlines entries (ofRule rule) := by
  cases Rule.ofEntries_eq_ok_iff.1 h with
  | @intro id usage kind fs cs filters checkers opens filtered checked _ =>
    have typed : List.Forall₂ (fun e t => Checker.Opens e.children t) cs
        (checkers.map Checker.signatureType) :=
      List.forall₂_map_right_iff.2
        (checked.read.imp fun _ _ hread => (Checker.opens_and_read_of_ofEntries hread).1)
    rw [ofRule, ← filtered.read.length_eq]
    exact .intro opens filtered.keyed checked.keyed typed

/-! ## The order of the lines -/

/-- Lines are sorted by the kinds of packets. None is lost or added, those for data packets come
before those for interests, and those for one kind keep their order. -/
structure SortedByKind (lines sorted : List RuleLine) : Prop where
  complete : sorted.Perm lines
  separate : sorted.Pairwise fun a b => a.kind = .interest → b.kind = .interest
  stable : ∀ kind, (sorted.filter fun l => l.kind == kind) = lines.filter fun l => l.kind == kind

/-- Where no line for data packets stands behind one for interests, the lines of the two kinds make
up the whole. -/
theorem filter_append_filter_of_separate
    (h : sorted.Pairwise fun a b => a.kind = .interest → b.kind = .interest) :
    (sorted.filter fun l => l.kind == .data) ++ (sorted.filter fun l => l.kind == .interest) =
      sorted := by
  induction sorted with
  | nil => rfl
  | cons l sorted ih =>
    obtain ⟨hbehind, hsorted⟩ := List.pairwise_cons.1 h
    cases hkind : l.kind with
    | data => simpa [hkind] using ih hsorted
    | interest =>
      have hinterest : ∀ l' ∈ sorted, l'.kind = .interest := fun l' hl' => hbehind l' hl' hkind
      have hnone : (sorted.filter fun l => l.kind == .data) = [] :=
        List.filter_eq_nil_iff.2 fun l' hl' => by simp [hinterest l' hl']
      have hall : (sorted.filter fun l => l.kind == .interest) = sorted :=
        List.filter_eq_self.2 fun l' hl' => by simp [hinterest l' hl']
      simp [hkind, hnone, hall]

/-- There is one way to sort lines by the kinds of packets. -/
theorem sortedByKind_iff : SortedByKind lines sorted ↔ sorted =
    (lines.filter fun l => l.kind == .data) ++ lines.filter fun l => l.kind == .interest := by
  constructor
  · intro h
    rw [← h.stable, ← h.stable, filter_append_filter_of_separate h.separate]
  · rintro rfl
    refine ⟨?_, ?_, ?_⟩
    · have hother : (fun l : RuleLine => l.kind == .interest) = fun l => !(l.kind == .data) := by
        funext l
        cases l.kind <;> rfl
      rw [hother]
      exact List.filter_append_perm _ lines
    · have hdata : ∀ l ∈ lines.filter fun l => l.kind == .data, l.kind = .data := fun l hl => by
        simpa using (List.mem_filter.1 hl).2
      have hinterest : ∀ l ∈ lines.filter fun l => l.kind == .interest, l.kind = .interest :=
        fun l hl => by simpa using (List.mem_filter.1 hl).2
      refine List.pairwise_append.2 ⟨?_, ?_, fun a _ b hb _ => hinterest b hb⟩
      · refine List.pairwise_of_forall_mem_list fun a ha b _ hkind => ?_
        rw [hdata a ha] at hkind
        cases hkind
      · exact List.pairwise_of_forall_mem_list fun a _ b hb _ => hinterest b hb
    · intro kind
      cases kind <;> simp +contextual [List.filter_filter]

end RuleLine

/-! ## The sections of a document -/

namespace Policy

/-- The rules of a document are those of its rule sections, in order. -/
theorem forall₂_rules {source : CertificateSource} {filename : String} {document : Document}
    {parts : List Part}
    (h : document.mapM (Part.ofEntry source filename) = .ok parts) :
    List.Forall₂ (fun e rule => Rule.ofEntries source filename e.children = .ok rule)
      (document.filter fun e => IsKeyed "rule" e) (parts.filterMap Part.rule?) := by
  rw [mapM_eq_ok_iff_forall₂] at h
  induction h with
  | nil => exact .nil
  | @cons e part document parts hread _ ih =>
    cases part with
    | rule r =>
      obtain ⟨hkeyed, hrule⟩ := Part.ofEntry_eq_rule_iff.1 hread
      rw [List.filter_cons_of_pos (by simpa using hkeyed)]
      exact .cons hrule ih
    | anchor c =>
      have hkeyed := (Part.ofEntry_eq_anchor_iff.1 hread).1
      have hother : ¬ IsKeyed "rule" e := fun hrule =>
        absurd (hrule.unique hkeyed) (by decide)
      rw [List.filter_cons_of_neg (by simpa using hother)]
      exact ih

/-- The lines of a policy's rules are sorted by the kinds of packets. -/
theorem sortedByKind_ofRules (rules : List Rule) (anchors : Keyring) :
    RuleLine.SortedByKind (rules.map RuleLine.ofRule)
      ((ofRules rules anchors).rules.map RuleLine.ofRule) := by
  rw [RuleLine.sortedByKind_iff, List.filter_map, List.filter_map, ← List.map_append]
  rfl

end Policy

/-- A document pins a key: it has a section with a trust anchor for it. -/
def Document.Pins (source : CertificateSource) (document : Document) (keyName : Name) : Prop :=
  ∃ e ∈ document, IsKeyed "trust-anchor" e ∧
    ∃ c, source.certificate "trust-anchor" e.children = .ok c ∧ c.keyName = keyName

/-- **The anchors of a loaded policy are for the keys that the document pins.** -/
theorem Policy.mem_keyNames_anchors_iff {files : Files} {filename : String} {document : Document}
    {policy : Policy} (h : ofDocument files filename document = .ok policy) {n : Name} :
    n ∈ policy.anchors.keyNames ↔
      Document.Pins ⟨files, Path.directory filename⟩ document n := by
  rw [Keyring.mem_keyNames_iff, find?_anchors_of_ofDocument h, Keyring.exists_last?_iff]
  constructor
  · rintro ⟨c, hc, hn⟩
    obtain ⟨e, he, hkeyed, hread⟩ := mem_configuredAnchors_iff.1 hc
    exact ⟨e, he, hkeyed, c, hread, hn⟩
  · rintro ⟨e, he, hkeyed, c, hread, hn⟩
    exact ⟨c, mem_configuredAnchors_iff.2 ⟨e, he, hkeyed, hread⟩, hn⟩

/-! ## The summary -/

namespace Summary

/-- What a summary must say of a document. -/
structure Describes (source : CertificateSource) (document : Document) (s : Summary) : Prop where
  /-- Each rule section has its line, and the lines are sorted by the kinds of packets. -/
  outlined : ∃ lines, List.Forall₂ (fun e line => RuleLine.Outlines e.children line)
    (document.filter fun e => IsKeyed "rule" e) lines ∧ RuleLine.SortedByKind lines s.rules
  ascending : Name.Ascending s.anchors
  pinned : ∀ n, n ∈ s.anchors ↔ Document.Pins source document n

variable {files : Files} {filename : String} {document : Document} {policy : Policy}
  {source : CertificateSource} {s s' : Summary}

/-- Nothing in the lists of a summary is left open. -/
theorem Describes.unique (h : s.Describes source document) (h' : s'.Describes source document) :
    s.rules = s'.rules ∧ s.anchors = s'.anchors := by
  obtain ⟨lines, houtlines, hsorted⟩ := h.outlined
  obtain ⟨lines', houtlines', hsorted'⟩ := h'.outlined
  constructor
  · have hright : Relator.RightUnique fun (e : Entry) line => RuleLine.Outlines e.children line :=
      fun _ _ _ => RuleLine.Outlines.unique
    have hlines : lines = lines' := hright.forall₂ houtlines houtlines'
    rw [RuleLine.sortedByKind_iff.1 hsorted, RuleLine.sortedByKind_iff.1 hsorted', hlines]
  · exact Name.eq_of_ascending h.ascending h'.ascending fun n =>
      (h.pinned n).trans (h'.pinned n).symm

/-- The summary of a loaded policy describes the document. -/
theorem ofPolicy_describes (h : Policy.ofDocument files filename document = .ok policy)
    (file : String) (stepLimit : Nat) :
    (ofPolicy file stepLimit policy).Describes ⟨files, Path.directory filename⟩ document where
  outlined := by
    obtain ⟨-, parts, hparts, rfl⟩ := Policy.ofDocument_eq_ok_iff.1 h
    refine ⟨(parts.filterMap Policy.Part.rule?).map RuleLine.ofRule, ?_,
      Policy.sortedByKind_ofRules _ _⟩
    exact List.forall₂_map_right_iff.2
      ((Policy.forall₂_rules hparts).imp fun _ _ => RuleLine.outlines_ofRule)
  ascending := policy.anchors.ascending_keyNames
  pinned _ := Policy.mem_keyNames_anchors_iff h

end Summary

namespace Lint

variable {files : Files} {filename text : String} {document : Document} {policy : Policy}
  {settings : Settings}

/-- A policy that loads is summarized, if the settings are such that there is a validator. -/
theorem summary_eq_ok (hsettings : settings.cacheLifetime ≤ Cache.longestLifetime)
    (hread : files filename = .ok text) (hparse : Document.parse text = .ok document)
    (hload : Policy.ofDocument files filename document = .ok policy) :
    summary settings files filename = .ok (.ofPolicy filename settings.stepLimit policy) := by
  have hcache : Cache.ofLimits settings.cacheLifetime settings.cacheCapacity = .ok _ :=
    if_neg (Nat.not_lt.2 hsettings)
  refine bind_eq_ok_iff.2 ⟨text, mapError_eq_ok_iff.2 hread, ?_⟩
  refine bind_eq_ok_iff.2 ⟨_, mapError_eq_ok_iff.2 (bind_eq_ok_iff.2 ⟨_, hcache, rfl⟩), ?_⟩
  refine bind_eq_ok_iff.2 ⟨policy, mapError_eq_ok_iff.2 ?_, rfl⟩
  rw [Policy.ofText_of_parse hparse, hload]

/-- **The summary is a faithful and canonical view of the document.** Take a document that loads.

- Whatever its file is called, and whatever the step limit is, the summary describes the document:
  the lines of its rule sections, those for data packets before those for interests and otherwise in
  text order; and, in strictly ascending order, the key names of its trust anchors.
- Two summaries that describe one document have the same lines and the same key names.
- The key names are the same in whatever order the anchors are kept.
- They are the same for any document whose sections pin the same keys, however often and in
  whatever order.
- This is the summary that the command gives of a file with the text of the document, if there is a
  validator for the settings. -/
theorem summary_faithful (h : Policy.ofDocument files filename document = .ok policy) :
    (∀ file stepLimit, (Summary.ofPolicy file stepLimit policy).Describes
      ⟨files, Path.directory filename⟩ document) ∧
    (∀ (source : CertificateSource) (s s' : Summary), s.Describes source document →
      s'.Describes source document → s.rules = s'.rules ∧ s.anchors = s'.anchors) ∧
    (∀ (cs : List Certificate) (file : String) (stepLimit : Nat),
      cs.Perm policy.anchors.certificates → Name.sort (cs.map Certificate.keyName) =
        (Summary.ofPolicy file stepLimit policy).anchors) ∧
    (∀ document' policy', Policy.ofDocument files filename document' = .ok policy' →
      (∀ n, Document.Pins ⟨files, Path.directory filename⟩ document' n ↔
        Document.Pins ⟨files, Path.directory filename⟩ document n) →
      ∀ file stepLimit, (Summary.ofPolicy file stepLimit policy').anchors =
        (Summary.ofPolicy file stepLimit policy).anchors) ∧
    ∀ settings text, settings.cacheLifetime ≤ Cache.longestLifetime →
      files filename = .ok text → Document.parse text = .ok document →
        summary settings files filename =
          .ok (.ofPolicy filename settings.stepLimit policy) := by
  refine ⟨Summary.ofPolicy_describes h, fun source s s' => Summary.Describes.unique,
    fun cs file stepLimit => Keyring.sort_eq_keyNames_of_perm, ?_,
    fun settings text hsettings hread hparse => summary_eq_ok hsettings hread hparse h⟩
  intro document' policy' h' hpins file stepLimit
  have hdescribes := Summary.ofPolicy_describes h file stepLimit
  have hdescribes' := Summary.ofPolicy_describes h' file stepLimit
  exact Name.eq_of_ascending hdescribes'.ascending hdescribes.ascending fun n =>
    (hdescribes'.pinned n).trans ((hpins n).trans (hdescribes.pinned n).symm)

end Lint

namespace Sample

/-- The certificate of the host, whose key is `/a/%01`. -/
def host : Certificate :=
  ⟨⟨⟨[⟨[97]⟩, ⟨[1]⟩, ⟨[0]⟩]⟩, CertificateContent.encode ⟨0, 10, ⟨.ecdsa, [7]⟩⟩,
    ⟨⟨.digestSha256, none⟩, []⟩⟩, ⟨.ecdsa, [7]⟩, 0, 10⟩

def hostText : String := "DARhBAEEAEwAAAAAAAAAAAoAAAAAAAAAAAQHAAAA"

theorem hostText_eq : Certificate.ofBase64 hostText = .ok host :=
  toOption_eq_some_iff.1 (by decide +kernel)

/-- Those who arrive under `/g` sign with a key, or give a digest. -/
def arrivingEntry : Entry :=
  .mk "rule" "" [.mk "id" "arriving" [], .mk "for" "interest" [],
    .mk "filter" "" [.mk "type" "name" [], .mk "name" "/g" [], .mk "relation" "is-prefix-of" []],
    .mk "checker" "" [.mk "type" "hierarchical" [], .mk "sig-type" "ecdsa-sha256" []],
    .mk "checker" "" [.mk "type" "customized" [], .mk "sig-type" "digest-sha256" []]]

def arriving : Rule :=
  ⟨"arriving", .interest, [.related ⟨[⟨[103]⟩]⟩ .isPrefixOf],
    [.hierarchical .ecdsaSha256, .customized .digestSha256 none]⟩

/-- A document with sections of both kinds in turn. The guest's key is pinned twice. -/
def register : Document :=
  [arrivingEntry, pinnedEntry guestText, answeringEntry, pinnedEntry hostText,
    pinnedEntry laterGuestText]

def registerFiles : Files := fun path =>
  if path = "register.conf" then .ok (Document.render register) else .error .notFound

def registerPolicy : Policy := .ofRules [arriving, answering] (.ofList [guest, host, laterGuest])

theorem register_eq :
    Policy.ofDocument registerFiles "register.conf" register = .ok registerPolicy := by
  refine Policy.ofDocument_eq_ok_iff.2 ⟨List.cons_ne_nil _ _,
    [.rule arriving, .anchor guest, .rule answering, .anchor host, .anchor laterGuest], ?_, rfl⟩
  exact mapM_eq_ok_iff_forall₂.2 (.cons rfl (.cons (pinnedEntry_eq guestText_eq) (.cons rfl
    (.cons (pinnedEntry_eq hostText_eq) (.cons (pinnedEntry_eq laterGuestText_eq) .nil)))))

/-- The rule for data packets comes first, and the key of the host before that of the guest. -/
theorem register_summarized :
    Policy.ofDocument registerFiles "register.conf" register = .ok registerPolicy ∧
    Lint.summary {} registerFiles "register.conf" =
      .ok (.ofPolicy "register.conf" 10 registerPolicy) ∧
    (Summary.ofPolicy "register.conf" 10 registerPolicy).Describes
      ⟨registerFiles, Path.directory "register.conf"⟩ register ∧
    (Summary.ofPolicy "register.conf" 10 registerPolicy).rules =
      [⟨"answering", .data, 0, [.digestSha256]⟩,
        ⟨"arriving", .interest, 1, [.ecdsaSha256, .digestSha256]⟩] ∧
    (Summary.ofPolicy "register.conf" 10 registerPolicy).anchors = [host.keyName, guest.keyName] ∧
    Name.sort ([host, laterGuest].map Certificate.keyName) = [host.keyName, guest.keyName] := by
  obtain ⟨hdescribes, -, hlisted, -, hcommand⟩ := Lint.summary_faithful register_eq
  have hanchors : (Summary.ofPolicy "register.conf" 10 registerPolicy).anchors =
      [host.keyName, guest.keyName] := by
    have hascending : Name.Ascending [host.keyName, guest.keyName] :=
      List.pairwise_pair.2 (Name.compare_eq_lt_iff.1 (by decide))
    exact Name.sort_eq_of_ascending hascending (.swap _ _ _)
  refine ⟨register_eq, ?_, hdescribes _ _, rfl, hanchors,
    (hlisted [host, laterGuest] _ _ (.swap _ _ _)).trans hanchors⟩
  refine hcommand {} (Document.render register) (by decide) (if_pos rfl) ?_
  exact Document.parse_of_layout (Document.layout_render register)

end Sample

end TrustSchema
