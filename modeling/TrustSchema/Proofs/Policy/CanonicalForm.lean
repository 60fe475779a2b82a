import TrustSchema.Policy.Load
import TrustSchema.Proofs.Agreement

/-!
# What of a configuration matters

The keys of a configuration are of two sorts. A leaf has a value, and nothing reads what its block
holds; a block has entries, and nothing reads its value. Keys may be written in any case, and so may
the values that are keywords. What remains if all this is taken away is the canonical form of a tree
(`Entry.canonical`).

Loading depends on this form only (`Policy.ofDocument_canonical`): trees with one canonical form
give the same policy, or they are refused for the same reason. So nothing beside the schema is read,
not even to choose between two errors. The proof follows the readers, one lemma for each; two runs
are compared step by step, and the entries that are left are alike at each step.
-/

namespace TrustSchema

/-! ## The canonical form -/

namespace Schema

/-- The keys of values that are keywords. -/
def keywordKeys : List String := ["for", "type", "relation", "h-relation", "sig-type"]

/-- The keys of leaves. -/
def leafKeys : List String :=
  ["id", "for", "type", "name", "relation", "regex", "sig-type", "k-regex", "k-expand",
    "h-relation", "p-regex", "p-expand", "file-name", "base64-string"]

/-- The keys of blocks. -/
def blockKeys : List String :=
  ["rule", "trust-anchor", "filter", "checker", "key-locator", "hyper-relation", "signer"]

/-- What matters of a value, by the key it belongs to, which is in lower case. -/
def canonicalValue (key value : String) : String :=
  if key ∈ blockKeys then "" else if key ∈ keywordKeys then Text.lower value else value

end Schema

mutual

/-- What matters of an entry, whichever place it stands in. -/
def Entry.canonical : Entry → Entry
  | .mk key value children =>
    .mk (Text.lower key) (Schema.canonicalValue (Text.lower key) value)
      (if Text.lower key ∈ Schema.leafKeys then [] else Entry.canonicalAll children)

/-- What matters of entries, in the same order. -/
def Entry.canonicalAll : List Entry → List Entry
  | [] => []
  | e :: es => e.canonical :: Entry.canonicalAll es

end

/-- What matters of a whole tree: its root is a block, whatever it is called. -/
def Entry.canonicalRoot (root : Entry) : Entry := .mk "" "" (Entry.canonicalAll root.children)

/-- A fault, with the keys and keywords that it quotes in lower case. -/
def SectionFault.folded : SectionFault → SectionFault
  | .unexpected expected found => .unexpected expected (Text.lower found)
  | .surplus sectionName found => .surplus sectionName (Text.lower found)
  | .unsupported key value => .unsupported key (Text.lower value)
  | fault => fault

/-- An error, with the keys and keywords that it quotes in lower case. -/
def LoadError.folded : LoadError → LoadError
  | .unknownSection filename key => .unknownSection filename (Text.lower key)
  | .ruleWithoutId filename reason => .ruleWithoutId filename reason.folded
  | .inRule id reason => .inRule id reason.folded
  | .inTrustAnchor filename reason => .inTrustAnchor filename reason.folded
  | e => e

/-! ## Entries that are alike -/

/-- Two entries have the same canonical form. -/
def Entry.Alike (e e' : Entry) : Prop := e.canonical = e'.canonical

/-- Two lists of entries are alike, entry by entry. -/
abbrev Entry.AllAlike : List Entry → List Entry → Prop := List.Forall₂ Entry.Alike

section Alike

variable {key : String} {e e' : Entry} {es es' : List Entry}

theorem Entry.canonicalAll_eq_map (es : List Entry) :
    Entry.canonicalAll es = es.map Entry.canonical := by
  induction es with
  | nil => rfl
  | cons e es ih => rw [Entry.canonicalAll, ih, List.map_cons]

theorem Entry.allAlike_iff : Entry.AllAlike es es' ↔
    Entry.canonicalAll es = Entry.canonicalAll es' := by
  rw [Entry.canonicalAll_eq_map, Entry.canonicalAll_eq_map, ← List.forall₂_eq_eq_eq,
    List.forall₂_map_left_iff, List.forall₂_map_right_iff]
  rfl

theorem Entry.Alike.lower_key_eq (h : e.Alike e') : Text.lower e.key = Text.lower e'.key := by
  obtain ⟨key, value, children⟩ := e
  obtain ⟨key', value', children'⟩ := e'
  exact (Entry.mk.inj h).1

theorem Entry.Alike.hasKey_eq (h : e.Alike e') (key : String) :
    Section.hasKey key e = Section.hasKey key e' := by
  unfold Section.hasKey Text.sameKeyword
  rw [h.lower_key_eq]

theorem Section.lower_key_of_hasKey (hkey : Text.lower key = key) (h : Section.hasKey key e) :
    Text.lower e.key = key := (Text.sameKeyword_iff.1 h).trans hkey

/-- Values under a key are the same as far as they matter. -/
theorem Entry.Alike.value_eq (h : e.Alike e') (hkey : Text.lower key = key)
    (hhas : Section.hasKey key e) :
    Schema.canonicalValue key e.value = Schema.canonicalValue key e'.value := by
  have hfirst := Section.lower_key_of_hasKey hkey hhas
  have hsecond := h.lower_key_eq.symm.trans hfirst
  obtain ⟨key₁, value, children⟩ := e
  obtain ⟨key₂, value', children'⟩ := e'
  have hvalue := (Entry.mk.inj h).2.1
  rw [show Text.lower key₁ = key from hfirst, show Text.lower key₂ = key from hsecond] at hvalue
  exact hvalue

/-- The entries of blocks are alike. -/
theorem Entry.Alike.children_allAlike (h : e.Alike e') (hkey : Text.lower key = key)
    (hblock : key ∉ Schema.leafKeys) (hhas : Section.hasKey key e) :
    Entry.AllAlike e.children e'.children := by
  have hfirst := Section.lower_key_of_hasKey hkey hhas
  have hsecond := h.lower_key_eq.symm.trans hfirst
  obtain ⟨key₁, value, children⟩ := e
  obtain ⟨key₂, value', children'⟩ := e'
  have hchildren := (Entry.mk.inj h).2.2
  rw [show Text.lower key₁ = key from hfirst, show Text.lower key₂ = key from hsecond,
    if_neg hblock, if_neg hblock] at hchildren
  exact Entry.allAlike_iff.2 hchildren

end Alike

/-! ## Steps -/

namespace Section

/-- Two readings agree up to the case of what an error quotes. -/
abbrev Agrees {α α' : Type} (R : α → α' → Prop) :
    Except SectionFault α → Except SectionFault α' → Prop :=
  Agree SectionFault.folded R

/-- What is read off the front is related, and what is left is alike. -/
abbrev Front {α α' : Type} (R : α → α' → Prop) (p : α × List Entry) (p' : α' × List Entry) : Prop :=
  R p.1 p'.1 ∧ Entry.AllAlike p.2 p'.2

variable {key qualified sectionName : String} {es es' : List Entry}

/-- A key is asked for in both readings, and what is left is alike. -/
theorem agrees_requireValue (hkey : Text.lower key = key) (h : Entry.AllAlike es es') :
    Agrees (Front fun v v' => Schema.canonicalValue key v = Schema.canonicalValue key v')
      (requireValue key qualified es) (requireValue key qualified es') := by
  cases h with
  | nil => exact .error rfl
  | @cons e e' rest rest' halike hrest =>
    simp only [requireValue, require, ← halike.hasKey_eq key]
    split
    · next hhas => exact .ok ⟨halike.value_eq hkey hhas, hrest⟩
    · exact .error (congrArg (SectionFault.unexpected qualified) halike.lower_key_eq)

/-- A value that is no keyword is the same in both readings. -/
theorem agrees_requireText (hkey : Text.lower key = key)
    (htext : key ∉ Schema.blockKeys ∧ key ∉ Schema.keywordKeys) (h : Entry.AllAlike es es') :
    Agrees (Front Eq) (requireValue key qualified es) (requireValue key qualified es') := by
  have hagrees : Agrees _ (requireValue key qualified es) (requireValue key qualified es') :=
    agrees_requireValue hkey h
  unfold Schema.canonicalValue at hagrees
  simpa only [if_neg htext.1, if_neg htext.2] using hagrees

/-- A keyword is the same in both readings up to case. -/
theorem agrees_requireKeyword (hkey : Text.lower key = key)
    (hword : key ∉ Schema.blockKeys ∧ key ∈ Schema.keywordKeys) (h : Entry.AllAlike es es') :
    Agrees (Front fun word word' => Text.lower word = Text.lower word')
      (requireValue key qualified es) (requireValue key qualified es') := by
  have hagrees : Agrees _ (requireValue key qualified es) (requireValue key qualified es') :=
    agrees_requireValue hkey h
  unfold Schema.canonicalValue at hagrees
  simpa only [if_neg hword.1, if_pos hword.2] using hagrees

section GoingOn

variable {α α' : Type} {R : α → α' → Prop} {f : String × List Entry → Except SectionFault α}
  {f' : String × List Entry → Except SectionFault α'}

/-- Both readings go on with one text, and with entries that are alike. -/
theorem agrees_text_bind (hkey : Text.lower key = key)
    (htext : key ∉ Schema.blockKeys ∧ key ∉ Schema.keywordKeys) (h : Entry.AllAlike es es')
    (hf : ∀ value rest rest', Entry.AllAlike rest rest' →
      Agrees R (f (value, rest)) (f' (value, rest'))) :
    Agrees R (requireValue key qualified es >>= f) (requireValue key qualified es' >>= f') := by
  refine (agrees_requireText hkey htext h).bind ?_
  rintro ⟨value, rest⟩ ⟨value', rest'⟩ ⟨rfl, hrest⟩
  exact hf value rest rest' hrest

/-- Both readings go on with one keyword up to case, and with entries that are alike. -/
theorem agrees_keyword_bind (hkey : Text.lower key = key)
    (hword : key ∉ Schema.blockKeys ∧ key ∈ Schema.keywordKeys) (h : Entry.AllAlike es es')
    (hf : ∀ word word' rest rest', Text.lower word = Text.lower word' →
      Entry.AllAlike rest rest' → Agrees R (f (word, rest)) (f' (word', rest'))) :
    Agrees R (requireValue key qualified es >>= f) (requireValue key qualified es' >>= f') := by
  refine (agrees_requireKeyword hkey hword h).bind ?_
  rintro ⟨word, rest⟩ ⟨word', rest'⟩ ⟨hsame, hrest⟩
  exact hf word word' rest rest' hsame hrest

end GoingOn

theorem agrees_requireEnd (h : Entry.AllAlike es es') :
    Agrees Eq (requireEnd sectionName es) (requireEnd sectionName es') := by
  cases h with
  | nil => exact .ok rfl
  | cons halike => exact .error (congrArg (SectionFault.surplus sectionName) halike.lower_key_eq)

theorem nextIs_eq (h : Entry.AllAlike es es') (key : String) : nextIs key es = nextIs key es' := by
  cases h with
  | nil => rfl
  | cons halike => exact halike.hasKey_eq key

/-- A block that may come next is there in both readings or in neither. What is left is alike. -/
theorem takeIf_alike (key : String) (hkey : Text.lower key = key) (hblock : key ∉ Schema.leafKeys)
    (h : Entry.AllAlike es es') : ∃ rest rest', Entry.AllAlike rest rest' ∧
      (takeIf key es = (none, rest) ∧ takeIf key es' = (none, rest') ∨
        ∃ e e', takeIf key es = (some e, rest) ∧ takeIf key es' = (some e', rest') ∧
          Entry.AllAlike e.children e'.children) := by
  cases h with
  | nil => exact ⟨[], [], .nil, .inl ⟨rfl, rfl⟩⟩
  | @cons e e' rest rest' halike hrest =>
    simp only [takeIf, ← halike.hasKey_eq key]
    split
    · next hhas =>
      exact ⟨rest, rest', hrest, .inr ⟨e, e', rfl, rfl, halike.children_allAlike hkey hblock hhas⟩⟩
    · exact ⟨e :: rest, e' :: rest', .cons halike hrest, .inl ⟨rfl, rfl⟩⟩

/-- The blocks that come next are alike one by one, and so is what is left. -/
theorem takeAll_alike (key : String) (hkey : Text.lower key = key) (hblock : key ∉ Schema.leafKeys)
    (h : Entry.AllAlike es es') : ∃ blocks blocks' rest rest',
      takeAll key es = (blocks, rest) ∧ takeAll key es' = (blocks', rest') ∧
        List.Forall₂ (fun e e' => Entry.AllAlike e.children e'.children) blocks blocks' ∧
        Entry.AllAlike rest rest' := by
  induction h with
  | nil => exact ⟨[], [], [], [], rfl, rfl, .nil, .nil⟩
  | @cons e e' entries entries' halike hentries ih =>
    have heq := halike.hasKey_eq key
    unfold takeAll at ih ⊢
    cases hhas : hasKey key e with
    | true =>
      rw [hhas] at heq
      obtain ⟨blocks, blocks', rest, rest', htaken, htaken', hblocks, hrest⟩ := ih
      obtain ⟨rfl, rfl⟩ := Prod.mk.inj htaken
      obtain ⟨rfl, rfl⟩ := Prod.mk.inj htaken'
      rw [List.takeWhile_cons_of_pos hhas, List.takeWhile_cons_of_pos heq.symm,
        List.dropWhile_cons_of_pos hhas, List.dropWhile_cons_of_pos heq.symm]
      exact ⟨_, _, _, _, rfl, rfl,
        .cons (halike.children_allAlike hkey hblock hhas) hblocks, hrest⟩
    | false =>
      have hhas' : ¬ hasKey key e := Bool.eq_false_iff.1 hhas
      have heq' : ¬ hasKey key e' := fun h' => hhas' (heq.trans h')
      rw [List.takeWhile_cons_of_neg hhas', List.takeWhile_cons_of_neg heq',
        List.dropWhile_cons_of_neg hhas', List.dropWhile_cons_of_neg heq']
      exact ⟨[], [], _, _, rfl, rfl, .nil, .cons halike hentries⟩

/-- A keyword names the same in any case. -/
theorem agrees_keyword {α : Type} {table : List α} {label : α → String} {word word' : String}
    (h : Text.lower word = Text.lower word') :
    Agrees Eq (keyword (Text.keyword? table label) qualified word)
      (keyword (Text.keyword? table label) qualified word') := by
  have hsame : Text.keyword? table label word = Text.keyword? table label word' := by
    unfold Text.keyword? Text.sameKeyword
    rw [h]
  unfold keyword
  rw [hsame]
  split
  · exact .ok rfl
  · exact .error (congrArg (SectionFault.unsupported qualified) h)

theorem sameKeyword_eq {word word' : String} (h : Text.lower word = Text.lower word')
    (known : String) : Text.sameKeyword word known = Text.sameKeyword word' known := by
  unfold Text.sameKeyword
  rw [h]

end Section

/-! ## Readers -/

section Readers

open Section

variable {es es' : List Entry}

theorem Filter.agrees_ofEntries (h : Entry.AllAlike es es') :
    Agrees Eq (Filter.ofEntries es) (Filter.ofEntries es') := by
  unfold Filter.ofEntries
  refine agrees_keyword_bind (by decide) (by decide) h fun type type' rest rest' htype hrest => ?_
  simp only [sameKeyword_eq htype, nextIs_eq hrest]
  refine .ite (.error (congrArg (SectionFault.unsupported _) htype)) (.ite ?_ ?_)
  · refine agrees_text_bind (by decide) (by decide) hrest fun value rest rest' hrest => ?_
    refine (Agree.refl _).bind_eq fun name => ?_
    refine agrees_keyword_bind (by decide) (by decide) hrest
      fun word word' rest rest' hword hrest => ?_
    refine (agrees_keyword hword).bind_eq fun relation => ?_
    exact (agrees_requireEnd hrest).bind_eq fun _ => .ok rfl
  · refine agrees_text_bind (by decide) (by decide) hrest fun value rest rest' hrest => ?_
    refine (Agree.refl _).bind_eq fun p => ?_
    exact (agrees_requireEnd hrest).bind_eq fun _ => .ok rfl

theorem LocatorCheck.agrees_ofHyperRelation (h : Entry.AllAlike es es') :
    Agrees Eq (LocatorCheck.ofHyperRelation es) (LocatorCheck.ofHyperRelation es') := by
  unfold LocatorCheck.ofHyperRelation
  refine agrees_text_bind (by decide) (by decide) h fun source rest rest' hrest => ?_
  refine (Agree.refl _).bind_eq fun keyPattern => ?_
  refine agrees_text_bind (by decide) (by decide) hrest fun keyTemplate rest rest' hrest => ?_
  refine agrees_keyword_bind (by decide) (by decide) hrest
    fun word word' rest rest' hword hrest => ?_
  refine (agrees_keyword hword).bind_eq fun relation => ?_
  refine agrees_text_bind (by decide) (by decide) hrest fun source rest rest' hrest => ?_
  refine (Agree.refl _).bind_eq fun packetPattern => ?_
  refine agrees_text_bind (by decide) (by decide) hrest fun packetTemplate rest rest' hrest => ?_
  exact (agrees_requireEnd hrest).bind_eq fun _ => .ok rfl

theorem LocatorCheck.agrees_ofEntries (h : Entry.AllAlike es es') :
    Agrees Eq (LocatorCheck.ofEntries es) (LocatorCheck.ofEntries es') := by
  unfold LocatorCheck.ofEntries
  refine agrees_keyword_bind (by decide) (by decide) h fun type type' rest rest' htype hrest => ?_
  simp only [sameKeyword_eq htype, nextIs_eq hrest]
  refine .ite (.error (congrArg (SectionFault.unsupported _) htype)) (.ite ?_ (.ite ?_ ?_))
  · refine agrees_text_bind (by decide) (by decide) hrest fun value rest rest' hrest => ?_
    refine (Agree.refl _).bind_eq fun name => ?_
    refine agrees_keyword_bind (by decide) (by decide) hrest
      fun word word' rest rest' hword hrest => ?_
    refine (agrees_keyword hword).bind_eq fun relation => ?_
    exact (agrees_requireEnd hrest).bind_eq fun _ => .ok rfl
  · refine agrees_text_bind (by decide) (by decide) hrest fun value rest rest' hrest => ?_
    refine (Agree.refl _).bind_eq fun p => ?_
    exact (agrees_requireEnd hrest).bind_eq fun _ => .ok rfl
  · obtain ⟨rest, rest', hrest, ⟨heq, heq'⟩ | ⟨e, e', heq, heq', hblock⟩⟩ :=
      takeIf_alike "hyper-relation" (by decide) (by decide) hrest
    · rw [heq, heq']
      exact .error rfl
    · rw [heq, heq']
      refine (LocatorCheck.agrees_ofHyperRelation hblock).bind_eq fun check => ?_
      exact (agrees_requireEnd hrest).bind_eq fun _ => .ok rfl

theorem CertificateSource.agrees_certificate (source : CertificateSource) (sectionName : String)
    (h : Entry.AllAlike es es') :
    Agrees Eq (source.certificate sectionName es) (source.certificate sectionName es') := by
  unfold CertificateSource.certificate
  refine agrees_keyword_bind (by decide) (by decide) h fun type type' rest rest' htype hrest => ?_
  simp only [sameKeyword_eq htype]
  refine .ite ?_ (.ite ?_ (.error (congrArg (SectionFault.unsupported _) htype)))
  · refine agrees_text_bind (by decide) (by decide) hrest fun file rest rest' hrest => ?_
    exact (agrees_requireEnd hrest).bind_eq fun _ => .refl _
  · refine agrees_text_bind (by decide) (by decide) hrest fun text rest rest' hrest => ?_
    exact (agrees_requireEnd hrest).bind_eq fun _ => .refl _

namespace Checker

theorem agrees_readSigners (source : CertificateSource) (h : Entry.AllAlike es es') :
    Agrees (Front Eq) (readSigners source es) (readSigners source es') := by
  obtain ⟨signers, signers', rest, rest', htaken, htaken', hsigners, hrest⟩ :=
    takeAll_alike "signer" (by decide) (by decide) h
  simp only [readSigners, htaken, htaken']
  refine (Agree.mapM_eq hsigners fun e e' hblock =>
    source.agrees_certificate "checker.signer" hblock).bind_eq fun certificates => ?_
  exact .ite (.error rfl) (.ok ⟨rfl, hrest⟩)

theorem agrees_readLocator (t : SignatureType) (h : Entry.AllAlike es es') :
    Agrees (Front Eq) (readLocator t es) (readLocator t es') := by
  obtain ⟨rest, rest', hrest, ⟨heq, heq'⟩ | ⟨e, e', heq, heq', hblock⟩⟩ :=
    takeIf_alike "key-locator" (by decide) (by decide) h
  · rw [readLocator, readLocator, heq, heq']
    exact .ite (.ok ⟨rfl, hrest⟩) (.error rfl)
  · rw [readLocator, readLocator, heq, heq']
    exact (LocatorCheck.agrees_ofEntries hblock).bind_eq fun check => .ok ⟨rfl, hrest⟩

theorem agrees_ofEntries (source : CertificateSource) (h : Entry.AllAlike es es') :
    Agrees Eq (ofEntries source es) (ofEntries source es') := by
  unfold ofEntries
  refine agrees_keyword_bind (by decide) (by decide) h fun type type' rest rest' htype hrest => ?_
  refine agrees_keyword_bind (by decide) (by decide) hrest
    fun word word' rest rest' hword hrest => ?_
  refine (agrees_keyword hword).bind_eq fun t => ?_
  have hunsupported (label : String) : (SectionFault.unsupported label word).folded =
      (SectionFault.unsupported label word').folded :=
    congrArg (SectionFault.unsupported label) hword
  simp only [sameKeyword_eq htype]
  refine .ite ?_ (.ite (.ite (.error (hunsupported _)) ?_)
    (.ite (.ite (.error (hunsupported _)) ?_)
      (.error (congrArg (SectionFault.unsupported _) htype))))
  · refine (agrees_readLocator t hrest).bind ?_
    rintro ⟨locator, rest⟩ ⟨locator', rest'⟩ ⟨rfl, hrest⟩
    exact (agrees_requireEnd hrest).bind_eq fun _ => .ok rfl
  · exact (agrees_requireEnd hrest).bind_eq fun _ => .ok rfl
  · refine (agrees_readSigners source hrest).bind ?_
    rintro ⟨signers, rest⟩ ⟨signers', rest'⟩ ⟨rfl, hrest⟩
    exact (agrees_requireEnd hrest).bind_eq fun _ => .ok rfl

end Checker

end Readers

/-! ## Loading -/

section Loading

open Section

variable {es es' : List Entry}

theorem Rule.agrees_ofEntries (source : CertificateSource) (filename : String)
    (h : Entry.AllAlike es es') :
    Agree LoadError.folded Eq (Rule.ofEntries source filename es)
      (Rule.ofEntries source filename es') := by
  have hout (e e' : SectionFault) (same : e.folded = e'.folded) :
      (LoadError.ruleWithoutId filename e).folded = (LoadError.ruleWithoutId filename e').folded :=
    congrArg (LoadError.ruleWithoutId filename) same
  have hin (id : String) (e e' : SectionFault) (same : e.folded = e'.folded) :
      (LoadError.inRule id e).folded = (LoadError.inRule id e').folded :=
    congrArg (LoadError.inRule id) same
  unfold Rule.ofEntries
  refine ((agrees_requireText (by decide) (by decide) h).mapError hout).bind ?_
  rintro ⟨id, rest⟩ ⟨id', rest'⟩ ⟨hid, hrest⟩
  dsimp only at hid hrest ⊢
  rw [← hid]
  refine ((agrees_requireKeyword (by decide) (by decide) hrest).mapError (hin id)).bind ?_
  rintro ⟨word, rest⟩ ⟨word', rest'⟩ ⟨hword, hrest⟩
  refine ((agrees_keyword hword).mapError (hin id)).bind_eq fun kind => ?_
  obtain ⟨filters, filters', rest, rest', htaken, htaken', hfilters, hrest⟩ :=
    takeAll_alike "filter" (by decide) (by decide) hrest
  simp only [htaken, htaken']
  refine ((Agree.mapM_eq hfilters fun e e' hblock =>
    Filter.agrees_ofEntries hblock).mapError (hin id)).bind_eq fun filters => ?_
  obtain ⟨checkers, checkers', rest, rest', htaken, htaken', hcheckers, hrest⟩ :=
    takeAll_alike "checker" (by decide) (by decide) hrest
  simp only [htaken, htaken']
  refine ((Agree.mapM_eq hcheckers fun e e' hblock =>
    Checker.agrees_ofEntries source hblock).mapError (hin id)).bind_eq fun checkers => ?_
  -- What stands where the rule should end has one key up to case.
  cases hrest with
  | nil => exact .refl _
  | cons halike =>
    cases checkers.isEmpty with
    | true => exact .error (hin id _ _ (congrArg (SectionFault.unexpected _) halike.lower_key_eq))
    | false => exact .error (hin id _ _ (congrArg (SectionFault.surplus _) halike.lower_key_eq))

namespace Policy

theorem Part.agrees_ofEntry (source : CertificateSource) (filename : String) {e e' : Entry}
    (h : e.Alike e') :
    Agree LoadError.folded Eq (Part.ofEntry source filename e)
      (Part.ofEntry source filename e') := by
  have hanchor (r r' : SectionFault) (same : r.folded = r'.folded) :
      (LoadError.inTrustAnchor filename r).folded = (LoadError.inTrustAnchor filename r').folded :=
    congrArg (LoadError.inTrustAnchor filename) same
  simp only [Part.ofEntry, ← h.hasKey_eq]
  split
  · next hhas =>
    have hblock := h.children_allAlike (by decide) (by decide) hhas
    exact (Rule.agrees_ofEntries source filename hblock).map fun r r' => congrArg Part.rule
  · split
    · next hhas =>
      have hblock := h.children_allAlike (by decide) (by decide) hhas
      exact ((source.agrees_certificate "trust-anchor" hblock).mapError hanchor).map
        fun c c' => congrArg Part.anchor
    · exact .error (congrArg (LoadError.unknownSection filename) h.lower_key_eq)

theorem agrees_ofDocument (files : Files) (filename : String) (h : Entry.AllAlike es es') :
    Agree LoadError.folded Eq (ofDocument files filename es) (ofDocument files filename es') := by
  unfold ofDocument
  have hempty : es.isEmpty = es'.isEmpty := by
    cases h with
    | nil => rfl
    | cons => rfl
  rw [hempty]
  refine .ite (.error rfl) ?_
  refine (Agree.mapM_eq h fun e e' halike =>
    Part.agrees_ofEntry ⟨files, Path.directory filename⟩ filename halike).bind_eq fun parts => ?_
  exact .ok rfl

/-- Loading depends on the canonical form of a tree only. Trees with one form give the same policy,
or they are refused with errors that differ in the case of the keys and keywords they quote, so
that these are of one kind down to the fault of the section. -/
theorem ofDocument_canonical {root root' : Entry} (h : root.canonicalRoot = root'.canonicalRoot)
    (files : Files) (filename : String) :
    (∃ policy, ofDocument files filename root.children = .ok policy ∧
      ofDocument files filename root'.children = .ok policy) ∨
    ∃ e e', ofDocument files filename root.children = .error e ∧
      ofDocument files filename root'.children = .error e' ∧ e.folded = e'.folded := by
  have halike : Entry.AllAlike root.children root'.children :=
    Entry.allAlike_iff.2 (Entry.mk.inj h).2.2
  exact (agrees_ofDocument files filename halike).eq_or

end Policy

end Loading

namespace Sample

/-- A configuration with one rule. -/
def plainRoot : Entry :=
  .mk "" "" [.mk "rule" "" [.mk "id" "notes" [], .mk "for" "data" [],
    .mk "checker" "" [.mk "type" "customized" [], .mk "sig-type" "digest-sha256" []]]]

/-- The same configuration, with other case, values of blocks, and a block below a leaf. -/
def scribbledRoot : Entry :=
  .mk "" "draft" [.mk "Rule" "first" [.mk "ID" "notes" [.mk "rule" "none" []], .mk "For" "DATA" [],
    .mk "CHECKER" "x" [.mk "Type" "Customized" [], .mk "sig-type" "Digest-Sha256" []]]]

theorem scribbledRoot_loads : plainRoot.canonicalRoot = scribbledRoot.canonicalRoot ∧
    ∃ policy, Policy.ofDocument (fun _ => .error .notFound) "notes.conf" plainRoot.children =
        .ok policy ∧
      Policy.ofDocument (fun _ => .error .notFound) "notes.conf" scribbledRoot.children =
        .ok policy := by
  have hsame : plainRoot.canonicalRoot = scribbledRoot.canonicalRoot := by
    simp [plainRoot, scribbledRoot, Entry.canonicalRoot, Entry.canonicalAll, Entry.canonical,
      Schema.canonicalValue, Schema.leafKeys, Schema.blockKeys, Schema.keywordKeys, Text.lower]
  obtain hloads | ⟨e, e', he, -, -⟩ :=
    Policy.ofDocument_canonical hsame (fun _ => .error .notFound) "notes.conf"
  · exact ⟨hsame, hloads⟩
  · have hread : (Policy.ofDocument (fun _ => .error .notFound) "notes.conf"
        plainRoot.children).toOption.isSome := rfl
    rw [he] at hread
    exact absurd hread Bool.false_ne_true

end Sample

end TrustSchema
