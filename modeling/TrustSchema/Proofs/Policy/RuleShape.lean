import TrustSchema.Policy.Load
import TrustSchema.Proofs.Runs
import TrustSchema.Proofs.Success

/-!
# The shape of a rule section

A rule section has its id, the kind of packets that it is for, filters, and at least one checker, in
this order (`Rule.Shaped`). Everything else is a fault, and the fault that is reported is the first
one in the text: what stands before it has the right keys, and its own reader accepts it
(`Rule.Faulty`). Both are said of the list of entries as it stands, while the reader works on what
is left and takes all filters, and then all checkers, before it reads any of them.

A section comes to one or the other (`Rule.shaped_or_faulty`), and the reader to the same
(`Rule.Shaped.ofEntries_eq`, `Rule.Faulty.ofEntries_eq`).
-/

namespace TrustSchema

theorem PacketKind.ofKeyword?_eq_some_iff {word : String} {kind : PacketKind} :
    ofKeyword? word = some kind ↔ Text.lower word = kind.label := by
  have hmem : kind ∈ all := by cases kind <;> decide
  unfold ofKeyword?
  rw [Text.keyword?_eq_some_iff (by decide) (by decide)]
  exact and_iff_right hmem

theorem SignatureType.ofKeyword?_eq_some_iff {word : String} {t : SignatureType} :
    ofKeyword? word = some t ↔ Text.lower word = t.label := by
  have hmem : t ∈ all := by cases t <;> decide
  unfold ofKeyword?
  rw [Text.keyword?_eq_some_iff (by decide) (by decide)]
  exact and_iff_right hmem

namespace Section

/-- An entry has a key, in upper or lower case. -/
def IsKeyed (key : String) (e : Entry) : Prop := Text.lower e.key = key

instance (key : String) (e : Entry) : Decidable (IsKeyed key e) :=
  inferInstanceAs (Decidable (_ = _))

/-- An entry has one key only. -/
theorem IsKeyed.unique {key key' : String} {e : Entry} (h : IsKeyed key e) (h' : IsKeyed key' e) :
    key = key' :=
  h.symm.trans h'

/-- Entries that all have a key, and what their reader makes of them, in the same order. -/
structure AllRead {α : Type} (key : String) (read : Entry → Except SectionFault α)
    (entries : List Entry) (values : List α) : Prop where
  keyed : ∀ e ∈ entries, IsKeyed key e
  read : List.Forall₂ (fun e a => read e = .ok a) entries values

section Steps

variable {α : Type} {read : Entry → Except SectionFault α} {key qualified : String}
  {e : Entry} {es rest : List Entry} {values : List α} {reason : SectionFault}

theorem hasKey_iff (hkey : Text.lower key = key) : hasKey key e ↔ IsKeyed key e := by
  rw [hasKey, Text.sameKeyword_iff, hkey]
  rfl

theorem requireValue_of_isKeyed (hkey : Text.lower key = key) (h : IsKeyed key e) :
    requireValue key qualified (e :: rest) = .ok (e.value, rest) := by
  rw [requireValue, require, if_pos ((hasKey_iff hkey).2 h)]
  rfl

theorem requireValue_of_not_isKeyed (hkey : Text.lower key = key) (h : ¬ IsKeyed key e) :
    requireValue key qualified (e :: rest) = .error (.unexpected qualified e.key) := by
  rw [requireValue, require, if_neg (fun hhas => h ((hasKey_iff hkey).1 hhas))]
  rfl

/-- A value is read off the first entry, which has the key. -/
theorem requireValue_eq_ok_iff (hkey : Text.lower key = key) {value : String} :
    requireValue key qualified es = .ok (value, rest) ↔
      ∃ e, es = e :: rest ∧ IsKeyed key e ∧ e.value = value := by
  constructor
  · intro h
    cases es with
    | nil => cases h
    | cons e es =>
      by_cases hkeyed : IsKeyed key e
      · rw [requireValue_of_isKeyed hkey hkeyed] at h
        cases h
        exact ⟨e, rfl, hkeyed, rfl⟩
      · rw [requireValue_of_not_isKeyed hkey hkeyed] at h
        cases h
  · rintro ⟨e, rfl, hkeyed, rfl⟩
    exact requireValue_of_isKeyed hkey hkeyed

theorem keyword_eq_ok_iff {ofKeyword? : String → Option α} {word : String} {a : α} :
    keyword ofKeyword? qualified word = .ok a ↔ ofKeyword? word = some a := by
  unfold keyword
  cases ofKeyword? word with
  | none => exact ⟨nofun, nofun⟩
  | some b => simp

/-- Entries with a key are taken up to one without it. -/
theorem takeAll_append (hkey : Text.lower key = key) (hes : ∀ e ∈ es, IsKeyed key e)
    (hrest : ∀ e ∈ rest.head?, ¬ IsKeyed key e) : takeAll key (es ++ rest) = (es, rest) := by
  have hhas : ∀ e ∈ es, hasKey key e := fun e he => (hasKey_iff hkey).2 (hes e he)
  have hends : ∀ e ∈ rest.head?, hasKey key e = false := fun e he =>
    Bool.eq_false_iff.2 fun hhas => hrest e he ((hasKey_iff hkey).1 hhas)
  rw [takeAll, takeWhile_append_eq hhas hends, dropWhile_append_eq hhas hends]

theorem AllRead.nil : AllRead key read [] [] := ⟨nofun, .nil⟩

/-- Entries are read as far as it goes: up to one with another key, or one that cannot be read. -/
theorem exists_allRead (key : String) (read : Entry → Except SectionFault α)
    (entries : List Entry) : ∃ es values rest, entries = es ++ rest ∧
      AllRead key read es values ∧
      ∀ e ∈ rest.head?, IsKeyed key e → ∃ reason, read e = .error reason := by
  induction entries with
  | nil => exact ⟨[], [], [], rfl, .nil, nofun⟩
  | cons e entries ih =>
    by_cases hkeyed : IsKeyed key e
    · cases hread : read e with
      | error reason =>
        refine ⟨[], [], e :: entries, rfl, .nil, ?_⟩
        rintro _ ⟨⟩ -
        exact ⟨reason, hread⟩
      | ok a =>
        obtain ⟨es, values, rest, rfl, ⟨hkeys, hreads⟩, hrest⟩ := ih
        exact ⟨e :: es, a :: values, rest, rfl,
          ⟨List.forall_mem_cons.2 ⟨hkeyed, hkeys⟩, .cons hread hreads⟩, hrest⟩
    · refine ⟨[], [], e :: entries, rfl, .nil, ?_⟩
      rintro _ ⟨⟩ h
      exact absurd h hkeyed

theorem AllRead.mapM_eq (h : AllRead key read es values) : es.mapM read = .ok values :=
  mapM_eq_ok_iff_forall₂.2 h.read

theorem AllRead.ne_nil (h : AllRead key read es values) (hne : es ≠ []) : values ≠ [] := by
  rintro rfl
  exact hne (List.forall₂_nil_right_iff.1 h.read)

/-- Where one of the entries cannot be read, and those before it can, this is what comes of all. -/
theorem AllRead.mapM_takeAll_eq_error (h : AllRead key read es values)
    (hkey : Text.lower key = key) (he : IsKeyed key e) (hread : read e = .error reason)
    (rest : List Entry) : (takeAll key (es ++ e :: rest)).1.mapM read = .error reason := by
  have hhas : ∀ e ∈ es, hasKey key e := fun e he => (hasKey_iff hkey).2 (h.keyed e he)
  rw [takeAll, List.takeWhile_append_of_pos hhas,
    List.takeWhile_cons_of_pos ((hasKey_iff hkey).2 he)]
  refine mapM_append_cons_eq_error (exists_mapM_eq_ok_iff.1 ⟨values, h.mapM_eq⟩) hread

end Steps

end Section

namespace Rule

open Section (IsKeyed AllRead)

/-- A rule section begins with an id and the kind of packets that the rule is for. -/
structure Opens (id usage : Entry) (kind : PacketKind) : Prop where
  identified : IsKeyed "id" id
  directed : IsKeyed "for" usage
  named : Text.lower usage.value = kind.label

/-- A rule section has the documented shape: id, kind, filters and at least one checker, and nothing
else. The rule consists of what is read of them, in the same order. -/
inductive Shaped (source : CertificateSource) : List Entry → Rule → Prop
  | intro {id usage : Entry} {kind : PacketKind} {fs cs : List Entry} {filters : List Filter}
      {checkers : List Checker} (opens : Opens id usage kind)
      (filtered : AllRead "filter" Filter.ofEntry fs filters)
      (checked : AllRead "checker" (Checker.ofEntry source) cs checkers) (some_checker : cs ≠ []) :
      Shaped source (id :: usage :: (fs ++ cs)) ⟨id.value, kind, filters, checkers⟩

/-- The first fault of a rule section. -/
inductive Faulty (source : CertificateSource) (filename : String) : List Entry → LoadError → Prop
  | void : Faulty source filename [] (.ruleWithoutId filename (.missing "rule.id"))
  | notId {e : Entry} {rest : List Entry} (other : ¬ IsKeyed "id" e) :
      Faulty source filename (e :: rest) (.ruleWithoutId filename (.unexpected "rule.id" e.key))
  | noUsage {id : Entry} (keyed : IsKeyed "id" id) :
      Faulty source filename [id] (.inRule id.value (.missing "rule.for"))
  | notUsage {id e : Entry} {rest : List Entry} (keyed : IsKeyed "id" id)
      (other : ¬ IsKeyed "for" e) :
      Faulty source filename (id :: e :: rest) (.inRule id.value (.unexpected "rule.for" e.key))
  /-- No kind of packets is called like this. -/
  | notKind {id usage : Entry} {rest : List Entry} (keyed : IsKeyed "id" id)
      (keyed' : IsKeyed "for" usage) (unknown : ∀ kind : PacketKind,
        Text.lower usage.value ≠ kind.label) :
      Faulty source filename (id :: usage :: rest)
        (.inRule id.value (.unsupported "rule.for" usage.value))
  /-- A filter is refused by its reader. -/
  | filter {id usage e : Entry} {kind : PacketKind} {fs rest : List Entry} {filters : List Filter}
      {reason : SectionFault} (opens : Opens id usage kind)
      (filtered : AllRead "filter" Filter.ofEntry fs filters) (keyed : IsKeyed "filter" e)
      (refused : Filter.ofEntry e = .error reason) :
      Faulty source filename (id :: usage :: (fs ++ e :: rest)) (.inRule id.value reason)
  /-- A checker is refused by its reader. -/
  | checker {id usage e : Entry} {kind : PacketKind} {fs cs rest : List Entry}
      {filters : List Filter} {checkers : List Checker} {reason : SectionFault}
      (opens : Opens id usage kind) (filtered : AllRead "filter" Filter.ofEntry fs filters)
      (checked : AllRead "checker" (Checker.ofEntry source) cs checkers)
      (keyed : IsKeyed "checker" e) (refused : Checker.ofEntry source e = .error reason) :
      Faulty source filename (id :: usage :: (fs ++ (cs ++ e :: rest))) (.inRule id.value reason)
  /-- Another key stands where a filter or the first checker could stand. -/
  | notChecker {id usage e : Entry} {kind : PacketKind} {fs rest : List Entry}
      {filters : List Filter} (opens : Opens id usage kind)
      (filtered : AllRead "filter" Filter.ofEntry fs filters) (other : ¬ IsKeyed "filter" e)
      (other' : ¬ IsKeyed "checker" e) :
      Faulty source filename (id :: usage :: (fs ++ e :: rest))
        (.inRule id.value (.unexpected "rule.checker" e.key))
  /-- Another key stands behind the checkers. -/
  | surplus {id usage e : Entry} {kind : PacketKind} {fs cs rest : List Entry}
      {filters : List Filter} {checkers : List Checker} (opens : Opens id usage kind)
      (filtered : AllRead "filter" Filter.ofEntry fs filters)
      (checked : AllRead "checker" (Checker.ofEntry source) cs checkers) (some_checker : cs ≠ [])
      (other : ¬ IsKeyed "checker" e) :
      Faulty source filename (id :: usage :: (fs ++ (cs ++ e :: rest)))
        (.inRule id.value (.surplus "rule" e.key))
  /-- The section ends behind the filters. -/
  | noChecker {id usage : Entry} {kind : PacketKind} {fs : List Entry} {filters : List Filter}
      (opens : Opens id usage kind) (filtered : AllRead "filter" Filter.ofEntry fs filters) :
      Faulty source filename (id :: usage :: fs) (.ruleWithoutChecker id.value)

section Reading

variable {source : CertificateSource} {filename : String} {entries : List Entry}

/-- **A section has the documented shape, or there is a first fault in it.** -/
theorem shaped_or_faulty (source : CertificateSource) (filename : String) (entries : List Entry) :
    (∃ rule, Shaped source entries rule) ∨ ∃ e, Faulty source filename entries e := by
  rcases entries with _ | ⟨id, _ | ⟨usage, rest⟩⟩
  · exact .inr ⟨_, .void⟩
  · by_cases hid : IsKeyed "id" id
    · exact .inr ⟨_, .noUsage hid⟩
    · exact .inr ⟨_, .notId hid⟩
  by_cases hid : IsKeyed "id" id
  case neg => exact .inr ⟨_, .notId hid⟩
  by_cases husage : IsKeyed "for" usage
  case neg => exact .inr ⟨_, .notUsage hid husage⟩
  cases hkind : PacketKind.ofKeyword? usage.value with
  | none =>
    refine .inr ⟨_, .notKind hid husage fun kind heq => ?_⟩
    rw [PacketKind.ofKeyword?_eq_some_iff.2 heq] at hkind
    cases hkind
  | some kind =>
    have opens : Opens id usage kind :=
      ⟨hid, husage, PacketKind.ofKeyword?_eq_some_iff.1 hkind⟩
    -- What the filters end with tells how the section goes on, and so for the checkers below.
    obtain ⟨fs, filters, rest, rfl, filtered, hfilter⟩ :=
      Section.exists_allRead "filter" Filter.ofEntry rest
    cases rest with
    | nil =>
      rw [List.append_nil]
      exact .inr ⟨_, .noChecker opens filtered⟩
    | cons e rest =>
      by_cases hother : IsKeyed "filter" e
      · obtain ⟨reason, refused⟩ := hfilter e rfl hother
        exact .inr ⟨_, .filter opens filtered hother refused⟩
      obtain ⟨cs, checkers, rest', hsplit, checked, hchecker⟩ :=
        Section.exists_allRead "checker" (Checker.ofEntry source) (e :: rest)
      rw [hsplit]
      cases rest' with
      | nil =>
        rw [List.append_nil] at hsplit ⊢
        exact .inl ⟨_, .intro opens filtered checked (hsplit ▸ List.cons_ne_nil _ _)⟩
      | cons e' rest' =>
        by_cases hother' : IsKeyed "checker" e'
        · obtain ⟨reason, refused⟩ := hchecker e' rfl hother'
          exact .inr ⟨_, .checker opens filtered checked hother' refused⟩
        cases cs with
        | nil =>
          -- No checker has been read, so this is the entry that ended the filters.
          cases hsplit
          exact .inr ⟨_, .notChecker opens filtered hother hother'⟩
        | cons c cs =>
          exact .inr ⟨_, .surplus opens filtered checked (List.cons_ne_nil _ _) hother'⟩

/-! ## The reader -/

/-- What the reader makes of a rule with some checkers and of the entries behind them. -/
def conclude (rule : Rule) (rest : List Entry) : Except LoadError Rule :=
  match rest, rule.checkers.isEmpty with
  | e :: _, true => .error (.inRule rule.id (.unexpected "rule.checker" e.key))
  | e :: _, false => .error (.inRule rule.id (.surplus "rule" e.key))
  | [], true => .error (.ruleWithoutChecker rule.id)
  | [], false => .ok rule

/-- What the reader does behind the filters. -/
def ofCheckers (source : CertificateSource) (id : String) (kind : PacketKind)
    (filters : List Filter) (entries : List Entry) : Except LoadError Rule :=
  (((Section.takeAll "checker" entries).1.mapM (Checker.ofEntry source)).mapError (.inRule id)) >>=
    fun checkers => conclude ⟨id, kind, filters, checkers⟩ (Section.takeAll "checker" entries).2

/-- What the reader does behind the kind of packets. -/
def ofFilters (source : CertificateSource) (id : String) (kind : PacketKind)
    (entries : List Entry) : Except LoadError Rule :=
  (((Section.takeAll "filter" entries).1.mapM Filter.ofEntry).mapError (.inRule id)) >>=
    fun filters => ofCheckers source id kind filters (Section.takeAll "filter" entries).2

/-- What the reader does behind the id. -/
def ofUsage (source : CertificateSource) (id : String) (entries : List Entry) :
    Except LoadError Rule := do
  let (word, rest) ← (Section.requireValue "for" "rule.for" entries).mapError (.inRule id)
  let kind ← (Section.keyword PacketKind.ofKeyword? "rule.for" word).mapError (.inRule id)
  ofFilters source id kind rest

section Stages

variable {id usage e : Entry} {name : String} {kind : PacketKind} {fs cs rest : List Entry}
  {filters : List Filter} {checkers : List Checker} {reason : SectionFault}

theorem ofEntries_of_isKeyed (h : IsKeyed "id" e) :
    ofEntries source filename (e :: rest) = ofUsage source e.value rest := by
  unfold ofEntries
  rw [Section.requireValue_of_isKeyed (by decide) h]
  rfl

theorem ofUsage_of_isKeyed (h : IsKeyed "for" e) : ofUsage source name (e :: rest) =
    ((Section.keyword PacketKind.ofKeyword? "rule.for" e.value).mapError (.inRule name) >>=
      fun kind => ofFilters source name kind rest) := by
  unfold ofUsage
  rw [Section.requireValue_of_isKeyed (by decide) h]
  rfl

/-- Behind the opening of a rule, the filters are read. -/
theorem Opens.ofEntries_eq (h : Opens id usage kind) (rest : List Entry) :
    ofEntries source filename (id :: usage :: rest) = ofFilters source id.value kind rest := by
  rw [ofEntries_of_isKeyed h.identified, ofUsage_of_isKeyed h.directed, Section.keyword,
    PacketKind.ofKeyword?_eq_some_iff.2 h.named]
  rfl

/-- What is taken for a checker is not taken for a filter. -/
theorem not_isKeyed_filter (h : IsKeyed "checker" e) : ¬ IsKeyed "filter" e := fun hfilter =>
  absurd (h.unique hfilter) (by decide)

theorem not_isKeyed_filter_of_head (hcs : ∀ e ∈ cs, IsKeyed "checker" e)
    (hrest : cs = [] → ∀ e ∈ rest.head?, ¬ IsKeyed "filter" e) :
    ∀ e ∈ (cs ++ rest).head?, ¬ IsKeyed "filter" e := by
  cases cs with
  | nil => exact hrest rfl
  | cons c cs =>
    rintro _ ⟨⟩
    exact not_isKeyed_filter (hcs c List.mem_cons_self)

/-- Behind filters that can be read, the checkers are read. -/
theorem Opens.ofEntries_append_eq (h : Opens id usage kind)
    (filtered : AllRead "filter" Filter.ofEntry fs filters)
    (hrest : ∀ e ∈ rest.head?, ¬ IsKeyed "filter" e) :
    ofEntries source filename (id :: usage :: (fs ++ rest)) =
      ofCheckers source id.value kind filters rest := by
  rw [h.ofEntries_eq, ofFilters, Section.takeAll_append (by decide) filtered.keyed hrest,
    filtered.mapM_eq]
  rfl

/-- Behind filters and checkers that can be read, the rule should end. -/
theorem Opens.ofEntries_eq_conclude (h : Opens id usage kind)
    (filtered : AllRead "filter" Filter.ofEntry fs filters)
    (checked : AllRead "checker" (Checker.ofEntry source) cs checkers)
    (hrest : ∀ e ∈ rest.head?, ¬ IsKeyed "checker" e)
    (hrest' : cs = [] → ∀ e ∈ rest.head?, ¬ IsKeyed "filter" e) :
    ofEntries source filename (id :: usage :: (fs ++ (cs ++ rest))) =
      conclude ⟨id.value, kind, filters, checkers⟩ rest := by
  rw [h.ofEntries_append_eq filtered (not_isKeyed_filter_of_head checked.keyed hrest'), ofCheckers,
    Section.takeAll_append (by decide) checked.keyed hrest, checked.mapM_eq]
  rfl

/-- A section that ends behind filters and checkers that can be read. -/
theorem Opens.ofEntries_eq_conclude_nil (h : Opens id usage kind)
    (filtered : AllRead "filter" Filter.ofEntry fs filters)
    (checked : AllRead "checker" (Checker.ofEntry source) cs checkers) :
    ofEntries source filename (id :: usage :: (fs ++ cs)) =
      conclude ⟨id.value, kind, filters, checkers⟩ [] := by
  rw [← List.append_nil cs]
  exact h.ofEntries_eq_conclude filtered checked nofun fun _ => nofun

end Stages

/-- A section of the documented shape is read as its rule. -/
theorem Shaped.ofEntries_eq {rule : Rule} (h : Shaped source entries rule) :
    ofEntries source filename entries = .ok rule := by
  cases h with
  | intro opens filtered checked some_checker =>
    rw [opens.ofEntries_eq_conclude_nil filtered checked]
    obtain ⟨c, checkers, rfl⟩ := List.exists_cons_of_ne_nil (checked.ne_nil some_checker)
    rfl

/-- A section with a fault is refused because of the first one. -/
theorem Faulty.ofEntries_eq {e : LoadError} (h : Faulty source filename entries e) :
    ofEntries source filename entries = .error e := by
  cases h with
  | void => rfl
  | notId other =>
    unfold ofEntries
    rw [Section.requireValue_of_not_isKeyed (by decide) other]
    rfl
  | noUsage keyed =>
    rw [ofEntries_of_isKeyed keyed]
    rfl
  | notUsage keyed other =>
    rw [ofEntries_of_isKeyed keyed, ofUsage,
      Section.requireValue_of_not_isKeyed (by decide) other]
    rfl
  | @notKind id usage rest keyed keyed' unknown =>
    have hnone : PacketKind.ofKeyword? usage.value = none :=
      Option.eq_none_iff_forall_ne_some.2 fun kind hkind =>
        unknown kind (PacketKind.ofKeyword?_eq_some_iff.1 hkind)
    rw [ofEntries_of_isKeyed keyed, ofUsage_of_isKeyed keyed', Section.keyword, hnone]
    rfl
  | @filter id usage e kind fs rest filters reason opens filtered keyed refused =>
    rw [opens.ofEntries_eq, ofFilters,
      filtered.mapM_takeAll_eq_error (by decide) keyed refused rest]
    rfl
  | @checker id usage e kind fs cs rest filters checkers reason opens filtered checked keyed
      refused =>
    -- A checker ends the filters, be it one that is read or the one that is refused.
    have hends : ∀ e' ∈ (cs ++ e :: rest).head?, ¬ IsKeyed "filter" e' := by
      refine not_isKeyed_filter_of_head checked.keyed fun _ => ?_
      rintro _ ⟨⟩
      exact not_isKeyed_filter keyed
    rw [opens.ofEntries_append_eq filtered hends, ofCheckers,
      checked.mapM_takeAll_eq_error (by decide) keyed refused rest]
    rfl
  | @notChecker id usage e kind fs rest filters opens filtered other other' =>
    rw [← List.nil_append (e :: rest), opens.ofEntries_eq_conclude filtered .nil]
    · rfl
    · rintro _ ⟨⟩
      exact other'
    · rintro - _ ⟨⟩
      exact other
  | surplus opens filtered checked some_checker other =>
    rw [opens.ofEntries_eq_conclude filtered checked (by rintro _ ⟨⟩; exact other)
      fun hnil => absurd hnil some_checker]
    obtain ⟨c, checkers, rfl⟩ := List.exists_cons_of_ne_nil (checked.ne_nil some_checker)
    rfl
  | @noChecker id usage kind fs filters opens filtered =>
    rw [← List.append_nil fs, opens.ofEntries_eq_conclude_nil filtered .nil]
    rfl

theorem ofEntries_eq_ok_iff {rule : Rule} :
    ofEntries source filename entries = .ok rule ↔ Shaped source entries rule := by
  constructor
  · intro h
    rcases shaped_or_faulty source filename entries with ⟨rule', hshaped⟩ | ⟨e, hfaulty⟩
    · rw [hshaped.ofEntries_eq] at h
      cases h
      exact hshaped
    · rw [hfaulty.ofEntries_eq] at h
      cases h
  · exact Shaped.ofEntries_eq

theorem ofEntries_eq_error_iff {e : LoadError} :
    ofEntries source filename entries = .error e ↔ Faulty source filename entries e := by
  constructor
  · intro h
    rcases shaped_or_faulty source filename entries with ⟨rule', hshaped⟩ | ⟨e', hfaulty⟩
    · rw [hshaped.ofEntries_eq] at h
      cases h
    · rw [hfaulty.ofEntries_eq] at h
      cases h
      exact hfaulty
  · exact Faulty.ofEntries_eq

/-! ## Which fault it is -/

theorem exists_faulty_ruleWithoutId_iff :
    (∃ reason, Faulty source filename entries (.ruleWithoutId filename reason)) ↔
      ∀ first ∈ entries.head?, ¬ IsKeyed "id" first := by
  constructor
  · rintro ⟨reason, ⟨⟩ | other⟩
    · nofun
    · rintro _ ⟨⟩
      exact other
  · intro h
    cases entries with
    | nil => exact ⟨_, .void⟩
    | cons first rest => exact ⟨_, .notId (h first rfl)⟩

/-- Behind the id, every fault is reported with it. -/
theorem Faulty.reported {first : Entry} {e : LoadError} (h : Faulty source filename entries e)
    (hfirst : first ∈ entries.head?) (hid : IsKeyed "id" first) :
    e = .ruleWithoutChecker first.value ∨ ∃ reason, e = .inRule first.value reason := by
  cases h with
  | void => cases hfirst
  | notId other =>
    cases hfirst
    exact absurd hid other
  | noChecker =>
    cases hfirst
    exact .inl rfl
  | _ =>
    cases hfirst
    exact .inr ⟨_, rfl⟩

theorem faulty_ruleWithoutChecker_iff {name : String} :
    Faulty source filename entries (.ruleWithoutChecker name) ↔
      ∃ id usage kind fs filters, entries = id :: usage :: fs ∧ Opens id usage kind ∧
        AllRead "filter" Filter.ofEntry fs filters ∧ id.value = name := by
  constructor
  · intro h
    cases h with
    | noChecker opens filtered => exact ⟨_, _, _, _, _, rfl, opens, filtered, rfl⟩
  · rintro ⟨id, usage, kind, fs, filters, rfl, opens, filtered, rfl⟩
    exact .noChecker opens filtered

/-- **A rule section is accepted exactly if it has the documented shape.** Take the entries of any
section.

- A rule is read exactly if the keys are, in upper or lower case, `id`, `for`, `filter` any number
  of times and `checker` at least once, the value of `for` is a kind of packets, and every filter
  and every checker is accepted by its own reader. It is the rule with this id and kind, and with
  these filters and checkers in the order of the text.
- Otherwise the first fault in the text is reported: all that stands in front of it is as it should
  be. A key behind the filters that is neither `filter` nor `checker` is unexpected as long as there
  is no checker, and a key behind the checkers is surplus.
- That the id is missing is reported exactly if the first key is not `id`.
- Every other fault is reported with the id.
- That there is no checker is reported exactly if the section ends behind `for` and the filters, all
  of which are accepted. -/
theorem ofEntries_exact (source : CertificateSource) (filename : String) (entries : List Entry) :
    (∀ rule, ofEntries source filename entries = .ok rule ↔ Shaped source entries rule) ∧
      (∀ e, ofEntries source filename entries = .error e ↔ Faulty source filename entries e) ∧
      ((∃ reason, ofEntries source filename entries = .error (.ruleWithoutId filename reason)) ↔
        ∀ first ∈ entries.head?, ¬ IsKeyed "id" first) ∧
      (∀ first ∈ entries.head?, IsKeyed "id" first →
        ∀ e, ofEntries source filename entries = .error e →
          e = .ruleWithoutChecker first.value ∨ ∃ reason, e = .inRule first.value reason) ∧
      ∀ name, ofEntries source filename entries = .error (.ruleWithoutChecker name) ↔
        ∃ id usage kind fs filters, entries = id :: usage :: fs ∧ Opens id usage kind ∧
          AllRead "filter" Filter.ofEntry fs filters ∧ id.value = name := by
  refine ⟨fun _ => ofEntries_eq_ok_iff, fun _ => ofEntries_eq_error_iff, ?_, ?_, fun name => ?_⟩
  · simp only [ofEntries_eq_error_iff]
    exact exists_faulty_ruleWithoutId_iff
  · intro first hfirst hid e h
    exact (ofEntries_eq_error_iff.1 h).reported hfirst hid
  · rw [ofEntries_eq_error_iff]
    exact faulty_ruleWithoutChecker_iff

end Reading

end Rule

namespace Sample

/-- The notices need no files. -/
def noticeSource : CertificateSource := ⟨fun _ => .error .notFound, "."⟩

def noticeId : Entry := .mk "ID" "notices" []

def noticeUsage : Entry := .mk "For" "DATA" []

def noticeFilter : Entry :=
  .mk "FILTER" "" [.mk "type" "name" [], .mk "name" "/n" [], .mk "relation" "is-prefix-of" []]

def noticeChecker : Entry :=
  .mk "Checker" "" [.mk "type" "customized" [], .mk "sig-type" "digest-sha256" []]

def noticeRule : Rule :=
  ⟨"notices", .data, [.related ⟨[⟨[110]⟩]⟩ .isPrefixOf], [.customized .digestSha256 none]⟩

theorem noticeFilter_eq :
    Filter.ofEntry noticeFilter = .ok (.related ⟨[⟨[110]⟩]⟩ .isPrefixOf) := rfl

theorem noticeChecker_eq :
    Checker.ofEntry noticeSource noticeChecker = .ok (.customized .digestSha256 none) := rfl

/-- The rule is read with any case in its keys. With a filter behind its checker, without a checker
and without its id it is refused. -/
theorem noticeRule_read :
    Rule.ofEntries noticeSource "notices.conf"
        [noticeId, noticeUsage, noticeFilter, noticeChecker] = .ok noticeRule ∧
      Rule.ofEntries noticeSource "notices.conf"
          [noticeId, noticeUsage, noticeFilter, noticeChecker, noticeFilter] =
        .error (.inRule "notices" (.surplus "rule" "FILTER")) ∧
      Rule.ofEntries noticeSource "notices.conf" [noticeId, noticeUsage, noticeFilter] =
        .error (.ruleWithoutChecker "notices") ∧
      ∃ reason, Rule.ofEntries noticeSource "notices.conf" [noticeUsage, noticeFilter] =
        .error (.ruleWithoutId "notices.conf" reason) := by
  have opens : Rule.Opens noticeId noticeUsage .data := ⟨by decide, by decide, by decide⟩
  have filtered : Section.AllRead "filter" Filter.ofEntry [noticeFilter] noticeRule.filters :=
    ⟨by decide, .cons noticeFilter_eq .nil⟩
  have checked : Section.AllRead "checker" (Checker.ofEntry noticeSource) [noticeChecker]
      noticeRule.checkers := ⟨by decide, .cons noticeChecker_eq .nil⟩
  have hexact := Rule.ofEntries_exact noticeSource "notices.conf"
  refine ⟨?_, ?_, ?_, ?_⟩
  · exact ((hexact _).1 _).2 (.intro opens filtered checked (List.cons_ne_nil _ _))
  · refine ((hexact _).2.1 _).2 ?_
    exact .surplus opens filtered checked (List.cons_ne_nil _ _) (by decide)
  · exact ((hexact _).2.2.2.2 _).2 ⟨_, _, _, _, _, rfl, opens, filtered, rfl⟩
  · exact (hexact _).2.2.1.2 (by decide)

end Sample

end TrustSchema
