import TrustSchema.Name.Json
import TrustSchema.Proofs.Name.Reading
import TrustSchema.Text.Json

/-!
# Names survive their URIs

A name is read back from its URI, whatever bytes its components consist of: percent signs, slashes
and white space within a component are escaped like all other bytes that mean something
(`Component.ofSegment_escape`, `Name.uriSegments_uriChars`). Only an empty component is lost, as it
leaves nothing between two slashes. A name that has been read has none, so what is written for it is
read as the same name again, and to normalise a URI twice is the same as to normalise it once
(`Name.uri_roundtrip`).
-/

namespace TrustSchema

namespace Component

/-! ## Components -/

/-- A character that can stand in a segment: it is no slash, no white space, and nothing that needs
to be escaped in a JSON document. -/
def IsPlain (c : Char) : Prop := c ≠ '/' ∧ Text.isBlank c = false ∧ Text.Json.escape c = [c]

instance (c : Char) : Decidable (IsPlain c) :=
  inferInstanceAs (Decidable (_ ∧ _ ∧ _))

theorem isPlain_of_isUnreserved {b : UInt8} (h : isUnreserved b) :
    b.toNat < 128 ∧ Char.ofUInt8 b ≠ '%' ∧ IsPlain (Char.ofUInt8 b) := by
  have hall : ∀ n : Fin 256, isUnreserved (UInt8.ofNat n.val) → n.val < 128 ∧
      Char.ofUInt8 (UInt8.ofNat n.val) ≠ '%' ∧ IsPlain (Char.ofUInt8 (UInt8.ofNat n.val)) := by
    decide +kernel
  simpa using hall ⟨b.toNat, b.toNat_lt⟩ (by simpa using h)

theorem isPlain_hexDigit {n : Nat} (h : n < 16) : IsPlain (Text.hexDigit n) := by
  have hall : ∀ n : Fin 16, IsPlain (Text.hexDigit n.val) := by decide +kernel
  exact hall ⟨n, h⟩

/-- A byte is written with plain characters. -/
theorem isPlain_of_mem_escapeByte {b : UInt8} {c : Char} (h : c ∈ escapeByte b) : IsPlain c := by
  unfold escapeByte at h
  split at h
  · next hunreserved =>
    obtain rfl := List.mem_singleton.1 h
    exact (isPlain_of_isUnreserved hunreserved).2.2
  · have hb := b.toNat_lt
    rcases List.mem_cons.1 h with rfl | h
    · decide
    rcases List.mem_cons.1 h with rfl | h
    · exact isPlain_hexDigit (by omega)
    · obtain rfl := List.mem_singleton.1 h
      exact isPlain_hexDigit (by omega)

theorem isPlain_of_mem_escape {component : Component} {c : Char} (h : c ∈ component.escape) :
    IsPlain c := by
  obtain ⟨b, -, hb⟩ := List.mem_flatMap.1 h
  exact isPlain_of_mem_escapeByte hb

/-- A byte is read off the front of what it is written with. -/
theorem unescapeBytes?_escapeByte_append (b : UInt8) (cs : List Char) :
    unescapeBytes? (escapeByte b ++ cs) = (unescapeBytes? cs).map (b :: ·) := by
  unfold escapeByte
  split
  · next hunreserved =>
    -- The byte stands for itself, and is a character of its own.
    obtain ⟨hascii, hne, -⟩ := isPlain_of_isUnreserved hunreserved
    rw [List.singleton_append, unescapeBytes?_cons_of_ne hne, Text.utf8EncodeChar_ofUInt8 hascii]
    rfl
  · rw [Text.hexByte, List.cons_append, List.cons_append, List.singleton_append, unescapeBytes?,
      Text.byteOfHex?_hexByte]
    cases unescapeBytes? cs <;> rfl

theorem unescapeBytes?_escape (component : Component) :
    unescapeBytes? component.escape = some component.bytes := by
  obtain ⟨bytes⟩ := component
  unfold escape
  induction bytes with
  | nil => rw [List.flatMap_nil, unescapeBytes?]
  | cons b bytes ih =>
    rw [List.flatMap_cons, unescapeBytes?_escapeByte_append, ih]
    rfl

/-- **A component is read back from its segment.** -/
theorem ofSegment_escape (component : Component) : ofSegment component.escape = .ok component :=
  ofSegment_eq_ok_iff.2 (unescapeBytes?_eq_some_iff.1 (unescapeBytes?_escape component))

theorem escape_eq_nil_iff {component : Component} :
    component.escape = [] ↔ component.bytes = [] := by
  constructor
  · intro h
    have hread := unescapeBytes?_escape component
    rw [h, unescapeBytes?] at hread
    exact (Option.some.inj hread).symm
  · intro h
    rw [escape, h, List.flatMap_nil]

/-- Only an empty segment stands for no bytes. -/
theorem Denotes.eq_nil {raw : List UInt8} (h : Denotes raw []) : raw = [] := by
  cases h
  rfl

end Component

namespace Name

/-! ## Names -/

/-- A name without empty components. -/
def Solid (n : Name) : Prop := ∀ c ∈ n.components, c.bytes ≠ []

instance (n : Name) : Decidable n.Solid :=
  inferInstanceAs (Decidable (∀ c ∈ n.components, c.bytes ≠ []))

/-- The name with its empty components left out. -/
def dropEmpty (n : Name) : Name := ⟨n.components.filter fun c => !c.bytes.isEmpty⟩

/-- A URI as it is written for the name that it denotes. -/
def normalizeUri (uri : String) : Except UriError String := toUri <$> ofUri uri

section Names

variable {m n : Name}

theorem Solid.dropEmpty_eq (h : n.Solid) : n.dropEmpty = n := by
  refine congrArg Name.mk (List.filter_eq_self.2 fun c hc => ?_)
  simpa using h c hc

/-- A URI begins with a slash. -/
theorem exists_uriChars_eq_cons (n : Name) : ∃ rest, n.uriChars = '/' :: rest := by
  obtain ⟨components⟩ := n
  cases components with
  | nil => exact ⟨[], rfl⟩
  | cons c components => exact ⟨_, rfl⟩

theorem forall_mem_uriChars (n : Name) :
    ∀ c ∈ n.uriChars, Text.isBlank c = false ∧ Text.Json.escape c = [c] := by
  have hslash : Text.isBlank '/' = false ∧ Text.Json.escape '/' = ['/'] := by decide
  intro c hc
  unfold uriChars at hc
  split at hc
  · obtain rfl := List.mem_singleton.1 hc
    exact hslash
  · obtain ⟨component, -, hc⟩ := List.mem_flatMap.1 hc
    rcases List.mem_cons.1 hc with rfl | hc
    · exact hslash
    · exact (Component.isPlain_of_mem_escape hc).2

/-- There is nothing to be trimmed at a URI that has been written, and no scheme to be dropped. -/
theorem uriPath_uriChars (n : Name) : uriPath n.uriChars = n.uriChars := by
  have hblank := fun c hc => (n.forall_mem_uriChars c hc).1
  have hscheme : ¬ "ndn:".toList <+: n.uriChars := by
    obtain ⟨rest, hrest⟩ := n.exists_uriChars_eq_cons
    rw [hrest]
    rintro ⟨_, heq⟩
    cases heq
  exact (isPath_iff.1 ⟨n.uriChars, Text.trims_self hblank, .inr ⟨hscheme, rfl⟩⟩).symm

/-- A slash in front of each component cuts the URI into the components and something empty in front
of them. -/
theorem pieces_flatMap_escape (components : List Component) :
    Text.pieces '/' (components.flatMap fun c => '/' :: c.escape) =
      [] :: components.map Component.escape := by
  refine (Text.cuts_iff.1 ⟨List.cons_ne_nil _ _, ?_, ?_⟩).symm
  · refine List.forall_mem_cons.2 ⟨List.not_mem_nil, fun p hp => ?_⟩
    obtain ⟨component, -, rfl⟩ := List.mem_map.1 hp
    exact fun hslash => (Component.isPlain_of_mem_escape hslash).1 rfl
  · rw [Text.intercalate_cons, List.nil_append, List.flatMap_map]

/-- **The segments of the URI of a name are its components**, those that are empty left out. -/
theorem uriSegments_uriChars (n : Name) :
    uriSegments n.uriChars = n.dropEmpty.components.map Component.escape := by
  have hpieces : (Text.pieces '/' n.uriChars).filter (fun p => !p.isEmpty) =
      (n.components.map Component.escape).filter fun p => !p.isEmpty := by
    unfold uriChars
    split
    · next hroot =>
      rw [List.isEmpty_iff.1 hroot]
      rfl
    · rw [pieces_flatMap_escape]
      rfl
  rw [uriSegments, uriPath_uriChars, hpieces, List.filter_map]
  refine congrArg (List.map Component.escape) (List.filter_congr fun c _ => ?_)
  rw [Function.comp_apply, Bool.eq_iff_iff]
  simp [Component.escape_eq_nil_iff]

/-- **A name is read back from its URI**, its empty components left out. -/
theorem ofUri_toUri (n : Name) : ofUri n.toUri = .ok n.dropEmpty := by
  rw [ofUri_eq_ok_iff, mapM_eq_ok_iff, toUri, String.toList_ofList, uriSegments_uriChars,
    List.map_map]
  exact List.map_congr_left fun c _ => c.ofSegment_escape

theorem Solid.ofUri_toUri (h : n.Solid) : ofUri n.toUri = .ok n := by
  rw [Name.ofUri_toUri, h.dropEmpty_eq]

theorem Solid.normalizeUri_toUri (h : n.Solid) : normalizeUri n.toUri = .ok n.toUri := by
  rw [normalizeUri, h.ofUri_toUri]
  rfl

/-- What is read has no empty components, as no segment is empty. -/
theorem solid_of_ofUri {uri : String} (h : ofUri uri = .ok n) : n.Solid := by
  intro c hc hnil
  obtain ⟨segment, hsegment, hread⟩ := exists_of_mem_mapM (ofUri_eq_ok_iff.1 h) hc
  have hdenotes := Component.ofSegment_eq_ok_iff.1 hread
  rw [hnil] at hdenotes
  -- Such a component can only come from an empty segment, and these are left out.
  have hempty : segment = [] := Text.utf8_eq_nil_iff.1 hdenotes.eq_nil
  simpa [hempty] using (List.mem_filter.1 hsegment).2

/-- In a JSON document the URI of a name stands between quotes as it is. -/
theorem render_toUri (n : Name) : (Text.Json.text n.toUri).render = "\"" ++ n.toUri ++ "\"" := by
  have hplain : n.uriChars.flatMap Text.Json.escape = n.uriChars :=
    (List.flatMap_congr fun c hc => (n.forall_mem_uriChars c hc).2).trans
      (List.flatMap_singleton' n.uriChars)
  rw [Text.Json.render, Text.Json.renderAt, Text.Json.quote, toUri, String.toList_ofList, hplain]

/-- **Names survive their URIs.**

- Every name, with any bytes in its components, is read back from its URI, save its empty
  components.
- So names without empty components that have the same URI are the same name, and such a name is
  read back from its JSON value, whose text is the URI in quotes.
- Whatever is read has no empty components, and is read again from the URI that is written for it.
- So it makes no difference whether a URI is normalised once or twice. -/
theorem uri_roundtrip :
    (∀ n : Name, ofUri n.toUri = .ok n.dropEmpty) ∧
      (∀ m n : Name, m.Solid → n.Solid → m.toUri = n.toUri → m = n) ∧
      (∀ n : Name, n.Solid → ofJson n.toJson = .ok n) ∧
      (∀ n : Name, (Text.Json.text n.toUri).render = "\"" ++ n.toUri ++ "\"") ∧
      (∀ (uri : String) (n : Name), ofUri uri = .ok n → n.Solid ∧ ofUri n.toUri = .ok n) ∧
      ∀ uri : String, normalizeUri uri >>= normalizeUri = normalizeUri uri := by
  refine ⟨ofUri_toUri, fun m n hm hn heq => ?_, fun n hn => ?_, render_toUri, fun uri n h => ?_,
    fun uri => ?_⟩
  · have hread := hm.ofUri_toUri
    rw [heq, hn.ofUri_toUri] at hread
    cases hread
    rfl
  · rw [toJson, ofJson, hn.ofUri_toUri]
    rfl
  · have hsolid := solid_of_ofUri h
    exact ⟨hsolid, hsolid.ofUri_toUri⟩
  · cases hnormal : normalizeUri uri with
    | error e => rfl
    | ok normal =>
      obtain ⟨n, h, rfl⟩ := map_eq_ok_iff.1 hnormal
      exact bind_eq_ok_iff.2 ⟨n.toUri, rfl, (solid_of_ofUri h).normalizeUri_toUri⟩

end Names

end Name

namespace Sample

/-- A name whose components hold a percent sign, a slash and white space, nothing, and a scheme. -/
def oddName : Name := ⟨[⟨[37, 47, 32]⟩, ⟨[]⟩, .ofText "ndn:"]⟩

/-- Only the empty component is lost, and only once. -/
theorem oddName_survives :
    oddName.toUri = "/%25%2F%20//ndn%3A" ∧ ¬ oddName.Solid ∧
      Name.ofUri oddName.toUri = .ok oddName.dropEmpty ∧ oddName.dropEmpty.Solid ∧
      oddName.dropEmpty.toUri = "/%25%2F%20/ndn%3A" ∧
      Name.ofUri oddName.dropEmpty.toUri = .ok oddName.dropEmpty ∧
      Name.ofJson oddName.dropEmpty.toJson = .ok oddName.dropEmpty ∧
      Name.normalizeUri oddName.toUri >>= Name.normalizeUri = Name.normalizeUri oddName.toUri := by
  obtain ⟨hread, -, hjson, -, hagain, htwice⟩ := Name.uri_roundtrip
  obtain ⟨hsolid, hsame⟩ := hagain _ _ (hread oddName)
  exact ⟨by decide, by decide, hread oddName, hsolid, by decide, hsame, hjson _ hsolid,
    htwice oddName.toUri⟩

end Sample

end TrustSchema
