import TrustSchema.Name.Uri
import TrustSchema.Proofs.Success
import TrustSchema.Proofs.Text.Ascii
import TrustSchema.Proofs.Text.Segments

/-!
# Which texts are names

A text is the URI of a name unless one of its segments holds a bad escape. What its segments are is
told here without reading the text from front to back (`Name.AreSegments`). Whether a segment is
good is told by looking behind each of its percent signs (`Component.WellEscaped`), and what it
stands for is told of the bytes that it is written with (`Component.Denotes`). The reader knows
none of this: it goes from character to character, three at a time where it finds an escape.

It never passes over a percent sign, as the digits of an escape are none. It need not know about
bytes, as a byte below 128 always is a character of its own: one that is part of a longer character
can be mistaken neither for a percent sign nor for a digit (`Component.unescapeBytes?_eq_some_iff`).
-/

namespace TrustSchema

/-! ## Hexadecimal digits -/

namespace Text

/-- A character is the digit of a value, in upper or lower case. -/
def IsHexDigit (c : Char) (v : Nat) : Prop :=
  "0123456789ABCDEF".toList[v]? = some c ∨ "0123456789abcdef".toList[v]? = some c

instance (c : Char) (v : Nat) : Decidable (IsHexDigit c v) :=
  inferInstanceAs (Decidable (_ ∨ _))

theorem IsHexDigit.lt {c : Char} {v : Nat} (h : IsHexDigit c v) : v < 16 := by
  rcases h with h | h
  · exact (List.getElem?_eq_some_iff.1 h).1
  · exact (List.getElem?_eq_some_iff.1 h).1

theorem toNat_lt_of_hexValue? {c : Char} {v : Nat} (h : hexValue? c = some v) :
    c.toNat < 128 := by
  have hle : ∀ d : Char, c ≤ d → c.toNat ≤ d.toNat := fun d hd => UInt32.le_iff_toNat_le.1 hd
  unfold hexValue? at h
  split at h
  · next hc => exact Nat.lt_of_le_of_lt (hle '9' hc.2) (by decide)
  · split at h
    · next hc => exact Nat.lt_of_le_of_lt (hle 'F' hc.2) (by decide)
    · split at h
      · next hc => exact Nat.lt_of_le_of_lt (hle 'f' hc.2) (by decide)
      · cases h

/-- The value of a digit is its place among the digits. -/
theorem hexValue?_eq_some_iff {c : Char} {v : Nat} :
    hexValue? c = some v ↔ IsHexDigit c v := by
  constructor
  · intro h
    have hall : ∀ n < 128, ∀ v ∈ hexValue? (Char.ofNat n), IsHexDigit (Char.ofNat n) v := by
      decide
    have hdigit := hall c.toNat (toNat_lt_of_hexValue? h)
    rw [Char.ofNat_toNat] at hdigit
    exact hdigit v h
  · intro h
    have hall : ∀ v < 16, "0123456789ABCDEF".toList[v]?.bind hexValue? = some v ∧
        "0123456789abcdef".toList[v]?.bind hexValue? = some v := by
      decide
    obtain ⟨hupper, hlower⟩ := hall v h.lt
    rcases h with h | h
    · rwa [h] at hupper
    · rwa [h] at hlower

theorem byteOfHex?_eq_some_iff {high low : Char} {b : UInt8} : byteOfHex? high low = some b ↔
    ∃ h l, IsHexDigit high h ∧ IsHexDigit low l ∧ UInt8.ofNat (16 * h + l) = b := by
  simp [byteOfHex?, Option.bind_eq_some_iff, hexValue?_eq_some_iff]

theorem IsHexDigit.exists_byte {c : Char} {v : Nat} (h : IsHexDigit c v) :
    ∃ b : UInt8, b.toNat < 128 ∧ Char.ofUInt8 b = c := by
  have hlt : c.val.toNat < 128 := toNat_lt_of_hexValue? (hexValue?_eq_some_iff.2 h)
  have hvalue : (UInt8.ofNat c.val.toNat).toNat = c.val.toNat := by
    rw [UInt8.toNat_ofNat']
    omega
  exact ⟨UInt8.ofNat c.val.toNat, by omega, (eq_ofUInt8_iff.2 hvalue.symm).symm⟩

theorem IsHexDigit.toNat_lt {b : UInt8} {v : Nat} (h : IsHexDigit (Char.ofUInt8 b) v) :
    b.toNat < 128 := by
  have hlt := toNat_lt_of_hexValue? (hexValue?_eq_some_iff.2 h)
  rwa [Char.toNat, eq_ofUInt8_iff.1 rfl] at hlt

theorem IsHexDigit.ne_percent {c : Char} {v : Nat} (h : IsHexDigit c v) : c ≠ '%' := by
  rintro rfl
  rw [← hexValue?_eq_some_iff] at h
  cases h

end Text

namespace Component

open Text (IsHexDigit)

/-! ## Segments -/

/-- Every percent sign in a segment is followed by two hexadecimal digits of the segment. -/
def WellEscaped (segment : List Char) : Prop :=
  ∀ behind, '%' :: behind <:+ segment → ∃ high low rest, behind = high :: low :: rest ∧
    (∃ h, IsHexDigit high h) ∧ ∃ l, IsHexDigit low l

/-- What the bytes of a segment stand for: each escape stands for the byte that its digits denote,
and all else for itself. -/
inductive Denotes : List UInt8 → List UInt8 → Prop
  | nil : Denotes [] []
  /-- A byte that is no percent sign. -/
  | plain {b : UInt8} {raw bytes : List UInt8} (unescaped : Char.ofUInt8 b ≠ '%')
      (rest : Denotes raw bytes) : Denotes (b :: raw) (b :: bytes)
  /-- A percent sign and two digits. -/
  | escape {percent high low : UInt8} {h l : Nat} {raw bytes : List UInt8}
      (escaped : Char.ofUInt8 percent = '%') (first : IsHexDigit (Char.ofUInt8 high) h)
      (second : IsHexDigit (Char.ofUInt8 low) l) (rest : Denotes raw bytes) :
      Denotes (percent :: high :: low :: raw) (UInt8.ofNat (16 * h + l) :: bytes)

section Segments

variable {c high low : Char} {cs : List Char} {raw bytes : List UInt8}

/-! Both are settled at the front of the segment. -/

theorem wellEscaped_nil : WellEscaped [] := by
  intro behind hbehind
  exact absurd (List.suffix_nil.1 hbehind) (List.cons_ne_nil _ _)

theorem wellEscaped_cons : WellEscaped (c :: cs) ↔
    (c = '%' → ∃ high low rest, cs = high :: low :: rest ∧ (∃ h, IsHexDigit high h) ∧
      ∃ l, IsHexDigit low l) ∧ WellEscaped cs := by
  unfold WellEscaped
  simp only [List.suffix_cons_iff, List.cons.injEq]
  constructor
  · intro h
    exact ⟨fun hc => h cs (.inl ⟨hc.symm, rfl⟩), fun behind hbehind => h behind (.inr hbehind)⟩
  · rintro ⟨hfirst, hothers⟩ behind (⟨hc, rfl⟩ | hbehind)
    · exact hfirst hc.symm
    · exact hothers behind hbehind

theorem wellEscaped_cons_of_ne (hc : c ≠ '%') : WellEscaped (c :: cs) ↔ WellEscaped cs := by
  rw [wellEscaped_cons]
  exact and_iff_right fun h => absurd h hc

/-- As the digits are no percent signs, an escape is passed over as a whole. -/
theorem wellEscaped_escape : WellEscaped ('%' :: high :: low :: cs) ↔
    ((∃ h, IsHexDigit high h) ∧ ∃ l, IsHexDigit low l) ∧ WellEscaped cs := by
  rw [wellEscaped_cons]
  constructor
  · rintro ⟨hfirst, hothers⟩
    obtain ⟨high', low', rest, heq, ⟨h, hhigh⟩, ⟨l, hlow⟩⟩ := hfirst rfl
    cases heq
    rw [wellEscaped_cons_of_ne hhigh.ne_percent, wellEscaped_cons_of_ne hlow.ne_percent] at hothers
    exact ⟨⟨⟨h, hhigh⟩, ⟨l, hlow⟩⟩, hothers⟩
  · rintro ⟨⟨⟨h, hhigh⟩, ⟨l, hlow⟩⟩, hothers⟩
    refine ⟨fun _ => ⟨high, low, cs, rfl, ⟨h, hhigh⟩, ⟨l, hlow⟩⟩, ?_⟩
    rw [wellEscaped_cons_of_ne hhigh.ne_percent, wellEscaped_cons_of_ne hlow.ne_percent]
    exact hothers

theorem denotes_nil_iff : Denotes [] bytes ↔ bytes = [] := by
  constructor
  · rintro ⟨⟩
    rfl
  · rintro rfl
    exact .nil

theorem denotes_cons_of_ne {b : UInt8} (hb : Char.ofUInt8 b ≠ '%') :
    Denotes (b :: raw) bytes ↔ ∃ rest, bytes = b :: rest ∧ Denotes raw rest := by
  constructor
  · rintro (_ | ⟨-, hrest⟩ | ⟨hpercent, -, -, -⟩)
    · exact ⟨_, rfl, hrest⟩
    · exact absurd hpercent hb
  · rintro ⟨rest, rfl, hrest⟩
    exact .plain hb hrest

/-- No byte of any other character is taken for a percent sign. -/
theorem ofUInt8_ne_of_mem_utf8EncodeChar (hc : c ≠ '%') :
    ∀ b ∈ String.utf8EncodeChar c, Char.ofUInt8 b ≠ '%' := by
  intro b hb heq
  have hvalue : b.toNat = 37 := (Text.eq_ofUInt8_iff.1 heq.symm).symm
  -- The bytes of a character above 127 are all above 127, and other characters are their byte.
  rcases Nat.lt_or_ge 127 c.val.toNat with hlt | hle
  · have hhigh := Text.le_of_mem_utf8EncodeChar hlt b hb
    omega
  · rw [Text.utf8EncodeChar_of_le hle, List.mem_singleton] at hb
    refine hc (Char.ext (UInt32.toNat_inj.1 ?_))
    rw [hb, UInt8.toNat_ofNat'] at hvalue
    show c.val.toNat = 37
    omega

theorem denotes_append_iff {others : List UInt8} (h : ∀ b ∈ others, Char.ofUInt8 b ≠ '%') :
    Denotes (others ++ raw) bytes ↔ ∃ rest, bytes = others ++ rest ∧ Denotes raw rest := by
  induction others generalizing bytes with
  | nil => simp
  | cons b others ih =>
    obtain ⟨hb, hothers⟩ := List.forall_mem_cons.1 h
    rw [List.cons_append, denotes_cons_of_ne hb]
    constructor
    · rintro ⟨rest, rfl, hrest⟩
      obtain ⟨rest', rfl, hrest'⟩ := (ih hothers).1 hrest
      exact ⟨rest', rfl, hrest'⟩
    · rintro ⟨rest, rfl, hrest⟩
      exact ⟨others ++ rest, rfl, (ih hothers).2 ⟨rest, rfl, hrest⟩⟩

/-- An escape takes up a percent sign and two characters, whatever bytes follow. -/
theorem denotes_percent_iff : Denotes (Text.utf8 ('%' :: cs)) bytes ↔
    ∃ high low rest h l others, cs = high :: low :: rest ∧ IsHexDigit high h ∧ IsHexDigit low l ∧
      bytes = UInt8.ofNat (16 * h + l) :: others ∧ Denotes (Text.utf8 rest) others := by
  have hpercent : ∀ cs, Text.utf8 ('%' :: cs) = 37 :: Text.utf8 cs := fun _ => rfl
  rw [hpercent]
  constructor
  · intro hdenotes
    -- The two bytes behind the percent sign are digits, so they are characters.
    generalize hraw : Text.utf8 cs = raw at hdenotes
    rcases hdenotes with _ | ⟨hne, -⟩ | ⟨-, hfirst, hsecond, hrest⟩
    · exact absurd (by decide) hne
    · obtain ⟨cs', rfl, hraw'⟩ := (Text.utf8_eq_cons_iff hfirst.toNat_lt).1 hraw
      obtain ⟨rest, rfl, rfl⟩ := (Text.utf8_eq_cons_iff hsecond.toNat_lt).1 hraw'
      exact ⟨_, _, rest, _, _, _, rfl, hfirst, hsecond, rfl, hrest⟩
  · rintro ⟨high, low, rest, h, l, others, rfl, hhigh, hlow, rfl, hrest⟩
    obtain ⟨a, ha, rfl⟩ := hhigh.exists_byte
    obtain ⟨b, hb, rfl⟩ := hlow.exists_byte
    rw [Text.utf8_cons, Text.utf8_cons, Text.utf8EncodeChar_ofUInt8 ha,
      Text.utf8EncodeChar_ofUInt8 hb]
    exact .escape (by decide) hhigh hlow hrest

/-! ## The reader -/

theorem unescapeBytes?_escape_eq_some_iff : unescapeBytes? ('%' :: high :: low :: cs) = some bytes ↔
    ∃ b rest, Text.byteOfHex? high low = some b ∧ unescapeBytes? cs = some rest ∧
      bytes = b :: rest := by
  rw [unescapeBytes?]
  simp only [Option.bind_eq_bind, Option.bind_eq_some_iff, Option.pure_def, Option.some.injEq]
  constructor
  · rintro ⟨b, hb, rest, hrest, rfl⟩
    exact ⟨b, rest, hb, hrest, rfl⟩
  · rintro ⟨b, rest, hb, hrest, rfl⟩
    exact ⟨b, hb, rest, hrest, rfl⟩

theorem unescapeBytes?_of_short (h : ∀ high low rest, cs ≠ high :: low :: rest) :
    unescapeBytes? ('%' :: cs) = none := by
  rw [unescapeBytes?]
  · rfl
  · intro high low rest _ heq
    exact h high low rest heq

theorem unescapeBytes?_cons_of_ne (hc : c ≠ '%') :
    unescapeBytes? (c :: cs) = (unescapeBytes? cs).map (String.utf8EncodeChar c ++ ·) := by
  rw [unescapeBytes?]
  · exact if_neg hc
  · intro high low rest heq
    exact absurd heq hc

/-- **What the reader makes of the characters of a segment is what its bytes stand for.** -/
theorem unescapeBytes?_eq_some_iff :
    unescapeBytes? cs = some bytes ↔ Denotes (Text.utf8 cs) bytes := by
  induction cs using unescapeBytes?.induct generalizing bytes with
  | case1 =>
    rw [Text.utf8_nil, denotes_nil_iff, unescapeBytes?, Option.some.injEq, eq_comm]
  | case2 high low cs ih =>
    rw [unescapeBytes?_escape_eq_some_iff, denotes_percent_iff]
    constructor
    · rintro ⟨b, rest, hb, hrest, rfl⟩
      obtain ⟨h, l, hhigh, hlow, rfl⟩ := Text.byteOfHex?_eq_some_iff.1 hb
      exact ⟨high, low, cs, h, l, rest, rfl, hhigh, hlow, rfl, ih.1 hrest⟩
    · rintro ⟨_, _, _, h, l, rest, ⟨⟩, hhigh, hlow, rfl, hrest⟩
      exact ⟨_, rest, Text.byteOfHex?_eq_some_iff.2 ⟨h, l, hhigh, hlow, rfl⟩, ih.2 hrest, rfl⟩
  | case3 cs hshort =>
    -- The segment ends before the digits of the escape.
    have hne : ∀ high low rest, cs ≠ high :: low :: rest :=
      fun high low rest => hshort high low rest rfl
    rw [unescapeBytes?_of_short hne, denotes_percent_iff]
    refine ⟨nofun, ?_⟩
    rintro ⟨high, low, rest, -, -, -, heq, -⟩
    exact absurd heq (hne high low rest)
  | case4 c cs _ hc ih =>
    rw [unescapeBytes?_cons_of_ne hc, Text.utf8_cons,
      denotes_append_iff (ofUInt8_ne_of_mem_utf8EncodeChar hc), Option.map_eq_some_iff]
    constructor
    · rintro ⟨rest, hrest, rfl⟩
      exact ⟨rest, rfl, ih.1 hrest⟩
    · rintro ⟨rest, rfl, hrest⟩
      exact ⟨rest, ih.2 hrest, rfl⟩

/-- **The reader makes something of a segment exactly if no percent sign in it is astray.** -/
theorem exists_unescapeBytes?_iff :
    (∃ bytes, unescapeBytes? cs = some bytes) ↔ WellEscaped cs := by
  induction cs using unescapeBytes?.induct with
  | case1 => exact iff_of_true ⟨[], by rw [unescapeBytes?]⟩ wellEscaped_nil
  | case2 high low cs ih =>
    rw [wellEscaped_escape, ← ih]
    constructor
    · rintro ⟨bytes, hbytes⟩
      obtain ⟨b, rest, hb, hrest, rfl⟩ := unescapeBytes?_escape_eq_some_iff.1 hbytes
      obtain ⟨h, l, hhigh, hlow, -⟩ := Text.byteOfHex?_eq_some_iff.1 hb
      exact ⟨⟨⟨h, hhigh⟩, ⟨l, hlow⟩⟩, ⟨rest, hrest⟩⟩
    · rintro ⟨⟨⟨h, hhigh⟩, ⟨l, hlow⟩⟩, ⟨rest, hrest⟩⟩
      have hb := Text.byteOfHex?_eq_some_iff.2 ⟨h, l, hhigh, hlow, rfl⟩
      exact ⟨_, unescapeBytes?_escape_eq_some_iff.2 ⟨_, rest, hb, hrest, rfl⟩⟩
  | case3 cs hshort =>
    have hne : ∀ high low rest, cs ≠ high :: low :: rest :=
      fun high low rest => hshort high low rest rfl
    rw [unescapeBytes?_of_short hne, wellEscaped_cons]
    refine iff_of_false nofun ?_
    rintro ⟨hfirst, -⟩
    obtain ⟨high, low, rest, heq, -⟩ := hfirst rfl
    exact hne high low rest heq
  | case4 c cs _ hc ih =>
    rw [unescapeBytes?_cons_of_ne hc, wellEscaped_cons_of_ne hc, ← ih]
    simp only [Option.map_eq_some_iff]
    constructor
    · rintro ⟨_, rest, hrest, -⟩
      exact ⟨rest, hrest⟩
    · rintro ⟨rest, hrest⟩
      exact ⟨_, rest, hrest, rfl⟩

instance (segment : List Char) : Decidable (WellEscaped segment) :=
  decidable_of_iff ((unescapeBytes? segment).isSome = true)
    (Option.isSome_iff_exists.trans exists_unescapeBytes?_iff)

theorem ofSegment_eq_ok_iff {component : Component} : ofSegment cs = .ok component ↔
    Denotes (Text.utf8 cs) component.bytes := by
  rw [← unescapeBytes?_eq_some_iff]
  unfold ofSegment
  cases unescapeBytes? cs with
  | none => exact iff_of_false nofun nofun
  | some bytes =>
    constructor
    · rintro ⟨⟩
      rfl
    · rintro ⟨⟩
      rfl

theorem exists_ofSegment_iff : (∃ component, ofSegment cs = .ok component) ↔ WellEscaped cs := by
  simp only [ofSegment_eq_ok_iff, ← unescapeBytes?_eq_some_iff]
  rw [← exists_unescapeBytes?_iff]
  exact ⟨fun ⟨component, h⟩ => ⟨component.bytes, h⟩, fun ⟨bytes, h⟩ => ⟨⟨bytes⟩, h⟩⟩

theorem ofSegment_eq_error_iff {e : UriError} : ofSegment cs = .error e ↔
    ¬ WellEscaped cs ∧ e = .invalidEscape (String.ofList cs) := by
  rw [← exists_unescapeBytes?_iff]
  unfold ofSegment
  cases unescapeBytes? cs with
  | none =>
    constructor
    · rintro ⟨⟩
      exact ⟨nofun, rfl⟩
    · rintro ⟨-, rfl⟩
      rfl
  | some bytes => exact iff_of_false nofun fun h => h.1 ⟨bytes, rfl⟩

end Segments

end Component

namespace Name

/-! ## Texts -/

/-- The path of a URI: what is left when white space is taken off both ends, and then `ndn:` off the
front if it stands there. -/
def IsPath (uri path : List Char) : Prop :=
  ∃ trimmed, Text.Trims uri trimmed ∧
    (trimmed = "ndn:".toList ++ path ∨ ¬ "ndn:".toList <+: trimmed ∧ trimmed = path)

/-- The segments of a URI: those of the pieces of its path between slashes that are not empty. -/
def AreSegments (uri : List Char) (segments : List (List Char)) : Prop :=
  ∃ path ps, IsPath uri path ∧ Text.Cuts '/' path ps ∧ segments = ps.filter fun p => !p.isEmpty

section Texts

variable {uri path : List Char} {segments : List (List Char)}

theorem isPath_iff : IsPath uri path ↔ path = uriPath uri := by
  simp only [IsPath, Text.trims_iff, exists_eq_left]
  unfold uriPath
  split
  · next rest htrim =>
    rw [htrim]
    have hscheme : "ndn:".toList <+: 'n' :: 'd' :: 'n' :: ':' :: rest := ⟨rest, rfl⟩
    constructor
    · rintro (heq | ⟨hne, -⟩)
      · exact ((List.append_right_inj "ndn:".toList).1 heq).symm
      · exact absurd hscheme hne
    · rintro rfl
      exact .inl rfl
  · next hne =>
    have hscheme : ¬ "ndn:".toList <+: Text.trim uri := by
      rintro ⟨rest, hrest⟩
      exact hne rest hrest.symm
    constructor
    · rintro (heq | ⟨-, heq⟩)
      · exact absurd ⟨path, heq.symm⟩ hscheme
      · exact heq.symm
    · rintro rfl
      exact .inr ⟨hscheme, rfl⟩

theorem areSegments_iff : AreSegments uri segments ↔ segments = uriSegments uri := by
  simp only [AreSegments, isPath_iff, Text.cuts_iff, exists_and_left, exists_eq_left]
  exact Iff.rfl

theorem ofUri_eq_ok_iff {uri : String} {n : Name} : ofUri uri = .ok n ↔
    (uriSegments uri.toList).mapM Component.ofSegment = .ok n.components := by
  unfold ofUri
  rw [bind_eq_ok_iff]
  constructor
  · rintro ⟨components, hread, heq⟩
    cases heq
    exact hread
  · intro hread
    exact ⟨n.components, hread, rfl⟩

theorem ofUri_eq_error_iff {uri : String} {e : UriError} : ofUri uri = .error e ↔
    (uriSegments uri.toList).mapM Component.ofSegment = .error e := by
  unfold ofUri
  cases (uriSegments uri.toList).mapM Component.ofSegment with
  | error e' =>
    constructor <;>
    · rintro ⟨⟩
      rfl
  | ok components => exact iff_of_false nofun nofun

theorem exists_ofUri_iff {uri : String} : (∃ n, ofUri uri = .ok n) ↔
    ∀ segment ∈ uriSegments uri.toList, ∃ c, Component.ofSegment segment = .ok c := by
  rw [← exists_mapM_eq_ok_iff]
  simp only [ofUri_eq_ok_iff]
  exact ⟨fun ⟨n, h⟩ => ⟨n.components, h⟩, fun ⟨components, h⟩ => ⟨⟨components⟩, h⟩⟩

/-- **The texts that are names are told by their segments**, which are determined by the text.

- A text is a name exactly if, in each of its segments, every percent sign is followed by two
  hexadecimal digits of the segment.
- It is that name which has a component for each segment, in the same order, with those bytes that
  the UTF-8 bytes of the segment stand for.
- If it is none, what is reported is the first segment with a percent sign that is not followed by
  two digits, as it is written. -/
theorem ofUri_exact (uri : String) :
    ∃ segments, (∀ segments', AreSegments uri.toList segments' ↔ segments' = segments) ∧
      ((∃ n, ofUri uri = .ok n) ↔ ∀ segment ∈ segments, Component.WellEscaped segment) ∧
      (∀ n, ofUri uri = .ok n ↔ List.Forall₂
        (fun segment c => Component.Denotes (Text.utf8 segment) c.bytes) segments n.components) ∧
      ∀ e, ofUri uri = .error e ↔ ∃ before segment after,
        segments = before ++ segment :: after ∧ (∀ s ∈ before, Component.WellEscaped s) ∧
          ¬ Component.WellEscaped segment ∧ e = .invalidEscape (String.ofList segment) := by
  refine ⟨uriSegments uri.toList, fun _ => areSegments_iff, ?_, fun n => ?_, fun e => ?_⟩
  · rw [exists_ofUri_iff]
    simp only [Component.exists_ofSegment_iff]
  · rw [ofUri_eq_ok_iff, mapM_eq_ok_iff_forall₂]
    simp only [Component.ofSegment_eq_ok_iff]
  · rw [ofUri_eq_error_iff, mapM_eq_error_iff]
    simp only [Component.exists_ofSegment_iff, Component.ofSegment_eq_error_iff]

end Texts

end Name

namespace Sample

/-- The URI of a name with one component. -/
def menuUri : String := "/é%2f"

def menu : Name := ⟨[⟨[195, 169, 47]⟩]⟩

/-- A text with white space around it, a scheme, empty segments and a percent sign with one digit
behind it. -/
def cutShort : String := " ndn:/é%2f//b%4/\n"

theorem menuUri_segments : Name.AreSegments menuUri.toList ["é%2f".toList] := by
  refine ⟨"/é%2f".toList, [[], "é%2f".toList], ?_, ⟨by decide, by decide, by decide⟩, by decide⟩
  exact ⟨"/é%2f".toList, Text.trims_iff.2 (by decide), .inr (by decide)⟩

theorem cutShort_segments :
    Name.AreSegments cutShort.toList ["é%2f".toList, "b%4".toList] := by
  refine ⟨"/é%2f//b%4/".toList, [[], "é%2f".toList, [], "b%4".toList, []], ?_,
    ⟨by decide, by decide, by decide⟩, by decide⟩
  exact ⟨"ndn:/é%2f//b%4/".toList, Text.trims_iff.2 (by decide), .inl (by decide)⟩

/-- The letter stands for both of its bytes, and the escape for a slash. The other text is refused
because of its second segment. -/
theorem uris_read : Name.ofUri menuUri = .ok menu ∧
    Name.ofUri cutShort = .error (.invalidEscape "b%4") := by
  constructor
  · obtain ⟨segments, hsegments, -, hread, -⟩ := Name.ofUri_exact menuUri
    obtain rfl := (hsegments _).1 menuUri_segments
    refine (hread menu).2 (.cons ?_ .nil)
    refine .plain (by decide) (.plain (by decide) ?_)
    exact .escape (h := 2) (l := 15) (by decide) (by decide) (by decide) .nil
  · obtain ⟨segments, hsegments, -, -, hrefused⟩ := Name.ofUri_exact cutShort
    obtain rfl := (hsegments _).1 cutShort_segments
    exact (hrefused _).2 ⟨["é%2f".toList], "b%4".toList, [], rfl, by decide, by decide, rfl⟩

end Sample

end TrustSchema
