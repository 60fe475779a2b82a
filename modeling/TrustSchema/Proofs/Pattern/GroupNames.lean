import TrustSchema.Pattern.Basic

/-!
# Names of groups

The name of a group is never a number: it starts with a letter or an underscore. Of all the steps
that read a pattern only one gives names (`Reading.groupName`), and it checks them; the others leave
the names as they are, or are made of such steps. So what is to be shown of a step is that it keeps
names in order (`Reading.Keeps`), and each construction of steps does this if its parts do.
-/

namespace TrustSchema.Pattern

/-- All names that have been given can name a group. -/
def Reader.Named (r : Reader) : Prop := ∀ entry ∈ r.names, Reading.isGroupName entry.1.toList

namespace Reading

/-- A step that gives no name that cannot name a group. -/
class Keeps {α : Type} (x : Reading α) : Prop where
  named : ∀ {r a r'}, x r = some (a, r') → r.Named → r'.Named

section Laws

variable {α β : Type} {x y : Reading α}

instance (a : α) : Keeps (pure a : Reading α) where
  named h hr := by
    cases h
    exact hr

theorem Keeps.bind {f : α → Reading β} (hx : Keeps x) (hf : ∀ a, Keeps (f a)) :
    Keeps (x >>= f) where
  named h hr := by
    obtain ⟨⟨a, s⟩, hxs, hfs⟩ := Option.bind_eq_some_iff.1 h
    exact (hf a).named hfs (hx.named hxs hr)

instance {f : α → Reading β} [Keeps x] [∀ a, Keeps (f a)] : Keeps (x >>= f) :=
  .bind inferInstance inferInstance

instance {c : Prop} [Decidable c] [Keeps x] [Keeps y] : Keeps (if c then x else y) := by
  split <;> infer_instance

instance : Keeps (malformed : Reading α) where
  named h := nomatch h

instance (o : Option α) : Keeps (lift o) := by
  cases o <;> unfold lift <;> infer_instance

end Laws

/-! ## Steps -/

instance : Keeps rest where
  named h hr := by
    cases h
    exact hr

instance : Keeps flags where
  named h hr := by
    cases h
    exact hr

instance (cs : List Char) : Keeps (goto cs) where
  named h hr := by
    cases h
    exact hr

instance (f : Flags) : Keeps (setFlags f) where
  named h hr := by
    cases h
    exact hr

instance (condition : Bool) : Keeps (ensure condition) := by
  unfold ensure
  infer_instance

/-- What comes behind a condition is done only if the condition holds. -/
theorem Keeps.ensure_bind {α : Type} {condition : Bool} {f : Unit → Reading α}
    (hf : condition → Keeps (f ())) : Keeps (ensure condition >>= f) := by
  cases condition with
  | false => exact ⟨nofun⟩
  | true => exact hf rfl

instance : Keeps skip := by
  unfold skip
  infer_instance

instance : Keeps advance := by
  unfold advance
  infer_instance

instance : Keeps dashes := by
  unfold dashes
  infer_instance

instance : Keeps braced := by
  unfold braced
  infer_instance

instance : Keeps second := by
  unfold second
  infer_instance

instance (negated : Bool) (s : CharSet) : Keeps (closeSet negated s) := by
  unfold closeSet
  infer_instance

instance (digits : List Char) : Keeps (ofHex digits) := by
  unfold ofHex
  infer_instance

/-- What goes on by the text that is left keeps names in order if it does so for each text. -/
theorem Keeps.rest_bind {α : Type} {f : List Char → Reading α} (hf : ∀ cs, Keeps (f cs)) :
    Keeps (rest >>= f) := .bind inferInstance hf

instance (n : Nat) : Keeps (take n) := by
  induction n with
  | zero =>
    unfold take
    infer_instance
  | succ n ih =>
    unfold take
    refine .rest_bind fun cs => ?_
    split <;> infer_instance

instance (width : Nat) : Keeps (hexLiteral width) := by
  unfold hexLiteral
  refine .bind inferInstance fun _ => .rest_bind fun cs => ?_
  split <;> infer_instance

instance (negated : Bool) : Keeps (property negated) := by
  unfold property
  refine .bind inferInstance fun _ => .bind inferInstance fun _ => .bind inferInstance fun _ =>
    .rest_bind fun cs => ?_
  split <;> infer_instance

instance (negated : Bool) (unicodeSet asciiSet : CharSet) :
    Keeps (letterClass negated unicodeSet asciiSet) := by
  unfold letterClass
  infer_instance

instance (edge : WordEdge) : Keeps (wordEdge edge) := by
  unfold wordEdge
  infer_instance

instance : Keeps boundary := by
  unfold boundary
  refine .rest_bind fun cs => ?_
  split
  · refine .bind inferInstance fun _ => .bind inferInstance fun _ => .rest_bind fun cs => ?_
    split
    · infer_instance
    · split
      · infer_instance
      · refine .bind inferInstance fun text => ?_
        split <;> infer_instance
  · infer_instance

instance : Keeps escape := by
  unfold escape
  refine .rest_bind fun cs => ?_
  split
  · refine .bind inferInstance fun _ => ?_
    split <;> infer_instance
  · infer_instance

instance (before : Option Operand) (last : Members) : Keeps (joinSets before last) := by
  unfold joinSets
  split <;> infer_instance

instance : Keeps classAtom := by
  unfold classAtom
  refine .rest_bind fun cs => ?_
  split <;> infer_instance

instance (a : Atom) : Keeps (classChar a) := by
  unfold classChar
  split <;> infer_instance

instance : Keeps classItem := by
  unfold classItem
  refine .bind inferInstance fun first => .bind inferInstance fun _ => .rest_bind fun cs => ?_
  split
  · refine .bind inferInstance fun next => ?_
    split
    · split <;> infer_instance
    · infer_instance
  · infer_instance

instance : Keeps openClass := by
  unfold openClass
  refine .bind inferInstance fun _ => .rest_bind fun cs => ?_
  extract_lets negated goOn
  have hgoOn : ∀ u, Keeps (goOn u) := fun _ => by
    refine .bind inferInstance fun count => ?_
    split
    · infer_instance
    · refine .rest_bind fun cs => ?_
      split <;> infer_instance
  split
  · exact .bind inferInstance hgoOn
  · exact hgoOn ()

instance (fuel : Nat) (before : Option Operand) (items : Members) :
    Keeps (classRest fuel before items) := by
  induction fuel generalizing before items with
  | zero =>
    unfold classRest
    infer_instance
  | succ fuel ih =>
    unfold classRest
    refine .bind inferInstance fun _ => .rest_bind fun cs => ?_
    split
    · infer_instance
    · infer_instance
    · split <;> infer_instance
    · split <;> infer_instance

instance : Keeps bracketed := by
  unfold bracketed
  infer_instance

/-! ## Groups -/

instance : Keeps newGroup where
  named h hr := by
    cases h
    exact hr

/-- A name is given if it can name a group. -/
instance (index : Nat) : Keeps (groupName index) := by
  unfold groupName
  refine .rest_bind fun cs => ?_
  extract_lets name
  split
  · next after hafter =>
    refine .ensure_bind fun hname => ⟨fun {r a r'} h hr => ?_⟩
    change (ensure _ >>= fun _ => modify _) r = some (a, r') at h
    cases hfree : (r.names.lookup (String.ofList name)).isNone with
    | true =>
      rw [hfree] at h
      cases h
      refine List.forall_mem_append.2 ⟨hr, List.forall_mem_singleton.2 ?_⟩
      rwa [String.toList_ofList]
    | false =>
      rw [hfree] at h
      cases h
  · infer_instance

instance : Keeps switches := by
  unfold switches
  refine .rest_bind fun cs => ?_
  extract_lets letters
  split <;> infer_instance

instance : Keeps opening := by
  unfold opening
  refine .bind inferInstance fun _ => .rest_bind fun cs => ?_
  split <;> infer_instance

instance : Keeps repetition? := by
  unfold repetition?
  refine .rest_bind fun cs => ?_
  split <;> infer_instance

instance : Keeps isGreedy := by
  unfold isGreedy
  refine .bind inferInstance fun _ => .rest_bind fun cs => ?_
  split <;> infer_instance

instance : Keeps anyCharacter := by
  unfold anyCharacter
  infer_instance

instance (atStart : Bool) : Keeps (edge atStart) := by
  unfold edge
  refine .bind inferInstance fun f => ?_
  split <;> infer_instance

instance (a : Atom) : Keeps (ofAtom a) := by
  cases a <;> (unfold ofAtom; infer_instance)

instance : Keeps single := by
  unfold single
  refine .rest_bind fun cs => ?_
  split <;> infer_instance

instance (nested : Bool) (fuel : Nat) (done items : List Part) (repeatable : Bool) :
    Keeps (alternatives nested fuel done items repeatable) := by
  induction fuel generalizing nested done items repeatable with
  | zero =>
    unfold alternatives
    infer_instance
  | succ fuel ih =>
    unfold alternatives
    refine .bind inferInstance fun _ => .rest_bind fun cs => ?_
    split
    · infer_instance
    · infer_instance
    · infer_instance
    · refine .bind inferInstance fun outer => .bind inferInstance fun _ =>
        .bind inferInstance fun what => ?_
      split <;> infer_instance
    · refine .bind inferInstance fun counts => ?_
      split <;> infer_instance

end Reading

/-- The names in a pattern can name groups. -/
theorem named_of_parse? {source : String} {e : Expr} {names : List (String × Nat)}
    (h : Expr.parse? source = some (e, names)) :
    ∀ entry ∈ names, Reading.isGroupName entry.1.toList := by
  obtain ⟨⟨part, reader⟩, hread, hdepth⟩ := Option.bind_eq_some_iff.1 h
  have hkeeps : Reading.Keeps
      (Reading.alternatives false (source.toList.length + 1) [] [] false) := inferInstance
  have hnamed : reader.Named := hkeeps.named hread (List.forall_mem_nil _)
  dsimp only at hdepth
  split at hdepth
  · cases hdepth
    exact hnamed
  · cases hdepth

end TrustSchema.Pattern

namespace TrustSchema

/-! ## Numbers are no names -/

namespace Text

theorem digits_apart_letters : digitZeros.all (fun first => letterRanges.all fun range =>
    Nat.blt range.2 first || Nat.ble (first + 10) range.1) := by
  decide +kernel

/-- A decimal digit is no letter, in any script. -/
theorem isLetter_of_isDecimalDigit {c : Char} (h : isDecimalDigit c) : isLetter c = false := by
  obtain ⟨first, hfirst, hc⟩ := List.any_eq_true.1 h
  refine List.any_eq_false.2 fun range hrange hin => ?_
  have hapart :=
    List.all_eq_true.1 (List.all_eq_true.1 digits_apart_letters first hfirst) range hrange
  rw [Bool.or_eq_true, Nat.blt_eq, Nat.ble_eq] at hapart
  rw [Bool.and_eq_true, decide_eq_true_eq, decide_eq_true_eq] at hc hin
  omega

end Text

/-- What names a group is no row of digits. -/
theorem Pattern.Reading.isGroupName_of_digits {digits : List Char}
    (h : ∀ d ∈ digits, Text.isDecimalDigit d) : isGroupName digits = false := by
  cases digits with
  | nil => rfl
  | cons d digits =>
    have hdigit := h d List.mem_cons_self
    have hne : d ≠ '_' := by
      rintro rfl
      exact absurd hdigit (by decide)
    rw [isGroupName, Text.isLetter_of_isDecimalDigit hdigit, beq_eq_false_iff_ne.2 hne]
    rfl

/-- No group of a pattern that was read is named by digits. -/
theorem Captures.named?_of_digits {source : String} {p : Pattern} {text : List Char} {c : Captures}
    (hp : Pattern.ofSource? source = some p) (hc : p.captures? text = some c)
    {digits : List Char} (hdigits : ∀ d ∈ digits, Text.isDecimalDigit d) :
    c.named? (String.ofList digits) = none := by
  obtain ⟨⟨e, names⟩, hparse, hpattern⟩ := Option.bind_eq_some_iff.1 hp
  obtain ⟨slots, hslots, hcaptures⟩ := Option.bind_eq_some_iff.1 hc
  cases hpattern
  cases hcaptures
  have hlookup : names.lookup (String.ofList digits) = none := by
    refine List.lookup_eq_none_iff.2 fun entry hentry => bne_iff_ne.2 fun heq => ?_
    have hname := Pattern.named_of_parse? hparse entry hentry
    rw [← heq, String.toList_ofList, Pattern.Reading.isGroupName_of_digits hdigits] at hname
    exact Bool.false_ne_true hname
  rw [Captures.named?, hlookup]
  rfl

end TrustSchema
