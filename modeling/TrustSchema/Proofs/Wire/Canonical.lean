import Mathlib.Data.List.Basic
import TrustSchema.Proofs.Wire.Length
import TrustSchema.Wire.Format

/-!
# Canonical formats

A format is canonical if its reader and its writer are each other's inverse: what is read off an
input is a value that fits the format, followed by the rest of the input, and stands there in just
the bytes that are written for it (`Format.Canonical`). The condition says which values fit; a byte
string, for example, has to be shorter than 2^32 bytes for its length to be written.

Every way to put formats together keeps them canonical. Two things follow for every canonical
format:

- `Format.Canonical.decodeAll_eq_ok_iff`: a value is the whole of an input exactly if the input is
  what is written for it.
- `Format.Canonical.encode_append_inj`: where a value ends can be told from the bytes, whatever
  follows it.
-/

namespace TrustSchema.Wire.Format

variable {α β : Type} {f : Format α} {g : Format β} {fits : α → Prop} {fits' : β → Prop}

/-- A value is read, with a rest behind it, exactly if it fits and the input is what is written for
it, followed by the rest. -/
def Canonical (f : Format α) (fits : α → Prop) : Prop :=
  ∀ input a rest, f.decode input = .ok (a, rest) ↔ fits a ∧ input = f.encode a ++ rest

/-- How failures are reported does not matter. -/
theorem Canonical.inside (hf : f.Canonical fits) (place : Place) :
    (f.inside place).Canonical fits := fun input a rest =>
  mapError_eq_ok_iff.trans (hf input a rest)

/-! ## Single values -/

theorem canonical_fixed (width : Nat) : (fixed width).Canonical (· < capacity width) := by
  intro input n rest
  constructor
  · intro h
    obtain ⟨⟨field, rest'⟩, hread, hnumber⟩ := bind_eq_ok_iff.1 h
    cases hnumber
    obtain ⟨hlength, hinput⟩ := readFixed_eq_ok_iff.1 hread
    subst hlength
    refine ⟨ofLittleEndian_lt_capacity field, ?_⟩
    show input = littleEndian field.length (ofLittleEndian field) ++ rest
    rw [littleEndian_ofLittleEndian, hinput]
  · rintro ⟨hn, rfl⟩
    obtain ⟨hlength, hnumber⟩ := (ofLittleEndian_eq_iff hn).2 rfl
    refine bind_eq_ok_iff.2 ⟨_, readFixed_eq_ok_iff.2 ⟨hlength, rfl⟩, ?_⟩
    show Except.ok (ofLittleEndian (littleEndian width n), rest) = _
    rw [hnumber]

theorem canonical_bytes : Format.bytes.Canonical fun bs => bs.length < 2 ^ 32 := by
  intro input bs rest
  constructor
  · intro h
    obtain ⟨⟨length, behind⟩, hlength, hbytes⟩ := bind_eq_ok_iff.1 h
    obtain ⟨hlt, hinput⟩ := decodeLength_eq_ok_iff.1 hlength
    dsimp only at hbytes
    split at hbytes
    · cases hbytes
    · next hle =>
      cases hbytes
      have htake : (behind.take length).length = length :=
        List.length_take_of_le (Nat.le_of_not_lt hle)
      refine ⟨Nat.lt_of_le_of_lt (Nat.le_of_eq htake) hlt, ?_⟩
      show input = encodeLength (behind.take length).length ++ behind.take length ++ _
      rw [htake, List.append_assoc, List.take_append_drop, hinput]
  · rintro ⟨hlt, rfl⟩
    have hlength := decodeLength_encodeLength hlt (bs ++ rest)
    rw [← List.append_assoc] at hlength
    refine bind_eq_ok_iff.2 ⟨_, hlength, ?_⟩
    dsimp only
    rw [if_neg (by simp), List.take_left, List.drop_left]
    rfl

/-- The cases of an enumeration are told apart by their positions. -/
theorem canonical_enumeration [DecidableEq α] (name : String) {cases : List α}
    (distinct : cases.Nodup) (few : cases.length ≤ 256) :
    (enumeration name cases).Canonical (· ∈ cases) := by
  have htag := (canonical_fixed 1).inside (.caseTag name)
  -- A position below 256 is its own lowest byte.
  have hposition : ∀ tag < 256, littleEndian 1 tag = [UInt8.ofNat tag] := by
    intro tag htag
    rw [littleEndian, Nat.mod_eq_of_lt htag]
    rfl
  intro input a rest
  constructor
  · intro h
    obtain ⟨⟨tag, rest'⟩, hread, hcase⟩ := bind_eq_ok_iff.1 h
    obtain ⟨hlt, hinput⟩ := (htag _ _ _).1 hread
    dsimp only at hcase
    split at hcase
    · next found =>
      cases hcase
      obtain ⟨hinside, rfl⟩ := List.getElem?_eq_some_iff.1 found
      refine ⟨List.getElem_mem hinside, ?_⟩
      show input = [UInt8.ofNat (cases.idxOf cases[tag])] ++ rest
      rw [distinct.idxOf_getElem, ← hposition tag hlt]
      exact hinput
    · cases hcase
  · rintro ⟨ha, rfl⟩
    have hlt : cases.idxOf a < 256 :=
      Nat.lt_of_lt_of_le (List.idxOf_lt_length_of_mem ha) few
    have hread := (htag _ (cases.idxOf a) rest).2 ⟨hlt, rfl⟩
    refine bind_eq_ok_iff.2 ⟨(cases.idxOf a, rest), ?_, ?_⟩
    · rw [← hread]
      show _ = ((fixed 1).inside (.caseTag name)).decode (littleEndian 1 (cases.idxOf a) ++ rest)
      rw [hposition _ hlt]
      rfl
    · dsimp only
      rw [List.getElem?_idxOf ha]
      rfl

/-! ## Values put together -/

/-- Values that correspond to those of a canonical format, as far as either fit. -/
theorem Canonical.map (hf : f.Canonical fits) {build : α → β} {parts : β → α}
    (hparts : ∀ a, fits a → fits' (build a) ∧ parts (build a) = a)
    (hbuild : ∀ b, fits' b → fits (parts b) ∧ build (parts b) = b) :
    (f.map build parts).Canonical fits' := by
  intro input b rest
  constructor
  · intro h
    obtain ⟨⟨a, rest'⟩, hread, hvalue⟩ := bind_eq_ok_iff.1 h
    cases hvalue
    obtain ⟨ha, hinput⟩ := (hf _ _ _).1 hread
    obtain ⟨hb, heq⟩ := hparts a ha
    refine ⟨hb, ?_⟩
    show input = f.encode (parts (build a)) ++ rest
    rw [heq, hinput]
  · rintro ⟨hb, rfl⟩
    obtain ⟨ha, heq⟩ := hbuild b hb
    refine bind_eq_ok_iff.2 ⟨_, (hf _ (parts b) rest).2 ⟨ha, rfl⟩, ?_⟩
    show Except.ok (build (parts b), rest) = _
    rw [heq]

/-- Two values need nothing between them. -/
theorem Canonical.pair (hf : f.Canonical fits) (hg : g.Canonical fits') :
    (f.pair g).Canonical fun p => fits p.1 ∧ fits' p.2 := by
  rintro input ⟨a, b⟩ rest
  constructor
  · intro h
    obtain ⟨⟨a', behind⟩, hfirst, hothers⟩ := bind_eq_ok_iff.1 h
    obtain ⟨⟨b', rest'⟩, hsecond, hvalue⟩ := bind_eq_ok_iff.1 hothers
    cases hvalue
    obtain ⟨ha, hinput⟩ := (hf _ _ _).1 hfirst
    obtain ⟨hb, hbehind⟩ := (hg _ _ _).1 hsecond
    refine ⟨⟨ha, hb⟩, ?_⟩
    show input = f.encode a ++ g.encode b ++ rest
    rw [hinput, hbehind, List.append_assoc]
  · rintro ⟨⟨ha, hb⟩, rfl⟩
    have hfirst := (hf _ a (g.encode b ++ rest)).2 ⟨ha, List.append_assoc ..⟩
    have hsecond := (hg _ b rest).2 ⟨hb, rfl⟩
    exact bind_eq_ok_iff.2 ⟨_, hfirst, bind_eq_ok_iff.2 ⟨_, hsecond, rfl⟩⟩

/-- A byte tells whether there is a value. -/
theorem Canonical.option (hf : f.Canonical fits) :
    f.option.Canonical fun o => ∀ a ∈ o, fits a := by
  have htag := (canonical_fixed 1).inside .optionTag
  have hpayload := hf.inside .optionPayload
  intro input o rest
  constructor
  · intro h
    obtain ⟨⟨tag, behind⟩, hread, hvalue⟩ := bind_eq_ok_iff.1 h
    obtain ⟨-, hinput⟩ := (htag _ _ _).1 hread
    dsimp only at hvalue
    split at hvalue
    · next hzero =>
      cases hvalue
      subst hzero
      exact ⟨nofun, hinput⟩
    · split at hvalue
      · next hone =>
        subst hone
        obtain ⟨⟨a, rest'⟩, hsome, hvalue⟩ := bind_eq_ok_iff.1 hvalue
        cases hvalue
        obtain ⟨ha, hbehind⟩ := (hpayload _ _ _).1 hsome
        refine ⟨?_, by rw [hinput, hbehind]; rfl⟩
        rintro _ ⟨⟩
        exact ha
      · cases hvalue
  · rintro ⟨ho, rfl⟩
    cases o with
    | none => exact bind_eq_ok_iff.2 ⟨_, (htag _ 0 rest).2 ⟨by decide, rfl⟩, rfl⟩
    | some a =>
      have hread := (htag _ 1 (f.encode a ++ rest)).2 ⟨by decide, rfl⟩
      have hsome := (hpayload _ a rest).2 ⟨ho a rfl, rfl⟩
      exact bind_eq_ok_iff.2 ⟨_, hread, bind_eq_ok_iff.2 ⟨_, hsome, rfl⟩⟩

/-- A given number of values, one after the other. -/
theorem Canonical.decodeMany_eq_ok_iff (hf : f.Canonical fits) {count : Nat}
    {input rest : List UInt8} {as : List α} :
    decodeMany f.decode count input = .ok (as, rest) ↔
      as.length = count ∧ (∀ a ∈ as, fits a) ∧ input = as.flatMap f.encode ++ rest := by
  induction count generalizing input as with
  | zero =>
    constructor
    · rintro ⟨⟩
      exact ⟨rfl, nofun, rfl⟩
    · rintro ⟨hlength, -, rfl⟩
      rw [List.length_eq_zero_iff.1 hlength]
      rfl
  | succ count ih =>
    constructor
    · intro h
      obtain ⟨⟨a, behind⟩, hfirst, hothers⟩ := bind_eq_ok_iff.1 h
      obtain ⟨⟨as', rest'⟩, hothers, hvalue⟩ := bind_eq_ok_iff.1 hothers
      cases hvalue
      obtain ⟨ha, hinput⟩ := (hf _ _ _).1 hfirst
      obtain ⟨hlength, has, hbehind⟩ := ih.1 hothers
      refine ⟨congrArg Nat.succ hlength, List.forall_mem_cons.2 ⟨ha, has⟩, ?_⟩
      rw [hinput, hbehind, List.flatMap_cons, List.append_assoc]
    · rintro ⟨hlength, has, rfl⟩
      obtain ⟨a, as, rfl⟩ := List.exists_cons_of_length_eq_add_one hlength
      obtain ⟨ha, has⟩ := List.forall_mem_cons.1 has
      rw [List.flatMap_cons, List.append_assoc]
      have hfirst := (hf _ a (as.flatMap f.encode ++ rest)).2 ⟨ha, rfl⟩
      have hothers := ih.2 ⟨Nat.succ.inj hlength, has, rfl⟩
      exact bind_eq_ok_iff.2 ⟨_, hfirst, bind_eq_ok_iff.2 ⟨_, hothers, rfl⟩⟩

/-- A list says how many elements it has, so they need no end mark. -/
theorem Canonical.list (hf : f.Canonical fits) :
    f.list.Canonical fun as => as.length < 2 ^ 32 ∧ ∀ a ∈ as, fits a := by
  intro input as rest
  constructor
  · intro h
    obtain ⟨⟨length, behind⟩, hlength, helements⟩ := bind_eq_ok_iff.1 h
    obtain ⟨hlt, hinput⟩ := decodeLength_eq_ok_iff.1 hlength
    obtain ⟨rfl, has, hbehind⟩ := hf.decodeMany_eq_ok_iff.1 helements
    refine ⟨⟨hlt, has⟩, ?_⟩
    show input = encodeLength as.length ++ as.flatMap f.encode ++ rest
    rw [hinput, hbehind, List.append_assoc]
  · rintro ⟨⟨hlt, has⟩, rfl⟩
    have hlength := decodeLength_encodeLength hlt (as.flatMap f.encode ++ rest)
    rw [← List.append_assoc] at hlength
    exact bind_eq_ok_iff.2 ⟨_, hlength, hf.decodeMany_eq_ok_iff.2 ⟨rfl, has, rfl⟩⟩

/-- The numbers that fit two's complement of 64 bits. -/
theorem canonical_signed64 :
    signed64.Canonical fun i => -2 ^ 63 ≤ i ∧ i < 2 ^ 63 := by
  have hcapacity : capacity 8 = 0x10000000000000000 := rfl
  refine (canonical_fixed 8).map ?_ ?_
  · intro n hn
    rw [hcapacity] at hn ⊢
    rw [Int.bmod_def]
    constructor <;> split <;> omega
  · intro i hi
    rw [hcapacity, Int.bmod_def]
    constructor
    · omega
    · split <;> omega

/-! ## What follows -/

/-- A whole input is read exactly if it is what is written. -/
theorem Canonical.decodeAll_eq_ok_iff (hf : f.Canonical fits) {input : List UInt8} {a : α} :
    f.decodeAll input = .ok a ↔ fits a ∧ input = f.encode a := by
  have hread := hf input a []
  rw [List.append_nil] at hread
  rw [← hread]
  constructor
  · intro h
    obtain ⟨⟨a', rest⟩, ha, hend⟩ := bind_eq_ok_iff.1 h
    dsimp only at hend
    split at hend
    · next hrest =>
      cases hend
      rw [ha, List.isEmpty_iff.1 hrest]
    · cases hend
  · intro h
    exact bind_eq_ok_iff.2 ⟨_, h, rfl⟩

/-- Nothing may follow a value that is the whole input. -/
theorem Canonical.decodeAll_append_eq_error (hf : f.Canonical fits) {a : α} {extra : List UInt8}
    (ha : fits a) (hextra : extra ≠ []) :
    f.decodeAll (f.encode a ++ extra) = .error .leftOver := by
  unfold decodeAll
  rw [(hf _ a extra).2 ⟨ha, rfl⟩]
  show (if extra.isEmpty then .ok a else .error .leftOver) = Except.error DecodeError.leftOver
  rw [if_neg (by simpa using hextra)]

/-- Where a value ends can be told from the bytes, whatever follows. -/
theorem Canonical.encode_append_inj (hf : f.Canonical fits) {a b : α} {x y : List UInt8}
    (ha : fits a) (hb : fits b) (h : f.encode a ++ x = f.encode b ++ y) : a = b ∧ x = y := by
  have hread := (hf _ a x).2 ⟨ha, rfl⟩
  rw [(hf _ b y).2 ⟨hb, h⟩] at hread
  cases hread
  exact ⟨rfl, rfl⟩

theorem Canonical.encode_inj (hf : f.Canonical fits) {a b : α} (ha : fits a) (hb : fits b)
    (h : f.encode a = f.encode b) : a = b :=
  (hf.encode_append_inj ha hb (congrArg (· ++ []) h)).1

/-! ## Bytes that no value has -/

/-- A byte that tells cases apart is read as its number. -/
theorem decode_tag (place : Place) (tag : UInt8) (rest : List UInt8) :
    ((fixed 1).inside place).decode (tag :: rest) = .ok (tag.toNat, rest) := by
  refine ((canonical_fixed 1).inside place _ _ _).2 ⟨tag.toNat_lt, ?_⟩
  simp [fixed, inside, littleEndian]

/-- Whether there is a value is said by a byte 0 or 1. -/
theorem decode_option_eq_error {tag : UInt8} (hzero : tag ≠ 0) (hone : tag ≠ 1)
    (rest : List UInt8) : f.option.decode (tag :: rest) = .error .badOptionTag := by
  have hzero : tag.toNat ≠ 0 := fun h => hzero (UInt8.toNat_inj.1 h)
  have hone : tag.toNat ≠ 1 := fun h => hone (UInt8.toNat_inj.1 h)
  unfold option
  dsimp only
  rw [decode_tag]
  dsimp only [bind, Except.bind]
  rw [if_neg hzero, if_neg hone]

/-- An enumeration has no case beyond its last one. -/
theorem decode_enumeration_eq_error [DecidableEq α] (name : String) {cases : List α} {tag : UInt8}
    (htag : cases.length ≤ tag.toNat) (rest : List UInt8) :
    (enumeration name cases).decode (tag :: rest) = .error (.unknownCase name) := by
  unfold enumeration
  dsimp only
  rw [decode_tag]
  dsimp only [bind, Except.bind]
  rw [List.getElem?_eq_none htag]

end TrustSchema.Wire.Format
