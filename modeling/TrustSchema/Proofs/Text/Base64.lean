import TrustSchema.Proofs.Success
import TrustSchema.Proofs.Text.Ascii
import TrustSchema.Text.Base64
import TrustSchema.Text.Blank

/-!
# Every byte string has one Base64 text

A text is read as some bytes exactly if it is the one that is written for them
(`Base64.decode_eq_ok_iff`). So neither the filling of the last group nor the bits of its last
symbol that carry no data leave room for a second text.

Four values below 64 denote three bytes, and three bytes are written as these values
(`Base64.encode_join_append`). Groups in the middle of a text are read and written like this. A last
group with filling denotes the first bytes of one in which the missing values are zero.
-/

namespace TrustSchema.Text.Base64

/-! ## Symbols -/

theorem value?_symbol {v : Nat} (hv : v < 64) : value? (symbol v) = some v := by
  have hall : ∀ v < 64, value? (symbol v) = some v := by decide
  exact hall v hv

theorem symbol_ne_pad {v : Nat} (hv : v < 64) : symbol v ≠ pad := by
  have hall : ∀ v < 64, symbol v ≠ pad := by decide
  exact hall v hv

/-- A byte with a value is the symbol of this value. -/
theorem eq_symbol_of_value? {b : UInt8} {v : Nat} (h : value? b = some v) :
    v < 64 ∧ b = symbol v := by
  have hall : ∀ n < 256, (value? (UInt8.ofNat n)).all fun v =>
      decide (v < 64 ∧ UInt8.ofNat n = symbol v) := by
    decide +kernel
  have hb := hall b.toNat b.toNat_lt_size
  rw [UInt8.ofNat_toNat, h] at hb
  simpa using hb

theorem valueAt_eq_ok_iff {position : Nat} {b : UInt8} {v : Nat} :
    valueAt position b = .ok v ↔ v < 64 ∧ b = symbol v := by
  unfold valueAt
  constructor
  · intro h
    split at h
    · next v' hv' =>
      cases h
      exact eq_symbol_of_value? hv'
    · cases h
  · rintro ⟨hv, rfl⟩
    rw [value?_symbol hv]

/-! ## Groups -/

theorem values_lt (a b c : UInt8) : a.toNat / 4 < 64 ∧ a.toNat % 4 * 16 + b.toNat / 16 < 64 ∧
    b.toNat % 16 * 4 + c.toNat / 64 < 64 ∧ c.toNat % 64 < 64 := by
  have ha := a.toNat_lt
  have hb := b.toNat_lt
  have hc := c.toNat_lt
  omega

theorem values_of_two_lt (a b : UInt8) : a.toNat / 4 < 64 ∧
    a.toNat % 4 * 16 + b.toNat / 16 < 64 ∧ b.toNat % 16 * 4 < 64 :=
  ⟨(values_lt a b 0).1, (values_lt a b 0).2.1, (values_lt a b 0).2.2.1⟩

theorem values_of_one_lt (a : UInt8) : a.toNat / 4 < 64 ∧ a.toNat % 4 * 16 < 64 :=
  ⟨(values_lt a 0 0).1, (values_lt a 0 0).2.1⟩

/-- Three bytes are denoted by four values. -/
theorem join_values (a b c : UInt8) :
    join (a.toNat / 4) (a.toNat % 4 * 16 + b.toNat / 16) (b.toNat % 16 * 4 + c.toNat / 64)
      (c.toNat % 64) = [a, b, c] := by
  have ha := a.toNat_lt
  have hb := b.toNat_lt
  have hc := c.toNat_lt
  have hfirst : a.toNat / 4 * 4 + (a.toNat % 4 * 16 + b.toNat / 16) / 16 = a.toNat := by omega
  have hsecond : (a.toNat % 4 * 16 + b.toNat / 16) % 16 * 16 +
      (b.toNat % 16 * 4 + c.toNat / 64) / 4 = b.toNat := by omega
  have hthird : (b.toNat % 16 * 4 + c.toNat / 64) % 4 * 64 + c.toNat % 64 = c.toNat := by omega
  rw [join, hfirst, hsecond, hthird, UInt8.ofNat_toNat, UInt8.ofNat_toNat, UInt8.ofNat_toNat]

section Values

variable {va vb vc vd : Nat}

/-- Four values are those of the bytes that they denote. -/
theorem exists_join_eq (ha : va < 64) (hb : vb < 64) (hc : vc < 64) (hd : vd < 64) :
    ∃ a b c : UInt8, join va vb vc vd = [a, b, c] ∧ a.toNat / 4 = va ∧
      a.toNat % 4 * 16 + b.toNat / 16 = vb ∧ b.toNat % 16 * 4 + c.toNat / 64 = vc ∧
        c.toNat % 64 = vd := by
  have hfirst : (va * 4 + vb / 16) % 2 ^ 8 = va * 4 + vb / 16 := by omega
  have hsecond : (vb % 16 * 16 + vc / 4) % 2 ^ 8 = vb % 16 * 16 + vc / 4 := by omega
  have hthird : (vc % 4 * 64 + vd) % 2 ^ 8 = vc % 4 * 64 + vd := by omega
  refine ⟨_, _, _, rfl, ?_⟩
  rw [UInt8.toNat_ofNat', UInt8.toNat_ofNat', UInt8.toNat_ofNat', hfirst, hsecond, hthird]
  omega

/-- **The bytes that four values denote are written as these values.** -/
theorem encode_join_append (ha : va < 64) (hb : vb < 64) (hc : vc < 64) (hd : vd < 64)
    (bytes : List UInt8) : encode (join va vb vc vd ++ bytes) =
      symbol va :: symbol vb :: symbol vc :: symbol vd :: encode bytes := by
  obtain ⟨a, b, c, hjoin, hfirst, hsecond, hthird, hfourth⟩ := exists_join_eq ha hb hc hd
  rw [hjoin, List.cons_append, List.cons_append, List.singleton_append, encode, hfirst, hsecond,
    hthird, hfourth]

/-- Two bytes are written as the symbols of three values, the last of which has two bits left. -/
theorem encode_take_two_join (ha : va < 64) (hb : vb < 64) (hc : vc < 64) (hleft : vc % 4 = 0) :
    encode ((join va vb vc 0).take 2) = [symbol va, symbol vb, symbol vc, pad] := by
  obtain ⟨a, b, c, hjoin, hfirst, hsecond, hthird, -⟩ :=
    exists_join_eq ha hb hc (Nat.zero_lt_succ _)
  have hlast : b.toNat % 16 * 4 = vc := by
    have hc := c.toNat_lt
    omega
  rw [hjoin, List.take_succ_cons, List.take_succ_cons, List.take_zero, encode, hfirst, hsecond,
    hlast]

/-- One byte is written as the symbols of two values, the last of which has four bits left. -/
theorem encode_take_one_join (ha : va < 64) (hb : vb < 64) (hleft : vb % 16 = 0) :
    encode ((join va vb 0 0).take 1) = [symbol va, symbol vb, pad, pad] := by
  obtain ⟨a, b, c, hjoin, hfirst, hsecond, -, -⟩ :=
    exists_join_eq ha hb (Nat.zero_lt_succ _) (Nat.zero_lt_succ _)
  have hlast : a.toNat % 4 * 16 = vb := by
    have hb := b.toNat_lt
    omega
  rw [hjoin, List.take_succ_cons, List.take_zero, encode, hfirst, hlast]

end Values

/-! ## The last group -/

section LastGroup

variable {start i filling : Nat} {group bytes : List UInt8} {symbols : List (UInt8 × Nat)}

/-- The last group consists of symbols and filling. -/
theorem eq_append_of_lastGroup (h : lastGroup start i group = .ok (symbols, filling)) :
    group = symbols.map (fun p => symbol p.2) ++ List.replicate filling pad ∧
      ∀ p ∈ symbols, p.2 < 64 := by
  induction group generalizing i symbols filling with
  | nil =>
    cases h
    exact ⟨rfl, nofun⟩
  | cons b rest ih =>
    rw [lastGroup] at h
    split at h
    · next hpad =>
      split at h
      · next hfilling =>
        cases h
        have hrest : rest = List.replicate rest.length pad :=
          List.eq_replicate_of_mem (by simpa using hfilling.2)
        refine ⟨?_, nofun⟩
        rw [hpad, List.map_nil, List.nil_append, Nat.add_comm, List.replicate_succ, ← hrest]
      · cases h
    · obtain ⟨v, hv, h⟩ := bind_eq_ok_iff.1 h
      obtain ⟨⟨others, filling⟩, hothers, h⟩ := bind_eq_ok_iff.1 h
      cases h
      obtain ⟨hlt, rfl⟩ := valueAt_eq_ok_iff.1 hv
      obtain ⟨hrest, hall⟩ := ih hothers
      exact ⟨congrArg _ hrest, List.forall_mem_cons.2 ⟨hlt, hall⟩⟩

theorem lastGroup_symbol_cons {v : Nat} (hv : v < 64) : lastGroup start i (symbol v :: group) =
    (fun p => ((symbol v, v) :: p.1, p.2)) <$> lastGroup start (i + 1) group := by
  rw [lastGroup, if_neg (symbol_ne_pad hv), valueAt_eq_ok_iff.2 ⟨hv, rfl⟩]
  cases lastGroup start (i + 1) group <;> rfl

theorem eq_encode_of_decodeLast (h : decodeLast start group = .ok bytes) :
    group = encode bytes := by
  obtain ⟨⟨symbols, filling⟩, hgroup, hbytes⟩ := bind_eq_ok_iff.1 h
  obtain ⟨rfl, hall⟩ := eq_append_of_lastGroup hgroup
  dsimp only at hbytes
  -- Four symbols, three or two, each with the filling that belongs to it.
  split at hbytes
  · simp only [List.forall_mem_cons] at hall
    obtain ⟨ha, hb, hc, hd, -⟩ := hall
    cases hbytes
    exact (encode_join_append ha hb hc hd []).symm
  · simp only [List.forall_mem_cons] at hall
    obtain ⟨ha, hb, hc, -⟩ := hall
    split at hbytes
    · next hleft =>
      cases hbytes
      exact (encode_take_two_join ha hb hc hleft).symm
    · cases hbytes
  · simp only [List.forall_mem_cons] at hall
    obtain ⟨ha, hb, -⟩ := hall
    split at hbytes
    · next hleft =>
      cases hbytes
      exact (encode_take_one_join ha hb hleft).symm
    · cases hbytes
  · split at hbytes <;> cases hbytes

/-- Filling alone is read where a group may end. -/
theorem lastGroup_replicate_pad (hi : 2 ≤ i) (filling : Nat) :
    lastGroup start i (List.replicate filling pad) = .ok ([], filling) := by
  cases filling with
  | zero => rfl
  | succ filling =>
    have hall : (List.replicate filling pad).all (· == pad) := by simp
    rw [List.replicate_succ, lastGroup, if_pos rfl, if_pos ⟨hi, hall⟩, List.length_replicate,
      Nat.add_comm]

/-! What is written for three bytes or fewer is read as a last group. -/

theorem decodeLast_encode_one (start : Nat) (a : UInt8) :
    decodeLast start (encode [a]) = .ok [a] := by
  obtain ⟨hfirst, hsecond⟩ := values_of_one_lt a
  have hleft : a.toNat % 4 * 16 % 16 = 0 := by omega
  have hfilling : lastGroup start (0 + 1 + 1) [pad, pad] = .ok ([], 2) :=
    lastGroup_replicate_pad (Nat.le_refl 2) 2
  have hjoin : (join (a.toNat / 4) (a.toNat % 4 * 16) 0 0).take 1 = [a] :=
    congrArg (List.take 1) (join_values a 0 0)
  unfold decodeLast encode
  rw [lastGroup_symbol_cons hfirst, lastGroup_symbol_cons hsecond, hfilling]
  refine bind_eq_ok_iff.2 ⟨_, rfl, ?_⟩
  show (if a.toNat % 4 * 16 % 16 = 0 then Except.ok (List.take 1 _) else _) = _
  rw [if_pos hleft, hjoin]

theorem decodeLast_encode_two (start : Nat) (a b : UInt8) :
    decodeLast start (encode [a, b]) = .ok [a, b] := by
  obtain ⟨hfirst, hsecond, hthird⟩ := values_of_two_lt a b
  have hleft : b.toNat % 16 * 4 % 4 = 0 := by omega
  have hfilling : lastGroup start (0 + 1 + 1 + 1) [pad] = .ok ([], 1) :=
    lastGroup_replicate_pad (by decide) 1
  have hjoin : (join (a.toNat / 4) (a.toNat % 4 * 16 + b.toNat / 16) (b.toNat % 16 * 4) 0).take 2 =
      [a, b] := congrArg (List.take 2) (join_values a b 0)
  unfold decodeLast encode
  rw [lastGroup_symbol_cons hfirst, lastGroup_symbol_cons hsecond, lastGroup_symbol_cons hthird,
    hfilling]
  refine bind_eq_ok_iff.2 ⟨_, rfl, ?_⟩
  show (if b.toNat % 16 * 4 % 4 = 0 then Except.ok (List.take 2 _) else _) = _
  rw [if_pos hleft, hjoin]

theorem decodeLast_encode_three (start : Nat) (a b c : UInt8) :
    decodeLast start (encode [a, b, c]) = .ok [a, b, c] := by
  obtain ⟨hfirst, hsecond, hthird, hfourth⟩ := values_lt a b c
  unfold decodeLast encode
  rw [lastGroup_symbol_cons hfirst, lastGroup_symbol_cons hsecond, lastGroup_symbol_cons hthird,
    lastGroup_symbol_cons hfourth]
  refine bind_eq_ok_iff.2 ⟨_, rfl, ?_⟩
  exact congrArg Except.ok (join_values a b c)

end LastGroup

/-! ## Whole texts -/

section Texts

variable {start : Nat} {text bytes : List UInt8}

theorem encode_eq_nil_iff : encode bytes = [] ↔ bytes = [] := by
  constructor
  · intro h
    unfold encode at h
    split at h <;> trivial
  · rintro rfl
    rfl

theorem length_encode_mod_four (bytes : List UInt8) : (encode bytes).length % 4 = 0 := by
  fun_induction encode bytes with
  | case1 a b c rest ih =>
    simp only [List.length_cons]
    omega
  | case2 => simp only [List.length_cons, List.length_nil]
  | case3 => simp only [List.length_cons, List.length_nil]
  | case4 => rfl

/-- What is read is what is written: group by group, the last one included. -/
theorem eq_encode_of_decodeFrom (h : decodeFrom start text = .ok bytes) : text = encode bytes := by
  induction start, text using decodeFrom.induct generalizing bytes with
  | case1 start =>
    cases h
    rfl
  | case2 start a b c d e rest ih =>
    rw [decodeFrom] at h
    obtain ⟨va, hreadA, h⟩ := bind_eq_ok_iff.1 h
    obtain ⟨vb, hreadB, h⟩ := bind_eq_ok_iff.1 h
    obtain ⟨vc, hreadC, h⟩ := bind_eq_ok_iff.1 h
    obtain ⟨vd, hreadD, h⟩ := bind_eq_ok_iff.1 h
    obtain ⟨others, hothers, h⟩ := bind_eq_ok_iff.1 h
    cases h
    obtain ⟨ha, rfl⟩ := valueAt_eq_ok_iff.1 hreadA
    obtain ⟨hb, rfl⟩ := valueAt_eq_ok_iff.1 hreadB
    obtain ⟨hc, rfl⟩ := valueAt_eq_ok_iff.1 hreadC
    obtain ⟨hd, rfl⟩ := valueAt_eq_ok_iff.1 hreadD
    rw [encode_join_append ha hb hc hd, ih hothers]
  | case3 start group hne hshort =>
    rw [decodeFrom] at h
    · exact eq_encode_of_decodeLast h
    · exact hne
    · exact hshort

/-- What is written is read. -/
theorem decodeFrom_encode (start : Nat) (bytes : List UInt8) :
    decodeFrom start (encode bytes) = .ok bytes := by
  induction bytes using encode.induct generalizing start with
  | case1 a b c rest ih =>
    obtain ⟨hfirst, hsecond, hthird, hfourth⟩ := values_lt a b c
    -- The group is the last one if nothing is written behind it.
    cases hrest : encode rest with
    | nil =>
      obtain rfl := encode_eq_nil_iff.1 hrest
      exact decodeLast_encode_three start a b c
    | cons e others =>
      have hothers := ih (start + 4)
      rw [hrest] at hothers
      rw [encode, hrest, decodeFrom, valueAt_eq_ok_iff.2 ⟨hfirst, rfl⟩,
        valueAt_eq_ok_iff.2 ⟨hsecond, rfl⟩, valueAt_eq_ok_iff.2 ⟨hthird, rfl⟩,
        valueAt_eq_ok_iff.2 ⟨hfourth, rfl⟩, hothers]
      exact congrArg (fun group => Except.ok (group ++ rest)) (join_values a b c)
  | case2 a b => exact decodeLast_encode_two start a b
  | case3 a => exact decodeLast_encode_one start a
  | case4 => rfl

/-- **A text is read as some bytes exactly if it is what is written for them.** -/
theorem decode_eq_ok_iff : decode text = .ok bytes ↔ text = encode bytes := by
  unfold decode
  constructor
  · intro h
    split at h
    · split at h
      · cases h
      · exact eq_encode_of_decodeFrom h
    · next hnone =>
      cases h
      exact List.getLast?_eq_none_iff.1 hnone
  · rintro rfl
    split
    · have hlength := length_encode_mod_four bytes
      rw [if_neg (by omega)]
      exact decodeFrom_encode 0 bytes
    · next hnone =>
      have hnil := encode_eq_nil_iff.1 (List.getLast?_eq_none_iff.1 hnone)
      rw [hnil]

end Texts

/-! ## Base64 among characters -/

/-- What holds of all symbols and of filling holds of all that is written. -/
theorem forall_mem_encode {P : UInt8 → Prop} (hsymbol : ∀ v < 64, P (symbol v)) (hpad : P pad)
    (bytes : List UInt8) : ∀ b ∈ encode bytes, P b := by
  fun_induction encode bytes with
  | case1 a b c rest ih =>
    obtain ⟨hfirst, hsecond, hthird, hfourth⟩ := values_lt a b c
    simp only [List.forall_mem_cons]
    exact ⟨hsymbol _ hfirst, hsymbol _ hsecond, hsymbol _ hthird, hsymbol _ hfourth, ih⟩
  | case2 a b =>
    obtain ⟨hfirst, hsecond, hthird⟩ := values_of_two_lt a b
    simp only [List.forall_mem_cons]
    exact ⟨hsymbol _ hfirst, hsymbol _ hsecond, hsymbol _ hthird, hpad, nofun⟩
  | case3 a =>
    obtain ⟨hfirst, hsecond⟩ := values_of_one_lt a
    simp only [List.forall_mem_cons]
    exact ⟨hsymbol _ hfirst, hsymbol _ hsecond, hpad, hpad, nofun⟩
  | case4 => nofun

/-- **A text of characters is read as some bytes exactly if it is what is written for them.** -/
theorem decode_utf8_eq_ok_iff {cs : List Char} {bytes : List UInt8} :
    decode (utf8 cs) = .ok bytes ↔ cs = (encode bytes).map Char.ofUInt8 := by
  rw [decode_eq_ok_iff]
  exact utf8_eq_iff (forall_mem_encode (by decide) (by decide) bytes)

/-- Neither white space nor a dash is ever written. -/
theorem not_blank_of_mem_encode (bytes : List UInt8) :
    ∀ c ∈ (encode bytes).map Char.ofUInt8, isBlank c = false ∧ c ≠ '-' := by
  intro c hc
  obtain ⟨b, hb, rfl⟩ := List.mem_map.1 hc
  have hall : ∀ b ∈ encode bytes, isBlank (Char.ofUInt8 b) = false ∧ Char.ofUInt8 b ≠ '-' :=
    forall_mem_encode (by decide) (by decide) bytes
  exact hall b hb

end TrustSchema.Text.Base64
