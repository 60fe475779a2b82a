import TrustSchema.Proofs.Policy.Identity

/-!
# Which signers a hierarchical checker lets through

A hierarchical checker finds the identity behind the key that a packet names, and wants it to lead
the name of the packet. The identity is cut off the name of the key in one of two ways: before the
first `KEY`, or in front of the last component where there is no `KEY`. Told without searching or
cutting, the name of the key is the identity with something behind it (`Name.Owns`), and this
determines the identity (`Name.keyOwner?_eq_some_iff`).

The root name would lead everything, so it must not come out as an identity. It is what would be
left of a name that begins with `KEY`, of a name with one component, and of the root name itself,
which has nothing that could be cut off. None of them belongs to anyone, and packets signed with
them are refused like all others that are not let through (`Checker.hierarchical_exact`).
-/

namespace TrustSchema

namespace Name

variable {identity keyName : Name}

/-- A key name is made from an identity. -/
inductive Owns (identity keyName : Name) : Prop
  /-- `KEY` follows, for the first time, and then anything. -/
  | marked {rest : List Component} (unmarked : ¬ identity.IsMarked)
      (made : keyName.components = identity.components ++ Component.keyMarker :: rest)
  /-- One component follows, and there is no `KEY` anywhere. -/
  | plain {last : Component} (unmarked : ¬ keyName.IsMarked)
      (made : keyName.components = identity.components ++ [last])

/-- Where there is a `KEY`, the identity is what stands before the first one. -/
theorem IsMarked.owns_iff (h : keyName.IsMarked) :
    identity.Owns keyName ↔ keyName.beforeMarker = identity := by
  constructor
  · rintro (⟨unmarked, made⟩ | ⟨unmarked, -⟩)
    · exact beforeMarker_eq_of_split made unmarked
    · exact absurd h unmarked
  · rintro rfl
    obtain ⟨before, rest, hsplit, hbefore⟩ := h.exists_split
    have made : keyName.components =
        keyName.beforeMarker.components ++ Component.keyMarker :: rest := by
      rw [beforeMarker_eq_of_split hsplit hbefore, hsplit]
    exact .marked keyName.not_isMarked_beforeMarker made

/-- Where there is no `KEY`, the identity lacks the last component, so there has to be one. -/
theorem owns_iff_of_not_isMarked (h : ¬ keyName.IsMarked) :
    identity.Owns keyName ↔ keyName ≠ .root ∧ keyName.parent = identity := by
  constructor
  · rintro (⟨-, made⟩ | ⟨-, made⟩)
    · exact absurd (show Component.keyMarker ∈ keyName.components by simp [made]) h
    · refine ⟨?_, ?_⟩
      · rintro rfl
        exact absurd made.symm (List.append_ne_nil_of_right_ne_nil _ (List.cons_ne_nil _ _))
      · rw [parent, made, List.dropLast_concat]
  · rintro ⟨hne, rfl⟩
    have hcomponents : keyName.components ≠ [] := fun hnil => hne (congrArg Name.mk hnil)
    exact .plain h (List.dropLast_concat_getLast hcomponents).symm

theorem isEmpty_iff {n : Name} : n.isEmpty ↔ n = .root := by
  cases n
  simp [isEmpty, root]

/-- A key name without `KEY` belongs to its parent, unless this is the root name. -/
theorem keyOwner?_eq_of_not_isMarked (h : ¬ keyName.IsMarked) :
    keyName.keyOwner? = if keyName.parent.isEmpty then none else some keyName.parent := by
  have hindex : keyName.components.idxOf? Component.keyMarker = none := List.idxOf?_eq_none_iff.2 h
  rw [keyOwner?, hindex]

/-- **The owner of a key is the identity that its name is made from**, unless this is the root
name. -/
theorem keyOwner?_eq_some_iff :
    keyName.keyOwner? = some identity ↔ identity ≠ .root ∧ identity.Owns keyName := by
  by_cases h : keyName.IsMarked
  · rw [h.keyOwner?_eq, h.owns_iff, Option.ite_none_left_eq_some, isEmpty_iff]
    constructor
    · rintro ⟨hne, hsome⟩
      cases hsome
      exact ⟨hne, rfl⟩
    · rintro ⟨hne, rfl⟩
      exact ⟨hne, rfl⟩
  · rw [keyOwner?_eq_of_not_isMarked h, owns_iff_of_not_isMarked h, Option.ite_none_left_eq_some,
      isEmpty_iff]
    constructor
    · rintro ⟨hne, hsome⟩
      cases hsome
      refine ⟨hne, ?_, rfl⟩
      -- The root name is its own parent, and this is not the root name.
      rintro rfl
      exact hne rfl
    · rintro ⟨hne, -, rfl⟩
      exact ⟨hne, rfl⟩

end Name

namespace Checker

variable {keyName n : Name}

/-- Who is in charge of a name: the identities that lead it. -/
theorem isAncestor_iff_exists_owns : isAncestor keyName n ↔
    ∃ identity : Name, identity ≠ .root ∧ identity.isPrefixOf n ∧ identity.Owns keyName := by
  unfold isAncestor
  rw [Option.any_eq_true]
  constructor
  · rintro ⟨identity, howner, hleads⟩
    obtain ⟨hne, howns⟩ := Name.keyOwner?_eq_some_iff.1 howner
    exact ⟨identity, hne, hleads, howns⟩
  · rintro ⟨identity, hne, hleads, howns⟩
    exact ⟨identity, Name.keyOwner?_eq_some_iff.2 ⟨hne, howns⟩, hleads⟩

variable {v : Verifier} {p : SignedPacket} {t : SignatureType}

/-- What a hierarchical checker says of a packet that names a key. -/
theorem check_hierarchical (located : p.keyLocator = some keyName) :
    (Checker.hierarchical t).check v p =
      if isAncestor keyName p.signedName then .undecided
      else .reject (.keyLocatorRejected keyName p.signedName) := by
  unfold check
  rw [located]

/-- **A hierarchical checker lets exactly the intended signers through.** Take any packet.

- If it names a key, the signer is acceptable exactly if there is a name other than the root name
  that leads the signed name of the packet, component by component, and that the name of the key is
  made from: with `KEY` behind it, for the first time, and then anything; or with one component
  behind it, if there is no `KEY` anywhere. In every other case the key locator is rejected.
- If the packet names no key, it is rejected for this.
- It is never accepted outright. -/
theorem hierarchical_exact (t : SignatureType) (v : Verifier) (p : SignedPacket) :
    (∀ keyName, p.keyLocator = some keyName →
      ((Checker.hierarchical t).check v p = .undecided ↔ ∃ identity : Name, identity ≠ .root ∧
        (∃ rest, p.signedName.components = identity.components ++ rest) ∧
          identity.Owns keyName) ∧
      ((Checker.hierarchical t).check v p ≠ .undecided →
        (Checker.hierarchical t).check v p =
          .reject (.keyLocatorRejected keyName p.signedName))) ∧
    (p.keyLocator = none →
      (Checker.hierarchical t).check v p = .reject (.missingKeyLocator p.signedName)) ∧
    (Checker.hierarchical t).check v p ≠ .accept := by
  refine ⟨fun keyName located => ?_, fun unlocated => ?_, ?_⟩
  · rw [check_hierarchical located]
    simp only [← Name.isPrefixOf_iff]
    rw [← isAncestor_iff_exists_owns]
    split
    · next hancestor => exact ⟨iff_of_true rfl hancestor, fun hne => absurd rfl hne⟩
    · next hancestor => exact ⟨iff_of_false nofun hancestor, fun _ => rfl⟩
  · unfold check
    rw [unlocated]
  · cases hlocator : p.keyLocator with
    | none =>
      unfold check
      rw [hlocator]
      nofun
    | some keyName =>
      rw [check_hierarchical hlocator]
      split <;> nofun

end Checker

namespace Sample

def anyKey : Checker := .hierarchical .ecdsaSha256

/-- No signature is good. The checker leaves this open. -/
def mistrustful : Verifier := ⟨fun _ _ => true, fun _ _ _ => false⟩

/-- A packet `/a/b/c` that is signed with a key. -/
def post (keyLocator : Option Name) : SignedPacket :=
  .data ⟨⟨[⟨[97]⟩, ⟨[98]⟩, ⟨[99]⟩]⟩, [], ⟨⟨.ecdsaSha256, keyLocator⟩, []⟩⟩

/-- The key `/a/b/KEY/%01`, one without `KEY`, and one that begins with it. -/
def markedKey : Name := ⟨[⟨[97]⟩, ⟨[98]⟩, .keyMarker, ⟨[1]⟩]⟩

def plainKey : Name := ⟨[⟨[97]⟩, ⟨[1]⟩]⟩

def ownerlessKey : Name := ⟨[.keyMarker, ⟨[1]⟩]⟩

/-- The owners `/a/b` and `/a` of the first two keys may sign the packet. Nobody owns the third key,
or a key without a name. -/
theorem post_signers :
    anyKey.check mistrustful (post (some markedKey)) = .undecided ∧
      anyKey.check mistrustful (post (some plainKey)) = .undecided ∧
      anyKey.check mistrustful (post (some ownerlessKey)) =
        .reject (.keyLocatorRejected ownerlessKey (post none).signedName) ∧
      anyKey.check mistrustful (post (some .root)) =
        .reject (.keyLocatorRejected .root (post none).signedName) ∧
      anyKey.check mistrustful (post none) =
        .reject (.missingKeyLocator (post none).signedName) := by
  have hexact := fun keyLocator =>
    Checker.hierarchical_exact .ecdsaSha256 mistrustful (post keyLocator)
  refine ⟨?_, ?_, ?_, ?_, ?_⟩
  · refine ((hexact (some markedKey)).1 markedKey rfl).1.2 ⟨⟨[⟨[97]⟩, ⟨[98]⟩]⟩, nofun, ⟨_, rfl⟩, ?_⟩
    exact .marked (by decide) rfl
  · refine ((hexact (some plainKey)).1 plainKey rfl).1.2 ⟨⟨[⟨[97]⟩]⟩, nofun, ⟨_, rfl⟩, ?_⟩
    exact .plain (by decide) rfl
  · exact ((hexact (some ownerlessKey)).1 ownerlessKey rfl).2 (by decide)
  · exact ((hexact (some .root)).1 .root rfl).2 (by decide)
  · exact (hexact none).2.1 rfl

end Sample

end TrustSchema
