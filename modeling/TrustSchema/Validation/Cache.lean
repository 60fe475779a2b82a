import TrustSchema.Certificate.Keyring

/-!
# The certificate cache

Certificates that have been verified are kept by key name, so that later packets signed with the
same key need no new fetch. A cache whose entries live no time at all, or that has room for none,
keeps nothing. Otherwise entries are taken to stay: nothing here depends on how long they live or on
which entries give way when the room is used up.
-/

namespace TrustSchema

/-- Verified certificates. -/
structure Cache where
  /-- Whether anything is kept. -/
  retains : Bool
  ring : Keyring

/-- Why a cache cannot be set up. -/
inductive Cache.LimitError
  /-- Entries are to live longer than a thousand years. -/
  | lifetimeTooLong
  deriving DecidableEq

/-- The wording of the error. -/
def Cache.LimitError.message : LimitError → String
  | .lifetimeTooLong => "time_to_live is longer than 1000 years"

namespace Cache

/-- An empty cache that keeps what is put into it. -/
def empty : Cache := ⟨true, .empty⟩

/-- The longest lifetime of entries, in seconds: a thousand years of 365 days. -/
def longestLifetime : Nat := 1000 * 365 * 24 * 3600

/-- An empty cache whose entries live so many seconds, with room for so many of them. -/
def ofLimits (lifetime capacity : Nat) : Except LimitError Cache :=
  if longestLifetime < lifetime then .error .lifetimeTooLong
  else .ok ⟨lifetime != 0 && capacity != 0, .empty⟩

/-- Puts a certificate into the cache, in place of any with the same key name. -/
def insert (cache : Cache) (c : Certificate) : Cache :=
  if cache.retains then { cache with ring := cache.ring.insert c } else cache

/-- Drops the certificate with a key name. -/
def erase (cache : Cache) (keyName : Name) : Cache :=
  { cache with ring := cache.ring.erase keyName }

/-- Looks up the certificate with a key name. One outside of its validity period is dropped. -/
def lookup (cache : Cache) (now : Instant) (keyName : Name) :
    Option Certificate × Cache :=
  match cache.ring.find? keyName with
  | none => (none, cache)
  | some c => if c.isValidAt now then (some c, cache) else (none, cache.erase keyName)

/-- The number of certificates. -/
def size (cache : Cache) : Nat := cache.ring.size

/-! ## What a cache holds

The view of a cache is the certificates in it: `c ∈ cache` says that `c` is found under its own key
name. -/

instance : Membership Certificate Cache := ⟨fun cache c => cache.ring.find? c.keyName = some c⟩

theorem mem_of_find? {cache : Cache} {n : Name} {c : Certificate}
    (h : cache.ring.find? n = some c) : c ∈ cache := by
  show cache.ring.find? c.keyName = some c
  rw [Keyring.keyName_of_find? h, h]

theorem not_mem_of_empty {cache : Cache} {c : Certificate} (h : cache.ring = .empty) :
    c ∉ cache := by
  intro hc
  have hfound : cache.ring.find? c.keyName = some c := hc
  rw [h] at hfound
  cases hfound

/-- What is left after an entry is dropped was there before. -/
theorem mem_of_mem_erase {cache : Cache} {n : Name} {c : Certificate}
    (h : c ∈ cache.erase n) : c ∈ cache := by
  have hfound : (cache.ring.erase n).find? c.keyName = some c := h
  rw [Keyring.find?_erase] at hfound
  split at hfound
  · cases hfound
  · exact hfound

/-- An insertion adds nothing but the certificate that is inserted. -/
theorem eq_or_mem_of_mem_insert {cache : Cache} {c d : Certificate}
    (h : d ∈ cache.insert c) : d = c ∨ d ∈ cache := by
  unfold insert at h
  split at h
  · have hfound : (cache.ring.insert c).find? d.keyName = some d := h
    rw [Keyring.find?_insert] at hfound
    split at hfound
    · exact Or.inl (Option.some.inj hfound).symm
    · exact Or.inr hfound
  · exact Or.inr h

/-- A certificate is found exactly when it is held and valid, and finding it changes nothing. -/
theorem lookup_eq_some_iff {cache cache' : Cache} {now : Instant} {n : Name} {c : Certificate} :
    cache.lookup now n = (some c, cache') ↔
      cache.ring.find? n = some c ∧ c.isValidAt now ∧ cache' = cache := by
  unfold lookup
  split
  · next hnone => simp [hnone]
  · next d hsome =>
    rw [hsome]
    split
    · next hvalid =>
      constructor
      · rintro ⟨⟩
        exact ⟨rfl, hvalid, rfl⟩
      · rintro ⟨⟨⟩, -, rfl⟩
        rfl
    · next hvalid =>
      constructor
      · rintro ⟨⟩
      · rintro ⟨⟨⟩, h, -⟩
        exact absurd h hvalid

/-- A look-up adds nothing. -/
theorem mem_of_mem_lookup {cache : Cache} {now : Instant} {n : Name} {c : Certificate}
    (h : c ∈ (cache.lookup now n).2) : c ∈ cache := by
  unfold lookup at h
  split at h
  · exact h
  · split at h
    · exact h
    · exact mem_of_mem_erase h

end Cache

end TrustSchema
