import BootServer.Proofs.Net.HardwareAddress
import BootServer.Proofs.Store.File
import BootServer.Proofs.Text.Blank

/-! The two lookups of a file store. Where the keys of a file name addresses, each another one, the
record found under an address is the one that has a key for it, in any spelling, and the client found
by an allocated address is found by its hardware address as well, with the same record. Where a key
names no address, the file is refused by all lookups that read it. -/
namespace BootServer

/-! ## Keys -/

namespace Text.Hex

variable {c : Char}

theorem toNat_of_value? (h : (value? c).isSome = true) : 0x30 ≤ c.toNat ∧ c.toNat ≤ 0x66 := by
  have hnat : c.toNat = c.val.toNat := rfl
  simp only [value?, Char.isDigit, ge_iff_le, Bool.and_eq_true, decide_eq_true_eq, Char.le_def,
    UInt32.le_iff_toNat_le] at h
  split at h
  · next hc =>
    change 0x30 ≤ c.val.toNat ∧ c.val.toNat ≤ 0x39 at hc
    omega
  · split at h
    · next hc =>
      change 0x61 ≤ c.val.toNat ∧ c.val.toNat ≤ 0x66 at hc
      omega
    · split at h
      · next hc =>
        change 0x41 ≤ c.val.toNat ∧ c.val.toNat ≤ 0x46 at hc
        omega
      · cases h

theorem not_isBlank_of_value? (h : (value? c).isSome = true) : isBlank c = false := by
  obtain ⟨hfirst, hlast⟩ := toNat_of_value? h
  rw [← Bool.not_eq_true]
  intro hblank
  simp only [isBlank, Bool.or_eq_true, Bool.and_eq_true, decide_eq_true_eq] at hblank
  omega

end Text.Hex

namespace HardwareAddress

variable {d c : Char} {l : List Char} {os : Octets}

theorem not_isBlank_of_isDelimiter (hd : isDelimiter d = true) : Text.isBlank d = false := by
  rcases isDelimiter_iff.1 hd with rfl | rfl | rfl <;> decide

theorem Spelled.not_isBlank (hd : isDelimiter d = true) (h : Spelled d l os) :
    ∀ c ∈ l, Text.isBlank c = false := by
  induction h with
  | nil => simp
  | bare ho _ ih =>
    obtain ⟨hx, hy⟩ := digits_of_octet? ho
    simp only [List.forall_mem_cons]
    exact ⟨Text.Hex.not_isBlank_of_value? hx, Text.Hex.not_isBlank_of_value? hy, ih⟩
  | delimited ho _ ih =>
    obtain ⟨hx, hy⟩ := digits_of_octet? ho
    simp only [List.forall_mem_cons]
    exact ⟨not_isBlank_of_isDelimiter hd, Text.Hex.not_isBlank_of_value? hx,
      Text.Hex.not_isBlank_of_value? hy, ih⟩

theorem Spelled.ne_nil {m : HardwareAddress} (h : Spelled d l m.octets) : l ≠ [] := by
  intro hl
  rw [hl] at h
  cases h

end HardwareAddress

namespace FileStore

/-- A spelling of the address, with blanks around it or without. -/
def Names (key : String) (mac : HardwareAddress) : Prop :=
  ∃ before spelling after d, key.toList = before ++ spelling ++ after ∧
    (∀ c ∈ before ++ after, Text.isBlank c = true) ∧ HardwareAddress.isDelimiter d = true ∧
    HardwareAddress.Spelled d spelling mac.octets

variable {pair : String × Record} {mac mac' : HardwareAddress} {r : Record} {key : String}

theorem named?_eq_some_iff : named? pair = some mac ↔ Names pair.1 mac := by
  rw [named?, HardwareAddress.parse?_eq_some_iff]
  constructor
  · intro h
    obtain ⟨d, hd, hspelled⟩ := h
    obtain ⟨before, after, hkey, hblank⟩ := Text.exists_trimWhile Text.isBlank pair.1
    exact ⟨before, _, after, d, hkey, hblank, hd, hspelled⟩
  · intro h
    obtain ⟨before, spelling, after, d, hkey, hblank, hd, hspelled⟩ := h
    refine ⟨d, hd, ?_⟩
    rw [Text.trim, Text.trimWhile_between hkey hblank hspelled.ne_nil (hspelled.not_isBlank hd),
      String.toList_ofList]
    exact hspelled

theorem named?_eq_none_iff : named? pair = none ↔ ∀ mac, ¬ Names pair.1 mac := by
  rw [Option.eq_none_iff_forall_ne_some]
  exact forall_congr' fun mac => not_congr named?_eq_some_iff

/-! ## Records with keys of their own -/

/-- The keys name addresses, and no two of them one address. -/
structure Distinct (pairs : List (String × Record)) : Prop where
  named : ∀ pair ∈ pairs, ∃ mac, Names pair.1 mac
  pairwise : pairs.Pairwise fun pair pair' => ∀ mac, Names pair.1 mac → ¬ Names pair'.1 mac

variable {pairs : List (String × Record)} {table : Entries}

theorem mem_refused : key ∈ refused pairs ↔
    (∃ r, (key, r) ∈ pairs) ∧ ∀ mac, ¬ Names key mac := by
  simp only [refused, List.mem_map, List.mem_filter, decide_eq_true_eq, named?_eq_none_iff]
  constructor
  · intro h
    obtain ⟨pair, ⟨hpair, hmac⟩, hkey⟩ := h
    rw [hkey] at hmac
    exact ⟨⟨pair.2, hkey ▸ hpair⟩, hmac⟩
  · intro h
    obtain ⟨⟨r, hpair⟩, hmac⟩ := h
    exact ⟨(key, r), ⟨hpair, hmac⟩, rfl⟩

theorem mem_entries_iff : (mac, r) ∈ entries pairs ↔ ∃ key, Names key mac ∧ (key, r) ∈ pairs := by
  simp only [mem_entries, named?_eq_some_iff]
  constructor
  · intro h
    obtain ⟨pair, hpair, hmac, hr⟩ := h
    exact ⟨pair.1, hmac, hr ▸ hpair⟩
  · intro h
    obtain ⟨key, hmac, hpair⟩ := h
    exact ⟨(key, r), hpair, hmac, rfl⟩

theorem nodup_entries_iff : ((entries pairs).map (·.1)).Nodup ↔
    pairs.Pairwise fun pair pair' => ∀ mac, Names pair.1 mac → ¬ Names pair'.1 mac := by
  simp only [List.Nodup, List.pairwise_map, entries, List.pairwise_filterMap,
    Option.map_eq_some_iff, ← named?_eq_some_iff]
  refine List.Pairwise.iff fun {pair pair'} => ?_
  constructor
  · intro h mac hmac hmac'
    exact h _ ⟨mac, hmac, rfl⟩ _ ⟨mac, hmac', rfl⟩ rfl
  · intro h e he e' he' hsame
    obtain ⟨mac, hmac, rfl⟩ := he
    obtain ⟨mac', hmac', rfl⟩ := he'
    exact h mac hmac ((show mac = mac' from hsame) ▸ hmac')

theorem distinct_iff : Distinct pairs ↔
    refused pairs = [] ∧ ((entries pairs).map (·.1)).Nodup := by
  rw [nodup_entries_iff, List.eq_nil_iff_forall_not_mem]
  constructor
  · intro h
    refine ⟨fun key hkey => ?_, h.pairwise⟩
    obtain ⟨⟨r, hpair⟩, hnone⟩ := mem_refused.1 hkey
    obtain ⟨mac, hmac⟩ := h.named _ hpair
    exact hnone mac hmac
  · intro h
    refine ⟨fun pair hpair => ?_, h.2⟩
    have hnamed := fun hnone => h.1 pair.1 (mem_refused.2 ⟨⟨pair.2, hpair⟩, hnone⟩)
    exact Classical.not_forall_not.1 hnamed

/-- Where no two entries are for one address, all of them are in the table. -/
theorem IsTable.mem_iff {all : Entries} (h : IsTable all table) (hall : (all.map (·.1)).Nodup)
    {e : HardwareAddress × Record} : e ∈ table ↔ e ∈ all := by
  constructor
  · intro he
    exact h.subset he
  · intro he
    obtain ⟨e', he', hkey⟩ := List.mem_map.1 (h.complete e he)
    rwa [← List.inj_on_of_nodup_map hall (h.subset he') he hkey]

/-! ## Answers -/

variable {s : FileStore}

/-- The load is refused for a key that names no address. -/
def Refuses {α : Type} (pairs : List (String × Record)) (result : Except LookupError α) : Prop :=
  ∃ key r, (key, r) ∈ pairs ∧ (∀ mac, ¬ Names key mac) ∧ result = .error (.invalidKey key)

/-- What the answers of a store say of its records. Two questions may be answered by two walks. -/
structure Coherent (s : FileStore) (pairs : List (String × Record)) : Prop where
  lookup_some : ∀ w mac r, (s.walked w).lookup mac = .ok (some r) ↔
    ∃ key, Names key mac ∧ (key, r) ∈ pairs
  lookup_none : ∀ w mac, (s.walked w).lookup mac = .ok none ↔
    ∀ pair ∈ pairs, ¬ Names pair.1 mac
  found : ∀ w w' ip mac r, (s.walked w).lookupByAddress ip = .ok (some (mac, r)) →
    r.lease.address.map .v4 = some ip ∧ (s.walked w').lookup mac = .ok (some r)
  answered : ∀ w ip, ∃ found, (s.walked w).lookupByAddress ip = .ok found
  not_found : ∀ w ip, (s.walked w).lookupByAddress ip = .ok none ↔
    ∀ pair ∈ pairs, pair.2.lease.address.map .v4 ≠ some ip

theorem load_cases (hs : s.keyed = .ok pairs) (w : Walk) :
    (∃ key ∈ refused pairs, (s.walked w).load = .error (.invalidKey key)) ∨
      refused pairs = [] ∧ ∃ table, (s.walked w).load = .ok table ∧
        IsTable (entries pairs) table := by
  have hload : (s.walked w).load = readWith w pairs := by
    rw [load_walked, hs]
    rfl
  rw [hload]
  generalize hresult : readWith w pairs = result
  have houtcome := outcome_readWith w pairs
  rw [hresult] at houtcome
  cases houtcome with
  | refusal hkey => exact .inl ⟨_, hkey, rfl⟩
  | table hrefused htable => exact .inr ⟨hrefused, _, rfl, htable⟩

theorem Distinct.load (h : Distinct pairs) (hs : s.keyed = .ok pairs) (w : Walk) :
    ∃ table, (s.walked w).load = .ok table ∧ IsTable (entries pairs) table ∧
      ∀ e, e ∈ table ↔ e ∈ entries pairs := by
  obtain ⟨hrefused, hnodup⟩ := distinct_iff.1 h
  rcases load_cases hs w with ⟨key, hkey, _⟩ | ⟨_, table, hload, htable⟩
  · exact absurd hkey (hrefused ▸ List.not_mem_nil)
  · exact ⟨table, hload, htable, fun e => htable.mem_iff hnodup⟩

theorem lookup_of_load (h : s.load = .ok table) : s.lookup mac = .ok (table.byHardware mac) := by
  rw [lookup, h]
  rfl

theorem lookupByAddress_of_load (h : s.load = .ok table) (ip : IpAddress) :
    s.lookupByAddress ip = .ok (table.byAddress ip) := by
  cases ip with
  | v4 ip =>
    rw [lookupByAddress, h]
    rfl
  | v6 ip => rfl

theorem Distinct.lookup_eq_some_iff (h : Distinct pairs) (hs : s.keyed = .ok pairs) (w : Walk) :
    (s.walked w).lookup mac = .ok (some r) ↔ ∃ key, Names key mac ∧ (key, r) ∈ pairs := by
  obtain ⟨table, hload, htable, hmem⟩ := h.load hs w
  rw [lookup_of_load hload, Except.ok.injEq, htable.byHardware_eq_some_iff, hmem, mem_entries_iff]

theorem Distinct.lookup_eq_none_iff (h : Distinct pairs) (hs : s.keyed = .ok pairs) (w : Walk) :
    (s.walked w).lookup mac = .ok none ↔ ∀ pair ∈ pairs, ¬ Names pair.1 mac := by
  obtain ⟨table, hload, htable, hmem⟩ := h.load hs w
  rw [lookup_of_load hload, Except.ok.injEq, Option.eq_none_iff_forall_ne_some]
  constructor
  · intro hnone pair hpair hmac
    refine hnone pair.2 (htable.byHardware_eq_some_iff.2 ((hmem _).2 (mem_entries_iff.2 ?_)))
    exact ⟨pair.1, hmac, hpair⟩
  · intro hnone r hr
    have hentry := (hmem _).1 (htable.byHardware_eq_some_iff.1 hr)
    obtain ⟨key, hmac, hpair⟩ := mem_entries_iff.1 hentry
    exact hnone _ hpair hmac

/-- The entries have the records that the keys have, whatever is asked of these. -/
theorem Distinct.forall_mem_iff (h : Distinct pairs) (p : Record → Prop) :
    (∀ e ∈ entries pairs, p e.2) ↔ ∀ pair ∈ pairs, p pair.2 := by
  constructor
  · intro hall pair hpair
    obtain ⟨mac, hmac⟩ := h.named pair hpair
    exact hall (mac, pair.2) (mem_entries_iff.2 ⟨pair.1, hmac, hpair⟩)
  · intro hall e he
    obtain ⟨key, _, hpair⟩ := mem_entries_iff.1 he
    exact hall _ hpair

theorem Distinct.lookupByAddress_eq_none_iff (h : Distinct pairs) (hs : s.keyed = .ok pairs)
    (w : Walk) (ip : IpAddress) : (s.walked w).lookupByAddress ip = .ok none ↔
      ∀ pair ∈ pairs, pair.2.lease.address.map .v4 ≠ some ip := by
  obtain ⟨table, hload, _, hmem⟩ := h.load hs w
  rw [lookupByAddress_of_load hload, Except.ok.injEq,
    ← h.forall_mem_iff (·.lease.address.map .v4 ≠ some ip)]
  cases ip with
  | v4 ip => simp [Entries.byAddress, hmem]
  | v6 ip => simp [Entries.byAddress]

theorem Distinct.of_lookupByAddress (h : Distinct pairs) (hs : s.keyed = .ok pairs)
    (w w' : Walk) {ip : IpAddress}
    (hfound : (s.walked w).lookupByAddress ip = .ok (some (mac, r))) :
    r.lease.address.map .v4 = some ip ∧ (s.walked w').lookup mac = .ok (some r) := by
  obtain ⟨table, hload, _, hmem⟩ := h.load hs w
  rw [lookupByAddress_of_load hload, Except.ok.injEq] at hfound
  cases ip with
  | v4 ip =>
    obtain ⟨he, hip⟩ := Entries.of_byAddress_eq_some hfound
    have hkey := mem_entries_iff.1 ((hmem _).1 he)
    exact ⟨congrArg (Option.map IpAddress.v4) hip, (h.lookup_eq_some_iff hs w').2 hkey⟩
  | v6 ip => cases hfound

theorem Distinct.coherent (h : Distinct pairs) (hs : s.keyed = .ok pairs) : Coherent s pairs where
  lookup_some w _ _ := h.lookup_eq_some_iff hs w
  lookup_none w _ := h.lookup_eq_none_iff hs w
  found w w' _ _ _ hfound := h.of_lookupByAddress hs w w' hfound
  answered w ip := by
    obtain ⟨table, hload, _⟩ := h.load hs w
    exact ⟨_, lookupByAddress_of_load hload ip⟩
  not_found w ip := h.lookupByAddress_eq_none_iff hs w ip

/-- A file whose keys name addresses, each another one, is looked up coherently. Where a key names
none, a load is refused for such a key, and with it each lookup but those by an address of the sixth
version, which read no file. -/
theorem lookups_cohere (s : FileStore) (hs : s.keyed = .ok pairs) :
    (Distinct pairs → Coherent s pairs) ∧
    ((∃ pair ∈ pairs, ∀ mac, ¬ Names pair.1 mac) → ∀ w,
      (∀ mac, Refuses pairs ((s.walked w).lookup mac)) ∧
      ∀ ip, Refuses pairs ((s.walked w).lookupByAddress (.v4 ip))) ∧
    ∀ w ip, (s.walked w).lookupByAddress (.v6 ip) = .ok none := by
  refine ⟨fun h => h.coherent hs, fun hbad w => ?_, fun _ _ => rfl⟩
  obtain ⟨pair, hpair, hnone⟩ := hbad
  have hmem : pair.1 ∈ refused pairs := mem_refused.2 ⟨⟨pair.2, hpair⟩, hnone⟩
  rcases load_cases hs w with ⟨key, hkey, hload⟩ | ⟨hrefused, _⟩
  · obtain ⟨⟨r, hkey⟩, hnames⟩ := mem_refused.1 hkey
    refine ⟨fun mac => ⟨key, r, hkey, hnames, ?_⟩, fun ip => ⟨key, r, hkey, hnames, ?_⟩⟩
    · rw [lookup, hload]
      rfl
    · rw [lookupByAddress, hload]
      rfl
  · exact absurd hmem (hrefused ▸ List.not_mem_nil)

def twoClients : FileStore where
  path := "records.yaml"
  content := some (Octets.ofText
    "' AA-BB-CC-DD-EE-FF': \x7bhostname: a\x7d\n02000000000a: \x7bipAddress: 10.0.0.2\x7d\n")

theorem lookups_cohere_twoClients :
    twoClients.lookupByAddress (.v4 ⟨10, 0, 0, 2⟩) =
        .ok (some (⟨2, 0, 0, 0, 0, 10⟩, { lease := { address := some ⟨10, 0, 0, 2⟩ } })) ∧
      (∀ w, (twoClients.walked w).lookup ⟨2, 0, 0, 0, 0, 10⟩ =
        .ok (some { lease := { address := some ⟨10, 0, 0, 2⟩ } })) := by
  have hkeyed : twoClients.keyed = .ok [
      (" AA-BB-CC-DD-EE-FF", { lease := { hostname := some "a" } }),
      ("02000000000a", { lease := { address := some ⟨10, 0, 0, 2⟩ } })] := by decide +kernel
  have hfound : twoClients.lookupByAddress (.v4 ⟨10, 0, 0, 2⟩) =
      .ok (some (⟨2, 0, 0, 0, 0, 10⟩, { lease := { address := some ⟨10, 0, 0, 2⟩ } })) := by
    decide +kernel
  have hcoherent := (lookups_cohere twoClients hkeyed).1 (distinct_iff.2 (by decide +kernel))
  exact ⟨hfound, fun w => (hcoherent.found .asWritten w _ _ _ hfound).2⟩

def misspelt : FileStore where
  path := "records.yaml"
  content := some (Octets.ofText "not-a-mac: \x7bhostname: a\x7d\n")

/-- A lookup that reads no file is not refused for a key of it. -/
theorem misspelt_answers :
    (∃ pair ∈ misspelt.records, ∀ mac, ¬ Names pair.1 mac) ∧
      misspelt.lookup ⟨0xAA, 0xBB, 0xCC, 0xDD, 0xEE, 0xFF⟩ = .error (.invalidKey "not-a-mac") ∧
      misspelt.lookupByAddress (.v6 ⟨[0, 0, 0, 0, 0, 0, 0, 1], rfl⟩) = .ok none := by
  have hkey : "not-a-mac" ∈ refused misspelt.records := by decide +kernel
  obtain ⟨⟨r, hpair⟩, hnone⟩ := mem_refused.1 hkey
  exact ⟨⟨_, hpair, hnone⟩, by decide +kernel, rfl⟩

end FileStore
end BootServer
