import BootServer.Store.File
import Mathlib.Data.List.Nodup

/-! What the order of its tables does to the answers of a file store. Of several keys that name no
address any may be the one refused, of several records for one address any may be the one that
counts, and of several clients with one allocated address any may be the one found. A question that
a file leaves no such choice for has one answer; one that it leaves a choice for has several. -/
namespace BootServer

namespace Entries

variable {table : Entries} {ip : Ipv4} {e : HardwareAddress × Record}

theorem byAddress_cons (h : e.2.lease.address = some ip) :
    byAddress (e :: table) (.v4 ip) = some e := by
  rw [byAddress, List.find?_cons_of_pos (by simpa using h)]

theorem of_byAddress_eq_some (h : table.byAddress (.v4 ip) = some e) :
    e ∈ table ∧ e.2.lease.address = some ip := by
  rw [byAddress] at h
  exact ⟨List.mem_of_find?_eq_some h, by simpa using List.find?_some h⟩

theorem exists_byAddress (he : e ∈ table) (h : e.2.lease.address = some ip) :
    ∃ e', table.byAddress (.v4 ip) = some e' :=
  Option.isSome_iff_exists.1 (List.find?_isSome.2 ⟨e, he, by simpa using h⟩)

end Entries

namespace FileStore

/-! ## Keys -/

/-- The address that the key of a record names. -/
def named? (pair : String × Record) : Option HardwareAddress :=
  HardwareAddress.parse? (Text.trim pair.1)

/-- The records whose keys name addresses, under the addresses. -/
def entries (pairs : List (String × Record)) : Entries :=
  pairs.filterMap fun pair => (named? pair).map (·, pair.2)

/-- The keys that name no address. -/
def refused (pairs : List (String × Record)) : List String :=
  (pairs.filter (named? · = none)).map (·.1)

theorem mapM_entry (pairs : List (String × Record)) :
    pairs.mapM entry =
      match (refused pairs).head? with
      | some key => .error (.invalidKey key)
      | none => .ok (entries pairs) := by
  induction pairs with
  | nil => rfl
  | cons pair pairs ih =>
    rw [List.mapM_cons, ih]
    cases hmac : named? pair with
    | none =>
      have hentry : entry pair = .error (.invalidKey pair.1) := by
        rw [named?] at hmac
        rw [entry, hmac]
      rw [hentry]
      simp [refused, hmac]
      rfl
    | some mac =>
      have hentry : entry pair = .ok (mac, pair.2) := by
        rw [named?] at hmac
        rw [entry, hmac]
      have hrefused : refused (pair :: pairs) = refused pairs := by simp [refused, hmac]
      have hentries : entries (pair :: pairs) = (mac, pair.2) :: entries pairs := by
        simp [entries, hmac]
      rw [hentry, hrefused, hentries]
      cases (refused pairs).head? <;> rfl

theorem ofKeys_of_refused {pairs : List (String × Record)} {key : String}
    (h : (refused pairs).head? = some key) : ofKeys pairs = .error (.invalidKey key) := by
  rw [ofKeys, mapM_entry, h]
  rfl

theorem ofKeys_of_refused_eq_nil {pairs : List (String × Record)} (h : refused pairs = []) :
    ofKeys pairs = .ok (latest (entries pairs)) := by
  rw [ofKeys, mapM_entry, h]
  rfl

/-! ## Tables -/

/-- A table made of entries: every address of theirs is there once, with a record that it has. -/
structure IsTable (all table : Entries) : Prop where
  distinct : (table.map (·.1)).Nodup
  subset : table ⊆ all
  complete : ∀ e ∈ all, e.1 ∈ table.map (·.1)

theorem IsTable.perm {all all' table table' : Entries} (h : IsTable all table)
    (hall : all'.Perm all) (htable : table'.Perm table) : IsTable all' table' where
  distinct := (htable.map _).nodup_iff.2 h.distinct
  subset := fun _ he => hall.symm.subset (h.subset (htable.subset he))
  complete := fun e he => (htable.map _).symm.subset (h.complete e (hall.subset he))

theorem foldl_put (back done : Entries) :
    back.foldl put done = back.foldl put [] ++ done.filter (fun e => e.1 ∉ back.map (·.1)) := by
  induction back generalizing done with
  | nil => simp
  | cons e back ih =>
    rw [List.foldl_cons, List.foldl_cons, ih (put done e), ih (put [] e), List.append_assoc]
    congr 1
    simp only [put, List.filter_cons, List.filter_filter, List.filter_nil, List.map_cons,
      List.mem_cons, not_or]
    split <;> simp [Bool.and_comm]

/-- The entries that come later count, and of those before them what is for other addresses. -/
theorem latest_append (front back : Entries) :
    latest (front ++ back) =
      (latest front).filter (fun e => e.1 ∉ back.map (·.1)) ++ latest back := by
  rw [latest, List.foldl_append, foldl_put, List.reverse_append, List.filter_reverse.symm]
  rfl

/-- Two tables as one: an address that both have an entry for is in the second. -/
theorem IsTable.append {front back table table' : Entries} (h : IsTable front table)
    (h' : IsTable back table') :
    IsTable (front ++ back) (table.filter (fun e => e.1 ∉ back.map (·.1)) ++ table') := by
  refine ⟨?_, ?_, ?_⟩
  · rw [List.map_append, List.nodup_append]
    refine ⟨h.distinct.sublist (List.filter_sublist.map _), h'.distinct, ?_⟩
    rintro mac hmac mac' hmac' rfl
    obtain ⟨e, he, rfl⟩ := List.mem_map.1 hmac
    obtain ⟨e', he', hkey⟩ := List.mem_map.1 hmac'
    have hback : e.1 ∉ back.map (·.1) := by simpa using (List.mem_filter.1 he).2
    exact hback (List.mem_map.2 ⟨e', h'.subset he', hkey⟩)
  · refine List.append_subset.2 ⟨fun e he => ?_, fun e he => ?_⟩
    · exact List.mem_append_left _ (h.subset (List.mem_filter.1 he).1)
    · exact List.mem_append_right _ (h'.subset he)
  · intro e he
    rw [List.map_append, List.mem_append]
    by_cases hback : e.1 ∈ back.map (·.1)
    · obtain ⟨e', he', hkey⟩ := List.mem_map.1 hback
      exact .inr (hkey ▸ h'.complete e' he')
    · rcases List.mem_append.1 he with he | he
      · obtain ⟨e', he', hkey⟩ := List.mem_map.1 (h.complete e he)
        refine .inl (List.mem_map.2 ⟨e', List.mem_filter.2 ⟨he', ?_⟩, hkey⟩)
        simpa [hkey] using hback
      · exact absurd (List.mem_map_of_mem he) hback

theorem isTable_latest (all : Entries) : IsTable all (latest all) := by
  induction all with
  | nil => exact ⟨List.nodup_nil, List.nil_subset _, by simp⟩
  | cons e all ih =>
    have hone : IsTable [e] (latest [e]) := by
      constructor <;> simp [latest, put]
    have h := hone.append ih
    rwa [← latest_append] at h

theorem IsTable.perm_of_subset {all table table' : Entries} (h : IsTable all table)
    (h' : IsTable all table') (hsubset : table ⊆ table') : table.Perm table' := by
  rw [List.perm_ext_iff_of_nodup (List.Nodup.of_map _ h.distinct) (List.Nodup.of_map _ h'.distinct)]
  intro e
  refine ⟨fun he => hsubset he, fun he => ?_⟩
  obtain ⟨e', he', hkey⟩ := List.mem_map.1 (h.complete e (h'.subset he))
  rwa [← List.inj_on_of_nodup_map h'.distinct (hsubset he') he hkey]

/-! ## Loads -/

/-- What a load makes of records that it walks so. -/
def readWith (w : Walk) (pairs : List (String × Record)) : Except LookupError Entries :=
  (ofKeys (w.texts pairs)).map w.addresses

/-- What a load may make of records. -/
inductive Outcome (pairs : List (String × Record)) : Except LookupError Entries → Prop
  | refusal {key : String} (h : key ∈ refused pairs) : Outcome pairs (.error (.invalidKey key))
  | table {table : Entries} (hrefused : refused pairs = [])
      (h : IsTable (entries pairs) table) : Outcome pairs (.ok table)

section

variable {pairs pairs' : List (String × Record)}

theorem refused_append : refused (pairs ++ pairs') = refused pairs ++ refused pairs' := by
  simp [refused]

theorem entries_append : entries (pairs ++ pairs') = entries pairs ++ entries pairs' := by
  simp [entries]

theorem mem_entries {e : HardwareAddress × Record} :
    e ∈ entries pairs ↔ ∃ pair ∈ pairs, named? pair = some e.1 ∧ pair.2 = e.2 := by
  simp only [entries, List.mem_filterMap, Option.map_eq_some_iff]
  constructor
  · rintro ⟨pair, hpair, mac, hmac, rfl⟩
    exact ⟨pair, hpair, hmac, rfl⟩
  · rintro ⟨pair, hpair, hmac, hr⟩
    exact ⟨pair, hpair, e.1, hmac, by rw [hr]⟩

theorem refused_perm (h : pairs'.Perm pairs) : (refused pairs').Perm (refused pairs) :=
  (h.filter _).map _

theorem entries_perm (h : pairs'.Perm pairs) : (entries pairs').Perm (entries pairs) :=
  h.filterMap _

theorem outcome_readWith (w : Walk) (pairs : List (String × Record)) :
    Outcome pairs (readWith w pairs) := by
  have hperm := w.perm_texts pairs
  cases h : refused (w.texts pairs) with
  | nil =>
    have hrefused : refused pairs = [] := List.nil_perm.1 (h ▸ refused_perm hperm)
    have htable := isTable_latest (entries (w.texts pairs))
    rw [readWith, ofKeys_of_refused_eq_nil h]
    exact .table hrefused (htable.perm (entries_perm hperm).symm (w.perm_addresses _))
  | cons key rest =>
    rw [readWith, ofKeys_of_refused (by rw [h]; rfl)]
    exact .refusal ((refused_perm hperm).subset (h ▸ List.mem_cons_self))

/-- The walk that comes to some of the records first, and over the addresses in the order of a
table. -/
def bringing (p : String × Record → Bool) (table : Entries) : Walk where
  texts pairs := pairs.filter p ++ pairs.filter (!p ·)
  addresses found := if found.Perm table then table else found
  perm_texts := List.filter_append_perm p
  perm_addresses found := by
    split
    · exact List.Perm.symm ‹_›
    · exact .refl _

/-- Any key that is refused may be the first one met. -/
theorem readWith_refusal {key : String} (h : key ∈ refused pairs) (table : Entries) :
    readWith (bringing (·.1 = key) table) pairs = .error (.invalidKey key) := by
  have hmem : key ∈ refused (pairs.filter (·.1 = key)) := by
    simpa [refused, and_assoc, and_comm] using h
  have hkey : ∀ k ∈ refused (pairs.filter (·.1 = key)), k = key := by
    intro k hk
    obtain ⟨pair, hpair, rfl⟩ := List.mem_map.1 hk
    simpa using (List.mem_filter.1 (List.mem_filter.1 hpair).1).2
  have hfirst : (refused ((bringing (·.1 = key) table).texts pairs)).head? = some key := by
    rw [bringing, refused_append]
    cases hrefused : refused (pairs.filter (·.1 = key)) with
    | nil => exact absurd (hrefused ▸ hmem) List.not_mem_nil
    | cons k rest => exact congrArg some (hkey k (hrefused ▸ List.mem_cons_self))
  rw [readWith, ofKeys_of_refused hfirst]
  rfl

/-- Does the table have the record of another key for the address? -/
def isLeftOut (table : Entries) (pair : String × Record) : Bool :=
  (named? pair).any fun mac => (mac, pair.2) ∉ table

theorem mem_entries_filter {table : Entries} (h : IsTable (entries pairs) table)
    {e : HardwareAddress × Record} :
    e ∈ entries (pairs.filter (!isLeftOut table ·)) ↔ e ∈ table := by
  have hpair : ∀ pair, named? pair = some e.1 → pair.2 = e.2 →
      ((!isLeftOut table pair) = true ↔ e ∈ table) := by
    intro pair hmac hr
    simp [isLeftOut, hmac, hr]
  constructor
  · intro he
    obtain ⟨pair, hmem, hmac, hr⟩ := mem_entries.1 he
    exact (hpair pair hmac hr).1 (List.mem_filter.1 hmem).2
  · intro he
    obtain ⟨pair, hmem, hmac, hr⟩ := mem_entries.1 (h.subset he)
    exact mem_entries.2 ⟨pair, List.mem_filter.2 ⟨hmem, (hpair pair hmac hr).2 he⟩, hmac, hr⟩

/-- Where the records of a table are met last, no other one counts. -/
theorem latest_bringing_subset {table : Entries} (h : IsTable (entries pairs) table) :
    latest (entries ((bringing (isLeftOut table) table).texts pairs)) ⊆ table := by
  rw [bringing, entries_append, latest_append]
  intro e he
  rcases List.mem_append.1 he with he | he
  · obtain ⟨hfront, hkey⟩ := List.mem_filter.1 he
    obtain ⟨pair, hpair, hnamed⟩ := mem_entries.1 ((isTable_latest _).subset hfront)
    have hall : e ∈ entries pairs := mem_entries.2 ⟨pair, (List.mem_filter.1 hpair).1, hnamed⟩
    obtain ⟨e', he', hsame⟩ := List.mem_map.1 (h.complete e hall)
    have hback := List.mem_map.2 ⟨e', (mem_entries_filter h).2 he', hsame⟩
    exact absurd hback (by simpa using hkey)
  · exact (mem_entries_filter h).1 ((isTable_latest _).subset he)

/-- Any table of the entries may be the one that is made. -/
theorem readWith_table {table : Entries} (hrefused : refused pairs = [])
    (h : IsTable (entries pairs) table) :
    readWith (bringing (isLeftOut table) table) pairs = .ok table := by
  have hperm := (bringing (isLeftOut table) table).perm_texts pairs
  have hnone : refused ((bringing (isLeftOut table) table).texts pairs) = [] :=
    List.perm_nil.1 (hrefused ▸ refused_perm hperm)
  have hlatest := (isTable_latest _).perm (entries_perm hperm).symm (.refl _)
  rw [readWith, ofKeys_of_refused_eq_nil hnone]
  exact congrArg Except.ok (if_pos (hlatest.perm_of_subset h (latest_bringing_subset h)))

theorem exists_readWith_iff {result : Except LookupError Entries} :
    (∃ w, readWith w pairs = result) ↔ Outcome pairs result := by
  constructor
  · rintro ⟨w, rfl⟩
    exact outcome_readWith w pairs
  · rintro (hkey | ⟨hrefused, h⟩)
    · exact ⟨_, readWith_refusal hkey []⟩
    · exact ⟨_, readWith_table hrefused h⟩

end

/-! ## Answers of tables -/

/-- Any of the entries may be the first of a table. -/
theorem exists_isTable_cons {all : Entries} {e : HardwareAddress × Record} (h : e ∈ all) :
    ∃ rest, IsTable all (e :: rest) := by
  have hone : IsTable [e] [e] := by constructor <;> simp
  have hlast := (isTable_latest (all.erase e)).append hone
  have hall : all.Perm (all.erase e ++ [e]) :=
    (List.perm_cons_erase h).trans (List.perm_append_singleton e _).symm
  exact ⟨_, hlast.perm hall (List.perm_append_singleton e _).symm⟩

theorem IsTable.byHardware_eq_some_iff {all table : Entries} (h : IsTable all table)
    {mac : HardwareAddress} {r : Record} :
    table.byHardware mac = some r ↔ (mac, r) ∈ table := by
  constructor
  · intro hfind
    obtain ⟨e, he, rfl⟩ := Option.map_eq_some_iff.1 hfind
    have hmac : e.1 = mac := by simpa using List.find?_some he
    exact hmac ▸ List.mem_of_find?_eq_some he
  · intro hr
    cases he : table.find? (·.1 = mac) with
    | none => simpa using List.find?_eq_none.1 he (mac, r) hr
    | some e =>
      have hmac : e.1 = mac := by simpa using List.find?_some he
      have hsame : e = (mac, r) :=
        List.inj_on_of_nodup_map h.distinct (List.mem_of_find?_eq_some he) hr hmac
      rw [Entries.byHardware, he, hsame]
      rfl

/-- Its keys give an address one record. -/
def OneRecord (all : Entries) (mac : HardwareAddress) : Prop :=
  ∀ r r', (mac, r) ∈ all → (mac, r') ∈ all → r = r'

/-- The address is allocated to one client, and by every record that this client has. -/
def OneClient (all : Entries) (ip : Ipv4) : Prop :=
  ∀ e ∈ all, e.2.lease.address = some ip →
    ∀ e' ∈ all, e'.1 = e.1 ∨ e'.2.lease.address = some ip → e' = e

/-- A question has one answer, whichever of its tables the entries are in. -/
def Settled {α : Type} (all : Entries) (ask : Entries → α) : Prop :=
  ∀ table table', IsTable all table → IsTable all table' → ask table = ask table'

theorem settled_byHardware_iff (all : Entries) (mac : HardwareAddress) :
    Settled all (·.byHardware mac) ↔ OneRecord all mac := by
  constructor
  · intro h r r' hr hr'
    obtain ⟨rest, ht⟩ := exists_isTable_cons hr
    obtain ⟨rest', ht'⟩ := exists_isTable_cons hr'
    have hfirst := ht.byHardware_eq_some_iff.2 List.mem_cons_self
    have hfirst' := ht'.byHardware_eq_some_iff.2 List.mem_cons_self
    exact Option.some.inj ((hfirst.symm.trans (h _ _ ht ht')).trans hfirst')
  · intro h
    have hsub : ∀ {t t'}, IsTable all t → IsTable all t' → ∀ r, (mac, r) ∈ t → (mac, r) ∈ t' := by
      intro t t' ht ht' r hr
      obtain ⟨⟨_, r'⟩, hr', rfl⟩ := List.mem_map.1 (ht'.complete _ (ht.subset hr))
      rwa [h r r' (ht.subset hr) (ht'.subset hr')]
    intro t t' ht ht'
    refine Option.ext fun r => ?_
    simp only [ht.byHardware_eq_some_iff, ht'.byHardware_eq_some_iff]
    exact ⟨hsub ht ht' r, hsub ht' ht r⟩

theorem settled_byAddress_iff (all : Entries) (ip : Ipv4) :
    Settled all (·.byAddress (.v4 ip)) ↔ OneClient all ip := by
  constructor
  · intro h e he hip e' he' hor
    obtain ⟨rest, ht⟩ := exists_isTable_cons he
    obtain ⟨rest', ht'⟩ := exists_isTable_cons he'
    -- the table with `e` in front answers `e`, and so must the one with `e'` in front
    have hfound : Entries.byAddress (e' :: rest') (.v4 ip) = some e :=
      (h _ _ ht' ht).trans (Entries.byAddress_cons hip)
    rcases hor with hkey | hip'
    · exact List.inj_on_of_nodup_map ht'.distinct List.mem_cons_self
        (Entries.of_byAddress_eq_some hfound).1 hkey
    · exact Option.some.inj ((Entries.byAddress_cons hip').symm.trans hfound)
  · intro h
    have hsub : ∀ {t t'}, IsTable all t → IsTable all t' → ∀ e,
        Entries.byAddress t (.v4 ip) = some e → Entries.byAddress t' (.v4 ip) = some e := by
      intro t t' ht ht' e he
      obtain ⟨hmem, hip⟩ := Entries.of_byAddress_eq_some he
      have hall := ht.subset hmem
      obtain ⟨e', he', hkey⟩ := List.mem_map.1 (ht'.complete e hall)
      obtain rfl := h e hall hip e' (ht'.subset he') (.inl hkey)
      obtain ⟨found, hfound⟩ := Entries.exists_byAddress he' hip
      obtain ⟨hmem', hip'⟩ := Entries.of_byAddress_eq_some hfound
      rwa [h e' hall hip found (ht'.subset hmem') (.inr hip')] at hfound
    intro t t' ht ht'
    exact Option.ext fun e => ⟨hsub ht ht' e, hsub ht' ht e⟩

/-- The keys that name no address are one. -/
def OneRefusal (pairs : List (String × Record)) : Prop :=
  ∀ key ∈ refused pairs, ∀ key' ∈ refused pairs, key = key'

/-- All that a load may make of records answers a question alike. -/
theorem outcomes_agree_iff {α : Type} (pairs : List (String × Record)) (ask : Entries → α) :
    (∀ {result result'}, Outcome pairs result → Outcome pairs result' →
        result.map ask = result'.map ask) ↔
      OneRefusal pairs ∧ (refused pairs = [] → Settled (entries pairs) ask) := by
  constructor
  · intro h
    refine ⟨fun key hkey key' hkey' => ?_, fun hrefused table table' ht ht' => ?_⟩
    · simpa [Except.map] using h (.refusal hkey) (.refusal hkey')
    · simpa [Except.map] using h (.table hrefused ht) (.table hrefused ht')
  · rintro ⟨hone, hsettled⟩ _ _ (hkey | ⟨hrefused, ht⟩) (hkey' | ⟨hrefused', ht'⟩)
    · rw [hone _ hkey _ hkey']
    · exact absurd hkey (hrefused' ▸ List.not_mem_nil)
    · exact absurd hkey' (hrefused ▸ List.not_mem_nil)
    · exact congrArg Except.ok (hsettled hrefused _ _ ht ht')

/-! ## Answers of a store -/

/-- The same file, walked so. -/
def walked (s : FileStore) (w : Walk) : FileStore := { s with walk := w }

/-- The records that the file holds, under their keys. -/
def keyed (s : FileStore) : Except LookupError (List (String × Record)) :=
  match s.content.bind Text.Utf8.decode? with
  | none => .error (.unreadable s.path)
  | some text =>
    if Text.isBlankText text then .ok []
    else
      match s.decode text with
      | some pairs => .ok pairs
      | none => .error (.undecodable s.path)

def records (s : FileStore) : List (String × Record) := s.keyed.toOption.getD []

theorem load_walked (s : FileStore) (w : Walk) :
    (s.walked w).load = s.keyed.bind (readWith w) := by
  have hblank : readWith w [] = .ok [] := by
    have htexts := List.perm_nil.1 (w.perm_texts [])
    have haddresses := List.perm_nil.1 (w.perm_addresses [])
    rw [readWith, htexts]
    exact congrArg Except.ok haddresses
  unfold load keyed walked
  dsimp only
  cases s.content.bind Text.Utf8.decode? with
  | none => rfl
  | some text =>
    simp only [parse]
    split
    · exact hblank.symm
    · cases s.decode text <;> rfl

theorem load_agrees_iff {α : Type} (s : FileStore) (ask : Entries → α) :
    (∀ w w', (s.walked w).load.map ask = (s.walked w').load.map ask) ↔
      OneRefusal s.records ∧ (refused s.records = [] → Settled (entries s.records) ask) := by
  simp only [load_walked, records]
  cases s.keyed with
  | error e =>
    have hempty : ∀ table, IsTable [] table → table = [] := fun _ h =>
      List.eq_nil_of_subset_nil h.subset
    refine iff_of_true (fun _ _ => rfl) ⟨?_, fun _ table table' ht ht' => ?_⟩
    · exact fun key hkey => absurd hkey List.not_mem_nil
    · rw [hempty table ht, hempty table' ht']
  | ok pairs =>
    refine Iff.trans ?_ (outcomes_agree_iff pairs ask)
    constructor
    · intro h result result' hresult hresult'
      obtain ⟨w, rfl⟩ := exists_readWith_iff.2 hresult
      obtain ⟨w', rfl⟩ := exists_readWith_iff.2 hresult'
      exact h w w'
    · intro h w w'
      exact h (outcome_readWith w pairs) (outcome_readWith w' pairs)

/-- A question has one answer however the tables are walked exactly where the file leaves no choice:
all keys that name no address are one, and if there is none the address asked for has one record or,
if it is allocated, one client. -/
theorem answers_agree_iff (s : FileStore) :
    (∀ mac, (∀ w w', (s.walked w).lookup mac = (s.walked w').lookup mac) ↔
      OneRefusal s.records ∧ (refused s.records = [] → OneRecord (entries s.records) mac)) ∧
    (∀ ip, (∀ w w', (s.walked w).lookupByAddress (.v4 ip) =
        (s.walked w').lookupByAddress (.v4 ip)) ↔
      OneRefusal s.records ∧ (refused s.records = [] → OneClient (entries s.records) ip)) ∧
    ∀ ip w w', (s.walked w).lookupByAddress (.v6 ip) = (s.walked w').lookupByAddress (.v6 ip) := by
  refine ⟨fun mac => ?_, fun ip => ?_, fun _ _ _ => rfl⟩
  · rw [← settled_byHardware_iff]
    exact s.load_agrees_iff (·.byHardware mac)
  · rw [← settled_byAddress_iff]
    exact s.load_agrees_iff (·.byAddress (.v4 ip))

/-! ### Two spellings -/

/-- The order of the document, from its end. -/
def backward : Walk where
  texts := List.reverse
  addresses := List.reverse
  perm_texts := List.reverse_perm
  perm_addresses := List.reverse_perm

def twoSpellings : FileStore where
  path := "records.yaml"
  content := some (Octets.ofText
    "aa:bb:cc:dd:ee:ff: \x7bhostname: a\x7d\nAA:BB:CC:DD:EE:FF: \x7bhostname: b\x7d\n")

/-- Two spellings of one address leave a choice, and either record may be the answer. -/
theorem twoSpellings_disagree :
    (twoSpellings.walked .asWritten).lookup ⟨0xAA, 0xBB, 0xCC, 0xDD, 0xEE, 0xFF⟩ =
        .ok (some { lease := { hostname := some "b" } }) ∧
      (twoSpellings.walked backward).lookup ⟨0xAA, 0xBB, 0xCC, 0xDD, 0xEE, 0xFF⟩ =
        .ok (some { lease := { hostname := some "a" } }) := by
  decide +kernel

end FileStore
end BootServer
