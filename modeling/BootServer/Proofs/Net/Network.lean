import BootServer.Net.Network
import BootServer.Proofs.Except
import BootServer.Proofs.Net.Address
import BootServer.Proofs.Net.Bits

/-! What the entries of a list of networks stand for. An entry is an address, or an address with the
number of bits that others have to share with it, in figures or, for IPv4, as a mask. Reading finds
exactly these entries, and what a network contains are the addresses of its family with its first
bits. -/
namespace BootServer

namespace Network

/-- What stands between two commas. -/
inductive Entry where
  /-- This address and no other. -/
  | address (ip : IpAddress)
  /-- The addresses with the same bits at the beginning, as many as the size says. -/
  | block (ip : IpAddress) (size : Nat)

namespace Entry

/-- Is the address one of those that the entry stands for? -/
def Matches : Entry → IpAddress → Prop
  | .address ip, other => other = ip
  | .block ip size, other => other.width = ip.width ∧ other.bits.take size = ip.bits.take size

/-- The ways to write an entry. A mask has its one bits first, as many as the size says. -/
inductive Spelled : Entry → String → Prop
  | address {ip : IpAddress} {text : String} (h : IpAddress.parse? text = some ip) :
    Spelled (.address ip) text
  | figures {ip : IpAddress} {size : Nat} {text number : String}
    (h : IpAddress.parse? text = some ip) (hnumber : Text.Decimal.IsNumber number.toList size)
    (hsize : size ≤ ip.width) : Spelled (.block ip size) (text ++ "/" ++ number)
  | mask {ip ones : Ipv4} {size : Nat} {text mask : String} (h : Ipv4.parse? text = some ip)
    (hmask : Ipv4.parse? mask = some ones) (hsize : size ≤ 32) (hones : (IpAddress.v4 ones).bits =
      List.replicate size true ++ List.replicate (32 - size) false) :
    Spelled (.block (.v4 ip) size) (text ++ "/" ++ mask)

end Entry

/-! ## Containment -/

variable {size : Nat} {e : Entry} {s : String} {l : List Char} {net : Network}

theorem contains_v4_iff {net ip : Ipv4} (h : size ≤ 32) :
    (Network.v4 net size).contains (.v4 ip) = true ↔
      (IpAddress.v4 ip).bits.take size = (IpAddress.v4 net).bits.take size := by
  rw [contains, decide_eq_true_eq, shiftRight_eq_iff h net.toNat_lt ip.toNat_lt, net.bitsOf_toNat,
    ip.bitsOf_toNat]
  exact eq_comm

theorem contains_v6_iff {net ip : Ipv6} (h : size ≤ 128) :
    (Network.v6 net size).contains (.v6 ip) = true ↔
      (IpAddress.v6 ip).bits.take size = (IpAddress.v6 net).bits.take size := by
  rw [contains, decide_eq_true_eq, shiftRight_eq_iff h net.toNat_lt ip.toNat_lt, net.bitsOf_toNat,
    ip.bitsOf_toNat]
  exact eq_comm

namespace Entry

/-- The network that an entry is read as. -/
def network : Entry → Network
  | .address ip => ofAddress ip
  | .block (.v4 ip) size => .v4 ip size
  | .block (.v6 ip) size => .v6 ip size

/-- A size is no more than there are bits. -/
def Fits : Entry → Prop
  | .address _ => True
  | .block ip size => size ≤ ip.width

theorem Spelled.fits (h : e.Spelled s) : e.Fits := by
  cases h with
  | address => trivial
  | figures _ _ hsize => exact hsize
  | mask _ _ hsize => exact hsize

theorem contains_block_iff {ip other : IpAddress} (h : size ≤ ip.width) :
    (block ip size).network.contains other = true ↔ (block ip size).Matches other := by
  cases ip with
  | v4 ip =>
    cases other with
    | v4 other => exact (contains_v4_iff h).trans (and_iff_right rfl).symm
    | v6 other =>
      constructor
      · intro hcontains
        cases hcontains
      · rintro ⟨hwidth, -⟩
        cases hwidth
  | v6 ip =>
    cases other with
    | v4 other =>
      constructor
      · intro hcontains
        cases hcontains
      · rintro ⟨hwidth, -⟩
        cases hwidth
    | v6 other => exact (contains_v6_iff h).trans (and_iff_right rfl).symm

/-- An address is the block of those that share all bits with it. -/
theorem network_address (ip : IpAddress) :
    (address ip).network = (block ip ip.width).network := by
  cases ip <;> rfl

theorem contains_network_iff (h : e.Fits) (ip : IpAddress) :
    e.network.contains ip = true ↔ e.Matches ip := by
  cases e with
  | block net size => exact contains_block_iff h
  | address net =>
    rw [network_address, contains_block_iff (Nat.le_refl _)]
    constructor
    · rintro ⟨hwidth, hbits⟩
      have htake : ∀ a : IpAddress, a.width = net.width → a.bits.take net.width = a.bits := by
        intro a ha
        rw [← ha, ← a.length_bits, List.take_length]
      rw [htake ip hwidth, htake net rfl] at hbits
      exact IpAddress.bits_inj hwidth hbits
    · rintro rfl
      exact ⟨rfl, rfl⟩

end Entry

/-! ## Reading -/

theorem maskBits?_eq_some_iff {mask : Ipv4} :
    maskBits? mask = some size ↔ size ≤ 32 ∧ (IpAddress.v4 mask).bits =
      List.replicate size true ++ List.replicate (32 - size) false := by
  have hones : ∀ n < 33, 1 <<< 32 - 1 <<< (32 - n) < 1 <<< 32 ∧
      bitsOf 32 (1 <<< 32 - 1 <<< (32 - n)) =
        List.replicate n true ++ List.replicate (32 - n) false := by
    decide +kernel
  have hinj : ∀ n < 33, ∀ m < 33,
      1 <<< 32 - 1 <<< (32 - n) = 1 <<< 32 - 1 <<< (32 - m) → n = m := by
    decide +kernel
  have hbits : ∀ n < 33, mask.toNat = 1 <<< 32 - 1 <<< (32 - n) ↔ (IpAddress.v4 mask).bits =
      List.replicate n true ++ List.replicate (32 - n) false := by
    intro n hn
    obtain ⟨hlt, hbits⟩ := hones n hn
    rw [← bitsOf_inj mask.toNat_lt hlt, hbits, mask.bitsOf_toNat]
    rfl
  rw [maskBits?]
  constructor
  · intro h
    have hsize := List.mem_range.1 (List.mem_of_find?_eq_some h)
    have hmask := List.find?_some h
    rw [decide_eq_true_eq] at hmask
    exact ⟨Nat.le_of_lt_succ hsize, (hbits size hsize).1 hmask⟩
  · rintro ⟨hsize, hmask⟩
    have hsize := Nat.lt_succ_of_le hsize
    have hmask := (hbits size hsize).2 hmask
    cases hfind : (List.range 33).find? fun bits => mask.toNat = 1 <<< 32 - 1 <<< (32 - bits) with
    | none =>
      have hno := List.find?_eq_none.1 hfind size (List.mem_range.2 hsize)
      rw [decide_eq_true_eq] at hno
      exact absurd hmask hno
    | some n =>
      have hn := List.mem_range.1 (List.mem_of_find?_eq_some hfind)
      have hfound := List.find?_some hfind
      rw [decide_eq_true_eq] at hfound
      rw [hinj n hn size hsize (hfound.symm.trans hmask)]

theorem bits?_eq_some_iff {limit : Nat} (hlimit : limit ≤ 255) :
    bits? limit l = some size ↔ Text.Decimal.IsNumber l size ∧ size ≤ limit := by
  rw [bits?, Option.filter_eq_some_iff, Text.Decimal.readChars?_eq_some_iff, decide_eq_true_eq]
  constructor
  · rintro ⟨⟨hnumber, -⟩, hsize⟩
    exact ⟨hnumber, hsize⟩
  · rintro ⟨hnumber, hsize⟩
    exact ⟨⟨hnumber, Nat.le_trans hsize hlimit⟩, hsize⟩

/-- Figures are no mask. -/
theorem parseChars?_of_isNumber (h : Text.Decimal.IsNumber l size) :
    Ipv4.parseChars? l = none := by
  refine Ipv4.parseChars?_of_not_mem fun hdot => ?_
  rcases h.isDigit hdot with hplus | hdigit
  · cases hplus
  · cases hdigit

theorem slash_not_mem_of_isNumber (h : Text.Decimal.IsNumber l size) : '/' ∉ l := by
  intro hslash
  rcases h.isDigit hslash with hplus | hdigit
  · cases hplus
  · cases hdigit

theorem ipv4Bits?_eq_some_iff : ipv4Bits? l = some size ↔
    size ≤ 32 ∧ (Text.Decimal.IsNumber l size ∨ ∃ ones, Ipv4.parseChars? l = some ones ∧
      (IpAddress.v4 ones).bits =
        List.replicate size true ++ List.replicate (32 - size) false) := by
  unfold ipv4Bits?
  cases hmask : Ipv4.parseChars? l with
  | none =>
    dsimp only
    rw [bits?_eq_some_iff (by decide), and_comm]
    simp
  | some ones =>
    have hnumber : ¬ Text.Decimal.IsNumber l size := by
      intro h
      rw [parseChars?_of_isNumber h] at hmask
      cases hmask
    dsimp only
    rw [maskBits?_eq_some_iff]
    simp [hnumber]

/-- The parts of a network stand before and behind its only slash. -/
theorem parse?_slash {front back : List Char} (hfront : '/' ∉ front) (hback : '/' ∉ back)
    (hs : s.toList = front ++ '/' :: back) :
    entry? s = match Ipv4.parseChars? front with
      | some ip => (ipv4Bits? back).map (.v4 ip)
      | none => do return .v6 (← Ipv6.parseChars? front) (← bits? 128 back) := by
  have hslash : s.toList.contains '/' = true := by simp [hs]
  have hfields : Text.fields '/' s.toList = [front, back] := by
    rw [hs, Text.fields_append hfront, Text.fields_of_not_mem hback]
  unfold entry?
  rw [if_pos hslash]
  unfold parse?
  split
  · next h =>
    rw [hfields] at h
    cases h
    rfl
  · next h => exact absurd hfields (h front back)

theorem exists_parts_of_parse? (h : parse? s = some net) : ∃ front back, '/' ∉ front ∧
    '/' ∉ back ∧ s.toList = front ++ '/' :: back := by
  unfold parse? at h
  split at h
  · next front back hfields =>
    have hmem : ∀ field ∈ Text.fields '/' s.toList, '/' ∉ field :=
      fun _ => Text.not_mem_of_mem_fields
    have hwhole := Text.flatMap_fields '/' s.toList
    rw [hfields] at hmem hwhole
    refine ⟨front, back, hmem _ (by simp), hmem _ (by simp), ?_⟩
    have hends : s.toList ++ ['/'] = (front ++ '/' :: back) ++ ['/'] := by
      rw [← hwhole]
      simp
    exact List.append_cancel_right hends
  · cases h

theorem Entry.Spelled.entry?_eq (h : e.Spelled s) : Network.entry? s = some e.network := by
  cases h with
  | address h =>
    have hslash : ¬ s.toList.contains '/' = true := by
      simpa using IpAddress.slash_not_mem_of_parse? h
    unfold entry?
    rw [if_neg hslash, h]
    rfl
  | @figures ip size text number h hnumber hsize =>
    have htext := IpAddress.slash_not_mem_of_parse? h
    have hs : (text ++ "/" ++ number).toList = text.toList ++ '/' :: number.toList := by simp
    rw [parse?_slash htext (slash_not_mem_of_isNumber hnumber) hs]
    cases ip with
    | v4 ip =>
      have hip : Ipv4.parseChars? text.toList = some ip := IpAddress.parse?_eq_v4_iff.1 h
      rw [hip]
      dsimp only
      rw [ipv4Bits?_eq_some_iff.2 ⟨hsize, .inl hnumber⟩]
      rfl
    | v6 ip =>
      obtain ⟨hnone, hip⟩ := IpAddress.parse?_eq_v6_iff.1 h
      have hnone : Ipv4.parseChars? text.toList = none := hnone
      have hip : Ipv6.parseChars? text.toList = some ip := hip
      rw [hnone]
      have hbits : bits? 128 number.toList = some size :=
        (bits?_eq_some_iff (by decide)).2 ⟨hnumber, hsize⟩
      dsimp only
      rw [hip, hbits]
      rfl
  | @mask ip ones size text mask h hmask hsize hones =>
    have htext := IpAddress.slash_not_mem_of_parse? (IpAddress.parse?_eq_v4_iff.2 h)
    have hslash := IpAddress.slash_not_mem_of_parse? (IpAddress.parse?_eq_v4_iff.2 hmask)
    have hs : (text ++ "/" ++ mask).toList = text.toList ++ '/' :: mask.toList := by simp
    have hip : Ipv4.parseChars? text.toList = some ip := h
    rw [parse?_slash htext hslash hs, hip]
    dsimp only
    rw [ipv4Bits?_eq_some_iff.2 ⟨hsize, .inr ⟨ones, hmask, hones⟩⟩]
    rfl

/-- A network is read back from its text, which is one of the spellings. -/
theorem entry?_text {ip : IpAddress} {size : Nat} (h : size ≤ ip.width) :
    entry? (Entry.block ip size).network.text = some (Entry.block ip size).network := by
  have hnumber : Text.Decimal.IsNumber (Text.Decimal.text size).toList size := by
    rw [Text.Decimal.text, String.toList_ofList]
    exact .plain (Text.Decimal.isDigits_toDigits size)
  have htext : (Entry.block ip size).network.text = ip.text ++ "/" ++ Text.Decimal.text size := by
    cases ip <;> rfl
  rw [htext]
  exact (Entry.Spelled.figures (IpAddress.parse?_text ip) hnumber h).entry?_eq

/-- What is read of an entry is what it stands for, in any of its spellings. -/
theorem entry?_eq_some_iff : entry? s = some net ↔ ∃ e : Entry, e.Spelled s ∧ e.network = net := by
  constructor
  · intro h
    by_cases hslash : s.toList.contains '/' = true
    · have hparse : parse? s = some net := by
        unfold entry? at h
        rwa [if_pos hslash] at h
      obtain ⟨front, back, hfront, hback, hs⟩ := exists_parts_of_parse? hparse
      obtain rfl : s = String.ofList front ++ "/" ++ String.ofList back := by
        apply String.toList_inj.1
        simp [hs]
      rw [parse?_slash hfront hback hs] at h
      split at h
      · next ip hip =>
        have htext : Ipv4.parse? (String.ofList front) = some ip := by
          rwa [Ipv4.parse?, String.toList_ofList]
        obtain ⟨size, hsize, rfl⟩ := Option.map_eq_some_iff.1 h
        obtain ⟨hle, hnumber | ⟨ones, hmask, hones⟩⟩ := ipv4Bits?_eq_some_iff.1 hsize
        · refine ⟨.block (.v4 ip) size, .figures (IpAddress.parse?_eq_v4_iff.2 htext) ?_ hle, rfl⟩
          rwa [String.toList_ofList]
        · refine ⟨.block (.v4 ip) size, .mask htext ?_ hle hones, rfl⟩
          rwa [Ipv4.parse?, String.toList_ofList]
      · next hnone =>
        obtain ⟨ip, hip, h⟩ := Option.bind_eq_some_iff.1 h
        obtain ⟨size, hsize, h⟩ := Option.bind_eq_some_iff.1 h
        cases h
        obtain ⟨hnumber, hle⟩ := (bits?_eq_some_iff (by decide)).1 hsize
        have htext : IpAddress.parse? (String.ofList front) = some (.v6 ip) := by
          rw [IpAddress.parse?_eq_v6_iff, Ipv4.parse?, Ipv6.parse?, String.toList_ofList]
          exact ⟨hnone, hip⟩
        refine ⟨.block (.v6 ip) size, .figures htext ?_ hle, rfl⟩
        rwa [String.toList_ofList]
    · unfold entry? at h
      rw [if_neg hslash] at h
      obtain ⟨ip, hip, rfl⟩ := Option.map_eq_some_iff.1 h
      exact ⟨.address ip, .address hip, rfl⟩
  · rintro ⟨e, h, rfl⟩
    exact h.entry?_eq

/-! ## Lists -/

/-- What stands between the commas of a list, without the blanks around it, if there is anything. -/
def entries (raw : String) : List String :=
  ((Text.split ',' raw).map Text.trim).filter (· ≠ "")

/-- Texts of entries with the networks that contain what these stand for. -/
inductive Lists : List String → List Network → Prop
  | nil : Lists [] []
  | cons {text : String} {e : Entry} {net : Network} {texts : List String} {nets : List Network}
    (h : e.Spelled text) (hnet : ∀ ip, net.contains ip = true ↔ e.Matches ip)
    (hrest : Lists texts nets) : Lists (text :: texts) (net :: nets)

def readEntry (text : String) : Except String Network :=
  match entry? text with
  | some net => .ok net
  | none => .error text

theorem readEntry_eq_ok_iff : readEntry s = .ok net ↔ entry? s = some net := by
  unfold readEntry
  cases entry? s <;> simp

theorem readEntry_eq_error_iff {text : String} :
    readEntry s = .error text ↔ (¬ ∃ e : Entry, e.Spelled s) ∧ s = text := by
  unfold readEntry
  cases h : entry? s with
  | none =>
    have hnone : ¬ ∃ e : Entry, e.Spelled s := by
      rintro ⟨e, he⟩
      rw [he.entry?_eq] at h
      cases h
    simp [hnone]
  | some net =>
    obtain ⟨e, he, -⟩ := entry?_eq_some_iff.1 h
    simp only [reduceCtorEq, false_iff, not_and]
    exact fun hno => absurd ⟨e, he⟩ hno

theorem parseList_eq (raw : String) : parseList raw = (entries raw).mapM readEntry := rfl

/-- A list is refused for the first of its entries that stands for nothing. -/
theorem parseList_eq_error_iff {raw text : String} : parseList raw = .error text ↔
    ∃ front back, entries raw = front ++ text :: back ∧
      (∀ t ∈ front, ∃ e : Entry, e.Spelled t) ∧ ¬ ∃ e : Entry, e.Spelled text := by
  rw [parseList_eq, mapM_eq_error_iff]
  constructor
  · rintro ⟨front, s, back, hl, hfront, hs⟩
    obtain ⟨hno, rfl⟩ := readEntry_eq_error_iff.1 hs
    refine ⟨front, back, hl, fun t ht => ?_, hno⟩
    obtain ⟨net, hnet⟩ := hfront t ht
    obtain ⟨e, he, -⟩ := entry?_eq_some_iff.1 (readEntry_eq_ok_iff.1 hnet)
    exact ⟨e, he⟩
  · rintro ⟨front, back, hl, hfront, hno⟩
    refine ⟨front, text, back, hl, fun t ht => ?_, readEntry_eq_error_iff.2 ⟨hno, rfl⟩⟩
    obtain ⟨e, he⟩ := hfront t ht
    exact ⟨e.network, readEntry_eq_ok_iff.2 he.entry?_eq⟩

theorem lists_of_mapM {texts : List String} {nets : List Network}
    (h : texts.mapM readEntry = .ok nets) : Lists texts nets := by
  induction texts generalizing nets with
  | nil =>
    cases h
    exact .nil
  | cons text texts ih =>
    rw [List.mapM_cons] at h
    obtain ⟨net, hnet, h⟩ := bind_eq_ok_iff.1 h
    obtain ⟨rest, hrest, h⟩ := bind_eq_ok_iff.1 h
    cases h
    obtain ⟨e, he, rfl⟩ := entry?_eq_some_iff.1 (readEntry_eq_ok_iff.1 hnet)
    exact .cons he (Entry.contains_network_iff he.fits) (ih hrest)

theorem lists_of_parseList {raw : String} {nets : List Network} (h : parseList raw = .ok nets) :
    Lists (entries raw) nets := lists_of_mapM h

/-- What the networks contain is what the entries stand for. -/
theorem Lists.contains_iff {texts : List String} {nets : List Network} (h : Lists texts nets)
    (ip : IpAddress) : (∃ net ∈ nets, net.contains ip = true) ↔
      ∃ text ∈ texts, ∃ e : Entry, e.Spelled text ∧ e.Matches ip := by
  induction h with
  | nil => simp
  | @cons text e net texts nets he hnet _ ih =>
    have hfirst : net.contains ip = true ↔ ∃ e : Entry, e.Spelled text ∧ e.Matches ip := by
      refine ⟨fun hc => ⟨e, he, (hnet ip).1 hc⟩, ?_⟩
      rintro ⟨e', he', hm⟩
      -- a text stands for one network, however it is understood
      have hsame : e'.network = e.network := Option.some.inj (he'.entry?_eq.symm.trans he.entry?_eq)
      have hc := (Entry.contains_network_iff he'.fits ip).2 hm
      rw [hsame, Entry.contains_network_iff he.fits] at hc
      exact (hnet ip).2 hc
    simp [hfirst, ih]

end Network
end BootServer
