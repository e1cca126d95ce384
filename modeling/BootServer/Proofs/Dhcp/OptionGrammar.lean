import BootServer.Dhcp.Packet
import BootServer.Proofs.Except
import BootServer.Proofs.Dhcp.OptionArea

/-! What an option area may look like. It is a run of pads and items and ends behind it, either with
the packet or with the end mark, after which anything may stand. In every other area some item is
cut off, and the first such item is the one that is told. What stands between two items is read for
itself, so pads, and items whose values are no good, can come in anywhere without a change to the
options that are read. -/
namespace BootServer.Dhcp

/-! ## Runs -/

/-- Pads and whole items one after the other, with the items in their order. -/
inductive Run : Octets → List Item → Prop where
  | nil : Run [] []
  | pad {front : Octets} {its : List Item} (h : Run front its) : Run (Code.pad :: front) its
  | item {i : Item} {front : Octets} {its : List Item} (hi : i.Fits) (h : Run front its) :
    Run (i.octets ++ front) (i :: its)

/-- Nothing is read any more. -/
inductive Ends : Octets → Prop where
  | exhausted : Ends []
  | marked (after : Octets) : Ends (Code.finish :: after)

/-- The item that begins at this offset has no length, or a value shorter than its length says. -/
inductive CutOff (offset : Nat) : Octets → ParseError → Prop where
  | lengthMissing {code : UInt8} (hpad : code ≠ Code.pad) (hfinish : code ≠ Code.finish) :
    CutOff offset [code] (.lengthMissing offset)
  | valueShort {code length : UInt8} {body : Octets} (hpad : code ≠ Code.pad)
    (hfinish : code ≠ Code.finish) (hshort : body.length < length.toNat) :
    CutOff offset (code :: length :: body) (.valueShort offset code length body.length)

variable {front mid rest area : Octets} {its extra : List Item} {offset : Nat} {e : ParseError}

theorem Item.length_octets (i : Item) : i.octets.length = 2 + i.value.length := by
  rw [Item.octets, List.length_cons, List.length_cons]
  omega

theorem items_pad (offset : Nat) (rest : Octets) :
    items offset (Code.pad :: rest) = items (offset + 1) rest := by
  have hpad : Code.pad ≠ Code.finish := by decide
  rw [items.eq_def]
  exact (if_neg hpad).trans (if_pos rfl)

/-- A run is read item by item, and what stands behind it at its own offset. -/
theorem Run.read (h : Run front its) (offset : Nat) (rest : Octets) :
    items offset (front ++ rest) = (items (offset + front.length) rest).map (its ++ ·) := by
  induction h generalizing offset with
  | nil =>
    rw [List.nil_append, List.length_nil, Nat.add_zero]
    cases items offset rest <;> rfl
  | @pad front its _ ih =>
    have hoffset : offset + 1 + front.length = offset + (Code.pad :: front).length := by
      rw [List.length_cons]
      omega
    rw [List.cons_append, items_pad, ih, hoffset]
  | @item i front its hi _ ih =>
    have hoffset : offset + 2 + i.value.length + front.length =
        offset + (i.octets ++ front).length := by
      rw [List.length_append, i.length_octets]
      omega
    rw [List.append_assoc, items_octets_append hi, ih, hoffset]
    cases items (offset + (i.octets ++ front).length) rest <;> rfl

theorem Item.Fits.run {i : Item} (h : i.Fits) : Run i.octets [i] := by
  have hrun := Run.item h .nil
  rwa [List.append_nil] at hrun

theorem Run.append (h : Run front its) (h' : Run mid extra) :
    Run (front ++ mid) (its ++ extra) := by
  induction h with
  | nil => exact h'
  | pad _ ih => exact .pad ih
  | item hi _ ih =>
    rw [List.append_assoc]
    exact .item hi ih

theorem Ends.items_eq (h : Ends rest) (offset : Nat) : items offset rest = .ok [] := by
  cases h with
  | exhausted => rw [items]
  | marked after =>
    rw [items.eq_def]
    exact if_pos rfl

theorem CutOff.items_eq (h : CutOff offset rest e) : items offset rest = .error e := by
  cases h with
  | lengthMissing hpad hfinish => rw [items, if_neg hfinish, if_neg hpad]
  | valueShort hpad hfinish hshort => rw [items, if_neg hfinish, if_neg hpad, if_pos hshort]

/-- Every area is a run up to where it ends or an item is cut off. -/
theorem exists_run (offset : Nat) (area : Octets) :
    ∃ front its rest, area = front ++ rest ∧ Run front its ∧
      (Ends rest ∨ ∃ e, CutOff (offset + front.length) rest e) := by
  induction offset, area using items.induct with
  | case1 offset => exact ⟨[], [], [], rfl, .nil, .inl .exhausted⟩
  | case2 offset rest => exact ⟨[], [], _, rfl, .nil, .inl (.marked rest)⟩
  | case3 offset rest _ ih =>
    obtain ⟨front, its, rest, rfl, hrun, hrest⟩ := ih
    refine ⟨Code.pad :: front, its, rest, rfl, .pad hrun, ?_⟩
    rwa [List.length_cons, Nat.add_comm front.length, ← Nat.add_assoc]
  | case4 offset code hfinish hpad =>
    exact ⟨[], [], _, rfl, .nil, .inr ⟨_, .lengthMissing hpad hfinish⟩⟩
  | case5 offset code hfinish hpad length body hshort =>
    exact ⟨[], [], _, rfl, .nil, .inr ⟨_, .valueShort hpad hfinish hshort⟩⟩
  | case6 offset code hfinish hpad length body hlong ih =>
    have hlength : (body.take length.toNat).length = length.toNat :=
      List.length_take_of_le (Nat.le_of_not_lt hlong)
    obtain ⟨front, its, rest, hbody, hrun, hrest⟩ := ih
    let i : Item := ⟨code, body.take length.toNat⟩
    have hfits : i.Fits :=
      ⟨hpad, hfinish, by rw [hlength]; exact Nat.le_of_lt_succ length.toNat_lt⟩
    refine ⟨i.octets ++ front, _, rest, ?_, .item hfits hrun, ?_⟩
    · rw [Item.octets, hlength, UInt8.ofNat_toNat, List.cons_append, List.cons_append,
        List.cons_append, List.cons_append, List.append_assoc, ← hbody, List.take_append_drop]
    · rwa [List.length_append, Item.length_octets, hlength, ← Nat.add_assoc, ← Nat.add_assoc]

theorem items_eq_ok_iff :
    items offset area = .ok its ↔
      ∃ front rest, area = front ++ rest ∧ Run front its ∧ Ends rest := by
  constructor
  · intro h
    obtain ⟨front, its', rest, rfl, hrun, hends | ⟨e, hcut⟩⟩ := exists_run offset area
    · rw [hrun.read, hends.items_eq] at h
      obtain rfl : its' = its := (List.append_nil its').symm.trans (Except.ok.inj h)
      exact ⟨front, rest, rfl, hrun, hends⟩
    · rw [hrun.read, hcut.items_eq] at h
      cases h
  · rintro ⟨front, rest, rfl, hrun, hends⟩
    rw [hrun.read, hends.items_eq]
    exact congrArg Except.ok (List.append_nil its)

theorem items_eq_error_iff :
    items offset area = .error e ↔
      ∃ front its rest, area = front ++ rest ∧ Run front its ∧
        CutOff (offset + front.length) rest e := by
  constructor
  · intro h
    obtain ⟨front, its, rest, rfl, hrun, hends | ⟨e', hcut⟩⟩ := exists_run offset area
    · rw [hrun.read, hends.items_eq] at h
      cases h
    · rw [hrun.read, hcut.items_eq] at h
      cases h
      exact ⟨front, its, rest, rfl, hrun, hcut⟩
  · rintro ⟨front, its, rest, rfl, hrun, hcut⟩
    rw [hrun.read, hcut.items_eq]
    rfl

/-! ## Offsets -/

/-- The same fault, so much further on. -/
def ParseError.later (n : Nat) : ParseError → ParseError
  | .lengthMissing offset => .lengthMissing (offset + n)
  | .valueShort offset code length left => .valueShort (offset + n) code length left
  | e => e

theorem ParseError.later_later (e : ParseError) (m n : Nat) :
    (e.later m).later n = e.later (m + n) := by
  cases e with
  | lengthMissing offset => exact congrArg ParseError.lengthMissing (Nat.add_assoc offset m n)
  | valueShort offset code length left =>
    exact congrArg (ParseError.valueShort · code length left) (Nat.add_assoc offset m n)
  | _ => rfl

theorem CutOff.later (h : CutOff offset rest e) (n : Nat) :
    CutOff (offset + n) rest (e.later n) := by
  cases h with
  | lengthMissing hpad hfinish => exact .lengthMissing hpad hfinish
  | valueShort hpad hfinish hshort => exact .valueShort hpad hfinish hshort

/-- Where an area begins only counts for the faults in it. -/
theorem items_later (offset n : Nat) (area : Octets) :
    items (offset + n) area = (items offset area).mapError (·.later n) := by
  obtain ⟨front, its, rest, rfl, hrun, hends | ⟨e, hcut⟩⟩ := exists_run offset area
  · rw [hrun.read, hrun.read, hends.items_eq, hends.items_eq]
    rfl
  · have hlater := hcut.later n
    rw [Nat.add_right_comm] at hlater
    rw [hrun.read, hrun.read, hcut.items_eq, hlater.items_eq]
    rfl

/-! ## Values -/

/-- The value of the item is none that its code admits. -/
inductive Item.Malformed (i : Item) : Prop where
  | messageType (hcode : i.code = Code.messageType)
    (h : ∀ t : MessageType, i.value.head? ≠ some t.code)
  | address (hcode : i.code = Code.requestedAddress ∨ i.code = Code.serverId)
    (h : i.value.length ≠ 4)
  | vendorClass (hcode : i.code = Code.vendorClass) (h : Text.Utf8.decode? i.value = none)
  | clientArch (hcode : i.code = Code.clientArch) (h : i.value.length < 2)

theorem MessageType.mem_all (t : MessageType) : t ∈ all := by
  cases t <;> decide

theorem MessageType.ofCode?_eq_none_iff {b : UInt8} :
    ofCode? b = none ↔ ∀ t : MessageType, b ≠ t.code := by
  rw [ofCode?, List.find?_eq_none]
  constructor
  · intro h t ht
    exact h t t.mem_all (by simpa using ht.symm)
  · intro h t _ ht
    exact h t (by simpa using ht : t.code = b).symm

theorem ofOctets?_eq_none_iff {bs : Octets} : Ipv4.ofOctets? bs = none ↔ bs.length ≠ 4 := by
  unfold Ipv4.ofOctets?
  split
  · simp
  · next hne =>
    refine iff_of_true rfl fun hlength => ?_
    match bs, hlength with
    | [a, b, c, d], _ => exact hne a b c d rfl

theorem Item.Malformed.of_ofItem? {i : Item} (h : PacketOption.ofItem? i = none) :
    i.Malformed := by
  unfold PacketOption.ofItem? at h
  by_cases hmessage : i.code = Code.messageType
  · refine .messageType hmessage fun t ht => ?_
    simp [hmessage, ht] at h
  rw [if_neg hmessage] at h
  by_cases hrequested : i.code = Code.requestedAddress
  · rw [if_pos hrequested, Option.map_eq_none_iff] at h
    exact .address (.inl hrequested) (ofOctets?_eq_none_iff.1 h)
  rw [if_neg hrequested] at h
  by_cases hserver : i.code = Code.serverId
  · rw [if_pos hserver, Option.map_eq_none_iff] at h
    exact .address (.inr hserver) (ofOctets?_eq_none_iff.1 h)
  rw [if_neg hserver] at h
  by_cases hclass : i.code = Code.vendorClass
  · have hne : Code.vendorClass ≠ Code.parameterList := by decide
    rw [hclass, if_neg hne, if_pos rfl, Option.map_eq_none_iff] at h
    exact .vendorClass hclass h
  by_cases harch : i.code = Code.clientArch
  · refine .clientArch harch ?_
    match hvalue : i.value with
    | [] => simp
    | [_] => simp
    | hi :: lo :: _ =>
      rw [harch, hvalue] at h
      cases h
  -- every other code takes any value
  rw [if_neg hclass, if_neg harch] at h
  repeat' split at h
  all_goals cases h

theorem Item.Malformed.ofItem?_eq_none {i : Item} (h : i.Malformed) :
    PacketOption.ofItem? i = none := by
  obtain ⟨code, value⟩ := i
  cases h with
  | messageType hcode h =>
    cases hcode
    refine Option.bind_eq_none_iff.2 fun b hb => Option.map_eq_none_iff.2 ?_
    rw [MessageType.ofCode?_eq_none_iff]
    rintro t rfl
    exact h t hb
  | address hcode h =>
    have hnone := ofOctets?_eq_none_iff.2 h
    rcases hcode with hcode | hcode
    · cases hcode
      exact Option.map_eq_none_iff.2 hnone
    · cases hcode
      exact Option.map_eq_none_iff.2 hnone
  | vendorClass hcode h =>
    cases hcode
    exact Option.map_eq_none_iff.2 h
  | clientArch hcode h =>
    cases hcode
    match value, h with
    | [], _ => rfl
    | [_], _ => rfl

theorem ofItem?_eq_none_iff {i : Item} : PacketOption.ofItem? i = none ↔ i.Malformed :=
  ⟨Item.Malformed.of_ofItem?, Item.Malformed.ofItem?_eq_none⟩

/-! ## Options -/

/-- What stands behind a run is read as if it stood alone, but for the offset of a fault. -/
theorem readOptions_append (h : Run front its) (back : Octets) :
    readOptions (front ++ back) =
      ((readOptions back).map (its.filterMap PacketOption.ofItem? ++ ·)).mapError
        (·.later front.length) := by
  have hback := items_later 0 front.length back
  rw [readOptions, readOptions, h.read, hback]
  cases items 0 back with
  | error e => rfl
  | ok its' => exact congrArg Except.ok List.filterMap_append

/-- What is put in at a boundary adds its own options, and moves a fault behind it. -/
theorem readOptions_insert (h : Run front its) (hmid : Run mid extra) (back : Octets) :
    (∀ options, readOptions (front ++ back) = .ok options → ∃ after,
      options = its.filterMap PacketOption.ofItem? ++ after ∧
      readOptions (front ++ mid ++ back) = .ok (its.filterMap PacketOption.ofItem? ++
        extra.filterMap PacketOption.ofItem? ++ after)) ∧
    ∀ e, readOptions (front ++ back) = .error e →
      readOptions (front ++ mid ++ back) = .error (e.later mid.length) := by
  rw [readOptions_append h, readOptions_append (h.append hmid), List.filterMap_append]
  cases readOptions back with
  | error e =>
    constructor
    · intro options hoptions
      cases hoptions
    · rintro _ ⟨⟩
      rw [ParseError.later_later, ← List.length_append]
      rfl
  | ok after =>
    constructor
    · rintro _ ⟨⟩
      exact ⟨after, rfl, rfl⟩
    · intro e he
      cases he

/-- The fixed part of a datagram from a client on an Ethernet, up to the cookie. -/
structure IsHeader (header : Octets) : Prop where
  length_eq : header.length = headerLength
  hardware : (header.drop 1).take 2 = [1, 6]
  cookie : header.drop 236 = cookie

/-- Behind a header the options are all that a packet can still be refused for. -/
theorem parse_header_append {header : Octets} (h : IsHeader header) (area : Octets) :
    (Packet.parse (header ++ area)).map (·.options) = readOptions area := by
  have hlength : header.length = 240 := h.length_eq
  have harea : (header ++ area).drop 240 = area := List.drop_left' hlength
  have hhardware : ((header ++ area).drop 1).take 2 = [1, 6] := by
    rw [List.drop_append_of_le_length (by omega),
      List.take_append_of_le_length (by rw [List.length_drop]; omega), h.hardware]
  have hcookie : ((header ++ area).drop 236).take 4 = cookie := by
    rw [List.drop_append_of_le_length (by omega), h.cookie]
    rfl
  have hlong : ¬ (header ++ area).length < headerLength := by
    rw [List.length_append, h.length_eq]
    omega
  unfold Packet.parse
  split
  · next htype hlen _ _ _ _ _ _ _ _ _ _ _ _ _ _ _ _ _ _ _ _ _ _ _ _ _ _ _ _ _ _ _ rest hdata =>
    rw [hdata] at harea hhardware hcookie hlong
    obtain ⟨rfl, rfl⟩ : htype = 1 ∧ hlen = 6 := by simpa using hhardware
    have hrest : rest.drop 206 = area := harea
    have hcookie : (rest.drop 202).take 4 = cookie := hcookie
    rw [if_neg hlong, if_neg (by decide), if_neg (not_not_intro hcookie), hrest]
    cases readOptions area <;> rfl
  · next hshort =>
    have hmore : (header ++ area).length = 206 + area.length + 34 := by
      rw [List.length_append, hlength]
      omega
    match header ++ area, hmore, hshort with
    | _ :: _ :: _ :: _ :: _ :: _ :: _ :: _ :: _ :: _ :: _ :: _ :: _ :: _ :: _ :: _ :: _
      :: _ :: _ :: _ :: _ :: _ :: _ :: _ :: _ :: _ :: _ :: _ :: _ :: _ :: _ :: _ :: _ :: _ :: _,
      _, hshort =>
      exact (hshort _ _ _ _ _ _ _ _ _ _ _ _ _ _ _ _ _ _ _ _ _ _ _ _ _ _ _ _ _ _ _ _ _ _ _ rfl).elim

/-- An area is read exactly if it is a run that ends, as the options that its items stand for, in
their order and without those whose values are no good. Every other area is refused for its first
item that is cut off. Pads, and items with values that are no good, change no option wherever they
come in between items. -/
theorem readOptions_exact (area : Octets) :
    (∀ options, readOptions area = .ok options ↔ ∃ front its rest, area = front ++ rest ∧
      Run front its ∧ Ends rest ∧ options = its.filterMap PacketOption.ofItem?) ∧
    (∀ e, readOptions area = .error e ↔ ∃ front its rest, area = front ++ rest ∧
      Run front its ∧ CutOff front.length rest e) ∧
    (∀ i, PacketOption.ofItem? i = none ↔ i.Malformed) ∧
    (∀ front its back mid extra, area = front ++ back → Run front its → Run mid extra →
      (∀ options, readOptions area = .ok options →
        (∃ after, options = its.filterMap PacketOption.ofItem? ++ after ∧
          readOptions (front ++ mid ++ back) = .ok (its.filterMap PacketOption.ofItem? ++
            extra.filterMap PacketOption.ofItem? ++ after)) ∧
        ((∀ i ∈ extra, i.Malformed) → readOptions (front ++ mid ++ back) = .ok options)) ∧
      ∀ e, readOptions area = .error e →
        readOptions (front ++ mid ++ back) = .error (e.later mid.length)) ∧
    ∀ header, IsHeader header →
      (Packet.parse (header ++ area)).map (·.options) = readOptions area := by
  refine ⟨fun options => ?_, fun e => ?_, fun i => ofItem?_eq_none_iff, ?_, fun header h => ?_⟩
  · rw [readOptions, map_eq_ok_iff]
    constructor
    · rintro ⟨its, hits, rfl⟩
      obtain ⟨front, rest, harea, hrun, hends⟩ := items_eq_ok_iff.1 hits
      exact ⟨front, its, rest, harea, hrun, hends, rfl⟩
    · rintro ⟨front, its, rest, harea, hrun, hends, rfl⟩
      exact ⟨its, items_eq_ok_iff.2 ⟨front, rest, harea, hrun, hends⟩, rfl⟩
  · have hmap : readOptions area = .error e ↔ items 0 area = .error e := by
      rw [readOptions]
      cases items 0 area <;> simp [Except.map]
    simp only [hmap, items_eq_error_iff, Nat.zero_add]
  · rintro front its back mid extra rfl hrun hmid
    obtain ⟨hok, herror⟩ := readOptions_insert hrun hmid back
    refine ⟨fun options hoptions => ⟨hok options hoptions, fun hmalformed => ?_⟩, herror⟩
    obtain ⟨after, rfl, hread⟩ := hok options hoptions
    have hnone : extra.filterMap PacketOption.ofItem? = [] :=
      List.filterMap_eq_nil_iff.2 fun i hi => ofItem?_eq_none_iff.2 (hmalformed i hi)
    rw [hread, hnone, List.append_nil]
  · exact parse_header_append h area

/-- A header without any names or addresses. -/
def blankHeader : Octets := [1, 1, 6] ++ Octets.zeros 233 ++ cookie

/-- A requested address of two octets, between a message type and a host name, is as if it were not
there, like the pad before it. -/
theorem readOptions_exact_inserted :
    let front : Octets := [0, 53, 1, 1]
    let back : Octets := [12, 1, 0x61, 255, 9]
    let mid : Octets := [0, 50, 2, 10, 0]
    let options := [PacketOption.messageType .discover, .other 12 [0x61]]
    readOptions (front ++ back) = .ok options ∧ readOptions (front ++ mid ++ back) = .ok options ∧
      (Packet.parse (blankHeader ++ (front ++ mid ++ back))).map (·.options) = .ok options := by
  intro front back mid options
  have hfits : ∀ i ∈ [Item.mk 53 [1], ⟨50, [10, 0]⟩, ⟨12, [0x61]⟩], i.Fits := by
    intro i hi
    constructor <;> revert i <;> decide
  have hfront : Run front [⟨53, [1]⟩] := .pad (hfits ⟨53, [1]⟩ (by decide)).run
  have hmid : Run mid [⟨50, [10, 0]⟩] := .pad (hfits ⟨50, [10, 0]⟩ (by decide)).run
  have hname : Run [12, 1, 0x61] [⟨12, [0x61]⟩] := (hfits ⟨12, [0x61]⟩ (by decide)).run
  have hmalformed : ∀ i ∈ [Item.mk 50 [10, 0]], i.Malformed :=
    List.forall_mem_singleton.2 (.address (.inl rfl) (by decide))
  obtain ⟨hread, -, -, hinsert, -⟩ := readOptions_exact (front ++ back)
  obtain ⟨-, -, -, -, hparse⟩ := readOptions_exact (front ++ mid ++ back)
  have hoptions : readOptions (front ++ back) = .ok options :=
    (hread options).2 ⟨front ++ [12, 1, 0x61], _, [255, 9], rfl, hfront.append hname, .marked [9],
      rfl⟩
  have hinserted := ((hinsert front _ back mid _ rfl hfront hmid).1 options hoptions).2 hmalformed
  have hheader : IsHeader blankHeader := ⟨rfl, rfl, rfl⟩
  exact ⟨hoptions, hinserted, (hparse blankHeader hheader).trans hinserted⟩

end BootServer.Dhcp
