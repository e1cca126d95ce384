import BootServer.Proofs.Dhcp.OptionArea
import BootServer.Proofs.Dhcp.Options

/-! Replies on the wire. A reply is read as a packet with the same header fields, its names cut to
what their fields hold, and its options are read back after the message type, in their order and
whatever their lengths, behind which there is nothing but the end mark and zeros. -/
namespace BootServer.Dhcp.Reply

variable {reply : Reply}

/-! ## Parts of a datagram -/

/-- The header up to the hardware address. -/
def front (reply : Reply) : Octets :=
  [2, 1, 6, reply.hops] ++ Octets.ofWord32 reply.xid ++ [0, 0] ++ Octets.ofWord16 reply.flags
    ++ reply.ciaddr.octets ++ reply.yiaddr.octets ++ reply.siaddr.octets ++ reply.giaddr.octets
    ++ reply.mac.octets

/-- What stands behind the hardware address. -/
def names (reply : Reply) (area : Octets) : Octets :=
  Octets.zeros 10 ++ (field 64 reply.sname ++ (field 128 reply.file ++ (cookie ++ area)))

/-- The items of a reply, the message type before its options. -/
def items (reply : Reply) : List Item :=
  ⟨Code.messageType, [reply.messageType.code]⟩ :: Options.written reply.options

/-- How many zeros stand behind the end mark. -/
def padding (reply : Reply) : Nat :=
  minimumSize - (reply.header ++ reply.items.flatMap Item.octets ++ [Code.finish]).length

def area (reply : Reply) : Octets :=
  reply.items.flatMap Item.octets ++ Code.finish :: Octets.zeros reply.padding

theorem encode_eq (reply : Reply) : reply.encode = reply.header ++ reply.area := by
  have htype : encodeItem Code.messageType [reply.messageType.code] =
      Item.octets ⟨Code.messageType, [reply.messageType.code]⟩ := by
    rw [encodeItem_eq, fragments_of_length_le (by simp) (by simp), List.flatMap_singleton]
  rw [encode, area, padding, items, htype, Options.encode_eq]
  simp [List.flatMap_cons]

theorem header_append (reply : Reply) (area : Octets) :
    reply.header ++ area = reply.front ++ reply.names area := by
  simp [header, front, names]

theorem length_field (size : Nat) (text : Option String) : (field size text).length = size :=
  Octets.length_fit size _

theorem length_front (reply : Reply) : reply.front.length = 34 := rfl

theorem length_header (reply : Reply) : reply.header.length = headerLength := by
  have h := header_append reply []
  rw [List.append_nil] at h
  rw [h, List.length_append, length_front]
  simp [names, length_field, cookie, headerLength]

theorem drop_encode (reply : Reply) : reply.encode.drop headerLength = reply.area := by
  rw [encode_eq, List.drop_left' reply.length_header]

theorem minimumSize_le (reply : Reply) : minimumSize ≤ reply.encode.length := by
  have hdef : reply.padding =
      minimumSize - (reply.header ++ reply.items.flatMap Item.octets ++ [Code.finish]).length := rfl
  rw [encode_eq, area]
  simp only [List.length_append, List.length_cons, List.length_nil, Octets.length_zeros] at hdef ⊢
  omega

/-! ## Fields -/

/-- A field holds as much of a text as leaves room for one zero, and zeros up to its end. -/
theorem field_eq (size : Nat) (h : 0 < size) (text : Option String) :
    ∃ n, 0 < n ∧
      field size text = (Octets.ofText (text.getD "")).take (size - 1) ++ Octets.zeros n := by
  have hlen := List.length_take_le (size - 1) (Octets.ofText (text.getD ""))
  refine ⟨size - ((Octets.ofText (text.getD "")).take (size - 1)).length, by omega, ?_⟩
  rw [field, Octets.fit, List.take_of_length_le (by omega)]

section

variable (reply) (area : Octets)

theorem sname_names : ((reply.names area).drop 10).take 64 = field 64 reply.sname := by
  rw [names, List.drop_left' (Octets.length_zeros 10), List.take_left' (length_field 64 _)]

theorem file_names : ((reply.names area).drop 74).take 128 = field 128 reply.file := by
  have h : (Octets.zeros 10 ++ field 64 reply.sname).length = 74 := by
    simp [length_field]
  rw [names, ← List.append_assoc, List.drop_left' h, List.take_left' (length_field 128 _)]

theorem drop_names : (reply.names area).drop 202 = cookie ++ area := by
  have h : (Octets.zeros 10 ++ field 64 reply.sname ++ field 128 reply.file).length = 202 := by
    simp [length_field]
  rw [names, ← List.append_assoc, ← List.append_assoc, List.drop_left' h]

theorem area_names : (reply.names area).drop 206 = area := by
  show (reply.names area).drop (202 + 4) = area
  rw [← List.drop_drop, drop_names]
  rfl

/-- The octets behind the hardware address, by their place in the datagram. -/
theorem drop_header_append (n : Nat) :
    (reply.header ++ area).drop (34 + n) = (reply.names area).drop n := by
  rw [header_append, ← List.drop_drop, List.drop_left' reply.length_front]

end

/-! ## Reading -/

/-- The packet as which a reply with these items is read. -/
def packet (reply : Reply) (its : List Item) : Packet where
  op := 2
  htype := 1
  hlen := 6
  hops := reply.hops
  xid := reply.xid
  secs := 0
  flags := reply.flags
  ciaddr := reply.ciaddr
  yiaddr := reply.yiaddr
  siaddr := reply.siaddr
  giaddr := reply.giaddr
  mac := reply.mac
  sname := Packet.fieldText (field 64 reply.sname)
  file := Packet.fieldText (field 128 reply.file)
  options := its.filterMap PacketOption.ofItem?

/-- The header is read whatever stands behind it, and what does is read as the option area. -/
theorem parse_header_append (reply : Reply) (area : Octets) :
    Packet.parse (reply.header ++ area) = (Dhcp.items 0 area).map reply.packet := by
  have hlong : ¬ (reply.header ++ area).length < headerLength := by
    simp [length_header]
  have hcookie : ((reply.names area).drop 202).take 4 = cookie := by
    rw [drop_names]
    rfl
  rw [header_append] at hlong ⊢
  simp only [front, Octets.ofWord32, Octets.ofWord16, Ipv4.octets, HardwareAddress.octets,
    List.cons_append, List.nil_append] at hlong ⊢
  rw [Packet.parse, if_neg hlong, if_neg (by decide), if_neg (not_not_intro hcookie), sname_names,
    file_names, area_names, Octets.word32_ofWord32, Octets.word16_ofWord16, readOptions]
  cases Dhcp.items 0 area <;> rfl

theorem fits_of_mem_items (h : ∀ o ∈ reply.options, o.1 ≠ Code.pad ∧ o.1 ≠ Code.finish) :
    ∀ i ∈ reply.items, i.Fits := by
  have hpad : Code.messageType ≠ Code.pad := by decide
  have hfinish : Code.messageType ≠ Code.finish := by decide
  intro i hi
  rcases List.mem_cons.1 hi with rfl | hi
  · exact ⟨hpad, hfinish, by simp⟩
  · exact Options.fits_of_mem_written h i hi

theorem items_area (h : ∀ o ∈ reply.options, o.1 ≠ Code.pad ∧ o.1 ≠ Code.finish) :
    Dhcp.items 0 reply.area = .ok reply.items :=
  Dhcp.items_area (fits_of_mem_items h) 0 _

/-- A reply is read as a packet with its fields and its items. -/
theorem parse_encode (h : ∀ o ∈ reply.options, o.1 ≠ Code.pad ∧ o.1 ≠ Code.finish) :
    Packet.parse reply.encode = .ok (reply.packet reply.items) := by
  rw [encode_eq, parse_header_append, items_area h]
  rfl

/-- The items of a reply whose options have different codes are joined to the message type and the
options. -/
theorem joined_items (h : (Code.messageType :: Options.codes reply.options).Nodup) :
    joined reply.items = (Code.messageType, [reply.messageType.code]) :: reply.options := by
  -- the message type is written as any option that fits into one item
  have hwritten : reply.items =
      Options.written ((Code.messageType, [reply.messageType.code]) :: reply.options) := by
    rw [Options.written, List.flatMap_cons, fragments_of_length_le (by simp) (by simp)]
    rfl
  rw [hwritten]
  exact Options.joined_written h

/-- A datagram conveys a reply: it is read as a packet with the header fields of the reply, and its
option area as items that make up the reply's options behind the message type. -/
structure Conveyed (reply : Reply) (data : Octets) (p : Packet) (its : List Item) : Prop where
  parsed : Packet.parse data = .ok p
  op : p.op = 2
  htype : p.htype = 1
  hlen : p.hlen = 6
  hops : p.hops = reply.hops
  xid : p.xid = reply.xid
  flags : p.flags = reply.flags
  ciaddr : p.ciaddr = reply.ciaddr
  yiaddr : p.yiaddr = reply.yiaddr
  siaddr : p.siaddr = reply.siaddr
  giaddr : p.giaddr = reply.giaddr
  mac : p.mac = reply.mac
  /-- The packet has the options that the items stand for. -/
  options : p.options = its.filterMap PacketOption.ofItem?
  read : Dhcp.items 0 (data.drop headerLength) = .ok its
  fits : ∀ i ∈ its, i.Fits
  /-- There is nothing else in the option area, and only zeros behind its end. -/
  area : ∃ n, data.drop headerLength =
    its.flatMap Item.octets ++ Code.finish :: Octets.zeros n
  joined : joined its = (Code.messageType, [reply.messageType.code]) :: reply.options
  sname : ∃ n, 0 < n ∧ (data.drop 44).take 64 =
    (Octets.ofText (reply.sname.getD "")).take 63 ++ Octets.zeros n
  file : ∃ n, 0 < n ∧ (data.drop 108).take 128 =
    (Octets.ofText (reply.file.getD "")).take 127 ++ Octets.zeros n
  length_le : 300 ≤ data.length

/-- A reply whose options can be told apart when they are read back: no code is that of a pad, of
the end mark or of the message type, and none is there twice. -/
structure Plain (reply : Reply) : Prop where
  unmarked : ∀ o ∈ reply.options, o.1 ≠ Code.pad ∧ o.1 ≠ Code.finish
  distinct : (Code.messageType :: Options.codes reply.options).Nodup

/-- A reply stays plain however many options are set, and set again. -/
theorem plain_setAll (blank : Reply) {options : List (UInt8 × Octets)}
    (hcodes : ∀ o ∈ options, o.1 ≠ 0 ∧ o.1 ≠ 53 ∧ o.1 ≠ 255) :
    (setAll { blank with options := [] } options).Plain := by
  obtain ⟨all, heq, hnodup, hmem⟩ := setAll_spec { blank with options := [] } options
  have hset : ∀ c ∈ Options.codes all, c ≠ 0 ∧ c ≠ 53 ∧ c ≠ 255 := by
    intro c hc
    rcases hmem c hc with h | h
    · cases h
    · obtain ⟨o, ho, rfl⟩ := List.mem_map.1 h
      exact hcodes o ho
  rw [heq]
  constructor
  case unmarked =>
    intro o ho
    have h := hset o.1 (List.mem_map_of_mem ho)
    exact ⟨h.1, h.2.2⟩
  case distinct => exact List.nodup_cons.2 ⟨fun h => (hset _ h).2.1 rfl, hnodup List.nodup_nil⟩

theorem Plain.conveyed (h : reply.Plain) :
    Conveyed reply reply.encode (reply.packet reply.items) reply.items := by
  constructor
  case parsed => exact parse_encode h.unmarked
  case read => rw [drop_encode, items_area h.unmarked]
  case fits => exact fits_of_mem_items h.unmarked
  case area => exact ⟨reply.padding, drop_encode reply⟩
  case joined => exact joined_items h.distinct
  case sname =>
    obtain ⟨n, hn, hfield⟩ := field_eq 64 (by decide) reply.sname
    refine ⟨n, hn, ?_⟩
    rw [encode_eq, drop_header_append reply _ 10, sname_names, hfield]
  case file =>
    obtain ⟨n, hn, hfield⟩ := field_eq 128 (by decide) reply.file
    refine ⟨n, hn, ?_⟩
    rw [encode_eq, drop_header_append reply _ 74, file_names, hfield]
  case length_le => exact minimumSize_le reply
  all_goals rfl

/-- A reply is conveyed by its datagram, however many options were set, and set again, under codes
that are neither a pad, the end mark nor the message type, and whatever their values. -/
theorem encode_conveys (blank : Reply) (options : List (UInt8 × Octets))
    (hcodes : ∀ o ∈ options, o.1 ≠ 0 ∧ o.1 ≠ 53 ∧ o.1 ≠ 255) :
    ∃ p its, Conveyed (setAll { blank with options := [] } options)
      (setAll { blank with options := [] } options).encode p its := by
  have hplain := plain_setAll blank hcodes
  exact ⟨_, _, hplain.conveyed⟩

/-- An offer without options. -/
def offer : Reply where
  messageType := .offer
  xid := 7
  flags := 0x8000
  hops := 0
  mac := ⟨0, 17, 34, 51, 68, 85⟩
  ciaddr := .unspecified
  yiaddr := .unspecified
  siaddr := .unspecified
  giaddr := .unspecified
  sname := none
  file := some "undionly.kpxe"
  options := []
  destination := ⟨.v4 .broadcast, 68⟩

/-- A value of three fragments, an empty one, and one that is set again. -/
def settings : List (UInt8 × Octets) :=
  [(60, [1, 2]), (119, List.replicate 600 7), (12, []), (60, [3])]

theorem encode_conveys_fragmented :
    (∀ o ∈ settings, o.1 ≠ 0 ∧ o.1 ≠ 53 ∧ o.1 ≠ 255) ∧
      (offer.setAll settings).options = [(60, [3]), (119, List.replicate 600 7), (12, [])] ∧
      ∃ p its, Conveyed (offer.setAll settings) (offer.setAll settings).encode p its := by
  have hcodes : ∀ o ∈ settings, o.1 ≠ 0 ∧ o.1 ≠ 53 ∧ o.1 ≠ 255 := by
    simp only [settings, List.forall_mem_cons]
    decide
  exact ⟨hcodes, rfl, encode_conveys offer settings hcodes⟩

end BootServer.Dhcp.Reply
