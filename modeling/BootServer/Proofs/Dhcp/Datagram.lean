import BootServer.Proofs.Dhcp.Reservation
import BootServer.Proofs.Dhcp.Wire
import BootServer.Proofs.Except

/-! What one datagram can cause. It is answered if it can be read, is the request of a client, bears
the signature, and the responder has something to reply; the answer then repeats by what the client
knows its request, and goes where the client listens. Answers are replies, and replies are never
answered, so two responders cannot keep each other busy. -/
namespace BootServer.Dhcp

/-! ## Reading -/

namespace Packet

variable {p : Packet} {data : Octets}

/-- What a datagram has that is read as a packet: a whole header, for Ethernet, and behind it items
that are all whole. -/
structure ReadFrom (p : Packet) (data : Octets) : Prop where
  length_le : 240 ≤ data.length
  op : data[0]? = some p.op
  htype : data[1]? = some 1
  hlen : data[2]? = some 6
  cookie : (data.drop 236).take 4 = [0x63, 0x82, 0x53, 0x63]
  items : ∃ its, items 0 (data.drop 240) = .ok its ∧
    p.options = its.filterMap PacketOption.ofItem?

theorem readFrom_of_parse (h : parse data = .ok p) : p.ReadFrom data := by
  unfold parse at h
  split at h
  · next rest =>
    split at h
    · cases h
    · next hlong =>
      split at h
      · cases h
      · next hethernet =>
        split at h
        · cases h
        · next hcookie =>
          obtain ⟨options, hread, hp⟩ := bind_eq_ok_iff.1 h
          obtain ⟨its, hits, hoptions⟩ := map_eq_ok_iff.1 hread
          cases hp
          simp only [ne_eq, decide_not, Bool.or_eq_true, Bool.not_eq_eq_eq_not, Bool.not_true,
            decide_eq_false_iff_not, not_or, Decidable.not_not] at hethernet
          obtain ⟨htype, hlen⟩ := hethernet
          exact ⟨Nat.le_of_not_lt hlong, rfl, congrArg some htype, congrArg some hlen,
            Decidable.not_not.1 hcookie, its, hits, hoptions.symm⟩
  · cases h

end Packet

namespace Request

variable {r : Request} {p : Packet} {peer : Endpoint} {localPort : UInt16}

/-- Replies and packets without a message type are no requests, and all others are. -/
theorem ofPacket?_eq_none_iff :
    ofPacket? p peer localPort = none ↔ p.op ≠ 1 ∨ p.messageType? = none := by
  rw [ofPacket?, Packet.isRequest]
  by_cases hop : p.op = 1
  · simp [hop]
  · simp [hop]

/-- What a request has of the packet it was read from, as far as its answer depends on it. -/
structure ReadFrom (r : Request) (p : Packet) (peer : Endpoint) (localPort : UInt16) : Prop where
  op : p.op = 1
  messageType : p.messageType? = some r.messageType
  xid : r.xid = p.xid
  flags : r.flags = p.flags
  hops : r.hops = p.hops
  mac : r.mac = p.mac
  ciaddr : r.ciaddr = p.ciaddr
  giaddr : r.giaddr = p.giaddr
  peer : r.peer = peer
  localPort : r.localPort = localPort

theorem readFrom_of_ofPacket? (hr : ofPacket? p peer localPort = some r) :
    r.ReadFrom p peer localPort := by
  rw [ofPacket?] at hr
  split at hr
  · next hop =>
    obtain ⟨t, ht, rfl⟩ := Option.map_eq_some_iff.1 hr
    exact ⟨by simpa [Packet.isRequest] using hop, ht, rfl, rfl, rfl, rfl, rfl, rfl, rfl, rfl⟩
  · cases hr

end Request

/-- A reply is read as a packet whose first option is the message type. -/
theorem Reply.head?_packet (reply : Reply) :
    (reply.packet reply.items).options.head? = some (.messageType reply.messageType) := by
  have htype : PacketOption.ofItem? ⟨Code.messageType, [reply.messageType.code]⟩ =
      some (.messageType reply.messageType) := by
    simp [PacketOption.ofItem?]
  show (List.filterMap _ reply.items).head? = _
  rw [Reply.items, List.filterMap_cons_some htype]
  rfl

namespace Responder

variable {h : Responder} {r : Request} {t : MessageType} {reply : Reply}
  {data : Octets} {peer : Endpoint} {localPort : UInt16}

/-! ## Requests without a reply -/

/-- What keeps a responder from replying to a request that bears the signature. A lookup fails if
the store fails or takes too long. -/
inductive Declines (h : Responder) (r : Request) : Prop where
  | failed {cause : LookupError} :
      h.mode ≠ .autoProxy → h.said r = .error cause → Declines h r
  | unknown : h.mode ≠ .autoProxy → h.said r = .ok none → Declines h r
  | forbidden {record : Record} : h.mode ≠ .autoProxy → h.said r = .ok (some record) →
      record.boot.allowed = false → Declines h r
  | unaddressed {record : Record} : h.mode = .reservation → h.said r = .ok (some record) →
      record.lease.address = none → Declines h r
  | unbootable : r.binary? = none → Declines h r

theorem Replies.binary? (hreplies : h.Replies r reply) : ∃ binary, r.binary? = some binary := by
  cases hreplies with
  | reserved _ _ _ _ hb => exact ⟨_, hb⟩
  | proxied _ _ _ _ hb => exact ⟨_, hb⟩
  | automatic _ _ hb => exact ⟨_, hb⟩

/-- In the modes that need a record there is one, and with a reservation it has an address. -/
theorem Replies.record (hreplies : h.Replies r reply) (hm : h.mode ≠ .autoProxy) :
    ∃ record, h.said r = .ok (some record) ∧ record.boot.allowed = true ∧
      (h.mode = .reservation → record.lease.address ≠ none) := by
  cases hreplies with
  | reserved _ _ hsaid hallowed _ hip => exact ⟨_, hsaid, hallowed, fun _ => by simp [hip]⟩
  | proxied hmode _ hsaid hallowed => exact ⟨_, hsaid, hallowed, fun he => by simp [hmode] at he⟩
  | automatic hmode => exact absurd hmode hm

theorem Declines.not_replies (hdeclines : h.Declines r) : ¬ h.Replies r reply := by
  intro hreplies
  cases hdeclines with
  | failed hm hfailed =>
    obtain ⟨record, hsaid, -⟩ := hreplies.record hm
    simp [hfailed] at hsaid
  | unknown hm hunknown =>
    obtain ⟨record, hsaid, -⟩ := hreplies.record hm
    simp [hunknown] at hsaid
  | forbidden hm hfound hforbidden =>
    obtain ⟨record, hsaid, hallowed, -⟩ := hreplies.record hm
    rw [hfound] at hsaid
    cases hsaid
    simp [hforbidden] at hallowed
  | unaddressed hmode hfound hnone =>
    obtain ⟨record, hsaid, -, hip⟩ := hreplies.record (by simp [hmode])
    rw [hfound] at hsaid
    cases hsaid
    exact hip hmode hnone
  | unbootable hnone =>
    obtain ⟨binary, hb⟩ := hreplies.binary?
    simp [hnone] at hb

/-- There is no other reason than these. -/
theorem replies_or_declines (h : Responder) (ht : r.messageType.reply? = some t) :
    (∃ reply, h.Replies r reply) ∨ h.Declines r := by
  cases hb : r.binary? with
  | none => exact .inr (.unbootable hb)
  | some binary =>
    by_cases hm : h.mode = .autoProxy
    · exact .inl ⟨_, .automatic hm ht hb⟩
    cases hsaid : h.said r with
    | error cause => exact .inr (.failed hm hsaid)
    | ok found =>
      cases found with
      | none => exact .inr (.unknown hm hsaid)
      | some record =>
        cases hallowed : record.boot.allowed with
        | false => exact .inr (.forbidden hm hsaid hallowed)
        | true =>
          cases hmode : h.mode with
          | proxy => exact .inl ⟨_, .proxied hmode ht hsaid hallowed hb⟩
          | autoProxy => exact absurd hmode hm
          | reservation =>
            cases hip : record.lease.address with
            | none => exact .inr (.unaddressed hmode hsaid hip)
            | some ip => exact .inl ⟨_, .reserved hmode ht hsaid hallowed hb hip⟩

/-! ## Datagrams without an answer -/

/-- What keeps a responder from answering a datagram: it cannot be read, is a reply, has no message
type, is not from a client that is to boot, or there is nothing to reply to it. -/
inductive Drops (h : Responder) (data : Octets) (peer : Endpoint) (localPort : UInt16) : Prop where
  | unreadable {e : ParseError} : Packet.parse data = .error e → Drops h data peer localPort
  | notRequest {p : Packet} :
      Packet.parse data = .ok p → p.op ≠ 1 → Drops h data peer localPort
  | untyped {p : Packet} :
      Packet.parse data = .ok p → p.messageType? = none → Drops h data peer localPort
  | unsigned {p : Packet} {r : Request} : Packet.parse data = .ok p →
      Request.ofPacket? p peer localPort = some r → ¬ r.BearsSignature → Drops h data peer localPort
  | declined {p : Packet} {r : Request} : Packet.parse data = .ok p →
      Request.ofPacket? p peer localPort = some r → h.Declines r → Drops h data peer localPort

theorem datagram_of_parse_eq_error {e : ParseError} (hp : Packet.parse data = .error e) :
    h.datagram data peer localPort = { result := none } := by
  simp only [datagram, hp]

theorem datagram_of_ofPacket?_eq_none {p : Packet} (hp : Packet.parse data = .ok p)
    (hr : Request.ofPacket? p peer localPort = none) :
    h.datagram data peer localPort = { result := none } := by
  simp only [datagram, hp, hr]

/-- A request is answered by its reply, if it is handled without a failure and there is one. -/
theorem datagram_of_ofPacket?_eq_some {p : Packet} (hp : Packet.parse data = .ok p)
    (hr : Request.ofPacket? p peer localPort = some r) {b : Octets} {dest : Endpoint} :
    (h.datagram data peer localPort).result = some (b, dest) ↔
      ∃ reply, (h.handle r).result = .ok (some reply) ∧ b = reply.encode ∧
        dest = reply.destination := by
  simp only [datagram, hp, hr]
  cases (h.handle r).result with
  | error failure => simp
  | ok found =>
    cases found with
    | none => simp
    | some reply => simp [eq_comm]

/-- The datagrams that are answered, and their answers. -/
theorem datagram_eq_some_iff {b : Octets} {dest : Endpoint} :
    (h.datagram data peer localPort).result = some (b, dest) ↔ ∃ p r reply,
      Packet.parse data = .ok p ∧ Request.ofPacket? p peer localPort = some r ∧
      r.BearsSignature ∧ h.Replies r reply ∧ b = reply.encode ∧ dest = reply.destination := by
  cases hp : Packet.parse data with
  | error e => simp [datagram_of_parse_eq_error hp]
  | ok p =>
    cases hr : Request.ofPacket? p peer localPort with
    | none => simp [datagram_of_ofPacket?_eq_none hp hr, hr]
    | some r => simp [datagram_of_ofPacket?_eq_some hp hr, handle_eq_reply_iff, hr, and_assoc]

/-- A datagram is dropped for one of the reasons above, and for no other. -/
theorem datagram_eq_none_iff :
    (h.datagram data peer localPort).result = none ↔ h.Drops data peer localPort := by
  constructor
  · intro hnone
    cases hp : Packet.parse data with
    | error e => exact .unreadable hp
    | ok p =>
      cases hr : Request.ofPacket? p peer localPort with
      | none =>
        rcases Request.ofPacket?_eq_none_iff.1 hr with hop | htype
        · exact .notRequest hp hop
        · exact .untyped hp htype
      | some r =>
        by_cases hsigned : r.BearsSignature
        · obtain ⟨t, ht⟩ := hsigned.reply?
          rcases h.replies_or_declines ht with ⟨reply, hreplies⟩ | hdeclines
          · have hsome := datagram_eq_some_iff.2 ⟨p, r, reply, hp, hr, hsigned, hreplies, rfl, rfl⟩
            rw [hnone] at hsome
            cases hsome
          · exact .declined hp hr hdeclines
        · exact .unsigned hp hr hsigned
  · intro hdrops
    refine Option.eq_none_iff_forall_ne_some.2 ?_
    rintro ⟨b, dest⟩ hsome
    -- whatever was sent answers a request that bears the signature and is replied to
    obtain ⟨p, r, reply, hp, hr, hsigned, hreplies, -⟩ := datagram_eq_some_iff.1 hsome
    cases hdrops with
    | unreadable hp' => simp [hp] at hp'
    | notRequest hp' hop =>
      cases hp.symm.trans hp'
      simp [Request.ofPacket?_eq_none_iff.2 (.inl hop)] at hr
    | untyped hp' htype =>
      cases hp.symm.trans hp'
      simp [Request.ofPacket?_eq_none_iff.2 (.inr htype)] at hr
    | unsigned hp' hr' hunsigned =>
      cases hp.symm.trans hp'
      cases hr.symm.trans hr'
      exact hunsigned hsigned
    | declined hp' hr' hdeclines =>
      cases hp.symm.trans hp'
      cases hr.symm.trans hr'
      exact hdeclines.not_replies hreplies

/-! ## Answers -/

/-- No option of a reply is taken for a pad or for the end mark if no entry can be. -/
theorem unmarked_offering {o : BootOptions} {ip : Ipv4} {lease : List (UInt8 × Option Octets)}
    (hpad : Code.pad ∉ (h.entries o lease).map Prod.fst)
    (hfinish : Code.finish ∉ (h.entries o lease).map Prod.fst) :
    ∀ option ∈ (h.offering r t o ip lease).options,
      option.1 ≠ Code.pad ∧ option.1 ≠ Code.finish := by
  intro option hmem
  have hcode := codes_offering option hmem
  exact ⟨fun he => hpad (he ▸ hcode), fun he => hfinish (he ▸ hcode)⟩

/-- A reply is an offering to its request whatever the mode, and its options can be told from pads
and from the end mark. -/
theorem Replies.offered (hreplies : h.Replies r reply) : ∃ t o ip lease,
    r.messageType.reply? = some t ∧ reply = h.offering r t o ip lease ∧
      ∀ option ∈ reply.options, option.1 ≠ Code.pad ∧ option.1 ≠ Code.finish := by
  have hboot : Code.pad ∉ ([54, 60, 43, 97] : List UInt8) ∧
      Code.finish ∉ ([54, 60, 43, 97] : List UInt8) := by decide
  cases hreplies with
  | reserved _ ht =>
    refine ⟨_, _, _, _, ht, rfl, unmarked_offering ?_ ?_⟩
    · rw [codes_leaseEntries]
      decide
    · rw [codes_leaseEntries]
      decide
  | proxied _ ht => exact ⟨_, _, _, _, ht, rfl, unmarked_offering hboot.1 hboot.2⟩
  | automatic _ ht => exact ⟨_, _, _, _, ht, rfl, unmarked_offering hboot.1 hboot.2⟩

/-- The datagram is the request of a client that is to boot. -/
structure Asks (data : Octets) (peer : Endpoint) (localPort : UInt16) (p : Packet) (r : Request) :
    Prop where
  parsed : Packet.parse data = .ok p
  read : p.ReadFrom data
  op : p.op = 1
  type : p.messageType? = some .discover ∨ p.messageType? = some .request
  request : Request.ofPacket? p peer localPort = some r
  signature : r.BearsSignature

/-- The datagram `b` is a reply to a packet, and is read as the packet `q`. -/
structure Answers (p : Packet) (b : Octets) (q : Packet) : Prop where
  parsed : Packet.parse b = .ok q
  op : q.op = 2
  htype : q.htype = 1
  hlen : q.hlen = 6
  hops : q.hops = p.hops
  xid : q.xid = p.xid
  secs : q.secs = 0
  flags : q.flags = p.flags
  ciaddr : q.ciaddr = p.ciaddr
  giaddr : q.giaddr = p.giaddr
  mac : q.mac = p.mac
  /-- The option area begins with the message type. -/
  first : ∃ t : MessageType, (b.drop 240).take 3 = [53, 1, t.code] ∧
    q.options.head? = some (.messageType t) ∧
    (p.messageType? = some .discover ∧ t = .offer ∨ p.messageType? = some .request ∧ t = .ack)

/-- Where the answer to a packet goes. -/
structure GoesTo (p : Packet) (peer : Endpoint) (localPort : UInt16) (dest : Endpoint) : Prop where
  relayed : p.giaddr ≠ ⟨0, 0, 0, 0⟩ → dest = ⟨.v4 p.giaddr, 67⟩
  proxied : p.giaddr = ⟨0, 0, 0, 0⟩ → localPort = 4011 → dest = peer
  addressed : p.giaddr = ⟨0, 0, 0, 0⟩ → localPort ≠ 4011 → p.ciaddr ≠ ⟨0, 0, 0, 0⟩ →
    dest = ⟨.v4 p.ciaddr, 68⟩
  broadcast : p.giaddr = ⟨0, 0, 0, 0⟩ → localPort ≠ 4011 → p.ciaddr = ⟨0, 0, 0, 0⟩ →
    dest = ⟨.v4 ⟨255, 255, 255, 255⟩, 68⟩

theorem goesTo_destinationFor {p : Packet} (hfrom : r.ReadFrom p peer localPort) :
    GoesTo p peer localPort (Reply.destinationFor r) := by
  rw [Reply.destinationFor, hfrom.ciaddr, hfrom.giaddr, hfrom.peer, hfrom.localPort]
  constructor
  case relayed =>
    intro hrelay
    simp [Ipv4.isUnspecified, Ipv4.unspecified, hrelay, serverPort]
  case proxied =>
    intro hdirect hproxy
    simp [Ipv4.isUnspecified, Ipv4.unspecified, hdirect, hproxy, proxyPort]
  case addressed =>
    intro hdirect hserver haddress
    simp [Ipv4.isUnspecified, Ipv4.unspecified, hdirect, hserver, haddress, proxyPort, clientPort]
  case broadcast =>
    intro hdirect hserver hnone
    simp [Ipv4.isUnspecified, Ipv4.unspecified, Ipv4.broadcast, hdirect, hserver, hnone, proxyPort,
      clientPort]

/-- A reply answers the packet of its request. -/
theorem Replies.answers {p : Packet} (hreplies : h.Replies r reply)
    (hfrom : r.ReadFrom p peer localPort) :
    Answers p reply.encode (reply.packet reply.items) := by
  obtain ⟨t, o, ip, lease, ht, rfl, hcodes⟩ := hreplies.offered
  constructor
  case parsed => exact Reply.parse_encode hcodes
  case hops => exact hfrom.hops
  case xid => exact hfrom.xid
  case flags => exact hfrom.flags
  case ciaddr => exact hfrom.ciaddr
  case giaddr => exact hfrom.giaddr
  case mac => exact hfrom.mac
  case first =>
    refine ⟨t, ?_, Reply.head?_packet _, ?_⟩
    · exact congrArg (List.take 3) (Reply.drop_encode _)
    · simpa [hfrom.messageType] using Request.reply?_eq_some_iff.1 ht
  all_goals rfl

/-- All that one datagram can cause. What is sent is one datagram at most; a datagram that has an
answer asks for it, the answer is one to it and goes where it should, and no responder answers the
answer or asks its store about it. Datagrams without an answer are those that are dropped. -/
theorem datagram_answered (h : Responder) (data : Octets) (peer : Endpoint) (localPort : UInt16) :
    (∀ b dest, (h.datagram data peer localPort).result = some (b, dest) → ∃ p r q,
      Asks data peer localPort p r ∧ Answers p b q ∧ GoesTo p peer localPort dest ∧
      ∀ (h' : Responder) (peer' : Endpoint) (localPort' : UInt16),
        h'.datagram b peer' localPort' = { result := none }) ∧
    ((h.datagram data peer localPort).result = none ↔ h.Drops data peer localPort) := by
  refine ⟨?_, datagram_eq_none_iff⟩
  intro b dest hsome
  obtain ⟨p, r, reply, hp, hr, hsigned, hreplies, hb, hdest⟩ := datagram_eq_some_iff.1 hsome
  rw [hb, hdest]
  have hfrom := Request.readFrom_of_ofPacket? hr
  have hanswers := hreplies.answers hfrom
  have hto : reply.destination = Reply.destinationFor r := by
    obtain ⟨t, o, ip, lease, -, rfl, -⟩ := hreplies.offered
    rfl
  refine ⟨p, r, reply.packet reply.items,
    ⟨hp, Packet.readFrom_of_parse hp, hfrom.op, ?_, hr, hsigned⟩,
    hanswers, hto ▸ goesTo_destinationFor hfrom, ?_⟩
  · rw [hfrom.messageType]
    exact hsigned.type.imp (congrArg some) (congrArg some)
  · intro h' peer' localPort'
    refine datagram_of_ofPacket?_eq_none hanswers.parsed (Request.ofPacket?_eq_none_iff.2 (.inl ?_))
    rw [hanswers.op]
    decide

/-- The items of a discovery by a client that is to boot. -/
def discoverItems : List Item :=
  [⟨53, [1]⟩, ⟨60, [80, 88, 69, 67, 108, 105, 101, 110, 116]⟩, ⟨93, [0, 7]⟩, ⟨94, [1, 3, 16]⟩]

def discoverDatagram : Octets :=
  [1, 1, 6, 0, 0xDE, 0xAD, 0xBE, 0xEF, 0, 0, 0x80, 0, 0, 0, 0, 0, 0, 0, 0, 0, 0, 0, 0, 0, 0, 0, 0,
    0, 0, 17, 34, 51, 68, 85] ++ (Octets.zeros 202 ++ cookie ++
    (discoverItems.flatMap Item.octets ++ [Code.finish]))

def discoverPacket : Packet where
  op := 1
  htype := 1
  hlen := 6
  hops := 0
  xid := 0xDEADBEEF
  secs := 0
  flags := 0x8000
  ciaddr := .unspecified
  yiaddr := .unspecified
  siaddr := .unspecified
  giaddr := .unspecified
  mac := ⟨0, 17, 34, 51, 68, 85⟩
  sname := none
  file := none
  options := [.messageType .discover, .vendorClass "PXEClient", .clientArch 7,
    .clientNetwork [1, 3, 16]]

theorem parse_discoverDatagram : Packet.parse discoverDatagram = .ok discoverPacket := by
  have hits : items 0 (discoverItems.flatMap Item.octets ++ [Code.finish]) = .ok discoverItems := by
    refine items_area ?_ 0 []
    simp only [discoverItems, List.forall_mem_cons]
    refine ⟨⟨?_, ?_, ?_⟩, ⟨?_, ?_, ?_⟩, ⟨?_, ?_, ?_⟩, ⟨?_, ?_, ?_⟩, by simp⟩
    all_goals decide
  have hclass : Text.Utf8.decode? [80, 88, 69, 67, 108, 105, 101, 110, 116] = some "PXEClient" := by
    simp [Text.Utf8.decode?, Text.Utf8.scan, Text.Utf8.front]
  have hoptions : discoverItems.filterMap PacketOption.ofItem? = discoverPacket.options := by
    have hitem : PacketOption.ofItem? ⟨60, [80, 88, 69, 67, 108, 105, 101, 110, 116]⟩ =
        some (.vendorClass "PXEClient") := congrArg (Option.map _) hclass
    show PacketOption.messageType .discover :: _ = _
    rw [List.filterMap_cons_some hitem]
    rfl
  have hlong : ¬ discoverDatagram.length < headerLength := by
    simp only [discoverDatagram, cookie, headerLength, List.length_append, List.length_cons,
      List.length_nil, Octets.length_zeros]
    omega
  simp only [discoverDatagram, List.cons_append, List.nil_append] at hlong ⊢
  rw [Packet.parse, if_neg hlong, if_neg (by decide), if_neg (by decide)]
  have hread : readOptions (discoverItems.flatMap Item.octets ++ [Code.finish]) =
      .ok discoverPacket.options := by
    rw [readOptions, hits]
    exact congrArg Except.ok hoptions
  show (readOptions (discoverItems.flatMap Item.octets ++ [Code.finish]) >>= _) = _
  rw [hread]
  rfl

theorem datagram_answered_discover : ∃ b p q,
    (station.datagram discoverDatagram discover.peer 67).result =
      some (b, ⟨.v4 ⟨255, 255, 255, 255⟩, 68⟩) ∧
    Asks discoverDatagram discover.peer 67 p discover ∧ Answers p b q := by
  have hr : Request.ofPacket? discoverPacket discover.peer 67 = some discover := rfl
  obtain ⟨hanswered, -⟩ := datagram_answered station discoverDatagram discover.peer 67
  have hreplies := Replies.reserved (h := station) (r := discover) rfl rfl rfl rfl rfl rfl
  have hsome := datagram_eq_some_iff.2
    ⟨_, _, _, parse_discoverDatagram, hr, discover_signed, hreplies, rfl, rfl⟩
  obtain ⟨p, r, q, hasks, hanswers, hgoes, -⟩ := hanswered _ _ hsome
  obtain rfl := Except.ok.inj (parse_discoverDatagram.symm.trans hasks.parsed)
  obtain rfl := Option.some.inj (hr.symm.trans hasks.request)
  exact ⟨_, _, q, hsome, hasks, hanswers⟩

end Responder
end BootServer.Dhcp
