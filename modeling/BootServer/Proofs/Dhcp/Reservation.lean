import BootServer.Proofs.Dhcp.Replies

/-! Replies with a reservation. The store is asked once about a client that bears the signature, and
about no other; the client then gets what the record says of it, all of it and in a fixed order. A
client without a record, without leave to boot, without an address or without a binary gets nothing,
and only a store that cannot be asked makes handling fail. -/
namespace BootServer.Dhcp.Responder

variable {h : Responder} {r : Request}

theorem handle_asked_signed (hm : h.mode ≠ .autoProxy) (hr : r.BearsSignature) :
    (h.handle r).asked = [.hardware r.mac] := by
  obtain ⟨t, ht⟩ := hr.reply?
  rw [h.handle_signed hr ht, if_neg hm]

/-- Looking up a record fails if the store takes too long or fails itself. -/
theorem said_eq_error_iff :
    (∃ cause, h.said r = .error cause) ↔
      h.timeout < (h.store.byHardware r.mac).delay ∨
        ∃ cause, (h.store.byHardware r.mac).result = .error cause := by
  rw [said, Answer.within]
  by_cases hlate : (h.store.byHardware r.mac).delay > h.timeout
  · simp [hlate]
  · simp [hlate]

/-- With reservations there is one kind of reply. -/
theorem replies_iff_of_reservation (hm : h.mode = .reservation) {reply : Reply} :
    h.Replies r reply ↔ ∃ t record binary ip, r.messageType.reply? = some t ∧
      h.said r = .ok (some record) ∧ record.boot.allowed = true ∧ r.binary? = some binary ∧
      record.lease.address = some ip ∧
      reply = h.offering r t (h.boot.optionsFor r record.lease.vlan binary) ip
        (leaseEntries h.syslogIp record.lease record.leaseTime) := by
  constructor
  · intro hreplies
    cases hreplies with
    | reserved _ ht hsaid hallowed hb hip => exact ⟨_, _, _, _, ht, hsaid, hallowed, hb, hip, rfl⟩
    | proxied hmode => simp [hm] at hmode
    | automatic hmode => simp [hm] at hmode
  · rintro ⟨t, record, binary, ip, ht, hsaid, hallowed, hb, hip, rfl⟩
    exact .reserved hm ht hsaid hallowed hb hip

/-- All that a responder with reservations does about a request. -/
structure Reserves (h : Responder) (r : Request) : Prop where
  asked : r.BearsSignature → (h.handle r).asked = [.hardware r.mac]
  unasked : ¬ r.BearsSignature → (h.handle r).asked = []
  /-- It fails exactly if the store does, or takes too long. -/
  failed : (∃ failure, (h.handle r).result = .error failure) ↔ r.BearsSignature ∧
    (h.timeout < (h.store.byHardware r.mac).delay ∨
      ∃ cause, (h.store.byHardware r.mac).result = .error cause)
  /-- It replies exactly if there is a record that allows booting and has an address, and a binary
  for the client. -/
  replied : (∃ reply, (h.handle r).result = .ok (some reply)) ↔ r.BearsSignature ∧
    (∃ record ip, h.said r = .ok (some record) ∧ record.boot.allowed = true ∧
      record.lease.address = some ip) ∧
    ∃ code binary, r.arch = some code ∧ (Arch.ofCode code).binary? = some binary
  /-- A reply hands out the record's address, and with it what the record says and no more. -/
  options : ∀ reply, (h.handle r).result = .ok (some reply) → ∃ record kind,
    h.said r = .ok (some record) ∧ r.kind? = some kind ∧
    record.lease.address = some reply.yiaddr ∧
    reply.options = Options.present [
      (54, some h.serverIp.octets),
      (1, record.lease.subnetMask.map Ipv4.octets),
      (3, record.lease.gateway.map Ipv4.octets),
      (6, if record.lease.nameServers = [] then none
        else some (record.lease.nameServers.flatMap Ipv4.octets)),
      (7, h.syslogIp.map Ipv4.octets),
      (12, if record.lease.hostname = some "" then none
        else record.lease.hostname.map Octets.ofText),
      (15, if record.lease.domainName = some "" then none
        else record.lease.domainName.map Octets.ofText),
      (28, record.lease.broadcast.map Ipv4.octets),
      (42, if record.lease.timeServers = [] then none
        else some (record.lease.timeServers.flatMap Ipv4.octets)),
      (51, some (Octets.ofWord32 (record.lease.leaseTime.getD 86400))),
      (119, if record.lease.searchDomains = [] then none
        else some (DomainSearch.encode record.lease.searchDomains)),
      (60, some (Octets.ofText kind.name)),
      (43, some (vendorOptions record.lease.vlan)),
      (97, r.machineId)]

/-- With reservations a reply is what the record says, for every client, record and store. -/
theorem reserves (hm : h.mode = .reservation) (r : Request) : h.Reserves r := by
  have hlookup : h.mode ≠ .autoProxy := by simp [hm]
  constructor
  case asked => exact handle_asked_signed hlookup
  case unasked =>
    intro hr
    rw [h.handle_unsigned hr]
  case failed =>
    rw [← said_eq_error_iff]
    constructor
    · rintro ⟨failure, hf⟩
      obtain ⟨hr, -, cause, hsaid, -⟩ := handle_eq_error_iff.1 hf
      exact ⟨hr, cause, hsaid⟩
    · rintro ⟨hr, cause, hsaid⟩
      exact ⟨_, handle_eq_error_iff.2 ⟨hr, hlookup, cause, hsaid, rfl⟩⟩
  case replied =>
    constructor
    · rintro ⟨reply, hreply⟩
      obtain ⟨hr, hreplies⟩ := handle_eq_reply_iff.1 hreply
      obtain ⟨t, record, binary, ip, -, hsaid, hallowed, hb, hip, -⟩ :=
        (replies_iff_of_reservation hm).1 hreplies
      obtain ⟨code, hcode, hbinary⟩ := Option.bind_eq_some_iff.1 hb
      exact ⟨hr, ⟨record, ip, hsaid, hallowed, hip⟩, code, binary, hcode, hbinary⟩
    · rintro ⟨hr, ⟨record, ip, hsaid, hallowed, hip⟩, code, binary, hcode, hbinary⟩
      obtain ⟨t, ht⟩ := hr.reply?
      have hb : r.binary? = some binary := by rw [Request.binary?, hcode, Option.bind_some, hbinary]
      exact ⟨_, handle_eq_reply_iff.2 ⟨hr, .reserved hm ht hsaid hallowed hb hip⟩⟩
  case options =>
    intro reply hreply
    obtain ⟨hr, hreplies⟩ := handle_eq_reply_iff.1 hreply
    obtain ⟨kind, hclass⟩ := hr.classify
    have hkind := (Request.classify_eq_ok_iff.1 hclass).2
    obtain ⟨t, record, binary, ip, -, hsaid, -, -, hip, rfl⟩ :=
      (replies_iff_of_reservation hm).1 hreplies
    refine ⟨record, kind, hsaid, hkind, hip, ?_⟩
    rw [offering, BootConfig.optionsFor, hkind]
    rfl

/-- A responder with one reservation. -/
def station : Responder where
  mode := .reservation
  store := .ofEntries "file" [(⟨0, 17, 34, 51, 68, 85⟩, {
    lease := {
      address := some ⟨192, 168, 2, 150⟩
      hostname := some "node-1"
      domainName := some ""
      searchDomains := ["lab."]
      vlan := some "42" }
    boot := { allowed := true } })]
  serverIp := ⟨192, 168, 2, 225⟩
  syslogIp := none
  boot := {
    tftp := ⟨⟨192, 168, 2, 225⟩, 69⟩
    binaryUrl := {
      scheme := "http", username := "", password := "", host := some (.ipv4 ⟨192, 168, 2, 225⟩)
      port := some 8080, apart := false, path := .segments ["ipxe", ""]
      query := none, fragment := none }
    script := {
      base := {
        scheme := "http", username := "", password := "", host := some (.ipv4 ⟨192, 168, 2, 225⟩)
        port := some 8080, apart := false, path := .segments ["auto.ipxe"]
        query := none, fragment := none }
      perClient := true }
    userClass := defaultCustomUserClass }
  timeout := 200

def discover : Request where
  xid := 0xDEADBEEF
  flags := 0x8000
  hops := 0
  mac := ⟨0, 17, 34, 51, 68, 85⟩
  messageType := .discover
  ciaddr := .unspecified
  giaddr := .unspecified
  requestedAddress := none
  arch := some 7
  clientNetwork := some [1, 3, 16]
  machineId := none
  vendorClass := some "PXEClient"
  userClass := none
  peer := ⟨.v4 .unspecified, 68⟩
  localPort := 67

theorem discover_signed : discover.BearsSignature where
  type := .inl rfl
  vendor := ⟨"PXEClient", rfl, .inl (by decide)⟩
  arch := ⟨7, rfl⟩
  network := ⟨[1, 3, 16], rfl⟩
  machineId id h := by cases h

theorem reserves_discover : station.mode = .reservation ∧ station.Reserves discover ∧
    ∃ reply, (station.handle discover).result = .ok (some reply) ∧
      reply.options.map Prod.fst = [54, 12, 51, 119, 60, 43] := by
  have hall := reserves (h := station) rfl discover
  obtain ⟨reply, hreply⟩ := hall.replied.2 ⟨discover_signed, ⟨_, _, rfl, rfl, rfl⟩, _, _, rfl, rfl⟩
  obtain ⟨record, kind, hsaid, -, -, hoptions⟩ := hall.options reply hreply
  cases hsaid
  refine ⟨rfl, hall, reply, hreply, ?_⟩
  rw [hoptions]
  rfl

end BootServer.Dhcp.Responder
