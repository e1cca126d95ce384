import BootServer.Proofs.Dhcp.Reservation

/-! The modes of a responder, compared on one request. They give the same boot options: the proxy is
the automatic one that holds back where no record allows booting, and a reservation is the proxy's
reply with a lease added. What the proxies say has no lease in it, whatever the record holds, so
that they do not interfere with the server that hands out addresses. -/
namespace BootServer.Dhcp

/-- Replies by which a client boots the same, whether or not it gets a lease: they differ at most
in the address, in the options of a lease, and in what follows the common part of the vendor
options. -/
structure Reply.BootsLike (reply proxied : Reply) : Prop where
  messageType : proxied.messageType = reply.messageType
  xid : proxied.xid = reply.xid
  flags : proxied.flags = reply.flags
  hops : proxied.hops = reply.hops
  mac : proxied.mac = reply.mac
  ciaddr : proxied.ciaddr = reply.ciaddr
  giaddr : proxied.giaddr = reply.giaddr
  destination : proxied.destination = reply.destination
  siaddr : proxied.siaddr = reply.siaddr
  sname : proxied.sname = reply.sname
  file : proxied.file = reply.file
  serverId : proxied.option? 54 = reply.option? 54
  vendorClass : proxied.option? 60 = reply.option? 60
  machineId : proxied.option? 97 = reply.option? 97
  vendorOptions : ∃ common all,
    proxied.option? 43 = some common ∧ reply.option? 43 = some all ∧ common <+: all

theorem vendorOptions_none_prefix (vlan : Option String) :
    vendorOptions none <+: vendorOptions vlan := by
  show discoveryControl <+: vendorOptions vlan
  unfold vendorOptions
  split
  · exact List.prefix_append _ _
  · exact List.prefix_refl _

namespace Responder

variable {h : Responder} {o : BootOptions} {lease : List (UInt8 × Option Octets)}

/-- The same responder in another mode. -/
def inMode (h : Responder) (mode : Mode) : Responder := { h with mode }

/-- The boot options of a reply are there whatever lease it hands out. -/
theorem bootOptions_offering (r : Request) (t : MessageType) (ip : Ipv4)
    (hdistinct : ((h.entries o lease).map Prod.fst).Nodup) :
    let reply := h.offering r t o ip lease
    reply.option? 54 = some h.serverIp.octets ∧
      reply.option? 60 = some (Octets.ofText o.kind.name) ∧
      reply.option? 43 = some o.vendorOptions ∧ reply.option? 97 = o.machineId := by
  have hboot : ∀ e ∈ bootEntries o, e ∈ h.entries o lease := fun e he =>
    List.mem_cons_of_mem _ (List.mem_append_right lease he)
  refine ⟨Options.get?_present hdistinct List.mem_cons_self, ?_, ?_, ?_⟩
  · exact Options.get?_present hdistinct (hboot _ (by simp [bootEntries]))
  · exact Options.get?_present hdistinct (hboot _ (by simp [bootEntries]))
  · exact Options.get?_present hdistinct (hboot _ (by simp [bootEntries]))

theorem offering_bootsLike (h : Responder) (r : Request) (t : MessageType) (binary : String)
    (record : Record) (ip : Ipv4) :
    Reply.BootsLike
      (h.offering r t (h.boot.optionsFor r record.lease.vlan binary) ip
        (leaseEntries h.syslogIp record.lease record.leaseTime))
      (h.offering r t (h.boot.optionsFor r none binary) .unspecified []) := by
  obtain ⟨hserver, hclass, hvendor, hmachine⟩ := bootOptions_offering r t ip
    (nodup_leaseCodes h (h.boot.optionsFor r record.lease.vlan binary) record)
  obtain ⟨hserver', hclass', hvendor', hmachine'⟩ := bootOptions_offering r t .unspecified
    (nodup_bootCodes h (h.boot.optionsFor r none binary))
  constructor
  case serverId => rw [hserver, hserver']
  case vendorClass => exact hclass'.trans hclass.symm
  case machineId => exact hmachine'.trans hmachine.symm
  case vendorOptions => exact ⟨_, _, hvendor', hvendor, vendorOptions_none_prefix _⟩
  all_goals rfl

section

variable {r : Request} {reply : Reply}

/-- What the proxy replies needs no record. -/
theorem autoProxy_of_proxy (hreply : ((h.inMode .proxy).handle r).result = .ok (some reply)) :
    ((h.inMode .autoProxy).handle r).result = .ok (some reply) := by
  obtain ⟨hr, hreplies⟩ := handle_eq_reply_iff.1 hreply
  cases hreplies with
  | reserved hmode => cases hmode
  | proxied _ ht _ _ hb => exact handle_eq_reply_iff.2 ⟨hr, .automatic rfl ht hb⟩
  | automatic hmode => cases hmode

theorem proxy_of_autoProxy {record : Record}
    (hreply : ((h.inMode .autoProxy).handle r).result = .ok (some reply))
    (hsaid : h.said r = .ok (some record)) (hallowed : record.boot.allowed = true) :
    ((h.inMode .proxy).handle r).result = .ok (some reply) := by
  obtain ⟨hr, hreplies⟩ := handle_eq_reply_iff.1 hreply
  cases hreplies with
  | reserved hmode => cases hmode
  | proxied hmode => cases hmode
  | automatic _ ht hb => exact handle_eq_reply_iff.2 ⟨hr, .proxied rfl ht hsaid hallowed hb⟩

/-- The proxies hand out neither an address nor a lease. -/
theorem unleased_of_ne_reservation (hm : h.mode ≠ .reservation)
    (hreply : (h.handle r).result = .ok (some reply)) :
    reply.yiaddr = .unspecified ∧ ∀ option ∈ reply.options, option.1 ∈ [54, 60, 43, 97] := by
  obtain ⟨-, hreplies⟩ := handle_eq_reply_iff.1 hreply
  cases hreplies with
  | reserved hmode => exact absurd hmode hm
  | proxied => exact ⟨rfl, codes_offering⟩
  | automatic => exact ⟨rfl, codes_offering⟩

theorem proxy_of_reservation
    (hreply : ((h.inMode .reservation).handle r).result = .ok (some reply)) :
    ∃ proxied, ((h.inMode .proxy).handle r).result = .ok (some proxied) ∧
      reply.BootsLike proxied := by
  obtain ⟨hr, hreplies⟩ := handle_eq_reply_iff.1 hreply
  obtain ⟨t, record, binary, ip, ht, hsaid, hallowed, hb, -, rfl⟩ :=
    (replies_iff_of_reservation rfl).1 hreplies
  exact ⟨_, handle_eq_reply_iff.2 ⟨hr, .proxied rfl ht hsaid hallowed hb⟩,
    (h.inMode .reservation).offering_bootsLike r t binary record ip⟩

end

/-- The modes differ in whom they answer, and in the lease: with a reservation a client gets what
the proxy gives it and a lease besides, and the proxy gives what the automatic one does, to clients
with a record that allows booting. -/
theorem modes_agree (h : Responder) (r : Request) :
    (∀ reply, ((h.inMode .proxy).handle r).result = .ok (some reply) →
      ((h.inMode .autoProxy).handle r).result = .ok (some reply)) ∧
    (∀ reply record, ((h.inMode .autoProxy).handle r).result = .ok (some reply) →
      (h.store.byHardware r.mac).within h.timeout = .ok (some record) →
      record.boot.allowed = true →
      ((h.inMode .proxy).handle r).result = .ok (some reply)) ∧
    (∀ mode reply, mode = .proxy ∨ mode = .autoProxy →
      ((h.inMode mode).handle r).result = .ok (some reply) →
      reply.yiaddr = ⟨0, 0, 0, 0⟩ ∧ ∀ option ∈ reply.options, option.1 ∈ [54, 60, 43, 97]) ∧
    (∀ reply, ((h.inMode .reservation).handle r).result = .ok (some reply) →
      ∃ proxied, ((h.inMode .proxy).handle r).result = .ok (some proxied) ∧
        reply.BootsLike proxied) := by
  refine ⟨fun reply => autoProxy_of_proxy, fun reply record => proxy_of_autoProxy, ?_,
    fun reply => proxy_of_reservation⟩
  intro mode reply hmode
  have hm : mode ≠ .reservation := by
    rintro rfl
    exact absurd hmode (by decide)
  exact unleased_of_ne_reservation (h := h.inMode mode) hm

theorem modes_agree_discover : ∃ reply proxied,
    ((station.inMode .reservation).handle discover).result = .ok (some reply) ∧
    ((station.inMode .proxy).handle discover).result = .ok (some proxied) ∧
    ((station.inMode .autoProxy).handle discover).result = .ok (some proxied) ∧
    reply.BootsLike proxied ∧ reply.yiaddr = ⟨192, 168, 2, 150⟩ ∧
    proxied.yiaddr = ⟨0, 0, 0, 0⟩ := by
  obtain ⟨hauto, -, hplain, hproxy⟩ := modes_agree station discover
  have hreply := handle_eq_reply_iff.2
    ⟨discover_signed, .reserved (h := station.inMode .reservation) rfl rfl rfl rfl rfl rfl⟩
  obtain ⟨proxied, hproxied, hlike⟩ := hproxy _ hreply
  exact ⟨_, proxied, hreply, hproxied, hauto proxied hproxied, hlike, rfl,
    (hplain .proxy proxied (.inl rfl) hproxied).1⟩

end Responder
end BootServer.Dhcp
