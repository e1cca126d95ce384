import BootServer.Proofs.Dhcp.Options
import BootServer.Proofs.Dhcp.Signature

/-! The replies of a responder, written out. A reply has the boot options behind the address of the
server; with a reservation the lease comes between them. Every one of its options has a place in one
list of entries, and is there if it has a value. -/
namespace BootServer.Dhcp

/-! ## Boot options -/

/-- The binary that a client boots, if its architecture has one. -/
def Request.binary? (r : Request) : Option String :=
  r.arch.bind fun code => (Arch.ofCode code).binary?

namespace BootConfig

/-- The boot options of a client that is to boot a binary. -/
def optionsFor (c : BootConfig) (r : Request) (vlan : Option String) (binary : String) :
    BootOptions where
  nextServer := (c.target (r.kind?.getD .pxe) r binary).1
  bootFile := (c.target (r.kind?.getD .pxe) r binary).2
  kind := r.kind?.getD .pxe
  vendorOptions := vendorOptions vlan
  machineId := r.machineId

theorem options?_eq (c : BootConfig) (r : Request) (vlan : Option String) :
    c.options? r vlan = r.binary?.map (c.optionsFor r vlan) := by
  rw [options?, Request.binary?]
  cases r.arch with
  | none => rfl
  | some code =>
    show ((Arch.ofCode code).binary? >>= _) = Option.map _ (Arch.ofCode code).binary?
    cases (Arch.ofCode code).binary? <;> rfl

end BootConfig

/-! ## Entries -/

/-- The options of a lease. -/
def leaseEntries (syslogIp : Option Ipv4) (l : Lease) (leaseTime : UInt32) :
    List (UInt8 × Option Octets) := [
  (1, l.subnetMask.map Ipv4.octets),
  (3, l.gateway.map Ipv4.octets),
  (6, if l.nameServers = [] then none else some (l.nameServers.flatMap Ipv4.octets)),
  (7, syslogIp.map Ipv4.octets),
  (12, if l.hostname = some "" then none else l.hostname.map Octets.ofText),
  (15, if l.domainName = some "" then none else l.domainName.map Octets.ofText),
  (28, l.broadcast.map Ipv4.octets),
  (42, if l.timeServers = [] then none else some (l.timeServers.flatMap Ipv4.octets)),
  (51, some (Octets.ofWord32 leaseTime)),
  (119, if l.searchDomains = [] then none else some (DomainSearch.encode l.searchDomains))]

def bootEntries (o : BootOptions) : List (UInt8 × Option Octets) := [
  (60, some (Octets.ofText o.kind.name)),
  (43, some o.vendorOptions),
  (97, o.machineId)]

theorem nonEmptyList_eq {α : Type} (encode : List α → Octets) (l : List α) :
    leaseOptions.nonEmptyList encode l = if l = [] then none else some (encode l) := by
  rw [leaseOptions.nonEmptyList]
  cases l <;> rfl

theorem nonEmpty_map (s : Option String) :
    (nonEmpty s).map Octets.ofText = if s = some "" then none else s.map Octets.ofText := by
  cases s with
  | none => rfl
  | some s =>
    by_cases h : s = ""
    · rw [h]
      rfl
    · have hset : nonEmpty (some s) = some s := Option.filter_some_pos (by simpa using h)
      have hne : ¬ some s = some "" := fun he => h (Option.some.inj he)
      rw [hset, if_neg hne]

/-- The options of a lease are set one after the other. -/
theorem leaseOptions_eq (syslogIp : Option Ipv4) (record : Record) (reply : Reply) :
    leaseOptions syslogIp record reply =
      (leaseEntries syslogIp record.lease record.leaseTime).foldl
        (fun r e => r.set? e.1 e.2) reply := by
  unfold leaseOptions
  simp only [nonEmptyList_eq, nonEmpty_map]
  rfl

theorem apply_eq (o : BootOptions) (reply : Reply) :
    o.apply reply = (bootEntries o).foldl (fun r e => r.set? e.1 e.2)
      { reply with siaddr := o.nextServer, file := some o.bootFile } := rfl

namespace Responder

/-- The options of a reply, with those of a lease between the server and the boot options. -/
def entries (h : Responder) (o : BootOptions) (lease : List (UInt8 × Option Octets)) :
    List (UInt8 × Option Octets) :=
  (54, some h.serverIp.octets) :: (lease ++ bootEntries o)

/-- The reply that hands out an address, if it is not the unspecified one, and a lease. -/
def offering (h : Responder) (r : Request) (t : MessageType) (o : BootOptions) (ip : Ipv4)
    (lease : List (UInt8 × Option Octets)) : Reply :=
  { Reply.answering r t with
    yiaddr := ip
    siaddr := o.nextServer
    file := some o.bootFile
    options := Options.present (h.entries o lease) }

variable {h : Responder} {r : Request} {t : MessageType} {o : BootOptions} {ip : Ipv4}

/-- The options of a reply go behind one another if the lease has codes of its own. -/
theorem offering_eq {lease : List (UInt8 × Option Octets)}
    (hdistinct : ((h.entries o lease).map Prod.fst).Nodup) :
    o.apply (lease.foldl (fun r e => r.set? e.1 e.2)
        { (Reply.answering r t).set Code.serverId h.serverIp.octets with yiaddr := ip }) =
      h.offering r t o ip lease := by
  obtain ⟨hserver, hrest⟩ := List.nodup_cons.1 hdistinct
  rw [List.map_append] at hserver hrest
  obtain ⟨hlease, hboot, hapart⟩ := List.nodup_append.1 hrest
  have hfirst : ∀ e ∈ lease, e.1 ∉ Options.codes [(Code.serverId, h.serverIp.octets)] := by
    intro e he hm
    have hcode : e.1 = 54 := List.mem_singleton.1 hm
    exact hserver (List.mem_append_left _ (List.mem_map.2 ⟨e, he, hcode⟩))
  rw [apply_eq, Reply.foldl_set? hlease hfirst, Reply.foldl_set? hboot ?_]
  · simp only [offering, entries, Options.present, List.filterMap_cons, List.filterMap_append]
    rfl
  · intro e he hm
    have hcode := List.mem_map_of_mem (f := Prod.fst) he
    rw [Options.codes, List.map_append, List.mem_append] at hm
    rcases hm with hm | hm
    · have hserver' : e.1 = 54 := List.mem_singleton.1 hm
      exact hserver (List.mem_append_right _ (hserver' ▸ hcode))
    · exact hapart e.1 (Options.code_of_mem_codes_present hm) e.1 hcode rfl

theorem codes_bootEntries (h : Responder) (o : BootOptions) :
    (h.entries o []).map Prod.fst = [54, 60, 43, 97] := rfl

theorem codes_leaseEntries (h : Responder) (o : BootOptions) (record : Record) :
    (h.entries o (leaseEntries h.syslogIp record.lease record.leaseTime)).map Prod.fst =
      [54, 1, 3, 6, 7, 12, 15, 28, 42, 51, 119, 60, 43, 97] := rfl

theorem nodup_bootCodes (h : Responder) (o : BootOptions) :
    ((h.entries o []).map Prod.fst).Nodup := by
  rw [codes_bootEntries]
  decide

theorem nodup_leaseCodes (h : Responder) (o : BootOptions) (record : Record) :
    ((h.entries o (leaseEntries h.syslogIp record.lease record.leaseTime)).map Prod.fst).Nodup := by
  rw [codes_leaseEntries]
  decide

/-- A reply has no options but those that have an entry. -/
theorem codes_offering {lease : List (UInt8 × Option Octets)} :
    ∀ option ∈ (h.offering r t o ip lease).options,
      option.1 ∈ (h.entries o lease).map Prod.fst := fun _ hmem =>
  Options.code_of_mem_codes_present (List.mem_map_of_mem hmem)

/-- Without a reserved record a reply hands out no address and no lease. -/
theorem reply?_unreserved (h : Responder) (r : Request) (t : MessageType) :
    h.reply? r t none = r.binary?.map fun binary =>
      h.offering r t (h.boot.optionsFor r none binary) .unspecified [] := by
  rw [reply?, Option.bind_none, BootConfig.options?_eq]
  cases r.binary? with
  | none => rfl
  | some binary => exact congrArg some (offering_eq (nodup_bootCodes h _))

/-- A reserved record gives a reply its address and its lease; without an address there is none. -/
theorem reply?_reserved (h : Responder) (r : Request) (t : MessageType) (record : Record) :
    h.reply? r t (some record) = r.binary?.bind fun binary => record.lease.address.map fun ip =>
      h.offering r t (h.boot.optionsFor r record.lease.vlan binary) ip
        (leaseEntries h.syslogIp record.lease record.leaseTime) := by
  rw [reply?, Option.bind_some, BootConfig.options?_eq]
  cases r.binary? with
  | none => rfl
  | some binary =>
    show record.lease.address >>= _ = Option.map _ record.lease.address
    cases record.lease.address with
    | none => rfl
    | some ip =>
      refine congrArg some ?_
      rw [leaseOptions_eq]
      exact offering_eq (nodup_leaseCodes h _ record)

/-! ## Handling a request -/

variable {reply : Reply}

/-- The reply to a request that bears the signature, by the mode of the responder. -/
inductive Replies (h : Responder) (r : Request) : Reply → Prop where
  | reserved {t : MessageType} {record : Record} {binary : String} {ip : Ipv4} :
      h.mode = .reservation → r.messageType.reply? = some t → h.said r = .ok (some record) →
      record.boot.allowed = true → r.binary? = some binary → record.lease.address = some ip →
      Replies h r (h.offering r t (h.boot.optionsFor r record.lease.vlan binary) ip
        (leaseEntries h.syslogIp record.lease record.leaseTime))
  | proxied {t : MessageType} {record : Record} {binary : String} :
      h.mode = .proxy → r.messageType.reply? = some t → h.said r = .ok (some record) →
      record.boot.allowed = true → r.binary? = some binary →
      Replies h r (h.offering r t (h.boot.optionsFor r none binary) .unspecified [])
  | automatic {t : MessageType} {binary : String} :
      h.mode = .autoProxy → r.messageType.reply? = some t → r.binary? = some binary →
      Replies h r (h.offering r t (h.boot.optionsFor r none binary) .unspecified [])

/-- With a record a reply is given if the record allows it and there is something to reply. -/
theorem replyFrom_eq_some_iff :
    h.replyFrom r t (h.said r) = .ok (some reply) ↔
      ∃ record, h.said r = .ok (some record) ∧ record.boot.allowed = true ∧
        h.reply? r t (if h.mode = .reservation then some record else none) = some reply := by
  cases h.said r with
  | error cause => simp [replyFrom]
  | ok found =>
    cases found with
    | none => simp [replyFrom]
    | some record =>
      by_cases hallowed : record.boot.allowed = true
      · simp [replyFrom, hallowed]
      · simp [replyFrom, hallowed]

theorem replyFrom_eq_error_iff {failure : LookupFailure} :
    h.replyFrom r t (h.said r) = .error failure ↔
      ∃ cause, h.said r = .error cause ∧ failure = ⟨r.mac, cause⟩ := by
  cases h.said r with
  | error cause => simp [replyFrom, eq_comm]
  | ok found =>
    cases found with
    | none => simp [replyFrom]
    | some record =>
      by_cases hallowed : record.boot.allowed = true
      · simp [replyFrom, hallowed]
      · simp [replyFrom, hallowed]

theorem replies_iff_of_autoProxy (hm : h.mode = .autoProxy) (ht : r.messageType.reply? = some t) :
    h.Replies r reply ↔ h.reply? r t none = some reply := by
  rw [reply?_unreserved, Option.map_eq_some_iff]
  constructor
  · rintro (⟨hmode, -⟩ | ⟨hmode, -⟩ | ⟨-, htype, hb⟩)
    · simp [hm] at hmode
    · simp [hm] at hmode
    · rw [ht] at htype
      cases htype
      exact ⟨_, hb, rfl⟩
  · rintro ⟨binary, hb, rfl⟩
    exact .automatic hm ht hb

theorem replies_iff_of_lookup (hm : h.mode ≠ .autoProxy) (ht : r.messageType.reply? = some t) :
    h.Replies r reply ↔ h.replyFrom r t (h.said r) = .ok (some reply) := by
  rw [replyFrom_eq_some_iff]
  constructor
  · rintro (⟨hmode, htype, hsaid, hallowed, hb, hip⟩ | ⟨hmode, htype, hsaid, hallowed, hb⟩ |
      ⟨hmode, -⟩)
    · rw [ht] at htype
      cases htype
      refine ⟨_, hsaid, hallowed, ?_⟩
      rw [if_pos hmode, reply?_reserved, hb, hip]
      rfl
    · rw [ht] at htype
      cases htype
      refine ⟨_, hsaid, hallowed, ?_⟩
      rw [hmode, if_neg (by decide), reply?_unreserved, hb]
      rfl
    · exact absurd hmode hm
  · rintro ⟨record, hsaid, hallowed, hreply⟩
    cases hmode : h.mode with
    | reservation =>
      rw [if_pos hmode, reply?_reserved] at hreply
      obtain ⟨binary, hb, hreply⟩ := Option.bind_eq_some_iff.1 hreply
      obtain ⟨ip, hip, rfl⟩ := Option.map_eq_some_iff.1 hreply
      exact .reserved hmode ht hsaid hallowed hb hip
    | proxy =>
      rw [hmode, if_neg (by decide), reply?_unreserved] at hreply
      obtain ⟨binary, hb, rfl⟩ := Option.map_eq_some_iff.1 hreply
      exact .proxied hmode ht hsaid hallowed hb
    | autoProxy => exact absurd hmode hm

/-- A request is replied to exactly if it bears the signature, a record allows it where the mode
asks for one, and there is a binary, with a reservation an address too, to hand out. -/
theorem handle_eq_reply_iff :
    (h.handle r).result = .ok (some reply) ↔ r.BearsSignature ∧ h.Replies r reply := by
  by_cases hr : r.BearsSignature
  · obtain ⟨t, ht⟩ := hr.reply?
    rw [h.handle_signed hr ht, and_iff_right hr]
    by_cases hm : h.mode = .autoProxy
    · rw [if_pos hm, replies_iff_of_autoProxy hm ht, Except.ok.injEq]
    · rw [if_neg hm, replies_iff_of_lookup hm ht]
  · rw [h.handle_unsigned hr]
    simp [hr]

/-- Handling fails exactly if the record that is needed cannot be had. -/
theorem handle_eq_error_iff {failure : LookupFailure} :
    (h.handle r).result = .error failure ↔ r.BearsSignature ∧ h.mode ≠ .autoProxy ∧
      ∃ cause, h.said r = .error cause ∧ failure = ⟨r.mac, cause⟩ := by
  by_cases hr : r.BearsSignature
  · obtain ⟨t, ht⟩ := hr.reply?
    rw [h.handle_signed hr ht, and_iff_right hr]
    by_cases hauto : h.mode = .autoProxy
    · simp [hauto]
    · rw [if_neg hauto, and_iff_right hauto]
      exact replyFrom_eq_error_iff
  · rw [h.handle_unsigned hr]
    simp [hr]

end Responder
end BootServer.Dhcp
