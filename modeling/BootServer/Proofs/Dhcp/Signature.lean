import BootServer.Dhcp.Responder

/-! The netboot signature, and what becomes of requests with and without it. A request is classified
as one for a boot exactly if it bears the signature; without it nothing is answered and no store is
asked, and with it the store is asked once in the modes that need a record, and never in the one
that needs none. -/
namespace BootServer.Dhcp

namespace Request

variable {r : Request}

/-- What makes a request one for a boot. -/
structure BearsSignature (r : Request) : Prop where
  type : r.messageType = .discover ∨ r.messageType = .request
  vendor : ∃ name, r.vendorClass = some name ∧
    (Text.startsWith "PXEClient" name = true ∨ Text.startsWith "HTTPClient" name = true)
  arch : ∃ code, r.arch = some code
  network : ∃ interface, r.clientNetwork = some interface
  machineId : ∀ id, r.machineId = some id → id.length = 17 ∧ id.head? = some 0

theorem reply?_eq_some_iff {t reply : MessageType} : t.reply? = some reply ↔
    t = .discover ∧ reply = .offer ∨ t = .request ∧ reply = .ack := by
  cases t <;> simp [MessageType.reply?, eq_comm]

theorem reply?_isSome_iff (t : MessageType) :
    t.reply?.isSome = true ↔ t = .discover ∨ t = .request := by
  simp [Option.isSome_iff_exists, reply?_eq_some_iff, exists_or]

theorem kind?_isSome_iff (r : Request) :
    r.kind?.isSome = true ↔ ∃ name, r.vendorClass = some name ∧
      (Text.startsWith "PXEClient" name = true ∨ Text.startsWith "HTTPClient" name = true) := by
  rw [kind?]
  cases r.vendorClass with
  | none => simp
  | some name => simp [ClientKind.ofVendorClass?, ClientKind.name]

theorem isMachineId_iff (id : Octets) :
    isMachineId id = true ↔ id.length = 17 ∧ id.head? = some 0 := by
  simp [isMachineId]

/-- The checks accept the requests that bear the signature, and say how the client boots. -/
theorem classify_eq_ok_iff {kind : ClientKind} :
    r.classify = .ok kind ↔ r.BearsSignature ∧ r.kind? = some kind := by
  have htype := reply?_isSome_iff r.messageType
  have hvendor := kind?_isSome_iff r
  unfold classify
  constructor
  · intro h
    split at h
    · cases h
    · next hanswered =>
      split at h
      · cases h
      · next found hkind =>
        split at h
        · cases h
        split at h
        · cases h
        split at h
        · cases h
        · next harch hnetwork hid =>
          cases h
          have hreply := Option.isSome_iff_ne_none.2 (by simpa using hanswered)
          refine ⟨⟨htype.1 hreply, hvendor.1 (by simp [hkind]),
            Option.ne_none_iff_exists'.1 (by simpa using harch),
            Option.ne_none_iff_exists'.1 (by simpa using hnetwork), ?_⟩, hkind⟩
          intro id he
          rw [← isMachineId_iff]
          simpa [he] using hid
  · rintro ⟨⟨ht, hv, ⟨code, harch⟩, ⟨interface, hnetwork⟩, hid⟩, hkind⟩
    have hanswered : r.messageType.reply?.isSome = true := htype.2 ht
    have hshape : r.machineId.any (!isMachineId ·) = false := by
      cases hm : r.machineId with
      | none => rfl
      | some id => simp [(isMachineId_iff id).2 (hid id hm)]
    simp [hkind, harch, hnetwork, hshape, Option.isNone_iff_eq_none,
      Option.isSome_iff_ne_none.1 hanswered]

theorem BearsSignature.reply? (h : r.BearsSignature) :
    ∃ t, r.messageType.reply? = some t :=
  Option.isSome_iff_exists.1 ((reply?_isSome_iff _).2 h.type)

theorem BearsSignature.classify (h : r.BearsSignature) : ∃ kind, r.classify = .ok kind := by
  obtain ⟨kind, hkind⟩ := Option.isSome_iff_exists.1 ((kind?_isSome_iff r).2 h.vendor)
  exact ⟨kind, classify_eq_ok_iff.2 ⟨h, hkind⟩⟩

end Request

namespace Responder

variable {r : Request} {t : MessageType}

/-- What the store says about the client of a request, as long as one waits for it. -/
def said (h : Responder) (r : Request) : Except LookupError (Option Record) :=
  (h.store.byHardware r.mac).within h.timeout

theorem handle_unsigned (h : Responder) (hr : ¬ r.BearsSignature) :
    h.handle r = { result := .ok none } := by
  have hclass : ∃ e, r.classify = .error e := by
    cases hc : r.classify with
    | error e => exact ⟨e, rfl⟩
    | ok kind => exact absurd (Request.classify_eq_ok_iff.1 hc).1 hr
  obtain ⟨e, he⟩ := hclass
  rw [handle, he]

/-- A request that bears the signature is looked up once, unless no record is needed. -/
theorem handle_signed (h : Responder) (hr : r.BearsSignature)
    (ht : r.messageType.reply? = some t) :
    h.handle r =
      if h.mode = .autoProxy then { result := .ok (h.reply? r t none) }
      else { asked := [.hardware r.mac], result := h.replyFrom r t (h.said r) } := by
  obtain ⟨kind, hc⟩ := hr.classify
  rw [handle, hc, ht]
  rfl

end Responder
end BootServer.Dhcp
