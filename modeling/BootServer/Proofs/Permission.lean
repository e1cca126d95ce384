import BootServer.Proofs.Dhcp.Datagram
import BootServer.Proofs.Except
import BootServer.Proofs.Http.HeadAndGet
import BootServer.Proofs.Http.Script

/-! Leave to boot. Whoever hands out something to boot has asked the store about the very client
that it is for, and was told in time of a record that allows it. This holds for replies to
datagrams, for scripts that are made for one client, and for images; what remains of a lookup that
ends in any other way is no answer or a failure. -/
namespace BootServer

/-! ## What a store permits -/

namespace Answer

variable {α : Type} {a : Answer (Option α)} {allowed : α → Bool} {timeout : Nat}

/-- Does the answer come in time, with something that is allowed? -/
def Grants (a : Answer (Option α)) (allowed : α → Bool) (timeout : Nat) : Prop :=
  a.delay ≤ timeout ∧ ∃ found, a.result = .ok (some found) ∧ allowed found = true

/-- Why an answer grants nothing. -/
inductive Refuses (a : Answer (Option α)) (allowed : α → Bool) (timeout : Nat) : Prop where
  | late (h : timeout < a.delay)
  | failed (e : LookupError) (h : a.result = .error e)
  | missing (h : a.result = .ok none)
  | forbidden (found : α) (h : a.result = .ok (some found)) (hf : allowed found = false)

theorem within_eq_ok_iff {x : α} {a : Answer α} :
    a.within timeout = .ok x ↔ a.delay ≤ timeout ∧ a.result = .ok x := by
  unfold within
  split
  · next hlate => simp [Nat.not_le.2 hlate]
  · next htime => simp [Nat.not_lt.1 htime]

theorem grants_of_within {found : α} (h : a.within timeout = .ok (some found))
    (hallowed : allowed found = true) : a.Grants allowed timeout := by
  obtain ⟨htime, hresult⟩ := within_eq_ok_iff.1 h
  exact ⟨htime, found, hresult, hallowed⟩

theorem grants_iff_not_refuses : a.Grants allowed timeout ↔ ¬ a.Refuses allowed timeout := by
  constructor
  · rintro ⟨htime, found, hfound, hallowed⟩ hrefuses
    cases hrefuses with
    | late h => omega
    | failed e h => simp [hfound] at h
    | missing h => simp [hfound] at h
    | forbidden found' h hf =>
      rw [hfound] at h
      cases h
      rw [hallowed] at hf
      cases hf
  · intro h
    refine ⟨Nat.not_lt.1 fun hlate => h (.late hlate), ?_⟩
    cases hresult : a.result with
    | error e => exact absurd (.failed e hresult) h
    | ok answer =>
      cases answer with
      | none => exact absurd (.missing hresult) h
      | some found =>
        refine ⟨found, rfl, ?_⟩
        rw [← Bool.not_eq_false]
        exact fun hf => h (.forbidden found hresult hf)

end Answer

namespace Store

/-- Does the store permit the client that a question is about to boot? -/
def Permits (s : Store) (timeout : Nat) : Question → Prop
  | .hardware mac => (s.byHardware mac).Grants (·.boot.allowed) timeout
  | .address ip => (s.byAddress ip).Grants (·.2.boot.allowed) timeout

/-- Is there no record, or one that forbids booting, a failure, or no answer in time? -/
def Denies (s : Store) (timeout : Nat) : Question → Prop
  | .hardware mac => (s.byHardware mac).Refuses (·.boot.allowed) timeout
  | .address ip => (s.byAddress ip).Refuses (·.2.boot.allowed) timeout

theorem permits_iff_not_denies {s : Store} {timeout : Nat} {q : Question} :
    s.Permits timeout q ↔ ¬ s.Denies timeout q := by
  cases q with
  | hardware mac => exact Answer.grants_iff_not_refuses
  | address ip => exact Answer.grants_iff_not_refuses

variable {s : Store} {ms : Nat} {failure : Option LookupError} {timeout : Nat}

theorem delayed.grants_slow_iff {α : Type} {a : Answer (Option α)} {allowed : α → Bool} :
    (slow ms failure a).Grants allowed timeout ↔
      failure = none ∧ ms ≤ timeout ∧ a.Grants allowed (timeout - ms) := by
  have htime : a.delay + ms ≤ timeout ↔ ms ≤ timeout ∧ a.delay ≤ timeout - ms := by omega
  cases failure with
  | some e => simp [Answer.Grants, slow]
  | none => simp only [Answer.Grants, slow, htime, true_and, and_assoc]

/-- A slower store permits what is permitted in the time that is left, a failing one nothing. -/
theorem permits_delayed_iff {q : Question} :
    (s.delayed ms failure).Permits timeout q ↔
      failure = none ∧ ms ≤ timeout ∧ s.Permits (timeout - ms) q := by
  cases q with
  | hardware mac => exact delayed.grants_slow_iff
  | address ip => exact delayed.grants_slow_iff

end Store

/-! ## Datagrams -/

namespace Dhcp

/-- The hardware address of a packet stands in its header. -/
theorem Packet.mac_of_parse {data : Octets} {p : Packet} (h : parse data = .ok p) :
    p.mac.octets = (data.drop 28).take 6 := by
  unfold parse at h
  split at h
  · next rest =>
    split at h
    · cases h
    · split at h
      · cases h
      · split at h
        · cases h
        · obtain ⟨its, -, hits⟩ := bind_eq_ok_iff.1 h
          cases hits
          rfl
  · cases h

namespace Responder

variable {h : Responder} {r : Request} {reply : Reply}

theorem permits_of_reply (hm : h.mode ≠ .autoProxy)
    (hreply : (h.handle r).result = .ok (some reply)) :
    (h.handle r).asked = [.hardware r.mac] ∧ h.store.Permits h.timeout (.hardware r.mac) := by
  obtain ⟨hr, hreplies⟩ := handle_eq_reply_iff.1 hreply
  refine ⟨handle_asked_signed hm hr, ?_⟩
  cases hreplies with
  | reserved _ _ hsaid hallowed => exact Answer.grants_of_within hsaid hallowed
  | proxied _ _ hsaid hallowed => exact Answer.grants_of_within hsaid hallowed
  | automatic hmode => exact absurd hmode hm

theorem permits_of_datagram {data : Octets} {peer : Endpoint} {localPort : UInt16}
    (hm : h.mode ≠ .autoProxy) {sent : Octets × Endpoint}
    (hsent : (h.datagram data peer localPort).result = some sent) :
    ∃ mac : HardwareAddress, mac.octets = (data.drop 28).take 6 ∧
      (h.datagram data peer localPort).asked = [.hardware mac] ∧
      h.store.Permits h.timeout (.hardware mac) := by
  obtain ⟨p, r, reply, hp, hr, hsigned, hreplies, -, -⟩ := datagram_eq_some_iff.1 hsent
  obtain ⟨hasked, hpermits⟩ := permits_of_reply hm (handle_eq_reply_iff.2 ⟨hsigned, hreplies⟩)
  refine ⟨r.mac, ?_, ?_, hpermits⟩
  · rw [(Request.readFrom_of_ofPacket? hr).mac, Packet.mac_of_parse hp]
  · rw [datagram, hp]
    dsimp only
    rw [hr]
    exact hasked

/-- Where a record is needed, nothing is sent over a store that fails, or is late, for everyone. -/
theorem datagram_delayed {data : Octets} {peer : Endpoint} {localPort : UInt16} {store : Store}
    {ms : Nat} {failure : Option LookupError} (hm : h.mode ≠ .autoProxy)
    (hstore : h.store = store.delayed ms failure)
    (hunfit : failure.isSome ∨ h.timeout < ms) :
    (h.datagram data peer localPort).result = none := by
  rw [Option.eq_none_iff_forall_ne_some]
  intro sent hsent
  obtain ⟨mac, -, -, hpermits⟩ := permits_of_datagram hm hsent
  rw [hstore, Store.permits_delayed_iff] at hpermits
  obtain ⟨rfl, htime, -⟩ := hpermits
  rcases hunfit with hfails | hlate
  · cases hfails
  · exact absurd htime (Nat.not_le.2 hlate)

end Responder
end Dhcp

/-! ## Requests -/

namespace Http

theorem Response.status_answering (response : Response) (method : Method) :
    (response.answering method).status = response.status := by
  unfold Response.answering
  split
  · rfl
  · split <;> rfl
  · rfl

/-- No failure is told as a success. -/
theorem Failure.not_isSuccess (f : Failure) : f.response.status.isSuccess = false := by
  cases f <;> rfl

namespace Site

/-- A success is what a page came to. -/
theorem ok_of_isSuccess {result : Except Failure Response} {method : Method}
    (h : ((respond result).answering method).status.isSuccess = true) :
    ∃ response, result = .ok response ∧ response.status.isSuccess = true := by
  rw [Response.status_answering] at h
  cases result with
  | error f =>
    rw [respond, f.not_isSuccess] at h
    cases h
  | ok response => exact ⟨response, rfl, h⟩

variable {σ : Type} {s : Site σ} {settings : Script.Settings} {r : Request}
  {client : String} {m : Image.Memory σ}

/-- Only a record that was found and allows it leads to a script. -/
theorem scriptFor_eq_ok {path : String} {response : Response}
    {answer : Except LookupError (Option (HardwareAddress × Record))}
    (h : scriptFor settings path answer = .ok response) :
    ∃ found, answer = .ok (some found) ∧ found.2.boot.allowed = true := by
  unfold scriptFor at h
  split at h
  · cases h
  · cases h
  · split at h
    · next hallowed => exact ⟨_, rfl, hallowed⟩
    · cases h

/-- What the store says is the answer to the question, as far as it comes in time. -/
theorem permits_of_answered {q : Question} {found : HardwareAddress × Record}
    (h : s.answered q = .ok (some found)) (hallowed : found.2.boot.allowed = true) :
    s.store.Permits s.timeout q := by
  cases q with
  | hardware mac =>
    obtain ⟨answer, hsaid, hanswer⟩ := map_eq_ok_iff.1 h
    obtain ⟨record, rfl, rfl⟩ := Option.map_eq_some_iff.1 hanswer
    exact Answer.grants_of_within hsaid hallowed
  | address ip => exact Answer.grants_of_within h hallowed

theorem permits_of_script (hstatic : settings.static = false) {response : Response}
    (h : (s.scriptPage settings r).result = .ok response) :
    ∃ client, scriptClient? r.path = some client ∧
      (s.scriptPage settings r).asked = [s.scriptQuestion r client] ∧
      s.store.Permits s.timeout (s.scriptQuestion r client) := by
  cases hpath : scriptClient? r.path with
  | none =>
    rw [scriptPage_unnamed hpath] at h
    cases h
  | some client =>
    rw [scriptPage_dynamic hstatic hpath] at h ⊢
    obtain ⟨found, hfound, hallowed⟩ := scriptFor_eq_ok h
    exact ⟨client, rfl, rfl, permits_of_answered hfound hallowed⟩

/-! ### Images -/

variable {p : ImagePage σ} {file name part : String} {mac : HardwareAddress}

theorem asked_image (hp : s.image = some p) (hroute : s.route r.path = .image client file)
    (hserved : isServed r.method = true) (hc : decodePart "mac" client = .ok name)
    (hf : decodePart "file" file = .ok part) (hmac : HardwareAddress.parse? name = some mac) :
    (s.page r).asked = [.hardware mac] := by
  rw [page, hroute]
  dsimp only
  rw [if_pos hserved, hc, hf, hp]
  dsimp only
  rw [imagePage, hmac]

theorem permits_of_image (hroute : s.route r.path = .image client file) {response : Response}
    (h : ((s.page r).result m).1 = .ok response) (hsuccess : response.status.isSuccess = true) :
    ∃ mac, (∃ name, decodePart "mac" client = .ok name ∧
        HardwareAddress.parse? name = some mac) ∧
      (s.page r).asked = [.hardware mac] ∧ s.store.Permits s.timeout (.hardware mac) := by
  obtain ⟨p, hp⟩ := image_of_route hroute
  by_cases hserved : isServed r.method = true
  · rw [page_image hp hroute hserved] at h
    cases hadmitted : s.admitted client file with
    | error f =>
      rw [hadmitted] at h
      cases h
    | ok found =>
      obtain ⟨⟨name, hc, hmac⟩, ⟨part, hf⟩, hsaid, hallowed⟩ := admitted_eq_ok_iff.1 hadmitted
      exact ⟨found.1, ⟨name, hc, hmac⟩, asked_image hp hroute hserved hc hf hmac,
        Answer.grants_of_within hsaid hallowed⟩
  · rw [page, hroute] at h
    dsimp only at h
    rw [if_neg hserved] at h
    cases h
    cases hsuccess

end Site
end Http

/-- Nothing to boot is handed out but to a client that the store was asked about and permits: not in
reply to a datagram where a record is needed, not as a script of its own, not as an image. The
client is the one with the address in the datagram's header or in the request's path, or else the
one that the request comes from. A store permits a client unless it has no record, one that forbids
booting, fails, or takes too long. -/
theorem no_boot_without_permission :
    (∀ (h : Dhcp.Responder) (data : Octets) (peer : Endpoint) (localPort : UInt16)
      (sent : Octets × Endpoint), h.mode ≠ .autoProxy →
      (h.datagram data peer localPort).result = some sent →
      ∃ mac : HardwareAddress, mac.octets = (data.drop 28).take 6 ∧
        (h.datagram data peer localPort).asked = [.hardware mac] ∧
        h.store.Permits h.timeout (.hardware mac)) ∧
    (∀ {σ : Type} (s : Http.Site σ) (settings : Script.Settings) (r : Http.Request)
      (m : Image.Memory σ), s.route r.path = .rest → s.script = some settings →
      settings.static = false → (s.handle r m).1.result.status.isSuccess = true →
      ∃ client, Http.scriptClient? r.path = some client ∧
        let question := match client with
          | some mac => .hardware mac
          | none => .address (Http.clientAddress s.trusted r.peer r.headers)
        (s.handle r m).1.asked = [question] ∧ s.store.Permits s.timeout question) ∧
    (∀ {σ : Type} (s : Http.Site σ) (client file : String) (r : Http.Request)
      (m : Image.Memory σ), s.route r.path = .image client file →
      (s.handle r m).1.result.status.isSuccess = true →
      ∃ mac, (∃ name, Http.decodePart "mac" client = .ok name ∧
          HardwareAddress.parse? name = some mac) ∧
        (s.handle r m).1.asked = [.hardware mac] ∧ s.store.Permits s.timeout (.hardware mac)) ∧
    ∀ (store : Store) (timeout : Nat) (q : Question),
      store.Permits timeout q ↔ ¬ store.Denies timeout q := by
  refine ⟨?_, ?_, ?_, fun _ _ _ => Store.permits_iff_not_denies⟩
  · intro h data peer localPort sent hm hsent
    exact Dhcp.Responder.permits_of_datagram hm hsent
  · intro σ s settings r m hroute hscript hstatic hsuccess
    rw [Http.Site.handle_rest hroute hscript] at hsuccess ⊢
    dsimp only at hsuccess ⊢
    obtain ⟨response, hresult, -⟩ := Http.Site.ok_of_isSuccess hsuccess
    obtain ⟨client, hpath, hpermits⟩ := Http.Site.permits_of_script hstatic hresult
    refine ⟨client, hpath, ?_⟩
    cases client with
    | none => exact hpermits
    | some mac => exact hpermits
  · intro σ s client file r m hroute hsuccess
    rw [Http.Site.handle_apply] at hsuccess ⊢
    dsimp only at hsuccess ⊢
    obtain ⟨response, hresult, hstatus⟩ := Http.Site.ok_of_isSuccess hsuccess
    exact Http.Site.permits_of_image hroute hresult hstatus

namespace Http.Site

/-- A site with a client that has a script of its own. -/
def attended : Site Unit where
  store := .ofEntries "file" [(⟨2, 0, 0, 0, 0, 1⟩, {
    boot := { allowed := true, script := some "#!ipxe" } })]
  timeout := 200
  script := some {}

def ownScript : Request where
  method := .get
  target := "/02:00:00:00:00:01/auto.ipxe"
  headers := []
  peer := .v4 (.ofNat 0)

theorem route_resumed : small.route resumed.path = .image "02:00:00:00:00:01" "hook.iso" := by
  decide +kernel

theorem resumed_isSuccess :
    (small.handle resumed { behind := () }).1.result.status.isSuccess = true := by
  have complete : smallPage.image.source.Complete smallImage :=
    Image.Source.ofOctets_complete _ 7 (by decide)
  obtain ⟨padded, hpad⟩ := smallPage_pad
  have hlength : smallImage.length = 173 := by
    rw [smallImage, List.length_append, List.length_append, List.length_replicate]
    rfl
  have hrange : requestedRange resumed.headers smallImage.length = .ok (some ⟨1, 4⟩) := by
    rw [hlength]
    exact requestedRange_resumed
  obtain ⟨body, m', hsend, -⟩ := ImagePage.send_complete complete
    (smallPage.image.sound_opened smallImage ())
    (Image.Marker.patch_of_firstAt hpad smallPage_firstAt) (r := resumed) rfl hrange
  rw [handle_apply, page_image rfl route_resumed rfl, admitted_permissive small rfl]
  dsimp only
  rw [hsend]
  rfl

end Http.Site

open Dhcp.Responder Http.Site in
theorem no_boot_without_permission_granted :
    (∃ mac : HardwareAddress, mac.octets = (discoverDatagram.drop 28).take 6 ∧
      (station.datagram discoverDatagram discover.peer 67).asked = [.hardware mac] ∧
      station.store.Permits 200 (.hardware mac)) ∧
    ((attended.handle ownScript { behind := () }).1.asked = [.hardware ⟨2, 0, 0, 0, 0, 1⟩] ∧
      attended.store.Permits 200 (.hardware ⟨2, 0, 0, 0, 0, 1⟩)) ∧
    ∃ mac, (small.handle resumed { behind := () }).1.asked = [.hardware mac] ∧
      small.store.Permits 1000 (.hardware mac) := by
  obtain ⟨hdatagram, hscript, himage, -⟩ := no_boot_without_permission
  refine ⟨?_, ?_, ?_⟩
  · have hreplies := Replies.reserved (h := station) (r := discover) rfl rfl rfl rfl rfl rfl
    have hsome := datagram_eq_some_iff.2
      ⟨_, _, _, parse_discoverDatagram, rfl, discover_signed, hreplies, rfl, rfl⟩
    exact hdatagram station discoverDatagram discover.peer 67 _ (by decide) hsome
  · obtain ⟨client, hclient, hpermits⟩ := hscript attended {} ownScript { behind := () }
      (by decide +kernel) rfl rfl (by decide +kernel)
    have hmac : Http.scriptClient? ownScript.path = some (some ⟨2, 0, 0, 0, 0, 1⟩) := by
      decide +kernel
    rw [hmac] at hclient
    cases hclient
    exact hpermits
  · obtain ⟨mac, -, hpermits⟩ := himage small _ _ resumed { behind := () } route_resumed
      resumed_isSuccess
    exact ⟨mac, hpermits⟩

end BootServer
