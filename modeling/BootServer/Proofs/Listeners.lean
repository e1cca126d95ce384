import BootServer.Proofs.Permission
import BootServer.Syslog
import BootServer.Tftp.Server

/-! What a listener lives through. It handles every datagram that comes in before a failure that
lasts, in the order in which they come, and only such a failure ends it: neither what a datagram
holds nor a failure that passes can. So it is with each of the three services, and what holds of
one datagram's answer holds of every answer in a run. -/
namespace BootServer

variable {α β : Type} {received : List (Except ReceiveError α)} {heard : List α}
  {failure : Option ReceiveError}

/-- The datagrams among what is received. -/
def datagrams (received : List (Except ReceiveError α)) : List α :=
  received.filterMap Except.toOption

theorem mem_datagrams {data : α} : data ∈ datagrams received ↔ .ok data ∈ received := by
  simp only [datagrams, List.mem_filterMap]
  constructor
  · rintro ⟨first, hfirst, hdata⟩
    cases first with
    | error e => cases hdata
    | ok data' =>
      cases hdata
      exact hfirst
  · exact fun h => ⟨.ok data, h, rfl⟩

/-- All failures pass. -/
def Undisturbed (received : List (Except ReceiveError α)) : Prop :=
  ∀ e, .error e ∈ received → e.isTransient = true

/-- What is heard before a listener ends: everything, or all up to the first failure that lasts. -/
inductive Outlives (received : List (Except ReceiveError α)) :
    List α → Option ReceiveError → Prop where
  | all (h : Undisturbed received) : Outlives received (datagrams received) none
  | upTo {before after : List (Except ReceiveError α)} {e : ReceiveError}
    (hsplit : received = before ++ .error e :: after) (h : Undisturbed before)
    (hlasts : e.isTransient = false) : Outlives received (datagrams before) (some e)

theorem Undisturbed.nil : Undisturbed ([] : List (Except ReceiveError α)) :=
  fun _ he => absurd he List.not_mem_nil

theorem Undisturbed.ok (h : Undisturbed received) (data : α) :
    Undisturbed (.ok data :: received) := by
  intro e he
  rcases List.mem_cons.1 he with he | he
  · cases he
  · exact h e he

theorem Undisturbed.error (h : Undisturbed received) {e : ReceiveError}
    (hpasses : e.isTransient = true) : Undisturbed (.error e :: received) := by
  intro e' he
  rcases List.mem_cons.1 he with he | he
  · cases he
    exact hpasses
  · exact h e' he

theorem Outlives.ok (h : Outlives received heard failure) (data : α) :
    Outlives (.ok data :: received) (data :: heard) failure := by
  cases h with
  | all h => exact .all (h.ok data)
  | @upTo before after e hsplit h hlasts =>
    show Outlives _ (datagrams (.ok data :: before)) (some e)
    exact .upTo (congrArg (.ok data :: ·) hsplit) (h.ok data) hlasts

theorem Outlives.error (h : Outlives received heard failure) {e : ReceiveError}
    (hpasses : e.isTransient = true) : Outlives (.error e :: received) heard failure := by
  cases h with
  | all h => exact .all (h.error hpasses)
  | @upTo before after e' hsplit h hlasts =>
    show Outlives _ (datagrams (.error e :: before)) (some e')
    exact .upTo (congrArg (.error e :: ·) hsplit) (h.error hpasses) hlasts

/-- A failure that lasts ends the listener where it comes. -/
theorem Outlives.stop {e : ReceiveError} (hlasts : e.isTransient = false)
    (after : List (Except ReceiveError α)) : Outlives (.error e :: after) [] (some e) := by
  show Outlives _ (datagrams []) (some e)
  exact .upTo (List.nil_append (.error e :: after)).symm .nil hlasts

/-- What is heard was received. -/
theorem Outlives.ok_mem (h : Outlives received heard failure) {data : α} (hdata : data ∈ heard) :
    .ok data ∈ received := by
  cases h with
  | all => exact mem_datagrams.1 hdata
  | upTo hsplit =>
    rw [hsplit]
    exact List.mem_append_left _ (mem_datagrams.1 hdata)

/-- What is heard is handled, datagram by datagram. -/
theorem listen_outlives (handle : α → β) (received : List (Except ReceiveError α)) :
    ∃ heard, Outlives received heard (listen handle received).2 ∧
      (listen handle received).1 = heard.map handle := by
  induction received with
  | nil => exact ⟨[], .all .nil, rfl⟩
  | cons first more ih =>
    obtain ⟨heard, h, hmade⟩ := ih
    cases first with
    | ok data => exact ⟨data :: heard, h.ok data, congrArg (handle data :: ·) hmade⟩
    | error e =>
      rw [listen, checkReceive]
      cases hpasses : e.isTransient with
      | true => exact ⟨heard, h.error hpasses, hmade⟩
      | false => exact ⟨[], .stop hpasses more, rfl⟩

/-- Whatever comes in, everything that a listener makes comes of a datagram that it received. -/
theorem mem_listen {handle : α → β} {made : β} (h : made ∈ (listen handle received).1) :
    ∃ data, .ok data ∈ received ∧ handle data = made := by
  obtain ⟨heard, hheard, hmade⟩ := listen_outlives handle received
  rw [hmade] at h
  obtain ⟨data, hdata, rfl⟩ := List.mem_map.1 h
  exact ⟨data, hheard.ok_mem hdata, rfl⟩

/-! ## The services -/

theorem Syslog.serve_outlives (received : List (Except ReceiveError Octets)) :
    ∃ heard, Outlives received heard (serve received).2 ∧
      (serve received).1 = heard.map receive :=
  listen_outlives receive received

theorem Tftp.Settings.serve_outlives (s : Settings) (received : List (Except ReceiveError Octets)) :
    ∃ heard, Outlives received heard (s.serve received).2 ∧
      (s.serve received).1 = heard.map s.answer :=
  listen_outlives s.answer received

namespace Dhcp.Responder

variable {h : Responder} {arrivals : List (Except ReceiveError Arrival)}

/-- The answer to an arrival, as far as its data fit into the buffer. -/
theorem serve_outlives (h : Responder) (arrivals : List (Except ReceiveError Arrival)) :
    ∃ heard, Outlives arrivals heard (h.serve arrivals).2 ∧
      (h.serve arrivals).1 =
        heard.map fun a => h.datagram (a.data.take maxDatagram) a.peer a.localPort :=
  listen_outlives _ arrivals

/-- In a whole run nothing is sent where a record is needed, but for clients that the store permits
to boot and was asked about. -/
theorem serve_permits (hm : h.mode ≠ .autoProxy) {answer : Consulted (Option (Octets × Endpoint))}
    (hanswer : answer ∈ (h.serve arrivals).1) {sent : Octets × Endpoint}
    (hsent : answer.result = some sent) :
    ∃ mac, answer.asked = [.hardware mac] ∧ h.store.Permits h.timeout (.hardware mac) := by
  obtain ⟨a, -, rfl⟩ := mem_listen hanswer
  obtain ⟨mac, -, hasked, hpermits⟩ := permits_of_datagram hm hsent
  exact ⟨mac, hasked, hpermits⟩

end Dhcp.Responder
end BootServer
