import BootServer.Image.Remote
import BootServer.Proofs.Image.Source

/-! Images on an HTTP server. A range of some length takes one request, and is refused if there is
no connection or if the status does not say that the body begins where the range does. -/
namespace BootServer.Image.Remote

variable {τ : Type}

/-- The request for a range. -/
def rangeRequest (start length : Nat) : RemoteRequest :=
  { headOnly := false, range := some (start, start + length - 1) }

theorem send_apply (remote : Remote τ) (request : RemoteRequest) (m : Memory τ) :
    remote.send request m =
      match remote request m.server with
      | (none, server) => (.error .transport, { m with server })
      | (some response, server) => (.ok response, { m with server }) := by
  show (get >>= _ : Access (Memory τ) RemoteResponse) m = _
  rw [access_bind, access_get]
  dsimp only
  cases remote request m.server with
  | mk answer server => cases answer <;> rfl

/-- The length is known once a server has told it. -/
theorem length_told {remote : Remote τ} {response : RemoteResponse} {server server' : τ}
    {total : Nat} (url : String)
    (h : remote { headOnly := true } server = (some response, server'))
    (hs : response.status.isSuccess = true) (hl : contentLength? response.headers = some total) :
    remote.length url { server } = (.ok total, { length := some total, server := server' }) := by
  have hfetch : remote.fetchLength url { server } = (.ok total, { server := server' }) := by
    rw [fetchLength, access_bind, send_apply, h]
    dsimp only
    rw [hs, hl]
    rfl
  show (get >>= _ : Access (Memory τ) Nat) _ = _
  rw [access_bind, access_get]
  dsimp only
  rw [access_bind, hfetch]
  rfl

theorem read_apply (remote : Remote τ) (url : String) {start length : Nat} (h : 0 < length)
    (m : Memory τ) :
    remote.read url start length m =
      match remote (rangeRequest start length) m.server with
      | (none, server) => (.error .transport, { m with server })
      | (some response, server) =>
        (if answers response.status start then .ok (cut length response.body)
          else .error (.source (.rangeRefused url start length response.status)),
          { m with server }) := by
  unfold read rangeRequest
  rw [if_neg (by omega), access_bind, send_apply]
  cases remote { headOnly := false, range := some (start, start + length - 1) } m.server with
  | mk answer server =>
    cases answer with
    | none => rfl
    | some response =>
      dsimp only
      cases answers response.status start <;> rfl

/-- Why a server has no body for a range: it cannot be reached, or its status does not say that what
it sends begins where the range does. -/
inductive Refuses (remote : Remote τ) (url : String) (start length : Nat) (server : τ) :
    ImageError → Prop where
  | unreachable (hpos : 0 < length) (h : (remote (rangeRequest start length) server).1 = none) :
    Refuses remote url start length server .transport
  | elsewhere {response : RemoteResponse} (hpos : 0 < length)
    (h : (remote (rangeRequest start length) server).1 = some response)
    (hstatus : answers response.status start = false) :
    Refuses remote url start length server
      (.source (.rangeRefused url start length response.status))

theorem refuses_of_read {remote : Remote τ} {url : String} {start length : Nat} {m s : Memory τ}
    {e : ImageError} (h : remote.read url start length m = (.error e, s)) :
    remote.Refuses url start length m.server e := by
  rcases Nat.eq_zero_or_pos length with rfl | hpos
  · cases h
  · rw [read_apply remote url hpos] at h
    cases ha : remote (rangeRequest start length) m.server with
    | mk answer server =>
      rw [ha] at h
      cases answer with
      | none =>
        cases h
        exact .unreachable hpos (congrArg Prod.fst ha)
      | some response =>
        dsimp only at h
        cases hstatus : answers response.status start with
        | true =>
          rw [hstatus] at h
          cases h
        | false =>
          rw [hstatus] at h
          cases h
          exact .elsewhere hpos (congrArg Prod.fst ha) hstatus

theorem Refuses.read {remote : Remote τ} {url : String} {start length : Nat} {m : Memory τ}
    {e : ImageError} (h : remote.Refuses url start length m.server e) :
    ∃ s, remote.read url start length m = (.error e, s) := by
  cases h with
  | unreachable hpos h =>
    rw [read_apply remote url hpos]
    cases ha : remote (rangeRequest start length) m.server with
    | mk answer server =>
      rw [ha] at h
      cases h
      exact ⟨_, rfl⟩
  | elsewhere hpos h hstatus =>
    rw [read_apply remote url hpos]
    cases ha : remote (rangeRequest start length) m.server with
    | mk answer server =>
      rw [ha] at h
      cases h
      dsimp only
      rw [hstatus]
      exact ⟨_, rfl⟩

end BootServer.Image.Remote
