import BootServer.Tftp.Server

/-! Ports of a server. A port that refused its file has no session, so it never speaks again,
whatever reaches the server and however much time goes by. -/
namespace BootServer.Tftp.Server

/-- Something that happens to a server. -/
inductive Action where
  | receive (data : Octets)
  | reply (index : Nat) (data : Octets)
  | elapse (ms : Nat)

def act (s : Server) : Action → Server × List (Port × Packet)
  | .receive data => s.receive data
  | .reply index data => s.reply index data
  | .elapse ms => s.elapse ms

/-- All that a server sends while one thing after another happens to it. -/
def run (s : Server) : List Action → Server × List (Port × Packet)
  | [] => (s, [])
  | a :: rest => (((s.act a).1.run rest).1, (s.act a).2 ++ ((s.act a).1.run rest).2)

/-- A port was given out, but no transfer to it. -/
def Silent (s : Server) (i : Nat) : Prop := s.sessions[i]? = some none

variable {s : Server} {i : Nat} {data : Octets} {packet : Packet}

theorem receive_refused (h : s.settings.answer data = .refused packet) :
    s.receive data = (s, [(.listening, packet)]) := by
  rw [receive, h]

/-- A file that is not there or cannot be read is answered from a new port, once. -/
theorem receive_unavailable (h : s.settings.answer data = .unavailable packet) :
    s.receive data =
      ({ s with sessions := s.sessions ++ [none] }, [(.transfer s.sessions.length, packet)]) := by
  rw [receive, h]

theorem silent_concat (s : Server) :
    Silent { s with sessions := s.sessions ++ [none] } s.sessions.length := by
  show (s.sessions ++ [none])[s.sessions.length]? = some none
  rw [List.getElem?_append_right (Nat.le_refl _), Nat.sub_self]
  rfl

/-! ## One step -/

theorem Silent.concat (h : s.Silent i) (session : Option Session) :
    Silent { s with sessions := s.sessions ++ [session] } i := by
  have hlt : i < s.sessions.length := (List.getElem?_eq_some_iff.1 h).1
  show (s.sessions ++ [session])[i]? = some none
  rw [List.getElem?_append_left hlt]
  exact h

theorem Silent.ne_length (h : s.Silent i) : Port.transfer s.sessions.length ≠ .transfer i := by
  have hlt : i < s.sessions.length := (List.getElem?_eq_some_iff.1 h).1
  intro he
  cases he
  omega

theorem Silent.receive (h : s.Silent i) (data : Octets) :
    (s.receive data).1.Silent i ∧ ∀ x ∈ (s.receive data).2, x.1 ≠ .transfer i := by
  unfold Server.receive
  split
  · refine ⟨h, ?_⟩
    intro x hx
    obtain rfl := List.mem_singleton.1 hx
    exact fun he => by cases he
  · refine ⟨h.concat none, ?_⟩
    intro x hx
    obtain rfl := List.mem_singleton.1 hx
    exact h.ne_length
  · refine ⟨h.concat _, ?_⟩
    intro x hx
    obtain ⟨packet, -, rfl⟩ := List.mem_map.1 hx
    exact h.ne_length

/-- What happens to the sessions does not reach a port without one. -/
theorem Silent.happen (h : s.Silent i) (affected : Nat → Session → Bool) (e : Event) :
    (s.happen affected e).1.Silent i ∧ ∀ x ∈ (s.happen affected e).2, x.1 ≠ .transfer i := by
  obtain ⟨hlt, hnone⟩ := List.getElem?_eq_some_iff.1 h
  constructor
  · show (List.map _ _)[i]? = some none
    rw [List.getElem?_map, List.getElem?_mapIdx, h]
    rfl
  · intro x hx
    obtain ⟨stepped, hmem, hx⟩ := List.mem_flatMap.1 hx
    obtain ⟨j, hj, rfl⟩ := List.mem_mapIdx.1 hmem
    -- a session speaks from its own port, and this one has none
    have hport : x.1 = .transfer j ∧ s.sessions[j] ≠ none := by
      split at hx
      · next session hsession =>
        split at hx
        · obtain ⟨packet, -, rfl⟩ := List.mem_map.1 hx
          exact ⟨rfl, by rw [hsession]; simp⟩
        · cases hx
      · cases hx
    rw [hport.1]
    intro he
    cases he
    exact hport.2 hnone

theorem Silent.act (h : s.Silent i) (a : Action) :
    (s.act a).1.Silent i ∧ ∀ x ∈ (s.act a).2, x.1 ≠ .transfer i := by
  cases a with
  | receive data => exact h.receive data
  | reply index data => exact h.happen _ _
  | elapse ms => exact Silent.happen (s := { s with now := s.now + ms }) h _ _

/-! ## All steps -/

theorem Silent.run (actions : List Action) :
    ∀ {s : Server}, s.Silent i → ∀ x ∈ (s.run actions).2, x.1 ≠ .transfer i := by
  induction actions with
  | nil =>
    intro s _ x hx
    cases hx
  | cons a rest ih =>
    intro s h x hx
    obtain ⟨hnext, hfirst⟩ := h.act a
    rcases List.mem_append.1 hx with hx | hx
    · exact hfirst x hx
    · exact ih hnext x hx

end BootServer.Tftp.Server
