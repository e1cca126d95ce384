import BootServer.Proofs.Tftp.Ports
import BootServer.Proofs.Tftp.Timeline

/-! Requests for a file. All that a transfer ever sends of a file is a beginning of what was read for
it, and all of it once the transfer is complete. Where nothing was read, one error is sent and no
octet of the file. -/
namespace BootServer.Tftp

namespace Transfer

variable {t : Transfer} {events : List Event} {turns : List (List Moment)}

/-- The blocks that were sent so far are a beginning of the content. -/
theorem Orderly.carried_prefix (h : t.Orderly events turns) :
    turns.flatMap carried <+: t.content := by
  cases hn : t.opening + turns.length with
  | zero =>
    have hnil : turns = [] := List.length_eq_zero_iff.1 (by omega)
    rw [hnil]
    exact List.nil_prefix
  | succ n =>
    rw [flatMap_carried h.turn hn, flatten_blocks]
    exact List.take_prefix _ _

/-- At any time the blocks that were sent, each counted once, are a beginning of these octets, and
they are all of them when the transfer is complete. -/
def Carries (t : Transfer) (octets : Octets) : Prop :=
  ∀ events, ∃ turns, t.Orderly events turns ∧ turns.flatMap carried <+: octets ∧
    (t.reached events = .ended .complete → turns.flatMap carried = octets)

end Transfer

/-- The datagram asks for the file with that name. -/
def AsksFor (data : Octets) (name : String) : Prop :=
  ∃ r, Request.parse (data.take maxRequest) = .ok (.read r) ∧ r.file = name

namespace Settings

variable {s : Settings} {name : String} {octets data : Octets}

/-- Whoever asks for the name gets a transfer of these octets. -/
def Sends (s : Settings) (name : String) (octets : Octets) : Prop :=
  ∀ data, AsksFor data name → ∃ t, s.answer data = .transfer t ∧ t.Carries octets

/-- Whoever asks for the name gets one error from a new port, which then says no more. -/
def Withholds (s : Settings) (name : String) : Prop :=
  ∀ server : Server, server.settings = s → ∀ data, AsksFor data name →
    ∃ server' i code message,
      server.receive data = (server', [(.transfer i, .error code message)]) ∧
      ∀ actions, ∀ x ∈ (server'.run actions).2, x.1 ≠ .transfer i

theorem carries_transferOf (s : Settings) (r : ReadRequest) (octets : Octets) :
    (s.transferOf r octets).Carries octets := by
  intro events
  obtain ⟨turns, h⟩ := s.transfer_orderly r octets events
  exact ⟨turns, h, h.carried_prefix, fun hr => (h.complete hr).2.1⟩

theorem answer_of_read {r : ReadRequest}
    (h : Request.parse (data.take maxRequest) = .ok (.read r)) :
    s.answer data = s.answerRead r := by
  rw [answer, h]

theorem sends_of_read (h : s.binaries.read s.files name = .ok (some octets)) :
    s.Sends name octets := by
  rintro data ⟨r, hr, rfl⟩
  refine ⟨_, ?_, s.carries_transferOf r octets⟩
  rw [answer_of_read hr]
  exact answerRead_eq_transfer.2 ⟨octets, h, rfl⟩

/-- What is not read is not sent. -/
theorem withholds_of_read (h : ∀ octets, s.binaries.read s.files name ≠ .ok (some octets)) :
    s.Withholds name := by
  rintro server rfl data ⟨r, hr, rfl⟩
  have hanswer : ∃ code message, server.settings.answer data = .unavailable (.error code message) := by
    rw [answer_of_read hr, answerRead]
    split
    · next content hread => exact absurd hread (h content)
    · exact ⟨_, _, rfl⟩
    · exact ⟨_, _, rfl⟩
  obtain ⟨code, message, hanswer⟩ := hanswer
  exact ⟨_, _, code, message, Server.receive_unavailable hanswer,
    fun actions => server.silent_concat.run actions⟩

end Settings
end BootServer.Tftp
