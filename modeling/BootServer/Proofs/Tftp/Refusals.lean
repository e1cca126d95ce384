import BootServer.Proofs.Except
import BootServer.Proofs.Tftp.Ports

/-! Refusals. A listening port answers every datagram that it refuses with an error, and an error is
no request: it is refused in turn. So an error that reaches a listening port, from wherever it came,
is answered, and two listening ports that once begin to answer each other never stop. -/
namespace BootServer.Tftp

variable {code : UInt16} {message : String} {data : Octets} {packet : Packet}

/-! ## Errors read as requests -/

/-- Why an error is no request: it was cut before its end, or a field is no text, or its name is
empty. -/
inductive RequestError.OfError : RequestError → Prop where
  | unterminated : OfError .unterminated
  | malformedField : OfError .malformedField
  | emptyName : OfError .emptyName

/-- A text that begins with a NUL has an empty first field. -/
theorem fields_dropLast_nul (body : Octets) :
    ∃ rest, Text.fields 0 (0 :: body).dropLast = [] :: rest := by
  cases body with
  | nil => exact ⟨[], rfl⟩
  | cons b body => exact ⟨_, rfl⟩

def readField (field : Octets) : Except RequestError String :=
  match Text.Utf8.decode? field with
  | some s => .ok s
  | none => .error .malformedField

theorem fields_eq (body : Octets) :
    fields body =
      if body.getLast? = some 0 then (Text.fields 0 body.dropLast).mapM readField
      else .error .unterminated := rfl

theorem readField_nil : readField [] = .ok "" := by
  rw [readField, Text.Utf8.decode?, Text.Utf8.scan]
  rfl

theorem fields_nul (body : Octets) :
    (∃ e : RequestError, fields (0 :: body) = .error e ∧ e.OfError) ∨
      ∃ rest, fields (0 :: body) = .ok ("" :: rest) := by
  rw [fields_eq]
  split
  · obtain ⟨rest, hrest⟩ := fields_dropLast_nul body
    rw [hrest, List.mapM_cons, readField_nil]
    cases hmore : rest.mapM readField with
    | error e =>
      obtain ⟨field, -, hfield⟩ := exists_of_mapM_eq_error hmore
      unfold readField at hfield
      split at hfield
      · cases hfield
      · cases hfield
        exact .inl ⟨_, rfl, .malformedField⟩
    | ok more => exact .inr ⟨more, rfl⟩
  · exact .inl ⟨_, rfl, .unterminated⟩

/-- An error whose code has no upper octet, as all of the server's have, is refused. -/
theorem parse_encode_error (hcode : (code >>> 8).toUInt8 = 0) (message : String) :
    ∃ e : RequestError,
      Request.parse ((Packet.error code message).encode.take maxRequest) = .error e ∧ e.OfError := by
  have htake : (Packet.error code message).encode.take maxRequest =
      0 :: 5 :: 0 :: code.toUInt8 :: (encodeField message).take (maxRequest - 4) := by
    rw [Packet.encode, Octets.ofWord16, Octets.ofWord16, hcode]
    rfl
  have hlength : ∀ rest : Octets,
      ¬ (0 :: 5 :: 0 :: code.toUInt8 :: rest).length < Request.minSize := by
    intro rest
    simp only [List.length_cons, Request.minSize]
    omega
  rw [htake, Request.parse, if_neg (hlength _)]
  rcases fields_nul (code.toUInt8 :: (encodeField message).take (maxRequest - 4)) with
    ⟨e, he, hof⟩ | ⟨rest, hrest⟩
  · rw [he]
    exact ⟨e, rfl, hof⟩
  · rw [hrest]
    exact ⟨.emptyName, rfl, .emptyName⟩

/-! ## Answers of a listening port -/

namespace Server

variable {s : Server}

/-- What the listening port sends back to a datagram. -/
def refusal? (s : Server) (data : Octets) : Option Packet :=
  match s.settings.answer data with
  | .refused packet => some packet
  | _ => none

/-- The refusal is all that is sent, and the server stays as it was. -/
theorem receive_of_refusal (h : s.refusal? data = some packet) :
    s.receive data = (s, [(.listening, packet)]) := by
  unfold refusal? at h
  split at h
  · next hrefused =>
    cases h
    exact receive_refused hrefused
  · cases h

/-- What is refused is answered with an error whose code has no upper octet. -/
theorem error_of_refusal (h : s.refusal? data = some packet) :
    ∃ code message, packet = .error code message ∧ (code >>> 8).toUInt8 = 0 := by
  unfold refusal? Settings.answer at h
  cases hparse : Request.parse (data.take maxRequest) with
  | error e =>
    rw [hparse] at h
    cases h
    exact ⟨_, _, rfl, rfl⟩
  | ok request =>
    rw [hparse] at h
    cases request with
    | read r =>
      dsimp only [Settings.answerRead] at h
      split at h
      · next hrefused =>
        split at hrefused <;> cases hrefused
      · cases h
    | write file =>
      cases h
      exact ⟨_, _, rfl, rfl⟩

/-- The answer to what is refused for that reason. -/
def reproach (e : RequestError) : Packet := .error ErrorCode.illegalOperation e.message

theorem refusal_of_parse {e : RequestError} (h : Request.parse (data.take maxRequest) = .error e)
    (s : Server) : s.refusal? data = some (reproach e) := by
  rw [refusal?, Settings.answer, h]
  rfl

/-- An error is refused like any other datagram that is no request. -/
theorem refusal_encode_error (hcode : (code >>> 8).toUInt8 = 0) (message : String) (s : Server) :
    ∃ e : RequestError, e.OfError ∧
      s.refusal? (Packet.error code message).encode = some (reproach e) := by
  obtain ⟨e, hparse, hof⟩ := parse_encode_error hcode message
  exact ⟨e, hof, refusal_of_parse hparse s⟩

/-! ## Ports that answer each other -/

/-- What the listening ports of servers send when a datagram reaches the first of them and each of
them sends what it has to say to the next. -/
def answers (servers : Nat → Server) (data : Octets) : Nat → Option Packet
  | 0 => (servers 0).refusal? data
  | n + 1 => (answers servers data n).bind fun packet => (servers (n + 1)).refusal? packet.encode

variable {servers : Nat → Server} {n : Nat}

theorem answers_succ (h : answers servers data n = some packet) :
    answers servers data (n + 1) = (servers (n + 1)).refusal? packet.encode := by
  rw [answers, h]
  rfl

/-- Once a port answers, the next one answers that for one of three reasons. -/
theorem exists_answers_succ (h : (servers 0).refusal? data = some packet) (n : Nat) :
    ∃ e : RequestError, e.OfError ∧ answers servers data (n + 1) = some (reproach e) := by
  induction n with
  | zero =>
    obtain ⟨code, message, rfl, hcode⟩ := error_of_refusal h
    have hfirst : answers servers data 0 = some (.error code message) := h
    rw [answers_succ hfirst]
    exact refusal_encode_error hcode message _
  | succ n ih =>
    obtain ⟨e, -, he⟩ := ih
    rw [answers_succ he]
    exact refusal_encode_error rfl e.message _

/-- The answer to such an answer is always the same: its file has an empty name. -/
theorem parse_reproach {e : RequestError} (h : e.OfError) :
    Request.parse ((reproach e).encode.take maxRequest) = .error .emptyName := by
  have hread : (match Request.parse ((reproach e).encode.take maxRequest) with
      | .error e => some e
      | .ok _ => none) = some .emptyName := by
    cases h with
    | unterminated => decide +kernel
    | malformedField => decide +kernel
    | emptyName => decide +kernel
  cases hparse : Request.parse ((reproach e).encode.take maxRequest) with
  | error e' =>
    rw [hparse] at hread
    exact congrArg _ (Option.some.inj hread)
  | ok request =>
    rw [hparse] at hread
    cases hread

/-- Every error that a listening port answers with is answered by every listening port that it
reaches, and so are all the answers to it. Listening ports that pass on their answers never stop,
whatever began it; from the third answer on it is always the same one. -/
theorem refusals_never_end (servers : Nat → Server) (data : Octets) (packet : Packet)
    (h : (servers 0).refusal? data = some packet) :
    (∀ s : Server, ∃ message,
      s.receive packet.encode = (s, [(.listening, .error ErrorCode.illegalOperation message)])) ∧
    (∀ n, ∃ code message, answers servers data n = some (.error code message)) ∧
    ∀ n, 2 ≤ n → answers servers data n =
      some (.error ErrorCode.illegalOperation "malformed TFTP packet: empty filename") := by
  refine ⟨?_, ?_, ?_⟩
  · intro s
    obtain ⟨code, message, rfl, hcode⟩ := error_of_refusal h
    obtain ⟨e, -, he⟩ := refusal_encode_error hcode message s
    exact ⟨e.message, receive_of_refusal he⟩
  · intro n
    cases n with
    | zero =>
      obtain ⟨code, message, rfl, -⟩ := error_of_refusal h
      exact ⟨code, message, h⟩
    | succ n =>
      obtain ⟨e, -, he⟩ := exists_answers_succ h n
      exact ⟨_, _, he⟩
  · intro n hn
    obtain ⟨k, rfl⟩ := Nat.exists_eq_add_of_le' hn
    obtain ⟨e, hof, he⟩ := exists_answers_succ h k
    rw [answers_succ he]
    exact refusal_of_parse (parse_reproach hof) _

/-- A server without files. -/
def bare : Server where
  settings := { binaries := { directory := "/srv" }, files := { files := [] }, timeout := 1000
                maxBlock := 512 }

/-- A request to write a file. -/
def writeRequest : Octets := Octets.ofWord16 Opcode.write ++ encodeField "a" ++ encodeField "octet"

theorem refusal_writeRequest :
    bare.refusal? writeRequest =
      some (.error ErrorCode.accessViolation "Write not supported") := by
  decide +kernel

theorem refusals_never_end_write :
    bare.refusal? writeRequest = some (.error ErrorCode.accessViolation "Write not supported") ∧
    ∀ n, 2 ≤ n → answers (fun _ => bare) writeRequest n =
      some (.error ErrorCode.illegalOperation "malformed TFTP packet: empty filename") :=
  ⟨refusal_writeRequest,
    (refusals_never_end (fun _ => bare) writeRequest _ refusal_writeRequest).2.2⟩

/-- The refusal of a write request does not stay without an answer. -/
theorem refusal_answered : ∃ packet answer, bare.refusal? writeRequest = some packet ∧
    bare.receive packet.encode = (bare, [(.listening, answer)]) :=
  ⟨_, .error ErrorCode.illegalOperation "malformed TFTP packet: empty filename",
    refusal_writeRequest, receive_of_refusal (by decide +kernel)⟩

end Server
end BootServer.Tftp
