import BootServer.Tftp.Server

/-! The packets of a transfer by their count. The options come under the count zero, the blocks of
the file under the counts from one on. The number on the wire is the count without its upper bits,
so it starts again from zero; the offset in the file does not. What one event can do to a transfer
is told in these counts, once for all that follows. -/
namespace BootServer.Tftp

/-- The octets of the file that a packet carries. -/
def Packet.payload : Packet → Octets
  | .data _ content => content
  | _ => []

theorem ReadRequest.blockSize_pos (r : ReadRequest) (fileSize limit timeout : Nat) :
    0 < (r.negotiate fileSize limit timeout).blockSize := by
  show 0 < (blockSize? r.options limit).getD defaultBlockSize
  unfold blockSize?
  cases r.options.get? "blksize" with
  | none => exact Nat.zero_lt_succ _
  | some value =>
    show 0 < (Option.bind (Text.Decimal.read? Text.Decimal.max64 value) _).getD _
    cases Text.Decimal.read? Text.Decimal.max64 value with
    | none => exact Nat.zero_lt_succ _
    | some requested => exact Nat.lt_of_lt_of_le (by decide) (Nat.le_max_right _ minBlockSize)

namespace Settings

/-- The transfer that a request gets for a file of this content. -/
def transferOf (s : Settings) (r : ReadRequest) (content : Octets) : Transfer :=
  { content, terms := r.negotiate content.length s.maxBlock s.timeout }

theorem blockSize_transferOf (s : Settings) (r : ReadRequest) (content : Octets) :
    0 < (s.transferOf r content).terms.blockSize := r.blockSize_pos _ _ _

/-- A request that is granted gets the content of the file it names. -/
theorem answerRead_eq_transfer {s : Settings} {r : ReadRequest} {t : Transfer} :
    s.answerRead r = .transfer t ↔
      ∃ content, s.binaries.read s.files r.file = .ok (some content) ∧
        t = s.transferOf r content := by
  unfold answerRead
  cases s.binaries.read s.files r.file with
  | error e =>
    constructor
    · intro h; cases h
    · rintro ⟨content, h, -⟩; cases h
  | ok found =>
    cases found with
    | none =>
      constructor
      · intro h; cases h
      · rintro ⟨content, h, -⟩; cases h
    | some content =>
      constructor
      · intro h; cases h; exact ⟨content, rfl, rfl⟩
      · rintro ⟨content', h, rfl⟩; cases h; rfl

end Settings

namespace Transfer

/-- The packet with a count. -/
def nth (t : Transfer) : Nat → Packet
  | 0 => .optionAck t.terms.granted
  | k + 1 => .data (UInt16.ofNat (k + 1))
      (t.content.extract (k * t.terms.blockSize)
        (min ((k + 1) * t.terms.blockSize) t.content.length))

/-- The count of the first packet. -/
def opening (t : Transfer) : Nat := if t.terms.granted.isEmpty then 1 else 0

/-- The count of the last packet. -/
def last (t : Transfer) : Nat := t.content.length / t.terms.blockSize + 1

/-- The position at which the packet with a count is sent. -/
def position (t : Transfer) : Nat → Position
  | 0 => .options
  | k + 1 => .block (UInt16.ofNat (k + 1)) (k * t.terms.blockSize)

variable {t : Transfer} {k n : Nat}

theorem opening_le (t : Transfer) : t.opening ≤ 1 := by
  unfold opening
  split
  · exact Nat.le_refl 1
  · exact Nat.zero_le 1

theorem opening_le_last (t : Transfer) : t.opening ≤ t.last :=
  Nat.le_trans t.opening_le (Nat.le_add_left 1 _)

theorem first_eq (t : Transfer) : t.first = t.position t.opening := by
  unfold first opening
  cases t.terms.granted.isEmpty with
  | true => simp [position]
  | false => rfl

theorem number_position (t : Transfer) (k : Nat) : (t.position k).number = UInt16.ofNat k := by
  cases k <;> rfl

theorem packet_position (t : Transfer) (k : Nat) : t.packet (t.position k) = t.nth k := by
  cases k with
  | zero => rfl
  | succ k =>
    show Packet.data _ _ = Packet.data _ _
    congr 1
    rw [chunk, List.extract_eq_take_drop, Nat.add_mul, Nat.one_mul]
    rw [List.take_eq_take_iff, List.length_drop]
    omega

/-- Counts next to each other have different numbers, whatever the wrap does. -/
theorem ofNat_succ_ne (k : Nat) : UInt16.ofNat (k + 1) ≠ UInt16.ofNat k := by
  intro h
  have hn := congrArg UInt16.toNat h
  rw [UInt16.toNat_ofNat', UInt16.toNat_ofNat'] at hn
  omega

/-! ## Offsets -/

theorem mul_le_of_lt_last (hk : k < t.last) : k * t.terms.blockSize ≤ t.content.length :=
  Nat.le_trans (Nat.mul_le_mul_right _ (Nat.le_of_lt_succ hk)) (Nat.div_mul_le_self _ _)

theorem lt_mul_last (hb : 0 < t.terms.blockSize) :
    t.content.length < t.last * t.terms.blockSize := by
  have h := Nat.lt_mul_div_succ t.content.length hb
  rw [Nat.mul_comm] at h
  exact h

/-- No block begins after the end of the file. -/
theorem offset_le {number : UInt16} {offset : Nat} (hk : k ≤ t.last)
    (h : t.position k = .block number offset) : offset ≤ t.content.length := by
  cases k with
  | zero => cases h
  | succ k =>
    cases h
    exact mul_le_of_lt_last hk

theorem length_payload (t : Transfer) (k : Nat) :
    (t.nth (k + 1)).payload.length =
      min t.terms.blockSize (t.content.length - k * t.terms.blockSize) := by
  show (List.extract _ _ _).length = _
  rw [List.extract_eq_take_drop, List.length_take, List.length_drop, Nat.add_mul, Nat.one_mul]
  omega

/-- The last block is the one that is not full. -/
theorem length_payload_lt_iff (hb : 0 < t.terms.blockSize) (hk : k < t.last) :
    (t.nth (k + 1)).payload.length < t.terms.blockSize ↔ k + 1 = t.last := by
  have hle := mul_le_of_lt_last hk
  rw [length_payload]
  constructor
  · intro h
    have hlt : t.content.length < (k + 1) * t.terms.blockSize := by
      rw [Nat.add_mul, Nat.one_mul]
      omega
    have hdiv := (Nat.div_lt_iff_lt_mul hb).2 hlt
    unfold last at *
    omega
  · intro h
    have hlt := lt_mul_last hb
    rw [← h, Nat.add_mul, Nat.one_mul] at hlt
    omega

/-- What follows a packet that was acknowledged. -/
theorem next?_position (hb : 0 < t.terms.blockSize) (hk : k ≤ t.last) :
    t.next? (t.position k) = if k = t.last then none else some (t.position (k + 1)) := by
  cases k with
  | zero =>
    have h : 0 ≠ t.last := (Nat.succ_ne_zero _).symm
    rw [if_neg h]
    simp [position, next?]
  | succ k =>
    have hp : (t.chunk (k * t.terms.blockSize)) = (t.nth (k + 1)).payload :=
      congrArg Packet.payload (t.packet_position (k + 1))
    show (if (t.chunk (k * t.terms.blockSize)).length < t.terms.blockSize then none else _) = _
    rw [hp]
    by_cases h : k + 1 = t.last
    · rw [if_pos ((length_payload_lt_iff hb hk).2 h), if_pos h]
    · rw [if_neg fun hl => h ((length_payload_lt_iff hb hk).1 hl), if_neg h]
      show some (Position.block _ _) = some (Position.block _ _)
      rw [UInt16.ofNat_add (k + 1) 1, Nat.add_mul k 1, Nat.one_mul]
      rfl

/-! ## The blocks together -/

/-- The blocks of the file with the counts up to `n`. -/
def blocks (t : Transfer) (n : Nat) : List Octets :=
  (List.range' 1 n).map fun k => (t.nth k).payload

theorem blocks_succ (t : Transfer) (n : Nat) :
    t.blocks (n + 1) = t.blocks n ++ [(t.nth (n + 1)).payload] := by
  unfold blocks
  rw [List.range'_1_concat, List.map_append, Nat.add_comm 1 n]
  rfl

theorem length_blocks (t : Transfer) (n : Nat) : (t.blocks n).length = n := by
  rw [blocks, List.length_map, List.length_range']

theorem flatten_blocks (t : Transfer) (n : Nat) :
    (t.blocks n).flatten = t.content.take (n * t.terms.blockSize) := by
  induction n with
  | zero => simp [blocks]
  | succ n ih =>
    rw [blocks_succ, List.flatten_append, ih, List.flatten_singleton]
    show _ ++ List.extract _ _ _ = _
    rw [List.extract_eq_take_drop, Nat.add_mul, Nat.one_mul, List.take_add]
    congr 1
    rw [List.take_eq_take_iff, List.length_drop]
    omega

theorem flatten_blocks_last (hb : 0 < t.terms.blockSize) :
    (t.blocks t.last).flatten = t.content := by
  rw [flatten_blocks, List.take_of_length_le (Nat.le_of_lt (lt_mul_last hb))]

end Transfer

/-! ## One step -/

/-- A datagram that acknowledges the packet with a count. -/
def Event.Acks (e : Event) (k : Nat) : Prop :=
  ∃ data, e = .datagram data ∧ Reply.parse (data.take maxReply) = .ack (UInt16.ofNat k)

namespace Transfer

/-- What an event can lead to while the packet with count `k`, sent so many times, waits for its
acknowledgement. -/
inductive Leads (t : Transfer) (k sent : Nat) : Event → State × Option Packet → Prop where
  | repeated (h : sent < maxSends) :
    Leads t k sent .expiry (.waiting (t.position k) (sent + 1), some (t.nth k))
  | unanswered (h : maxSends ≤ sent) :
    Leads t k sent .expiry (.ended (.unanswered (UInt16.ofNat k)), none)
  | advanced {e : Event} (ha : e.Acks k) (h : k < t.last) :
    Leads t k sent e (.waiting (t.position (k + 1)) 1, some (t.nth (k + 1)))
  | completed {e : Event} (ha : e.Acks k) (h : k = t.last) :
    Leads t k sent e (.ended .complete, none)
  | aborted (data : Octets) (code : UInt16) (message : String)
    (h : Reply.parse (data.take maxReply) = .error code message) :
    Leads t k sent (.datagram data) (.ended (.clientError code message), none)
  | ignored (data : Octets) (h : ¬ (Event.datagram data).Acks k) :
    Leads t k sent (.datagram data) (.waiting (t.position k) sent, none)

theorem acknowledged_leads {t : Transfer} {k : Nat} {e : Event} (hb : 0 < t.terms.blockSize)
    (hk : k ≤ t.last) (sent : Nat) (ha : e.Acks k) :
    t.Leads k sent e (t.acknowledged (t.position k)) := by
  rw [acknowledged, next?_position hb hk]
  by_cases h : k = t.last
  · rw [if_pos h]
    exact .completed ha h
  · rw [if_neg h]
    show t.Leads k sent e (.waiting _ 1, some (t.packet _))
    rw [packet_position]
    exact .advanced ha (Nat.lt_of_le_of_ne hk h)

theorem step_leads {t : Transfer} {k : Nat} (hb : 0 < t.terms.blockSize) (hk : k ≤ t.last)
    (sent : Nat) (e : Event) : t.Leads k sent e (t.step (.waiting (t.position k) sent) e) := by
  cases e with
  | expiry =>
    show t.Leads k sent .expiry (if sent < maxSends then _ else _)
    rw [packet_position, number_position]
    by_cases h : sent < maxSends
    · rw [if_pos h]
      exact .repeated h
    · rw [if_neg h]
      exact .unanswered (Nat.le_of_not_lt h)
  | datagram data =>
    rw [step]
    cases hp : Reply.parse (data.take maxReply) with
    | ack number =>
      dsimp only
      rw [number_position]
      by_cases h : number = UInt16.ofNat k
      · rw [if_pos h]
        exact acknowledged_leads hb hk sent ⟨data, rfl, h ▸ hp⟩
      · rw [if_neg h]
        refine .ignored data ?_
        rintro ⟨_, ⟨⟩, ha⟩
        rw [hp] at ha
        cases ha
        exact h rfl
    | error code message => exact .aborted data code message hp
    | other =>
      refine .ignored data ?_
      rintro ⟨_, ⟨⟩, ha⟩
      rw [hp] at ha
      cases ha

theorem start_eq (t : Transfer) :
    t.start = (.waiting (t.position t.opening) 1, some (t.nth t.opening)) := by
  rw [start, enter, first_eq, packet_position]

end Transfer
end BootServer.Tftp
