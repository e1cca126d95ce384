import BootServer.Proofs.Octets
import BootServer.Proofs.Tftp.Blocks

/-! A client that reads a file. It takes the blocks in the order of their numbers, which it counts
with as few bits as the server does, acknowledges what it takes and what it took last, and is done
with the first block that is not full. -/
namespace BootServer.Tftp

/-- What a client reads in a datagram of the server. -/
inductive Arrival where
  | optionAck
  | data (number : UInt16) (content : Octets)
  | other
  deriving DecidableEq

def Arrival.read : Octets → Arrival
  | a :: b :: rest =>
    let opcode := Octets.word16 a b
    if opcode = Opcode.optionAck then .optionAck
    else match rest with
      | c :: d :: content =>
        if opcode = Opcode.data then .data (Octets.word16 c d) content else .other
      | _ => .other
  | _ => .other

/-- The acknowledgement of a number. -/
def encodeAck (number : UInt16) : Octets := Octets.ofWord16 Opcode.ack ++ Octets.ofWord16 number

structure Reader where
  blockSize : Nat
  /-- The blocks that were taken, in order. -/
  blocks : List Octets := []
  deriving DecidableEq

namespace Reader

def received (c : Reader) : Octets := c.blocks.flatten

def done (c : Reader) : Bool := c.blocks.any (·.length < c.blockSize)

/-- What a datagram does to the client, and what the client sends back. -/
def receive (c : Reader) (data : Octets) : Reader × Option Octets :=
  match Arrival.read data with
  | .optionAck => (c, some (encodeAck 0))
  | .data number content =>
    if number = UInt16.ofNat (c.blocks.length + 1) && !c.done then
      ({ c with blocks := c.blocks ++ [content] }, some (encodeAck number))
    else if number = UInt16.ofNat c.blocks.length && !c.blocks.isEmpty then
      (c, some (encodeAck number))
    else (c, none)
  | .other => (c, none)

end Reader

/-! ## On the wire -/

/-- The server reads the number that the client acknowledges. -/
theorem parse_encodeAck (number : UInt16) :
    Reply.parse ((encodeAck number).take maxReply) = .ack number := by
  have htake : (encodeAck number).take maxReply = encodeAck number :=
    List.take_of_length_le (Nat.le_of_ble_eq_true rfl)
  rw [htake]
  simp only [encodeAck, Octets.ofWord16, List.cons_append, List.nil_append, Reply.parse,
    Octets.word16_ofWord16, if_true]

/-- The acknowledgement of the packet that waits is never passed over. -/
theorem step_encodeAck {t : Transfer} {k : Nat} (hb : 0 < t.terms.blockSize) (hk : k ≤ t.last)
    (sent : Nat) :
    t.step (.waiting (t.position k) sent) (.datagram (encodeAck (UInt16.ofNat k))) =
      if k = t.last then (.ended .complete, none)
      else (.waiting (t.position (k + 1)) 1, some (t.nth (k + 1))) := by
  rw [Transfer.step, parse_encodeAck]
  dsimp only
  rw [Transfer.number_position, if_pos rfl, Transfer.acknowledged, Transfer.next?_position hb hk]
  by_cases h : k = t.last
  · rw [if_pos h, if_pos h]
  · rw [if_neg h, if_neg h]
    dsimp only
    rw [Transfer.enter, Transfer.packet_position]

theorem read_optionAck (options : List (String × String)) :
    Arrival.read (Packet.optionAck options).encode = .optionAck := by
  simp only [Packet.encode, Octets.ofWord16, List.cons_append, List.nil_append, Arrival.read,
    Octets.word16_ofWord16, if_true]

theorem read_data (number : UInt16) (content : Octets) :
    Arrival.read (Packet.data number content).encode = .data number content := by
  have hne : Opcode.data ≠ Opcode.optionAck := by decide
  simp only [Packet.encode, Octets.ofWord16, List.cons_append, List.nil_append, Arrival.read,
    Octets.word16_ofWord16, hne, if_false, if_true]

/-! ## One packet -/

namespace Reader

variable {t : Transfer} {c : Reader} {n d : Nat}

/-- The last block that was taken comes again. -/
theorem receive_again (hc : c.blocks = t.blocks (n + 1)) :
    c.receive (t.nth (n + 1)).encode = (c, some (encodeAck (UInt16.ofNat (n + 1)))) := by
  have hlen : c.blocks.length = n + 1 := by rw [hc, t.length_blocks]
  have hne : c.blocks.isEmpty = false := by
    rw [List.isEmpty_eq_false_iff, ← List.length_pos_iff, hlen]
    exact Nat.succ_pos n
  have hnext : (UInt16.ofNat (n + 1) = UInt16.ofNat (n + 1 + 1)) = False :=
    eq_false (Transfer.ofNat_succ_ne (n + 1)).symm
  rw [receive, Transfer.nth, read_data]
  simp only [hlen, hnext, hne, decide_false, Bool.false_and, Bool.false_eq_true, if_false,
    decide_true, Bool.not_false, Bool.and_self, if_true]

/-- The block after those that were taken comes. -/
theorem receive_expected (hc : c.blocks = t.blocks n) :
    c.receive (t.nth (n + 1)).encode = if c.done then (c, none)
      else ({ c with blocks := t.blocks (n + 1) }, some (encodeAck (UInt16.ofNat (n + 1)))) := by
  have hlen : c.blocks.length = n := by rw [hc, t.length_blocks]
  have hlast : (UInt16.ofNat (n + 1) = UInt16.ofNat n) = False :=
    eq_false (Transfer.ofNat_succ_ne n)
  have hblocks : c.blocks ++ [(t.nth (n + 1)).payload] = t.blocks (n + 1) := by
    rw [hc, t.blocks_succ]
  rw [← hblocks, receive, Transfer.nth, read_data]
  dsimp only
  rw [hlen]
  cases c.done with
  | true =>
    simp only [hlast, decide_true, Bool.not_true, Bool.and_false, Bool.false_eq_true,
      if_false, decide_false, Bool.false_and, if_true]
  | false =>
    simp only [decide_true, Bool.not_false, Bool.and_self, if_true, Bool.false_eq_true, if_false]
    rfl

/-- What the packet with a count can do to a client that took the first `n` blocks. -/
inductive Takes (t : Transfer) (c : Reader) (n : Nat) : Nat → Reader × Option Octets → Prop where
  | accepted : Takes t c n (n + 1)
      ({ c with blocks := t.blocks (n + 1) }, some (encodeAck (UInt16.ofNat (n + 1))))
  | repeated : Takes t c n n (c, some (encodeAck (UInt16.ofNat n)))
  | ignored : c.done = true → Takes t c n (n + 1) (c, none)

/-- The packets next to what was taken are told apart by their numbers, so no block is taken twice
and none is passed over. -/
theorem receive_takes (hc : c.blocks = t.blocks n) (hle : n ≤ d) (hd : d ≤ n + 1) :
    Takes t c n d (c.receive (t.nth d).encode) := by
  rcases Nat.lt_or_ge n d with h | h
  · have he : d = n + 1 := Nat.le_antisymm hd h
    rw [he, receive_expected hc]
    cases hdone : c.done with
    | true => exact .ignored hdone
    | false => exact .accepted
  · have he : d = n := Nat.le_antisymm h hle
    rw [he]
    cases n with
    | zero =>
      rw [receive, Transfer.nth, read_optionAck]
      exact .repeated
    | succ n =>
      rw [receive_again hc]
      exact .repeated

/-- A client that is done took the last block. -/
theorem eq_last_of_done (hb : 0 < t.terms.blockSize) (hc : c.blocks = t.blocks n)
    (hsize : c.blockSize = t.terms.blockSize) (hn : n ≤ t.last) (hdone : c.done = true) :
    n = t.last := by
  unfold done at hdone
  rw [hc, hsize, Transfer.blocks, List.any_map, List.any_eq_true] at hdone
  obtain ⟨k, hk, hshort⟩ := hdone
  have hrange := List.mem_range'_1.1 hk
  cases k with
  | zero => exact absurd hrange.1 (by decide)
  | succ k =>
    have hlast := (Transfer.length_payload_lt_iff hb (by omega)).1 (of_decide_eq_true hshort)
    omega

/-- The last block makes the client done. -/
theorem done_of_eq_last (hb : 0 < t.terms.blockSize) (hc : c.blocks = t.blocks t.last)
    (hsize : c.blockSize = t.terms.blockSize) : c.done = true := by
  unfold done
  rw [hc, hsize, Transfer.blocks, List.any_map, List.any_eq_true]
  refine ⟨t.last, List.mem_range'_1.2 ⟨Nat.le_add_left 1 _, by omega⟩, ?_⟩
  exact decide_eq_true ((Transfer.length_payload_lt_iff hb (Nat.lt_succ_self _)).2 rfl)

/-- The packet after those that a client got is not passed over. -/
theorem receive_next {k : Nat} (hb : 0 < t.terms.blockSize) (hc : c.blocks = t.blocks (k - 1))
    (hsize : c.blockSize = t.terms.blockSize) (hk : k ≤ t.last) :
    ∃ c', c.receive (t.nth k).encode = (c', some (encodeAck (UInt16.ofNat k))) ∧
      c'.blocks = t.blocks k ∧ c'.blockSize = t.terms.blockSize := by
  have htakes := receive_takes (d := k) hc (Nat.sub_le k 1) (by omega)
  generalize c.receive (t.nth k).encode = reply at htakes
  cases k with
  | zero =>
    cases htakes with
    | repeated => exact ⟨_, rfl, hc, hsize⟩
  | succ k =>
    cases htakes with
    | accepted => exact ⟨_, rfl, rfl, hsize⟩
    | ignored hdone =>
      have hlast := eq_last_of_done hb hc hsize (by omega) hdone
      rw [Nat.add_sub_cancel] at hlast
      omega

end Reader
end BootServer.Tftp
