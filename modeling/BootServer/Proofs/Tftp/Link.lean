import BootServer.Proofs.Tftp.Reader

/-! A transfer and its client on a link that loses and doubles datagrams but keeps their order. The
server is never more than one packet ahead of the client, and nothing that is on its way is older
than that, so the numbers tell apart what meets, though they wrap. -/
namespace BootServer.Tftp

inductive Direction where
  | down
  | up
  deriving DecidableEq

inductive Action where
  /-- The timer of the server expires. -/
  | expire
  /-- The datagram that was sent first in a direction arrives. -/
  | deliver (direction : Direction)
  | lose (direction : Direction) (index : Nat)
  | double (direction : Direction) (index : Nat)
  deriving DecidableEq

/-- The two ends of a transfer, and the datagrams on their way in the order they were sent. -/
structure Link where
  server : State
  client : Reader
  down : List Octets
  up : List Octets

namespace Link

/-- The server has sent its first packet. -/
def opened (t : Transfer) : Link where
  server := t.start.1
  client := { blockSize := t.terms.blockSize }
  down := (t.start.2.map Packet.encode).toList
  up := []

/-- Let an event happen to the server. -/
def happen (t : Transfer) (l : Link) (e : Event) : Link :=
  { l with
    server := (t.step l.server e).1
    down := l.down ++ ((t.step l.server e).2.map Packet.encode).toList }

/-- Keep the first `i` and all from `j` on of what is on its way. -/
def splice (l : Link) (i j : Nat) : Direction → Link
  | .down => { l with down := l.down.take i ++ l.down.drop j }
  | .up => { l with up := l.up.take i ++ l.up.drop j }

def step (t : Transfer) (l : Link) : Action → Link
  | .expire => l.happen t .expiry
  | .deliver .up =>
    match l.up with
    | [] => l
    | data :: rest => { l with up := rest }.happen t (.datagram data)
  | .deliver .down =>
    match l.down with
    | [] => l
    | data :: rest =>
      let (client, reply) := l.client.receive data
      { l with client, down := rest, up := l.up ++ reply.toList }
  | .lose direction index => l.splice index (index + 1) direction
  | .double direction index => l.splice (index + 1) index direction

def run (t : Transfer) (l : Link) (actions : List Action) : Link := actions.foldl (step t) l

/-! ## The invariant -/

/-- The datagrams of a list of packets, each given by its count. -/
def packets (t : Transfer) (ds : List Nat) : List Octets := ds.map fun d => (t.nth d).encode

def acks (us : List Nat) : List Octets := us.map fun u => encodeAck (UInt16.ofNat u)

/-- Where the server stands when the packet with count `k` is the last one it sent and the client
took `n` blocks. -/
def Stands (t : Transfer) (k n : Nat) : State → Prop
  | .waiting position _ => position = t.position k
  | .ended .complete => k = n ∧ n = t.last
  | .ended _ => True

/-- The packets with the counts `ds` are on their way down, the acknowledgements of `us` on their way
up; the client took the first `n` blocks, and `k` is the count of the last packet that was sent. -/
structure InStep (t : Transfer) (l : Link) (k n : Nat) (ds us : List Nat) : Prop where
  down : l.down = packets t ds
  up : l.up = acks us
  blocks : l.client.blocks = t.blocks n
  blockSize : l.client.blockSize = t.terms.blockSize
  le : n ≤ k
  near : k ≤ n + 1
  le_last : k ≤ t.last
  downSorted : ds.Pairwise (· ≤ ·)
  upSorted : us.Pairwise (· ≤ ·)
  downRange : ∀ d ∈ ds, n ≤ d ∧ d ≤ k
  upRange : ∀ u ∈ us, u ≤ n ∧ k ≤ u + 1
  stands : Stands t k n l.server

variable {t : Transfer} {l : Link} {k n d u : Nat} {ds us : List Nat}

theorem packets_concat (t : Transfer) (ds : List Nat) (d : Nat) :
    packets t (ds ++ [d]) = packets t ds ++ [(t.nth d).encode] := List.map_append

theorem acks_concat (us : List Nat) (u : Nat) :
    acks (us ++ [u]) = acks us ++ [encodeAck (UInt16.ofNat u)] := List.map_append

theorem forall_mem_concat {p : Nat → Prop} (h : ∀ d ∈ ds, p d) (hk : p k) :
    ∀ d ∈ ds ++ [k], p d :=
  List.forall_mem_append.2 ⟨h, List.forall_mem_singleton.2 hk⟩

theorem pairwise_concat (h : ds.Pairwise (· ≤ ·)) (hle : ∀ d ∈ ds, d ≤ k) :
    (ds ++ [k]).Pairwise (· ≤ ·) := by
  rw [List.pairwise_append]
  refine ⟨h, List.pairwise_singleton _ _, ?_⟩
  intro d hd
  exact List.forall_mem_singleton.2 (hle d hd)

theorem mem_splice {a : Nat} {i j : Nat} (h : a ∈ ds.take i ++ ds.drop j) : a ∈ ds := by
  rcases List.mem_append.1 h with h | h
  · exact List.mem_of_mem_take h
  · exact List.mem_of_mem_drop h

/-- Neither a loss nor a copy next to its original puts a list out of order. -/
theorem pairwise_splice (h : ds.Pairwise (· ≤ ·)) {i j : Nat} (hij : i ≤ j + 1) :
    (ds.take i ++ ds.drop j).Pairwise (· ≤ ·) := by
  rw [List.pairwise_append]
  refine ⟨h.sublist (List.take_sublist _ _), h.sublist (List.drop_sublist _ _), ?_⟩
  intro a ha b hb
  obtain ⟨x, hx, rfl⟩ := List.mem_take_iff_getElem.1 ha
  obtain ⟨y, hy, rfl⟩ := List.mem_drop_iff_getElem.1 hb
  rcases Nat.lt_or_ge x (j + y) with hlt | hge
  · exact List.pairwise_iff_getElem.1 h x (j + y) _ _ hlt
  · have he : x = j + y := by omega
    subst he
    exact Nat.le_refl _

theorem inStep_opened (t : Transfer) : InStep t (opened t) t.opening 0 [t.opening] [] := by
  have hstart := t.start_eq
  refine ⟨?_, rfl, rfl, rfl, Nat.zero_le _, t.opening_le, t.opening_le_last,
    List.pairwise_singleton _ _, List.Pairwise.nil, ?_, List.forall_mem_nil _, ?_⟩
  · show (t.start.2.map Packet.encode).toList = _
    rw [hstart]
    rfl
  · exact List.forall_mem_singleton.2 ⟨Nat.zero_le _, Nat.le_refl _⟩
  · show Stands t _ _ t.start.1
    rw [hstart]
    rfl

/-- The server sends the packet with count `k'`, be it the one that waits or the one after it. -/
theorem InStep.sent (h : InStep t l k n ds us) {k' : Nat} (hk : k ≤ k') (hnear : k' ≤ n + 1)
    (hlast : k' ≤ t.last) (hus : ∀ u ∈ us, k' ≤ u + 1) (count : Nat) :
    InStep t { l with
      server := .waiting (t.position k') count, down := l.down ++ [(t.nth k').encode] }
      k' n (ds ++ [k']) us where
  down := by rw [h.down, packets_concat]
  up := h.up
  blocks := h.blocks
  blockSize := h.blockSize
  le := Nat.le_trans h.le hk
  near := hnear
  le_last := hlast
  downSorted := pairwise_concat h.downSorted fun d hd => Nat.le_trans (h.downRange d hd).2 hk
  upSorted := h.upSorted
  downRange := forall_mem_concat
    (fun d hd => ⟨(h.downRange d hd).1, Nat.le_trans (h.downRange d hd).2 hk⟩)
    ⟨Nat.le_trans h.le hk, Nat.le_refl _⟩
  upRange := fun u hu => ⟨(h.upRange u hu).1, hus u hu⟩
  stands := rfl

/-- The server sends nothing. -/
theorem InStep.silent (h : InStep t l k n ds us) {s : State} (hs : Stands t k n s) :
    InStep t { l with server := s, down := l.down ++ [] } k n ds us :=
  { h with
    down := by rw [List.append_nil, h.down]
    stands := hs }

/-- What an event does to the server, when it acknowledges at most what the client took. -/
theorem InStep.happen (hb : 0 < t.terms.blockSize) (h : InStep t l k n ds us) {e : Event}
    (ha : e.Acks k → k = n ∧ ∀ u ∈ us, k ≤ u) :
    ∃ k' ds', InStep t (l.happen t e) k' n ds' us := by
  have hstands := h.stands
  unfold Link.happen
  cases hs : l.server with
  | ended outcome =>
    rw [hs] at hstands
    exact ⟨k, ds, h.silent hstands⟩
  | waiting position sent =>
    rw [hs] at hstands
    cases hstands
    have hlead := Transfer.step_leads hb h.le_last sent e
    generalize t.step (.waiting (t.position k) sent) e = r at hlead
    cases hlead with
    | repeated hlt =>
      exact ⟨k, _, h.sent (Nat.le_refl k) h.near h.le_last (fun u hu => (h.upRange u hu).2) _⟩
    | unanswered hle => exact ⟨k, ds, h.silent trivial⟩
    | advanced hacks hlt =>
      obtain ⟨hkn, hus⟩ := ha hacks
      exact ⟨k + 1, _, h.sent (Nat.le_succ k) (Nat.succ_le_succ (Nat.le_of_eq hkn)) hlt
        (fun u hu => Nat.succ_le_succ (hus u hu)) _⟩
    | completed hacks hlast =>
      obtain ⟨hkn, -⟩ := ha hacks
      exact ⟨k, ds, h.silent ⟨hkn, hkn ▸ hlast⟩⟩
    | aborted data code message hp => exact ⟨k, ds, h.silent trivial⟩
    | ignored data hacks => exact ⟨k, ds, h.silent rfl⟩

/-- The client took the first packet that was on its way, now or before, and acknowledges it. -/
theorem InStep.taken (h : InStep t l k n (d :: ds) us) {client : Reader}
    (hblocks : client.blocks = t.blocks d) (hsize : client.blockSize = t.terms.blockSize) :
    InStep t { l with
      client, down := packets t ds, up := l.up ++ [encodeAck (UInt16.ofNat d)] }
      k d ds (us ++ [d]) := by
  obtain ⟨hle, hd⟩ := h.downRange d (List.mem_cons_self ..)
  obtain ⟨hhead, hsorted⟩ := List.pairwise_cons.1 h.downSorted
  have hup : ∀ u ∈ us, u ≤ d := fun u hu => Nat.le_trans (h.upRange u hu).1 hle
  have hnear : k ≤ d + 1 := Nat.le_trans h.near (Nat.succ_le_succ hle)
  refine { h with
    down := rfl, up := ?_, blocks := hblocks, blockSize := hsize, le := hd, near := hnear
    downSorted := hsorted, upSorted := pairwise_concat h.upSorted hup, downRange := ?_
    upRange := ?_, stands := ?_ }
  · rw [h.up, acks_concat]
  · intro d' hd'
    exact ⟨hhead d' hd', (h.downRange d' (List.mem_cons_of_mem _ hd')).2⟩
  · exact forall_mem_concat (fun u hu => ⟨hup u hu, (h.upRange u hu).2⟩) ⟨Nat.le_refl d, hnear⟩
  · -- a complete transfer has sent nothing that the client still lacks
    have hstands := h.stands
    show Stands t k d l.server
    cases hs : l.server with
    | waiting position sent =>
      rw [hs] at hstands
      exact hstands
    | ended outcome =>
      cases outcome with
      | complete =>
        rw [hs] at hstands
        obtain ⟨hkn, hlast⟩ := hstands
        exact ⟨by omega, by omega⟩
      | clientError code message => trivial
      | unanswered number => trivial

/-- The client gets the first packet that is on its way. -/
theorem InStep.deliverDown (h : InStep t l k n (d :: ds) us) {client : Reader}
    {reply : Option Octets} (ht : Reader.Takes t l.client n d (client, reply)) :
    ∃ n' us', InStep t { l with client, down := packets t ds, up := l.up ++ reply.toList }
      k n' ds us' := by
  cases ht with
  | accepted => exact ⟨n + 1, _, h.taken rfl h.blockSize⟩
  | repeated => exact ⟨n, _, h.taken h.blocks h.blockSize⟩
  | ignored hdone =>
    refine ⟨n, us, { h with
      down := rfl, up := ?_, downSorted := h.downSorted.tail
      downRange := fun d' hd' => h.downRange d' (List.mem_cons_of_mem _ hd') }⟩
    show l.up ++ [] = _
    rw [List.append_nil, h.up]

/-- The server gets the first acknowledgement that is on its way. -/
theorem InStep.deliverUp (hb : 0 < t.terms.blockSize) (h : InStep t l k n ds (u :: us)) :
    ∃ k' ds', InStep t
      ({ l with up := acks us }.happen t (.datagram (encodeAck (UInt16.ofNat u)))) k' n ds' us := by
  obtain ⟨hun, hku⟩ := h.upRange u (List.mem_cons_self ..)
  obtain ⟨hhead, hsorted⟩ := List.pairwise_cons.1 h.upSorted
  have hrest : InStep t { l with up := acks us } k n ds us :=
    { h with
      up := rfl
      upSorted := hsorted
      upRange := fun u' hu' => h.upRange u' (List.mem_cons_of_mem _ hu') }
  refine hrest.happen hb ?_
  rintro ⟨data, hdata, hparse⟩
  cases hdata
  rw [parse_encodeAck] at hparse
  have hnumber := Reply.ack.inj hparse
  have hle := h.le
  have huk : u = k := by
    rcases Nat.lt_or_ge u k with hlt | hge
    · have hk : k = u + 1 := by omega
      rw [hk] at hnumber
      exact absurd hnumber.symm (Transfer.ofNat_succ_ne u)
    · omega
  refine ⟨by omega, ?_⟩
  intro u' hu'
  rw [← huk]
  exact hhead u' hu'

theorem InStep.splice (h : InStep t l k n ds us) {i j : Nat} (hij : i ≤ j + 1)
    (direction : Direction) : ∃ ds' us', InStep t (l.splice i j direction) k n ds' us' := by
  cases direction with
  | down =>
    refine ⟨ds.take i ++ ds.drop j, us, { h with
      down := ?_, downSorted := pairwise_splice h.downSorted hij
      downRange := fun d hd => h.downRange d (mem_splice hd) }⟩
    show l.down.take i ++ l.down.drop j = _
    rw [h.down, packets, packets, List.map_append, List.map_take, List.map_drop]
  | up =>
    refine ⟨ds, us.take i ++ us.drop j, { h with
      up := ?_, upSorted := pairwise_splice h.upSorted hij
      upRange := fun u hu => h.upRange u (mem_splice hu) }⟩
    show l.up.take i ++ l.up.drop j = _
    rw [h.up, acks, acks, List.map_append, List.map_take, List.map_drop]

/-- The two ends stay in step, whatever is done next. -/
theorem InStep.step (hb : 0 < t.terms.blockSize) (h : InStep t l k n ds us) (a : Action) :
    ∃ k' n' ds' us', InStep t (l.step t a) k' n' ds' us' := by
  cases a with
  | expire =>
    obtain ⟨k', ds', h'⟩ := h.happen hb (e := .expiry) (by rintro ⟨data, ⟨⟩, -⟩)
    exact ⟨k', n, ds', us, h'⟩
  | deliver direction =>
    cases direction with
    | down =>
      cases ds with
      | nil =>
        have hdown : l.down = [] := h.down
        rw [Link.step, hdown]
        exact ⟨k, n, [], us, h⟩
      | cons d ds =>
        have hdown : l.down = (t.nth d).encode :: packets t ds := h.down
        obtain ⟨hle, hd⟩ := h.downRange d (List.mem_cons_self ..)
        have htakes := Reader.receive_takes h.blocks hle (Nat.le_trans hd h.near)
        rw [Link.step, hdown]
        dsimp only
        cases hr : l.client.receive (t.nth d).encode with
        | mk client reply =>
          rw [hr] at htakes
          obtain ⟨n', us', h'⟩ := h.deliverDown htakes
          exact ⟨k, n', ds, us', h'⟩
    | up =>
      cases us with
      | nil =>
        have hup : l.up = [] := h.up
        rw [Link.step, hup]
        exact ⟨k, n, ds, [], h⟩
      | cons u us =>
        have hup : l.up = encodeAck (UInt16.ofNat u) :: acks us := h.up
        rw [Link.step, hup]
        obtain ⟨k', ds', h'⟩ := h.deliverUp hb
        exact ⟨k', n, ds', us, h'⟩
  | lose direction index =>
    obtain ⟨ds', us', h'⟩ := h.splice (i := index) (j := index + 1) (by omega) direction
    exact ⟨k, n, ds', us', h'⟩
  | double direction index =>
    obtain ⟨ds', us', h'⟩ := h.splice (i := index + 1) (j := index) (by omega) direction
    exact ⟨k, n, ds', us', h'⟩

theorem InStep.run (hb : 0 < t.terms.blockSize) (actions : List Action) :
    ∀ {l k n ds us}, InStep t l k n ds us →
      ∃ k' n' ds' us', InStep t (l.run t actions) k' n' ds' us' := by
  induction actions with
  | nil => exact fun h => ⟨_, _, _, _, h⟩
  | cons a rest ih =>
    intro l k n ds us h
    obtain ⟨k', n', ds', us', h'⟩ := h.step hb a
    exact ih h'

/-! ## Agreement -/

/-- The client of a transfer has the beginning of the file, block by block, whatever is lost and
doubled and whenever the timer expires; and it has the whole file when it is done, and when the
server has completed the transfer. -/
theorem client_has_file (s : Settings) (r : ReadRequest) (content : Octets)
    (actions : List Action) :
    let t := s.transferOf r content
    let l := (opened t).run t actions
    l.client.received <+: content ∧
      (∃ n, n ≤ t.last ∧ l.client.blocks = t.blocks n) ∧
      (l.client.done = true → l.client.received = content) ∧
      (l.server = .ended .complete → l.client.done = true ∧ l.client.received = content) := by
  intro t l
  have hb : 0 < t.terms.blockSize := s.blockSize_transferOf r content
  obtain ⟨k, n, ds, us, h⟩ := InStep.run hb actions (inStep_opened t)
  have hn : n ≤ t.last := Nat.le_trans h.le h.le_last
  have hreceived : l.client.received = content.take (n * t.terms.blockSize) := by
    rw [Reader.received, h.blocks, t.flatten_blocks]
    rfl
  have hwhole : n = t.last → l.client.received = content := by
    intro hl
    rw [Reader.received, h.blocks, hl, Transfer.flatten_blocks_last hb]
    rfl
  refine ⟨?_, ⟨n, hn, h.blocks⟩, ?_, ?_⟩
  · rw [hreceived]
    exact List.take_prefix _ _
  · intro hdone
    exact hwhole (Reader.eq_last_of_done hb h.blocks h.blockSize hn hdone)
  · intro hcomplete
    have hstands := h.stands
    rw [hcomplete] at hstands
    refine ⟨Reader.done_of_eq_last hb ?_ h.blockSize, hwhole hstands.2⟩
    rw [h.blocks, hstands.2]

/-! ## Completion -/

/-- A packet goes down and its acknowledgement comes back. -/
def exchange : List Action := [.deliver .down, .deliver .up]

/-- Nothing is on its way but the packet with count `k`, which the client did not get before. -/
structure Fresh (t : Transfer) (l : Link) (k : Nat) : Prop where
  server : l.server = .waiting (t.position k) 1
  blocks : l.client.blocks = t.blocks (k - 1)
  blockSize : l.client.blockSize = t.terms.blockSize
  down : l.down = packets t [k]
  up : l.up = []

theorem fresh_opened (t : Transfer) : Fresh t (opened t) t.opening := by
  have hstart := t.start_eq
  refine ⟨?_, ?_, rfl, (inStep_opened t).down, rfl⟩
  · show t.start.1 = _
    rw [hstart]
  · rw [Nat.sub_eq_zero_of_le t.opening_le]
    rfl

theorem Fresh.deliverDown (hb : 0 < t.terms.blockSize) (h : Fresh t l k) (hk : k ≤ t.last) :
    ∃ client, l.step t (.deliver .down) =
        { l with client, down := [], up := [encodeAck (UInt16.ofNat k)] } ∧
      client.blocks = t.blocks k ∧ client.blockSize = t.terms.blockSize := by
  obtain ⟨client, hr, hc⟩ := Reader.receive_next hb h.blocks h.blockSize hk
  refine ⟨client, ?_, hc⟩
  rw [Link.step, h.down]
  show (match l.client.receive (t.nth k).encode with
    | (client, reply) => { l with client, down := [], up := l.up ++ reply.toList }) = _
  rw [hr, h.up]
  rfl

theorem Fresh.next (hb : 0 < t.terms.blockSize) (h : Fresh t l k) (hk : k ≤ t.last) :
    (k < t.last ∧ Fresh t (l.run t exchange) (k + 1)) ∨
      (k = t.last ∧ (l.run t exchange).server = .ended .complete) := by
  obtain ⟨client, hdown, hblocks, hsize⟩ := h.deliverDown hb hk
  have hrun : l.run t exchange = { l with client, down := [], up := [] }.happen t
      (.datagram (encodeAck (UInt16.ofNat k))) := by
    show step t (step t l (.deliver .down)) (.deliver .up) = _
    rw [hdown]
    rfl
  have hstep := step_encodeAck hb hk 1
  rw [← h.server] at hstep
  rw [hrun, Link.happen]
  dsimp only
  rw [hstep]
  by_cases hlast : k = t.last
  · rw [if_pos hlast]
    exact .inr ⟨hlast, rfl⟩
  · rw [if_neg hlast]
    exact .inl ⟨Nat.lt_of_le_of_ne hk hlast, rfl, hblocks, hsize, rfl, rfl⟩

/-- A transfer completes when nothing is lost: it takes one exchange for each packet. -/
theorem completes (s : Settings) (r : ReadRequest) (content : Octets) :
    let t := s.transferOf r content
    ∃ n, ((opened t).run t (List.replicate n exchange).flatten).server = .ended .complete := by
  intro t
  have hb : 0 < t.terms.blockSize := s.blockSize_transferOf r content
  suffices h : ∀ left k l, k + left = t.last → Fresh t l k →
      (l.run t (List.replicate (left + 1) exchange).flatten).server = .ended .complete from
    ⟨_, h _ _ _ (Nat.add_sub_of_le t.opening_le_last) (fresh_opened t)⟩
  intro left
  induction left with
  | zero =>
    intro k l hk h
    rcases h.next hb (Nat.le_of_eq hk) with ⟨hlt, -⟩ | ⟨-, hcomplete⟩
    · omega
    · exact hcomplete
  | succ left ih =>
    intro k l hk h
    rcases h.next hb (by omega) with ⟨-, hnext⟩ | ⟨hlast, -⟩
    · rw [List.replicate_succ, List.flatten_cons, Link.run, List.foldl_append]
      exact ih (k + 1) _ (by omega) hnext
    · omega

end Link
end BootServer.Tftp
