import BootServer.Proofs.Tftp.Blocks

/-! A transfer against a client that may do anything. What is sent and what happens make one line of
moments. It falls into turns, one for each packet: a turn begins with the packet, every other time
the packet is sent its timer has just expired, and the next turn only begins once the number of the
packet was acknowledged. -/
namespace BootServer.Tftp

/-- Something that a transfer sends or that happens to it. -/
inductive Moment where
  | sent (packet : Packet)
  | happened (event : Event)

/-- The packet that is sent, if one is. -/
def Moment.packet? : Moment → Option Packet
  | .sent packet => some packet
  | .happened _ => none

namespace Transfer

/-- What is seen of a transfer from a state on. -/
def follow (t : Transfer) : State → List Event → List Moment
  | _, [] => []
  | s, e :: es => .happened e :: (t.step s e).2.toList.map .sent ++ t.follow (t.step s e).1 es

/-- What is seen of a transfer from its start. -/
def timeline (t : Transfer) (events : List Event) : List Moment :=
  t.start.2.toList.map .sent ++ t.follow t.start.1 events

/-- The state that events lead to. -/
def reached (t : Transfer) (events : List Event) : State := (t.run t.start.1 events).1

/-- Whatever is sent after the beginning is sent because the timer has just expired. -/
def Timed (ms : List Moment) : Prop :=
  ∀ i packet, ms[i + 1]? = some (.sent packet) → ms[i]? = some (.happened .expiry)

/-- The part of a timeline in which the packet with a count waits for its acknowledgement. -/
structure Turn (t : Transfer) (k : Nat) (ms : List Moment) : Prop where
  begins : ms.head? = some (.sent (t.nth k))
  sends : ∃ n ≤ 6, ms.filterMap Moment.packet? = List.replicate n (t.nth k)
  timed : Timed ms

/-- The octets of the file that are in the packet a turn begins with. -/
def carried : List Moment → Octets
  | .sent packet :: _ => packet.payload
  | _ => []

/-- A timeline as it must be, cut into turns. -/
structure Orderly (t : Transfer) (events : List Event) (turns : List (List Moment)) : Prop where
  shown : turns.flatten.filterMap Moment.packet? =
    t.start.2.toList ++ (t.run t.start.1 events).2
  flatten : turns.flatten = t.timeline events
  /-- No block begins after the end of the file, at any time. -/
  inRange : ∀ earlier, earlier <+: events → ∀ number offset sent,
    t.reached earlier = .waiting (.block number offset) sent → offset ≤ t.content.length
  turn : ∀ i ms, turns[i]? = some ms → t.Turn (t.opening + i) ms
  /-- A turn that another one follows ends with its acknowledgement. -/
  acked : ∀ i ms, turns[i]? = some ms → i + 1 < turns.length →
    ∃ e, ms.getLast? = some (.happened e) ∧ e.Acks (t.opening + i)
  count_le : t.opening + turns.length ≤ t.last + 1
  /-- The last packet is the one block that is not full. -/
  short : ∀ k, 0 < k → k ≤ t.last →
    ((t.nth k).payload.length < t.terms.blockSize ↔ k = t.last)
  /-- What a complete transfer has behind it: the acknowledgement of the last packet, after which
  nothing was sent, and the whole file in its packets. -/
  complete : t.reached events = .ended .complete →
    t.opening + turns.length = t.last + 1 ∧ turns.flatMap carried = t.content ∧
      ∃ before e after, turns.getLast? = some (before ++ .happened e :: after) ∧ e.Acks t.last ∧
        after.filterMap Moment.packet? = []

variable {t : Transfer} {k n : Nat} {ms seen : List Moment} {m : Moment} {s : State} {e : Event}

/-! ## Turns -/

theorem Turn.carried (h : t.Turn k ms) : carried ms = (t.nth k).payload := by
  have hb := h.begins
  cases ms with
  | nil => cases hb
  | cons m ms =>
    cases hb
    rfl

@[simp] theorem filterMap_happened (ms : List Moment) (e : Event) :
    (ms ++ [Moment.happened e]).filterMap Moment.packet? = ms.filterMap Moment.packet? := by
  rw [List.filterMap_append]
  exact List.append_nil _

theorem Timed.concat (h : Timed ms)
    (hm : ∀ packet, m = .sent packet → ms.getLast? = some (.happened .expiry)) :
    Timed (ms ++ [m]) := by
  intro i packet hp
  by_cases hi : i + 1 < ms.length
  · rw [List.getElem?_append_left hi] at hp
    rw [List.getElem?_append_left (Nat.lt_of_succ_lt hi)]
    exact h i packet hp
  · rw [List.getElem?_append_right (Nat.le_of_not_lt hi), List.getElem?_singleton] at hp
    split at hp
    · have hlast := hm packet (Option.some.inj hp)
      rw [List.getLast?_eq_getElem?] at hlast
      have hpos := (List.getElem?_eq_some_iff.1 hlast).1
      have hlt : i < ms.length := by omega
      have hl : ms.length - 1 = i := by omega
      rw [List.getElem?_append_left hlt, ← hl]
      exact hlast
    · cases hp

theorem turn_single (t : Transfer) (k : Nat) : t.Turn k [.sent (t.nth k)] := by
  refine ⟨rfl, ⟨1, by decide, rfl⟩, ?_⟩
  intro i packet h
  rw [List.getElem?_cons_succ] at h
  cases h

/-- A turn goes on with something that happens. -/
theorem Turn.happened (h : t.Turn k ms) (e : Event) : t.Turn k (ms ++ [.happened e]) := by
  obtain ⟨n, hn, hs⟩ := h.sends
  refine ⟨?_, ⟨n, hn, by rw [filterMap_happened, hs]⟩, h.timed.concat ?_⟩
  · rw [List.head?_append, h.begins]
    rfl
  · intro packet hp
    cases hp

/-- A turn goes on with its timer and its packet. -/
theorem Turn.repeated (h : t.Turn k ms)
    (hs : ms.filterMap Moment.packet? = List.replicate n (t.nth k)) (hn : n < maxSends) :
    t.Turn k (ms ++ [.happened .expiry, .sent (t.nth k)]) := by
  have hexpired := h.happened .expiry
  rw [List.append_cons]
  refine ⟨?_, ⟨n + 1, hn, ?_⟩, hexpired.timed.concat fun _ _ => List.getLast?_concat ..⟩
  · rw [List.head?_append, hexpired.begins]
    rfl
  · rw [List.filterMap_append, filterMap_happened, hs, List.replicate_succ']
    rfl

/-! ## Timelines -/

theorem forall_getElem?_concat {α : Type} {l : List α} {a : α} {p : Nat → α → Prop}
    (h : ∀ i x, l[i]? = some x → p i x) (ha : p l.length a) :
    ∀ i x, (l ++ [a])[i]? = some x → p i x := by
  intro i x hx
  by_cases hi : i < l.length
  · rw [List.getElem?_append_left hi] at hx
    exact h i x hx
  · rw [List.getElem?_append_right (Nat.le_of_not_lt hi), List.getElem?_singleton] at hx
    split at hx
    · have hl : i = l.length := by omega
      cases hx
      rw [hl]
      exact ha
    · cases hx

/-- How the turn of the packet with count `k` agrees with the state it leads to. -/
def Agrees (t : Transfer) (k : Nat) (turn : List Moment) : State → Prop
  | .waiting position sent =>
    position = t.position k ∧ turn.filterMap Moment.packet? = List.replicate sent (t.nth k)
  | .ended .complete =>
    k = t.last ∧ ∃ before e after, turn = before ++ .happened e :: after ∧ e.Acks t.last ∧
      after.filterMap Moment.packet? = []
  | .ended _ => True

/-- What was seen up to a state falls into turns that are over and the turn of the packet that
waits. -/
structure Divided (t : Transfer) (seen : List Moment) (s : State) (past : List (List Moment))
    (turn : List Moment) : Prop where
  parts : seen = past.flatten ++ turn
  earlier : ∀ i ms, past[i]? = some ms →
    t.Turn (t.opening + i) ms ∧ ∃ e, ms.getLast? = some (.happened e) ∧ e.Acks (t.opening + i)
  current : t.Turn (t.opening + past.length) turn
  le_last : t.opening + past.length ≤ t.last
  agrees : t.Agrees (t.opening + past.length) turn s

variable {past : List (List Moment)} {turn : List Moment}

theorem divided_start (t : Transfer) :
    t.Divided (t.start.2.toList.map .sent) t.start.1 [] [.sent (t.nth t.opening)] := by
  rw [start_eq]
  refine ⟨rfl, ?_, t.turn_single _, t.opening_le_last, rfl, rfl⟩
  intro i ms h
  cases h

/-- The turn goes on when an event ends nothing but, perhaps, the transfer. -/
theorem Divided.happened (h : t.Divided seen s past turn) {s' : State}
    (ha : t.Agrees (t.opening + past.length) (turn ++ [.happened e]) s') :
    t.Divided (seen ++ [.happened e]) s' past (turn ++ [.happened e]) := by
  refine ⟨?_, h.earlier, h.current.happened e, h.le_last, ha⟩
  rw [h.parts, List.append_assoc]

/-- The turn is over with the acknowledgement, and the next packet is sent. -/
theorem Divided.advanced (h : t.Divided seen s past turn) (ha : e.Acks (t.opening + past.length))
    (hl : t.opening + past.length < t.last) :
    t.Divided (seen ++ [.happened e, .sent (t.nth (t.opening + past.length + 1))])
      (.waiting (t.position (t.opening + past.length + 1)) 1) (past ++ [turn ++ [.happened e]])
      [.sent (t.nth (t.opening + past.length + 1))] := by
  have hlen : t.opening + (past ++ [turn ++ [Moment.happened e]]).length =
      t.opening + past.length + 1 := by
    rw [List.length_append]
    rfl
  refine ⟨?_, ?_, ?_, ?_, ?_⟩
  · rw [h.parts, List.flatten_append, List.flatten_singleton]
    simp only [List.append_assoc, List.cons_append, List.nil_append]
  · exact forall_getElem?_concat h.earlier
      ⟨h.current.happened e, e, List.getLast?_concat .., ha⟩
  · rw [hlen]
    exact t.turn_single _
  · rw [hlen]
    exact hl
  · rw [hlen]
    exact ⟨rfl, rfl⟩

/-- What is seen stays divided, whatever happens. -/
theorem Divided.step (hb : 0 < t.terms.blockSize) (h : t.Divided seen s past turn) (e : Event) :
    ∃ past' turn', t.Divided (seen ++ .happened e :: (t.step s e).2.toList.map .sent)
      (t.step s e).1 past' turn' := by
  have hagrees := h.agrees
  cases s with
  | ended outcome =>
    refine ⟨past, turn ++ [.happened e], h.happened ?_⟩
    cases outcome with
    | complete =>
      obtain ⟨hk, before, ack, after, ht, ha, hs⟩ := hagrees
      refine ⟨hk, before, ack, after ++ [.happened e], ?_, ha, ?_⟩
      · rw [ht, List.append_assoc, List.cons_append]
      · rw [filterMap_happened, hs]
    | clientError code message => trivial
    | unanswered number => trivial
  | waiting position sent =>
    obtain ⟨rfl, hs⟩ := hagrees
    have hlead := step_leads hb h.le_last sent e
    generalize t.step (.waiting (t.position (t.opening + past.length)) sent) e = r at hlead
    cases hlead with
    | repeated hlt =>
      refine ⟨past, turn ++ [.happened .expiry, .sent (t.nth (t.opening + past.length))],
        ?_, h.earlier, h.current.repeated hs hlt, h.le_last, rfl, ?_⟩
      · rw [h.parts, List.append_assoc]
        rfl
      · rw [List.filterMap_append, hs, List.replicate_succ']
        rfl
    | unanswered hle => exact ⟨past, _, h.happened trivial⟩
    | advanced ha hl => exact ⟨_, _, h.advanced ha hl⟩
    | completed ha hl => exact ⟨past, _, h.happened ⟨hl, turn, e, [], rfl, hl ▸ ha, rfl⟩⟩
    | aborted data code message hp => exact ⟨past, _, h.happened trivial⟩
    | ignored data ha =>
      refine ⟨past, _, h.happened ⟨rfl, ?_⟩⟩
      rw [filterMap_happened, hs]

theorem Divided.run (hb : 0 < t.terms.blockSize) (events : List Event) :
    ∀ {seen s past turn}, t.Divided seen s past turn →
      ∃ past' turn', t.Divided (seen ++ t.follow s events) (t.run s events).1 past' turn' := by
  induction events with
  | nil =>
    intro seen s past turn h
    refine ⟨past, turn, ?_⟩
    rw [follow, List.append_nil]
    exact h
  | cons e es ih =>
    intro seen s past turn h
    obtain ⟨past', turn', h'⟩ := h.step hb e
    obtain ⟨past'', turn'', h''⟩ := ih h'
    refine ⟨past'', turn'', ?_⟩
    rw [List.append_assoc] at h''
    exact h''

theorem divided_timeline (hb : 0 < t.terms.blockSize) (events : List Event) :
    ∃ past turn, t.Divided (t.timeline events) (t.reached events) past turn :=
  Divided.run hb events t.divided_start

/-! ## Orderly transfers -/

/-- The timeline shows the packets of the run. -/
theorem packets_follow (t : Transfer) (events : List Event) :
    ∀ s, (t.follow s events).filterMap Moment.packet? = (t.run s events).2 := by
  have hsent : ∀ packets : List Packet,
      (packets.map Moment.sent).filterMap Moment.packet? = packets := by
    intro packets
    rw [List.filterMap_map]
    exact List.filterMap_some
  induction events with
  | nil => exact fun _ => rfl
  | cons e es ih =>
    intro s
    show ((t.step s e).2.toList.map Moment.sent ++ _).filterMap Moment.packet? =
      (t.step s e).2.toList ++ (t.run (t.step s e).1 es).2
    rw [List.filterMap_append, hsent, ih]

theorem filterMap_timeline (t : Transfer) (events : List Event) :
    (t.timeline events).filterMap Moment.packet? =
      t.start.2.toList ++ (t.run t.start.1 events).2 := by
  rw [timeline, List.filterMap_append, packets_follow, start_eq]
  rfl

/-- The turns of a timeline carry the blocks of the file in order. -/
theorem flatMap_carried {turns : List (List Moment)}
    (h : ∀ i ms, turns[i]? = some ms → t.Turn (t.opening + i) ms)
    (hn : t.opening + turns.length = n + 1) : turns.flatMap carried = (t.blocks n).flatten := by
  have hmap : turns.map carried =
      (List.range' t.opening turns.length).map fun k => (t.nth k).payload := by
    apply List.ext_getElem?
    intro i
    rw [List.getElem?_map, List.getElem?_map]
    cases hi : turns[i]? with
    | none =>
      have hle := List.getElem?_eq_none_iff.1 hi
      rw [List.getElem?_eq_none (by rw [List.length_range']; exact hle)]
      rfl
    | some ms =>
      have hlt := (List.getElem?_eq_some_iff.1 hi).1
      rw [List.getElem?_range' hlt, Nat.one_mul]
      exact congrArg some (h i ms hi).carried
  rw [List.flatMap_def, hmap, blocks]
  -- the options, when they are granted, carry nothing of the file
  have ho := t.opening_le
  rcases Nat.lt_or_ge t.opening 1 with h0 | h1
  · have h0' : t.opening = 0 := by omega
    have hl : turns.length = n + 1 := by omega
    rw [h0', hl, List.range'_succ]
    rfl
  · have h1' : t.opening = 1 := by omega
    have hl : turns.length = n := by omega
    rw [h1', hl]

end Transfer

namespace Settings

/-- A transfer is orderly whatever its client does. Whatever the request, the settings and the file,
and whatever arrives and expires in whatever order, each packet is sent when it is its turn, at most
six times and again only on a timer, and the transfer is complete only after the whole file was
sent and its last block acknowledged. -/
theorem transfer_orderly (s : Settings) (r : ReadRequest) (content : Octets)
    (events : List Event) : ∃ turns, (s.transferOf r content).Orderly events turns := by
  have hb := s.blockSize_transferOf r content
  generalize s.transferOf r content = t at hb
  obtain ⟨past, turn, h⟩ := Transfer.divided_timeline hb events
  have hflat : (past ++ [turn]).flatten = t.timeline events := by
    rw [List.flatten_append, List.flatten_singleton, h.parts]
  have hlen : (past ++ [turn]).length = past.length + 1 := List.length_append ..
  have hturn : ∀ i ms, (past ++ [turn])[i]? = some ms → t.Turn (t.opening + i) ms :=
    Transfer.forall_getElem?_concat (fun i ms hi => (h.earlier i ms hi).1) h.current
  refine ⟨past ++ [turn], ?_, hflat, ?_, hturn, ?_, ?_, ?_, ?_⟩
  · rw [hflat, t.filterMap_timeline]
  · intro earlier _ number offset sent hr
    obtain ⟨past', turn', h'⟩ := Transfer.divided_timeline hb earlier
    have ha := h'.agrees
    rw [hr] at ha
    exact Transfer.offset_le h'.le_last ha.1.symm
  · intro i ms hi hlt
    rw [hlen] at hlt
    rw [List.getElem?_append_left (Nat.lt_of_succ_lt_succ hlt)] at hi
    exact (h.earlier i ms hi).2
  · rw [hlen]
    exact Nat.succ_le_succ h.le_last
  · intro k hk hl
    cases k with
    | zero => cases hk
    | succ k => exact Transfer.length_payload_lt_iff hb hl
  · intro hr
    have ha := h.agrees
    rw [hr] at ha
    obtain ⟨hl, before, e, after, ht, he, hs⟩ := ha
    have hcount : t.opening + (past ++ [turn]).length = t.last + 1 := by
      rw [hlen, ← hl, Nat.add_assoc]
    refine ⟨hcount, ?_, before, e, after, ?_, he, hs⟩
    · rw [Transfer.flatMap_carried hturn hcount, Transfer.flatten_blocks_last hb]
    · rw [List.getLast?_concat, ht]

end Settings
end BootServer.Tftp
