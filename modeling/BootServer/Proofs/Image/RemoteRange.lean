import BootServer.Proofs.Image.Remote

/-! Ranges of an image on an HTTP server, as far as the answer brings them. What is asked for is cut
from the answer: its octets in order until they are enough, or until the connection breaks. The chunk
after the last octet ends the range, and so does the end of the answer; but if the connection breaks
just there, a range that is complete has failed. -/
namespace BootServer.Image

namespace Body

variable {rest : Body}

theorem sent_map_ok (chunks : List Octets) : sent (chunks.map .ok) = chunks.flatten :=
  sent_of_collect (collect_map_ok chunks)

theorem sent_append (chunks : List Octets) (rest : Body) :
    sent (chunks.map .ok ++ rest) = chunks.flatten ++ sent rest := by
  induction chunks with
  | nil => rfl
  | cons chunk chunks ih =>
    rw [List.map_cons, List.cons_append, sent, ih, List.flatten_cons, List.append_assoc]

theorem collect_append (chunks : List Octets) (rest : Body) :
    collect (chunks.map .ok ++ rest) = (collect rest).map (chunks.flatten ++ ·) := by
  induction chunks with
  | nil => cases h : collect rest <;> simp [h, Except.map]
  | cons chunk chunks ih =>
    rw [List.map_cons, List.cons_append, collect_ok, ih]
    cases collect rest <;> simp [Except.map]

/-- What a beginning of a body brings, the body begins with. -/
theorem sent_prefix {front body : Body} (h : front <+: body) : front.sent <+: body.sent := by
  obtain ⟨rest, rfl⟩ := h
  induction front with
  | nil => exact List.nil_prefix
  | cons item front ih =>
    cases item with
    | error e => exact List.nil_prefix
    | ok chunk => exact (List.prefix_append_right_inj chunk).2 ih

end Body

namespace Remote

variable {n : Nat} {items rest : List (Option Octets)} {chunks : List Octets} {last : Octets}

/-! ## How an answer comes in -/

/-- The octets of an answer before the connection breaks. -/
def arrived : List (Option Octets) → Octets
  | some chunk :: rest => chunk ++ arrived rest
  | _ => []

/-- The connection breaks right behind the chunk that completes the octets asked for. -/
def BreaksBehind (n : Nat) (items : List (Option Octets)) : Prop :=
  ∃ (chunks : List Octets) (last : Octets) (rest : List (Option Octets)),
    items = chunks.map some ++ some last :: none :: rest ∧
      chunks.flatten.length < n ∧ n ≤ chunks.flatten.length + last.length

/-- How an answer comes in of which so many octets are asked for. -/
inductive Arrival (n : Nat) : List (Option Octets) → Prop where
  /-- It ends before they are complete. -/
  | short (chunks : List Octets) (h : chunks.flatten.length < n) : Arrival n (chunks.map some)
  /-- The connection breaks before they are complete. -/
  | broken (chunks : List Octets) (rest : List (Option Octets)) (h : chunks.flatten.length < n) :
    Arrival n (chunks.map some ++ none :: rest)
  /-- One of the chunks completes them. -/
  | complete (chunks : List Octets) (last : Octets) (rest : List (Option Octets))
    (h : chunks.flatten.length < n) (hlast : n ≤ chunks.flatten.length + last.length) :
    Arrival n (chunks.map some ++ some last :: rest)

theorem Arrival.cons {chunk : Octets} (h : Arrival (n - chunk.length) items)
    (hchunk : chunk.length < n) : Arrival n (some chunk :: items) := by
  cases h with
  | short chunks h =>
    refine .short (chunk :: chunks) ?_
    rw [List.flatten_cons, List.length_append]
    omega
  | broken chunks rest h =>
    refine .broken (chunk :: chunks) rest ?_
    rw [List.flatten_cons, List.length_append]
    omega
  | complete chunks last rest h hlast =>
    refine .complete (chunk :: chunks) last rest ?_ ?_
    · rw [List.flatten_cons, List.length_append]
      omega
    · rw [List.flatten_cons, List.length_append]
      omega

theorem arrival (hn : 0 < n) (items : List (Option Octets)) : Arrival n items := by
  induction items generalizing n with
  | nil => exact .short [] hn
  | cons item items ih =>
    cases item with
    | none => exact .broken [] items hn
    | some chunk =>
      by_cases hchunk : chunk.length < n
      · exact (ih (by omega)).cons hchunk
      · exact .complete [] chunk items hn (by simpa using hchunk)

theorem arrived_append (chunks : List Octets) (rest : List (Option Octets)) :
    arrived (chunks.map some ++ rest) = chunks.flatten ++ arrived rest := by
  induction chunks with
  | nil => rfl
  | cons chunk chunks ih =>
    rw [List.map_cons, List.cons_append, arrived, ih, List.flatten_cons, List.append_assoc]

/-! ## Cutting -/

/-- Chunks that do not complete the octets asked for are taken as they are. -/
theorem cut_append (h : chunks.flatten.length < n) (rest : List (Option Octets)) :
    cut n (chunks.map some ++ rest) =
      chunks.map .ok ++ cut (n - chunks.flatten.length) rest := by
  induction chunks generalizing n with
  | nil => rfl
  | cons chunk chunks ih =>
    rw [List.flatten_cons, List.length_append] at h
    rw [List.map_cons, List.cons_append, cut, if_neg (by omega),
      List.take_of_length_le (by omega), ih (by omega), List.flatten_cons, List.length_append,
      Nat.sub_add_eq, List.map_cons, List.cons_append]

/-- The chunk that completes them is cut, and only failures that come next are still seen. -/
theorem cut_complete (h : chunks.flatten.length < n)
    (hlast : n ≤ chunks.flatten.length + last.length) (rest : List (Option Octets)) :
    cut n (chunks.map some ++ some last :: rest) =
      (chunks ++ [last.take (n - chunks.flatten.length)]).map .ok ++ cut 0 rest := by
  have hlength : (last.take (n - chunks.flatten.length)).length = n - chunks.flatten.length := by
    rw [List.length_take]
    omega
  rw [cut_append h, cut, if_neg (by omega), hlength, Nat.sub_self, List.map_append,
    List.append_assoc]
  rfl

theorem cut_zero (h : ∀ rest, items ≠ none :: rest) : cut 0 items = [] := by
  cases items with
  | nil => rfl
  | cons item rest =>
    cases item with
    | none => exact absurd rfl (h rest)
    | some chunk => rfl

/-! ## What a range should be -/

/-- The octets asked for are cut from an answer. Nothing that comes after them matters, and a failure
that comes before is seen just where it came. -/
structure CutTo (n : Nat) (items : List (Option Octets)) (body : Body) : Prop where
  sent : body.sent = (arrived items).take n
  delivered : n ≤ (arrived items).length ∨ none ∉ items →
    body.collect = .ok ((arrived items).take n)
  broken : (arrived items).length < n → none ∈ items → body.collect = .error .transport
  ended : ∀ front : Body, front <+: body → n ≤ front.sent.length → front = body

theorem not_complete {front body : Body} (h : body.sent.length < n) (hfront : front <+: body) :
    ¬ n ≤ front.sent.length := by
  have hle := (Body.sent_prefix hfront).length_le
  omega

theorem cutTo_short (h : chunks.flatten.length < n) :
    CutTo n (chunks.map some) (cut n (chunks.map some)) := by
  have harrived : arrived (chunks.map some) = chunks.flatten := by
    simpa [arrived] using arrived_append chunks []
  have hcut : cut n (chunks.map some) = chunks.map .ok := by
    simpa [cut] using cut_append h []
  have hsent := Body.sent_map_ok chunks
  have htake : chunks.flatten.take n = chunks.flatten := List.take_of_length_le (by omega)
  rw [hcut]
  constructor
  · rw [hsent, harrived, htake]
  · intro _
    rw [Body.collect_map_ok, harrived, htake]
  · intro _ hbroken
    simp at hbroken
  · intro front hfront hcomplete
    exact absurd hcomplete (not_complete (by rwa [hsent]) hfront)

theorem cutTo_broken (h : chunks.flatten.length < n) (rest : List (Option Octets)) :
    CutTo n (chunks.map some ++ none :: rest) (cut n (chunks.map some ++ none :: rest)) := by
  have harrived : arrived (chunks.map some ++ none :: rest) = chunks.flatten := by
    simpa [arrived] using arrived_append chunks (none :: rest)
  have htake : chunks.flatten.take n = chunks.flatten := List.take_of_length_le (by omega)
  rw [cut_append h, cut]
  have hsent : Body.sent (chunks.map .ok ++ .error .transport ::
      cut (n - chunks.flatten.length) rest) = chunks.flatten := by
    simpa [Body.sent] using Body.sent_append chunks (.error .transport :: _)
  constructor
  · rw [hsent, harrived, htake]
  · rintro (hcomplete | hwhole)
    · rw [harrived] at hcomplete
      omega
    · simp at hwhole
  · intro _ _
    rw [Body.collect_append, Body.collect_error]
    rfl
  · intro front hfront hcomplete
    exact absurd hcomplete (not_complete (by rwa [hsent]) hfront)

theorem arrived_complete (chunks : List Octets) (last : Octets) (rest : List (Option Octets)) :
    arrived (chunks.map some ++ some last :: rest) = chunks.flatten ++ (last ++ arrived rest) := by
  rw [arrived_append, arrived]

theorem take_arrived_complete (h : chunks.flatten.length < n)
    (hlast : n ≤ chunks.flatten.length + last.length) (rest : List (Option Octets)) :
    (arrived (chunks.map some ++ some last :: rest)).take n =
      (chunks ++ [last.take (n - chunks.flatten.length)]).flatten := by
  rw [arrived_complete, List.take_append, List.take_of_length_le (by omega),
    List.take_append_of_le_length (by omega), List.flatten_append, List.flatten_singleton]

theorem cutTo_complete (h : chunks.flatten.length < n)
    (hlast : n ≤ chunks.flatten.length + last.length) (hrest : ∀ r, rest ≠ none :: r) :
    CutTo n (chunks.map some ++ some last :: rest)
      (cut n (chunks.map some ++ some last :: rest)) := by
  have hcut := cut_complete h hlast rest
  rw [cut_zero hrest, List.append_nil] at hcut
  have htake := take_arrived_complete h hlast rest
  rw [hcut]
  constructor
  · rw [htake, Body.sent_map_ok]
  · intro _
    rw [htake, Body.collect_map_ok]
  · intro hshort _
    rw [arrived_complete, List.length_append, List.length_append] at hshort
    omega
  · intro front hfront hcomplete
    rw [List.map_append, List.map_cons, List.map_nil] at hfront ⊢
    rcases List.prefix_concat_iff.1 hfront with rfl | hfront
    · rfl
    · -- without the chunk that completes them they are not complete
      exact absurd hcomplete (not_complete (by rwa [Body.sent_map_ok]) hfront)

/-- A range that is complete has failed when the connection breaks right behind it. -/
theorem cut_of_breaksBehind (h : BreaksBehind n items) :
    (cut n items).sent = (arrived items).take n ∧ n ≤ (arrived items).length ∧
      (cut n items).collect = .error .transport := by
  obtain ⟨chunks, last, rest, rfl, h, hlast⟩ := h
  rw [take_arrived_complete h hlast, cut_complete h hlast, cut]
  refine ⟨?_, ?_, ?_⟩
  · rw [Body.sent_append]
    exact List.append_nil _
  · rw [arrived_complete, List.length_append, List.length_append]
    omega
  · rw [Body.collect_append, Body.collect_error]
    rfl

theorem cutTo_iff (hn : 0 < n) (items : List (Option Octets)) :
    CutTo n items (cut n items) ↔ ¬ BreaksBehind n items := by
  constructor
  · intro hcut hbreaks
    obtain ⟨-, hcomplete, hfailed⟩ := cut_of_breaksBehind hbreaks
    rw [hcut.delivered (.inl hcomplete)] at hfailed
    cases hfailed
  · intro hbreaks
    cases arrival hn items with
    | short chunks h => exact cutTo_short h
    | broken chunks rest h => exact cutTo_broken h rest
    | complete chunks last rest h hlast =>
      refine cutTo_complete h hlast fun r hr => hbreaks ?_
      exact ⟨chunks, last, r, by rw [hr], h, hlast⟩

/-! ## Reading a range -/

/-- The answer with that status begins where the range does. -/
def BeginsAt (status : Http.Status) (start : Nat) : Prop :=
  status = .partialContent ∨ status = .ok ∧ start = 0

theorem answers_iff {status : Http.Status} {start : Nat} :
    answers status start = true ↔ BeginsAt status start := by
  simp [answers, BeginsAt]

variable {τ : Type}

/-- Nothing is asked for where no octets are; else there is one request for the range, and an answer
that does not begin where the range does is refused. Of one that does the octets asked for are cut,
whatever its chunks are and whatever comes after them, unless the connection breaks right behind the
chunk that completes them: then all of them have come, and the range has failed. -/
theorem range_cut_iff (remote : Remote τ) (url : String) (start length : Nat) (m : Memory τ) :
    remote.read url start 0 m = (.ok [], m) ∧
    (0 < length → match remote (rangeRequest start length) m.server with
      | (none, server) => remote.read url start length m = (.error .transport, { m with server })
      | (some response, server) =>
        (¬ BeginsAt response.status start → remote.read url start length m =
          (.error (.source (.rangeRefused url start length response.status)),
            { m with server })) ∧
        (BeginsAt response.status start → ∃ body,
          remote.read url start length m = (.ok body, { m with server }) ∧
          (CutTo length response.body body ↔ ¬ BreaksBehind length response.body) ∧
          (BreaksBehind length response.body →
            body.sent = (arrived response.body).take length ∧
            length ≤ (arrived response.body).length ∧ body.collect = .error .transport))) := by
  refine ⟨rfl, fun hlength => ?_⟩
  have hread : remote.read url start length m = _ := read_apply remote url hlength m
  cases hanswer : remote (rangeRequest start length) m.server with
  | mk response server =>
    rw [hanswer] at hread
    cases response with
    | none => exact hread
    | some response =>
      dsimp only at hread ⊢
      constructor
      · intro hstatus
        rw [hread, if_neg fun h => hstatus (answers_iff.1 h)]
      · intro hstatus
        rw [if_pos (answers_iff.2 hstatus)] at hread
        exact ⟨_, hread, cutTo_iff hlength _, cut_of_breaksBehind⟩

/-- A server that sends the range asked for and then breaks the connection. -/
def severing (data : Octets) : Remote Unit := fun _ server =>
  (some { status := .partialContent, headers := [], body := [some data, none] }, server)

/-- All octets of a range have come, and it has failed. -/
theorem complete_range_fails : ∃ body,
    ((severing [7, 8, 9]).read "http://mirror/hook.iso" 4 3 { server := () }).1 = .ok body ∧
      body.sent = [7, 8, 9] ∧ body.collect = .error .transport := by
  refine ⟨cut 3 [some [7, 8, 9], none], ?_, rfl, rfl⟩
  rw [read_apply _ _ (by decide)]
  rfl

end Remote
end BootServer.Image
