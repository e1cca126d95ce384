import BootServer.Image.Source
import BootServer.Proofs.Octets

/-! What can be asked of a source. A source serves an image when it answers every range within it
by the octets that stand there, in chunks of any size, of which it may leave out the end. It may
remember what it was asked before, and answer the same question in another way. -/
namespace BootServer.Image

/-! ## Actions -/

section Access

variable {σ ε α β : Type}

theorem access_get (s : σ) : (get : Access σ σ) s = (.ok s, s) := rfl

theorem access_throw (e : ImageError) (s : σ) : (throw e : Access σ α) s = (.error e, s) := rfl

/-- An action goes on in the state that the one before it left, unless that one failed. -/
theorem access_bind (action : ExceptT ε (StateM σ) α) (next : α → ExceptT ε (StateM σ) β) (s : σ) :
    (action >>= next) s =
      match action s with
      | (.ok a, s') => next a s'
      | (.error e, s') => (.error e, s') := by
  cases h : action s with
  | mk r s' =>
    simp only [bind, ExceptT.bind, ExceptT.mk, StateT.bind, h]
    cases r <;> rfl

end Access

/-! ## Bodies -/

namespace Body

/-- The octets that come before any failure. -/
def sent : Body → Octets
  | [] => []
  | .error _ :: _ => []
  | .ok chunk :: rest => chunk ++ sent rest

@[simp] theorem collect_nil : collect [] = .ok [] := rfl

@[simp] theorem collect_error (e : ImageError) (rest : Body) :
    collect (.error e :: rest) = .error e := rfl

@[simp] theorem collect_ok (chunk : Octets) (rest : Body) :
    collect (.ok chunk :: rest) = (collect rest).map (chunk ++ ·) := by
  unfold collect
  rw [List.mapM_cons]
  cases rest.mapM id <;> rfl

theorem collect_ok_eq_ok {chunk bytes : Octets} {rest : Body} :
    collect (.ok chunk :: rest) = .ok bytes ↔
      ∃ more, collect rest = .ok more ∧ bytes = chunk ++ more := by
  rw [collect_ok]
  cases collect rest with
  | error e => simp [Except.map]
  | ok more => simp [Except.map, eq_comm]

theorem sent_of_collect {body : Body} {bytes : Octets} (h : body.collect = .ok bytes) :
    body.sent = bytes := by
  induction body generalizing bytes with
  | nil => rw [collect_nil] at h; exact Except.ok.inj h
  | cons first rest ih =>
    cases first with
    | error e => rw [collect_error] at h; cases h
    | ok chunk =>
      obtain ⟨more, hm, rfl⟩ := collect_ok_eq_ok.mp h
      rw [sent, ih hm]

theorem collect_map_ok (chunks : List Octets) :
    collect (chunks.map .ok) = .ok chunks.flatten := by
  induction chunks with
  | nil => rfl
  | cons chunk rest ih => rw [List.map_cons, collect_ok, ih]; rfl

end Body

/-! ## Sources -/

namespace Source

variable {σ : Type}

/-- In a state, a range is answered by these octets. -/
def Delivers (source : Source σ) (s : σ) (start length : Nat) (bytes : Octets) (s' : σ) : Prop :=
  ∃ body, source.read start length s = (.ok body, s') ∧ body.collect = .ok bytes

theorem Delivers.unique {source : Source σ} {s s₁ s₂ : σ} {start length : Nat} {a b : Octets}
    (ha : source.Delivers s start length a s₁) (hb : source.Delivers s start length b s₂) :
    a = b ∧ s₁ = s₂ := by
  obtain ⟨body, hr, hc⟩ := ha
  obtain ⟨body', hr', hc'⟩ := hb
  rw [hr] at hr'
  cases hr'
  rw [hc] at hc'
  exact ⟨Except.ok.inj hc', rfl⟩

/-- The source tells the length of the image, and answers each range within it by octets that stand
there, perhaps fewer than it was asked for. -/
structure Serves (source : Source σ) (data : Octets) : Prop where
  length : ∀ s, ∃ s', source.length s = (.ok data.length, s')
  read : ∀ s start length, start < data.length → 0 < length →
    ∃ bytes s', source.Delivers s start length bytes s' ∧
      bytes <+: (data.drop start).take length

/-- Something comes of every request within the image. -/
def Fruitful (source : Source σ) (data : Octets) : Prop :=
  ∀ s start length bytes s', start < data.length → 0 < length →
    source.Delivers s start length bytes s' → bytes ≠ []

theorem ofOctets_read (data : Octets) (chunk : Nat) (limit told : Option Nat) (h : 0 < chunk)
    (start length : Nat) :
    (ofOctets data chunk limit told).Delivers () start length
      ((data.drop start).take (limit.elim length (min length))) () := by
  refine ⟨_, rfl, ?_⟩
  rw [Body.collect_map_ok, Octets.flatten_pieces chunk _ h]
  simp [List.extract]

/-- An image in memory is served, whatever the chunks and however short the answers are. -/
theorem ofOctets_serves (data : Octets) (chunk : Nat) (limit : Option Nat) (h : 0 < chunk) :
    (ofOctets data chunk limit none).Serves data := by
  constructor
  · intro s
    exact ⟨s, rfl⟩
  · intro s start length hs hl
    refine ⟨_, (), ofOctets_read data chunk limit none h start length, ?_⟩
    cases limit with
    | none => exact List.prefix_refl _
    | some n => exact List.take_prefix_take_left (Nat.min_le_left _ _)

theorem ofOctets_fruitful (data : Octets) (chunk : Nat) (limit : Option Nat) (h : 0 < chunk)
    (hlimit : ∀ n ∈ limit, 0 < n) : (ofOctets data chunk limit none).Fruitful data := by
  intro s start length bytes s' hs hl hd
  rw [(hd.unique (ofOctets_read data chunk limit none h start length)).1]
  apply List.ne_nil_of_length_pos
  rw [List.length_take, List.length_drop]
  cases limit with
  | none => show 0 < min length _; omega
  | some n =>
    have := hlimit n rfl
    show 0 < min (min length n) _
    omega

/-! ## Records of what was asked -/

/-- A range that was asked for, and what came of it. -/
structure Answer where
  start : Nat
  length : Nat
  outcome : Except ImageError Body

def Answer.octets (a : Answer) : Octets :=
  match a.outcome with
  | .ok body => body.sent
  | .error _ => []

/-- The same source, which keeps a record of its answers. -/
def recorded (source : Source σ) : Source (σ × List Answer) where
  length := fun (s, log) =>
    let (result, s') := source.length s
    (result, s', log)
  read start length := fun (s, log) =>
    let (outcome, s') := source.read start length s
    (outcome, s', log ++ [⟨start, length, outcome⟩])

theorem recorded_length {source : Source σ} {s s' : σ} {result : Except ImageError Nat}
    (h : source.length s = (result, s')) (log : List Answer) :
    source.recorded.length (s, log) = (result, s', log) := by
  simp only [recorded, h]

theorem recorded_read {source : Source σ} {s s' : σ} {start length : Nat}
    {outcome : Except ImageError Body} (h : source.read start length s = (outcome, s'))
    (log : List Answer) :
    source.recorded.read start length (s, log) =
      (outcome, s', log ++ [⟨start, length, outcome⟩]) := by
  simp only [recorded, h]

end Source
end BootServer.Image
