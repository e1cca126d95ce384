import BootServer.Proofs.Dhcp.Options
import BootServer.Proofs.Dhcp.Reservation

/-! Replies whose options are set one after the other, any number of times and in any order. Every
code has one place, which it takes when it is first set and keeps, and the value that it was last
given. So only the calls for one and the same code have to keep their order: all others may be
exchanged, at the price of another order of the options. -/
namespace BootServer.Dhcp

namespace Options

variable {code c : UInt8} {value v : Octets} {options options' calls calls' : Options}

/-! ## One call -/

theorem get?_cons (c : UInt8) (o : UInt8 × Octets) (options : Options) :
    get? c (o :: options) = if c = o.1 then some o.2 else get? c options := by
  rw [get?, List.lookup_cons]
  by_cases h : c = o.1
  · simp [h]
  · rw [if_neg h, beq_eq_false_iff_ne.2 h]
    rfl

theorem get?_set (c code : UInt8) (value : Octets) (options : Options) :
    get? c (set code value options) = if c = code then some value else get? c options := by
  induction options with
  | nil => exact get?_cons c (code, value) []
  | cons o options ih =>
    by_cases ho : o.1 = code
    · rw [set, if_pos ho, get?_cons, get?_cons, ho]
      by_cases h : c = code <;> simp [h]
    · rw [set, if_neg ho, get?_cons, get?_cons, ih]
      by_cases h : c = code
      · simp [h, Ne.symm ho]
      · simp [h]

/-- An option stays where it is, with its value, when another code is set. -/
theorem getElem?_set_of_ne (h : c ≠ code) (i : Nat) :
    (set code value options)[i]? = some (c, v) ↔ options[i]? = some (c, v) := by
  induction options generalizing i with
  | nil => cases i <;> simp [set, Ne.symm h]
  | cons o options ih =>
    by_cases ho : o.1 = code
    · rw [set, if_pos ho]
      cases i with
      | zero =>
        have hne : o ≠ (c, v) := fun he => h (by rw [← ho, he])
        simp [Ne.symm h, hne]
      | succ i => rfl
    · rw [set, if_neg ho]
      cases i with
      | zero => rfl
      | succ i => exact ih i

/-! ## Looking up -/

/-- What is found under a code is the first of the options that have it. -/
theorem get?_eq_head? (c : UInt8) (options : Options) :
    get? c options = (options.filter (·.1 = c)).head?.map Prod.snd := by
  induction options with
  | nil => rfl
  | cons o options ih =>
    rw [get?_cons, List.filter_cons]
    by_cases h : o.1 = c
    · simp [h]
    · simp [h, Ne.symm h, ih]

/-- Under codes that are all different every option is found. -/
theorem mem_iff_get? (h : (codes options).Nodup) :
    (c, v) ∈ options ↔ get? c options = some v := by
  induction options with
  | nil => simp [get?]
  | cons o options ih =>
    obtain ⟨hnew, hrest⟩ := List.nodup_cons.1 h
    rw [get?_cons, List.mem_cons, ih hrest]
    by_cases hc : c = o.1
    · subst hc
      simp [get?_of_not_mem hnew, Prod.ext_iff, eq_comm]
    · simp [hc, Prod.ext_iff]

/-- The value that the last of the calls for a code gave it. -/
theorem get?_reverse_eq_some_iff :
    get? c calls.reverse = some v ↔
      ∃ before after, calls = before ++ (c, v) :: after ∧ c ∉ codes after := by
  rw [get?, List.lookup_eq_some_iff]
  constructor
  · intro h
    obtain ⟨after, before, hcalls, hnew⟩ := h
    have hreverse := congrArg List.reverse hcalls
    refine ⟨before.reverse, after.reverse, by simpa using hreverse, not_mem_codes_iff.2 ?_⟩
    exact fun o ho => hnew o (List.mem_reverse.1 ho)
  · intro h
    obtain ⟨before, after, rfl, hnew⟩ := h
    refine ⟨after.reverse, before.reverse, by simp, fun o ho => ?_⟩
    exact not_mem_codes_iff.1 hnew o (List.mem_reverse.1 ho)

/-! ## Any number of calls -/

/-- Options as a number of calls leaves them, from the first call on. -/
structure Records (options calls : Options) : Prop where
  mem_iff : ∀ c, c ∈ codes options ↔ c ∈ codes calls
  ordered : (codes options).Pairwise fun a b => (codes calls).idxOf a < (codes calls).idxOf b
  latest : ∀ c, get? c options = get? c calls.reverse

theorem records_nil : Records [] [] := ⟨fun _ => Iff.rfl, List.Pairwise.nil, fun _ => rfl⟩

/-- One more call adds a code behind those that were called before, or leaves all where they are. -/
theorem Records.set (h : Records options calls) (code : UInt8) (value : Octets) :
    Records (set code value options) (calls ++ [(code, value)]) := by
  have hearlier : ∀ a ∈ codes options,
      (codes calls ++ [code]).idxOf a = (codes calls).idxOf a := fun a ha => by
    rw [List.idxOf_append, if_pos ((h.mem_iff a).1 ha)]
  have hordered : (codes options).Pairwise fun a b =>
      (codes calls ++ [code]).idxOf a < (codes calls ++ [code]).idxOf b := by
    refine h.ordered.imp_of_mem fun ha hb hlt => ?_
    rwa [hearlier _ ha, hearlier _ hb]
  constructor
  · intro c
    rw [mem_codes_set, codes_concat, List.mem_append, List.mem_singleton, h.mem_iff, or_comm]
  · rw [codes_set, codes_concat]
    by_cases hc : code ∈ codes options
    · rwa [if_pos hc]
    · rw [if_neg hc, List.pairwise_append]
      refine ⟨hordered, List.pairwise_singleton _ _, fun a ha b hb => ?_⟩
      have hnew : code ∉ codes calls := fun hm => hc ((h.mem_iff code).2 hm)
      rw [List.mem_singleton.1 hb, hearlier a ha, List.idxOf_append, if_neg hnew]
      exact Nat.lt_of_lt_of_le (List.idxOf_lt_length_of_mem ((h.mem_iff a).1 ha))
        (Nat.le_add_left _ _)
  · intro c
    rw [get?_set, h.latest, List.reverse_append, List.reverse_singleton, List.singleton_append,
      get?_cons]

theorem Records.nodup (h : Records options calls) : (codes options).Nodup := by
  refine h.ordered.imp fun hlt he => ?_
  rw [he] at hlt
  exact Nat.lt_irrefl _ hlt

/-- The calls for one code come in the same order, whatever stands between them. -/
def Reordered (calls calls' : Options) : Prop :=
  ∀ c, calls'.filter (·.1 = c) = calls.filter (·.1 = c)

theorem Reordered.get?_reverse (h : Reordered calls calls') (c : UInt8) :
    get? c calls'.reverse = get? c calls.reverse := by
  rw [get?_eq_head?, get?_eq_head?, List.filter_reverse, List.filter_reverse, h c]

theorem Records.get?_eq (h : Records options calls) (h' : Records options' calls')
    (hsame : Reordered calls calls') (c : UInt8) : get? c options' = get? c options := by
  rw [h'.latest, h.latest, hsame.get?_reverse]

theorem Records.perm (h : Records options calls) (h' : Records options' calls')
    (hsame : Reordered calls calls') : options'.Perm options := by
  have hdistinct : ∀ {options calls}, Records options calls → options.Nodup := fun h =>
    List.Pairwise.of_map Prod.fst (fun _ _ hne he => hne (congrArg Prod.fst he)) h.nodup
  refine (List.perm_ext_iff_of_nodup (hdistinct h') (hdistinct h)).2 fun o => ?_
  obtain ⟨c, v⟩ := o
  rw [mem_iff_get? h'.nodup, mem_iff_get? h.nodup, h.get?_eq h' hsame]

end Options

namespace Reply

open Options

theorem records_setAll {reply : Reply} {calls : Options} (h : Records reply.options calls)
    (more : List (UInt8 × Octets)) :
    Records (reply.setAll more).options (calls ++ more) := by
  induction more generalizing reply calls with
  | nil => rwa [List.append_nil]
  | cons o more ih =>
    have hset : Records (reply.set o.1 o.2).options (calls ++ [o]) := h.set o.1 o.2
    have hnext := ih hset
    rwa [List.append_assoc] at hnext

theorem records_answering (r : Request) (t : MessageType) (calls : List (UInt8 × Octets)) :
    Records ((answering r t).setAll calls).options calls := by
  have hfresh : Records (answering r t).options [] := records_nil
  exact records_setAll hfresh calls

/-- The options of a reply are a map in the order in which its codes were first set. Each of them has
the value that was set last, and none notices what happens to another. Calls may come in any order
that keeps those for one code apart: then the reply is the same but for the order of its options. -/
theorem setAll_insertionOrdered (r : Request) (t : MessageType)
    (calls : List (UInt8 × Octets)) :
    let reply := (answering r t).setAll calls
    (codes reply.options).Nodup ∧
    (∀ c, c ∈ codes reply.options ↔ c ∈ codes calls) ∧
    (codes reply.options).Pairwise
      (fun a b => (codes calls).idxOf a < (codes calls).idxOf b) ∧
    (∀ c v, reply.option? c = some v ↔
      ∃ before after, calls = before ++ (c, v) :: after ∧ c ∉ codes after) ∧
    (∀ c, reply.option? c = none ↔ c ∉ codes calls) ∧
    (∀ code value c, c ≠ code → (reply.set code value).option? c = reply.option? c ∧
      ∀ (i : Nat) v, (reply.set code value).options[i]? = some (c, v) ↔
        reply.options[i]? = some (c, v)) ∧
    ∀ calls', Reordered calls calls' →
      let reply' := (answering r t).setAll calls'
      reply' = { reply with options := reply'.options } ∧
        reply'.options.Perm reply.options ∧ ∀ c, reply'.option? c = reply.option? c := by
  intro reply
  have h : Records reply.options calls := records_answering r t calls
  refine ⟨h.nodup, h.mem_iff, h.ordered, fun c v => ?_, fun c => ?_, ?_, ?_⟩
  · rw [option?, h.latest, get?_reverse_eq_some_iff]
  · rw [option?, get?_eq_none_iff, h.mem_iff]
  · intro code value c hc
    refine ⟨?_, fun i v => getElem?_set_of_ne hc i⟩
    exact (get?_set c code value reply.options).trans (if_neg hc)
  · intro calls' hsame
    have h' := records_answering r t calls'
    obtain ⟨all, hall, -⟩ := setAll_spec (answering r t) calls
    obtain ⟨all', hall', -⟩ := setAll_spec (answering r t) calls'
    refine ⟨?_, h.perm h' hsame, h.get?_eq h' hsame⟩
    show (answering r t).setAll calls' =
      { (answering r t).setAll calls with options := ((answering r t).setAll calls').options }
    rw [hall, hall']

/-- The vendor class is set twice, and the vendor options before, between or behind. -/
theorem setAll_insertionOrdered_exchanged :
    let reply := (answering Responder.discover .offer).setAll [(60, [1]), (43, [2]), (60, [3])]
    let reply' := (answering Responder.discover .offer).setAll [(43, [2]), (60, [1]), (60, [3])]
    reply.option? 60 = some [3] ∧ (reply.set 43 [4]).option? 60 = some [3] ∧
      reply'.options.Perm reply.options ∧ reply'.options ≠ reply.options := by
  intro reply reply'
  obtain ⟨-, -, -, hlatest, -, hother, hreordered⟩ :=
    setAll_insertionOrdered Responder.discover .offer [(60, [1]), (43, [2]), (60, [3])]
  have hclass : reply.option? 60 = some [3] :=
    (hlatest 60 [3]).2 ⟨[(60, [1]), (43, [2])], [], rfl, by decide⟩
  have hsame : Reordered [(60, [1]), (43, [2]), (60, [3])] [(43, [2]), (60, [1]), (60, [3])] := by
    intro c
    by_cases h : c = 60
    · rw [h]; decide
    · by_cases h' : c = 43
      · rw [h']; decide
      · simp [Ne.symm h, Ne.symm h']
  obtain ⟨-, hperm, -⟩ := hreordered _ hsame
  exact ⟨hclass, (hother 43 [4] 60 (by decide)).1.trans hclass, hperm, by decide⟩

end Reply
end BootServer.Dhcp
