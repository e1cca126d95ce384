import BootServer.Dhcp.Reply

/-! Options as a map that remembers the order in which its codes were first set. A code is never
there twice: setting it again changes its value where it stands, and setting a new one adds it at
the end. So options whose codes are all different end up in the order in which they are set. -/
namespace BootServer.Dhcp

namespace Options

variable {code : UInt8} {value : Octets} {options : Options}

def codes (options : Options) : List UInt8 := options.map Prod.fst

theorem codes_concat (options : Options) (code : UInt8) (value : Octets) :
    codes (options ++ [(code, value)]) = codes options ++ [code] := by
  simp [codes]

theorem set_of_not_mem (value : Octets) (h : code ∉ codes options) :
    set code value options = options ++ [(code, value)] := by
  induction options with
  | nil => rfl
  | cons o rest ih =>
    obtain ⟨hne, hrest⟩ := not_or.1 fun hm => h (List.mem_cons.2 hm)
    rw [set, if_neg (Ne.symm hne), ih hrest]
    rfl

/-- A code that is there has its value changed where it stands. -/
theorem set_append_cons (h : code ∉ codes options) (value old : Octets) (rest : Options) :
    set code value (options ++ (code, old) :: rest) = options ++ (code, value) :: rest := by
  induction options with
  | nil => exact if_pos rfl
  | cons o options ih =>
    obtain ⟨hne, hrest⟩ := not_or.1 fun hm => h (List.mem_cons.2 hm)
    rw [List.cons_append, set, if_neg (Ne.symm hne), ih hrest]
    rfl

theorem codes_set_of_mem (value : Octets) (h : code ∈ codes options) :
    codes (set code value options) = codes options := by
  induction options with
  | nil => cases h
  | cons o rest ih =>
    by_cases hc : o.1 = code
    · rw [set, if_pos hc]
      simp [codes, hc]
    · have hrest : code ∈ codes rest := (List.mem_cons.1 h).resolve_left (Ne.symm hc)
      rw [set, if_neg hc]
      exact congrArg (o.1 :: ·) (ih hrest)

theorem codes_set (code : UInt8) (value : Octets) (options : Options) :
    codes (set code value options) =
      if code ∈ codes options then codes options else codes options ++ [code] := by
  by_cases h : code ∈ codes options
  · rw [if_pos h, codes_set_of_mem value h]
  · rw [if_neg h, set_of_not_mem value h, codes_concat]

theorem nodup_codes_set (value : Octets) (h : (codes options).Nodup) :
    (codes (set code value options)).Nodup := by
  rw [codes_set]
  by_cases hc : code ∈ codes options
  · rwa [if_pos hc]
  · rw [if_neg hc, List.nodup_append]
    refine ⟨h, by simp, ?_⟩
    intro a ha b hb he
    rw [List.mem_singleton.1 hb] at he
    exact hc (he ▸ ha)

theorem mem_codes_set {c : UInt8} :
    c ∈ codes (set code value options) ↔ c = code ∨ c ∈ codes options := by
  rw [codes_set]
  by_cases hc : code ∈ codes options
  · rw [if_pos hc]
    constructor
    · exact Or.inr
    · rintro (rfl | h)
      · exact hc
      · exact h
  · rw [if_neg hc, List.mem_append, List.mem_singleton, or_comm]

theorem not_mem_codes_iff : code ∉ codes options ↔ ∀ o ∈ options, (code != o.1) = true := by
  constructor
  · intro h o ho
    exact bne_iff_ne.2 fun he => h (List.mem_map.2 ⟨o, ho, he.symm⟩)
  · intro h hc
    obtain ⟨o, ho, rfl⟩ := List.mem_map.1 hc
    simpa using h o ho

theorem get?_eq_none_iff : get? code options = none ↔ code ∉ codes options := by
  rw [get?, List.lookup_eq_none_iff, not_mem_codes_iff]

theorem get?_of_not_mem (h : code ∉ codes options) : get? code options = none :=
  get?_eq_none_iff.2 h

/-! ## Entries that may have a value -/

variable {entries : List (UInt8 × Option Octets)}

/-- The entries that have a value, in order. -/
def present (entries : List (UInt8 × Option Octets)) : Options :=
  entries.filterMap fun e => e.2.map (e.1, ·)

theorem mem_of_mem_present {o : UInt8 × Octets} (h : o ∈ present entries) :
    (o.1, some o.2) ∈ entries := by
  obtain ⟨e, he, ho⟩ := List.mem_filterMap.1 h
  obtain ⟨v, hv, rfl⟩ := Option.map_eq_some_iff.1 ho
  exact hv ▸ he

theorem code_of_mem_codes_present (h : code ∈ codes (present entries)) :
    code ∈ entries.map Prod.fst := by
  obtain ⟨o, ho, rfl⟩ := List.mem_map.1 h
  exact List.mem_map.2 ⟨_, mem_of_mem_present ho, rfl⟩

/-- The value of an entry is changed where the entry stands. -/
theorem set_present {front back : List (UInt8 × Option Octets)}
    (h : code ∉ front.map Prod.fst) (value old : Octets) :
    set code value (present (front ++ (code, some old) :: back)) =
      present (front ++ (code, some value) :: back) := by
  have hpresent : ∀ v, present (front ++ (code, some v) :: back) =
      present front ++ (code, v) :: present back := fun v => by simp [present]
  rw [hpresent, hpresent, set_append_cons (mt code_of_mem_codes_present h)]

/-- An entry under a code of its own is found, if it has a value. -/
theorem get?_present (hdistinct : (entries.map Prod.fst).Nodup) {value : Option Octets}
    (h : (code, value) ∈ entries) : get? code (present entries) = value := by
  induction entries with
  | nil => cases h
  | cons e rest ih =>
    obtain ⟨hnew, hrest⟩ := List.nodup_cons.1 hdistinct
    rcases List.mem_cons.1 h with rfl | h
    · cases value with
      | none => exact get?_of_not_mem fun hm => hnew (code_of_mem_codes_present hm)
      | some value => simp [present, get?]
    · have hne : code ≠ e.1 := by
        rintro rfl
        exact hnew (List.mem_map.2 ⟨_, h, rfl⟩)
      rw [← ih hrest h]
      obtain ⟨c, v⟩ := e
      cases v with
      | none => rfl
      | some v =>
        have hbeq : (code == c) = false := beq_eq_false_iff_ne.2 hne
        simp [present, get?, List.lookup_cons, hbeq]

end Options

namespace Reply

open Options

/-- Set options one after the other. -/
def setAll (reply : Reply) (options : List (UInt8 × Octets)) : Reply :=
  options.foldl (fun r o => r.set o.1 o.2) reply

/-- Setting options changes nothing else of a reply, gives no code a second place, and adds no code
but those that are set. -/
theorem setAll_spec (reply : Reply) (options : List (UInt8 × Octets)) :
    ∃ all, reply.setAll options = { reply with options := all } ∧
      ((codes reply.options).Nodup → (codes all).Nodup) ∧
      ∀ c ∈ codes all, c ∈ codes reply.options ∨ c ∈ codes options := by
  induction options generalizing reply with
  | nil => exact ⟨reply.options, rfl, id, fun c => Or.inl⟩
  | cons o rest ih =>
    obtain ⟨all, heq, hnodup, hmem⟩ := ih (reply.set o.1 o.2)
    refine ⟨all, heq, fun h => hnodup (nodup_codes_set o.2 h), ?_⟩
    intro c hc
    rcases hmem c hc with h | h
    · rcases mem_codes_set.1 h with rfl | h
      · exact .inr List.mem_cons_self
      · exact .inl h
    · exact .inr (List.mem_cons_of_mem o.1 h)

/-- Entries under different codes that are all new go to the end in their order, as far as they have
a value. -/
theorem foldl_set? {entries : List (UInt8 × Option Octets)} {reply : Reply}
    (hdistinct : (entries.map Prod.fst).Nodup) (hnew : ∀ e ∈ entries, e.1 ∉ codes reply.options) :
    entries.foldl (fun r e => r.set? e.1 e.2) reply =
      { reply with options := reply.options ++ present entries } := by
  induction entries generalizing reply with
  | nil => simp [present]
  | cons e rest ih =>
    obtain ⟨code, value⟩ := e
    obtain ⟨hcode, hrest⟩ := List.nodup_cons.1 hdistinct
    have hlater : ∀ e ∈ rest, e.1 ∉ codes reply.options := fun e he =>
      hnew e (List.mem_cons_of_mem _ he)
    rw [List.foldl_cons]
    cases value with
    | none => exact ih hrest hlater
    | some value =>
      have hset : reply.set? code (some value) =
          { reply with options := reply.options ++ [(code, value)] } := by
        rw [set?, set, set_of_not_mem value (hnew _ List.mem_cons_self)]
      rw [hset, ih hrest]
      · simp [present]
      · intro e he hm
        rw [codes_concat, List.mem_append, List.mem_singleton] at hm
        rcases hm with hm | hm
        · exact hlater e he hm
        · exact hcode (List.mem_map.2 ⟨e, he, hm⟩)

end Reply
end BootServer.Dhcp
