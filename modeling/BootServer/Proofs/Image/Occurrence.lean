import BootServer.Image.Marker

/-! Where a marker stands in data. The search is exact: it gives the first offset at which the
marker stands, and nothing when it stands nowhere. What is found in the beginning of the data is
what is found in all of it. -/
namespace BootServer.Image.Marker

/-- The marker stands at an offset. -/
def OccursAt (m : Marker) (data : Octets) (offset : Nat) : Prop := m.octets <+: data.drop offset

instance (m : Marker) (data : Octets) (offset : Nat) : Decidable (m.OccursAt data offset) :=
  inferInstanceAs (Decidable (m.octets <+: data.drop offset))

/-- The marker stands at an offset and nowhere before it. -/
def FirstAt (m : Marker) (data : Octets) (offset : Nat) : Prop :=
  m.OccursAt data offset ∧ ∀ i < offset, ¬ m.OccursAt data i

def Absent (m : Marker) (data : Octets) : Prop := ∀ i, ¬ m.OccursAt data i

variable {m : Marker} {data more : Octets} {i j : Nat}

theorem OccursAt.le_length (h : m.OccursAt data i) : i + m.length ≤ data.length := by
  have hl := h.length_le
  have hp := m.length_pos
  rw [List.length_drop] at hl
  unfold Marker.length at *
  omega

theorem FirstAt.unique (hi : m.FirstAt data i) (hj : m.FirstAt data j) : i = j := by
  rcases Nat.lt_trichotomy i j with h | h | h
  · exact absurd hi.1 (hj.2 i h)
  · exact h
  · exact absurd hj.1 (hi.2 j h)

theorem FirstAt.not_absent (h : m.FirstAt data i) : ¬ m.Absent data := fun ha => ha i h.1

theorem absent_nil (m : Marker) : m.Absent [] := by
  intro i h
  have hl := h.le_length
  have hp := m.length_pos
  rw [List.length_nil] at hl
  omega

/-! ## The search -/

theorem occursAt_cons_zero (m : Marker) (b : UInt8) (data : Octets) :
    m.OccursAt (b :: data) 0 ↔ m.octets.isPrefixOf (b :: data) = true := by
  rw [List.isPrefixOf_iff_prefix]
  rfl

/-- The search counts on from the offset that it is given. -/
theorem findFrom_eq_some (m : Marker) (data : Octets) :
    ∀ base found, findFrom m.octets base data = some found ↔
      ∃ i, found = base + i ∧ m.FirstAt data i := by
  induction data with
  | nil =>
    intro base found
    constructor
    · intro h; simp [findFrom] at h
    · rintro ⟨i, -, hi⟩; exact absurd hi.1 (m.absent_nil i)
  | cons b rest ih =>
    intro base found
    rw [findFrom]
    by_cases hb : m.octets.isPrefixOf (b :: rest) = true
    · have here : m.FirstAt (b :: rest) 0 := ⟨(m.occursAt_cons_zero b rest).mpr hb, by simp⟩
      rw [if_pos hb]
      constructor
      · intro h; exact ⟨0, by simpa using h.symm, here⟩
      · rintro ⟨i, rfl, hi⟩; rw [hi.unique here]; rfl
    · have nothere : ¬ m.OccursAt (b :: rest) 0 := fun h => hb ((m.occursAt_cons_zero b rest).mp h)
      rw [if_neg hb, ih]
      constructor
      · rintro ⟨i, rfl, hi⟩
        refine ⟨i + 1, by omega, hi.1, ?_⟩
        intro j hj
        cases j with
        | zero => exact nothere
        | succ j => exact hi.2 j (by omega)
      · rintro ⟨i, rfl, hi⟩
        cases i with
        | zero => exact absurd hi.1 nothere
        | succ i => exact ⟨i, by omega, hi.1, fun j hj => hi.2 (j + 1) (by omega)⟩

theorem find?_eq_some_iff : m.find? data = some i ↔ m.FirstAt data i := by
  unfold find?
  rw [findFrom_eq_some]
  constructor
  · rintro ⟨k, rfl, hk⟩; simpa using hk
  · intro h; exact ⟨i, by simp, h⟩

/-- Where the marker stands at all there is a first place. -/
theorem exists_firstAt (h : m.OccursAt data i) : ∃ j, m.FirstAt data j := by
  induction i using Nat.strongRecOn with
  | _ i ih =>
    by_cases hex : ∃ j < i, m.OccursAt data j
    · obtain ⟨j, hj, ho⟩ := hex
      exact ih j hj ho
    · exact ⟨i, h, fun j hj ho => hex ⟨j, hj, ho⟩⟩

theorem find?_eq_none_iff : m.find? data = none ↔ m.Absent data := by
  constructor
  · intro h i hi
    obtain ⟨j, hj⟩ := exists_firstAt hi
    rw [find?_eq_some_iff.mpr hj] at h
    cases h
  · intro h
    cases hf : m.find? data with
    | none => rfl
    | some i => exact absurd (find?_eq_some_iff.mp hf).1 (h i)

/-! ## Parts of the data -/

theorem OccursAt.append (h : m.OccursAt data i) : m.OccursAt (data ++ more) i := by
  have hl := h.le_length
  unfold OccursAt at *
  rw [List.drop_append_of_le_length (by omega)]
  exact h.trans (List.prefix_append _ _)

theorem OccursAt.of_append (h : m.OccursAt (data ++ more) i) (hl : i + m.length ≤ data.length) :
    m.OccursAt data i := by
  have hp := m.length_pos
  unfold OccursAt at *
  rw [List.drop_append_of_le_length (by omega)] at h
  refine List.prefix_of_prefix_length_le h (List.prefix_append _ _) ?_
  rw [List.length_drop]
  unfold Marker.length at *
  omega

/-- What stands first in the beginning of the data stands first in all of it. -/
theorem FirstAt.append (h : m.FirstAt data i) : m.FirstAt (data ++ more) i := by
  have hl := h.1.le_length
  exact ⟨h.1.append, fun j hj ho => h.2 j hj (ho.of_append (by omega))⟩

theorem FirstAt.of_prefix (h : m.FirstAt data i) {whole : Octets} (hp : data <+: whole) :
    m.FirstAt whole i := by
  obtain ⟨more, rfl⟩ := hp
  exact h.append

theorem occursAt_drop (m : Marker) (data : Octets) (k i : Nat) :
    m.OccursAt (data.drop k) i ↔ m.OccursAt data (k + i) := by
  unfold OccursAt
  rw [List.drop_drop]

end BootServer.Image.Marker
