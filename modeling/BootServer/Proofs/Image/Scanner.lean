import BootServer.Image.Scanner
import BootServer.Proofs.Image.Occurrence

/-! What a scanner knows after it was fed. It has counted every octet, it carries the end of them,
one octet shorter than the marker, and the marker is not among them. The invariant is on all octets
seen so far, so that it does not depend on how they were cut into chunks. -/
namespace BootServer.Image.Scanner

/-- The octets seen so far do not hold the marker, and the scanner is where they end. -/
structure Follows (s : Scanner) (seen : Octets) : Prop where
  consumed : s.consumed = seen.length
  carry : s.carry = seen.drop (seen.length - (s.marker.length - 1))
  absent : s.marker.Absent seen

theorem carry_le_nil : ([] : Octets).length ≤ 0 := Nat.le_refl 0

/-- A scanner that was fed nothing. -/
def fresh (m : Marker) : Scanner := { marker := m, carry_le := carry_le_nil }

theorem follows_fresh (m : Marker) : (fresh m).Follows [] :=
  ⟨rfl, List.drop_nil.symm, m.absent_nil⟩

variable {s : Scanner} {seen : Octets}

@[simp] theorem feed_marker (s : Scanner) (chunk : Octets) : (s.feed chunk).2.marker = s.marker := by
  unfold feed
  cases s.marker.find? (s.window chunk) <;> rfl

@[simp] theorem feed_consumed (s : Scanner) (chunk : Octets) :
    (s.feed chunk).2.consumed = s.consumed + chunk.length := by
  unfold feed
  cases s.marker.find? (s.window chunk) <;> rfl

/-! ## What is carried -/

/-- The end of the octets is carried, one octet shorter than the marker. -/
def CarriesEnd (s : Scanner) (since : Octets) : Prop :=
  s.carry = since.drop (since.length - (s.marker.length - 1))

theorem CarriesEnd.length_carry (h : s.CarriesEnd seen) :
    s.carry.length = min (s.marker.length - 1) seen.length := by
  rw [h, List.length_drop]
  omega

theorem CarriesEnd.kept (h : s.CarriesEnd seen) (chunk : Octets) :
    s.kept chunk = (seen ++ chunk).drop ((seen ++ chunk).length - (s.marker.length - 1)) := by
  have hwindow : s.window chunk =
      (seen ++ chunk).drop (seen.length - (s.marker.length - 1)) := by
    rw [Scanner.window, h, List.drop_append_of_le_length (Nat.sub_le _ _)]
  rw [Scanner.kept, hwindow, List.drop_drop]
  simp only [List.length_drop, List.length_append]
  congr 1
  omega

theorem feed_answer (s : Scanner) (chunk : Octets) :
    (s.feed chunk).1 =
      (s.marker.find? (s.window chunk)).map (s.consumed - s.carry.length + ·) := by
  unfold feed
  cases s.marker.find? (s.window chunk) <;> rfl

/-- Without a match the end of what was carried and of the chunk is carried on. -/
theorem CarriesEnd.feed (h : s.CarriesEnd seen) {chunk : Octets}
    (hn : (s.feed chunk).1 = none) : (s.feed chunk).2.CarriesEnd (seen ++ chunk) := by
  have hkept := h.kept chunk
  rw [feed_answer, Option.map_eq_none_iff] at hn
  unfold Scanner.feed
  rw [hn]
  exact hkept

/-! ## The window -/

theorem Follows.length_carry (h : s.Follows seen) :
    s.carry.length = min (s.marker.length - 1) seen.length := CarriesEnd.length_carry h.carry

/-- The window is the end of what has been seen once the chunk is added. -/
theorem Follows.window (h : s.Follows seen) (chunk : Octets) :
    s.window chunk = (seen ++ chunk).drop (seen.length - s.carry.length) := by
  have hc := h.length_carry
  rw [List.drop_append_of_le_length (by omega), Scanner.window]
  congr 1
  rw [h.carry]
  congr 1
  rw [List.length_drop]
  omega

/-- No occurrence begins before the window: it would end within the octets already seen. -/
theorem Follows.window_le (h : s.Follows seen) {chunk : Octets} {i : Nat}
    (ho : s.marker.OccursAt (seen ++ chunk) i) : seen.length - s.carry.length ≤ i := by
  have hc := h.length_carry
  rcases Nat.lt_or_ge i (seen.length - s.carry.length) with hlt | hle
  · exact absurd (ho.of_append (by omega)) (h.absent i)
  · exact hle

/-- The first place in the window is the first place in all octets. -/
theorem Follows.firstAt_window (h : s.Follows seen) (chunk : Octets) (i : Nat) :
    s.marker.FirstAt (s.window chunk) i ↔
      s.marker.FirstAt (seen ++ chunk) (seen.length - s.carry.length + i) := by
  rw [h.window chunk]
  constructor
  · rintro ⟨ho, hfirst⟩
    refine ⟨(s.marker.occursAt_drop _ _ _).mp ho, ?_⟩
    intro j hj hoj
    have hle := h.window_le hoj
    refine hfirst (j - (seen.length - s.carry.length)) (by omega) ?_
    rw [s.marker.occursAt_drop, Nat.add_sub_cancel' hle]
    exact hoj
  · rintro ⟨ho, hfirst⟩
    refine ⟨(s.marker.occursAt_drop _ _ _).mpr ho, ?_⟩
    intro j hj hoj
    exact hfirst _ (by omega) ((s.marker.occursAt_drop _ _ _).mp hoj)

theorem Follows.absent_window (h : s.Follows seen) (chunk : Octets) :
    s.marker.Absent (s.window chunk) ↔ s.marker.Absent (seen ++ chunk) := by
  rw [h.window chunk]
  constructor
  · intro ha i ho
    have hle := h.window_le ho
    refine ha (i - (seen.length - s.carry.length)) ?_
    rw [s.marker.occursAt_drop, Nat.add_sub_cancel' hle]
    exact ho
  · intro ha i ho
    exact ha _ ((s.marker.occursAt_drop _ _ _).mp ho)

/-! ## Feeding -/

/-- A chunk is answered by the offset of the first occurrence that it completes. -/
theorem Follows.feed_eq_some (h : s.Follows seen) (chunk : Octets) (offset : Nat) :
    (s.feed chunk).1 = some offset ↔ s.marker.FirstAt (seen ++ chunk) offset := by
  rw [feed_answer, h.consumed, Option.map_eq_some_iff]
  constructor
  · rintro ⟨found, hf, rfl⟩
    exact (h.firstAt_window chunk found).mp (Marker.find?_eq_some_iff.mp hf)
  · intro ho
    have hle := h.window_le ho.1
    refine ⟨offset - (seen.length - s.carry.length), ?_, Nat.add_sub_cancel' hle⟩
    rw [Marker.find?_eq_some_iff, h.firstAt_window, Nat.add_sub_cancel' hle]
    exact ho

/-- Without an answer the marker is still to come. -/
theorem Follows.feed_eq_none_iff (h : s.Follows seen) {chunk : Octets} :
    (s.feed chunk).1 = none ↔ s.marker.Absent (seen ++ chunk) := by
  rw [feed_answer, Option.map_eq_none_iff, Marker.find?_eq_none_iff, h.absent_window]

/-- A chunk that completes no occurrence leaves a scanner that follows it. -/
theorem Follows.feed_none (h : s.Follows seen) {chunk : Octets} (hn : (s.feed chunk).1 = none) :
    (s.feed chunk).2.Follows (seen ++ chunk) := by
  refine ⟨?_, CarriesEnd.feed h.carry hn, ?_⟩
  · rw [feed_consumed, h.consumed, List.length_append]
  · rw [feed_marker]
    exact h.feed_eq_none_iff.mp hn

end BootServer.Image.Scanner
