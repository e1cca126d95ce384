import BootServer.Http.Range

/-! The ranges that a header asks for lie within what they are ranges of, and none is empty unless
there is nothing to take a range of. -/
namespace BootServer.Http.ByteRange

variable {size : Nat} {range : ByteRange}

/-- The range lies within so many octets, and is empty only if there are none. -/
structure Within (range : ByteRange) (size : Nat) : Prop where
  stop_le : range.start + range.length ≤ size
  length_pos : 0 < size → 0 < range.length

theorem last?_within {count : List Char} (h : last? size count = some (some range)) :
    range.Within size := by
  rw [last?, Option.bind_eq_bind, Option.bind_eq_some_iff] at h
  obtain ⟨n, -, h⟩ := h
  by_cases hn : n = 0
  · rw [if_pos hn] at h
    cases h
  · rw [if_neg hn] at h
    cases h
    constructor
    · show size - min n size + min n size ≤ size
      omega
    · show 0 < size → 0 < min n size
      omega

theorem from?_within {first last : List Char} (h : from? size first last = some (some range)) :
    range.Within size := by
  rw [from?, Option.bind_eq_bind, Option.bind_eq_some_iff] at h
  obtain ⟨start, -, h⟩ := h
  by_cases hout : size ≤ start
  · rw [if_pos hout] at h
    cases h
  rw [if_neg hout] at h
  by_cases hopen : last.isEmpty = true
  · rw [if_pos hopen] at h
    cases h
    constructor
    · show start + (size - start) ≤ size
      omega
    · show 0 < size → 0 < size - start
      omega
  · rw [if_neg hopen, Option.bind_eq_some_iff] at h
    obtain ⟨stop, -, h⟩ := h
    by_cases hback : stop < start
    · rw [if_pos hback] at h
      cases h
    · rw [if_neg hback] at h
      cases h
      constructor
      · show start + (min stop (size - 1) - start + 1) ≤ size
        omega
      · show 0 < size → 0 < min stop (size - 1) - start + 1
        omega

theorem item?_within {item : List Char} (h : item? size item = some (some range)) :
    range.Within size := by
  rw [item?, Option.bind_eq_bind, Option.bind_eq_some_iff] at h
  obtain ⟨⟨first, last⟩, -, h⟩ := h
  dsimp only at h
  by_cases hf : (trim first).isEmpty = true
  · rw [if_pos hf] at h
    exact last?_within h
  · rw [if_neg hf] at h
    exact from?_within h

theorem exists_of_mem_mapM {α β : Type} {f : α → Option β} {l : List α} {l' : List β}
    (h : l.mapM f = some l') {b : β} (hb : b ∈ l') : ∃ a ∈ l, f a = some b := by
  induction l generalizing l' with
  | nil =>
    rw [List.mapM_nil] at h
    cases h
    cases hb
  | cons a rest ih =>
    rw [List.mapM_cons, Option.bind_eq_bind, Option.bind_eq_some_iff] at h
    obtain ⟨b', ha, h⟩ := h
    rw [Option.bind_eq_bind, Option.bind_eq_some_iff] at h
    obtain ⟨rest', hrest, h⟩ := h
    cases h
    rcases List.mem_cons.mp hb with rfl | hb
    · exact ⟨a, List.mem_cons_self, ha⟩
    · obtain ⟨a', ha', hf⟩ := ih hrest hb
      exact ⟨a', List.mem_cons_of_mem a ha', hf⟩

/-- Every range of a header lies within the whole. -/
theorem parse?_within {value : String} {ranges : List ByteRange}
    (h : parse? size value = some ranges) (hr : range ∈ ranges) : range.Within size := by
  unfold parse? at h
  dsimp only at h
  split at h
  · cases h
    cases hr
  split at h
  · rw [Option.bind_eq_bind, Option.bind_eq_some_iff] at h
    obtain ⟨found, hm, h⟩ := h
    cases h
    obtain ⟨item, hitem, rfl⟩ := List.mem_filterMap.mp hr
    obtain ⟨text, -, ht⟩ := exists_of_mem_mapM hm hitem
    exact item?_within ht
  · cases h

end BootServer.Http.ByteRange
