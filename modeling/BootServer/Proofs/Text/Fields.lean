import BootServer.Text.Fields

/-! Fields and the text they stand in. No field holds the separator, so fields are found again where
each follows a separator, and trimming takes away nothing but what stands at the ends. -/
namespace BootServer.Text

section

variable {α : Type} [BEq α] [LawfulBEq α] {sep : α}

theorem fields_of_not_mem {l : List α} (h : sep ∉ l) : fields sep l = [l] := by
  induction l with
  | nil => rfl
  | cons a l ih =>
    obtain ⟨hne, hl⟩ := List.ne_and_not_mem_of_not_mem_cons h
    simp [fields, Ne.symm hne, ih hl]

theorem fields_append {front : List α} (h : sep ∉ front) (rest : List α) :
    fields sep (front ++ sep :: rest) = front :: fields sep rest := by
  induction front with
  | nil => simp [fields]
  | cons a front ih =>
    obtain ⟨hne, hfront⟩ := List.ne_and_not_mem_of_not_mem_cons h
    simp [fields, Ne.symm hne, ih hfront]

/-- Every separator ends a field, whatever stands before it. -/
theorem fields_append_cons (front rest : List α) :
    fields sep (front ++ sep :: rest) = fields sep front ++ fields sep rest := by
  induction front with
  | nil => simp [fields]
  | cons a front ih =>
    by_cases ha : a = sep
    · simp [fields, ha, ih]
    · cases hf : fields sep front with
      | nil => exact absurd hf (fields_ne_nil sep front)
      | cons first others => simp [fields, ha, ih, hf]

theorem not_mem_of_mem_fields {l field : List α} (h : field ∈ fields sep l) : sep ∉ field := by
  induction l generalizing field with
  | nil => simp_all [fields]
  | cons a l ih =>
    by_cases ha : a = sep
    · simp only [fields, ha, beq_self_eq_true, if_true, List.mem_cons] at h
      rcases h with rfl | h
      · exact List.not_mem_nil
      · exact ih h
    · cases hl : fields sep l with
      | nil => exact absurd hl (fields_ne_nil sep l)
      | cons first rest =>
        simp only [fields, beq_iff_eq, ha, if_false, hl, List.mem_cons] at h
        rw [hl] at ih
        rcases h with rfl | h
        · exact List.not_mem_cons_of_ne_of_not_mem (Ne.symm ha) (ih List.mem_cons_self)
        · exact ih (List.mem_cons_of_mem _ h)

/-- Separators at the beginning are empty fields. -/
theorem fields_replicate_append (sep : α) (n : Nat) (l : List α) :
    fields sep (List.replicate n sep ++ l) = List.replicate n [] ++ fields sep l := by
  induction n with
  | zero => rfl
  | succ n ih =>
    rw [List.replicate_succ, List.cons_append, fields, if_pos (beq_self_eq_true sep), ih]
    rfl

/-- What does not begin with the separator has something in its first field. -/
theorem exists_fields_of_head?_ne {l : List α} (hl : l ≠ []) (h : l.head? ≠ some sep) :
    ∃ first rest, fields sep l = first :: rest ∧ first ≠ [] := by
  cases l with
  | nil => exact absurd rfl hl
  | cons a l =>
    have ha : a ≠ sep := fun he => h (congrArg some he)
    cases hf : fields sep l with
    | nil => exact absurd hf (fields_ne_nil sep l)
    | cons first rest =>
      exact ⟨a :: first, rest, by simp [fields, ha, hf], List.cons_ne_nil _ _⟩

/-- A separator behind each field gives the whole back, with one at its end. -/
theorem flatMap_fields (sep : α) (l : List α) :
    (fields sep l).flatMap (· ++ [sep]) = l ++ [sep] := by
  induction l with
  | nil => rfl
  | cons a l ih =>
    by_cases ha : a = sep
    · simp [fields, ha, ih]
    · cases hl : fields sep l with
      | nil => exact absurd hl (fields_ne_nil sep l)
      | cons first rest =>
        rw [hl] at ih
        simpa [fields, ha, hl] using ih

/-- What is not in a field is a separator. -/
theorem exists_field_of_mem {l : List α} {a : α} (h : a ∈ l) :
    a = sep ∨ ∃ field ∈ fields sep l, a ∈ field := by
  have hmem : a ∈ (fields sep l).flatMap (· ++ [sep]) := by
    rw [flatMap_fields]
    exact List.mem_append_left _ h
  obtain ⟨field, hfield, ha⟩ := List.mem_flatMap.1 hmem
  rcases List.mem_append.1 ha with ha | ha
  · exact .inr ⟨field, hfield, ha⟩
  · exact .inl (List.mem_singleton.1 ha)

/-- Each field but the first follows a separator. -/
theorem fields_flatMap {front : List α} {list : List (List α)} (hfront : sep ∉ front)
    (h : ∀ field ∈ list, sep ∉ field) :
    fields sep (front ++ list.flatMap (sep :: ·)) = front :: list := by
  induction list generalizing front with
  | nil => simpa using fields_of_not_mem hfront
  | cons field list ih =>
    obtain ⟨hfield, hlist⟩ := List.forall_mem_cons.1 h
    rw [List.flatMap_cons, List.cons_append, fields_append hfront, ih hfield hlist]

theorem cutFirst_of_not_mem {l : List α} (h : sep ∉ l) : cutFirst sep l = none := by
  induction l with
  | nil => rfl
  | cons a l ih =>
    obtain ⟨hne, hl⟩ := List.ne_and_not_mem_of_not_mem_cons h
    simp [cutFirst, Ne.symm hne, ih hl]

/-- What has no separator in it stands before the first one. -/
theorem cutFirst_append {front : List α} (h : sep ∉ front) (rest : List α) :
    cutFirst sep (front ++ rest) = (cutFirst sep rest).map fun cut => (front ++ cut.1, cut.2) := by
  induction front with
  | nil => simp
  | cons a front ih =>
    obtain ⟨hne, hfront⟩ := List.ne_and_not_mem_of_not_mem_cons h
    simp [cutFirst, Ne.symm hne, ih hfront, Function.comp_def]

theorem cutFirst_append_cons {front : List α} (h : sep ∉ front) (rest : List α) :
    cutFirst sep (front ++ sep :: rest) = some (front, rest) := by
  rw [cutFirst_append h, cutFirst, if_pos (beq_self_eq_true sep), Option.map_some,
    List.append_nil]

/-- Nothing behind the first separator has a say in where it is. -/
theorem cutFirst_append_of_mem {front : List α} (h : sep ∈ front) : ∃ before behind,
    ∀ rest, cutFirst sep (front ++ rest) = some (before, behind ++ rest) := by
  induction front with
  | nil => cases h
  | cons a front ih =>
    by_cases ha : a = sep
    · exact ⟨[], front, fun rest => by simp [cutFirst, ha]⟩
    · obtain ⟨before, behind, hcut⟩ := ih ((List.mem_cons.1 h).resolve_left (Ne.symm ha))
      exact ⟨a :: before, behind, fun rest => by simp [cutFirst, ha, hcut]⟩

end

section

variable {α : Type} {p : α → Bool}

theorem dropEndWhile_append {l rest : List α} (hrest : ∀ a ∈ rest, p a = true)
    (hl : ∀ a ∈ l.getLast?, p a = false) : dropEndWhile p (l ++ rest) = l := by
  have hfront : l.reverse.dropWhile p = l.reverse := by
    cases hr : l.reverse with
    | nil => rfl
    | cons a front =>
      have ha : p a = false := hl a (by rw [List.getLast?_eq_head?_reverse, hr]; rfl)
      simp [ha]
  rw [dropEndWhile, List.reverse_append,
    List.dropWhile_append_of_pos fun a ha => hrest a (List.mem_reverse.1 ha), hfront,
    List.reverse_reverse]

/-! A mark that ends a run: what is in front of it, and what follows it, is cut as if it were not
there. -/

variable {b : α}

theorem takeWhile_append_cons (h : p b = false) (l rest : List α) :
    (l ++ b :: rest).takeWhile p = l.takeWhile p := by
  induction l with
  | nil => simp [h]
  | cons a l ih => simp only [List.cons_append, List.takeWhile_cons, ih]

theorem dropWhile_append_cons (h : p b = false) (l rest : List α) :
    (l ++ b :: rest).dropWhile p = l.dropWhile p ++ b :: rest := by
  induction l with
  | nil => simp [h]
  | cons a l ih =>
    simp only [List.cons_append, List.dropWhile_cons, ih]
    split <;> rfl

theorem dropEndWhile_append_cons (h : p b = false) (l rest : List α) :
    dropEndWhile p (l ++ b :: rest) = l ++ b :: dropEndWhile p rest := by
  rw [dropEndWhile, List.reverse_append, List.reverse_cons, List.append_assoc,
    List.singleton_append, dropWhile_append_cons h]
  simp [dropEndWhile]

end

/-- Trimming leaves what has nothing in it that is trimmed. -/
theorem trimWhile_of_forall {p : Char → Bool} {s : String} (h : ∀ c ∈ s.toList, p c = false) :
    trimWhile p s = s := by
  have hstart : s.toList.dropWhile p = s.toList := by
    cases hs : s.toList with
    | nil => rfl
    | cons c l =>
      rw [List.dropWhile_cons_of_neg]
      simp [h c (hs ▸ List.mem_cons_self)]
  have hend : dropEndWhile p s.toList = s.toList := by
    have hlast := fun c hc => h c (List.mem_of_getLast? hc)
    simpa using @dropEndWhile_append _ p s.toList [] (by simp) hlast
  rw [trimWhile, trimStartWhile, hstart, String.ofList_toList, trimEndWhile, hend,
    String.ofList_toList]

end BootServer.Text
