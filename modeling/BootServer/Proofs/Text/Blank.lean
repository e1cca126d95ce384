import BootServer.Proofs.Text.Fields
import BootServer.Text.Blank

/-! Blanks around a text and within it. Trimming takes blanks from the ends and nothing else, and the
words of a text are what stands between blanks. -/
namespace BootServer.Text

/-! ## Trimming -/

section

variable {α : Type} {p : α → Bool}

theorem exists_dropEndWhile (p : α → Bool) (l : List α) :
    ∃ after, l = dropEndWhile p l ++ after ∧ ∀ a ∈ after, p a = true := by
  refine ⟨(l.reverse.takeWhile p).reverse, ?_, fun a ha => ?_⟩
  · rw [dropEndWhile, ← List.reverse_append, List.takeWhile_append_dropWhile, List.reverse_reverse]
  · exact List.all_eq_true.1 List.all_takeWhile a (List.mem_reverse.1 ha)

theorem getLast?_dropEndWhile {l : List α} : ∀ a ∈ (dropEndWhile p l).getLast?, p a = false := by
  intro a ha
  rw [dropEndWhile, List.getLast?_reverse] at ha
  have hhead := List.head?_dropWhile_not p l.reverse
  rw [Option.mem_def.1 ha] at hhead
  simpa using hhead

end

variable {p : Char → Bool}

theorem exists_trimWhile (p : Char → Bool) (s : String) :
    ∃ before after, s.toList = before ++ (trimWhile p s).toList ++ after ∧
      ∀ c ∈ before ++ after, p c = true := by
  obtain ⟨after, hafter, hp⟩ := exists_dropEndWhile p (s.toList.dropWhile p)
  refine ⟨s.toList.takeWhile p, after, ?_, fun c hc => ?_⟩
  · simp only [trimWhile, trimStartWhile, trimEndWhile, String.toList_ofList]
    rw [List.append_assoc, ← hafter, List.takeWhile_append_dropWhile]
  · rcases List.mem_append.1 hc with hc | hc
    · exact List.all_eq_true.1 List.all_takeWhile c hc
    · exact hp c hc

/-- A text without anything that is trimmed is found again between what is. -/
theorem trimWhile_between {s : String} {before mid after : List Char}
    (hs : s.toList = before ++ mid ++ after) (hp : ∀ c ∈ before ++ after, p c = true)
    (hne : mid ≠ []) (hmid : ∀ c ∈ mid, p c = false) : trimWhile p s = String.ofList mid := by
  obtain ⟨c, mid, rfl⟩ := List.exists_cons_of_ne_nil hne
  have hbefore : ∀ c ∈ before, p c = true := fun c hc => hp c (List.mem_append_left _ hc)
  have hc : ¬ p c = true := by simp [hmid c List.mem_cons_self]
  have hstart : s.toList.dropWhile p = c :: mid ++ after := by
    rw [hs, List.append_assoc, List.dropWhile_append_of_pos hbefore, List.cons_append,
      List.dropWhile_cons_of_neg hc]
  have hend : dropEndWhile p (c :: mid ++ after) = c :: mid :=
    dropEndWhile_append (fun c hc => hp c (List.mem_append_right _ hc))
      fun c hc => hmid c (List.mem_of_getLast? hc)
  rw [trimWhile, trimStartWhile, hstart, trimEndWhile, String.toList_ofList, hend]

/-! ## Words -/

theorem not_isBlank_of_mem_go {l run : List Char} (h : run ∈ words.go l) {c : Char}
    (hc : c ∈ run) : isBlank c = false := by
  unfold words.go at h
  replace h := (List.mem_filter.1 h).1
  induction l generalizing run with
  | nil =>
    obtain rfl := List.mem_singleton.1 h
    cases hc
  | cons a l ih =>
    rw [List.foldr_cons] at h
    split at h
    · -- a blank ends the run that stood here
      rcases List.mem_cons.1 h with rfl | h
      · cases hc
      · exact ih hc h
    · next ha =>
      have ha : isBlank a = false := Bool.eq_false_iff.2 ha
      split at h
      · obtain rfl := List.mem_singleton.1 h
        obtain rfl := List.mem_singleton.1 hc
        exact ha
      · next first rest hruns =>
        rw [hruns] at ih
        rcases List.mem_cons.1 h with rfl | h
        · rcases List.mem_cons.1 hc with rfl | hc
          · exact ha
          · exact ih hc List.mem_cons_self
        · exact ih hc (List.mem_cons_of_mem _ h)

theorem of_mem_words {s word : String} (h : word ∈ words s) :
    word ≠ "" ∧ ∀ c ∈ word.toList, isBlank c = false := by
  obtain ⟨run, hrun, rfl⟩ := List.mem_map.1 h
  constructor
  · intro hempty
    have hne : run ≠ [] := by simpa using (List.mem_filter.1 hrun).2
    exact hne (by simpa using congrArg String.toList hempty)
  · intro c hc
    rw [String.toList_ofList] at hc
    exact not_isBlank_of_mem_go hrun hc

end BootServer.Text
