import BootServer.Proofs.Text.Fields

/-! Texts that are put together. What follows one another stands in the text in that order, and its
lines are found again where none of them is broken. -/
namespace BootServer.Text

/-! ## Pieces -/

/-- The pieces stand in the text, each behind the one before it. -/
inductive InOrder : List String → String → Prop
  | nil (s : String) : InOrder [] s
  | cons (before piece : String) {pieces : List String} {after : String}
    (h : InOrder pieces after) : InOrder (piece :: pieces) (before ++ piece ++ after)

variable {pieces others : List String} {s t : String}

theorem InOrder.after (h : InOrder pieces s) (before : String) : InOrder pieces (before ++ s) := by
  cases h with
  | nil => exact .nil _
  | cons before' piece h =>
    rw [← String.append_assoc, ← String.append_assoc]
    exact .cons _ piece h

theorem InOrder.append (h : InOrder pieces s) (h' : InOrder others t) :
    InOrder (pieces ++ others) (s ++ t) := by
  induction h with
  | nil s => exact h'.after s
  | cons before piece _ ih =>
    rw [String.append_assoc]
    exact .cons before piece ih

theorem InOrder.self (s : String) : InOrder [s] s := by
  have h := InOrder.cons "" s (.nil "")
  rwa [String.empty_append, String.append_empty] at h

theorem joined_cons (piece : String) (pieces : List String) :
    "".intercalate (piece :: pieces) = piece ++ "".intercalate pieces := by
  cases pieces with
  | nil => simp
  | cons next rest => simp

theorem inOrder_joined (pieces : List String) : InOrder pieces ("".intercalate pieces) := by
  induction pieces with
  | nil => exact .nil _
  | cons piece pieces ih =>
    rw [joined_cons]
    exact (InOrder.self piece).append ih

/-! ## Beginnings -/

theorem toList_ofList_append (l : List Char) (rest : String) :
    (String.ofList l ++ rest).toList = l ++ rest.toList := by
  rw [String.toList_append, String.toList_ofList]

theorem startsWith_append (front rest : String) : startsWith front (front ++ rest) = true := by
  rw [startsWith, String.toList_append, List.isPrefixOf_iff_prefix]
  exact List.prefix_append ..

theorem after?_append (front rest : String) : after? front (front ++ rest) = some rest := by
  rw [after?, if_pos (startsWith_append front rest), String.toList_append, List.drop_left,
    String.ofList_toList]

/-- Do they differ before either of them ends? -/
def differ : List Char → List Char → Bool
  | a :: l, b :: m => a ≠ b || differ l m
  | _, _ => false

theorem differ_comm (l m : List Char) : differ l m = differ m l := by
  induction l generalizing m with
  | nil => cases m <;> rfl
  | cons a l ih =>
    cases m with
    | nil => rfl
    | cons b m => simp only [differ, ih m, ne_comm]

theorem isPrefixOf_of_differ {l m : List Char} (h : differ l m = true) (rest : List Char) :
    l.isPrefixOf (m ++ rest) = false := by
  induction l generalizing m with
  | nil => cases h
  | cons a l ih =>
    cases m with
    | nil => cases h
    | cons b m =>
      rw [List.cons_append, List.isPrefixOf_cons_cons]
      by_cases hab : a = b
      · have hrest : differ l m = true := by simpa [differ, hab] using h
        rw [ih hrest, Bool.and_false]
      · rw [beq_eq_false_iff_ne.2 hab, Bool.false_and]

/-- No text begins with both. -/
def Apart (front front' : String) : Prop := differ front.toList front'.toList = true

theorem Apart.symm {front front' : String} (h : Apart front front') : Apart front' front :=
  (differ_comm _ _).trans h

theorem apart_ofList {l m : List Char} (h : differ l m = true) :
    Apart (String.ofList l) (String.ofList m) := by
  rw [Apart, String.toList_ofList, String.toList_ofList, h]

theorem Apart.not_startsWith {front front' : String} (h : Apart front front') (rest : String) :
    ¬ startsWith front (front' ++ rest) = true := by
  rw [startsWith, String.toList_append, isPrefixOf_of_differ h]
  exact Bool.false_ne_true

section

variable {told : List (String × String)} {front value : String}

/-- Of texts whose beginnings are apart, one begins with a given one of these. -/
theorem filter_startsWith (h : told.Pairwise fun p q => Apart p.1 q.1)
    (hmem : (front, value) ∈ told) :
    (told.map fun p => p.1 ++ p.2).filter (startsWith front) = [front ++ value] := by
  induction told with
  | nil => cases hmem
  | cons p told ih =>
    obtain ⟨hp, hpairs⟩ := List.pairwise_cons.1 h
    rw [List.map_cons]
    rcases List.mem_cons.1 hmem with rfl | hmem
    · rw [List.filter_cons_of_pos (startsWith_append front value), List.filter_eq_nil_iff.2]
      intro line hline
      obtain ⟨q, hq, rfl⟩ := List.mem_map.1 hline
      exact (hp q hq).not_startsWith q.2
    · rw [List.filter_cons_of_neg ((hp _ hmem).symm.not_startsWith p.2), ih hpairs hmem]

theorem filterMap_after? {ls : List String} (h : ls.filter (startsWith front) = [front ++ value]) :
    ls.filterMap (after? front) = [value] := by
  have hfilter : ls.filterMap (after? front) =
      (ls.filter (startsWith front)).filterMap (after? front) := by
    rw [List.filterMap_filter]
    congr 1
    funext line
    cases hline : startsWith front line with
    | false => simp [after?, hline]
    | true => exact (if_pos rfl).symm
  rw [hfilter, h, List.filterMap_cons_some (after?_append front value), List.filterMap_nil]

end

/-! ## Lines -/

/-- The text is one line. -/
def Unbroken (s : String) : Prop := '\n' ∉ s.toList

theorem unbroken_append : Unbroken (s ++ t) ↔ Unbroken s ∧ Unbroken t := by
  rw [Unbroken, String.toList_append, List.mem_append, not_or]
  rfl

theorem unbroken_ofList {l : List Char} (h : l.all (· ≠ '\n') = true) :
    Unbroken (String.ofList l) := by
  rw [Unbroken, String.toList_ofList]
  intro hmem
  simpa using List.all_eq_true.1 h _ hmem

theorem unbroken_joined (h : ∀ piece ∈ pieces, Unbroken piece) :
    Unbroken ("".intercalate pieces) := by
  induction pieces with
  | nil => exact unbroken_ofList rfl
  | cons piece pieces ih =>
    obtain ⟨hpiece, hpieces⟩ := List.forall_mem_cons.1 h
    rw [joined_cons, unbroken_append]
    exact ⟨hpiece, ih hpieces⟩

theorem split_lines {lines : List String} (hne : lines ≠ []) (h : ∀ line ∈ lines, Unbroken line) :
    split '\n' ("\n".intercalate lines) = lines := by
  obtain ⟨first, rest, rfl⟩ := List.exists_cons_of_ne_nil hne
  obtain ⟨hfirst, hrest⟩ := List.forall_mem_cons.1 h
  have hlist : ("\n".intercalate (first :: rest)).toList =
      first.toList ++ (rest.map String.toList).flatMap ('\n' :: ·) := by
    clear hne h hfirst hrest
    induction rest generalizing first with
    | nil => simp
    | cons next rest ih =>
      rw [String.intercalate_cons_cons, String.toList_append, String.toList_append, ih]
      simp
  have hfields : ∀ field ∈ rest.map String.toList, '\n' ∉ field := by
    intro field hfield
    obtain ⟨line, hline, rfl⟩ := List.mem_map.1 hfield
    exact hrest line hline
  rw [split, hlist, fields_flatMap hfirst hfields]
  simp

end BootServer.Text
