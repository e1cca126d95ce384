import BootServer.Proofs.Text.Fields
import BootServer.Proofs.Text.Percent
import BootServer.Url.Path

/-! Paths as they are written. Resolving leaves only segments that are encoded, have no slash and
are no dot segments, and such segments it leaves as they are, but for a drive in front of a `file`
path. -/
namespace BootServer.Url.Path

open Text

/-! ## Dot segments -/

theorem length_le_dotted (l : List Char) : l.length ≤ 3 * (dotted l).length := by
  fun_induction dotted l with
  | case1 e rest he ih => simp only [List.length_cons]; omega
  | case2 e rest he ih => simp only [List.length_cons] at ih ⊢; omega
  | case3 c rest hc ih => simp only [List.length_cons]; omega
  | case4 => exact Nat.le_refl _

/-- How long a dot segment may be follows from what it stands for. -/
theorem isSingleDot_iff (l : List Char) : isSingleDot l = true ↔ dotted l = ['.'] := by
  have hlen := length_le_dotted l
  simp only [isSingleDot, Bool.and_eq_true, decide_eq_true_eq, and_iff_right_iff_imp]
  intro h
  simpa [h] using hlen

theorem isDoubleDot_iff (l : List Char) : isDoubleDot l = true ↔ dotted l = ['.', '.'] := by
  have hlen := length_le_dotted l
  simp only [isDoubleDot, Bool.and_eq_true, decide_eq_true_eq, and_iff_right_iff_imp]
  intro h
  simpa [h] using hlen

theorem dotted_cons_of_ne {c : Char} (h : c ≠ '%') (l : List Char) :
    dotted (c :: l) = c :: dotted l := by
  rw [dotted.eq_def]
  split
  · next he => exact absurd (List.cons.inj he).1 h
  · next he =>
    obtain ⟨rfl, rfl⟩ := List.cons.inj he
    rfl
  · next he => cases he

theorem dotted_mark {l : List Char} (h : ∀ e rest, l ≠ '2' :: e :: rest) :
    dotted ('%' :: l) = '%' :: dotted l := by
  rw [dotted.eq_def]
  split
  · next heq => exact absurd (List.cons.inj heq).2 (h _ _)
  · next heq =>
    obtain ⟨rfl, rfl⟩ := List.cons.inj heq
    rfl
  · next heq => cases heq

/-- An escape that stands for no dot is kept. -/
theorem dotted_escape {x y : Char} (hx : x ≠ '%') (hy : y ≠ '%') (he : y ≠ 'e')
    (h : x = '2' → y ≠ 'E') (l : List Char) :
    dotted ('%' :: x :: y :: l) = '%' :: x :: y :: dotted l := by
  by_cases h2 : x = '2'
  · have hdot : (y = 'e' || y = 'E') = false := by simp [he, h h2]
    rw [h2, dotted, hdot, dotted_cons_of_ne hy]
    rfl
  · rw [dotted_mark fun e rest heq => h2 (List.cons.inj heq).1, dotted_cons_of_ne hx,
      dotted_cons_of_ne hy]

theorem upper_ne {n : Nat} (h : n < 16) :
    Hex.upper n ≠ '%' ∧ Hex.upper n ≠ '/' ∧ Hex.upper n ≠ 'e' ∧
      (Hex.upper n = '2' → n = 2) ∧ (Hex.upper n = 'E' → n = 14) := by
  revert n
  decide

theorem dotted_flatMap_escape {os : Octets} (h : ∀ o ∈ os, o.toNat ≠ 0x2E) (l : List Char) :
    dotted (os.flatMap (fun o => '%' :: Hex.octetUpper o) ++ l) =
      os.flatMap (fun o => '%' :: Hex.octetUpper o) ++ dotted l := by
  induction os with
  | nil => rfl
  | cons o os ih =>
    obtain ⟨ho, hos⟩ := List.forall_mem_cons.1 h
    have hlt := o.toNat_lt
    obtain ⟨hx, -, -, h2, -⟩ := upper_ne (n := o.toNat / 16) (by omega)
    obtain ⟨hy, -, he, -, hE⟩ := upper_ne (n := o.toNat % 16) (by omega)
    have hdot : Hex.upper (o.toNat / 16) = '2' → Hex.upper (o.toNat % 16) ≠ 'E' := by
      intro hhigh hlow
      have := h2 hhigh
      have := hE hlow
      omega
    simp only [List.flatMap_cons, Hex.octetUpper, List.cons_append, List.nil_append] at ih ⊢
    rw [dotted_escape hx hy he hdot, ih hos]

theorem dotted_encodeChar {c : Char} (h : Percent.isPlain isReserved c = false)
    (l : List Char) :
    dotted (Percent.encodeChar isReserved c ++ l) =
      Percent.encodeChar isReserved c ++ dotted l := by
  rw [Percent.encodeChar_of_not_plain h]
  refine dotted_flatMap_escape (fun o ho hdot => ?_) l
  have hc := Percent.toNat_of_mem_utf8EncodeChar ho (by omega)
  have hdot : c = '.' := Char.toNat_inj.1 (by rw [hc, hdot]; rfl)
  subst hdot
  exact absurd h (by decide)

/-- No dot is encoded, so it makes no difference whether one is looked for before or after. -/
theorem dotted_encode (l : List Char) :
    dotted (Percent.encode isReserved l) = Percent.encode isReserved (dotted l) := by
  have hmark : Percent.isPlain isReserved '%' = true := by decide
  have htwo : Percent.isPlain isReserved '2' = true := by decide
  fun_induction dotted l with
  | case1 e rest he ih =>
    have hplain : Percent.isPlain isReserved e = true := by
      simp only [Bool.or_eq_true, decide_eq_true_eq] at he
      rcases he with rfl | rfl <;> decide
    rw [Percent.encode_cons_of_plain hmark, Percent.encode_cons_of_plain htwo,
      Percent.encode_cons_of_plain hplain, dotted, if_pos he, ih]
    exact (Percent.encode_cons_of_plain (by decide) _).symm
  | case2 e rest he ih =>
    rw [Percent.encode_cons_of_plain hmark, Percent.encode_cons_of_plain htwo,
      Percent.encode_cons_of_plain hmark, Percent.encode_cons_of_plain htwo, ← ih]
    rcases Percent.encode_head isReserved e rest with ⟨-, hhead⟩ | ⟨-, tail, hhead⟩
    · rw [hhead, dotted, if_neg he]
    · rw [hhead, dotted]
      rfl
  | case3 c rest hc ih =>
    cases hp : Percent.isPlain isReserved c with
    | false => rw [Percent.encode_cons, dotted_encodeChar hp, ih, Percent.encode_cons]
    | true =>
      rw [Percent.encode_cons_of_plain hp, Percent.encode_cons_of_plain hp, ← ih]
      by_cases hm : c = '%'
      · subst hm
        refine dotted_mark fun e tail heq => ?_
        obtain ⟨rest', rfl, hrest'⟩ := Percent.eq_cons_of_encode_eq_cons heq (by decide)
        cases rest' with
        | nil => cases hrest'
        | cons d rest' => exact hc d rest' rfl rfl
      · exact dotted_cons_of_ne hm _
  | case4 => rfl

theorem eq_of_dotted_encode {l dots : List Char} (h : '%' ∉ dots)
    (he : dotted (Percent.encode isReserved l) = dots) : dotted l = dots := by
  rw [dotted_encode] at he
  rw [← he, Percent.encode_of_percent_not_mem (he ▸ h)]

/-! ## Written segments -/

/-- A segment as it is written. -/
structure Written (s : String) : Prop where
  plain : ∀ c ∈ s.toList, Percent.isPlain isReserved c = true
  slashless : '/' ∉ s.toList
  notSingle : isSingleDot s.toList = false
  notDouble : isDoubleDot s.toList = false

/-- A written segment that is not empty. -/
structure Named (s : String) : Prop extends Written s where
  nonEmpty : s ≠ ""

variable {s : String} {piece : List Char} {file : Bool} {done list : List String}

theorem written_empty : Written "" := ⟨by simp, by simp, by decide, by decide⟩

theorem Written.encode_eq (h : Written s) : Percent.encode isReserved s.toList = s.toList :=
  Percent.encode_of_plain h.plain

theorem isPlain_upper {n : Nat} (h : n < 16) :
    Percent.isPlain isReserved (Hex.upper n) = true := by
  revert n
  decide

theorem plain_of_mem_encode {c : Char} (h : c ∈ Percent.encode isReserved piece) :
    Percent.isPlain isReserved c = true := by
  rcases Percent.mem_encode h with ⟨-, hc⟩ | rfl | ⟨n, hn, rfl⟩
  · exact hc
  · decide
  · exact isPlain_upper hn

theorem slash_not_mem_encode (h : '/' ∉ piece) : '/' ∉ Percent.encode isReserved piece := by
  intro hm
  rcases Percent.mem_encode hm with ⟨hm, -⟩ | hm | ⟨n, hn, hm⟩
  · exact h hm
  · cases hm
  · exact (upper_ne hn).2.1 hm.symm

/-- A piece between slashes that is no dot segment is none when it is encoded. -/
theorem written_encode (hslash : '/' ∉ piece) (hsingle : isSingleDot piece = false)
    (hdouble : isDoubleDot piece = false) :
    Written (String.ofList (Percent.encode isReserved piece)) := by
  rw [← Bool.not_eq_true, isSingleDot_iff] at hsingle
  rw [← Bool.not_eq_true, isDoubleDot_iff] at hdouble
  constructor
  case plain =>
    rw [String.toList_ofList]
    exact fun c => plain_of_mem_encode
  case slashless =>
    rw [String.toList_ofList]
    exact slash_not_mem_encode hslash
  case notSingle =>
    rw [String.toList_ofList, ← Bool.not_eq_true, isSingleDot_iff]
    exact fun h => hsingle (eq_of_dotted_encode (by decide) h)
  case notDouble =>
    rw [String.toList_ofList, ← Bool.not_eq_true, isDoubleDot_iff]
    exact fun h => hdouble (eq_of_dotted_encode (by decide) h)

theorem isDriveLetter_eq_cons {l : List Char} (h : isDriveLetter l = true) :
    ∃ c d, l = [c, d] ∧ c.isAlpha = true := by
  unfold isDriveLetter at h
  split at h
  · next c d => exact ⟨c, d, rfl, (Bool.and_eq_true_iff.1 h).1⟩
  · cases h

/-- A drive letter with a colon is a written segment. -/
theorem written_drive {c : Char} (h : c.isAlpha = true)
    (hplain : Percent.isPlain isReserved c = true) : Written (String.ofList [c, ':']) := by
  have hne : ∀ d : Char, d.isAlpha = false → c ≠ d := by
    rintro d hd rfl
    rw [hd] at h
    cases h
  have hdotted : dotted [c, ':'] = [c, ':'] := by
    rw [dotted_cons_of_ne (hne '%' rfl), dotted_cons_of_ne (by decide)]
    rfl
  constructor
  case plain =>
    rw [String.toList_ofList]
    exact List.forall_mem_cons.2 ⟨hplain, List.forall_mem_singleton.2 (by decide)⟩
  case slashless => simp [Ne.symm (hne '/' rfl)]
  case notSingle => simp [isSingleDot, hdotted]
  case notDouble => simp [isDoubleDot, hdotted]

theorem written_segment (hslash : '/' ∉ piece) (hsingle : isSingleDot piece = false)
    (hdouble : isDoubleDot piece = false) : Written (segment file done piece) := by
  unfold segment
  dsimp only
  split
  · next hdrive =>
    simp only [Bool.and_eq_true] at hdrive
    obtain ⟨c, d, he, hc⟩ := isDriveLetter_eq_cons hdrive.2
    rw [he]
    exact written_drive hc (plain_of_mem_encode (he ▸ List.mem_cons_self))
  · exact written_encode hslash hsingle hdouble

/-- A written segment is written as it is, unless it may be a drive. -/
theorem Written.segment_eq (h : Written s) (hdone : file = false ∨ done ≠ []) :
    segment file done s.toList = s := by
  have hdrive : (file && done.isEmpty) = false := by
    rcases hdone with rfl | hdone
    · rfl
    · simp [hdone]
  rw [segment, h.encode_eq, hdrive, Bool.false_and]
  exact String.ofList_toList

theorem Named.segment (h : Named s) : Named (segment file done s.toList) := by
  refine ⟨written_segment h.slashless h.notSingle h.notDouble, ?_⟩
  unfold Path.segment
  rw [h.encode_eq]
  dsimp only
  split
  · intro he
    cases String.ofList_inj.1 he
  · rw [String.ofList_toList]
    exact h.nonEmpty

/-! ## Resolved paths -/

theorem mem_of_mem_pop (h : s ∈ pop done) : s ∈ done := by
  unfold pop at h
  split at h
  · exact h
  · exact (List.dropLast_sublist done).subset h

theorem written_concat (hdone : ∀ s ∈ done, Written s) (h : Written s) :
    ∀ t ∈ done ++ [s], Written t :=
  List.forall_mem_append.2 ⟨hdone, List.forall_mem_singleton.2 h⟩

/-- Resolving pieces leaves written segments. -/
theorem written_resolve {pieces : List (List Char)} (hdone : ∀ s ∈ done, Written s)
    (h : ∀ piece ∈ pieces, '/' ∉ piece) : ∀ s ∈ resolve file done pieces, Written s := by
  have hpop : ∀ {done : List String}, (∀ s ∈ done, Written s) → ∀ s ∈ pop done, Written s :=
    fun hdone s hs => hdone s (mem_of_mem_pop hs)
  fun_induction resolve file done pieces with
  | case1 done => exact hdone
  | case2 done last hdouble => exact written_concat (hpop hdone) written_empty
  | case3 done last hdouble hsingle => exact written_concat hdone written_empty
  | case4 done last hdouble hsingle =>
    rw [Bool.not_eq_true] at hdouble hsingle
    exact written_concat hdone (written_segment (h _ List.mem_cons_self) hsingle hdouble)
  | case5 done piece rest hlast hdouble ih =>
    exact ih (hpop hdone) (List.forall_mem_cons.1 h).2
  | case6 done piece rest hlast hdouble hsingle ih =>
    exact ih hdone (List.forall_mem_cons.1 h).2
  | case7 done piece rest hlast hdouble hsingle ih =>
    rw [Bool.not_eq_true] at hdouble hsingle
    obtain ⟨hpiece, hrest⟩ := List.forall_mem_cons.1 h
    exact ih (written_concat hdone (written_segment hpiece hsingle hdouble)) hrest

theorem Written.resolve_cons (h : Written s) (pieces : List (List Char)) :
    resolve file done (s.toList :: pieces) =
      resolve file (done ++ [segment file done s.toList]) pieces := by
  have hdouble : ¬ isDoubleDot s.toList = true := by simp [h.notDouble]
  have hsingle : ¬ isSingleDot s.toList = true := by simp [h.notSingle]
  cases pieces with
  | nil => simp only [resolve, if_neg hdouble, if_neg hsingle]
  | cons piece pieces => simp only [resolve, if_neg hdouble, if_neg hsingle]

/-- Written segments resolve to themselves behind others, and everywhere but in a `file` path. -/
theorem resolve_of_written (h : ∀ s ∈ list, Written s) (hdone : file = false ∨ done ≠ []) :
    resolve file done (list.map String.toList) = done ++ list := by
  induction list generalizing done with
  | nil => rw [List.map_nil, resolve, List.append_nil]
  | cons s list ih =>
    obtain ⟨hs, hlist⟩ := List.forall_mem_cons.1 h
    rw [List.map_cons, hs.resolve_cons, hs.segment_eq hdone, ih hlist (.inr (by simp)),
      List.append_assoc]
    rfl

/-- In front only the first of them may change. -/
theorem resolve_cons_of_written (h : ∀ t ∈ s :: list, Written t) :
    resolve file [] ((s :: list).map String.toList) = segment file [] s.toList :: list := by
  obtain ⟨hs, hlist⟩ := List.forall_mem_cons.1 h
  rw [List.map_cons, hs.resolve_cons, resolve_of_written hlist (.inr (by simp))]
  rfl

/-! ## The text of a path -/

/-- Each segment follows a slash. -/
theorem toList_toText (list : List String) :
    (segments list).toText.toList = (list.map String.toList).flatMap ('/' :: ·) := by
  show ("".intercalate (list.map ("/" ++ ·))).toList = _
  rw [String.toList_intercalate]
  simp only [List.intercalate, String.toList_empty, List.map_map]
  induction list with
  | nil => rfl
  | cons s list ih =>
    cases list with
    | nil => simp
    | cons t list =>
      simp only [List.map_cons, List.intersperse_cons_cons, List.flatten_cons, List.nil_append,
        List.flatMap_cons] at ih ⊢
      rw [ih, Function.comp_apply, String.toList_append]
      rfl

theorem split_toText (h : ∀ s ∈ list, Written s) :
    Text.split '/' (segments list).toText = "" :: list := by
  have hmap : ∀ field ∈ list.map String.toList, '/' ∉ field :=
    List.forall_mem_map.2 fun s hs => (h s hs).slashless
  have hfields : fields '/' ([] ++ (list.map String.toList).flatMap ('/' :: ·)) =
      [] :: list.map String.toList := fields_flatMap List.not_mem_nil hmap
  rw [List.nil_append] at hfields
  rw [Text.split, toList_toText, hfields]
  simp

theorem Named.exists_cons (h : Named s) : ∃ c rest, s.toList = c :: rest ∧ ¬ c = '/' := by
  obtain ⟨c, rest, hs⟩ := List.exists_cons_of_ne_nil (mt String.toList_eq_nil_iff.1 h.nonEmpty)
  refine ⟨c, rest, hs, ?_⟩
  rintro rfl
  exact h.slashless (by simp [hs])

/-- A path ends in no slash if its last segment is not empty. -/
theorem getLast?_toText (h : ∀ s ∈ list, Named s) :
    ∀ c ∈ (segments list).toText.toList.getLast?, c ≠ '/' := by
  rcases List.eq_nil_or_concat list with rfl | ⟨front, last, rfl⟩
  · simp [toList_toText]
  · have hnamed := h last (by simp)
    obtain ⟨c, rest, hlast, -⟩ := hnamed.exists_cons
    have htext : (segments (front.concat last)).toText.toList =
        (front.map String.toList).flatMap ('/' :: ·) ++ '/' :: c :: rest := by
      simp [toList_toText, hlast]
    rw [htext, List.getLast?_append, List.getLast?_cons_cons,
      List.getLast?_eq_some_getLast (List.cons_ne_nil c rest), Option.some_or]
    rintro d hd rfl
    refine hnamed.slashless ?_
    rw [hlast, ← Option.some.inj hd]
    exact List.getLast_mem _

/-- Without the slashes at its ends a path is the text of its segments, whether or not a slash
stands behind them. -/
theorem split_trim_toText {tail : List String} (h : ∀ s ∈ list, Named s) (hne : list ≠ [])
    (htail : tail = [] ∨ tail = [""]) :
    Text.split '/' (Text.trimWhile (· = '/') (segments (list ++ tail)).toText) = list := by
  have hend := getLast?_toText h
  obtain ⟨first, rest, rfl⟩ := List.exists_cons_of_ne_nil hne
  obtain ⟨hnamed, hrest⟩ := List.forall_mem_cons.1 h
  have hmap : ∀ field ∈ rest.map String.toList, '/' ∉ field :=
    List.forall_mem_map.2 fun s hs => (hrest s hs).slashless
  obtain ⟨c, front, hfirst, hc⟩ := hnamed.exists_cons
  have htext : (segments (first :: rest)).toText.toList =
      '/' :: c :: (front ++ (rest.map String.toList).flatMap ('/' :: ·)) := by
    simp [toList_toText, hfirst]
  obtain ⟨behind, hbehind, hall⟩ : ∃ behind, (∀ d ∈ behind, d = '/') ∧
      (segments (first :: rest ++ tail)).toText.toList =
        (segments (first :: rest)).toText.toList ++ behind := by
    rcases htail with rfl | rfl
    · exact ⟨[], by simp, by simp⟩
    · exact ⟨['/'], by simp, by simp [toList_toText]⟩
  rw [htext, List.getLast?_cons_cons] at hend
  rw [Text.split, Text.trimWhile, Text.trimEndWhile, Text.trimStartWhile, String.toList_ofList,
    String.toList_ofList, hall, htext, List.cons_append, List.dropWhile_cons_of_pos (by simp),
    List.cons_append, List.dropWhile_cons_of_neg (by simpa using hc), ← List.cons_append,
    dropEndWhile_append (by simpa using hbehind) (by simpa using hend), ← List.cons_append,
    ← hfirst, fields_flatMap hnamed.slashless hmap]
  simp

/-- In a path without two slashes in a row only the last segment may be empty. -/
theorem exists_tail_of_single_slashes (h : ¬ ['/', '/'] <:+: (segments list).toText.toList) :
    ∃ tail, (tail = [] ∨ tail = [""]) ∧ list = list.filter (· ≠ "") ++ tail := by
  rw [toList_toText] at h
  induction list with
  | nil => exact ⟨[], .inl rfl, rfl⟩
  | cons s list ih =>
    rw [List.map_cons, List.flatMap_cons] at h
    obtain ⟨tail, htail, hlist⟩ := ih fun hin => h (hin.trans (List.suffix_append _ _).isInfix)
    by_cases hs : s = ""
    · cases list with
      | nil => exact ⟨[""], .inr rfl, by simp [hs]⟩
      | cons t list =>
        refine absurd ?_ h
        rw [hs, List.map_cons, List.flatMap_cons]
        exact (List.prefix_append ['/', '/'] _).isInfix
    · refine ⟨tail, htail, ?_⟩
      rw [List.filter_cons_of_pos (by simpa using hs), List.cons_append, ← hlist]

end BootServer.Url.Path
