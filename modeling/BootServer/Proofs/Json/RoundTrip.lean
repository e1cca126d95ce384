import BootServer.Json.Parser
import BootServer.Proofs.Text.Digits

/-! JSON read back. What is written of a value is read as that value, whatever follows it, as long
as nothing that follows could belong to a number. Only integers of 64 bits are written so that a
reader has them exactly, so values with other numbers are left out. -/
namespace BootServer.Json

/-- Values that a text stands for exactly, with collections nested so many levels deep. -/
inductive Exact : Nat → Json → Prop where
  | null {d : Nat} : Exact d .null
  | bool {d : Nat} (b : Bool) : Exact d (.bool b)
  | int {d : Nat} {i : Int} (hmin : -9223372036854775808 ≤ i) (hmax : i ≤ Text.Decimal.max64) :
    Exact d (.int i)
  | text {d : Nat} (s : String) : Exact d (.text s)
  | list {d : Nat} {items : List Json} (h : ∀ v ∈ items, Exact d v) : Exact (d + 1) (.list items)
  | object {d : Nat} {members : List (String × Json)} (h : ∀ m ∈ members, Exact d m.2) :
    Exact (d + 1) (.object members)

variable {c : Char} {l rest done : List Char} {s : String} {v : Json} {i : Int} {d n fuel : Nat}

/-! ## Texts -/

theorem hex4?_control (h : n < 0x20) :
    hex4? '0' '0' (Text.Hex.lower (n / 16)) (Text.Hex.lower (n % 16)) = some n := by
  have hzero : Text.Hex.value? '0' = some 0 := rfl
  simp only [hex4?, hzero, Text.Hex.value?_lower (n := n / 16) (by omega),
    Text.Hex.value?_lower (n := n % 16) (by omega), Option.bind_eq_bind, Option.bind_some,
    Option.pure_def, Option.some.injEq]
  omega

theorem quotedRest_escapeChar (done : List Char) (c : Char) (rest : List Char) :
    quotedRest done (escapeChar c ++ rest) = quotedRest (c :: done) rest := by
  unfold escapeChar
  split
  · rfl
  · rfl
  · rfl
  · rfl
  · rfl
  · rfl
  · rfl
  · split
    · next hlow =>
      -- a control character without a letter of its own
      have hoctet : (UInt8.ofNat c.toNat).toNat = c.toNat := UInt8.toNat_ofNat_of_lt' (by
        show c.toNat < 256
        omega)
      have hsmall : (c.toNat < 0xD800 || 0xE000 ≤ c.toNat) = true := by
        rw [decide_eq_true (show c.toNat < 0xD800 by omega), Bool.true_or]
      simp only [Text.Hex.octetLower, hoctet, List.cons_append, List.nil_append]
      rw [quotedRest, hex4?_control hlow, Option.bind_eq_bind, Option.bind_some, if_pos hsmall,
        Char.ofNat_toNat]
    · next hquote hslash _ _ _ _ _ hhigh =>
      rw [List.singleton_append, quotedRest]
      · rw [if_neg hhigh]
      · exact hquote
      · exact fun _ _ _ _ _ hc => absurd hc hslash
      · exact fun _ _ hc => absurd hc hslash

/-- A quoted text is read up to its own closing quote. -/
theorem quotedRest_flatMap (l done rest : List Char) :
    quotedRest done (l.flatMap escapeChar ++ '"' :: rest) =
      some (String.ofList (done.reverse ++ l), rest) := by
  induction l generalizing done with
  | nil => simp [quotedRest]
  | cons c l ih =>
    rw [List.flatMap_cons, List.append_assoc, quotedRest_escapeChar, ih]
    simp

theorem toList_quoted (s : String) :
    (quoted s).toList = '"' :: (s.toList.flatMap escapeChar ++ ['"']) := by
  simp [quoted]

/-! ## Numbers -/

theorem plainDigits_toDigits (n : Nat) : plainDigits (Nat.toDigits 10 n) = true := by
  obtain ⟨⟨hne, hdigit, -⟩, hzero⟩ := Text.Decimal.isCanonical_toDigits n
  have hhead : ((Nat.toDigits 10 n).head? != some '0' || (Nat.toDigits 10 n).length = 1) = true := by
    by_cases h : (Nat.toDigits 10 n).head? = some '0'
    · rw [hzero h]
      rfl
    · rw [bne_iff_ne.2 h, Bool.true_or]
  rw [plainDigits, hhead, Bool.and_true, List.all_eq_true.2 hdigit, Bool.and_true]
  simp

theorem takeWhile_toDigits (n : Nat) :
    (Nat.toDigits 10 n).takeWhile Char.isDigit = Nat.toDigits 10 n := by
  have h : (Nat.toDigits 10 n ++ []).takeWhile Char.isDigit = _ :=
    List.takeWhile_append_of_pos (Text.Decimal.isDigits_toDigits n).isDigit
  simpa using h

theorem dropWhile_toDigits (n : Nat) : (Nat.toDigits 10 n).dropWhile Char.isDigit = [] := by
  have h : (Nat.toDigits 10 n ++ []).dropWhile Char.isDigit = _ :=
    List.dropWhile_append_of_pos (Text.Decimal.isDigits_toDigits n).isDigit
  simpa using h

theorem number?_toDigits (h : n ≤ Text.Decimal.max64) :
    number? (Nat.toDigits 10 n) = some (.int n) := by
  obtain ⟨hne, hdigit, -⟩ := Text.Decimal.isDigits_toDigits n
  have hsign : ((Nat.toDigits 10 n).head? == some '-') = false := by
    refine beq_eq_false_iff_ne.2 fun hminus => ?_
    have hc := hdigit '-' (List.mem_of_mem_head? hminus)
    cases hc
  have hfits : ¬ ((n : Int) < -9223372036854775808 ∨ (n : Int) > Text.Decimal.max64) := by omega
  simp only [number?, hsign, takeWhile_toDigits, dropWhile_toDigits, plainDigits_toDigits,
    Text.Decimal.value?_toDigits, List.isEmpty_nil, Bool.not_true, Bool.false_eq_true, if_false,
    if_true, Option.bind_eq_bind, Option.bind_some, Bool.false_and, Bool.false_or, Bool.or_eq_true,
    decide_eq_true_eq]
  rw [if_neg hfits]

theorem number?_minus (h : n < 9223372036854775808) :
    number? ('-' :: Nat.toDigits 10 (n + 1)) = some (.int (.negSucc n)) := by
  have hfits : ¬ (((n + 1 = 0) ∨ (-((n + 1 : Nat) : Int)) < -9223372036854775808) ∨
      -((n + 1 : Nat) : Int) > Text.Decimal.max64) := by omega
  have hint : -((n + 1 : Nat) : Int) = .negSucc n := rfl
  simp only [number?, List.head?_cons, BEq.rfl, if_true, List.drop_succ_cons, List.drop_zero,
    takeWhile_toDigits, dropWhile_toDigits, plainDigits_toDigits, Text.Decimal.value?_toDigits,
    List.isEmpty_nil, Bool.not_true, Bool.false_eq_true, if_false, Option.bind_eq_bind,
    Option.bind_some, Bool.true_and, Bool.or_eq_true, decide_eq_true_eq]
  rw [if_neg hfits, hint]

theorem toList_negSucc (n : Nat) :
    (intText (.negSucc n)).toList = '-' :: Nat.toDigits 10 (n + 1) := by
  simp [intText, Text.Decimal.text]

/-- An integer is read as itself. -/
theorem number?_intText (hmin : -9223372036854775808 ≤ i) (hmax : i ≤ Text.Decimal.max64) :
    number? (intText i).toList = some (.int i) := by
  cases i with
  | ofNat n =>
    rw [intText, Text.Decimal.text, String.toList_ofList]
    exact number?_toDigits (Int.ofNat_le.1 (Int.ofNat_eq_natCast n ▸ hmax))
  | negSucc n =>
    have hfits : n < 9223372036854775808 := by omega
    rw [toList_negSucc]
    exact number?_minus hfits

/-- Integers are written with characters of numbers. -/
theorem isNumberChar_of_mem_intText (h : c ∈ (intText i).toList) : isNumberChar c = true := by
  have hdigits : ∀ n, c ∈ (Text.Decimal.text n).toList → isNumberChar c = true := fun n hn => by
    simp only [isNumberChar, Text.Decimal.isDigit_of_mem_text hn, Bool.true_or]
  cases i with
  | ofNat n => exact hdigits n h
  | negSucc n =>
    rw [intText, String.toList_append] at h
    rcases List.mem_append.1 h with h | h
    · rw [List.mem_singleton.1 h]
      rfl
    · exact hdigits _ h

/-! ## Values -/

/-- Nothing comes first that could still belong to a number. -/
def Ends (rest : List Char) : Prop := ∀ c ∈ rest.head?, isNumberChar c = false

/-- Something comes first that begins a value. -/
def Opens (l : List Char) : Prop := ∃ c ∈ l.head?, isSpace c = false ∧ c ≠ ']'

/-- Whatever ends a value follows it, the value is read and the rest is left. -/
def Reads (v : Json) : Prop :=
  ∀ fuel rest, (render v).toList.length < fuel → Ends rest →
    value fuel ((render v).toList ++ rest) = some (v, rest)

theorem Ends.nil : Ends [] := by
  intro c hc
  cases hc

theorem Ends.cons (h : isNumberChar c = false) (rest : List Char) : Ends (c :: rest) := by
  intro c' hc
  cases hc
  exact h

theorem Ends.takeWhile (h : Ends rest) : rest.takeWhile isNumberChar = [] := by
  cases rest with
  | nil => rfl
  | cons c rest => simp [h c rfl]

theorem Ends.dropWhile (h : Ends rest) : rest.dropWhile isNumberChar = rest := by
  cases rest with
  | nil => rfl
  | cons c rest => simp [h c rfl]

theorem Opens.append (h : Opens l) (rest : List Char) : Opens (l ++ rest) := by
  obtain ⟨c, hc, hopens⟩ := h
  refine ⟨c, ?_, hopens⟩
  rw [List.head?_append, hc]
  rfl

/-- A character of a number is none of those that mean something else. -/
theorem opens_of_isNumberChar (h : isNumberChar c = true) (l : List Char) : Opens (c :: l) := by
  refine ⟨c, rfl, ?_, ?_⟩
  · rw [← Bool.not_eq_true]
    intro hspace
    simp only [isSpace, Bool.or_eq_true, decide_eq_true_eq] at hspace
    rcases hspace with ((rfl | rfl) | rfl) | rfl <;> cases h
  · rintro rfl
    cases h

theorem intText_ne_nil (i : Int) : (intText i).toList ≠ [] := by
  cases i with
  | ofNat n =>
    rw [intText, Text.Decimal.text, String.toList_ofList]
    exact Nat.toDigits_ne_nil
  | negSucc n =>
    rw [toList_negSucc]
    exact List.cons_ne_nil _ _

theorem exists_intText (i : Int) : ∃ c l, (intText i).toList = c :: l ∧ isNumberChar c = true := by
  obtain ⟨c, l, htext⟩ := List.exists_cons_of_ne_nil (intText_ne_nil i)
  exact ⟨c, l, htext, isNumberChar_of_mem_intText (htext ▸ List.mem_cons_self)⟩

theorem opens_render (h : Exact d v) : Opens (render v).toList := by
  cases h with
  | null => exact ⟨'n', rfl, rfl, by decide⟩
  | bool b =>
    cases b with
    | true => exact ⟨'t', rfl, rfl, by decide⟩
    | false => exact ⟨'f', rfl, rfl, by decide⟩
  | @int _ i =>
    obtain ⟨c, l, htext, hc⟩ := exists_intText i
    rw [render, htext]
    exact opens_of_isNumberChar hc l
  | text s => exact ⟨'"', by rw [render, toList_quoted]; rfl, rfl, by decide⟩
  | list => exact ⟨'[', by simp [render], rfl, by decide⟩
  | object => exact ⟨'\x7b', by simp [render], rfl, by decide⟩

theorem skip_of_opens (h : Opens l) : skip l = l := by
  obtain ⟨c, hc, hspace, -⟩ := h
  cases l with
  | nil => rfl
  | cons c' l =>
    cases hc
    rw [skip, List.dropWhile_cons_of_neg]
    rw [hspace]
    exact Bool.false_ne_true

theorem value_number (hc : isNumberChar c = true) (l : List Char) :
    value (fuel + 1) (c :: l) = (number? ((c :: l).takeWhile isNumberChar)).map fun v =>
      (v, (c :: l).dropWhile isNumberChar) := by
  rw [value, skip_of_opens (opens_of_isNumberChar hc l)]
  split
  case h_7 => rfl
  all_goals
    next h =>
      cases h
      cases hc

theorem value_list (h : Opens l) : value (fuel + 1) ('[' :: l) =
    (items fuel l).map fun (found, rest) => (.list found, rest) := by
  have hbracket : skip ('[' :: l) = '[' :: l := rfl
  have hskip := skip_of_opens h
  obtain ⟨c, hc, hspace, hclose⟩ := h
  rw [value, hbracket]
  split
  case h_5 rest hrest =>
    cases hrest
    rw [hskip]
    split
    · -- a bracket would close an empty list
      cases hc
      exact absurd rfl hclose
    · rfl
  case h_7 hlist _ => exact absurd rfl (hlist l)
  all_goals
    next h => cases h

theorem value_object (l : List Char) : value (fuel + 1) ('\x7b' :: '"' :: l) =
    (members fuel ('"' :: l)).map fun (found, rest) => (.object found, rest) := by
  rw [value]
  rfl

theorem reads_int (hmin : -9223372036854775808 ≤ i) (hmax : i ≤ Text.Decimal.max64) :
    Reads (.int i) := by
  intro fuel rest hfuel hrest
  obtain ⟨c, l, htext, hc⟩ := exists_intText i
  have hchars : ∀ c ∈ (intText i).toList, isNumberChar c = true := fun _ =>
    isNumberChar_of_mem_intText
  have htake : ((intText i).toList ++ rest).takeWhile isNumberChar = (intText i).toList := by
    rw [List.takeWhile_append_of_pos hchars, hrest.takeWhile, List.append_nil]
  have hdrop : ((intText i).toList ++ rest).dropWhile isNumberChar = rest := by
    rw [List.dropWhile_append_of_pos hchars, hrest.dropWhile]
  rw [render] at hfuel ⊢
  rw [htext] at htake hdrop hfuel ⊢
  obtain ⟨fuel, rfl⟩ := Nat.exists_eq_add_of_lt hfuel
  refine (value_number hc (l ++ rest)).trans ?_
  rw [← List.cons_append, htake, hdrop, ← htext, number?_intText hmin hmax]
  rfl

/-! ### Collections -/

theorem reads_text (s : String) : Reads (.text s) := by
  intro fuel rest hfuel hrest
  rw [render] at hfuel ⊢
  obtain ⟨fuel, rfl⟩ := Nat.exists_eq_add_of_lt hfuel
  have hread := quotedRest_flatMap s.toList [] rest
  rw [toList_quoted, List.cons_append, List.append_assoc, List.singleton_append, value]
  show (quotedRest [] _).map _ = _
  rw [hread]
  simp

theorem toList_joined (s t : String) (ss : List String) :
    (",".intercalate (s :: t :: ss)).toList = s.toList ++ ',' :: (",".intercalate (t :: ss)).toList := by
  rw [String.intercalate_cons_cons]
  simp

/-- Items are read one after the other, up to the bracket behind the last. -/
theorem items_render {vs : List Json} (h : ∀ w ∈ v :: vs, Reads w) (rest : List Char)
    (hfuel : (",".intercalate (renderItems (v :: vs))).toList.length < fuel) :
    items (fuel + 1) ((",".intercalate (renderItems (v :: vs))).toList ++ ']' :: rest) =
      some (v :: vs, rest) := by
  -- the fuel lasts, since each item takes one off it and at least a character off the text
  induction vs generalizing v fuel with
  | nil =>
    have hv := h v List.mem_cons_self
    rw [renderItems, renderItems, String.intercalate_singleton] at hfuel ⊢
    rw [items, hv fuel (']' :: rest) (by omega) (.cons rfl rest)]
    rfl
  | cons w ws ih =>
    have hv := h v List.mem_cons_self
    have hws : ∀ u ∈ w :: ws, Reads u := fun u hu => h u (List.mem_cons_of_mem v hu)
    rw [renderItems, renderItems, toList_joined, ← renderItems] at hfuel ⊢
    rw [List.length_append, List.length_cons] at hfuel
    obtain ⟨fuel, rfl⟩ := Nat.exists_eq_add_one_of_ne_zero (n := fuel) (by omega)
    rw [items, List.append_assoc, List.cons_append, hv _ _ (by omega) (.cons rfl _)]
    show Option.map _ (items _ _) = _
    rw [ih hws (by omega)]
    rfl

theorem opens_items (h : Opens (render v).toList) (vs : List Json) :
    Opens (",".intercalate (renderItems (v :: vs))).toList := by
  cases vs with
  | nil => exact h
  | cons w ws =>
    rw [renderItems, renderItems, toList_joined]
    exact h.append _

theorem toList_member (name : String) (v : Json) (rest : List Char) :
    (quoted name ++ ":" ++ render v).toList ++ rest =
      '"' :: (name.toList.flatMap escapeChar ++ '"' :: ':' :: ((render v).toList ++ rest)) := by
  rw [String.toList_append, String.toList_append, toList_quoted]
  simp

theorem length_member (name : String) (v : Json) :
    (render v).toList.length < (quoted name ++ ":" ++ render v).toList.length := by
  have hcolon : ":".toList.length = 1 := rfl
  rw [String.toList_append, String.toList_append, List.length_append, List.length_append, hcolon]
  omega

/-- The name of a member is read up to the colon, and then its value. -/
theorem members_succ {name : String} (h : value fuel ((render v).toList ++ rest) = some (v, rest)) :
    members (fuel + 1) ((quoted name ++ ":" ++ render v).toList ++ rest) =
      match skip rest with
      | ',' :: rest => (members fuel rest).map fun (found, rest) => ((name, v) :: found, rest)
      | '\x7d' :: rest => some ([(name, v)], rest)
      | _ => none := by
  rw [toList_member, members]
  show ((quotedRest [] _).bind _) = _
  rw [quotedRest_flatMap, Option.bind_some]
  show ((value fuel ((render v).toList ++ rest)).bind _) = _
  rw [h]
  simp only [List.reverse_nil, List.nil_append, String.ofList_toList]
  rfl

/-- Members are read one after the other, up to the brace behind the last. -/
theorem members_render {m : String × Json} {ms : List (String × Json)}
    (h : ∀ m' ∈ m :: ms, Reads m'.2) (rest : List Char)
    (hfuel : (",".intercalate (renderMembers (m :: ms))).toList.length < fuel) :
    members (fuel + 1) ((",".intercalate (renderMembers (m :: ms))).toList ++ '\x7d' :: rest) =
      some (m :: ms, rest) := by
  induction ms generalizing m fuel with
  | nil =>
    have hm := h m List.mem_cons_self
    rw [renderMembers, renderMembers, String.intercalate_singleton] at hfuel ⊢
    have hlength := length_member m.1 m.2
    rw [members_succ (hm fuel ('\x7d' :: rest) (by omega) (.cons rfl rest))]
    rfl
  | cons w ws ih =>
    obtain ⟨name, w⟩ := w
    have hm := h m List.mem_cons_self
    have hws : ∀ u ∈ (name, w) :: ws, Reads u.2 := fun u hu => h u (List.mem_cons_of_mem m hu)
    rw [renderMembers, renderMembers, toList_joined, ← renderMembers] at hfuel ⊢
    rw [List.length_append, List.length_cons] at hfuel
    have hlength := length_member m.1 m.2
    obtain ⟨fuel, rfl⟩ := Nat.exists_eq_add_one_of_ne_zero (n := fuel) (by omega)
    rw [List.append_assoc, List.cons_append, members_succ (hm _ _ (by omega) (.cons rfl _))]
    show Option.map _ (members _ _) = _
    rw [ih hws (by omega)]
    rfl

theorem exists_members (m : String × Json) (ms : List (String × Json)) :
    ∃ l, (",".intercalate (renderMembers (m :: ms))).toList = '"' :: l := by
  have hm := toList_member m.1 m.2
  cases ms with
  | nil => exact ⟨_, (List.append_nil _).symm.trans (hm [])⟩
  | cons m' ms =>
    rw [renderMembers, renderMembers, toList_joined]
    exact ⟨_, hm _⟩

theorem reads_list {vs : List Json} (hopens : ∀ w ∈ vs, Opens (render w).toList)
    (h : ∀ w ∈ vs, Reads w) : Reads (.list vs) := by
  intro fuel rest hfuel hrest
  obtain ⟨fuel, rfl⟩ := Nat.exists_eq_add_one_of_ne_zero (Nat.ne_zero_of_lt hfuel)
  cases vs with
  | nil => rfl
  | cons v vs =>
    have htext : (render (.list (v :: vs))).toList =
        '[' :: ((",".intercalate (renderItems (v :: vs))).toList ++ [']']) := by
      simp [render]
    rw [htext, List.length_cons, List.length_append, List.length_singleton] at hfuel
    rw [htext, List.cons_append, List.append_assoc, List.singleton_append,
      value_list ((opens_items (hopens v List.mem_cons_self) vs).append _)]
    obtain ⟨fuel, rfl⟩ := Nat.exists_eq_add_one_of_ne_zero (n := fuel) (by omega)
    rw [items_render h rest (by omega)]
    rfl

theorem reads_object {ms : List (String × Json)} (h : ∀ m ∈ ms, Reads m.2) :
    Reads (.object ms) := by
  intro fuel rest hfuel hrest
  obtain ⟨fuel, rfl⟩ := Nat.exists_eq_add_one_of_ne_zero (Nat.ne_zero_of_lt hfuel)
  cases ms with
  | nil => rfl
  | cons m ms =>
    have htext : (render (.object (m :: ms))).toList =
        '\x7b' :: ((",".intercalate (renderMembers (m :: ms))).toList ++ ['\x7d']) := by
      simp [render]
    obtain ⟨l, hl⟩ := exists_members m ms
    rw [htext, List.length_cons, List.length_append, List.length_singleton] at hfuel
    obtain ⟨fuel, rfl⟩ := Nat.exists_eq_add_one_of_ne_zero (n := fuel) (by omega)
    have hread : members (fuel + 1) (_ ++ '\x7d' :: rest) = some (m :: ms, rest) :=
      members_render h rest (by omega)
    rw [htext, List.cons_append, List.append_assoc, List.singleton_append]
    rw [hl, List.cons_append] at hread ⊢
    rw [value_object, hread]
    rfl

/-- Values are read back. -/
theorem reads_of_exact (h : Exact d v) : Reads v := by
  induction h with
  | null =>
    intro fuel rest hfuel hrest
    obtain ⟨fuel, rfl⟩ := Nat.exists_eq_add_one_of_ne_zero (Nat.ne_zero_of_lt hfuel)
    rfl
  | bool b =>
    intro fuel rest hfuel hrest
    obtain ⟨fuel, rfl⟩ := Nat.exists_eq_add_one_of_ne_zero (Nat.ne_zero_of_lt hfuel)
    cases b with
    | true => rfl
    | false => rfl
  | int hmin hmax => exact reads_int hmin hmax
  | text s => exact reads_text s
  | list h ih => exact reads_list (fun w hw => opens_render (h w hw)) ih
  | object h ih => exact reads_object ih

/-- What is written of a value is a text of that value alone. -/
theorem parse?_render (h : Exact d v) : parse? (render v) = some v := by
  have hread := reads_of_exact h ((render v).toList.length + 1) [] (Nat.lt_succ_self _) .nil
  rw [List.append_nil] at hread
  rw [parse?, hread]
  rfl

end BootServer.Json
