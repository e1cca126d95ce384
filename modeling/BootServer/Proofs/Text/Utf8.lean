import BootServer.Proofs.Octets
import BootServer.Proofs.Text.Percent
import BootServer.Text.Utf8

/-! Reading UTF-8. The octets of a text are read as that text, and no others are read strictly. There
is nothing malformed in them, so lenient reading gives the same. -/
namespace BootServer.Text.Utf8

variable {b c d e : UInt8} {bs rest : Octets} {ch : Char}

/-! ## One character -/

theorem isContinuation_iff : isContinuation b = true ↔ 0x80 ≤ b.toNat ∧ b.toNat ≤ 0xBF := by
  simp [isContinuation, UInt8.le_iff_toNat_le]

/-- The octets that may stand second are continuations; after four of the lead octets not all of
them, so that no form is longer than it needs to be and none stands for what is no character. -/
theorem isSecond_iff : isSecond b c = true ↔
    0x80 ≤ c.toNat ∧ c.toNat ≤ 0xBF ∧ (b.toNat = 0xE0 → 0xA0 ≤ c.toNat) ∧
      (b.toNat = 0xED → c.toNat ≤ 0x9F) ∧ (b.toNat = 0xF0 → 0x90 ≤ c.toNat) ∧
      (b.toNat = 0xF4 → c.toNat ≤ 0x8F) := by
  unfold isSecond secondRange
  simp only [← UInt8.toNat_inj]
  repeat' split
  all_goals
    simp only [Bool.and_eq_true, decide_eq_true_eq, UInt8.le_iff_toNat_le, UInt8.reduceToNat] at *
    omega

theorem toNat_ofNat {n : Nat} (h : n.isValidChar) : (Char.ofNat n).val.toNat = n := by
  rw [Char.ofNat, dif_pos h]
  rfl

theorem ofNat_eq {n : Nat} (h : n = b.toNat) : UInt8.ofNat n = b := by
  rw [h, UInt8.ofNat_toNat]

/-- A lead octet below the continuations stands alone. -/
theorem encodeChar_one (hb : b.toNat < 0x80) :
    String.utf8EncodeChar (Char.ofNat b.toNat) = [b] := by
  have hn := toNat_ofNat (n := b.toNat) (Or.inl (by omega))
  simp only [String.utf8EncodeChar, hn]
  rw [if_pos (by omega), UInt8.ofNat_toNat]

theorem encodeChar_two (hb : 0xC2 ≤ b.toNat) (hb' : b.toNat < 0xE0)
    (hc : isContinuation c = true) :
    String.utf8EncodeChar (Char.ofNat (b.toNat % 32 * 64 + low c)) = [b, c] := by
  rw [isContinuation_iff] at hc
  unfold low
  have hn := toNat_ofNat (n := b.toNat % 32 * 64 + c.toNat % 64) (Or.inl (by omega))
  simp only [String.utf8EncodeChar, hn]
  rw [if_neg (by omega), if_pos (by omega), ofNat_eq (b := b) (by omega),
    ofNat_eq (b := c) (by omega)]

theorem encodeChar_three (hb : 0xE0 ≤ b.toNat) (hb' : b.toNat < 0xF0)
    (hc : isSecond b c = true) (hd : isContinuation d = true) :
    String.utf8EncodeChar (Char.ofNat (b.toNat % 16 * 4096 + low c * 64 + low d)) = [b, c, d] := by
  rw [isSecond_iff] at hc
  rw [isContinuation_iff] at hd
  unfold low
  have hvalid : (b.toNat % 16 * 4096 + c.toNat % 64 * 64 + d.toNat % 64).isValidChar := by
    unfold Nat.isValidChar
    omega
  simp only [String.utf8EncodeChar, toNat_ofNat hvalid]
  rw [if_neg (by omega), if_neg (by omega), if_pos (by omega), ofNat_eq (b := b) (by omega),
    ofNat_eq (b := c) (by omega), ofNat_eq (b := d) (by omega)]

theorem encodeChar_four (hb : 0xF0 ≤ b.toNat) (hb' : b.toNat < 0xF5)
    (hc : isSecond b c = true) (hd : isContinuation d = true) (he : isContinuation e = true) :
    String.utf8EncodeChar
      (Char.ofNat (b.toNat % 8 * 262144 + low c * 4096 + low d * 64 + low e)) = [b, c, d, e] := by
  rw [isSecond_iff] at hc
  rw [isContinuation_iff] at hd he
  unfold low
  have hvalid : (b.toNat % 8 * 262144 + c.toNat % 64 * 4096 + d.toNat % 64 * 64
      + e.toNat % 64).isValidChar := by
    unfold Nat.isValidChar
    omega
  simp only [String.utf8EncodeChar, toNat_ofNat hvalid]
  rw [if_neg (by omega), if_neg (by omega), if_neg (by omega), ofNat_eq (b := b) (by omega),
    ofNat_eq (b := c) (by omega), ofNat_eq (b := d) (by omega), ofNat_eq (b := e) (by omega)]

/-- What is read as a character was its form. -/
theorem eq_encodeChar_of_front (h : front b bs = .char ch rest) :
    b :: bs = String.utf8EncodeChar ch ++ rest := by
  revert h
  fun_cases front b bs
  all_goals
    intro h
    cases h
  all_goals simp only [UInt8.lt_iff_toNat_lt, UInt8.reduceToNat] at *
  case case1 hb => rw [encodeChar_one hb, List.singleton_append]
  case case3 c hc _ hmin hb =>
    rw [encodeChar_two (by omega) hb hc]
    rfl
  case case6 c d hc hd _ _ hmin hb =>
    rw [encodeChar_three (by omega) hb hc hd]
    rfl
  case case12 c d e hc hd he _ _ _ hmin hb =>
    rw [encodeChar_four (by omega) hb hc hd he]
    rfl

theorem front_one (hb : b.toNat < 0x80) (rest : Octets) :
    front b rest = .char (Char.ofNat b.toNat) rest := by
  unfold front
  rw [if_pos (UInt8.lt_iff_toNat_lt.2 hb)]

theorem front_two (hb : 0xC2 ≤ b.toNat) (hb' : b.toNat < 0xE0) (hc : isContinuation c = true)
    (rest : Octets) :
    front b (c :: rest) = .char (Char.ofNat (b.toNat % 32 * 64 + low c)) rest := by
  simp only [front, UInt8.lt_iff_toNat_lt, UInt8.reduceToNat, hc, if_true]
  rw [if_neg (by omega), if_neg (by omega), if_pos hb']

theorem front_three (hb : 0xE0 ≤ b.toNat) (hb' : b.toNat < 0xF0) (hc : isSecond b c = true)
    (hd : isContinuation d = true) (rest : Octets) :
    front b (c :: d :: rest) =
      .char (Char.ofNat (b.toNat % 16 * 4096 + low c * 64 + low d)) rest := by
  simp only [front, UInt8.lt_iff_toNat_lt, UInt8.reduceToNat, hc, hd, if_true]
  rw [if_neg (by omega), if_neg (by omega), if_neg (by omega), if_pos hb']

theorem front_four (hb : 0xF0 ≤ b.toNat) (hb' : b.toNat < 0xF5) (hc : isSecond b c = true)
    (hd : isContinuation d = true) (he : isContinuation e = true) (rest : Octets) :
    front b (c :: d :: e :: rest) =
      .char (Char.ofNat (b.toNat % 8 * 262144 + low c * 4096 + low d * 64 + low e)) rest := by
  simp only [front, UInt8.lt_iff_toNat_lt, UInt8.reduceToNat, hc, hd, he, if_true]
  rw [if_neg (by omega), if_neg (by omega), if_neg (by omega), if_neg (by omega), if_pos hb']

/-- The form of a character is read as it, whatever follows. -/
theorem front_encodeChar (ch : Char) (rest : Octets) :
    ∃ b bs, String.utf8EncodeChar ch ++ rest = b :: bs ∧ front b bs = .char ch rest := by
  have hvalid : ch.val.toNat.isValidChar := ch.valid
  have hread : ∀ n, n = ch.val.toNat → Char.ofNat n = ch := by
    rintro n rfl
    exact Char.ofNat_toNat ch
  unfold Nat.isValidChar at hvalid
  simp only [String.utf8EncodeChar]
  split
  · refine ⟨_, _, List.singleton_append, ?_⟩
    rw [front_one, hread]
    all_goals
      rw [UInt8.toNat_ofNat']
      omega
  · split
    · refine ⟨_, _, List.cons_append, ?_⟩
      rw [List.singleton_append, front_two, hread]
      all_goals
        simp only [UInt8.toNat_ofNat', low, isContinuation_iff]
        omega
    · split
      · refine ⟨_, _, List.cons_append, ?_⟩
        rw [List.cons_append, List.singleton_append, front_three, hread]
        all_goals
          simp only [UInt8.toNat_ofNat', low, isContinuation_iff, isSecond_iff]
          omega
      · refine ⟨_, _, List.cons_append, ?_⟩
        rw [List.cons_append, List.cons_append, List.singleton_append, front_four, hread]
        all_goals
          simp only [UInt8.toNat_ofNat', low, isContinuation_iff, isSecond_iff]
          omega

/-! ## Texts -/

theorem scan_encodeChar (ch : Char) (rest : Octets) :
    scan (String.utf8EncodeChar ch ++ rest) = some ch :: scan rest := by
  obtain ⟨b, bs, happend, hfront⟩ := front_encodeChar ch rest
  rw [happend, scan]
  split
  · next ch' rest' h =>
    rw [hfront] at h
    cases h
    rfl
  · next rest' h =>
    rw [hfront] at h
    cases h

theorem scan_ofText (s : String) : scan (Octets.ofText s) = s.toList.map some := by
  rw [Octets.ofText_eq_flatMap]
  induction s.toList with
  | nil => rw [List.flatMap_nil, scan, List.map_nil]
  | cons ch l ih => rw [List.flatMap_cons, scan_encodeChar, ih, List.map_cons]

/-- The octets of a text are read as the text. -/
@[simp] theorem decodeLossy_ofText (s : String) : decodeLossy (Octets.ofText s) = s := by
  rw [decodeLossy, scan_ofText, List.map_map]
  simp [Function.comp_def]

theorem eq_flatMap_of_scan {l : List Char} (h : scan bs = l.map some) :
    bs = l.flatMap String.utf8EncodeChar := by
  fun_induction scan bs generalizing l with
  | case1 =>
    rw [List.map_eq_nil_iff.1 h.symm, List.flatMap_nil]
  | case2 b bs ch rest hfront _ ih =>
    obtain ⟨_, l, rfl, hch, hl⟩ := List.map_eq_cons_iff.1 h.symm
    cases hch
    rw [List.flatMap_cons, ← ih hl.symm]
    exact eq_encodeChar_of_front hfront
  | case3 b bs rest hfront _ ih =>
    obtain ⟨_, l, rfl, hch, hl⟩ := List.map_eq_cons_iff.1 h.symm
    cases hch

theorem mapM_id_eq_some_iff {α : Type} {l : List (Option α)} {l' : List α} :
    l.mapM id = some l' ↔ l = l'.map some := by
  induction l generalizing l' with
  | nil => cases l' <;> simp
  | cons o l ih =>
    rw [List.mapM_cons]
    cases o with
    | none => cases l' <;> simp
    | some a =>
      cases l' with
      | nil => simp [Option.bind_eq_some_iff]
      | cons a' l' => simpa [Option.bind_eq_some_iff, ih] using and_comm

/-- The octets of a text, and no others, are read strictly as it. -/
theorem decode?_eq_some_iff {s : String} : decode? bs = some s ↔ bs = Octets.ofText s := by
  rw [decode?, Option.map_eq_some_iff, Octets.ofText_eq_flatMap]
  constructor
  · rintro ⟨l, hl, rfl⟩
    rw [String.toList_ofList]
    exact eq_flatMap_of_scan (mapM_id_eq_some_iff.1 hl)
  · rintro rfl
    refine ⟨s.toList, mapM_id_eq_some_iff.2 ?_, String.ofList_toList⟩
    rw [← Octets.ofText_eq_flatMap, scan_ofText]

theorem ofText_injective {s t : String} (h : Octets.ofText s = Octets.ofText t) : s = t := by
  rw [← decodeLossy_ofText s, h, decodeLossy_ofText]

theorem length_ofText_pos {s : String} (h : s ≠ "") : 0 < (Octets.ofText s).length := by
  refine List.length_pos_iff.2 fun hnil => h ?_
  exact ofText_injective hnil

/-- No character but NUL has a NUL in its form. -/
theorem zero_mem_ofText_iff {s : String} : 0 ∈ Octets.ofText s ↔ '\x00' ∈ s.toList := by
  rw [Octets.ofText_eq_flatMap, List.mem_flatMap]
  constructor
  · rintro ⟨c, hc, hzero⟩
    have hnat : c.toNat = 0 := Percent.toNat_of_mem_utf8EncodeChar hzero (by decide)
    have hnul : c = '\x00' := Char.toNat_inj.1 hnat
    rwa [← hnul]
  · intro h
    exact ⟨_, h, by decide⟩

end BootServer.Text.Utf8
