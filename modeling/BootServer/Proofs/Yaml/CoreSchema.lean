import BootServer.Proofs.Json.RoundTrip
import BootServer.Yaml.CoreSchema

/-! Integers in a document. As they stand in JSON they are plain scalars of their own type: their
digits have no zero too many and no mark of another base, and they fit in a word. -/
namespace BootServer.Yaml.CoreSchema

variable {n : Nat} {l : List Char} {c : Char}

theorem not_isSign_of_isDigit (h : c.isDigit = true) : isSign c = false := by
  rw [← Bool.not_eq_true]
  intro hsign
  simp only [isSign, Bool.or_eq_true, decide_eq_true_eq] at hsign
  rcases hsign with rfl | rfl <;> cases h

theorem withoutSign_toDigits (n : Nat) : withoutSign (Nat.toDigits 10 n) = Nat.toDigits 10 n := by
  obtain ⟨hne, hdigit, -⟩ := Text.Decimal.isDigits_toDigits n
  obtain ⟨c, l, hl⟩ := List.exists_cons_of_ne_nil hne
  rw [hl] at hdigit ⊢
  have hc := not_isSign_of_isDigit (hdigit c List.mem_cons_self)
  rw [withoutSign, hc]
  rfl

/-- The digits of a number have no zero too many. -/
theorem isPaddedDigits_eq_false (h : withoutSign l = Nat.toDigits 10 n) :
    isPaddedDigits l = false := by
  rw [isPaddedDigits, h]
  split
  · next rest hdigits =>
    have hzero := (Text.Decimal.isCanonical_toDigits n).zero (by rw [hdigits]; rfl)
    rw [hdigits] at hzero
    cases hzero
    rfl
  · rfl

theorem digits?_toDigits (n : Nat) : digits? 10 (Nat.toDigits 10 n) = some n := by
  have hne : (Nat.toDigits 10 n).isEmpty = false := by simp
  rw [digits?, hne]
  exact Text.foldlM_toDigits (by decide) (by decide) n

/-- No mark of another base is among the digits. -/
theorem natural?_toDigits (n : Nat) : natural? (Nat.toDigits 10 n) = some n := by
  have hdigit := (Text.Decimal.isDigits_toDigits n).isDigit
  unfold natural?
  split
  · next rest hdigits =>
    have hx := hdigit 'x' (by simp [hdigits])
    cases hx
  · next rest hdigits =>
    have ho := hdigit 'o' (by simp [hdigits])
    cases ho
  · next rest hdigits =>
    have hb := hdigit 'b' (by simp [hdigits])
    cases hb
  · exact digits?_toDigits n

theorem withoutPlus_toDigits (n : Nat) : withoutPlus (Nat.toDigits 10 n) = Nat.toDigits 10 n := by
  have hdigit := (Text.Decimal.isDigits_toDigits n).isDigit
  unfold withoutPlus
  split
  · next rest hdigits =>
    have hplus := hdigit '+' (by simp [hdigits])
    cases hplus
  · rfl

theorem integer?_intText (i : Int) : integer? (Json.intText i).toList = some i := by
  cases i with
  | ofNat n =>
    have hdigit := (Text.Decimal.isDigits_toDigits n).isDigit
    rw [Json.intText, Text.Decimal.text, String.toList_ofList, integer?,
      isPaddedDigits_eq_false (withoutSign_toDigits n), if_neg Bool.false_ne_true]
    · rw [withoutPlus_toDigits, natural?_toDigits]
      rfl
    · intro rest hdigits
      have hminus := hdigit '-' (by simp [hdigits])
      cases hminus
  | negSucc n =>
    rw [Json.toList_negSucc, integer?, isPaddedDigits_eq_false (n := n + 1) rfl,
      if_neg Bool.false_ne_true, natural?_toDigits]
    rfl

/-- Words are not integers. -/
theorem intText_not_mem {words : List String}
    (h : (words.all fun w => w.toList.any fun c => !Json.isNumberChar c) = true) (i : Int) :
    Json.intText i ∉ words := by
  intro hmem
  obtain ⟨c, hc, hword⟩ := List.any_eq_true.1 (List.all_eq_true.1 h _ hmem)
  rw [Json.isNumberChar_of_mem_intText hc] at hword
  cases hword

theorem size_eq_word {i : Int} (hmin : -9223372036854775808 ≤ i)
    (hmax : i ≤ Text.Decimal.max64) : size i = .word := by
  have hfits : fits 64 i = true := by
    cases i with
    | ofNat n =>
      have hn : n ≤ 18446744073709551615 := Int.ofNat_le.1 hmax
      refine decide_eq_true ?_
      show n < 18446744073709551616
      omega
    | negSucc n =>
      refine decide_eq_true ?_
      show n < 9223372036854775808
      omega
  rw [size, if_pos hfits]

/-- An integer stands in a document as it stands in JSON. -/
theorem plain?_intText {i : Int} (hmin : -9223372036854775808 ≤ i)
    (hmax : i ≤ Text.Decimal.max64) : plain? (Json.intText i) = some (.int i) := by
  have hempty : Json.intText i ≠ "" := fun h => Json.intText_ne_nil i (by rw [h]; rfl)
  have hnull : isNull (Json.intText i) = false :=
    decide_eq_false (intText_not_mem (by decide +kernel) i)
  have hbool : bool? (Json.intText i) = none := by
    rw [bool?, if_neg (intText_not_mem (by decide +kernel) i),
      if_neg (intText_not_mem (by decide +kernel) i)]
  have hint : int? (Json.intText i) = some (some (.int i)) := by
    rw [int?, integer?_intText]
    dsimp only
    rw [size_eq_word hmin hmax]
  simp [plain?, hempty, hnull, hbool, hint]

end BootServer.Yaml.CoreSchema
