import BootServer.Text.Blank
import BootServer.Text.Decimal
import BootServer.Text.Hex

/-! Numbers by their digits. The digits that a number is written in are read back as the number, in
hexadecimal and in decimal. -/
namespace BootServer.Text

/-- The digits of a number, one after the other, make the number again. -/
theorem foldlM_toDigits {base : Nat} {digit? : Char → Option Nat} (hbase : 1 < base)
    (hdigit : ∀ d < base, digit? d.digitChar = some d) (n : Nat) :
    (Nat.toDigits base n).foldlM (fun n c => (digit? c).map (n * base + ·)) 0 = some n := by
  induction n using Nat.strongRecOn with
  | _ n ih =>
    by_cases hn : n < base
    · rw [Nat.toDigits_of_lt_base hn]
      simp [hdigit n hn]
    · have hlast : n % base < base := Nat.mod_lt _ (by omega)
      have hfront : n / base < n := Nat.div_lt_self (by omega) hbase
      rw [Nat.toDigits_of_base_le hbase (Nat.le_of_not_lt hn), List.foldlM_append,
        ih (n / base) hfront]
      simp only [Option.bind_eq_bind, Option.bind_some, List.foldlM_cons, List.foldlM_nil,
        hdigit _ hlast, Option.map_some, Option.pure_def]
      rw [Nat.div_add_mod' n base]

namespace Hex

theorem value?_digitChar {n : Nat} (h : n < 16) : value? n.digitChar = some n := by
  revert n
  decide

/-- Take a digit to the end of a number. -/
def push (n : Nat) (c : Char) : Option Nat := (value? c).map (n * 16 + ·)

theorem isSome_of_foldlM_push {l : List Char} {start n : Nat} (h : l.foldlM push start = some n) :
    ∀ c ∈ l, (value? c).isSome = true := by
  induction l generalizing start with
  | nil => simp
  | cons c l ih =>
    rw [List.foldlM_cons] at h
    obtain ⟨next, hc, hl⟩ := Option.bind_eq_some_iff.1 h
    obtain ⟨v, hv, -⟩ := Option.map_eq_some_iff.1 hc
    exact List.forall_mem_cons.2 ⟨hv ▸ rfl, ih hl⟩

theorem foldlM_toDigits (n : Nat) : (Nat.toDigits 16 n).foldlM push 0 = some n :=
  Text.foldlM_toDigits (by decide) (fun _ => value?_digitChar) n

theorem exists_digitChar_of_mem {n : Nat} {c : Char} (h : c ∈ Nat.toDigits 16 n) :
    ∃ d < 16, c = d.digitChar := by
  induction n using Nat.strongRecOn with
  | _ n ih =>
    by_cases hn : n < 16
    · rw [Nat.toDigits_of_lt_base hn, List.mem_singleton] at h
      exact ⟨n, hn, h⟩
    · rw [Nat.toDigits_of_base_le (by decide) (Nat.le_of_not_lt hn), List.mem_append,
        List.mem_singleton] at h
      rcases h with h | rfl
      · exact ih (n / 16) (by omega) h
      · exact ⟨n % 16, Nat.mod_lt _ (by decide), rfl⟩

theorem value?_lower {n : Nat} (h : n < 16) : value? (lower n) = some n := by
  revert n
  decide

theorem octet?_lower (o : UInt8) :
    octet? (lower (o.toNat / 16)) (lower (o.toNat % 16)) = some o := by
  have hlt := o.toNat_lt
  simp only [octet?, value?_lower (n := o.toNat / 16) (by omega),
    value?_lower (n := o.toNat % 16) (by omega)]
  rw [Nat.div_add_mod' o.toNat 16, UInt8.ofNat_toNat]

end Hex

namespace Decimal

theorem digit?_digitChar {n : Nat} (h : n < 10) : digit? n.digitChar = some n := by
  revert n
  decide

theorem value?_toDigits (n : Nat) : value? (Nat.toDigits 10 n) = some n := by
  have hfold := Text.foldlM_toDigits (by decide) (fun _ => digit?_digitChar) n
  unfold value?
  split
  · next hnil => exact absurd hnil Nat.toDigits_ne_nil
  · exact hfold

/-- A run of digits, and the number that they make. -/
structure IsDigits (l : List Char) (n : Nat) : Prop where
  ne_nil : l ≠ []
  isDigit : ∀ c ∈ l, c.isDigit = true
  value : Nat.ofDigitChars 10 l 0 = n

theorem isDigits_toDigits (n : Nat) : IsDigits (Nat.toDigits 10 n) n where
  ne_nil := Nat.toDigits_ne_nil
  isDigit _ := Nat.isDigit_of_mem_toDigits (by decide) (by decide)
  value := Nat.ofDigitChars_ten_toDigits

/-- Digits without a zero too many in front. -/
structure IsCanonical (l : List Char) (n : Nat) : Prop where
  digits : IsDigits l n
  zero : l.head? = some '0' → l = ['0']

theorem isCanonical_toDigits (n : Nat) : IsCanonical (Nat.toDigits 10 n) n := by
  refine ⟨isDigits_toDigits n, ?_⟩
  induction n using Nat.strongRecOn with
  | _ n ih =>
    by_cases hn : n < 10
    · rw [Nat.toDigits_of_lt_base hn]
      simp
    · -- the front is the digits of a number above zero
      rw [Nat.toDigits_of_base_le (by decide) (Nat.le_of_not_lt hn), List.head?_append]
      intro h
      rw [List.head?_eq_some_head Nat.toDigits_ne_nil, Option.some_or,
        ← List.head?_eq_some_head Nat.toDigits_ne_nil] at h
      have hfront : n / 10 = 0 := by
        rw [← Nat.ofDigitChars_ten_toDigits (n := n / 10), ih (n / 10) (by omega) h]
        rfl
      omega

/-- Zeros in front do not change the number. -/
theorem IsDigits.leftpad {l : List Char} {n : Nat} (h : IsDigits l n) (width : Nat) :
    IsDigits (l.leftpad width '0') n where
  ne_nil := List.append_ne_nil_of_right_ne_nil _ h.ne_nil
  isDigit c hc := by
    rcases List.mem_append.1 hc with hc | hc
    · rw [(List.mem_replicate.1 hc).2]
      rfl
    · exact h.isDigit c hc
  value := by
    rw [List.leftpad, Nat.ofDigitChars_append, Nat.ofDigitChars_replicate_zero, Nat.mul_zero]
    exact h.value

/-- Digits may have a plus sign before them. -/
inductive IsNumber : List Char → Nat → Prop
  | plain {l : List Char} {n : Nat} (h : IsDigits l n) : IsNumber l n
  | signed {l : List Char} {n : Nat} (h : IsDigits l n) : IsNumber ('+' :: l) n

theorem IsNumber.ne_nil {l : List Char} {n : Nat} (h : IsNumber l n) : l ≠ [] := by
  cases h with
  | plain h => exact h.ne_nil
  | signed h => exact List.cons_ne_nil _ _

theorem IsNumber.isDigit {l : List Char} {n : Nat} (h : IsNumber l n) {c : Char} (hc : c ∈ l) :
    c = '+' ∨ c.isDigit = true := by
  cases h with
  | plain h => exact .inr (h.isDigit c hc)
  | signed h => exact (List.mem_cons.1 hc).imp_right (h.isDigit c)

theorem foldlM_eq_some_iff {l : List Char} {start n : Nat} :
    l.foldlM (fun n c => (digit? c).map (n * 10 + ·)) start = some n ↔
      (∀ c ∈ l, c.isDigit = true) ∧ Nat.ofDigitChars 10 l start = n := by
  induction l generalizing start with
  | nil => simp [Nat.ofDigitChars]
  | cons c l ih =>
    rw [List.foldlM_cons, Nat.ofDigitChars_cons, List.forall_mem_cons]
    by_cases hc : c.isDigit = true
    · have hdigit : digit? c = some (c.toNat - '0'.toNat) := if_pos hc
      rw [hdigit, Option.map_some, Option.bind_eq_bind, Option.bind_some, ih, Nat.mul_comm start]
      simp only [hc, true_and]
    · have hdigit : digit? c = none := if_neg hc
      simp [hdigit, hc]

theorem value?_eq_some_iff {l : List Char} {n : Nat} : value? l = some n ↔ IsDigits l n := by
  unfold value?
  split
  · constructor
    · intro h
      cases h
    · exact fun h => absurd rfl h.ne_nil
  · next hne =>
    rw [foldlM_eq_some_iff]
    exact ⟨fun h => ⟨hne, h.1, h.2⟩, fun h => ⟨h.isDigit, h.value⟩⟩

theorem readChars?_eq_some_iff {limit n : Nat} {l : List Char} :
    readChars? limit l = some n ↔ IsNumber l n ∧ n ≤ limit := by
  unfold readChars?
  rw [Option.filter_eq_some_iff, value?_eq_some_iff, decide_eq_true_eq]
  refine and_congr_left fun _ => ?_
  split
  · next digits =>
    refine ⟨.signed, fun h => ?_⟩
    cases h with
    | plain h => exact absurd (h.isDigit '+' List.mem_cons_self) (by decide)
    | signed h => exact h
  · next hplus =>
    refine ⟨.plain, fun h => ?_⟩
    cases h with
    | plain h => exact h
    | signed h => exact absurd rfl (hplus _)

theorem isDigit_of_mem_text {n : Nat} {c : Char} (h : c ∈ (text n).toList) : c.isDigit = true := by
  rw [text, String.toList_ofList] at h
  exact Nat.isDigit_of_mem_toDigits (by decide) (by decide) h

theorem exists_digitChar {c : Char} (h : c.isDigit = true) : ∃ d < 10, c = d.digitChar := by
  have hbounds : 48 ≤ c.toNat ∧ c.toNat ≤ 57 := by
    simpa [Char.isDigit, UInt32.le_iff_toNat_le] using h
  have hchars : ∀ d < 10, (d.digitChar).toNat = 48 + d := by decide
  refine ⟨c.toNat - 48, by omega, Char.toNat_inj.1 ?_⟩
  rw [hchars _ (by omega)]
  omega

theorem not_isBlank_of_isDigit {c : Char} (h : c.isDigit = true) : isBlank c = false := by
  have hchars : ∀ d < 10, isBlank (Nat.digitChar d) = false := by decide
  obtain ⟨d, hd, rfl⟩ := exists_digitChar h
  exact hchars d hd

theorem IsNumber.not_isBlank {l : List Char} {n : Nat} (h : IsNumber l n) {c : Char} (hc : c ∈ l) :
    isBlank c = false := by
  rcases h.isDigit hc with rfl | hdigit
  · rfl
  · exact not_isBlank_of_isDigit hdigit

/-- The text of a number is read back as the number, unless that is more than the limit. -/
theorem read?_text (limit n : Nat) : read? limit (text n) = if n ≤ limit then some n else none := by
  have hdigits : readChars? limit (text n).toList = (value? (text n).toList).filter (· ≤ limit) := by
    unfold readChars?
    split
    · next rest hplus =>
      -- a plus sign is no digit
      have h : '+'.isDigit = true := isDigit_of_mem_text (hplus ▸ List.mem_cons_self)
      cases h
    · rfl
  rw [read?, hdigits, text, String.toList_ofList, value?_toDigits]
  simp [Option.filter]

end Decimal
end BootServer.Text
