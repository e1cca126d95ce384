import BootServer.Text.Percent

/-! Percent-encoded text. What is written is plain, so that encoding it once more changes nothing,
and no octet of ASCII is written for a character but the one it is. -/
namespace BootServer.Text

namespace Percent

/-- Is the character written as it stands? -/
def isPlain (reserved : Char → Bool) (c : Char) : Bool := isAsciiText c && !reserved c

variable {reserved : Char → Bool} {c : Char} {l : List Char}

theorem encodeChar_of_plain (h : isPlain reserved c = true) : encodeChar reserved c = [c] :=
  if_pos h

theorem encodeChar_of_not_plain (h : isPlain reserved c = false) :
    encodeChar reserved c =
      (String.utf8EncodeChar c).flatMap fun o => '%' :: Hex.octetUpper o := by
  rw [isPlain] at h
  rw [encodeChar, h]
  rfl

theorem encode_cons (reserved : Char → Bool) (c : Char) (l : List Char) :
    encode reserved (c :: l) = encodeChar reserved c ++ encode reserved l := List.flatMap_cons

theorem encode_cons_of_plain (h : isPlain reserved c = true) (l : List Char) :
    encode reserved (c :: l) = c :: encode reserved l := by
  rw [encode_cons, encodeChar_of_plain h, List.singleton_append]

theorem encode_of_plain (h : ∀ c ∈ l, isPlain reserved c = true) : encode reserved l = l := by
  induction l with
  | nil => rfl
  | cons c l ih =>
    obtain ⟨hc, hl⟩ := List.forall_mem_cons.1 h
    rw [encode_cons_of_plain hc, ih hl]

/-- What is written is a plain character of the text, a percent sign or a digit. -/
theorem mem_encode (h : c ∈ encode reserved l) :
    (c ∈ l ∧ isPlain reserved c = true) ∨ c = '%' ∨ ∃ n < 16, c = Hex.upper n := by
  obtain ⟨d, hd, hc⟩ := List.mem_flatMap.1 h
  cases hp : isPlain reserved d with
  | true =>
    rw [encodeChar_of_plain hp, List.mem_singleton] at hc
    exact .inl ⟨hc ▸ hd, hc ▸ hp⟩
  | false =>
    rw [encodeChar_of_not_plain hp, List.mem_flatMap] at hc
    obtain ⟨o, -, ho⟩ := hc
    have hlt := o.toNat_lt
    simp only [Hex.octetUpper, List.mem_cons, List.not_mem_nil, or_false] at ho
    rcases ho with rfl | rfl | rfl
    · exact .inr (.inl rfl)
    · exact .inr (.inr ⟨o.toNat / 16, by omega, rfl⟩)
    · exact .inr (.inr ⟨o.toNat % 16, by omega, rfl⟩)

/-- What is encoded begins with its first character or with an escape. -/
theorem encode_head (reserved : Char → Bool) (c : Char) (l : List Char) :
    (isPlain reserved c = true ∧ encode reserved (c :: l) = c :: encode reserved l) ∨
      (isPlain reserved c = false ∧ ∃ rest, encode reserved (c :: l) = '%' :: rest) := by
  cases hp : isPlain reserved c with
  | true => exact .inl ⟨rfl, encode_cons_of_plain hp l⟩
  | false =>
    refine .inr ⟨rfl, ?_⟩
    rw [encode_cons, encodeChar_of_not_plain hp]
    cases hc : String.utf8EncodeChar c with
    | nil => exact absurd hc (by simp)
    | cons o os => exact ⟨_, rfl⟩

/-- A character that is no percent sign stands for itself. -/
theorem eq_cons_of_encode_eq_cons {rest : List Char} (h : encode reserved l = c :: rest)
    (hc : c ≠ '%') : ∃ l', l = c :: l' ∧ encode reserved l' = rest := by
  cases l with
  | nil => cases h
  | cons d l' =>
    rcases encode_head reserved d l' with ⟨-, he⟩ | ⟨-, tail, he⟩
    · rw [he] at h
      obtain ⟨rfl, rfl⟩ := List.cons.inj h
      exact ⟨l', rfl, rfl⟩
    · rw [he] at h
      exact absurd (List.cons.inj h).1.symm hc

/-- Without a percent sign nothing was encoded. -/
theorem encode_of_percent_not_mem (h : '%' ∉ encode reserved l) : encode reserved l = l := by
  refine encode_of_plain ?_
  induction l with
  | nil => simp
  | cons c l ih =>
    rcases encode_head reserved c l with ⟨hp, he⟩ | ⟨-, rest, he⟩
    · rw [he] at h
      exact List.forall_mem_cons.2 ⟨hp, ih (List.not_mem_of_not_mem_cons h)⟩
    · rw [he] at h
      exact absurd List.mem_cons_self h

/-- Without a percent sign there is nothing to decode. -/
theorem decode_of_not_mem {os : Octets} (h : 0x25 ∉ os) : decode os = os := by
  fun_induction decode os with
  | case1 o x y rest v hv _ =>
    have ho : isPercent o = false := by
      simpa [isPercent, eq_comm] using (List.ne_and_not_mem_of_not_mem_cons h).1
    simp [ho] at hv
  | case2 o x y rest hnone ih => rw [ih (List.not_mem_of_not_mem_cons h)]
  | case3 os hshort => rfl

/-- An octet of ASCII stands for itself alone. -/
theorem toNat_of_mem_utf8EncodeChar {o : UInt8} (h : o ∈ String.utf8EncodeChar c)
    (hascii : o.toNat < 128) : c.toNat = o.toNat := by
  simp only [Char.toNat]
  simp only [String.utf8EncodeChar] at h
  split at h
  · obtain rfl := List.mem_singleton.1 h
    simp only [UInt8.toNat_ofNat']
    omega
  · -- every octet of a longer form has its high bit
    exfalso
    split at h
    · simp only [List.mem_cons, List.not_mem_nil, or_false] at h
      rcases h with rfl | rfl <;> simp only [UInt8.toNat_ofNat'] at hascii <;> omega
    · split at h
      · simp only [List.mem_cons, List.not_mem_nil, or_false] at h
        rcases h with rfl | rfl | rfl <;> simp only [UInt8.toNat_ofNat'] at hascii <;> omega
      · simp only [List.mem_cons, List.not_mem_nil, or_false] at h
        rcases h with rfl | rfl | rfl | rfl <;> simp only [UInt8.toNat_ofNat'] at hascii <;> omega

end Percent
end BootServer.Text
