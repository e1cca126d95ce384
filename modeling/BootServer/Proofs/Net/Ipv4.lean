import BootServer.Net.Ipv4
import BootServer.Proofs.Text.Fields

/-! IPv4 addresses as text. The text of an address is read back as the address. -/
namespace BootServer.Ipv4

/-- An octet in decimal. -/
def digits (o : UInt8) : List Char := Nat.toDigits 10 o.toNat

theorem octet?_digits (o : UInt8) : octet? (digits o) = some o := by
  have h : ∀ n < 256, octet? (Nat.toDigits 10 n) = some (UInt8.ofNat n) := by decide +kernel
  rw [digits, h o.toNat o.toNat_lt, UInt8.ofNat_toNat]

/-- What the text of an address is made of. -/
def alphabet : List Char := "0123456789.".toList

theorem digits_subset (o : UInt8) : digits o ⊆ alphabet.dropLast := by
  have h : ∀ n < 256, Nat.toDigits 10 n ⊆ alphabet.dropLast := by decide +kernel
  exact h o.toNat o.toNat_lt

theorem dot_not_mem_digits (o : UInt8) : '.' ∉ digits o := fun h =>
  absurd (digits_subset o h) (by decide)

theorem toList_text (ip : Ipv4) :
    ip.text.toList =
      digits ip.a ++ [digits ip.b, digits ip.c, digits ip.d].flatMap ('.' :: ·) := by
  simp [text, octets, digits, Text.Decimal.text]

theorem text_subset (ip : Ipv4) : ip.text.toList ⊆ alphabet := by
  intro c h
  have hdigit : ∀ o, c ∈ digits o → c ∈ alphabet := fun o hc =>
    List.dropLast_subset _ (digits_subset o hc)
  rw [toList_text] at h
  simp only [List.flatMap_cons, List.flatMap_nil, List.mem_append, List.mem_cons,
    List.not_mem_nil, or_false] at h
  rcases h with h | (rfl | h) | (rfl | h) | (rfl | h)
  all_goals first | exact hdigit _ h | decide

theorem text_ne_empty (ip : Ipv4) : ip.text ≠ "" := by
  have hdigits : digits ip.a ≠ [] := Nat.toDigits_ne_nil
  intro h
  have hnil := ip.toList_text
  rw [h] at hnil
  exact hdigits (List.append_eq_nil_iff.1 hnil.symm).1

theorem fields_text (ip : Ipv4) :
    Text.fields '.' ip.text.toList = [digits ip.a, digits ip.b, digits ip.c, digits ip.d] := by
  rw [toList_text, Text.fields_flatMap (dot_not_mem_digits ip.a)]
  simp [dot_not_mem_digits]

@[simp] theorem parse?_text (ip : Ipv4) : parse? ip.text = some ip := by
  rw [parse?, parseChars?, fields_text]
  simp [octet?_digits, ofOctets?]

/-- What has no point in it is no address. -/
theorem parseChars?_of_not_mem {l : List Char} (h : '.' ∉ l) : parseChars? l = none := by
  rw [parseChars?, Text.fields_of_not_mem h]
  cases ho : octet? l with
  | none => simp [ho]
  | some o => simp [ho, ofOctets?]

end BootServer.Ipv4
