import BootServer.Net.HardwareAddress
import BootServer.Proofs.Text.Digits

/-! Hardware addresses as text. The canonical form is read back as the address it was written for,
so no two addresses share one. What is read as an address are two digits for each octet, with or
without a delimiter before each. -/
namespace BootServer

namespace HardwareAddress

open Text.Hex

variable {delimiter : Option Char} {d x y : Char} {o : UInt8} {l : List Char} {os : Octets}

theorem isDelimiter_iff {c : Char} : isDelimiter c = true ↔ c = '-' ∨ c = ':' ∨ c = '.' := by
  simp [isDelimiter, or_assoc]

theorem value?_of_isDelimiter {c : Char} (h : isDelimiter c = true) : value? c = none := by
  rcases isDelimiter_iff.1 h with rfl | rfl | rfl <;> decide

theorem digits_of_octet? (ho : octet? x y = some o) :
    (value? x).isSome = true ∧ (value? y).isSome = true := by
  unfold octet? at ho
  split at ho
  · next hx hy => simp [hx, hy]
  · cases ho

theorem not_isDelimiter_of_isSome {c : Char} (h : (value? c).isSome = true) :
    isDelimiter c = false := by
  rw [← Bool.not_eq_true]
  intro hc
  rw [value?_of_isDelimiter hc] at h
  cases h

theorem octetsOf?_bare (delimiter : Option Char) (ho : octet? x y = some o) (l : List Char) :
    octetsOf? delimiter (x :: y :: l) = (o :: ·) <$> octetsOf? delimiter l := by
  have hx := not_isDelimiter_of_isSome (digits_of_octet? ho).1
  rw [octetsOf?.eq_def]
  simp only [hx, ho]
  rfl

theorem octetsOf?_delimited (hd : isDelimiter d = true) (h : delimiter.getD d = d)
    (ho : octet? x y = some o) (l : List Char) :
    octetsOf? delimiter (d :: x :: y :: l) = (o :: ·) <$> octetsOf? (some d) l := by
  simp only [octetsOf?, hd, h, ho, if_true]
  rfl

theorem octetsOf?_flatMap (list : Octets) {delimiter : Option Char}
    (h : delimiter.getD ':' = ':') :
    octetsOf? delimiter (list.flatMap fun o => ':' :: octetLower o) = some list := by
  induction list generalizing delimiter with
  | nil => rfl
  | cons o list ih =>
    have ho := octetsOf?_delimited rfl h (octet?_lower o)
    rw [List.flatMap_cons]
    exact (ho _).trans (congrArg _ (ih rfl))

/-- The first octet stands alone, and each of the others follows a colon. -/
theorem toList_text (m : HardwareAddress) :
    m.text.toList =
      octetLower m.a ++ [m.b, m.c, m.d, m.e, m.f].flatMap fun o => ':' :: octetLower o := by
  show (":".intercalate (m.octets.map fun o => String.ofList (octetLower o))).toList = _
  simp [octets]

@[simp] theorem parse?_text (m : HardwareAddress) : parse? m.text = some m := by
  have ha := octetsOf?_bare none (octet?_lower m.a)
  have hnone : (none : Option Char).getD ':' = ':' := rfl
  have hrest := octetsOf?_flatMap [m.b, m.c, m.d, m.e, m.f] hnone
  rw [parse?, toList_text, octetLower, List.cons_append, List.cons_append, List.nil_append, ha,
    hrest]
  rfl

/-! ## Spellings -/

/-- Octets of two digits each, in either case, and before any of them a delimiter or none. -/
inductive Spelled (delimiter : Char) : List Char → Octets → Prop where
  | nil : Spelled delimiter [] []
  | bare {x y : Char} {o : UInt8} {l : List Char} {os : Octets} (ho : octet? x y = some o)
    (h : Spelled delimiter l os) : Spelled delimiter (x :: y :: l) (o :: os)
  | delimited {x y : Char} {o : UInt8} {l : List Char} {os : Octets} (ho : octet? x y = some o)
    (h : Spelled delimiter l os) : Spelled delimiter (delimiter :: x :: y :: l) (o :: os)

theorem Spelled.octetsOf? (hd : isDelimiter d = true) (hl : Spelled d l os)
    (h : delimiter.getD d = d) : octetsOf? delimiter l = some os := by
  induction hl generalizing delimiter with
  | nil => rfl
  | bare ho _ ih => rw [octetsOf?_bare delimiter ho, ih h]; rfl
  | delimited ho _ ih => rw [octetsOf?_delimited hd h ho, ih rfl]; rfl

theorem exists_spelled (hdelimiter : ∀ c ∈ delimiter, isDelimiter c = true)
    (h : octetsOf? delimiter l = some os) :
    ∃ d, isDelimiter d = true ∧ delimiter.getD d = d ∧ Spelled d l os := by
  induction delimiter, l using octetsOf?.induct generalizing os with
  | case1 delimiter =>
    obtain rfl := Option.some.inj h
    cases delimiter with
    | none => exact ⟨':', rfl, rfl, .nil⟩
    | some c => exact ⟨c, hdelimiter c rfl, rfl, .nil⟩
  | case2 => cases h
  | case3 delimiter d x hd hsame y rest ih =>
    simp only [octetsOf?, hd, hsame, if_true] at h
    obtain ⟨o, ho, h⟩ := Option.bind_eq_some_iff.1 h
    obtain ⟨os', hos', rfl⟩ := Option.map_eq_some_iff.1 h
    obtain ⟨d', -, hd', hspelled⟩ := ih (by simpa using hd) hos'
    obtain rfl : d = d' := hd'
    exact ⟨d, hd, hsame, .delimited ho hspelled⟩
  | case4 delimiter d x hd hsame => simp [octetsOf?, hd, hsame] at h
  | case5 delimiter d x rest hd hother =>
    rw [octetsOf?.eq_def] at h
    simp [hd, hother] at h
  | case6 delimiter x y rest hx ih =>
    rw [octetsOf?.eq_def] at h
    simp only [hx] at h
    obtain ⟨o, ho, h⟩ := Option.bind_eq_some_iff.1 h
    obtain ⟨os', hos', rfl⟩ := Option.map_eq_some_iff.1 h
    obtain ⟨d, hd, hsame, hspelled⟩ := ih hdelimiter hos'
    exact ⟨d, hd, hsame, .bare ho hspelled⟩

theorem ofOctets?_eq_some_iff {m : HardwareAddress} : ofOctets? os = some m ↔ os = m.octets := by
  constructor
  · intro h
    unfold ofOctets? at h
    split at h
    · cases h
      rfl
    · cases h
  · rintro rfl
    exact ofOctets?_octets m

/-- An address is read from exactly its spellings. -/
theorem parse?_eq_some_iff {s : String} {m : HardwareAddress} :
    parse? s = some m ↔ ∃ d, isDelimiter d = true ∧ Spelled d s.toList m.octets := by
  rw [parse?, Option.bind_eq_some_iff]
  constructor
  · rintro ⟨os, hos, hm⟩
    obtain rfl := ofOctets?_eq_some_iff.1 hm
    obtain ⟨d, hd, -, hspelled⟩ := exists_spelled (by simp) hos
    exact ⟨d, hd, hspelled⟩
  · rintro ⟨d, hd, hspelled⟩
    exact ⟨m.octets, hspelled.octetsOf? hd rfl, ofOctets?_octets m⟩

end HardwareAddress
end BootServer
