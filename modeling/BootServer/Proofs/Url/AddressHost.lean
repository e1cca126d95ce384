import BootServer.Proofs.Net.Ipv4
import BootServer.Proofs.Octets
import BootServer.Proofs.Text.Digits
import BootServer.Proofs.Text.Percent
import BootServer.Url.Parser

/-! IPv4 addresses in the place of a host. Every kind of URL takes the text of an address for a
host: a special scheme for the address itself, other schemes for a name. An authority may have a port
behind the address; where nothing cuts the port off, the two are no host of a special scheme. -/
namespace BootServer.Url

open Text

variable {scheme : String} {followed : Bool} {ip : Ipv4} {port l : List Char}

namespace Host

/-- What an address and the digits behind it are made of. -/
def addressChars : List Char := ':' :: Ipv4.alphabet

/-- Characters that are neither encoded nor changed. -/
theorem plain_of_mem {c : Char} (h : c ∈ addressChars) :
    (String.utf8EncodeChar c).map (fun o => (Char.ofNat o.toNat).toLower) = [c] ∧
      0x25 ∉ String.utf8EncodeChar c ∧ Percent.isPlain (fun _ => false) c = true ∧ c ≠ '[' := by
  have hall : addressChars.all fun c =>
      (String.utf8EncodeChar c).map (fun o => (Char.ofNat o.toNat).toLower) = [c] &&
        !(String.utf8EncodeChar c).contains 0x25 && Percent.isPlain (fun _ => false) c
          && c ≠ '[' := by
    decide +kernel
  simpa [and_assoc] using List.all_eq_true.1 hall c h

theorem name_of_subset (h : l ⊆ addressChars) :
    (Percent.decode (Octets.ofText (String.ofList l))).map
      (fun o => (Char.ofNat o.toNat).toLower) = l := by
  have hpercent : 0x25 ∉ l.flatMap String.utf8EncodeChar := by
    intro hmem
    obtain ⟨c, hc, ho⟩ := List.mem_flatMap.1 hmem
    exact (plain_of_mem (h hc)).2.1 ho
  rw [Octets.ofText_eq_flatMap, String.toList_ofList, Percent.decode_of_not_mem hpercent,
    List.map_flatMap]
  induction l with
  | nil => rfl
  | cons c l ih =>
    rw [List.cons_subset] at h
    rw [List.flatMap_cons, List.mem_append, not_or] at hpercent
    rw [List.flatMap_cons, (plain_of_mem h.1).1, ih h.2 hpercent.2, List.singleton_append]

theorem bracketed?_of_subset (h : l ⊆ addressChars) : bracketed? l = none := by
  unfold bracketed?
  split
  · exact absurd rfl (plain_of_mem (h List.mem_cons_self)).2.2.2
  · rfl

/-- A colon does not belong to the host of a special scheme. -/
theorem parseSpecial_of_colon (h : l ⊆ addressChars) (hcolon : ':' ∈ l) :
    parseSpecial l = .error .invalidDomain := by
  have hforbidden : l.any isForbiddenInDomain = true := List.any_eq_true.2 ⟨_, hcolon, rfl⟩
  rw [parseSpecial, bracketed?_of_subset h]
  dsimp only
  rw [name_of_subset h, hforbidden]
  rfl

/-! ## The text of an address -/

theorem text_subset (ip : Ipv4) : ip.text.toList ⊆ addressChars :=
  fun _ h => List.mem_cons_of_mem _ (ip.text_subset h)

theorem number?_digits (o : UInt8) : number? (Ipv4.digits o) = some o.toNat := by
  have h : ∀ n < 256, number? (Nat.toDigits 10 n) = some n := by decide +kernel
  exact h o.toNat o.toNat_lt

theorem endsInNumber_text (ip : Ipv4) : endsInNumber ip.text.toList = true := by
  obtain ⟨c, rest, hlast⟩ : ∃ c rest, Ipv4.digits ip.d = c :: rest :=
    List.exists_cons_of_ne_nil Nat.toDigits_ne_nil
  have hnumber : (number? (c :: rest)).isSome = true := by rw [← hlast, number?_digits]; rfl
  rw [endsInNumber, ip.fields_text, hlast]
  exact Bool.or_eq_true_iff.2 (.inr hnumber)

theorem ipv4?_text (ip : Ipv4) : ipv4? ip.text.toList = some ip := by
  have hlast : Ipv4.digits ip.d ≠ [] := Nat.toDigits_ne_nil
  have hlt : ∀ o : UInt8, o.toNat < 256 := UInt8.toNat_lt
  have hle (o : UInt8) : o.toNat ≤ 255 := Nat.le_of_lt_succ (hlt o)
  have hofNat : Ipv4.ofNat
      (((ip.a.toNat * 256 + ip.b.toNat) * 256 + ip.c.toNat) <<< 8 + ip.d.toNat) = ip := by
    rw [Ipv4.ofNat, Nat.shiftLeft_eq]
    refine Ipv4.mk.injEq .. ▸ ⟨?_, ?_, ?_, ?_⟩
    all_goals
      apply UInt8.toNat.inj
      rw [UInt8.toNat_ofNat']
      have := hlt ip.a; have := hlt ip.b; have := hlt ip.c; have := hlt ip.d
      omega
  rw [ipv4?, ip.fields_text]
  simpa [hlast, number?_digits] using ⟨⟨hlt _, hle _, hle _, hle _⟩, hofNat⟩

/-- No label of an address stands for another. -/
theorem decodeLabel?_digits (o : UInt8) :
    Domain.decodeLabel? (Ipv4.digits o) = some (Ipv4.digits o) := by
  have hmark : Text.startsWith Domain.encodedMark (String.ofList (Ipv4.digits o)) = false := by
    obtain ⟨c, rest, hdigits⟩ : ∃ c rest, Ipv4.digits o = c :: rest :=
      List.exists_cons_of_ne_nil Nat.toDigits_ne_nil
    have hx : 'x' ≠ c := by
      rintro rfl
      exact absurd (Ipv4.digits_subset o (hdigits ▸ List.mem_cons_self)) (by decide)
    have hlist : Domain.encodedMark.toList = ['x', 'n', '-', '-'] := by decide +kernel
    rw [Text.startsWith, String.toList_ofList, hdigits, hlist]
    simp [List.isPrefixOf, hx]
  rw [Domain.decodeLabel?, Text.after?, hmark]
  rfl

theorem isBidirectional_digits (o : UInt8) :
    Domain.isBidirectional (Ipv4.digits o) = false := by
  have hall : (Ipv4.alphabet.dropLast.all fun c => !Domain.isBidirectional [c]) = true := by
    decide +kernel
  have hdigit := List.all_eq_true.1 hall
  refine List.any_eq_false.2 fun c hc => ?_
  simpa [Domain.isBidirectional] using hdigit c (Ipv4.digits_subset o hc)

theorem isDecodable_text (ip : Ipv4) : Domain.isDecodable ip.text.toList = true := by
  rw [Domain.isDecodable, ip.fields_text]
  simp [decodeLabel?_digits, isBidirectional_digits]

theorem parseSpecial_text (ip : Ipv4) : parseSpecial ip.text.toList = .ok (.ipv4 ip) := by
  have hall : (Ipv4.alphabet.all fun c => !isForbiddenInDomain c) = true := by decide +kernel
  have hforbidden : ip.text.toList.any isForbiddenInDomain = false := by
    refine List.any_eq_false.2 fun c hc => ?_
    simpa using List.all_eq_true.1 hall c (ip.text_subset hc)
  rw [parseSpecial, bracketed?_of_subset (text_subset ip)]
  dsimp only
  rw [name_of_subset (text_subset ip), hforbidden, isDecodable_text, endsInNumber_text, ipv4?_text]
  simp [ip.text_ne_empty]

/-- Where no host has a meaning of its own the address is a name. -/
theorem parseOpaque_text (ip : Ipv4) : parseOpaque ip.text.toList = .ok (.domain ip.text) := by
  have hall : (Ipv4.alphabet.all fun c => !isForbiddenInOpaque c) = true := by decide +kernel
  have hforbidden : ip.text.toList.any isForbiddenInOpaque = false := by
    refine List.any_eq_false.2 fun c hc => ?_
    simpa using List.all_eq_true.1 hall c (ip.text_subset hc)
  have hplain : Percent.encode (fun _ => false) ip.text.toList = ip.text.toList :=
    Percent.encode_of_plain fun c hc => (plain_of_mem (text_subset ip hc)).2.2.1
  rw [parseOpaque, bracketed?_of_subset (text_subset ip)]
  dsimp only
  rw [hforbidden, hplain, String.ofList_toList]
  rfl

end Host

/-! ## Authorities -/

/-- What stands between an address and the path. -/
inductive IsPort : List Char → Prop
  | none : IsPort []
  | some {digits : List Char} (h : digits ⊆ Ipv4.alphabet.dropLast) : IsPort (':' :: digits)

/-- The host that the text of an address stands for. -/
def addressHost (scheme : String) (ip : Ipv4) : Host :=
  if isSpecial scheme then .ipv4 ip else .domain ip.text

theorem authority_subset (ip : Ipv4) (hport : IsPort port) :
    ip.text.toList ++ port ⊆ Host.addressChars := by
  refine List.append_subset.2 ⟨Host.text_subset ip, ?_⟩
  cases hport with
  | none => exact List.nil_subset _
  | some h =>
    refine List.cons_subset.2 ⟨List.mem_cons_self, ?_⟩
    exact fun c hc => List.mem_cons_of_mem _ (List.dropLast_subset _ (h hc))

/-- A character that ends no part of a URL but the host. -/
structure IsInert (c : Char) : Prop where
  slash : ∀ special, isSlash special c = false
  blank : isControlOrSpace c = false
  letter : c.isAlpha = false
  atSign : c ≠ '@'
  fragmentMark : c ≠ '#'
  queryMark : c ≠ '?'
  opening : c ≠ '['
  closing : c ≠ ']'

theorem inert_of_mem {c : Char} (h : c ∈ Host.addressChars) : IsInert c := by
  have hall : Host.addressChars.all fun c =>
      [true, false].all (!isSlash · c) && !isControlOrSpace c && !c.isAlpha && c ≠ '@' && c ≠ '#' &&
        c ≠ '?' && c ≠ '[' && c ≠ ']' := by
    decide +kernel
  have hc := List.all_eq_true.1 hall c h
  simp only [Bool.and_eq_true, decide_eq_true_eq, Bool.not_eq_true', List.all_cons, List.all_nil,
    Bool.and_true, and_assoc] at hc
  obtain ⟨htrue, hfalse, hblank, hletter, hat, hfragment, hquery, hopening, hclosing⟩ := hc
  exact ⟨Bool.forall_bool.2 ⟨hfalse, htrue⟩, hblank, hletter, hat, hfragment, hquery, hopening,
    hclosing⟩

theorem cutUserinfo_of_not_mem (h : '@' ∉ l) : cutUserinfo l = (none, l) := by
  rw [cutUserinfo, cutFirst_of_not_mem (mt List.mem_reverse.1 h)]

/-- The host ends where the port begins. -/
theorem cutHost_append (hl : ∀ c ∈ l, c ≠ ':' ∧ c ≠ '[' ∧ c ≠ ']') (hport : IsPort port) :
    cutHost false (l ++ port) = (l, port) := by
  induction l with
  | nil => cases hport <;> rfl
  | cons c l ih =>
    obtain ⟨⟨hcolon, hopen, hclose⟩, hl⟩ := List.forall_mem_cons.1 hl
    rw [List.cons_append, cutHost]
    · simp [hopen, hclose, ih hl]
    · exact hcolon

theorem addressHost_ne_empty (scheme : String) (ip : Ipv4) : addressHost scheme ip ≠ Host.empty := by
  unfold addressHost
  split
  · exact fun h => Host.noConfusion h
  · exact fun h => ip.text_ne_empty (Host.domain.inj h)

theorem readAuthority_text (hport : IsPort port) :
    readAuthority scheme followed (ip.text.toList ++ port) =
      (readPort scheme port).map fun read =>
        ⟨⟨"", ""⟩, addressHost scheme ip, read.1, read.2⟩ := by
  have hsubset := authority_subset ip hport
  have hne : ip.text.toList ≠ [] := mt String.toList_eq_nil_iff.1 ip.text_ne_empty
  have huser := cutUserinfo_of_not_mem fun h => (inert_of_mem (hsubset h)).atSign rfl
  have hhost : cutHost false (ip.text.toList ++ port) = (ip.text.toList, port) := by
    refine cutHost_append (fun c hc => ?_) hport
    have hinert := inert_of_mem (Host.text_subset ip hc)
    refine ⟨?_, hinert.opening, hinert.closing⟩
    rintro rfl
    exact absurd (ip.text_subset hc) (by decide)
  have hempty := addressHost_ne_empty scheme ip
  unfold addressHost at hempty ⊢
  unfold readAuthority
  -- a special scheme and any other read a host in ways of their own
  cases hspecial : isSpecial scheme with
  | true =>
    simp only [hspecial, if_true] at hempty
    simp only [huser, hhost, Host.parseSpecial_text, hne, hempty, reduceCtorEq, decide_false,
      Bool.false_and, Bool.true_and, Bool.false_eq_true, if_false, List.isEmpty_iff, bind,
      Except.bind, Option.getD_none]
    cases readPort scheme port <;> rfl
  | false =>
    simp only [hspecial, Bool.false_eq_true, if_false] at hempty
    simp only [huser, hhost, Host.parseOpaque_text, hempty, reduceCtorEq, decide_false,
      Bool.false_and, Bool.false_eq_true, if_false, bind, Except.bind, Option.getD_none]
    cases readPort scheme port <;> rfl

end BootServer.Url
