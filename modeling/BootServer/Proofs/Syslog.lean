import BootServer.Proofs.Text.Blank
import BootServer.Proofs.Text.Digits
import BootServer.Proofs.Text.Utf8
import BootServer.Syslog

/-! The messages that datagrams hold. A text that begins with a priority in brackets has the facility
and the severity that the priority stands for; every other text is kept whole, as a notice of the
user facility. So no datagram is lost, and one that was put together from a message is read as it. -/
namespace BootServer.Syslog

open Text.Decimal (IsDigits value?_eq_some_iff isDigits_toDigits)

variable {p t body : List Char} {n : Nat}

/-! ## Priorities -/

/-- A run of digits that stands for a facility and a severity. -/
structure IsPriority (p : List Char) (n : Nat) : Prop where
  digits : IsDigits p n
  length_le : p.length ≤ 3
  value_le : n ≤ 191

/-- Why what stands between the brackets is no priority. -/
inductive NoPriority : List Char → Prop where
  | empty : NoPriority []
  | long {p : List Char} (h : 3 < p.length) : NoPriority p
  | notDigit {p : List Char} {c : Char} (hc : c ∈ p) (h : c.isDigit = false) : NoPriority p
  | large {p : List Char} {n : Nat} (h : IsDigits p n) (hn : 191 < n) : NoPriority p

theorem IsPriority.close_not_mem (h : IsPriority p n) : '>' ∉ p := fun hmem => by
  simpa using h.digits.isDigit '>' hmem

theorem noPriority_iff : NoPriority p ↔ ∀ n, ¬ IsPriority p n := by
  constructor
  · intro h n hp
    cases h with
    | empty => exact hp.digits.ne_nil rfl
    | long h => exact Nat.not_lt_of_le hp.length_le h
    | notDigit hc h => simpa [h] using hp.digits.isDigit _ hc
    | large h hn =>
      have hvalue := h.value.symm.trans hp.digits.value
      exact Nat.not_lt_of_le hp.value_le (hvalue ▸ hn)
  · intro h
    by_cases hnil : p = []
    · exact hnil ▸ .empty
    by_cases hlong : 3 < p.length
    · exact .long hlong
    by_cases hdigit : ∀ c ∈ p, c.isDigit = true
    · have hdigits : IsDigits p (Nat.ofDigitChars 10 p 0) := ⟨hnil, hdigit, rfl⟩
      refine .large hdigits (Nat.lt_of_not_le fun hle => ?_)
      exact h _ ⟨hdigits, Nat.le_of_not_lt hlong, hle⟩
    · obtain ⟨c, hc⟩ := Classical.not_forall.1 hdigit
      obtain ⟨hmem, hc⟩ := Classical.not_imp.1 hc
      exact .notDigit hmem (by simpa using hc)

theorem IsPriority.lt (h : IsPriority p n) : n / 8 < 24 := by
  have hle := h.value_le
  omega

theorem priority?_of_isPriority (h : IsPriority p n) :
    priority? p = some (⟨n / 8, h.lt⟩, ⟨n % 8, Nat.mod_lt _ (by decide)⟩) := by
  have hlong : ¬ p.length > 3 := Nat.not_lt_of_le h.length_le
  rw [priority?, if_neg hlong, value?_eq_some_iff.2 h.digits]
  exact dif_pos h.lt

theorem exists_isPriority {place : Facility × Severity} (h : priority? p = some place) :
    ∃ n, IsPriority p n := by
  unfold priority? at h
  split at h
  · cases h
  · next hlong =>
    obtain ⟨n, hn, h⟩ := Option.bind_eq_some_iff.1 h
    split at h
    · next hlt => exact ⟨n, value?_eq_some_iff.1 hn, Nat.le_of_not_lt hlong, by omega⟩
    · cases h

theorem NoPriority.priority?_eq_none (h : NoPriority p) : priority? p = none := by
  refine Option.eq_none_iff_forall_ne_some.2 fun place hplace => ?_
  obtain ⟨n, hp⟩ := exists_isPriority hplace
  exact noPriority_iff.1 h n hp

/-! ## Texts -/

/-- Why a text does not begin with a priority in brackets. -/
inductive Unmarked : List Char → Prop where
  | unopened {t : List Char} (h : t.head? ≠ some '<') : Unmarked t
  | unclosed {t : List Char} (h : '>' ∉ t) : Unmarked t
  | bracketed {p : List Char} (hp : '>' ∉ p) (h : NoPriority p) (body : List Char) :
    Unmarked ('<' :: (p ++ '>' :: body))

theorem unmarked_or_bracketed (t : List Char) :
    Unmarked t ∨ ∃ p n body, IsPriority p n ∧ t = '<' :: (p ++ '>' :: body) := by
  by_cases hopen : t.head? = some '<'
  · obtain ⟨rest, rfl⟩ := List.head?_eq_some_iff.1 hopen
    by_cases hclose : '>' ∈ rest
    · obtain ⟨p, body, rfl, hp⟩ := List.eq_append_cons_of_mem hclose
      by_cases hpriority : NoPriority p
      · exact .inl (.bracketed hp hpriority body)
      · obtain ⟨n, hn⟩ := Classical.not_forall_not.1 (mt noPriority_iff.2 hpriority)
        exact .inr ⟨p, n, body, hn, rfl⟩
    · exact .inl (.unclosed (by simpa using hclose))
  · exact .inl (.unopened hopen)

theorem cutPriority?_cons (rest : List Char) :
    cutPriority? ('<' :: rest) = (Text.cutFirst '>' rest).bind fun cut =>
      (priority? cut.1).map (·, cut.2) := by
  rw [cutPriority?]
  cases Text.cutFirst '>' rest with
  | none => rfl
  | some cut =>
    obtain ⟨p, body⟩ := cut
    show (priority? p >>= _) = Option.map _ (priority? p)
    cases priority? p <;> rfl

theorem cutPriority?_bracketed (hp : '>' ∉ p) (body : List Char) :
    cutPriority? ('<' :: (p ++ '>' :: body)) = (priority? p).map (·, body) := by
  rw [cutPriority?_cons, Text.cutFirst_append_cons hp, Option.bind_some]

theorem IsPriority.cutPriority? (h : IsPriority p n) (body : List Char) :
    cutPriority? ('<' :: (p ++ '>' :: body)) =
      some ((⟨n / 8, h.lt⟩, ⟨n % 8, Nat.mod_lt _ (by decide)⟩), body) := by
  rw [cutPriority?_bracketed h.close_not_mem, priority?_of_isPriority h, Option.map_some]

theorem Unmarked.cutPriority? (h : Unmarked t) : cutPriority? t = none := by
  cases h with
  | unopened h =>
    unfold Syslog.cutPriority?
    split
    · simp at h
    · rfl
  | unclosed h =>
    unfold Syslog.cutPriority?
    split
    · rw [Text.cutFirst_of_not_mem (List.not_mem_of_not_mem_cons h)]
      rfl
    · rfl
  | bracketed hp h body =>
    rw [cutPriority?_bracketed hp, h.priority?_eq_none]
    rfl

/-- A text has a priority in front or a reason to have none, but not both. -/
theorem unmarked_iff :
    Unmarked t ↔ ¬ ∃ p n body, IsPriority p n ∧ t = '<' :: (p ++ '>' :: body) := by
  refine ⟨fun h => ?_, (unmarked_or_bracketed t).resolve_right⟩
  rintro ⟨p, n, body, hp, rfl⟩
  have hcut := h.cutPriority?
  rw [hp.cutPriority?] at hcut
  cases hcut

/-! ## Datagrams -/

/-- Newlines, carriage returns and NULs may follow a message. -/
def Trails (c : Char) : Prop := c = '\n' ∨ c = '\r' ∨ c = '\x00'

/-- The text of a datagram, without what trails at its end. -/
structure IsStripped (data : Octets) (t : List Char) : Prop where
  behind : ∃ after, (Text.Utf8.decodeLossy data).toList = t ++ after ∧ ∀ c ∈ after, Trails c
  last : ∀ c ∈ t.getLast?, ¬ Trails c

theorem isTrailing_iff {c : Char} : isTrailing c = true ↔ Trails c := by
  simp [isTrailing, Trails, or_assoc]

theorem IsStripped.parse_eq {data : Octets} (h : IsStripped data t) : parse data = parseText t := by
  obtain ⟨after, hdata, hafter⟩ := h.behind
  rw [parse, hdata, Text.dropEndWhile_append]
  · exact fun c hc => isTrailing_iff.2 (hafter c hc)
  · exact fun c hc => Bool.eq_false_iff.2 (mt isTrailing_iff.1 (h.last c hc))

theorem exists_isStripped (data : Octets) : ∃ t, IsStripped data t := by
  obtain ⟨after, hdata, hafter⟩ :=
    Text.exists_dropEndWhile isTrailing (Text.Utf8.decodeLossy data).toList
  refine ⟨_, ⟨after, hdata, fun c hc => isTrailing_iff.1 (hafter c hc)⟩, fun c hc => ?_⟩
  rw [← isTrailing_iff, Text.getLast?_dropEndWhile c hc]
  exact Bool.false_ne_true

/-- The entries of the tables at these places, and the body as it begins behind its blanks. -/
structure Message.Tells (m : Message) (facility severity : Nat) (body : List Char) : Prop where
  facility : facilityNames[facility]? = some m.facility.name
  severity : severityNames[severity]? = some m.severity.name
  text : m.text = String.ofList (body.dropWhile Text.isBlank)

theorem IsPriority.tells (h : IsPriority p n) (body : List Char) :
    (parseText ('<' :: (p ++ '>' :: body))).Tells (n / 8) (n % 8) body := by
  rw [parseText, h.cutPriority?]
  exact ⟨by simp [Facility.name, Vector.get, h.lt], by simp [Severity.name, Vector.get], rfl⟩

theorem Unmarked.parseText_eq (h : Unmarked t) :
    parseText t = { facility := 1, severity := 5, text := String.ofList (t.dropWhile Text.isBlank) } := by
  rw [parseText, h.cutPriority?]
  rfl

/-! ## Written messages -/

/-- A message with its priority in front, in at least so many digits. -/
def Message.written (m : Message) (width : Nat) : List Char :=
  '<' :: ((Nat.toDigits 10 (8 * m.facility.val + m.severity.val)).leftpad width '0' ++
    '>' :: m.text.toList)

/-- A text without NULs, and without blanks at its ends. -/
structure IsBare (s : String) : Prop where
  nulFree : '\x00' ∉ s.toList
  head : ∀ c ∈ s.toList.head?, Text.isBlank c = false
  last : ∀ c ∈ s.toList.getLast?, Text.isBlank c = false

variable {m : Message} {width : Nat} {after : List Char}

theorem Message.isPriority (m : Message) (hwidth : width ≤ 3) :
    IsPriority ((Nat.toDigits 10 (8 * m.facility.val + m.severity.val)).leftpad width '0')
      (8 * m.facility.val + m.severity.val) := by
  have hfacility := m.facility.isLt
  have hseverity := m.severity.isLt
  refine ⟨(isDigits_toDigits _).leftpad width, ?_, by omega⟩
  rw [List.length_leftpad, Nat.max_le, Nat.length_toDigits_le_iff (by decide) (by decide)]
  exact ⟨hwidth, by omega⟩

theorem IsBare.not_trails {s : String} (h : IsBare s) :
    ∀ c ∈ s.toList.getLast?, ¬ Trails c := by
  intro c hc htrails
  have hblank := h.last c hc
  rcases htrails with rfl | rfl | rfl
  · simp [Text.isBlank] at hblank
  · simp [Text.isBlank] at hblank
  · exact h.nulFree (List.mem_of_getLast? hc)

theorem isStripped_written (h : IsBare m.text) (hafter : ∀ c ∈ after, Trails c) :
    IsStripped (Octets.ofText (String.ofList (m.written width ++ after))) (m.written width) where
  behind := ⟨after, by rw [Text.Utf8.decodeLossy_ofText, String.toList_ofList], hafter⟩
  last c hc := by
    rw [Message.written, ← List.cons_append, List.append_cons, List.getLast?_append] at hc
    cases hlast : m.text.toList.getLast? with
    | none =>
      -- behind an empty text the bracket is last
      rw [hlast, Option.none_or, List.getLast?_concat] at hc
      cases hc
      simp [Trails]
    | some last =>
      rw [hlast] at hc
      cases hc
      exact h.not_trails c hlast

theorem parse_written (hwidth : width ≤ 3) (h : IsBare m.text)
    (hafter : ∀ c ∈ after, Trails c) :
    parse (Octets.ofText (String.ofList (m.written width ++ after))) = m := by
  have hbody : m.text.toList.dropWhile Text.isBlank = m.text.toList := by
    cases htext : m.text.toList with
    | nil => rfl
    | cons c l => exact List.dropWhile_cons_of_neg (by simp [h.head c (by simp [htext])])
  have hfacility : (8 * m.facility.val + m.severity.val) / 8 = m.facility.val := by omega
  have hseverity : (8 * m.facility.val + m.severity.val) % 8 = m.severity.val := by omega
  rw [(isStripped_written h hafter).parse_eq, parseText, Message.written,
    (m.isPriority hwidth).cutPriority?]
  simp [hbody, hfacility, hseverity]

/-- Every datagram is read, and nothing of it is lost. What is left of its text when newlines and NULs
are taken off its end begins with a priority in brackets, which names entries of the two tables, or
has one of the reasons not to, and is then a notice of the user facility as a whole. A message that
was written in such a way is read as the message, zeros in front of its priority or not. -/
theorem parse_datagram (data : Octets) :
    (∃ t, IsStripped data t) ∧
    (∀ t, IsStripped data t →
      (∀ p n body, IsPriority p n → t = '<' :: (p ++ '>' :: body) →
        (parse data).Tells (n / 8) (n % 8) body) ∧
      ((¬ ∃ p n body, IsPriority p n ∧ t = '<' :: (p ++ '>' :: body)) →
        (parse data).facility.name = "user" ∧ (parse data).severity.name = "notice" ∧
          (parse data).text = String.ofList (t.dropWhile Text.isBlank)) ∧
      (Unmarked t ↔ ¬ ∃ p n body, IsPriority p n ∧ t = '<' :: (p ++ '>' :: body))) ∧
    ∀ (m : Message) (width : Nat) (after : List Char), width ≤ 3 → IsBare m.text →
      (∀ c ∈ after, Trails c) →
      parse (Octets.ofText (String.ofList (m.written width ++ after))) = m := by
  refine ⟨exists_isStripped data, fun t ht => ⟨?_, fun hnone => ?_, unmarked_iff⟩,
    fun m width after => parse_written⟩
  · rintro p n body hp rfl
    rw [ht.parse_eq]
    exact hp.tells body
  · rw [ht.parse_eq, (unmarked_iff.2 hnone).parseText_eq]
    exact ⟨rfl, rfl, rfl⟩

/-- Brackets in a body, a priority that no facility has, and a message that is written with zeros. -/
theorem parse_datagram_bracketed :
    (parse (Octets.ofText "<165> a>b\r\n")).Tells 20 5 [' ', 'a', '>', 'b'] ∧
      (parse (Octets.ofText "<192>a")).text = "<192>a" ∧
      parse (Octets.ofText "<003>a <b\n\x00") = { facility := 0, severity := 3, text := "a <b" } := by
  have hmarked : IsStripped (Octets.ofText "<165> a>b\r\n") "<165> a>b".toList :=
    ⟨⟨['\r', '\n'], by rw [Text.Utf8.decodeLossy_ofText]; decide, by simp [Trails]⟩,
      by simp [Trails]⟩
  have hlarge : IsStripped (Octets.ofText "<192>a") "<192>a".toList :=
    ⟨⟨[], by rw [Text.Utf8.decodeLossy_ofText]; decide, by simp⟩, by simp [Trails]⟩
  have hpriority : IsPriority ['1', '6', '5'] 165 :=
    ⟨⟨by simp, by simp, rfl⟩, by decide, by decide⟩
  have hunmarked : Unmarked "<192>a".toList :=
    .bracketed (p := ['1', '9', '2']) (by decide)
      (.large ⟨by simp, by simp, rfl⟩ (by decide)) ['a']
  obtain ⟨-, hread, -⟩ := parse_datagram (Octets.ofText "<165> a>b\r\n")
  obtain ⟨-, hkept, hwritten⟩ := parse_datagram (Octets.ofText "<192>a")
  obtain ⟨-, hplain, hnone⟩ := hkept _ hlarge
  refine ⟨(hread _ hmarked).1 ['1', '6', '5'] 165 _ hpriority (by decide), ?_, ?_⟩
  · rw [(hplain (hnone.1 hunmarked)).2.2]
    decide
  · exact hwritten { facility := 0, severity := 3, text := "a <b" } 3 ['\n', '\x00'] (by decide)
      ⟨by decide, by simp [Text.isBlank], by simp [Text.isBlank]⟩ (by simp [Trails])

end BootServer.Syslog
