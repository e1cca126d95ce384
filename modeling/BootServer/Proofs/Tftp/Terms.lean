import BootServer.Proofs.Tftp.RequestGrammar

/-! The terms of a transfer. What is granted was asked for, and what a client is told of it is what
the transfer goes by; what cannot be granted leaves the terms as they are without it. -/
namespace BootServer.Tftp

variable {o : Options} {name text : String} {value : Option Nat} {n fileSize limit timeout : Nat}
  {p : String × String}

/-! ## What a client asks for -/

/-- The number that a client sent for an option. -/
def asked? (o : Options) (name : String) : Option Nat :=
  (o.get? name).bind (Text.Decimal.read? Text.Decimal.max64)

theorem blockSize?_eq (o : Options) (limit : Nat) :
    blockSize? o limit = (asked? o "blksize").map (grantedBlockSize · limit) := by
  unfold blockSize? asked?
  cases o.get? "blksize" with
  | none => rfl
  | some v =>
    show Option.bind (Text.Decimal.read? Text.Decimal.max64 v) _ =
      Option.map _ (Text.Decimal.read? Text.Decimal.max64 v)
    cases Text.Decimal.read? Text.Decimal.max64 v <;> rfl

theorem timeoutSeconds?_eq_some_iff :
    timeoutSeconds? o = some n ↔ asked? o "timeout" = some n ∧ 1 ≤ n ∧ n ≤ 255 := by
  have heq : timeoutSeconds? o =
      (asked? o "timeout").bind fun s => if 1 ≤ s && s ≤ 255 then some s else none := by
    unfold timeoutSeconds? asked?
    cases o.get? "timeout" <;> rfl
  rw [heq, Option.bind_eq_some_iff]
  constructor
  · rintro ⟨s, hs, h⟩
    split at h
    · next hrange =>
      cases h
      exact ⟨hs, by simpa using hrange⟩
    · cases h
  · rintro ⟨hs, hrange⟩
    exact ⟨n, hs, if_pos (by simpa using hrange)⟩

/-! ## What is granted -/

/-- The text says the number to every reader who has room for it. -/
def Tells (text : String) (n : Nat) : Prop :=
  ∀ limit, Text.Decimal.read? limit text = if n ≤ limit then some n else none

theorem tells_text (n : Nat) : Tells (Text.Decimal.text n) n := fun limit =>
  Text.Decimal.read?_text limit n

theorem mem_granted : p ∈ granted name value ↔ ∃ n, value = some n ∧ p = (name, Text.Decimal.text n) := by
  cases value with
  | none => simp [granted]
  | some n => simp [granted]

theorem names_granted (name : String) (value : Option Nat) :
    (granted name value).map (·.1) = if value.isSome then [name] else [] := by
  cases value <;> rfl

theorem grantedBlockSize_bounds (requested limit : Nat) :
    minBlockSize ≤ grantedBlockSize requested limit ∧
      grantedBlockSize requested limit ≤ maxBlockSize := by
  unfold grantedBlockSize minBlockSize maxBlockSize
  omega

theorem grantedBlockSize_le (hn : minBlockSize ≤ n) (hlimit : minBlockSize ≤ limit) :
    grantedBlockSize n limit ≤ n ∧ grantedBlockSize n limit ≤ limit := by
  unfold grantedBlockSize
  omega

theorem grantedBlockSize_eq (hn : minBlockSize ≤ n) (hlimit : n ≤ limit) (hmax : n ≤ maxBlockSize) :
    grantedBlockSize n limit = n := by
  unfold grantedBlockSize
  omega

/-- What an option that was granted means: the client sent it, and the transfer goes by what its text
says. -/
inductive Terms.Grants (t : Terms) (o : Options) (fileSize limit : Nat) : String × String → Prop where
  | blockSize {n : Nat} {text : String} (asked : asked? o "blksize" = some n)
    (told : Tells text t.blockSize)
    (notMore : minBlockSize ≤ n → minBlockSize ≤ limit → t.blockSize ≤ n ∧ t.blockSize ≤ limit)
    (asAsked : minBlockSize ≤ n → n ≤ limit → n ≤ maxBlockSize → t.blockSize = n) :
    Grants t o fileSize limit ("blksize", text)
  | timeout {seconds : Nat} {text : String} (asked : asked? o "timeout" = some seconds)
    (inRange : 1 ≤ seconds ∧ seconds ≤ 255) (told : Tells text seconds)
    (used : t.timeout = seconds * 1000) :
    Grants t o fileSize limit ("timeout", text)
  | transferSize {text : String} (asked : (o.get? "tsize").isSome = true)
    (told : Tells text fileSize) :
    Grants t o fileSize limit ("tsize", text)

/-- The names of the options that are granted. -/
def Terms.names (t : Terms) : List String := t.granted.map (·.1)

/-- The terms hold what was asked for and can be granted, and nothing else. -/
structure Terms.Honest (t : Terms) (o : Options) (fileSize limit timeout : Nat) : Prop where
  least : minBlockSize ≤ t.blockSize
  most : t.blockSize ≤ maxBlockSize
  order : t.names.Sublist ["blksize", "timeout", "tsize"]
  grants : ∀ p ∈ t.granted, t.Grants o fileSize limit p
  blockSize_iff : "blksize" ∈ t.names ↔ ∃ n, asked? o "blksize" = some n
  timeout_iff : "timeout" ∈ t.names ↔ ∃ n, asked? o "timeout" = some n ∧ 1 ≤ n ∧ n ≤ 255
  transferSize : ∀ n, asked? o "tsize" = some n → "tsize" ∈ t.names
  blockSize_default : "blksize" ∉ t.names → t.blockSize = defaultBlockSize
  timeout_default : "timeout" ∉ t.names → t.timeout = timeout

namespace ReadRequest

variable {r : ReadRequest}

theorem names_negotiate (r : ReadRequest) (fileSize limit timeout : Nat) :
    (r.negotiate fileSize limit timeout).names =
      (if (blockSize? r.options limit).isSome then ["blksize"] else []) ++
      (if (timeoutSeconds? r.options).isSome then ["timeout"] else []) ++
      (if (transferSize? r.options fileSize).isSome then ["tsize"] else []) := by
  show List.map _ (_ ++ _ ++ _) = _
  rw [List.map_append, List.map_append, names_granted, names_granted, names_granted]

theorem blksize_mem_names : "blksize" ∈ (r.negotiate fileSize limit timeout).names ↔
    (blockSize? r.options limit).isSome = true := by
  rw [names_negotiate]
  simp

theorem timeout_mem_names : "timeout" ∈ (r.negotiate fileSize limit timeout).names ↔
    (timeoutSeconds? r.options).isSome = true := by
  rw [names_negotiate]
  simp

theorem tsize_mem_names : "tsize" ∈ (r.negotiate fileSize limit timeout).names ↔
    (r.options.get? "tsize").isSome = true := by
  rw [names_negotiate, transferSize?, Option.isSome_map]
  simp

theorem names_sublist (r : ReadRequest) (fileSize limit timeout : Nat) :
    (r.negotiate fileSize limit timeout).names.Sublist ["blksize", "timeout", "tsize"] := by
  have hone : ∀ (b : Bool) (name : String), (if b then [name] else []).Sublist [name] := by
    intro b name
    cases b
    · exact List.nil_sublist _
    · exact List.Sublist.refl _
  rw [names_negotiate]
  exact ((hone _ _).append (hone _ _)).append (hone _ _)

theorem blockSize_negotiate (r : ReadRequest) (fileSize limit timeout : Nat) :
    (r.negotiate fileSize limit timeout).blockSize =
      (blockSize? r.options limit).getD defaultBlockSize := rfl

theorem timeout_negotiate (r : ReadRequest) (fileSize limit timeout : Nat) :
    (r.negotiate fileSize limit timeout).timeout =
      (timeoutSeconds? r.options).elim timeout (· * 1000) := rfl

theorem blockSize_bounds (r : ReadRequest) (fileSize limit timeout : Nat) :
    minBlockSize ≤ (r.negotiate fileSize limit timeout).blockSize ∧
      (r.negotiate fileSize limit timeout).blockSize ≤ maxBlockSize := by
  rw [blockSize_negotiate, blockSize?_eq]
  cases asked? r.options "blksize" with
  | none =>
    show minBlockSize ≤ defaultBlockSize ∧ defaultBlockSize ≤ maxBlockSize
    decide
  | some n => exact grantedBlockSize_bounds n limit

/-- What is granted, option by option. -/
theorem grants_of_mem (hp : p ∈ (r.negotiate fileSize limit timeout).granted) :
    (r.negotiate fileSize limit timeout).Grants r.options fileSize limit p := by
  rcases List.mem_append.1 hp with hp | hp
  · rcases List.mem_append.1 hp with hp | hp
    · obtain ⟨size, hsize, rfl⟩ := mem_granted.1 hp
      have hused : (r.negotiate fileSize limit timeout).blockSize = size := by
        rw [blockSize_negotiate, hsize]
        rfl
      rw [blockSize?_eq, Option.map_eq_some_iff] at hsize
      obtain ⟨n, hn, rfl⟩ := hsize
      refine .blockSize hn ?_ ?_ ?_ <;> rw [hused]
      · exact tells_text _
      · exact grantedBlockSize_le
      · exact grantedBlockSize_eq
    · obtain ⟨seconds, hseconds, rfl⟩ := mem_granted.1 hp
      obtain ⟨hasked, hrange⟩ := timeoutSeconds?_eq_some_iff.1 hseconds
      refine .timeout hasked hrange (tells_text _) ?_
      rw [timeout_negotiate, hseconds]
      rfl
  · obtain ⟨size, hsize, rfl⟩ := mem_granted.1 hp
    obtain ⟨v, hv, rfl⟩ := Option.map_eq_some_iff.1 hsize
    exact .transferSize (by rw [hv]; rfl) (tells_text _)

theorem honest_negotiate (r : ReadRequest) (fileSize limit timeout : Nat) :
    (r.negotiate fileSize limit timeout).Honest r.options fileSize limit timeout where
  least := (r.blockSize_bounds fileSize limit timeout).1
  most := (r.blockSize_bounds fileSize limit timeout).2
  order := r.names_sublist fileSize limit timeout
  grants _ hp := grants_of_mem hp
  blockSize_iff := by
    rw [blksize_mem_names, blockSize?_eq, Option.isSome_map, Option.isSome_iff_exists]
  timeout_iff := by
    rw [timeout_mem_names, Option.isSome_iff_exists]
    exact exists_congr fun _ => timeoutSeconds?_eq_some_iff
  transferSize n hn := by
    rw [asked?, Option.bind_eq_some_iff] at hn
    obtain ⟨v, hv, -⟩ := hn
    rw [tsize_mem_names, hv]
    rfl
  blockSize_default h := by
    rw [blksize_mem_names, Option.not_isSome_iff_eq_none] at h
    rw [blockSize_negotiate, h]
    rfl
  timeout_default h := by
    rw [timeout_mem_names, Option.not_isSome_iff_eq_none] at h
    rw [timeout_negotiate, h]
    rfl

/-- Nothing that is granted has a NUL in it. -/
theorem nulFree_granted {p : String × String}
    (hp : p ∈ (r.negotiate fileSize limit timeout).granted) : NulFree p.1 ∧ NulFree p.2 := by
  have hname := (r.names_sublist fileSize limit timeout).subset (List.mem_map_of_mem hp)
  have htext : ∃ n, p.2 = Text.Decimal.text n := by
    rcases List.mem_append.1 hp with hp | hp
    · rcases List.mem_append.1 hp with hp | hp
      all_goals
        obtain ⟨n, -, rfl⟩ := mem_granted.1 hp
        exact ⟨n, rfl⟩
    · obtain ⟨n, -, rfl⟩ := mem_granted.1 hp
      exact ⟨n, rfl⟩
  obtain ⟨n, hn⟩ := htext
  refine ⟨?_, hn ▸ nulFree_decimal n⟩
  simp only [List.mem_cons, List.not_mem_nil, or_false] at hname
  rcases hname with h | h | h <;> rw [h] <;> exact nulFree_ofList rfl

end ReadRequest

/-! ## Telling what is granted -/

theorem encode_optionAck (list : List (String × String)) :
    (Packet.optionAck list).encode =
      encodeFields Opcode.optionAck (Options.toFields list none) := by
  rw [Packet.encode, encodeFields, Options.toFields]
  simp [List.flatMap_assoc]

/-- The fields of an acknowledgement are what it acknowledges. -/
theorem fields_optionAck {list : List (String × String)}
    (h : ∀ p ∈ list, NulFree p.1 ∧ NulFree p.2) :
    Text.fields 0 ((Packet.optionAck list).encode.drop 2) =
      (list.flatMap fun p => [Octets.ofText p.1, Octets.ofText p.2]) ++ [[]] := by
  have hfree : ∀ s ∈ Options.toFields list none, NulFree s := by
    intro s hs
    simp only [Options.toFields, Option.toList_none, List.append_nil, List.mem_flatMap,
      List.mem_cons, List.not_mem_nil, or_false] at hs
    obtain ⟨p, hp, rfl | rfl⟩ := hs
    · exact (h p hp).1
    · exact (h p hp).2
  have hdrop : (Packet.optionAck list).encode.drop 2 =
      (Options.toFields list none).flatMap encodeField := by
    rw [encode_optionAck]
    rfl
  rw [hdrop, fields_flatMap_encodeField hfree]
  simp [Options.toFields, List.map_flatMap]

/-- The block after one that was full begins where that one ended, within the file. -/
theorem Transfer.next?_block {t : Transfer} {number : UInt16} {offset : Nat} {next : Position}
    (hpos : 0 < t.terms.blockSize) (h : t.next? (.block number offset) = some next) :
    next = .block (number + 1) (offset + t.terms.blockSize) ∧
      offset + t.terms.blockSize ≤ t.content.length := by
  rw [next?] at h
  split at h
  · cases h
  · next hfull =>
    cases h
    rw [chunk, List.length_take, List.length_drop] at hfull
    exact ⟨rfl, by omega⟩

/-- The terms of a transfer are honest: what is granted was asked for, in a form that can be granted,
and it is told in numbers that the transfer goes by, in one acknowledgement whose fields are just
these names and numbers. What is not granted leaves the block size and the timeout that hold without
it. With any of these block sizes each block but the last moves the transfer on. -/
theorem negotiate_honest (r : ReadRequest) (fileSize limit timeout : Nat) :
    let terms := r.negotiate fileSize limit timeout
    terms.Honest r.options fileSize limit timeout ∧
      (∀ content number offset next,
        Transfer.next? ⟨content, terms⟩ (.block number offset) = some next →
        next = .block (number + 1) (offset + terms.blockSize) ∧
          offset < offset + terms.blockSize ∧ offset + terms.blockSize ≤ content.length) ∧
      (Packet.optionAck terms.granted).encode.take 2 = Octets.ofWord16 Opcode.optionAck ∧
      Text.fields 0 ((Packet.optionAck terms.granted).encode.drop 2) =
        (terms.granted.flatMap fun p => [Octets.ofText p.1, Octets.ofText p.2]) ++ [[]] := by
  intro terms
  have hpos : 0 < terms.blockSize :=
    Nat.lt_of_lt_of_le (by decide) (r.blockSize_bounds fileSize limit timeout).1
  refine ⟨r.honest_negotiate fileSize limit timeout, ?_, ?_, ?_⟩
  · intro content number offset next h
    obtain ⟨hnext, hle⟩ := Transfer.next?_block hpos h
    exact ⟨hnext, Nat.lt_add_of_pos_right hpos, hle⟩
  · rw [encode_optionAck]
    rfl
  · exact fields_optionAck fun p hp => ReadRequest.nulFree_granted hp

/-- A request for blocks smaller than any that are sent, and for the size of the file in a form that
is no number. -/
def oddRequest : ReadRequest where
  file := "ipxe.efi"
  mode := "octet"
  options := [("blksize", "2"), ("tsize", "abc")]

/-- Neither is passed over. -/
theorem odd_options_granted :
    asked? oddRequest.options "blksize" = some 2 ∧ 2 < minBlockSize ∧
      asked? oddRequest.options "tsize" = none ∧
      (oddRequest.negotiate 1000 1468 5000).granted = [("blksize", "8"), ("tsize", "1000")] ∧
      (oddRequest.negotiate 1000 1468 5000).blockSize ≠ defaultBlockSize := by
  decide +kernel

end BootServer.Tftp
