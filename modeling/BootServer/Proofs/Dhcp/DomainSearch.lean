import BootServer.Dhcp.DomainSearch
import BootServer.Proofs.Dhcp.OptionArea
import BootServer.Proofs.Text.Blank
import BootServer.Proofs.Text.Utf8

/-! Lists of domain names on the wire. A reader of uncompressed names finds every name again, with the
parts of it that can be labels, and nothing is left over. A length on the wire is never zero and never
one that only a compressed name may have, so no name ends early and none is taken for a reference. The
list survives being cut into several options and put together again. -/
namespace BootServer.Dhcp.DomainSearch

/-! ## Reading -/

/-- The labels of the name in front, and what follows the zero at its end. Above the length of a label
there are only marks of compression, which have no place here. -/
def readName : Octets → Option (List Octets × Octets)
  | [] => none
  | length :: rest =>
    if length = 0 then some ([], rest)
    else if maxLabel < length.toNat ∨ rest.length < length.toNat then none
    else do
      let (labels, after) ← readName (rest.drop length.toNat)
      return (rest.take length.toNat :: labels, after)
termination_by octets => octets.length
decreasing_by
  simp only [List.length_drop, List.length_cons]
  omega

theorem length_lt_of_readName {octets after : Octets} {labels : List Octets}
    (h : readName octets = some (labels, after)) : after.length < octets.length := by
  induction octets using readName.induct generalizing labels with
  | case1 =>
    rw [readName] at h
    cases h
  | case2 rest =>
    rw [readName, if_pos rfl] at h
    cases h
    exact Nat.lt_succ_self _
  | case3 length rest hzero hbad =>
    rw [readName, if_neg hzero, if_pos hbad] at h
    cases h
  | case4 length rest hzero hgood ih =>
    rw [readName, if_neg hzero, if_neg hgood] at h
    obtain ⟨⟨tail, after'⟩, htail, h⟩ := Option.bind_eq_some_iff.1 h
    cases h
    have hlt := ih htail
    rw [List.length_drop] at hlt
    rw [List.length_cons]
    omega

/-- The names one after the other, as far as the octets go. -/
def readNames (octets : Octets) : Option (List (List Octets)) :=
  if octets = [] then some []
  else
    match h : readName octets with
    | none => none
    | some (labels, after) =>
      have := length_lt_of_readName h
      (readNames after).map (labels :: ·)
termination_by octets.length

/-! ## Labels -/

/-- Can these octets stand as a label? -/
structure IsLabel (label : Octets) : Prop where
  length_pos : 1 ≤ label.length
  length_le : label.length ≤ maxLabel

variable {label rest : Octets} {ls : List Octets}

theorem IsLabel.toNat_length (h : IsLabel label) :
    (UInt8.ofNat label.length).toNat = label.length := by
  have hle : label.length ≤ 63 := h.length_le
  rw [UInt8.toNat_ofNat']
  omega

theorem readName_zero (rest : Octets) : readName (0 :: rest) = some ([], rest) := by
  rw [readName, if_pos rfl]

theorem readName_encodeLabel (h : IsLabel label) (rest : Octets) :
    readName (encodeLabel label ++ rest) =
      (readName rest).map fun (labels, after) => (label :: labels, after) := by
  have hlength := h.toNat_length
  have hzero : UInt8.ofNat label.length ≠ 0 := by
    intro hz
    have hpos := h.length_pos
    rw [hz, UInt8.toNat_zero] at hlength
    omega
  have hgood : ¬ (maxLabel < label.length ∨ (label ++ rest).length < label.length) := by
    have hle := h.length_le
    rw [List.length_append]
    omega
  rw [encodeLabel, List.cons_append, readName, if_neg hzero, hlength, if_neg hgood,
    List.drop_left, List.take_left]
  cases readName rest <;> rfl

theorem readName_labels (h : ∀ label ∈ ls, IsLabel label) (rest : Octets) :
    readName (ls.flatMap encodeLabel ++ 0 :: rest) = some (ls, rest) := by
  induction ls with
  | nil => exact readName_zero rest
  | cons label ls ih =>
    obtain ⟨hlabel, hls⟩ := List.forall_mem_cons.1 h
    rw [List.flatMap_cons, List.append_assoc, readName_encodeLabel hlabel, ih hls]
    rfl

/-! ## Names -/

/-- What of a name goes on the wire: its parts between dots that are not empty, each as far as a label
can hold it. -/
def parts (name : String) : List Octets :=
  ((Text.split '.' name).filter (· ≠ "")).map fun part => (Octets.ofText part).take 63

theorem filter_fields_append_dots {l after : List Char} (h : ∀ c ∈ after, c = '.') :
    (Text.fields '.' (l ++ after)).filter (· ≠ []) = (Text.fields '.' l).filter (· ≠ []) := by
  cases after with
  | nil => rw [List.append_nil]
  | cons c after =>
    obtain ⟨rfl, hafter⟩ := List.forall_mem_cons.1 h
    have hdots : after = List.replicate after.length '.' := List.eq_replicate_of_mem hafter
    have hempty := Text.fields_replicate_append '.' after.length []
    rw [List.append_nil, ← hdots] at hempty
    rw [Text.fields_append_cons, hempty, List.filter_append]
    simp [Text.fields]

theorem filter_split (name : String) :
    (Text.split '.' name).filter (· ≠ "") =
      ((Text.fields '.' name.toList).filter (· ≠ [])).map String.ofList := by
  have hempty : (fun s : String => decide (s ≠ "")) ∘ String.ofList =
      fun l => decide (l ≠ []) := by
    funext l
    simp [String.ofList_eq_empty_iff]
  rw [Text.split, List.filter_map, hempty]

/-- Dots at the end make no difference, since they only add empty parts. -/
theorem labels_eq_parts (name : String) : labels name = parts name := by
  obtain ⟨after, hname, hafter⟩ := Text.exists_dropEndWhile (· = '.') name.toList
  have hdots : ∀ c ∈ after, c = '.' := fun c hc => by simpa using hafter c hc
  have hfields := filter_fields_append_dots (l := Text.dropEndWhile (· = '.') name.toList) hdots
  rw [← hname] at hfields
  rw [labels, parts, filter_split, filter_split, Text.trimEndWhile, String.toList_ofList, hfields]
  rfl

theorem isLabel_of_mem_parts {name : String} (h : label ∈ parts name) : IsLabel label := by
  obtain ⟨part, hpart, rfl⟩ := List.mem_map.1 h
  have hne : part ≠ "" := by simpa using (List.mem_filter.1 hpart).2
  have hpos : 1 ≤ (Octets.ofText part).length := Text.Utf8.length_ofText_pos hne
  constructor
  · rw [List.length_take]
    omega
  · exact List.length_take_le ..

theorem readNames_encode (names : List String) :
    readNames (encode names) = some (names.map parts) := by
  induction names with
  | nil =>
    rw [readNames]
    rfl
  | cons name names ih =>
    have hencode : encode (name :: names) =
        (parts name).flatMap encodeLabel ++ 0 :: encode names := by
      rw [encode, List.flatMap_cons, encodeName, labels_eq_parts, List.append_assoc]
      rfl
    have hlabels : ∀ label ∈ parts name, IsLabel label := fun _ => isLabel_of_mem_parts
    have hread := readName_labels hlabels (encode names)
    have hne : (parts name).flatMap encodeLabel ++ 0 :: encode names ≠ [] := by simp
    rw [hencode, readNames, if_neg hne]
    split
    · next h =>
      rw [hread] at h
      cases h
    · next h =>
      rw [hread] at h
      cases h
      rw [ih]
      rfl

/-- A list of names is read back in full: one name for each, in their order, with the parts of it that
are labels. The same is read once the list has gone through an option area in as many options as it
takes. -/
theorem names_read (names : List String) :
    readNames (encode names) = some (names.map parts) ∧
    (∀ name ∈ names, ∀ label ∈ parts name, IsLabel label) ∧
    ∀ (offset : Nat) (rest : Octets), ∃ its,
      items offset (encodeItem Code.domainSearch (encode names) ++ Code.finish :: rest) = .ok its ∧
      (∀ i ∈ its, i.code = Code.domainSearch) ∧
      readNames (its.flatMap Item.value) = some (names.map parts) := by
  refine ⟨readNames_encode names, fun _ _ _ => isLabel_of_mem_parts, fun offset rest => ?_⟩
  have hfits : ∀ i ∈ fragments Code.domainSearch (encode names), i.Fits :=
    fun _ => fits_of_mem_fragments (by decide) (by decide)
  refine ⟨fragments Code.domainSearch (encode names), ?_, ?_, ?_⟩
  · rw [encodeItem_eq, items_area hfits]
  · intro i hi
    obtain ⟨piece, -, rfl⟩ := List.mem_map.1 hi
    rfl
  · rw [flatMap_value_fragments, readNames_encode]

/-- The empty name, one with dots to spare, and a label that is cut inside a character, as often as it
takes to need a second option. -/
def oddNames : List String :=
  "" :: "..lab..example." :: List.replicate 5 (String.ofList (List.replicate 40 'é'))

/-- What is left of the long label. -/
def cutLabel : Octets := (List.replicate 31 [0xC3, 0xA9]).flatten ++ [0xC3]

theorem names_read_odd :
    let names := [] :: [Octets.ofText "lab", Octets.ofText "example"] :: List.replicate 5 [cutLabel]
    255 < (encode oddNames).length ∧ readNames (encode oddNames) = some names ∧ IsLabel cutLabel ∧
    ∃ its, items 0 (encodeItem Code.domainSearch (encode oddNames) ++ [Code.finish]) = .ok its ∧
      (∀ i ∈ its, i.code = Code.domainSearch) ∧
      readNames (its.flatMap Item.value) = some names := by
  intro names
  have hparts : oddNames.map parts = names := by decide +kernel
  have hmem : cutLabel ∈ parts (String.ofList (List.replicate 40 'é')) := by decide +kernel
  obtain ⟨hread, hlabels, hoptions⟩ := names_read oddNames
  rw [hparts] at hread hoptions
  refine ⟨by decide +kernel, hread, hlabels _ ?_ cutLabel hmem, hoptions 0 []⟩
  exact List.mem_cons_of_mem _ (List.mem_cons_of_mem _ (List.mem_replicate.2 ⟨by decide, rfl⟩))

end BootServer.Dhcp.DomainSearch
