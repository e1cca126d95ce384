import BootServer.Net.Address
import BootServer.Proofs.Except
import BootServer.Proofs.Net.Ipv6

/-! The text of an address of either family is read back as the address: no text of the one family
is an address of the other. Nothing is read as an address that has other characters than these. -/
namespace BootServer

/-- An address that has a group before its first point is of the sixth version. -/
theorem Ipv4.parseChars?_of_long {first rest : List Char} (hdot : '.' ∉ first)
    (hlong : 3 < first.length) : parseChars? (first ++ '.' :: rest) = none := by
  have hoctet : octet? first = none := by simp [octet?, hlong]
  rw [parseChars?, Text.fields_append hdot, List.mapM_cons, hoctet]
  rfl

theorem Ipv6.ipv4_parse?_text (ip : Ipv6) : Ipv4.parse? ip.text = none := by
  rw [Ipv4.parse?]
  cases h : ip.mapped? with
  | none =>
    rw [text_of_mapped?_eq_none h]
    exact Ipv4.parseChars?_of_not_mem fun hdot => absurd (ip.hexText_subset hdot) (by decide)
  | some v4 =>
    have hfront : ':' :: ':' :: (digits 0xFFFF ++ ':' :: v4.text.toList) =
        ("::ffff:".toList ++ Ipv4.digits v4.a) ++
          '.' :: (Ipv4.digits v4.b ++ [Ipv4.digits v4.c, Ipv4.digits v4.d].flatMap ('.' :: ·)) := by
      have hdigits : digits 0xFFFF = "ffff".toList := by decide
      rw [hdigits, Ipv4.toList_text]
      simp
    have hdot : '.' ∉ "::ffff:".toList ++ Ipv4.digits v4.a := by
      rw [List.mem_append, not_or]
      exact ⟨by decide, Ipv4.dot_not_mem_digits v4.a⟩
    rw [text_of_mapped? h, hfront]
    exact Ipv4.parseChars?_of_long hdot (by simp)

/-! ## What addresses are written with -/

theorem Ipv4.isDigit_of_mem {l : List Char} {ip : Ipv4} (h : parseChars? l = some ip) {c : Char}
    (hc : c ∈ l) : c = '.' ∨ c.isDigit = true := by
  rcases Text.exists_field_of_mem hc with hdot | ⟨field, hfield, hc⟩
  · exact .inl hdot
  · obtain ⟨list, hlist, -⟩ := Option.bind_eq_some_iff.1 h
    obtain ⟨o, ho⟩ := exists_of_mapM_eq_some hlist hfield
    unfold octet? at ho
    split at ho
    · cases ho
    · obtain ⟨n, hn, -⟩ := Option.map_eq_some_iff.1 ho
      obtain ⟨hvalue, -⟩ := Option.filter_eq_some_iff.1 hn
      exact .inr ((Text.Decimal.value?_eq_some_iff.1 hvalue).isDigit c hc)

namespace Ipv6

/-- A character that may stand in an address. -/
def Stands (c : Char) : Prop := c = ':' ∨ c = '.' ∨ c.isDigit = true ∨ (Text.Hex.value? c).isSome = true

theorem stands_of_group? {l : List Char} {g : UInt16} (h : group? l = some g) :
    ∀ c ∈ l, Stands c := by
  intro c hc
  unfold group? at h
  split at h
  · cases h
  · obtain ⟨n, hn, -⟩ := Option.map_eq_some_iff.1 h
    exact .inr (.inr (.inr (Text.Hex.isSome_of_foldlM_push hn c hc)))

theorem stands_of_ipv4 {l : List Char} {ip : Ipv4} (h : Ipv4.parseChars? l = some ip) :
    ∀ c ∈ l, Stands c := by
  intro c hc
  rcases Ipv4.isDigit_of_mem h hc with hdot | hdigit
  · exact .inr (.inl hdot)
  · exact .inr (.inr (.inl hdigit))

theorem stands_of_groups? {mixed : Bool} {l : List Char} {gs : List UInt16}
    (h : groups? mixed l = some gs) : ∀ c ∈ l, Stands c := by
  intro c hc
  have hplace : c = ':' ∨ ∃ field ∈ Text.fields ':' l, c ∈ field := Text.exists_field_of_mem hc
  rcases hplace with hcolon | ⟨field, hfield, hc⟩
  · exact .inl hcolon
  have hne : l.isEmpty = false := by
    cases l with
    | nil => cases hc
    | cons => rfl
  rw [groups?, hne, if_neg Bool.false_ne_true] at h
  dsimp only at h
  split at h
  · next ip hlast =>
    have hip : Ipv4.parseChars? ((Text.fields ':' l).getLastD []) = some ip := by
      cases mixed with
      | false => cases hlast
      | true => exact hlast
    obtain ⟨front, hfront, -⟩ := Option.map_eq_some_iff.1 h
    have hfields := List.dropLast_concat_getLast (Text.fields_ne_nil ':' l)
    rw [List.getLastD_eq_getLast?, List.getLast?_eq_some_getLast (Text.fields_ne_nil ':' l)] at hip
    rw [← hfields] at hfield
    rcases List.mem_append.1 hfield with hfield | hfield
    · obtain ⟨g, hg⟩ := exists_of_mapM_eq_some hfront hfield
      exact stands_of_group? hg c hc
    · obtain rfl := List.mem_singleton.1 hfield
      exact stands_of_ipv4 hip c hc
  · obtain ⟨g, hg⟩ := exists_of_mapM_eq_some h hfield
    exact stands_of_group? hg c hc

theorem append_of_cutElision {l head tail : List Char} (h : cutElision l = some (head, tail)) :
    l = head ++ ':' :: ':' :: tail := by
  induction l using cutElision.induct generalizing head with
  | case1 rest =>
    rw [cutElision] at h
    cases h
    rfl
  | case2 c rest hne ih =>
    rw [cutElision] at h
    · obtain ⟨⟨head', tail'⟩, hrest, h⟩ := Option.map_eq_some_iff.1 h
      cases h
      rw [ih hrest]
      rfl
    · exact hne
  | case3 => cases h

theorem stands_of_parseChars? {l : List Char} {ip : Ipv6} (h : parseChars? l = some ip) :
    ∀ c ∈ l, Stands c := by
  unfold parseChars? at h
  split at h
  · obtain ⟨gs, hgs, -⟩ := Option.bind_eq_some_iff.1 h
    exact stands_of_groups? hgs
  · next head tail hcut =>
    obtain ⟨front, hfront, h⟩ := Option.bind_eq_some_iff.1 h
    obtain ⟨back, hback, -⟩ := Option.bind_eq_some_iff.1 h
    rw [append_of_cutElision hcut]
    refine List.forall_mem_append.2 ⟨stands_of_groups? hfront, ?_⟩
    exact List.forall_mem_cons.2 ⟨.inl rfl, List.forall_mem_cons.2 ⟨.inl rfl,
      stands_of_groups? hback⟩⟩

end Ipv6

namespace IpAddress

theorem parse?_eq_v4_iff {s : String} {ip : Ipv4} :
    parse? s = some (.v4 ip) ↔ Ipv4.parse? s = some ip := by
  unfold parse?
  cases Ipv4.parse? s with
  | none => simp
  | some ip' => simp

theorem parse?_eq_v6_iff {s : String} {ip : Ipv6} :
    parse? s = some (.v6 ip) ↔ Ipv4.parse? s = none ∧ Ipv6.parse? s = some ip := by
  unfold parse?
  cases Ipv4.parse? s with
  | none => simp
  | some ip' => simp

/-- No address has a slash in it. -/
theorem slash_not_mem_of_parse? {s : String} {ip : IpAddress} (h : parse? s = some ip) :
    '/' ∉ s.toList := by
  have hslash : ¬ Ipv6.Stands '/' := by
    unfold Ipv6.Stands
    decide
  intro hmem
  unfold parse? at h
  split at h
  · next hv4 => exact hslash (Ipv6.stands_of_ipv4 hv4 '/' hmem)
  · obtain ⟨ip', hv6, -⟩ := Option.map_eq_some_iff.1 h
    exact hslash (Ipv6.stands_of_parseChars? hv6 '/' hmem)

@[simp] theorem parse?_text (ip : IpAddress) : parse? ip.text = some ip := by
  cases ip with
  | v4 ip => simp [parse?, text]
  | v6 ip => simp [parse?, text, Ipv6.ipv4_parse?_text]

theorem text_subset (ip : IpAddress) : ip.text.toList ⊆ Ipv6.alphabet := by
  cases ip with
  | v4 ip => exact List.Subset.trans ip.text_subset (by decide)
  | v6 ip => exact ip.text_subset

end IpAddress
end BootServer
