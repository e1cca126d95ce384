import BootServer.Proofs.Text.Fields
import BootServer.Proofs.Text.Utf8
import BootServer.Proofs.Tftp.Refusals

/-! Fields on the wire. A text without a NUL is written with a NUL behind it; what is written so is
cut into the same texts again, and nothing else is read as fields. -/
namespace BootServer.Tftp

variable {s : String} {names : List String} {body field : Octets} {pieces : List Octets}

/-- The text can stand in a field. -/
def NulFree (s : String) : Prop := '\x00' ∉ s.toList

theorem nulFree_iff : NulFree s ↔ 0 ∉ Octets.ofText s := not_congr Text.Utf8.zero_mem_ofText_iff.symm

theorem fields_encodeField (h : NulFree s) (rest : Octets) :
    Text.fields 0 (encodeField s ++ rest) = Octets.ofText s :: Text.fields 0 rest := by
  rw [encodeField, List.append_assoc, List.singleton_append, Text.fields_append (nulFree_iff.1 h)]

/-- Fields are cut where their NULs are; behind the last one nothing is left. -/
theorem fields_flatMap_encodeField (h : ∀ s ∈ names, NulFree s) :
    Text.fields 0 (names.flatMap encodeField) = names.map Octets.ofText ++ [[]] := by
  induction names with
  | nil => rfl
  | cons s names ih =>
    obtain ⟨hs, hnames⟩ := List.forall_mem_cons.1 h
    rw [List.flatMap_cons, fields_encodeField hs, ih hnames, List.map_cons, List.cons_append]

theorem readField_eq_ok_iff : readField field = .ok s ↔ field = Octets.ofText s := by
  unfold readField
  rw [← Text.Utf8.decode?_eq_some_iff]
  cases Text.Utf8.decode? field with
  | none => simp
  | some t => simp

theorem mapM_readField_eq_ok_iff :
    pieces.mapM readField = .ok names ↔ pieces = names.map Octets.ofText := by
  induction pieces generalizing names with
  | nil =>
    cases names with
    | nil => exact iff_of_true rfl rfl
    | cons s names => exact iff_of_false nofun nofun
  | cons field pieces ih =>
    rw [List.mapM_cons, bind_eq_ok_iff]
    constructor
    · rintro ⟨s, hs, h⟩
      obtain ⟨rest, hrest, h⟩ := bind_eq_ok_iff.1 h
      cases h
      rw [List.map_cons, ← readField_eq_ok_iff.1 hs, ← ih.1 hrest]
    · intro h
      obtain ⟨s, rest, rfl, hs, hrest⟩ := List.map_eq_cons_iff.1 h.symm
      exact ⟨s, readField_eq_ok_iff.2 hs.symm, bind_eq_ok_iff.2 ⟨rest, ih.2 hrest.symm, rfl⟩⟩

theorem getLast?_flatMap_encodeField (h : names ≠ []) :
    (names.flatMap encodeField).getLast? = some 0 := by
  obtain ⟨front, last, rfl⟩ := (List.eq_nil_or_concat names).resolve_left h
  simp [encodeField]

/-- The fields that are read are the texts, at least one, that were written. -/
theorem fields_eq_ok_iff :
    fields body = .ok names ↔
      names ≠ [] ∧ (∀ s ∈ names, NulFree s) ∧ body = names.flatMap encodeField := by
  rw [fields_eq]
  constructor
  · intro h
    split at h
    · next hlast =>
      obtain ⟨front, rfl⟩ := List.getLast?_eq_some_iff.1 hlast
      rw [List.dropLast_concat, mapM_readField_eq_ok_iff] at h
      refine ⟨?_, fun s hs => ?_, ?_⟩
      · rintro rfl
        exact Text.fields_ne_nil _ _ h
      · have hmem := h ▸ List.mem_map_of_mem hs
        exact nulFree_iff.2 (Text.not_mem_of_mem_fields hmem)
      · calc
          front ++ [0] = (Text.fields 0 front).flatMap (· ++ [0]) :=
            (Text.flatMap_fields 0 front).symm
          _ = names.flatMap encodeField := by rw [h, List.flatMap_map]; rfl
    · cases h
  · rintro ⟨hne, hfree, rfl⟩
    have hlast := getLast?_flatMap_encodeField hne
    rw [if_pos hlast, mapM_readField_eq_ok_iff]
    have hfields := fields_flatMap_encodeField hfree
    obtain ⟨front, hfront⟩ := List.getLast?_eq_some_iff.1 hlast
    rw [hfront, Text.fields_append_cons] at hfields
    rw [hfront, List.dropLast_concat]
    exact List.append_cancel_right hfields

end BootServer.Tftp
