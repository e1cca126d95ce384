import BootServer.Dhcp.Reply
import BootServer.Proofs.Octets

/-! The option area on the wire. Items that fit are read back as they were written, whatever follows
the end mark. A value too long for one item goes out as fragments, items of one code one after the
other; joining neighbours of one code puts it together again, so options of different codes come
back in their order and with their values. -/
namespace BootServer.Dhcp

/-! ## Items -/

namespace Item

/-- An item that can stand in an option area: neither a pad nor the end mark, and no longer than its
length can say. -/
structure Fits (i : Item) : Prop where
  code_ne_pad : i.code ≠ Code.pad
  code_ne_finish : i.code ≠ Code.finish
  length_le : i.value.length ≤ 255

def octets (i : Item) : Octets := i.code :: UInt8.ofNat i.value.length :: i.value

end Item

variable {its : List Item}

theorem items_octets_append {i : Item} (h : i.Fits) (offset : Nat) (rest : Octets) :
    items offset (i.octets ++ rest) =
      (items (offset + 2 + i.value.length) rest).map (i :: ·) := by
  have hlen : (UInt8.ofNat i.value.length).toNat = i.value.length := by
    simpa using Nat.mod_eq_of_lt (Nat.lt_succ_of_le h.length_le)
  have hroom : ¬ (i.value ++ rest).length < i.value.length := by simp
  rw [Item.octets, List.cons_append, List.cons_append, items, if_neg h.code_ne_finish,
    if_neg h.code_ne_pad, hlen, if_neg hroom, List.drop_left, List.take_left]
  cases items (offset + 2 + i.value.length) rest <;> rfl

/-- What was written of items that fit is read back, whatever stands behind the end mark. -/
theorem items_area (h : ∀ i ∈ its, i.Fits) (offset : Nat) (rest : Octets) :
    items offset (its.flatMap Item.octets ++ Code.finish :: rest) = .ok its := by
  induction its generalizing offset with
  | nil =>
    rw [List.flatMap_nil, List.nil_append]
    unfold items
    exact if_pos rfl
  | cons i its ih =>
    have hi := h i List.mem_cons_self
    have hrest := ih (fun j hj => h j (List.mem_cons_of_mem i hj)) (offset + 2 + i.value.length)
    rw [List.flatMap_cons, List.append_assoc, items_octets_append hi, hrest]
    rfl

/-! ## Fragments -/

/-- The items that one option is written as; an empty value takes one as well. -/
def fragments (code : UInt8) (value : Octets) : List Item :=
  (if value.isEmpty then [[]] else Octets.pieces 255 value).map (⟨code, ·⟩)

variable {code : UInt8} {value : Octets}

theorem encodeItem_eq (code : UInt8) (value : Octets) :
    encodeItem code value = (fragments code value).flatMap Item.octets := by
  rw [encodeItem, fragments]
  by_cases h : value.isEmpty = true
  · rw [if_pos h, if_pos h]
    rfl
  · rw [if_neg h, if_neg h, List.flatMap_map]
    rfl

theorem fragments_of_length_le (hv : value ≠ []) (h : value.length ≤ 255) :
    fragments code value = [⟨code, value⟩] := by
  have hne : ¬ value.isEmpty = true := fun he => hv (List.isEmpty_iff.1 he)
  rw [fragments, if_neg hne, Octets.pieces_of_length_le hv h]
  rfl

theorem fits_of_mem_fragments (hpad : code ≠ Code.pad) (hfinish : code ≠ Code.finish) {i : Item}
    (h : i ∈ fragments code value) : i.Fits := by
  obtain ⟨piece, hp, rfl⟩ := List.mem_map.1 h
  refine ⟨hpad, hfinish, ?_⟩
  by_cases hv : value.isEmpty = true
  · rw [if_pos hv, List.mem_singleton] at hp
    simp [hp]
  · rw [if_neg hv] at hp
    exact Octets.length_le_of_mem_pieces hp

/-- Nothing of a value is lost in its fragments. -/
theorem flatMap_value_fragments (code : UInt8) (value : Octets) :
    (fragments code value).flatMap Item.value = value := by
  rw [fragments, List.flatMap_map]
  by_cases hv : value.isEmpty = true
  · rw [if_pos hv, List.isEmpty_iff.1 hv]
    rfl
  · rw [if_neg hv]
    show (Octets.pieces 255 value).flatMap id = value
    rw [List.flatMap_id, Octets.flatten_pieces 255 value (by decide)]

/-! ## Joining -/

/-- Put an item before options that were joined, to which it adds the front of a value if the first
of them has its code. -/
def Item.join (i : Item) : Options → Options
  | [] => [(i.code, i.value)]
  | (c, v) :: rest =>
    if c = i.code then (c, i.value ++ v) :: rest else (i.code, i.value) :: (c, v) :: rest

/-- The options that items stand for if neighbours of one code are fragments of one value. -/
def joined (its : List Item) : Options := its.foldr Item.join []

theorem join_of_ne {i : Item} {options : Options} (h : ∀ o ∈ options.head?, o.1 ≠ i.code) :
    i.join options = (i.code, i.value) :: options := by
  cases options with
  | nil => rfl
  | cons o rest =>
    obtain ⟨c, v⟩ := o
    have hne : c ≠ i.code := h (c, v) rfl
    rw [Item.join, if_neg hne]

/-- Neighbours of one code are joined, up to the first item of another one. -/
theorem joined_pieces {pieces : List Octets} (hp : pieces ≠ [])
    (h : ∀ o ∈ (joined its).head?, o.1 ≠ code) :
    joined (pieces.map (⟨code, ·⟩) ++ its) = (code, pieces.flatten) :: joined its := by
  induction pieces with
  | nil => exact absurd rfl hp
  | cons piece pieces ih =>
    show Item.join ⟨code, piece⟩ (joined (pieces.map (⟨code, ·⟩) ++ its)) = _
    cases pieces with
    | nil =>
      show Item.join ⟨code, piece⟩ (joined its) = _
      rw [join_of_ne (i := ⟨code, piece⟩) h]
      simp
    | cons next pieces =>
      rw [ih (by simp), Item.join, if_pos rfl]
      rfl

theorem joined_fragments (h : ∀ o ∈ (joined its).head?, o.1 ≠ code) :
    joined (fragments code value ++ its) = (code, value) :: joined its := by
  rw [fragments]
  by_cases hv : value.isEmpty = true
  · have he : value = [] := List.isEmpty_iff.1 hv
    rw [if_pos hv, joined_pieces (by simp) h, he]
    rfl
  · have hne : value ≠ [] := fun he => hv (List.isEmpty_iff.2 he)
    rw [if_neg hv, joined_pieces (Octets.pieces_ne_nil (by decide) hne) h,
      Octets.flatten_pieces 255 value (by decide)]

namespace Options

variable {options : Options}

/-- The items that options are written as. -/
def written (options : Options) : List Item := options.flatMap fun o => fragments o.1 o.2

theorem encode_eq (options : Options) : options.encode = (written options).flatMap Item.octets := by
  rw [encode, written, List.flatMap_assoc]
  congr 1
  funext o
  exact encodeItem_eq o.1 o.2

theorem fits_of_mem_written (h : ∀ o ∈ options, o.1 ≠ Code.pad ∧ o.1 ≠ Code.finish) :
    ∀ i ∈ written options, i.Fits := by
  intro i hi
  obtain ⟨o, ho, hi⟩ := List.mem_flatMap.1 hi
  exact fits_of_mem_fragments (h o ho).1 (h o ho).2 hi

/-- Options of different codes come back with their values and in their order. -/
theorem joined_written (h : (options.map Prod.fst).Nodup) : joined (written options) = options := by
  induction options with
  | nil => rfl
  | cons o options ih =>
    obtain ⟨hnew, hrest⟩ := List.nodup_cons.1 (List.map_cons ▸ h)
    have hjoined := ih hrest
    have hnext : ∀ next ∈ (joined (written options)).head?, next.1 ≠ o.1 := by
      intro next hmem hcode
      rw [hjoined] at hmem
      exact hnew (hcode ▸ List.mem_map_of_mem (List.mem_of_mem_head? hmem))
    show joined (fragments o.1 o.2 ++ written options) = o :: options
    rw [joined_fragments hnext, hjoined]

end Options
end BootServer.Dhcp
