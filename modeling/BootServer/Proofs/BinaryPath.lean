import BootServer.Proofs.Binaries
import BootServer.Proofs.Text.Fields

/-! Where the name of a binary leads. The name is checked piece by piece, but it is put behind the
directory as text; so the path is cut into its parts again, and they are the directory's and then
ordinary names. -/
namespace BootServer

/-! ## Parts of a path -/

/-- A part of a path: the root, the directory one is in, the one above it, or a name. -/
inductive PathPart where
  | root
  | here
  | up
  | name (n : String)
  deriving DecidableEq

namespace PathPart

/-- Empty pieces and single dots lead nowhere. -/
def ofPiece? (piece : String) : Option PathPart :=
  if piece = "" ∨ piece = "." then none
  else if piece = ".." then some .up
  else some (.name piece)

/-- What a path begins with: the root, or a single dot, which is a part at the beginning only. -/
def leading (path : String) : List PathPart :=
  if Text.startsWith "/" path then [.root]
  else if (Text.split '/' path).head? = some "." then [.here]
  else []

def parts (path : String) : List PathPart :=
  leading path ++ (Text.split '/' path).filterMap ofPiece?

/-- The way up is the way back from a name. Above the root there is nothing. -/
def above : List PathPart → List PathPart
  | .name _ :: place => place
  | [.root] => [.root]
  | place => .up :: place

/-- One part further; the last part of a place stands first. -/
def enter (place : List PathPart) : PathPart → List PathPart
  | .root => [.root]
  | .here => place
  | .up => above place
  | .name n => .name n :: place

/-- The shortest path to the same place, as the text alone tells. -/
def normal (path : String) : List PathPart := ((parts path).foldl enter []).reverse

theorem foldl_enter_names (names : List String) (place : List PathPart) :
    (names.map name).foldl enter place = (names.map name).reverse ++ place := by
  induction names generalizing place with
  | nil => rfl
  | cons n names ih =>
    rw [List.map_cons, List.foldl_cons, ih, List.reverse_cons, List.append_assoc]
    rfl

/-- Names behind a path are not taken back. -/
theorem normal_of_parts {path front : String} {names : List String}
    (h : parts path = parts front ++ names.map name) :
    normal path = normal front ++ names.map name := by
  rw [normal, h, List.foldl_append, foldl_enter_names, List.reverse_append, List.reverse_reverse]
  rfl

example :
    normal "/srv/../tftp/efi/./snp.efi" =
      normal "/srv/../tftp/" ++ [.name "efi", .name "snp.efi"] := by
  decide

/-! ## Paths behind one another -/

theorem split_slash (a b : String) :
    Text.split '/' (a ++ "/" ++ b) = Text.split '/' a ++ Text.split '/' b := by
  have h : (a ++ "/" ++ b).toList = a.toList ++ '/' :: b.toList := by
    simp [String.toList_append]
  rw [Text.split, h, Text.fields_append_cons, List.map_append]
  rfl

theorem split_ne_nil (path : String) : Text.split '/' path ≠ [] := by
  rw [Text.split, ne_eq, List.map_eq_nil_iff]
  exact Text.fields_ne_nil _ _

theorem head?_split_slash (a b : String) :
    (Text.split '/' (a ++ "/" ++ b)).head? = (Text.split '/' a).head? := by
  rw [split_slash, List.head?_append, Option.or_of_isSome (List.isSome_head?.2 (split_ne_nil a))]

theorem startsWith_slash_iff (path : String) :
    Text.startsWith "/" path = true ↔ path.toList.head? = some '/' := by
  rw [Text.startsWith, List.isPrefixOf_iff_prefix]
  cases path.toList with
  | nil => simp
  | cons c l => simp [eq_comm]

theorem leading_congr {a b : String} (hchar : a.toList.head? = b.toList.head?)
    (hpiece : (Text.split '/' a).head? = (Text.split '/' b).head?) : leading a = leading b := by
  have hstart : Text.startsWith "/" a = Text.startsWith "/" b := by
    rw [Bool.eq_iff_iff, startsWith_slash_iff, startsWith_slash_iff, hchar]
  rw [leading, leading, hstart, hpiece]

/-- What a path begins with does not depend on what follows one of its slashes. -/
theorem leading_slash (a b : String) : leading (a ++ "/" ++ b) = leading (a ++ "/") := by
  apply leading_congr
  · rw [String.toList_append, List.head?_append, Option.or_of_isSome]
    simp [String.toList_append]
  · rw [head?_split_slash, ← head?_split_slash a "", String.append_empty]

theorem leading_of_slash {a : String} (ha : a ≠ "") : leading (a ++ "/") = leading a := by
  apply leading_congr
  · have hlist : a.toList ≠ [] := fun h => ha (String.toList_eq_nil_iff.1 h)
    rw [String.toList_append, List.head?_append, Option.or_of_isSome (List.isSome_head?.2 hlist)]
  · rw [← head?_split_slash a "", String.append_empty]

theorem filterMap_split_slash (a : String) :
    (Text.split '/' (a ++ "/")).filterMap ofPiece? = (Text.split '/' a).filterMap ofPiece? := by
  rw [← String.append_empty (s := a ++ "/"), split_slash, List.filterMap_append]
  exact List.append_nil _

theorem parts_slash (a b : String) :
    parts (a ++ "/" ++ b) = parts (a ++ "/") ++ (Text.split '/' b).filterMap ofPiece? := by
  rw [parts, parts, leading_slash, split_slash, filterMap_split_slash, List.filterMap_append,
    List.append_assoc]

theorem parts_of_slash {a : String} (ha : a ≠ "") : parts (a ++ "/") = parts a := by
  rw [parts, parts, leading_of_slash ha, filterMap_split_slash]

/-- A path that begins with neither the root nor a dot goes on where the directory ends, with or
without a slash there. -/
theorem parts_join {directory relative : String} (h : leading relative = []) :
    parts (Binaries.join directory relative) =
      parts directory ++ (Text.split '/' relative).filterMap ofPiece? := by
  by_cases hempty : directory = ""
  · have hparts : parts "" = [] := by decide
    rw [Binaries.join, hempty, hparts, parts, if_pos (by decide), String.empty_append, h]
  · by_cases hend : directory.toList.getLast? = some '/'
    · obtain ⟨front, hfront⟩ := List.getLast?_eq_some_iff.1 hend
      have hslash : directory = String.ofList front ++ "/" := by
        rw [← String.toList_inj, hfront, String.toList_append, String.toList_ofList]
        rfl
      rw [Binaries.join, if_pos (by simp [hend]), hslash, parts_slash]
    · rw [Binaries.join, if_neg (by simp [hempty, hend]), parts_slash, parts_of_slash hempty]

/-- Pieces without the way up are names, but for those that lead nowhere. -/
theorem filterMap_ofPiece? {pieces : List String} (h : ".." ∉ pieces) :
    pieces.filterMap ofPiece? =
      (pieces.filter fun piece => piece ≠ "" && piece ≠ ".").map name := by
  induction pieces with
  | nil => rfl
  | cons piece pieces ih =>
    obtain ⟨hup, hrest⟩ := List.ne_and_not_mem_of_not_mem_cons h
    by_cases hnowhere : piece = "" ∨ piece = "."
    · rw [List.filterMap_cons_none (by rw [ofPiece?, if_pos hnowhere]), ih hrest,
        List.filter_cons_of_neg (by simpa [Decidable.or_iff_not_imp_left] using hnowhere)]
    · rw [List.filterMap_cons_some (by rw [ofPiece?, if_neg hnowhere, if_neg (Ne.symm hup)]),
        ih hrest, List.filter_cons_of_pos (by simpa using hnowhere)]
      rfl

end PathPart

namespace Binaries

/-! ## Names -/

/-- The names on the way from the directory to a binary. -/
def namesIn (name : String) : List String :=
  (Text.split '/' name).filter fun piece => piece ≠ "" && piece ≠ "."

/-- The names that are no binary's: there is nothing but slashes, the way leads up somewhere, or
the first piece is a dot. -/
inductive Refused (name : String) : Prop
  | slashes (h : ∀ c ∈ name.toList, c = '/')
  | above (h : ".." ∈ Text.split '/' name)
  | here (h : (Text.split '/' name).find? (· ≠ "") = some ".")

def slashes (n : Nat) : String := String.ofList (List.replicate n '/')

variable {name path : String}

/-- A name without the slashes before it. -/
def relative (name : String) : String := Text.trimStartWhile (· = '/') name

theorem relative_slashes (n : Nat) (name : String) :
    relative (slashes n ++ name) = relative name := by
  rw [relative, Text.trimStartWhile, String.toList_append, slashes, String.toList_ofList,
    List.dropWhile_append_of_pos]
  · rfl
  · intro c hc
    exact decide_eq_true (List.eq_of_mem_replicate hc)

theorem exists_slashes (name : String) : ∃ n, name = slashes n ++ relative name := by
  have hrun : ∀ c ∈ name.toList.takeWhile (· = '/'), c = '/' := fun c hc =>
    of_decide_eq_true (List.all_eq_true.1 List.all_takeWhile c hc)
  refine ⟨(name.toList.takeWhile (· = '/')).length, ?_⟩
  rw [slashes, ← List.eq_replicate_of_mem hrun, relative, Text.trimStartWhile,
    ← String.ofList_append, List.takeWhile_append_dropWhile, String.ofList_toList]

theorem head?_relative (name : String) : (relative name).toList.head? ≠ some '/' := by
  intro h
  have hnot := List.head?_dropWhile_not (fun c => decide (c = '/')) name.toList
  rw [relative, Text.trimStartWhile, String.toList_ofList] at h
  rw [h] at hnot
  simp at hnot

theorem split_slashes (n : Nat) (name : String) :
    Text.split '/' (slashes n ++ name) = List.replicate n "" ++ Text.split '/' name := by
  rw [Text.split, slashes, String.toList_append, String.toList_ofList,
    Text.fields_replicate_append, List.map_append, List.map_replicate]
  rfl

theorem namesIn_slashes (n : Nat) (name : String) : namesIn (slashes n ++ name) = namesIn name := by
  rw [namesIn, split_slashes, List.filter_append, List.filter_replicate, if_neg (by decide)]
  rfl

theorem refused_slashes_iff (n : Nat) (name : String) :
    Refused (slashes n ++ name) ↔ Refused name := by
  have hchars : (∀ c ∈ (slashes n ++ name).toList, c = '/') ↔ ∀ c ∈ name.toList, c = '/' := by
    rw [slashes, String.toList_append, String.toList_ofList, List.forall_mem_append]
    exact and_iff_right fun c => List.eq_of_mem_replicate
  have hup : ".." ∈ Text.split '/' (slashes n ++ name) ↔ ".." ∈ Text.split '/' name := by
    rw [split_slashes, List.mem_append]
    simp
  have hfirst : (Text.split '/' (slashes n ++ name)).find? (· ≠ "") =
      (Text.split '/' name).find? (· ≠ "") := by
    rw [split_slashes, List.find?_append]
    simp
  constructor
  · rintro (h | h | h)
    · exact .slashes (hchars.1 h)
    · exact .above (hup.1 h)
    · exact .here (hfirst ▸ h)
  · rintro (h | h | h)
    · exact .slashes (hchars.2 h)
    · exact .above (hup.2 h)
    · exact .here (hfirst.trans h)

theorem refused_relative_iff (name : String) : Refused (relative name) ↔ Refused name := by
  obtain ⟨n, hn⟩ := exists_slashes name
  rw [← refused_slashes_iff n, ← hn]

/-- Slashes only: none of them is left. -/
theorem relative_eq_empty (h : ∀ c ∈ (relative name).toList, c = '/') : relative name = "" := by
  cases hl : (relative name).toList with
  | nil => exact String.toList_eq_nil_iff.1 hl
  | cons c l =>
    have hc : c = '/' := h c (hl ▸ List.mem_cons_self)
    exact absurd (by rw [hl, hc]; rfl) (head?_relative name)

theorem namesIn_relative (name : String) : namesIn (relative name) = namesIn name := by
  obtain ⟨n, hn⟩ := exists_slashes name
  rw [← namesIn_slashes n, ← hn]

/-- What is left of a name without the slashes before it begins with a piece that is not empty. -/
theorem exists_pieces (h : relative name ≠ "") :
    ∃ first rest, Text.split '/' (relative name) = first :: rest ∧ first ≠ "" := by
  have hne : (relative name).toList ≠ [] := fun hnil => h (String.toList_eq_nil_iff.1 hnil)
  obtain ⟨first, rest, hfields, hfirst⟩ :=
    Text.exists_fields_of_head?_ne hne (head?_relative name)
  refine ⟨String.ofList first, rest.map String.ofList, ?_, ?_⟩
  · rw [Text.split, hfields, List.map_cons]
  · exact fun he => hfirst (String.ofList_eq_empty_iff.1 he)

theorem isOrdinary_cons_iff {first : String} {rest : List String} :
    isOrdinary (first :: rest) = true ↔ first ≠ "." ∧ ".." ∉ first :: rest := by
  simp only [isOrdinary, Bool.and_eq_true, decide_eq_true_eq, List.all_eq_true, ne_eq, and_assoc,
    List.mem_cons, not_or, eq_comm (a := "..")]
  refine and_congr_right fun _ => and_congr_right fun _ => ⟨fun h hm => h _ hm rfl, ?_⟩
  rintro h piece hm rfl
  exact h hm

/-- The check of the pieces lets through all that is not to be refused. -/
theorem isOrdinary_relative_iff (name : String) :
    (relative name ≠ "" && isOrdinary (Text.split '/' (relative name))) = true ↔ ¬ Refused name := by
  rw [← refused_relative_iff, Bool.and_eq_true, decide_eq_true_eq]
  by_cases hne : relative name = ""
  · have hrefused : Refused (relative name) := .slashes (by simp [hne])
    exact iff_of_false (fun h => h.1 hne) (fun h => h hrefused)
  · obtain ⟨first, rest, hsplit, hfirst⟩ := exists_pieces hne
    have hfind : (Text.split '/' (relative name)).find? (· ≠ "") = some first := by
      rw [hsplit, List.find?_cons_of_pos (by simpa using hfirst)]
    rw [and_iff_right hne, hsplit, isOrdinary_cons_iff]
    constructor
    · rintro ⟨hdot, hup⟩ (h | h | h)
      · exact hne (relative_eq_empty h)
      · exact hup (hsplit ▸ h)
      · exact hdot (Option.some.inj (hfind.symm.trans h))
    · intro h
      exact ⟨fun hdot => h (.here (hfind.trans (congrArg some hdot))),
        fun hup => h (.above (hsplit ▸ hup))⟩

/-! ## Paths -/

variable {b : Binaries} {files files' : FileTree} {data : Octets}

theorem path?_eq (b : Binaries) (name : String) :
    b.path? name =
      if relative name ≠ "" && isOrdinary (Text.split '/' (relative name)) then
        some (join b.directory (relative name))
      else none :=
  rfl

theorem path?_eq_some_iff :
    b.path? name = some path ↔ ¬ Refused name ∧ join b.directory (relative name) = path := by
  rw [path?_eq, Option.ite_none_right_eq_some, isOrdinary_relative_iff, Option.some_inj]

theorem path?_eq_none_iff : b.path? name = none ↔ Refused name := by
  simp only [Option.eq_none_iff_forall_ne_some, ne_eq, path?_eq_some_iff, not_and]
  simp

/-- A path that is a directory's parts and then these names, at least one and all of them ordinary.
So they stand behind the directory also when every way up is taken back. -/
structure Below (directory path : String) (names : List String) : Prop where
  ne_nil : names ≠ []
  ordinary : ∀ n ∈ names, n ≠ "" ∧ n ≠ "." ∧ n ≠ ".." ∧ '/' ∉ n.toList
  parts : PathPart.parts path = PathPart.parts directory ++ names.map .name
  normal : PathPart.normal path = PathPart.normal directory ++ names.map .name

theorem leading_relative (h : (Text.split '/' (relative name)).head? ≠ some ".") :
    PathPart.leading (relative name) = [] := by
  have hstart : ¬ Text.startsWith "/" (relative name) = true := fun hs =>
    head?_relative name ((PathPart.startsWith_slash_iff _).1 hs)
  rw [PathPart.leading, if_neg hstart, if_neg h]

theorem not_slash_of_mem_split {piece s : String} (h : piece ∈ Text.split '/' s) :
    '/' ∉ piece.toList := by
  obtain ⟨field, hfield, rfl⟩ := List.mem_map.1 h
  rw [String.toList_ofList]
  exact Text.not_mem_of_mem_fields hfield

theorem below_of_path (h : b.path? name = some path) : Below b.directory path (namesIn name) := by
  obtain ⟨hallowed, rfl⟩ := path?_eq_some_iff.1 h
  rw [← isOrdinary_relative_iff, Bool.and_eq_true, decide_eq_true_eq] at hallowed
  obtain ⟨hne, hordinary⟩ := hallowed
  obtain ⟨first, rest, hsplit, hfirst⟩ := exists_pieces hne
  rw [hsplit, isOrdinary_cons_iff] at hordinary
  obtain ⟨hdot, hup⟩ := hordinary
  have hlead : PathPart.leading (relative name) = [] :=
    leading_relative (by rw [hsplit]; exact fun he => hdot (Option.some.inj he))
  have hparts : PathPart.parts (join b.directory (relative name)) =
      PathPart.parts b.directory ++ (namesIn name).map .name := by
    rw [PathPart.parts_join hlead, PathPart.filterMap_ofPiece? (hsplit ▸ hup), ← namesIn,
      namesIn_relative]
  refine ⟨?_, ?_, hparts, PathPart.normal_of_parts hparts⟩
  · rw [← namesIn_relative, namesIn, hsplit, List.filter_cons_of_pos (by simp [hfirst, hdot])]
    exact List.cons_ne_nil _ _
  · rw [← namesIn_relative]
    intro n hn
    obtain ⟨hmem, hpiece⟩ := List.mem_filter.1 hn
    rw [Bool.and_eq_true, decide_eq_true_eq, decide_eq_true_eq] at hpiece
    exact ⟨hpiece.1, hpiece.2, fun he => hup (he ▸ hsplit ▸ hmem), not_slash_of_mem_split hmem⟩

/-- Both trees hold the same wherever a path leads below the directory. -/
def AgreeBelow (directory : String) (files files' : FileTree) : Prop :=
  ∀ path names, Below directory path names → files.read path = files'.read path

/-- What stands elsewhere is never read. -/
theorem read_congr (h : AgreeBelow b.directory files files') (name : String) :
    b.read files name = b.read files' name := by
  cases hpath : b.path? name with
  | none => rw [read, read, hpath]
  | some path =>
    rw [read_of_path hpath, read_of_path hpath, h path _ (below_of_path hpath)]

theorem path?_slashes (b : Binaries) (n : Nat) (name : String) :
    b.path? (slashes n ++ name) = b.path? name := by
  rw [path?_eq, relative_slashes, path?_eq]

/-- A path that a name is given lies below the directory, by the names that the name is made of.
Refused are the names that would lead elsewhere, and only they. Slashes before a name change nothing,
and no file outside the directory has a part in what is read. -/
theorem path_confined (b : Binaries) (name : String) :
    (∀ path, b.path? name = some path → Below b.directory path (namesIn name)) ∧
      (b.path? name = none ↔ Refused name) ∧
      (∀ n, b.path? (slashes n ++ name) = b.path? name) ∧
      ∀ files files', AgreeBelow b.directory files files' →
        b.read files name = b.read files' name :=
  ⟨fun _ => below_of_path, path?_eq_none_iff, fun n => path?_slashes b n name,
    fun _ _ h => read_congr h name⟩

end Binaries

end BootServer
