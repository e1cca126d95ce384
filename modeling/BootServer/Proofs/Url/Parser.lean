import BootServer.Proofs.Except
import BootServer.Proofs.Url.Path
import BootServer.Url.Parser

/-! What the paths of URLs that were read are like. Whatever way a path is read, it is resolved
unless it is opaque, and no URL with a special scheme has an opaque path. -/
namespace BootServer.Url

open Text

/-! ## Paths -/

/-- A path of written segments. -/
def Path.IsResolved (p : Path) : Prop := ∃ list, p = .segments list ∧ ∀ s ∈ list, Path.Written s

def Path.IsOpaque (p : Path) : Prop := ∃ t, p = .text t

variable {special followed : Bool} {scheme : String} {l : List Char} {h : Hierarchy}

theorem slash_not_mem_pieces : ∀ piece ∈ pieces special l, '/' ∉ piece :=
  fun _ => not_mem_of_mem_fields

theorem isResolved_ofPieces : (Path.ofPieces (pieces special l)).IsResolved :=
  ⟨_, rfl, Path.written_resolve (by simp) slash_not_mem_pieces⟩

theorem isResolved_root : (Path.segments [""]).IsResolved :=
  ⟨_, rfl, List.forall_mem_singleton.2 Path.written_empty⟩

theorem isResolved_slashPath : (slashPath special l).IsResolved := by
  unfold slashPath
  split
  · cases special
    · exact ⟨_, rfl, by simp⟩
    · exact isResolved_root
  · exact isResolved_ofPieces

theorem isResolved_ofFile {list : List String} (hlist : ∀ s ∈ list, Path.Written s) :
    (Path.ofFile list).IsResolved := by
  unfold Path.ofFile
  split
  · exact isResolved_root
  · exact ⟨_, rfl, fun s hs => hlist s ((List.dropWhile_sublist _).subset hs)⟩

theorem isResolved_fileSegments : (Path.ofFile (fileSegments l)).IsResolved :=
  isResolved_ofFile (Path.written_resolve (by simp) slash_not_mem_pieces)

/-! ## Hierarchies -/

theorem isResolved_fileHierarchy (hh : fileHierarchy l = .ok h) : h.path.IsResolved := by
  unfold fileHierarchy at hh
  split at hh
  · split at hh
    · dsimp only at hh
      split at hh
      · cases hh
        exact isResolved_fileSegments
      · obtain ⟨host, -, hhost⟩ := bind_eq_ok_iff.1 hh
        cases hhost
        split
        · exact isResolved_fileSegments
        · exact isResolved_fileSegments
    · cases hh
      exact isResolved_fileSegments
  · cases hh
    exact isResolved_fileSegments
  · cases hh
    exact isResolved_fileSegments (l := [])

theorem isResolved_specialHierarchy (hh : specialHierarchy scheme followed l = .ok h) :
    h.path.IsResolved := by
  obtain ⟨a, -, ha⟩ := bind_eq_ok_iff.1 hh
  cases ha
  exact isResolved_slashPath

theorem isResolved_plainHierarchy (hh : plainHierarchy scheme followed l = .ok h) :
    h.path.IsResolved ∨ h.path.IsOpaque := by
  unfold plainHierarchy at hh
  split at hh
  · obtain ⟨a, -, ha⟩ := bind_eq_ok_iff.1 hh
    cases ha
    exact .inl isResolved_slashPath
  · cases hh
    exact .inl isResolved_ofPieces
  · cases hh
    exact .inr ⟨_, rfl⟩

theorem isResolved_readHierarchy (hh : readHierarchy scheme followed l = .ok h) :
    h.path.IsResolved ∨ isSpecial scheme = false ∧ h.path.IsOpaque := by
  unfold readHierarchy at hh
  split at hh
  · exact .inl (isResolved_fileHierarchy hh)
  · split at hh
    · exact .inl (isResolved_specialHierarchy hh)
    · next hspecial =>
      rw [Bool.not_eq_true] at hspecial
      exact (isResolved_plainHierarchy hh).imp_right (.intro hspecial)

/-! ## URLs -/

variable {s : String} {u : Url}

/-- The path of a URL is resolved or opaque, and the latter only without a special scheme. -/
theorem isResolved_parse (hu : parse s = .ok u) :
    u.path.IsResolved ∨ isSpecial u.scheme = false ∧ u.path.IsOpaque := by
  unfold parse at hu
  split at hu
  · obtain ⟨h, hh, hu⟩ := bind_eq_ok_iff.1 hu
    cases hu
    exact isResolved_readHierarchy hh
  · cases hu

theorem written_of_parse {list : List String} (hu : parse s = .ok u)
    (hpath : u.path = .segments list) : ∀ t ∈ list, Path.Written t := by
  rcases isResolved_parse hu with ⟨list', hlist, hwritten⟩ | ⟨-, t, ht⟩
  · rw [hpath] at hlist
    cases hlist
    exact hwritten
  · rw [hpath] at ht
    cases ht

theorem isResolved_of_special (hu : parse s = .ok u) (hs : isSpecial u.scheme = true) :
    u.path.IsResolved := by
  rcases isResolved_parse hu with hresolved | ⟨hspecial, -⟩
  · exact hresolved
  · rw [hs] at hspecial
    cases hspecial

end BootServer.Url
