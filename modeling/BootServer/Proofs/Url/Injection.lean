import BootServer.BootUrl
import BootServer.Proofs.Net.HardwareAddress
import BootServer.Proofs.Url.Parser

/-! Hardware addresses in URLs. An address that was put before the last segment is found there, so
that it is put there once; but where a path has no segment the address becomes the last one itself,
and the next one is put before it. -/
namespace BootServer

open Text

/-! ## Addresses as segments -/

namespace HardwareAddress

theorem mem_text {m : HardwareAddress} {c : Char} (h : c ∈ m.text.toList) :
    c = ':' ∨ ∃ n < 16, c = Hex.lower n := by
  have hdigit : ∀ o : UInt8, c ∈ Hex.octetLower o → ∃ n < 16, c = Hex.lower n := by
    intro o ho
    have hlt := o.toNat_lt
    simp only [Hex.octetLower, List.mem_cons, List.not_mem_nil, or_false] at ho
    rcases ho with rfl | rfl
    · exact ⟨o.toNat / 16, by omega, rfl⟩
    · exact ⟨o.toNat % 16, by omega, rfl⟩
  rw [toList_text, List.mem_append, List.mem_flatMap] at h
  rcases h with h | ⟨o, -, h⟩
  · exact .inr (hdigit _ h)
  · exact (List.mem_cons.1 h).imp_right (hdigit o)

theorem length_text (m : HardwareAddress) : m.text.toList.length = 17 := by
  simp [toList_text, Hex.octetLower]

theorem lower_plain {n : Nat} (h : n < 16) :
    Percent.isPlain Url.Path.isReserved (Hex.lower n) = true ∧ Hex.lower n ≠ '/' := by
  revert n
  decide

theorem written_text (m : HardwareAddress) : Url.Path.Written m.text := by
  have hchar : ∀ c ∈ m.text.toList, Percent.isPlain Url.Path.isReserved c = true ∧ c ≠ '/' := by
    intro c hc
    rcases mem_text hc with rfl | ⟨n, hn, rfl⟩
    · decide
    · exact lower_plain hn
  constructor
  case plain => exact fun c hc => (hchar c hc).1
  case slashless => exact fun h => (hchar _ h).2 rfl
  case notSingle => simp [Url.Path.isSingleDot, m.length_text]
  case notDouble => simp [Url.Path.isDoubleDot, m.length_text]

theorem named_text (m : HardwareAddress) : Url.Path.Named m.text := by
  refine ⟨m.written_text, fun h => ?_⟩
  simpa [h] using m.length_text

/-- No address is taken for a drive. -/
theorem segment_text (file : Bool) (done : List String) (m : HardwareAddress) :
    Url.Path.segment file done m.text.toList = m.text := by
  have hdrive : Url.Path.isDriveLetter m.text.toList = false := by
    rw [← Bool.not_eq_true]
    intro h
    obtain ⟨c, d, he, -⟩ := Url.Path.isDriveLetter_eq_cons h
    have hlength := m.length_text
    rw [he] at hlength
    cases hlength
  rw [Url.Path.segment, m.named_text.encode_eq, hdrive, Bool.and_false]
  exact String.ofList_toList

end HardwareAddress

namespace BootUrl

variable {u : Url} {m : HardwareAddress} {list : List String}

/-! ## Segments -/

theorem segments_of_path (hpath : u.path = .segments list) (h : ∀ s ∈ list, Url.Path.Written s) :
    segments u = list.filter (· ≠ "") := by
  rw [segments, Url.pathText, hpath, Url.Path.split_toText h]
  rfl

/-- A slash behind the last segment makes no difference. -/
theorem segments_of_path_append {tail : List String} (hpath : u.path = .segments (list ++ tail))
    (h : ∀ s ∈ list, Url.Path.Named s) (htail : tail = [] ∨ tail = [""]) :
    segments u = list := by
  have hlist : list.filter (· ≠ "") = list :=
    List.filter_eq_self.2 fun s hs => by simpa using (h s hs).nonEmpty
  have hwritten := fun s hs => (h s hs).toWritten
  rcases htail with rfl | rfl
  · rw [List.append_nil] at hpath
    rw [segments_of_path hpath hwritten, hlist]
  · rw [segments_of_path hpath (Url.Path.written_concat hwritten Url.Path.written_empty),
      List.filter_append, hlist]
    exact List.append_nil list

theorem named_of_mem_segments (hu : u.path.IsResolved) :
    ∀ s ∈ segments u, Url.Path.Named s := by
  obtain ⟨list, hpath, h⟩ := hu
  rw [segments_of_path hpath h]
  intro s hs
  obtain ⟨hs, hne⟩ := List.mem_filter.1 hs
  exact ⟨h s hs, by simpa using hne⟩

/-- The first segment of a path as it is written when the path is replaced: a drive in front of a
`file` path may change. -/
def leading (u : Url) (first : String) : String :=
  Url.Path.segment (u.scheme = "file") [] first.toList

theorem leading_of_ne_file {first : String} (hs : u.scheme ≠ "file") (h : Url.Path.Written first) :
    leading u first = first := h.segment_eq (.inl (by simpa using hs))

theorem leading_text : leading u m.text = m.text := m.segment_text _ _

/-- Segments replace those of a path as they are, but for a drive in front of a `file` path. -/
theorem pathOf_cons {first : String} (hu : u.path.IsResolved)
    (h : ∀ s ∈ first :: list, Url.Path.Named s) :
    u.pathOf (first :: list) = .segments (leading u first :: list) := by
  obtain ⟨old, hpath, -⟩ := hu
  have hresolve (file : Bool) : Url.Path.resolve file [] ((first :: list).map String.toList) =
      Url.Path.segment file [] first.toList :: list :=
    Url.Path.resolve_cons_of_written fun s hs => (h s hs).toWritten
  have hfirst : leading u first ≠ "" := (h first List.mem_cons_self).segment.nonEmpty
  rw [Url.pathOf, hpath]
  dsimp only
  split
  · next hfile =>
    simp only [leading, hfile, decide_true] at hfirst ⊢
    -- what is not empty in front is all that `ofFile` looks for
    rw [hresolve, Url.Path.ofFile, List.dropWhile_cons_of_neg (by simpa using hfirst)]
  · next hfile =>
    simp only [leading, hfile, decide_false]
    rw [Url.Path.ofPieces, hresolve]

/-! ## Injection -/

/-- Does the URL have the address before its last segment? -/
def Carries (u : Url) (m : HardwareAddress) : Prop :=
  ∃ directories file, segments u = directories ++ [m.text, file]

theorem carries_iff : Carries u m ↔ (segments u).dropLast.getLast? = some m.text := by
  constructor
  · rintro ⟨directories, file, h⟩
    rw [h]
    simp
  · intro h
    obtain ⟨directories, hdirectories⟩ := List.getLast?_eq_some_iff.1 h
    rcases List.eq_nil_or_concat (segments u) with hnil | ⟨front, file, hfront⟩
    · simp [hnil] at hdirectories
    · rw [hfront, List.concat_eq_append, List.dropLast_concat] at hdirectories
      exact ⟨directories, file, by rw [hfront, hdirectories]; simp⟩

theorem inject_of_carries (h : Carries u m) : inject u m = u := if_pos (carries_iff.1 h)

theorem inject_of_not_carries (h : ¬ Carries u m) :
    inject u m =
      u.withSegments ((segments u).dropLast ++ [m.text] ++ (segments u).getLast?.toList) :=
  if_neg (mt carries_iff.2 h)

/-- The address is put before the last segment, behind what the path had before it. -/
theorem path_inject (hu : u.path.IsResolved) (h : ¬ Carries u m) :
    ∃ directories, directories.length = (segments u).dropLast.length ∧
      (u.scheme ≠ "file" → directories = (segments u).dropLast) ∧
      (inject u m).path =
        .segments (directories ++ [m.text] ++ (segments u).getLast?.toList) ∧
      ∀ s ∈ directories ++ [m.text] ++ (segments u).getLast?.toList, Url.Path.Named s := by
  have hold := named_of_mem_segments hu
  have hfile : ∀ s ∈ (segments u).getLast?.toList, Url.Path.Named s :=
    fun s hs => hold s (List.mem_of_mem_getLast? (Option.mem_toList.1 hs))
  have hrest : ∀ s ∈ [m.text] ++ (segments u).getLast?.toList, Url.Path.Named s :=
    List.forall_mem_cons.2 ⟨m.named_text, hfile⟩
  have hdirectories : ∀ s ∈ (segments u).dropLast, Url.Path.Named s :=
    fun s hs => hold s ((List.dropLast_sublist _).subset hs)
  rw [inject_of_not_carries h]
  show ∃ _, _ ∧ _ ∧ u.pathOf _ = _ ∧ _
  simp only [List.append_assoc]
  -- only the segment in front may change, and the address does not if it stands there
  cases hd : (segments u).dropLast with
  | nil =>
    refine ⟨[], rfl, fun _ => rfl, ?_, hrest⟩
    exact (pathOf_cons hu hrest).trans (by rw [leading_text]; rfl)
  | cons first rest =>
    obtain ⟨hfirst, hdirectories⟩ := List.forall_mem_cons.1 (hd ▸ hdirectories)
    have hbehind := List.forall_mem_append.2 ⟨hdirectories, hrest⟩
    refine ⟨leading u first :: rest, rfl, ?_, ?_, ?_⟩
    · exact fun hs => by rw [leading_of_ne_file hs hfirst.toWritten]
    · exact pathOf_cons hu (List.forall_mem_cons.2 ⟨hfirst, hbehind⟩)
    · exact List.forall_mem_cons.2 ⟨hfirst.segment, hbehind⟩

theorem isResolved_inject (hu : u.path.IsResolved) : (inject u m).path.IsResolved := by
  by_cases h : Carries u m
  · rwa [inject_of_carries h]
  · obtain ⟨directories, -, -, hpath, hnamed⟩ := path_inject hu h
    exact ⟨_, hpath, fun s hs => (hnamed s hs).toWritten⟩

theorem segments_inject (hu : u.path.IsResolved) (h : ¬ Carries u m) :
    ∃ directories, directories.length = (segments u).dropLast.length ∧
      segments (inject u m) = directories ++ [m.text] ++ (segments u).getLast?.toList := by
  obtain ⟨directories, hlength, -, hpath, hnamed⟩ := path_inject hu h
  rw [← List.append_nil (_ ++ _)] at hpath
  exact ⟨directories, hlength, segments_of_path_append hpath hnamed (.inl rfl)⟩

/-- What was put into a URL with a segment is found there. -/
theorem carries_inject (hu : u.path.IsResolved) (hne : segments u ≠ []) :
    Carries (inject u m) m := by
  by_cases h : Carries u m
  · rwa [inject_of_carries h]
  · obtain ⟨directories, -, hsegments⟩ := segments_inject hu h
    refine ⟨directories, (segments u).getLast hne, ?_⟩
    rw [hsegments, List.getLast?_eq_some_getLast hne, Option.toList_some, List.append_assoc]
    rfl

/-- In front of a single segment, and where there is none, the address comes first. -/
theorem segments_inject_of_short (hu : u.path.IsResolved) (hshort : (segments u).dropLast = []) :
    segments (inject u m) = m.text :: segments u := by
  have h : ¬ Carries u m := by
    rw [carries_iff, hshort]
    simp
  obtain ⟨directories, hlength, hsegments⟩ := segments_inject hu h
  rw [hshort, List.length_nil, List.length_eq_zero_iff] at hlength
  rw [hsegments, hlength]
  rcases List.eq_nil_or_concat (segments u) with hnil | ⟨front, file, hfront⟩
  · rw [hnil]
    rfl
  · rw [hfront, List.concat_eq_append, List.dropLast_concat] at hshort
    rw [hfront, hshort]
    rfl

/-- Injection is idempotent where the path has a segment. Where it has none, the address itself is
taken for the last segment, and is put there as often as it is injected. -/
theorem inject_idempotent_iff {raw : String} (hu : Url.parse raw = .ok u)
    (hpath : u.path = .segments list) (m : HardwareAddress) :
    (inject (inject u m) m = inject u m ↔ segments u ≠ []) ∧
    ((∃ directories file, segments u = directories ++ [m.text, file]) → inject u m = u) ∧
    (segments u = [] → segments (inject u m) = [m.text] ∧
      segments (inject (inject u m) m) = [m.text, m.text]) := by
  have hresolved : u.path.IsResolved := ⟨list, hpath, Url.written_of_parse hu hpath⟩
  have hbare : segments u = [] → segments (inject u m) = [m.text] ∧
      segments (inject (inject u m) m) = [m.text, m.text] := by
    intro hnil
    have honce := segments_inject_of_short (m := m) hresolved (by rw [hnil]; rfl)
    rw [hnil] at honce
    have htwice := segments_inject_of_short (m := m) (isResolved_inject hresolved)
      (by rw [honce]; rfl)
    exact ⟨honce, htwice.trans (by rw [honce])⟩
  refine ⟨⟨?_, ?_⟩, fun h => inject_of_carries h, hbare⟩
  · intro heq hnil
    obtain ⟨honce, htwice⟩ := hbare hnil
    rw [heq, honce] at htwice
    cases htwice
  · exact fun hne => inject_of_carries (carries_inject hresolved hne)

/-- The location of a script below a directory. -/
def scriptBelow : Url where
  scheme := "http"
  username := ""
  password := ""
  host := some (.domain "host")
  port := none
  apart := false
  path := .segments ["path", "auto.ipxe"]
  query := none
  fragment := none

def someAddress : HardwareAddress := ⟨0xAA, 0xBB, 0xCC, 0xDD, 0xEE, 0xFF⟩

theorem inject_idempotent_iff_below :
    Url.parse "http://host/path/auto.ipxe" = .ok scriptBelow ∧
    inject (inject scriptBelow someAddress) someAddress = inject scriptBelow someAddress ∧
    (inject scriptBelow someAddress).text =
      "http://host/path/aa:bb:cc:dd:ee:ff/auto.ipxe" := by
  have hparse : Url.parse "http://host/path/auto.ipxe" = .ok scriptBelow := rfl
  obtain ⟨hiff, -, -⟩ := inject_idempotent_iff hparse rfl someAddress
  exact ⟨hparse, hiff.2 (by decide), rfl⟩

/-- At the root the second address is put before the first one. -/
theorem inject_root_twice : ∃ u,
    Url.parse "http://host/" = .ok u ∧ u.path = .segments [""] ∧
    (inject u someAddress).text = "http://host/aa:bb:cc:dd:ee:ff" ∧
    (inject (inject u someAddress) someAddress).text =
      "http://host/aa:bb:cc:dd:ee:ff/aa:bb:cc:dd:ee:ff" ∧
    inject (inject u someAddress) someAddress ≠ inject u someAddress := by
  refine ⟨{ scriptBelow with path := .segments [""] }, rfl, rfl, rfl, rfl, ?_⟩
  decide

end BootUrl
end BootServer
