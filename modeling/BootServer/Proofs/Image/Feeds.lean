import BootServer.Proofs.Image.Scanner

/-! A scanner that is fed one chunk after another. Up to the first match it answers what a search of
all that it was fed would, and it carries the end of that. A match drops what was carried, so behind
one only what was fed since is carried on. -/
namespace BootServer.Image

theorem Marker.Absent.of_append {m : Marker} {data more : Octets} (h : m.Absent (data ++ more)) :
    m.Absent data := fun i ho => h i ho.append

namespace Scanner

variable {s : Scanner} {seen since : Octets}

/-- The scanner once it was fed these chunks, whatever it answered. -/
def feedAll (s : Scanner) (chunks : List Octets) : Scanner :=
  chunks.foldl (fun s chunk => (s.feed chunk).2) s

/-- What is answered to one chunk after another. -/
def answers (s : Scanner) : List Octets → List (Option Nat)
  | [] => []
  | chunk :: chunks => (s.feed chunk).1 :: (s.feed chunk).2.answers chunks

theorem feedAll_concat (s : Scanner) (chunks : List Octets) (chunk : Octets) :
    s.feedAll (chunks ++ [chunk]) = ((s.feedAll chunks).feed chunk).2 := by
  rw [feedAll, List.foldl_append]
  rfl

theorem feedAll_append (s : Scanner) (chunks more : List Octets) :
    s.feedAll (chunks ++ more) = (s.feedAll chunks).feedAll more := List.foldl_append

@[simp] theorem feedAll_marker (s : Scanner) (chunks : List Octets) :
    (s.feedAll chunks).marker = s.marker := by
  induction chunks generalizing s with
  | nil => rfl
  | cons chunk chunks ih => exact (ih (s.feed chunk).2).trans (s.feed_marker chunk)

/-! ## What is counted and carried -/

theorem feedAll_consumed (s : Scanner) (chunks : List Octets) :
    (s.feedAll chunks).consumed = s.consumed + chunks.flatten.length := by
  induction chunks generalizing s with
  | nil => rfl
  | cons chunk chunks ih =>
    rw [List.flatten_cons, List.length_append, ← Nat.add_assoc, ← feed_consumed]
    exact ih (s.feed chunk).2

theorem CarriesEnd.isSuffix (h : s.CarriesEnd since) : s.carry <:+ since :=
  h ▸ List.drop_suffix _ _

/-- Behind a match there is nothing to carry yet. -/
theorem carriesEnd_of_match {chunk : Octets} (hm : (s.feed chunk).1.isSome = true) :
    (s.feed chunk).2.CarriesEnd [] := by
  rw [feed_answer, Option.isSome_map] at hm
  obtain ⟨offset, ho⟩ := Option.isSome_iff_exists.mp hm
  unfold Scanner.feed
  rw [ho]
  exact List.drop_nil.symm

theorem CarriesEnd.feedAll {chunks : List Octets} (h : s.CarriesEnd since)
    (hn : ∀ answer ∈ s.answers chunks, answer = none) :
    (s.feedAll chunks).CarriesEnd (since ++ chunks.flatten) := by
  induction chunks generalizing s since with
  | nil => rwa [List.flatten_nil, List.append_nil]
  | cons chunk chunks ih =>
    obtain ⟨hfirst, hrest⟩ := List.forall_mem_cons.mp hn
    rw [List.flatten_cons, ← List.append_assoc]
    exact ih (h.feed hfirst) hrest

/-! ## What is found -/

/-- As long as the marker has not come the scanner is where the octets fed to it end. -/
theorem Follows.feedAll {chunks : List Octets} (h : s.Follows seen)
    (ha : s.marker.Absent (seen ++ chunks.flatten)) :
    (s.feedAll chunks).Follows (seen ++ chunks.flatten) := by
  induction chunks generalizing s seen with
  | nil => rwa [List.flatten_nil, List.append_nil]
  | cons chunk chunks ih =>
    rw [List.flatten_cons, ← List.append_assoc] at ha ⊢
    have hn : (s.feed chunk).1 = none := h.feed_eq_none_iff.mpr ha.of_append
    exact ih (h.feed_none hn) (by rwa [feed_marker])

theorem follows_feedAll {m : Marker} {chunks : List Octets} (ha : m.Absent chunks.flatten) :
    ((fresh m).feedAll chunks).Follows chunks.flatten := (follows_fresh m).feedAll ha

/-- Chunks are answered as a search of all of them together would: with nothing as long as they do
not hold the marker, and with its first offset once they do. Up to there the end of all octets is
carried, and behind a match the end of those that were fed since. Every octet is counted, and
nothing is taken from less than there is. -/
theorem feed_finds (m : Marker) (chunks : List Octets) (chunk : Octets) :
    let s := (fresh m).feedAll chunks
    let s' := (s.feed chunk).2
    let fed := chunks.flatten ++ chunk
    (m.Absent fed → (s.feed chunk).1 = none ∧
      s'.carry <:+ fed ∧ s'.carry.length = min (m.length - 1) fed.length) ∧
    (m.Absent chunks.flatten → ∀ offset, m.FirstAt fed offset →
      (s.feed chunk).1 = some offset) ∧
    (∀ before matching since, chunks ++ [chunk] = before ++ matching :: since →
      (((fresh m).feedAll before).feed matching).1.isSome = true →
      (∀ answer ∈ ((fresh m).feedAll (before ++ [matching])).answers since, answer = none) →
      s'.carry <:+ since.flatten ∧
        s'.carry.length = min (m.length - 1) since.flatten.length) ∧
    s.consumed = chunks.flatten.length ∧ s'.consumed = fed.length ∧
    chunk.length ≤ (s.window chunk).length ∧
      (s.window chunk).length - chunk.length ≤ s.consumed ∧
    1 ≤ m.length ∧ min (m.length - 1) (s.window chunk).length ≤ (s.window chunk).length := by
  intro s s' fed
  have hs' : (fresh m).feedAll (chunks ++ [chunk]) = s' := feedAll_concat _ _ _
  have hm : s.marker = m := feedAll_marker _ _
  have hm' : s'.marker = m := (s.feed_marker chunk).trans hm
  have hconsumed : s.consumed = chunks.flatten.length :=
    (feedAll_consumed _ _).trans (Nat.zero_add _)
  have hwindow : (s.window chunk).length = s.carry.length + chunk.length := List.length_append
  have hcarry := s.carry_le
  refine ⟨fun ha => ?_, fun ha offset ho => ?_, ?_, hconsumed, ?_, by omega, by omega,
    m.length_pos, Nat.min_le_right _ _⟩
  · have hs : s.Follows chunks.flatten := follows_feedAll ha.of_append
    have hn : (s.feed chunk).1 = none := hs.feed_eq_none_iff.mpr (hm ▸ ha)
    have hend : s'.CarriesEnd fed := (hs.feed_none hn).carry
    exact ⟨hn, hend.isSuffix, hm' ▸ hend.length_carry⟩
  · have hs : s.Follows chunks.flatten := follows_feedAll ha
    exact (hs.feed_eq_some chunk offset).mpr (hm ▸ ho)
  · intro before matching since hsplit hmatch hn
    have hempty := carriesEnd_of_match hmatch
    rw [← feedAll_concat] at hempty
    have hend := hempty.feedAll hn
    rw [← feedAll_append, List.append_assoc, List.singleton_append, ← hsplit, hs'] at hend
    exact ⟨hend.isSuffix, hm' ▸ hend.length_carry⟩
  · show (s.feed chunk).2.consumed = (chunks.flatten ++ chunk).length
    rw [feed_consumed, hconsumed, List.length_append]

/-- A marker whose end is its beginning again. -/
def circular : Marker := ⟨[65, 66, 65], by decide⟩

theorem feed_finds_straddled :
    let s := (fresh circular).feedAll [[65, 66], [66, 65]]
    s.carry <:+ [65, 66, 66, 65] ∧ s.carry.length = 2 ∧ (s.feed [66, 65]).1 = some 3 ∧
      ((s.feed [66, 65]).2.feed [66]).2.carry.length = 1 := by
  have habsent : circular.Absent [65, 66, 66, 65] := Marker.find?_eq_none_iff.mp (by decide)
  have hfirst : circular.FirstAt [65, 66, 66, 65, 66, 65] 3 :=
    Marker.find?_eq_some_iff.mp (by decide)
  obtain ⟨hbefore, -⟩ := feed_finds circular [[65, 66]] [66, 65]
  obtain ⟨-, hmatch, -⟩ := feed_finds circular [[65, 66], [66, 65]] [66, 65]
  obtain ⟨-, -, hsince, -⟩ := feed_finds circular [[65, 66], [66, 65], [66, 65]] [66]
  obtain ⟨-, hsuffix, hlength⟩ := hbefore habsent
  have hlater := hsince [[65, 66], [66, 65]] [66, 65] [[66]] rfl (by decide) (by decide)
  exact ⟨hsuffix, hlength, hmatch habsent 3 hfirst, hlater.2⟩

/-- Behind a match the end of all octets is not carried: nothing is, as long as nothing more comes. -/
theorem not_carried_after_match : ¬ ∀ (m : Marker) (chunks : List Octets) (chunk : Octets),
    let s := (fresh m).feedAll chunks
    let fed := chunks.flatten ++ chunk
    (s.feed chunk).1 = none → (s.feed chunk).2.carry <:+ fed ∧
      (s.feed chunk).2.carry.length = min (m.length - 1) fed.length := by
  intro h
  have hcarry := (h circular [[65, 66, 65]] [] (by decide)).2
  exact absurd hcarry (by decide)

end Scanner
end BootServer.Image
