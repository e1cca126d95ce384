import BootServer.Image.Marker

/-!
Looking for a marker in data that comes in chunks. The end of what was fed, one octet shorter than
the marker, is carried over to the next chunk, so that a marker which straddles chunks is seen.
-/
namespace BootServer.Image

structure Scanner where
  marker : Marker
  carry : Octets := []
  /-- How many octets were fed. -/
  consumed : Nat := 0
  carry_le : carry.length ≤ consumed := by simp

namespace Scanner

/-- What a search looks at when the next chunk comes. -/
def window (s : Scanner) (chunk : Octets) : Octets := s.carry ++ chunk

/-- The end of the window that a marker may begin in. -/
def kept (s : Scanner) (chunk : Octets) : Octets :=
  let window := s.window chunk
  window.drop (window.length - min (s.marker.length - 1) window.length)

theorem length_kept_le (s : Scanner) (chunk : Octets) :
    (s.kept chunk).length ≤ s.consumed + chunk.length := by
  have := s.carry_le
  simp only [kept, window, List.length_drop, List.length_append]
  omega

/-- Feed the next chunk; gives the offset of the marker from the beginning of all that was fed. A
match drops what was carried. -/
def feed (s : Scanner) (chunk : Octets) : Option Nat × Scanner :=
  match s.marker.find? (s.window chunk) with
  | some offset =>
    (some (s.consumed - s.carry.length + offset),
      { marker := s.marker, carry := [], consumed := s.consumed + chunk.length })
  | none =>
    (none,
      { marker := s.marker, carry := s.kept chunk, consumed := s.consumed + chunk.length
        carry_le := s.length_kept_le chunk })

end Scanner
end BootServer.Image
