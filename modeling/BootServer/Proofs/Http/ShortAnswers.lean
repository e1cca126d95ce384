import BootServer.Proofs.Http.ImageResponse

/-! Sources that answer with less than they are asked for. The search for the marker asks again from
where an answer ended. A range takes one answer and ends with it, so that all of it is there only if
that answer was whole; a response announces the length of the range all the same. -/
namespace BootServer

/-- As many octets from the start of a range on are all of it only if it has no more. -/
theorem Octets.take_eq_extract_iff {whole : Octets} {start length given : Nat}
    (hin : start + length ≤ whole.length) (hle : given ≤ length) :
    (whole.drop start).take given = whole.extract start (start + length) ↔ given = length := by
  rw [List.extract_eq_take_drop, Nat.add_sub_cancel_left]
  constructor
  · intro h
    have := congrArg List.length h
    rw [List.length_take, List.length_take, List.length_drop] at this
    omega
  · rintro rfl
    rfl

namespace Image.PatchedImage

variable {σ : Type} {image : PatchedImage σ} {data payload patched : Octets} {m : Memory σ}
  {start length : Nat}

/-- A range is given in full only if the answer that it takes is whole. -/
theorem yields_slice_iff (serves : image.source.Serves data)
    (fruitful : image.source.Fruitful data) (sound : image.Sound data m)
    (h : image.marker.patch payload data = .ok patched) (hs : start < data.length)
    {delivered : Octets} (hg : image.Gets m start length delivered)
    (hd : delivered <+: (data.drop start).take length) :
    image.Yields m payload start length (patched.extract start (min (start + length) data.length)) ↔
      delivered.length = min length (data.length - start) := by
  have hlen : patched.length = data.length := Marker.length_patch h
  have hle := hd.length_le
  rw [List.length_take, List.length_drop] at hle
  have hstop : min (start + length) data.length = start + min length (data.length - start) := by
    omega
  have hy := stream_of_patch_ok serves fruitful sound h hg (hd.trans (List.take_prefix _ _))
  have hin : start + min length (data.length - start) ≤ patched.length := by omega
  rw [hstop, ← Octets.take_eq_extract_iff hin hle]
  exact ⟨hy.unique, fun he => he ▸ hy⟩

end Image.PatchedImage

namespace Http

open Image PatchedImage

variable {σ : Type}

/-- The response announces the length of a part of a whole, and has as many octets of it as were
given, which is what it announces only if all were. -/
structure Response.Holds (a : Response) (whole : Octets) (start length given : Nat) : Prop where
  announced : Headers.first? a.headers "content-length" = some (Response.lengthHeader length)
  body : a.body.collect = .ok ((whole.drop start).take given)
  carries_iff : a.Carries whole start length ↔ given = length

theorem Response.holds {a : Response} {whole : Octets} {start length given : Nat}
    (announced : Headers.first? a.headers "content-length" = some (Response.lengthHeader length))
    (body : a.body.collect = .ok ((whole.drop start).take given))
    (hin : start + length ≤ whole.length) (hle : given ≤ length) :
    a.Holds whole start length given := by
  refine ⟨announced, body, ?_⟩
  rw [← Octets.take_eq_extract_iff hin hle]
  constructor
  · intro h
    exact Except.ok.inj (body.symm.trans h.body)
  · intro h
    refine ⟨h ▸ body, ?_, announced⟩
    rw [List.extract_eq_take_drop, List.length_take, List.length_drop]
    omega

namespace ImagePage

variable {p : ImagePage σ} {data payload patched : Octets}

/-- One answer of the source settles a range, after whatever calls, and the body of a response. -/
theorem one_answer (serves : p.image.source.Serves data) (fruitful : p.image.source.Fruitful data)
    (h : p.image.marker.patch payload data = .ok patched) (s : σ) (calls : List Call) :
    let m := p.image.after s calls
    (∀ start length, start < data.length → 0 < length →
      ∃ delivered, delivered ≠ [] ∧ p.image.Gets m start length delivered ∧
        delivered <+: (data.drop start).take length ∧
        p.image.Yields m payload start length ((patched.drop start).take delivered.length) ∧
        (p.image.Yields m payload start length
          (patched.extract start (min (start + length) data.length)) ↔
            delivered.length = min length (data.length - start))) ∧
    ∀ (r : Request) (range : Option ByteRange), r.method = .get →
      requestedRange r.headers data.length = .ok range →
      let part := partOf data.length range
      ∃ delivered a m₁ m₂ s', p.check payload r.headers m = (.ok (data.length, range), m₁) ∧
        p.image.source.Delivers m₁.behind part.start part.length delivered s' ∧
        delivered ≠ [] ∧ delivered <+: (data.drop part.start).take part.length ∧
        p.send payload r m = (.ok a, m₂) ∧
        a.Holds patched part.start part.length delivered.length := by
  intro m
  have sound : p.image.Sound data m := sound_after serves fruitful s calls
  constructor
  · intro start length hs hl
    obtain ⟨delivered, s', hd, hp⟩ :=
      serves.read (p.image.markerOffset m).2.behind start length hs hl
    exact ⟨delivered, fruitful _ _ _ _ _ hs hl hd, ⟨s', hd⟩, hp,
      stream_of_patch_ok serves fruitful sound h ⟨s', hd⟩ (hp.trans (List.take_prefix _ _)),
      yields_slice_iff serves fruitful sound h hs ⟨s', hd⟩ hp⟩
  · intro r range hget hreq part
    have dependable := serves.dependable fruitful
    obtain ⟨hstop, hpos⟩ := partOf_within hreq (Marker.length_pos_of_patch h)
    obtain ⟨m₁, hcheck⟩ := p.check_of_patch_ok dependable sound h r.headers
    rw [hreq] at hcheck
    obtain ⟨delivered, s', hd, hp, hne⟩ := dependable.read m₁.behind _ _ hpos hstop
    obtain ⟨body, m₂, hsend, hbody⟩ := send_delivered dependable.truthful sound h hget hcheck hd
      (hp.trans (List.take_prefix _ _))
    have hle := Nat.le_trans hp.length_le (List.length_take_le _ _)
    exact ⟨delivered, _, m₁, m₂, s', hcheck, hd, hne, hp, hsend,
      Response.holds (imageHead_length _ _) hbody (Marker.length_patch h ▸ hstop) hle⟩

def cappedImage : Octets := [48, 49, 50, 51, 77, 65, 82, 75, 56, 57]

def cappedPatched : Octets := [48, 49, 50, 51, 120, 32, 32, 32, 56, 57]

/-- An image whose source never answers with more than three octets. -/
def capped : ImagePage Unit where
  image :=
    { source := .ofOctets cappedImage 4096 (some 3)
      marker := ⟨[77, 65, 82, 75], by decide⟩ }
  payload := {}

theorem capped_serves : capped.image.source.Serves cappedImage :=
  Source.ofOctets_serves _ 4096 (some 3) (by decide)

theorem capped_fruitful : capped.image.source.Fruitful cappedImage :=
  Source.ofOctets_fruitful _ 4096 (some 3) (by decide) (by decide)

theorem capped_patch : capped.image.marker.patch [120] cappedImage = .ok cappedPatched := rfl

theorem one_answer_capped :
    capped.image.source.Serves cappedImage ∧ capped.image.source.Fruitful cappedImage ∧
      capped.image.marker.patch [120] cappedImage = .ok cappedPatched ∧
      capped.image.Yields (capped.image.after () [.locate]) [120] 2 5 [50, 51, 120] := by
  refine ⟨capped_serves, capped_fruitful, capped_patch, ?_⟩
  have h := one_answer capped_serves capped_fruitful capped_patch () [.locate]
  obtain ⟨delivered, -, ⟨s, hd⟩, -, hy, -⟩ := h.1 2 5 (by decide) (by decide)
  have hread := Source.ofOctets_read cappedImage 4096 (some 3) none (by decide) 2 5
  rw [(hd.unique hread).1] at hy
  exact hy

/-- Three octets of the image are all that is streamed of it, although the search for the marker
comes to its end. -/
theorem capped_not_whole :
    capped.image.source.Serves cappedImage ∧ capped.image.source.Fruitful cappedImage ∧
      capped.image.marker.patch [120] cappedImage = .ok cappedPatched ∧
      ¬ capped.image.Yields (capped.image.after () []) [120] 0 10 cappedPatched := by
  refine ⟨capped_serves, capped_fruitful, capped_patch, ?_⟩
  have hg : capped.image.Gets (capped.image.after () []) 0 10 [48, 49, 50] :=
    ⟨(), Source.ofOctets_read cappedImage 4096 (some 3) none (by decide) 0 10⟩
  have hy := stream_of_patch_ok capped_serves capped_fruitful
    (sound_after capped_serves capped_fruitful () []) capped_patch hg (by decide)
  intro hwhole
  exact absurd (hy.unique hwhole) (by decide)

end ImagePage
end Http
end BootServer
