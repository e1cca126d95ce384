import BootServer.Proofs.Image.History
import BootServer.Proofs.Image.Patch

/-! Ranges of a patched image. Whatever was asked of an image before, a range of it is refused just
when the whole image cannot be patched, and with the same error; else it gives octets of the
patched image, as many as the source gave. -/
namespace BootServer.Image.PatchedImage

variable {σ : Type} {image : PatchedImage σ} {data payload patched padded delivered : Octets}
  {m m' : Memory σ} {start length offset : Nat} {e : ImageError}

/-- What is remembered of an image that is served is right, whatever was asked of it. -/
theorem sound_after (serves : image.source.Serves data) (fruitful : image.source.Fruitful data)
    (s : σ) (calls : List Call) : image.Sound data (image.after s calls) :=
  (image.sound_opened data s).calls (serves.dependable fruitful).truthful calls

/-! ## One range -/

/-- The octets that the source gives for a range once the marker is located. -/
def Gets (image : PatchedImage σ) (m : Memory σ) (start length : Nat) (delivered : Octets) : Prop :=
  ∃ s, image.source.Delivers (image.markerOffset m).2.behind start length delivered s

/-- The octets that are given for a range with a payload. -/
def Yields (image : PatchedImage σ) (m : Memory σ) (payload : Octets) (start length : Nat)
    (bytes : Octets) : Prop :=
  ∃ body m', image.stream payload start length m = (.ok body, m') ∧ body.collect = .ok bytes

theorem Yields.unique {a b : Octets} (ha : image.Yields m payload start length a)
    (hb : image.Yields m payload start length b) : a = b := by
  obtain ⟨body, m₁, hs, hc⟩ := ha
  obtain ⟨body', m₂, hs', hc'⟩ := hb
  rw [hs] at hs'
  cases hs'
  rw [hc] at hc'
  exact Except.ok.inj hc'

/-- What cannot be patched is refused before any range is read. -/
theorem Sound.refused (sound : image.Sound data m) (dependable : image.source.Dependable data)
    (h : image.marker.patch payload data = .error e) :
    image.marker.pad payload = .error e ∨
      ∃ padded m', image.marker.pad payload = .ok padded ∧
        image.markerOffset m = (.error e, m') := by
  cases hp : image.marker.pad payload with
  | error e' =>
    rw [Marker.patch_of_pad_error hp] at h
    cases h
    exact .inl rfl
  | ok padded =>
    obtain ⟨result, m', hm, hl⟩ := sound.located dependable
    rcases hl with ⟨offset, ho, rfl⟩ | ⟨ha, rfl⟩
    · rw [Marker.patch_of_firstAt hp ho] at h
      cases h
    · rw [Marker.patch_of_absent hp ha] at h
      cases h
      exact .inr ⟨padded, m', rfl, hm⟩

theorem Sound.accepted (sound : image.Sound data m) (dependable : image.source.Dependable data)
    (h : image.marker.patch payload data = .ok patched) :
    ∃ padded offset m', image.marker.pad payload = .ok padded ∧
      image.markerOffset m = (.ok offset, m') ∧ image.marker.FirstAt data offset ∧
      patched = written data padded offset := by
  obtain ⟨padded, offset, hp, ho, he⟩ := Marker.patch_eq_ok h
  obtain ⟨result, m', hm, hl⟩ := sound.located dependable
  rcases hl with ⟨found, hf, rfl⟩ | ⟨ha, -⟩
  · cases hf.unique ho
    exact ⟨padded, offset, m', hp, hm, ho, he⟩
  · exact absurd ha ho.not_absent

theorem stream_of_patch_error (serves : image.source.Serves data)
    (fruitful : image.source.Fruitful data) (sound : image.Sound data m)
    (h : image.marker.patch payload data = .error e) (start length : Nat) :
    (image.stream payload start length m).1 = .error e := by
  rcases sound.refused (serves.dependable fruitful) h with hp | ⟨padded, m', hp, hm⟩
  · rw [stream_apply, hp]
  · rw [stream_apply, hp, hm]

theorem stream_of_patch_ok (serves : image.source.Serves data)
    (fruitful : image.source.Fruitful data) (sound : image.Sound data m)
    (h : image.marker.patch payload data = .ok patched)
    (hg : image.Gets m start length delivered) (hd : delivered <+: data.drop start) :
    image.Yields m payload start length ((patched.drop start).take delivered.length) := by
  obtain ⟨padded, offset, m', hp, hm, ho, rfl⟩ := sound.accepted (serves.dependable fruitful) h
  obtain ⟨s, body, hr, hc⟩ := hg
  rw [hm] at hr
  refine ⟨patchBody padded offset start body, { m' with behind := s }, ?_, ?_⟩
  · rw [stream_apply, hp, hm]
    dsimp only
    rw [hr]
  · refine collect_patchBody ?_ hc hd
    rw [Marker.length_pad hp]
    exact ho.1.le_length

/-- An octet that is given for a range within the image is the one at its offset in the patched
image, wherever the range begins and whatever the chunks are. -/
theorem Yields.getElem? {bytes : Octets} (serves : image.source.Serves data)
    (fruitful : image.source.Fruitful data) (sound : image.Sound data m)
    (h : image.marker.patch payload data = .ok patched) (hs : start < data.length)
    (hl : 0 < length) (hy : image.Yields m payload start length bytes) {i : Nat}
    (hi : i < bytes.length) : bytes[i]? = patched[start + i]? := by
  obtain ⟨delivered, s, hd, hp⟩ := serves.read (image.markerOffset m).2.behind start length hs hl
  have hprefix := hp.trans (List.take_prefix _ _)
  have he := hy.unique (stream_of_patch_ok serves fruitful sound h ⟨s, hd⟩ hprefix)
  have hlen := congrArg List.length he
  rw [List.length_take] at hlen
  rw [he, List.getElem?_take_of_lt (by omega), List.getElem?_drop]

/-- Streaming agrees with patching the whole image, after whatever calls. A range is refused when
the patch fails, and with its error; else what the source gives for the range comes back as that
many octets of the patched image, which differs from the image in the window of the marker alone.
Neither the range nor the source nor its chunks have a part in which octet stands at an offset. -/
theorem stream_agrees_with_patch (image : PatchedImage σ) (data : Octets)
    (serves : image.source.Serves data) (fruitful : image.source.Fruitful data) (s : σ)
    (calls : List Call) (payload : Octets) (start length : Nat) :
    let m := image.after s calls
    match image.marker.patch payload data with
    | .error e => (image.stream payload start length m).1 = .error e
    | .ok patched =>
      (start < data.length → 0 < length → ∃ delivered, delivered ≠ [] ∧
        image.Gets m start length delivered ∧ delivered <+: (data.drop start).take length) ∧
      (∀ delivered, image.Gets m start length delivered →
        delivered <+: (data.drop start).take length →
        image.Yields m payload start length
          ((patched.extract start (min (start + length) data.length)).take delivered.length)) ∧
      (∃ padded offset, image.marker.pad payload = .ok padded ∧
        image.marker.FirstAt data offset ∧ patched.length = data.length ∧
        ∀ i, patched[i]? = if offset ≤ i ∧ i < offset + image.marker.length
          then padded[i - offset]? else data[i]?) ∧
      (∀ {τ : Type} (other : PatchedImage τ), other.marker = image.marker →
        other.source.Serves data → other.source.Fruitful data →
        ∀ (t : τ) (earlier : List Call) (start' length' : Nat) (bytes bytes' : Octets),
          start < data.length → 0 < length → start' < data.length → 0 < length' →
          image.Yields m payload start length bytes →
          other.Yields (other.after t earlier) payload start' length' bytes' →
          ∀ i j, start + i = start' + j → i < bytes.length → j < bytes'.length →
            bytes[i]? = bytes'[j]?) := by
  intro m
  have sound := sound_after serves fruitful s calls
  cases h : image.marker.patch payload data with
  | error e => exact stream_of_patch_error serves fruitful sound h start length
  | ok patched =>
    obtain ⟨padded, offset, hp, ho, he⟩ := Marker.patch_eq_ok h
    have hlen : offset + padded.length ≤ data.length := by
      rw [Marker.length_pad hp]
      exact ho.1.le_length
    refine ⟨?_, ?_, ⟨padded, offset, hp, ho, ?_, ?_⟩, ?_⟩
    · intro hs hl
      obtain ⟨bytes, s', hd, hb⟩ := serves.read (image.markerOffset m).2.behind start length hs hl
      exact ⟨bytes, fruitful _ start length bytes s' hs hl hd, ⟨s', hd⟩, hb⟩
    · intro delivered hg hd
      have hy := stream_of_patch_ok serves fruitful sound h hg (hd.trans (List.take_prefix _ _))
      have hle := hd.length_le
      rw [List.length_take, List.length_drop] at hle
      rw [List.extract_eq_take_drop, List.take_take, Nat.min_eq_left (by omega)]
      exact hy
    · rw [he, length_written hlen]
    · intro i
      rw [he, getElem?_written hlen, Marker.length_pad hp]
    · intro τ other hm serves' fruitful' t earlier start' length' bytes bytes' hs hl hs' hl' hy hy'
        i j hij hi hj
      have h' : other.marker.patch payload data = .ok patched := by rw [hm]; exact h
      have sound' := sound_after serves' fruitful' t earlier
      rw [hy.getElem? serves fruitful sound h hs hl hi,
        hy'.getElem? serves' fruitful' sound' h' hs' hl' hj, hij]

theorem stream_agrees_with_patch_straddled :
    straddled.source.Serves [1, 2, 3, 65, 66, 4] ∧
      straddled.source.Fruitful [1, 2, 3, 65, 66, 4] ∧
      straddled.Yields (straddled.after () [.locate]) [7] 2 3 [3, 7, 32] := by
  have serves := Source.ofOctets_serves [1, 2, 3, 65, 66, 4] 1 (some 4) (by decide)
  have fruitful := Source.ofOctets_fruitful [1, 2, 3, 65, 66, 4] 1 (some 4) (by decide)
    (by decide)
  have h := stream_agrees_with_patch straddled _ serves fruitful () [.locate] [7] 2 3
  have hpatch : straddled.marker.patch [7] [1, 2, 3, 65, 66, 4] = .ok [1, 2, 3, 7, 32, 4] := rfl
  rw [hpatch] at h
  have hg : straddled.Gets (straddled.after () [.locate]) 2 3 [3, 65, 66] :=
    ⟨(), Source.ofOctets_read [1, 2, 3, 65, 66, 4] 1 (some 4) none (by decide) 2 3⟩
  exact ⟨serves, fruitful, h.2.1 _ hg (by decide)⟩

end BootServer.Image.PatchedImage
