import BootServer.Proofs.Image.History

/-! What is remembered of an image whose source may fail at any time. Nothing but a search that
came to an end fills the memory, so what is there is the first offset of the marker; it stays, and
no call searches again. A search that fails leaves nothing behind, and the next one begins anew. -/
namespace BootServer.Image.PatchedImage

variable {σ : Type} {image : PatchedImage σ} {data payload patch : Octets} {m m' : Memory σ}
  {start length offset : Nat} {e : ImageError}

/-- The offset is known: it is told again without a question to the source, and a range takes one
question, the one for that range. -/
structure Knows (image : PatchedImage σ) (m : Memory σ) (offset : Nat) : Prop where
  told : image.markerOffset m = (.ok offset, m)
  streamed : ∀ payload patch start length, image.marker.pad payload = .ok patch →
    image.stream payload start length m =
      match image.source.read start length m.behind with
      | (.error e, s) => (.error e, { m with behind := s })
      | (.ok body, s) => (.ok (patchBody patch offset start body), { m with behind := s })

theorem knows (image : PatchedImage σ) (h : m.offset = some offset) : image.Knows m offset := by
  refine ⟨markerOffset_known image h, ?_⟩
  intro payload patch start length hp
  have hstream := stream_apply image payload start length m
  rw [hp, markerOffset_known image h] at hstream
  exact hstream

/-! ## One call -/

theorem stream_ok {body : Body} (h : image.stream payload start length m = (.ok body, m')) :
    ∃ offset, m'.offset = some offset := by
  cases hp : image.marker.pad payload with
  | error e =>
    rw [stream_apply, hp] at h
    cases h
  | ok patch =>
    have ho := stream_offset (m := m) hp start length
    rw [h] at ho
    cases hm : image.markerOffset m with
    | mk result m₁ =>
      rw [hm] at ho
      cases result with
      | error e =>
        rw [stream_apply, hp, hm] at h
        cases h
      | ok offset => exact ⟨offset, ho.trans (markerOffset_ok hm)⟩

/-- A search that fails is the end of the call that needed it, and leaves the memory as it was. -/
theorem scan_failed {s : σ} (ho : m.offset = none) (h : image.scan m.behind = (.error e, s)) :
    image.markerOffset m = (.error e, { offset := none, behind := s }) ∧
      ∀ payload patch start length, image.marker.pad payload = .ok patch →
        image.stream payload start length m = (.error e, { offset := none, behind := s }) := by
  have hm : image.markerOffset m = (.error e, { offset := none, behind := s }) := by
    rw [markerOffset_unknown image ho, h, ho]
  refine ⟨hm, ?_⟩
  intro payload patch start length hp
  rw [stream_apply, hp, hm]

/-! ## Every history -/

/-- What can be relied on at any point of a history of calls, some of which may have failed. -/
structure Recalls (image : PatchedImage σ) (data : Octets) (m : Memory σ) : Prop where
  /-- What is remembered is the first offset of the marker. -/
  right : ∀ offset, m.offset = some offset → image.marker.FirstAt data offset
  /-- Once the offset was told, it is told by every later call, and nothing is searched again. -/
  told : ∀ offset m', image.markerOffset m = (.ok offset, m') →
    image.marker.FirstAt data offset ∧
      ∀ more : List Call, image.Knows (more.foldl image.remembered m') offset
  /-- Once a range was streamed, the offset is known in the same way. -/
  streamed : ∀ payload start length body m',
    image.stream payload start length m = (.ok body, m') →
      ∃ offset, image.marker.FirstAt data offset ∧
        ∀ more : List Call, image.Knows (more.foldl image.remembered m') offset
  /-- A search that fails leaves nothing behind but what it did to the source. -/
  failed : ∀ e s', m.offset = none → image.scan m.behind = (.error e, s') →
    image.markerOffset m = (.error e, { offset := none, behind := s' }) ∧
      ∀ payload patch start length, image.marker.pad payload = .ok patch →
        image.stream payload start length m = (.error e, { offset := none, behind := s' })
  /-- If nothing goes wrong in the next search, it comes to the first offset of the marker, or finds
  that there is none, whatever became of those before it. -/
  recovers : m.offset = none → ∃ result s' log,
    image.recorded.scan (m.behind, []) = (result, s', log) ∧
      (image.markerOffset m).1 = result ∧
      ((∃ total s₁, image.source.length m.behind = (.ok total, s₁)) →
        (∀ a ∈ log, a.Healthy) → image.marker.Located data result)

/-- At every point of every history the memory of an image holds nothing or the first offset of the
marker, whatever failed on the way; it is filled once, and never by a search that failed. -/
theorem recalls_after (image : PatchedImage σ) (data : Octets)
    (truthful : image.source.Truthful data) (s : σ) (calls : List Call) :
    image.Recalls data (image.after s calls) := by
  have sound : image.Sound data (image.after s calls) :=
    (image.sound_opened data s).calls truthful calls
  have later {m' : Memory σ} {offset : Nat} (hs : image.Sound data m')
      (ho : m'.offset = some offset) : image.marker.FirstAt data offset ∧
        ∀ more : List Call, image.Knows (more.foldl image.remembered m') offset :=
    ⟨hs offset ho, fun more => knows image (kept image ho more)⟩
  refine ⟨sound, ?_, ?_, fun e s' => scan_failed, ?_⟩
  · intro offset m' h
    have hs := sound.call truthful .locate
    rw [remembered, h] at hs
    exact later hs (markerOffset_ok h)
  · intro payload start length body m' h
    have hs := sound.call truthful (.stream payload start length)
    rw [remembered, h] at hs
    obtain ⟨offset, ho⟩ := stream_ok h
    exact ⟨offset, later hs ho⟩
  · intro ho
    obtain ⟨result, s', log, hrec, hscan, -, -, hlocated⟩ :=
      scan_heard image truthful (image.after s calls).behind
    refine ⟨result, s', log, hrec, ?_, hlocated⟩
    rw [markerOffset_unknown image ho, hscan]
    cases result <;> rfl

/-- A source whose first answer breaks off within the marker; after that it gives all of a range. -/
def broken (data : Octets) : Source Bool where
  length := pure data.length
  read start length := fun mended =>
    let range := (data.drop start).take length
    (.ok (if mended then [.ok range] else [.ok (range.take 4), .error .transport]), true)

theorem broken_truthful (data : Octets) : (broken data).Truthful data := by
  constructor
  · intro s s' total h
    cases h
    rfl
  · intro mended s' start length body _ _ h
    cases h
    cases mended with
    | false => simpa [Body.sent] using List.take_prefix 4 ((data.drop start).take length)
    | true => simp [Body.sent]

def interrupted : PatchedImage Bool :=
  { source := broken [1, 2, 3, 65, 66, 4], marker := ⟨[65, 66], List.cons_ne_nil _ _⟩ }

theorem recalls_after_interrupted :
    interrupted.source.Truthful [1, 2, 3, 65, 66, 4] ∧
      (interrupted.after false [.locate]).offset = none ∧
      ∃ m', interrupted.markerOffset (interrupted.after false [.locate]) = (.ok 3, m') ∧
        ∀ more : List Call, interrupted.Knows (more.foldl interrupted.remembered m') 3 := by
  have truthful := broken_truthful [1, 2, 3, 65, 66, 4]
  have recalls := recalls_after interrupted _ truthful false [.locate]
  have hagain : (interrupted.after false [.locate, .locate]).offset = some 3 := by decide +kernel
  replace hagain : (interrupted.markerOffset (interrupted.after false [.locate])).2.offset =
    some 3 := hagain
  refine ⟨truthful, by decide +kernel, ?_⟩
  cases hm : interrupted.markerOffset (interrupted.after false [.locate]) with
  | mk result m' =>
    rw [hm] at hagain
    cases result with
    | error e =>
      rw [(markerOffset_error hm).2] at hagain
      cases hagain
    | ok offset =>
      cases (markerOffset_ok hm).symm.trans hagain
      exact ⟨m', rfl, (recalls.told 3 m' hm).2⟩

end BootServer.Image.PatchedImage
