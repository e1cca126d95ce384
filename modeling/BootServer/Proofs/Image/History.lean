import BootServer.Proofs.Image.Faults

/-! What an image remembers of what it was asked. A call leaves the memory alone, or fills it in by
a search that came to an end; so after every history it holds nothing or the first offset of the
marker, provided that what the source tells is true. -/
namespace BootServer.Image.PatchedImage

variable {σ : Type} {image : PatchedImage σ} {data payload patch : Octets} {m m' : Memory σ}
  {offset : Nat} {e : ImageError}

/-! ## What an image was asked before -/

/-- Something that is asked of an image. -/
inductive Call where
  | length
  | locate
  | stream (payload : Octets) (start length : Nat)

/-- What an image remembers after a call. -/
def remembered (image : PatchedImage σ) (m : Memory σ) : Call → Memory σ
  | .length => (image.length m).2
  | .locate => (image.markerOffset m).2
  | .stream payload start length => (image.stream payload start length m).2

/-- What an image remembers after calls, when it began with nothing. -/
def after (image : PatchedImage σ) (s : σ) (calls : List Call) : Memory σ :=
  calls.foldl image.remembered { behind := s }

/-- The offset that is remembered, if any is, is the first one of the marker. -/
def Sound (image : PatchedImage σ) (data : Octets) (m : Memory σ) : Prop :=
  ∀ offset, m.offset = some offset → image.marker.FirstAt data offset

/-! ## The actions on an image -/

theorem onSource_apply {α : Type} (action : Access σ α) (m : Memory σ) :
    onSource action m = ((action m.behind).1, { m with behind := (action m.behind).2 }) := rfl

theorem markerOffset_known (image : PatchedImage σ) (h : m.offset = some offset) :
    image.markerOffset m = (.ok offset, m) := by
  rw [markerOffset, access_bind, access_get]
  dsimp only
  rw [h]
  rfl

theorem markerOffset_unknown (image : PatchedImage σ) (h : m.offset = none) :
    image.markerOffset m =
      match image.scan m.behind with
      | (.ok offset, s) => (.ok offset, { offset := some offset, behind := s })
      | (.error e, s) => (.error e, { m with behind := s }) := by
  rw [markerOffset, access_bind, access_get]
  dsimp only
  rw [h]
  dsimp only
  rw [access_bind, onSource_apply, h]
  cases image.scan m.behind with
  | mk result s => cases result <;> rfl

theorem stream_apply (image : PatchedImage σ) (payload : Octets) (start length : Nat)
    (m : Memory σ) :
    image.stream payload start length m =
      match image.marker.pad payload with
      | .error e => (.error e, m)
      | .ok patch =>
        match image.markerOffset m with
        | (.error e, m') => (.error e, m')
        | (.ok offset, m') =>
          match image.source.read start length m'.behind with
          | (.error e, s) => (.error e, { m' with behind := s })
          | (.ok body, s) => (.ok (patchBody patch offset start body), { m' with behind := s }) := by
  rw [stream, access_bind]
  cases image.marker.pad payload with
  | error e => rfl
  | ok patch =>
    show (image.markerOffset >>= _) m = _
    rw [access_bind]
    cases image.markerOffset m with
    | mk result m' =>
      cases result with
      | error e => rfl
      | ok offset =>
        show (onSource (image.source.read start length) >>= _) m' = _
        rw [access_bind, onSource_apply]
        dsimp only
        cases image.source.read start length m'.behind with
        | mk result s => cases result <;> rfl

theorem markerOffset_ok (h : image.markerOffset m = (.ok offset, m')) :
    m'.offset = some offset := by
  cases ho : m.offset with
  | some known =>
    rw [markerOffset_known image ho] at h
    cases h
    exact ho
  | none =>
    rw [markerOffset_unknown image ho] at h
    cases hs : image.scan m.behind with
    | mk result s =>
      rw [hs] at h
      cases result with
      | error e => cases h
      | ok found =>
        cases h
        rfl

theorem markerOffset_error (h : image.markerOffset m = (.error e, m')) :
    m.offset = none ∧ m'.offset = none := by
  cases ho : m.offset with
  | some known =>
    rw [markerOffset_known image ho] at h
    cases h
  | none =>
    rw [markerOffset_unknown image ho] at h
    cases hs : image.scan m.behind with
    | mk result s =>
      rw [hs] at h
      cases result with
      | error e =>
        cases h
        exact ⟨rfl, ho⟩
      | ok found => cases h

/-- For what is remembered it makes no difference what a range is read for. -/
theorem stream_offset (hp : image.marker.pad payload = .ok patch) (start length : Nat) :
    (image.stream payload start length m).2.offset = (image.markerOffset m).2.offset := by
  rw [stream_apply, hp]
  cases image.markerOffset m with
  | mk result m' =>
    cases result with
    | error e => rfl
    | ok offset =>
      dsimp only
      cases image.source.read start length m'.behind with
      | mk outcome s => cases outcome <;> rfl

/-- A call leaves what is remembered alone, or else nothing was, and a search filled it in. -/
theorem remembered_offset (image : PatchedImage σ) (m : Memory σ) (call : Call) :
    (image.remembered m call).offset = m.offset ∨
      m.offset = none ∧ ∃ offset s, image.scan m.behind = (.ok offset, s) ∧
        (image.remembered m call).offset = some offset := by
  have hlocate : (image.markerOffset m).2.offset = m.offset ∨
      m.offset = none ∧ ∃ offset s, image.scan m.behind = (.ok offset, s) ∧
        (image.markerOffset m).2.offset = some offset := by
    cases ho : m.offset with
    | some offset =>
      rw [markerOffset_known image ho]
      exact .inl ho
    | none =>
      rw [markerOffset_unknown image ho]
      cases hs : image.scan m.behind with
      | mk result s =>
        cases result with
        | error e => exact .inl ho
        | ok offset => exact .inr ⟨rfl, offset, s, rfl, rfl⟩
  cases call with
  | length => exact .inl rfl
  | locate => exact hlocate
  | stream payload start length =>
    cases hp : image.marker.pad payload with
    | error e =>
      left
      rw [remembered, stream_apply, hp]
    | ok patch =>
      rw [remembered, stream_offset hp]
      exact hlocate

/-! ## Every history -/

theorem kept (image : PatchedImage σ) (h : m.offset = some offset) (calls : List Call) :
    (calls.foldl image.remembered m).offset = some offset := by
  induction calls generalizing m with
  | nil => exact h
  | cons call rest ih =>
    apply ih
    rcases image.remembered_offset m call with hk | ⟨hn, -⟩
    · exact hk.trans h
    · rw [h] at hn
      cases hn

theorem Sound.call (truthful : image.source.Truthful data) (sound : image.Sound data m)
    (call : Call) : image.Sound data (image.remembered m call) := by
  intro offset ho
  rcases image.remembered_offset m call with hk | ⟨-, found, s, hs, hf⟩
  · exact sound offset (hk ▸ ho)
  · obtain ⟨result, s', log, -, hscan, -, hright, -⟩ := scan_heard image truthful m.behind
    rw [hs] at hscan
    cases hscan
    exact hright offset (congrArg Except.ok (Option.some.inj (hf.symm.trans ho)))

theorem Sound.calls (truthful : image.source.Truthful data) (sound : image.Sound data m)
    (calls : List Call) : image.Sound data (calls.foldl image.remembered m) := by
  induction calls generalizing m with
  | nil => exact sound
  | cons call rest ih => exact ih (sound.call truthful call)

theorem sound_opened (image : PatchedImage σ) (data : Octets) (s : σ) :
    image.Sound data { behind := s } := by
  intro offset ho
  cases ho

/-- A dependable source has its marker located by every call that needs it. -/
theorem Sound.located (dependable : image.source.Dependable data) (sound : image.Sound data m) :
    ∃ result m', image.markerOffset m = (result, m') ∧ image.marker.Located data result := by
  cases ho : m.offset with
  | some offset => exact ⟨_, _, markerOffset_known image ho, .inl ⟨offset, sound offset ho, rfl⟩⟩
  | none =>
    obtain ⟨result, s, hscan, hl⟩ := scan_dependable image dependable m.behind
    rw [markerOffset_unknown image ho, hscan]
    cases result with
    | error e => exact ⟨_, _, rfl, hl⟩
    | ok offset => exact ⟨_, _, rfl, hl⟩

end BootServer.Image.PatchedImage
