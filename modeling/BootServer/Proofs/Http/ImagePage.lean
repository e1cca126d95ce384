import BootServer.Http.Site
import BootServer.Proofs.Http.Range
import BootServer.Proofs.Image.Recall

/-! The image page. What is looked at before any octet is sent is the same for every method, and it
settles the head of the response; only then `GET` asks the source for the part that is wanted, once,
and sends what comes of it with the payload laid over. -/
namespace BootServer.Http

open Image PatchedImage

variable {σ α : Type}

/-! ## Actions of a page -/

theorem decided_apply (e : Except Failure α) (m : Image.Memory σ) : decided e m = (e, m) := rfl

theorem onImage_apply (action : Access (Image.Memory σ) α) (m : Image.Memory σ) :
    onImage action m = ((action m).1.mapError .image, (action m).2) := rfl

/-! ## What is asked for -/

/-- The part of an image that is sent: the range that is asked for, or else all of it. -/
def partOf (total : Nat) (range : Option ByteRange) : ByteRange := range.getD ⟨0, total⟩

section

variable {headers : Headers} {header : Header} {total : Nat}

theorem requestedRange_absent (h : Headers.first? headers "range" = none) :
    requestedRange headers total = .ok none := by
  rw [requestedRange, h]

theorem requestedRange_notText (h : Headers.first? headers "range" = some header)
    (ht : header.text? = none) : requestedRange headers total = .error .rangeNotText := by
  simp only [requestedRange, h, ht]

/-- A header that is text asks for the one range that it leaves. -/
theorem requestedRange_text {value : String} (h : Headers.first? headers "range" = some header)
    (ht : header.text? = some value) (total : Nat) :
    requestedRange headers total =
      match ByteRange.parse? total value with
      | none => .error (.malformedRange value)
      | some [range] =>
        if range.length = 0 then .error (.outsideRange total) else .ok (some range)
      | some [] => .error (.outsideRange total)
      | some _ => .error .severalRanges := by
  rcases hp : ByteRange.parse? total value with _ | (_ | ⟨first, _ | ⟨second, more⟩⟩) <;>
    simp only [requestedRange, h, ht, hp]

/-- All is only asked for without a header. -/
theorem absent_of_requestedRange_eq_none (h : requestedRange headers total = .ok none) :
    Headers.first? headers "range" = none := by
  cases hgiven : Headers.first? headers "range" with
  | none => rfl
  | some header =>
    cases htext : header.text? with
    | none =>
      rw [requestedRange_notText hgiven htext] at h
      cases h
    | some value =>
      rw [requestedRange_text hgiven htext] at h
      split at h
      · cases h
      · split at h <;> cases h
      · cases h
      · cases h

/-- A range is only asked for by a header that is text and leaves just this range. -/
theorem exists_of_requestedRange_eq_some {range : ByteRange}
    (h : requestedRange headers total = .ok (some range)) :
    ∃ header value, Headers.first? headers "range" = some header ∧ header.text? = some value ∧
      ByteRange.parse? total value = some [range] ∧ 0 < range.length := by
  cases hgiven : Headers.first? headers "range" with
  | none =>
    rw [requestedRange_absent hgiven] at h
    cases h
  | some header =>
    cases htext : header.text? with
    | none =>
      rw [requestedRange_notText hgiven htext] at h
      cases h
    | some value =>
      rw [requestedRange_text hgiven htext] at h
      split at h
      · cases h
      · next found hparsed =>
        split at h
        · cases h
        · next hne =>
          cases h
          exact ⟨header, value, rfl, htext, hparsed, Nat.pos_of_ne_zero hne⟩
      · cases h
      · cases h

theorem requestedRange_within {range : ByteRange}
    (h : requestedRange headers total = .ok (some range)) :
    range.start + range.length ≤ total ∧ 0 < range.length := by
  obtain ⟨header, value, -, -, hparsed, hpos⟩ := exists_of_requestedRange_eq_some h
  exact ⟨(ByteRange.parse?_within hparsed (List.mem_singleton_self range)).stop_le, hpos⟩

end

/-- The part that is sent lies within the image, and it has octets if the image has. -/
theorem partOf_within {headers : Headers} {total : Nat} {range : Option ByteRange}
    (h : requestedRange headers total = .ok range) (hpos : 0 < total) :
    (partOf total range).start + (partOf total range).length ≤ total ∧
      0 < (partOf total range).length := by
  cases range with
  | none =>
    show 0 + total ≤ total ∧ 0 < total
    omega
  | some range => exact requestedRange_within h

theorem partOf_start_le {headers : Headers} {total : Nat} {range : Option ByteRange}
    (h : requestedRange headers total = .ok range) : (partOf total range).start ≤ total := by
  cases range with
  | none => exact Nat.zero_le total
  | some range => exact Nat.le_trans (Nat.le_add_right _ _) (requestedRange_within h).1

/-! ## What is looked at first -/

namespace ImagePage

variable {p : ImagePage σ} {payload : Octets} {headers : Headers} {m m' : Image.Memory σ}
  {total : Nat} {range : Option ByteRange} {f : Failure} {e : ImageError}

/-- What is looked at before any octet of an image is sent: whether the payload fits, where the
marker is, how long the image is, and what part of it is asked for. -/
def check (p : ImagePage σ) (payload : Octets) (headers : Headers) :
    Serving σ (Nat × Option ByteRange) := do
  let _ ← decided ((p.image.marker.pad payload).mapError .image)
  let _ ← onImage p.image.markerOffset
  let total ← onImage p.image.length
  let range ← decided (requestedRange headers total)
  return (total, range)

theorem check_apply (p : ImagePage σ) (payload : Octets) (headers : Headers)
    (m : Image.Memory σ) :
    p.check payload headers m =
      match p.image.marker.pad payload with
      | .error e => (.error (.image e), m)
      | .ok _ =>
        match p.image.markerOffset m with
        | (.error e, m₁) => (.error (.image e), m₁)
        | (.ok _, m₁) =>
          match p.image.length m₁ with
          | (.error e, m₂) => (.error (.image e), m₂)
          | (.ok total, m₂) => ((requestedRange headers total).map (total, ·), m₂) := by
  rw [check, access_bind, decided_apply]
  cases p.image.marker.pad payload with
  | error e => rfl
  | ok padded =>
    dsimp only [Except.mapError]
    rw [access_bind, onImage_apply]
    cases p.image.markerOffset m with
    | mk result m₁ =>
      cases result with
      | error e => rfl
      | ok offset =>
        dsimp only [Except.mapError]
        rw [access_bind, onImage_apply]
        cases p.image.length m₁ with
        | mk told m₂ =>
          cases told with
          | error e => rfl
          | ok total =>
            dsimp only [Except.mapError]
            rw [access_bind, decided_apply]
            cases requestedRange headers total <;> rfl

theorem send_eq (p : ImagePage σ) (payload : Octets) (r : Request) :
    p.send payload r = do
      let (total, range) ← p.check payload r.headers
      if r.method = .head then return imageHead total range
      let part := partOf total range
      return { imageHead total range with
        body := ← onImage (p.image.stream payload part.start part.length) } := by
  simp only [send, check, bind_assoc, pure_bind]
  refine bind_congr fun _ => bind_congr fun _ => bind_congr fun total => bind_congr fun range => ?_
  cases range <;> rfl

theorem send_of_check_error {r : Request} (h : p.check payload r.headers m = (.error f, m')) :
    p.send payload r m = (.error f, m') := by
  rw [send_eq, access_bind, h]

/-- When all is in order, the marker is known and the length is the one that the source told. -/
theorem check_ok (h : p.check payload headers m = (.ok (total, range), m')) :
    ∃ patch offset m₁, p.image.marker.pad payload = .ok patch ∧
      p.image.markerOffset m = (.ok offset, m₁) ∧ p.image.length m₁ = (.ok total, m') ∧
      requestedRange headers total = .ok range ∧ m'.offset = some offset := by
  rw [check_apply] at h
  cases hp : p.image.marker.pad payload with
  | error e => rw [hp] at h; cases h
  | ok patch =>
    rw [hp] at h
    cases hm : p.image.markerOffset m with
    | mk result m₁ =>
      rw [hm] at h
      cases result with
      | error e => cases h
      | ok offset =>
        dsimp only at h
        cases hl : p.image.length m₁ with
        | mk told m₂ =>
          rw [hl] at h
          cases told with
          | error e => cases h
          | ok total' =>
            dsimp only at h
            cases hr : requestedRange headers total' with
            | error f => rw [hr] at h; cases h
            | ok range' =>
              rw [hr] at h
              cases h
              refine ⟨patch, offset, m₁, rfl, rfl, hl, hr, ?_⟩
              rw [← markerOffset_ok hm, ← congrArg (·.2.offset) hl]
              rfl

theorem send_head {r : Request} (hr : r.method = .head)
    (h : p.check payload r.headers m = (.ok (total, range), m')) :
    p.send payload r m = (.ok (imageHead total range), m') := by
  rw [send_eq, access_bind, h]
  dsimp only
  rw [if_pos hr]
  rfl

/-- `GET` asks the source one more question, for the part that is sent. -/
theorem send_get {r : Request} (hr : r.method = .get)
    (h : p.check payload r.headers m = (.ok (total, range), m')) :
    ∃ patch offset, p.image.marker.pad payload = .ok patch ∧ m'.offset = some offset ∧
      p.send payload r m =
        match p.image.source.read (partOf total range).start (partOf total range).length
          m'.behind with
        | (.error e, s) => (.error (.image e), { m' with behind := s })
        | (.ok body, s) =>
          (.ok { imageHead total range with
              body := patchBody patch offset (partOf total range).start body },
            { m' with behind := s }) := by
  obtain ⟨patch, offset, m₁, hp, -, -, -, ho⟩ := check_ok h
  refine ⟨patch, offset, hp, ho, ?_⟩
  have hne : ¬ r.method = .head := by
    rw [hr]
    exact Method.noConfusion
  rw [send_eq, access_bind, h]
  dsimp only
  rw [if_neg hne, access_bind, onImage_apply,
    (knows p.image ho).streamed payload patch _ _ hp]
  cases p.image.source.read (partOf total range).start (partOf total range).length m'.behind with
  | mk outcome s => cases outcome <;> rfl

/-! ## What is remembered -/

theorem check_calls (p : ImagePage σ) (payload : Octets) (headers : Headers)
    (m : Image.Memory σ) :
    ∃ calls : List Call, (p.check payload headers m).2 = calls.foldl p.image.remembered m := by
  rw [check_apply]
  cases p.image.marker.pad payload with
  | error e => exact ⟨[], rfl⟩
  | ok patch =>
    cases hm : p.image.markerOffset m with
    | mk result m₁ =>
      have hlocate : m₁ = p.image.remembered m .locate := (congrArg Prod.snd hm).symm
      cases result with
      | error e => exact ⟨[.locate], hlocate⟩
      | ok offset =>
        dsimp only
        cases hl : p.image.length m₁ with
        | mk told m₂ =>
          have hlength : m₂ = p.image.remembered m₁ .length := (congrArg Prod.snd hl).symm
          rw [hlocate] at hlength
          cases told with
          | error e => exact ⟨[.locate, .length], hlength⟩
          | ok total => exact ⟨[.locate, .length], hlength⟩

/-- Whatever becomes of a request, to the image it is a few calls. -/
theorem send_calls (p : ImagePage σ) (payload : Octets) (r : Request) (m : Image.Memory σ) :
    ∃ calls : List Call, (p.send payload r m).2 = calls.foldl p.image.remembered m := by
  obtain ⟨calls, hc⟩ := p.check_calls payload r.headers m
  rw [send_eq, access_bind]
  cases h : p.check payload r.headers m with
  | mk result m' =>
    rw [h] at hc
    cases result with
    | error f => exact ⟨calls, hc⟩
    | ok found =>
      obtain ⟨total, range⟩ := found
      dsimp only
      split
      · exact ⟨calls, hc⟩
      · let part := partOf total range
        refine ⟨calls ++ [.stream payload part.start part.length], ?_⟩
        rw [List.foldl_append, ← hc, access_bind, onImage_apply]
        cases hs : p.image.stream payload (partOf total range).start (partOf total range).length m'
          with
        | mk outcome m'' =>
          have hstream := (congrArg Prod.snd hs).symm
          cases outcome <;> exact hstream

end ImagePage

end BootServer.Http
