import BootServer.Proofs.Http.Site
import BootServer.Proofs.Image.Streaming

/-! What a response with an image says of itself. If the source answers in full, the body is the
part of the patched image that was asked for, its length is the one announced, and the range in the
head is where it stands; every other outcome is an error. -/
namespace BootServer.Http

open Image PatchedImage

variable {σ : Type}

/-- The body is a part of a whole, and the head says how many octets it has. -/
structure Response.Carries (a : Response) (whole : Octets) (start length : Nat) : Prop where
  body : a.body.collect = .ok (whole.extract start (start + length))
  exact : (whole.extract start (start + length)).length = length
  announced : Headers.first? a.headers "content-length" = some (Response.lengthHeader length)

theorem imageHead_length (total : Nat) (range : Option ByteRange) :
    Headers.first? (imageHead total range).headers "content-length" =
      some (Response.lengthHeader (partOf total range).length) := by
  cases range <;> rfl

namespace ImagePage

variable {p : ImagePage σ} {data payload patched delivered : Octets} {headers : Headers}
  {m m' : Image.Memory σ} {total : Nat} {range : Option ByteRange} {e : ImageError}

theorem length_apply (dependable : p.image.source.Dependable data) (m : Image.Memory σ) :
    ∃ m', p.image.length m = (.ok data.length, m') := by
  obtain ⟨s, hs⟩ := dependable.length m.behind
  refine ⟨{ m with behind := s }, ?_⟩
  show onSource p.image.source.length m = _
  rw [onSource_apply, hs]

/-- An image that cannot be patched is refused, whatever part of it is asked for. -/
theorem check_of_patch_error (dependable : p.image.source.Dependable data)
    (sound : p.image.Sound data m) (h : p.image.marker.patch payload data = .error e)
    (headers : Headers) : ∃ m', p.check payload headers m = (.error (.image e), m') := by
  rw [check_apply]
  rcases sound.refused dependable h with hp | ⟨padded, m₁, hp, hm⟩
  · rw [hp]
    exact ⟨m, rfl⟩
  · rw [hp, hm]
    exact ⟨m₁, rfl⟩

/-- One that can be patched is refused only for the part that is asked for. -/
theorem check_of_patch_ok (dependable : p.image.source.Dependable data)
    (sound : p.image.Sound data m) (h : p.image.marker.patch payload data = .ok patched)
    (headers : Headers) :
    ∃ m', p.check payload headers m =
      ((requestedRange headers data.length).map (data.length, ·), m') := by
  obtain ⟨padded, offset, m₁, hp, hm, -, -⟩ := sound.accepted dependable h
  obtain ⟨m₂, hlength⟩ := p.length_apply dependable m₁
  rw [check_apply, hp, hm]
  dsimp only
  rw [hlength]
  exact ⟨m₂, rfl⟩

/-- What the source gives for the part that is asked for is what is sent, patched. -/
theorem send_delivered (truthful : p.image.source.Truthful data) (sound : p.image.Sound data m)
    (h : p.image.marker.patch payload data = .ok patched) {r : Request} (hr : r.method = .get)
    (hc : p.check payload r.headers m = (.ok (total, range), m')) {s : σ}
    (hd : p.image.source.Delivers m'.behind (partOf total range).start (partOf total range).length
      delivered s)
    (hstands : delivered <+: data.drop (partOf total range).start) :
    ∃ body m'', p.send payload r m = (.ok { imageHead total range with body := body }, m'') ∧
      body.collect = .ok ((patched.drop (partOf total range).start).take delivered.length) := by
  obtain ⟨padded, offset, hp, ho, rfl⟩ := Marker.patch_eq_ok h
  obtain ⟨patch, found, hpatch, hfound, hsend⟩ := send_get hr hc
  rw [hp] at hpatch
  cases hpatch
  obtain ⟨calls, hcalls⟩ := p.check_calls payload r.headers m
  rw [hc] at hcalls
  have hfirst : p.image.marker.FirstAt data found :=
    sound.calls truthful calls found (hcalls ▸ hfound)
  obtain ⟨body, hread, hcollect⟩ := hd
  rw [hread] at hsend
  refine ⟨_, _, hsend, ?_⟩
  rw [hfirst.unique ho]
  refine collect_patchBody ?_ hcollect hstands
  rw [Marker.length_pad hp]
  exact ho.1.le_length

/-- A complete source has the part that is asked for sent in full. -/
theorem send_complete (complete : p.image.source.Complete data) (sound : p.image.Sound data m)
    (h : p.image.marker.patch payload data = .ok patched) {r : Request} (hr : r.method = .get)
    (hreq : requestedRange r.headers data.length = .ok range) :
    ∃ body m', p.send payload r m = (.ok { imageHead data.length range with body := body }, m') ∧
      Response.Carries { imageHead data.length range with body := body } patched
        (partOf data.length range).start (partOf data.length range).length := by
  have dependable := complete.dependable
  obtain ⟨hstop, hpos⟩ := partOf_within hreq (Marker.length_pos_of_patch h)
  obtain ⟨m', hc⟩ := p.check_of_patch_ok dependable sound h r.headers
  rw [hreq] at hc
  obtain ⟨s, hd⟩ := complete.read m'.behind _ _ hpos hstop
  obtain ⟨body, m'', hsend, hbody⟩ :=
    send_delivered dependable.truthful sound h hr hc hd (List.take_prefix _ _)
  have hlen : ((data.drop (partOf data.length range).start).take
      (partOf data.length range).length).length = (partOf data.length range).length := by
    rw [List.length_take, List.length_drop]
    omega
  rw [hlen] at hbody
  have hpart : patched.extract (partOf data.length range).start
      ((partOf data.length range).start + (partOf data.length range).length) =
      (patched.drop (partOf data.length range).start).take (partOf data.length range).length := by
    rw [List.extract_eq_take_drop, Nat.add_sub_cancel_left]
  refine ⟨body, m'', hsend, ?_, ?_, imageHead_length _ _⟩
  · rw [hpart]
    exact hbody
  · rw [hpart, List.length_take, List.length_drop, Marker.length_patch h]
    omega

/-- A range that cannot be sent is refused before the source is asked for it. -/
theorem send_refused (dependable : p.image.source.Dependable data) (sound : p.image.Sound data m)
    (h : p.image.marker.patch payload data = .ok patched) {r : Request} {f : Failure}
    (hreq : requestedRange r.headers data.length = .error f) :
    ∃ m', p.send payload r m = (.error f, m') := by
  obtain ⟨m', hc⟩ := p.check_of_patch_ok dependable sound h r.headers
  rw [hreq] at hc
  exact ⟨m', send_of_check_error hc⟩

end ImagePage

/-! ## What the range header makes of it -/

/-- What the answer with an image has to be, by what the range header asks for. -/
inductive Response.Describes (whole : Octets) (headers : Headers) (a : Response) : Prop
  | full (absent : Headers.first? headers "range" = none) (status : a.status = .ok)
      (carries : a.Carries whole 0 whole.length)
  | part {header : Header} {value : String} {range : ByteRange} {last : Nat}
      (given : Headers.first? headers "range" = some header) (text : header.text? = some value)
      (parsed : ByteRange.parse? whole.length value = some [range])
      (status : a.status = .partialContent) (carries : a.Carries whole range.start range.length)
      (last_succ : last + 1 = range.start + range.length) (start_le : range.start ≤ last)
      (last_lt : last < whole.length)
      (told : Headers.first? a.headers "content-range" =
        some (.of "content-range" ("bytes " ++ Text.Decimal.text range.start ++ "-" ++
          Text.Decimal.text last ++ "/" ++ Text.Decimal.text whole.length)))
  | outside {header : Header} {value : String}
      (given : Headers.first? headers "range" = some header) (text : header.text? = some value)
      (parsed : ByteRange.parse? whole.length value = some [])
      (status : a.status = .rangeNotSatisfiable)
      (told : Headers.first? a.headers "content-range" =
        some (.of "content-range" ("bytes */" ++ Text.Decimal.text whole.length)))
  | several {header : Header} {value : String} {first second : ByteRange} {more : List ByteRange}
      (given : Headers.first? headers "range" = some header) (text : header.text? = some value)
      (parsed : ByteRange.parse? whole.length value = some (first :: second :: more))
      (status : a.status = .badRequest)
  | malformed {header : Header} {value : String}
      (given : Headers.first? headers "range" = some header) (text : header.text? = some value)
      (parsed : ByteRange.parse? whole.length value = none) (status : a.status = .badRequest)
  | notText {header : Header} (given : Headers.first? headers "range" = some header)
      (text : header.text? = none) (status : a.status = .badRequest)

/-- Without a header all of a whole that has octets is asked for, and with one a part of it. -/
theorem Response.describes_sent {whole : Octets} {headers : Headers} {range : Option ByteRange}
    {body : Body} (hreq : requestedRange headers whole.length = .ok range)
    (carries : Response.Carries { imageHead whole.length range with body := body } whole
      (partOf whole.length range).start (partOf whole.length range).length) :
    Response.Describes whole headers { imageHead whole.length range with body := body } := by
  cases range with
  | none =>
    exact .full (absent_of_requestedRange_eq_none hreq) rfl carries
  | some range =>
    obtain ⟨header, value, hgiven, htext, hparsed, hpos⟩ := exists_of_requestedRange_eq_some hreq
    have hstop := (requestedRange_within hreq).1
    exact .part hgiven htext hparsed rfl carries
      (show range.start + range.length - 1 + 1 = _ by omega) (by omega) (by omega) rfl

theorem Response.describes_refused {whole : Octets} {headers : Headers} {f : Failure}
    (hpos : 0 < whole.length) (hreq : requestedRange headers whole.length = .error f) :
    Response.Describes whole headers f.response := by
  cases hgiven : Headers.first? headers "range" with
  | none =>
    rw [requestedRange_absent hgiven] at hreq
    cases hreq
  | some header =>
    cases htext : header.text? with
    | none =>
      rw [requestedRange_notText hgiven htext] at hreq
      cases hreq
      exact .notText hgiven htext rfl
    | some value =>
      rw [requestedRange_text hgiven htext] at hreq
      match hparsed : ByteRange.parse? whole.length value, hreq with
      | none, hreq =>
        cases hreq
        exact .malformed hgiven htext hparsed rfl
      | some [], hreq =>
        cases hreq
        exact .outside hgiven htext hparsed rfl rfl
      | some (first :: second :: more), hreq =>
        cases hreq
        exact .several hgiven htext hparsed rfl
      | some [range], hreq =>
        -- a range that is left has octets
        have hwithin := ByteRange.parse?_within hparsed (List.mem_singleton_self range)
        have hne : range.length ≠ 0 := Nat.ne_of_gt (hwithin.length_pos hpos)
        dsimp only at hreq
        rw [if_neg hne] at hreq
        cases hreq

namespace ImagePage

variable {p : ImagePage σ} {data payload patched : Octets} {m : Image.Memory σ}

theorem send_describes (complete : p.image.source.Complete data) (sound : p.image.Sound data m)
    (h : p.image.marker.patch payload data = .ok patched) {r : Request} (hr : r.method = .get) :
    (Site.respond (p.send payload r m).1).Describes patched r.headers := by
  have hlen : patched.length = data.length := Marker.length_patch h
  cases hreq : requestedRange r.headers data.length with
  | ok range =>
    obtain ⟨body, m', hsend, hcarries⟩ := send_complete complete sound h hr hreq
    rw [hsend]
    rw [← hlen] at hreq hcarries ⊢
    exact Response.describes_sent hreq hcarries
  | error f =>
    obtain ⟨m', hsend⟩ := send_refused complete.dependable sound h hreq
    rw [hsend]
    rw [← hlen] at hreq
    exact Response.describes_refused (hlen ▸ Marker.length_pos_of_patch h) hreq

end ImagePage

namespace Site

variable {s : Site σ} {p : ImagePage σ} {client file : String}

/-- What is answered to `GET` on an image page describes its body, whatever was asked of the site
before. -/
theorem image_response {data : Octets} {r : Request} (hp : s.image = some p)
    (complete : p.image.source.Complete data) (hc : '/' ∉ client.toList) (hf : file ≠ "")
    (hget : r.method = .get) (hpath : r.path = imagePath client file) (behind : σ)
    (earlier : List Request) :
    let a := (s.handle r (s.after behind earlier)).1.result
    match s.admitted client file with
    | .error f => a = f.response ∧
        (f.status = .badRequest ∨ f.status = .notFound ∨ f.status = .internalError)
    | .ok (mac, record) =>
      (s.store.byHardware mac).within s.timeout = .ok (some record) ∧
        record.boot.allowed = true ∧
        match p.image.marker.patch (Octets.ofText (p.payload.build mac record)) data with
        | .error e => a = (Failure.image e).response ∧ a.status = .internalError
        | .ok patched => patched.length = data.length ∧ a.Describes patched r.headers := by
  obtain ⟨calls, hcalls⟩ := after_calls hp behind earlier
  have dependable := complete.dependable
  have sound : p.image.Sound data (s.after behind earlier) := by
    rw [hcalls]
    exact (p.image.sound_opened data behind).calls dependable.truthful calls
  have hroute : s.route r.path = .image client file := by
    rw [hpath]
    exact route_imagePath (by rw [hp]; rfl) hc hf
  have ha : (s.handle r (s.after behind earlier)).1.result =
      respond ((s.page r).result (s.after behind earlier)).1 := by
    rw [handle_apply, hget]
    rfl
  rw [page_image hp hroute (by rw [hget]; rfl)] at ha
  dsimp only
  rw [ha]
  cases hadmitted : s.admitted client file with
  | error f => exact ⟨rfl, admitted_error hadmitted⟩
  | ok found =>
    obtain ⟨mac, record⟩ := found
    obtain ⟨-, -, hrecord, hallowed⟩ := admitted_eq_ok_iff.mp hadmitted
    refine ⟨hrecord, hallowed, ?_⟩
    dsimp only
    cases hpatch : p.image.marker.patch (Octets.ofText (p.payload.build mac record)) data with
    | error e =>
      obtain ⟨m', hcheck⟩ := p.check_of_patch_error dependable sound hpatch r.headers
      rw [ImagePage.send_of_check_error hcheck]
      exact ⟨rfl, rfl⟩
    | ok patched =>
      exact ⟨Marker.length_patch hpatch, ImagePage.send_describes complete sound hpatch hget⟩

/-- The permissive store admits every client, such as this one. -/
theorem admitted_permissive (s : Site σ) (h : s.store = .permissive) :
    s.admitted "02:00:00:00:00:01" "hook.iso" =
      .ok (⟨2, 0, 0, 0, 0, 1⟩, Record.permissive) := by
  refine admitted_eq_ok_iff.mpr ⟨⟨"02:00:00:00:00:01", ?_, by decide +kernel⟩,
    ⟨"hook.iso", ?_⟩, ?_, rfl⟩
  · exact decodePart_of_decode (by decide +kernel)
  · exact decodePart_of_decode (by decide +kernel)
  · rw [h]
    exact if_neg (Nat.not_lt_zero _)

/-- Most of it is the marker. -/
def smallImage : Octets := [1, 2] ++ List.replicate 170 35 ++ [3]

def smallPage : ImagePage Unit where
  image :=
    { source := .ofOctets smallImage 7
      marker := ⟨List.replicate 170 35, by decide⟩ }
  payload := {}

def small : Site Unit where
  store := .permissive
  timeout := 1000
  image := some smallPage

def resumed : Request where
  method := .get
  target := imagePath "02:00:00:00:00:01" "hook.iso"
  headers := [.of "range" "bytes=1-4"]
  peer := .v4 (.ofNat 0)

theorem smallPage_firstAt : smallPage.image.marker.FirstAt smallImage 2 :=
  Marker.find?_eq_some_iff.mp (by decide +kernel)

theorem smallPage_pad : ∃ padded, smallPage.image.marker.pad (Octets.ofText
    (smallPage.payload.build ⟨2, 0, 0, 0, 0, 1⟩ Record.permissive)) = .ok padded :=
  ⟨_, Marker.pad_of_length_le (by decide +kernel)⟩

theorem image_response_resumed :
    smallPage.image.source.Complete smallImage ∧ '/' ∉ "02:00:00:00:00:01".toList ∧
      "hook.iso" ≠ "" ∧ resumed.method = .get ∧
      resumed.path = imagePath "02:00:00:00:00:01" "hook.iso" ∧
      ∃ patched : Octets, patched.length = 173 ∧
        (small.handle resumed (small.after () [resumed])).1.result.Describes patched
          resumed.headers := by
  have complete : smallPage.image.source.Complete smallImage :=
    Source.ofOctets_complete _ 7 (by decide)
  have hclient : '/' ∉ "02:00:00:00:00:01".toList := by decide
  have hfile : "hook.iso" ≠ "" := by decide
  have hpath : resumed.path = imagePath "02:00:00:00:00:01" "hook.iso" := by decide +kernel
  refine ⟨complete, hclient, hfile, rfl, hpath, ?_⟩
  obtain ⟨padded, hpad⟩ := smallPage_pad
  have h := image_response (s := small) rfl complete hclient hfile rfl hpath () [resumed]
  simp only [admitted_permissive small rfl, Marker.patch_of_firstAt hpad smallPage_firstAt] at h
  exact ⟨_, h.2.2.1, h.2.2.2⟩

end Site

end BootServer.Http
