import BootServer.Proofs.Http.ImageResponse
import BootServer.Proofs.Image.Remote

/-! Answers to `HEAD` and to `GET`. They have one status and the same headers on every page, but for
images whose source answers all that is asked of it first and then refuses the part that is sent:
`HEAD` does not ask for that part and succeeds. A file never refuses it; a server on which the image
lies may, for instance one that does not know ranges. -/
namespace BootServer.Http

open Image PatchedImage

variable {σ : Type}

/-- The responses have the same status and the same headers. -/
structure Response.SameHead (a b : Response) : Prop where
  status : a.status = b.status
  headers : a.headers = b.headers

theorem Response.withoutBody_sameHead (a : Response) : a.withoutBody.SameHead a := ⟨rfl, rfl⟩

theorem Response.SameHead.withoutBody {a b : Response} (h : a.SameHead b) :
    a.withoutBody.SameHead b := ⟨h.status, h.headers⟩

namespace ImagePage

variable {p : ImagePage σ} {payload : Octets} {r : Request} {m : Image.Memory σ} {e : ImageError}

/-- All that is looked at first is in order, and then the source refuses the part that is asked
for. -/
def Refuses (p : ImagePage σ) (payload : Octets) (headers : Headers) (m : Image.Memory σ)
    (e : ImageError) : Prop :=
  ∃ total range m' s, p.check payload headers m = (.ok (total, range), m') ∧
    p.image.source.read (partOf total range).start (partOf total range).length m'.behind =
      (.error e, s)

theorem imageHead_isSuccess (total : Nat) (range : Option ByteRange) :
    (imageHead total range).status.isSuccess = true := by
  cases range <;> rfl

theorem send_get_of_refuses (h : p.Refuses payload r.headers m e) :
    (p.send payload (r.asking .get) m).1 = .error (.image e) := by
  obtain ⟨total, range, m', s, hc, hr⟩ := h
  obtain ⟨patch, offset, -, -, hsend⟩ := send_get (r := r.asking .get) rfl hc
  rw [hsend, hr]

theorem send_head_of_refuses (h : p.Refuses payload r.headers m e) :
    ∃ total range, (p.send payload (r.asking .head) m).1 = .ok (imageHead total range) := by
  obtain ⟨total, range, m', s, hc, -⟩ := h
  exact ⟨total, range, congrArg Prod.fst (send_head (r := r.asking .head) rfl hc)⟩

theorem send_sameHead (h : ¬ ∃ e, p.Refuses payload r.headers m e) :
    (Site.respond (p.send payload (r.asking .head) m).1).SameHead
      (Site.respond (p.send payload (r.asking .get) m).1) := by
  cases hc : p.check payload r.headers m with
  | mk result m' =>
    cases result with
    | error f =>
      rw [send_of_check_error (r := r.asking .head) hc, send_of_check_error (r := r.asking .get) hc]
      exact ⟨rfl, rfl⟩
    | ok found =>
      obtain ⟨total, range⟩ := found
      obtain ⟨patch, offset, -, -, hget⟩ := send_get (r := r.asking .get) rfl hc
      rw [send_head (r := r.asking .head) rfl hc, hget]
      cases hr : p.image.source.read (partOf total range).start (partOf total range).length
          m'.behind with
      | mk outcome s =>
        cases outcome with
        | error e => exact absurd ⟨e, total, range, m', s, hc, hr⟩ h
        | ok body => exact ⟨rfl, rfl⟩

/-! ## Who refuses -/

theorem length_of_check {total : Nat} {headers : Headers} {range : Option ByteRange}
    {m' : Image.Memory σ} (h : p.check payload headers m = (.ok (total, range), m')) :
    ∃ s, p.image.source.length s = (.ok total, m'.behind) := by
  obtain ⟨patch, offset, m₁, -, -, hl, -, -⟩ := check_ok h
  refine ⟨m₁.behind, ?_⟩
  replace hl : onSource p.image.source.length m₁ = (.ok total, m') := hl
  rw [onSource_apply] at hl
  cases h' : p.image.source.length m₁.behind with
  | mk told s =>
    rw [h'] at hl
    cases hl
    rfl

theorem range_of_check {total : Nat} {headers : Headers} {range : Option ByteRange}
    {m' : Image.Memory σ} (h : p.check payload headers m = (.ok (total, range), m')) :
    requestedRange headers total = .ok range := by
  obtain ⟨patch, offset, m₁, -, -, -, hreq, -⟩ := check_ok h
  exact hreq

/-- The image is a file, and no offset into it is too large to be asked for. -/
structure IsFile (p : ImagePage Unit) (files : FileTree) (path : String) : Prop where
  source : p.image.source = Source.ofFile files path
  size : ∀ data, files.read path = .ok data → data.length ≤ Source.maxFileOffset

/-- A file has no part that is refused. -/
theorem IsFile.not_refuses {p : ImagePage Unit} {files : FileTree} {path : String}
    (h : p.IsFile files path) (payload : Octets) (headers : Headers) (m : Image.Memory Unit)
    (e : ImageError) : ¬ p.Refuses payload headers m e := by
  rintro ⟨total, range, m', s, hc, hr⟩
  obtain ⟨s₁, hl⟩ := length_of_check hc
  rw [h.source] at hl hr
  cases hf : files.read path with
  | error cause =>
    rw [Source.ofFile_missing hf] at hl
    cases hl
  | ok data =>
    rw [Source.ofFile_length hf] at hl
    cases hl
    have hstart := partOf_start_le (range_of_check hc)
    rw [Source.ofFile_read hf (Nat.le_trans hstart (h.size data hf))] at hr
    cases hr

/-- The part of an image on a server is refused exactly if the server refuses it. -/
theorem refuses_iff_remote {τ : Type} {p : ImagePage (Remote.Memory τ)} {remote : Remote τ}
    {url : String} (hp : p.image.source = Remote.source remote url) {headers : Headers}
    {m : Image.Memory (Remote.Memory τ)} :
    p.Refuses payload headers m e ↔
      ∃ total range m', p.check payload headers m = (.ok (total, range), m') ∧
        remote.Refuses url (partOf total range).start (partOf total range).length
          m'.behind.server e := by
  unfold Refuses
  rw [hp]
  constructor
  · rintro ⟨total, range, m', s, hc, hr⟩
    exact ⟨total, range, m', hc, Remote.refuses_of_read hr⟩
  · rintro ⟨total, range, m', hc, hr⟩
    obtain ⟨s, hr⟩ := hr.read
    exact ⟨total, range, m', s, hc, hr⟩

end ImagePage

namespace Site

/-- The request leads to an image whose source refuses the part that is asked for. -/
def Refuses (s : Site σ) (r : Request) (m : Image.Memory σ) (e : ImageError) : Prop :=
  ∃ p payload, s.imageFor? r = some (p, payload) ∧ p.Refuses payload r.headers m e

theorem not_refuses_file {s : Site Unit} {p : ImagePage Unit} {files : FileTree} {path : String}
    (hp : s.image = some p) (hfile : p.IsFile files path) (r : Request) (m : Image.Memory Unit)
    (e : ImageError) : ¬ s.Refuses r m e := by
  rintro ⟨p', payload, hr, h⟩
  cases hp.symm.trans (image_of_imageFor hr)
  exact hfile.not_refuses payload r.headers m e h

theorem refuses_remote_iff {τ : Type} {s : Site (Remote.Memory τ)} {p : ImagePage (Remote.Memory τ)}
    {remote : Remote τ} {url : String} (hp : s.image = some p)
    (hremote : p.image.source = Remote.source remote url) (r : Request)
    (m : Image.Memory (Remote.Memory τ)) (e : ImageError) :
    s.Refuses r m e ↔ ∃ payload total range m', s.imageFor? r = some (p, payload) ∧
      p.check payload r.headers m = (.ok (total, range), m') ∧
      remote.Refuses url (partOf total range).start (partOf total range).length
        m'.behind.server e := by
  constructor
  · rintro ⟨p', payload, hr, h⟩
    cases hp.symm.trans (image_of_imageFor hr)
    obtain ⟨total, range, m', hc, hrefuses⟩ := (ImagePage.refuses_iff_remote hremote).mp h
    exact ⟨payload, total, range, m', hr, hc, hrefuses⟩
  · rintro ⟨payload, total, range, m', hr, hc, hrefuses⟩
    have h := (ImagePage.refuses_iff_remote hremote).mpr ⟨total, range, m', hc, hrefuses⟩
    exact ⟨p, payload, hr, h⟩

/-- `HEAD` and `GET` are answered by the same head and after the same questions to the store, unless
the source of an image refuses the part that is asked for. A file never does, and a server does when
it cannot be reached or answers by anything but that part, or the whole from its beginning. -/
theorem head_agrees_with_get_iff (s : Site σ) (r : Request) (m : Image.Memory σ) :
    let head := (s.handle (r.asking .head) m).1
    let get := (s.handle (r.asking .get) m).1
    head.asked = get.asked ∧
      (head.result.SameHead get.result ↔ ¬ ∃ e, s.Refuses r m e) ∧
      (∀ e, s.Refuses r m e →
        head.result.status.isSuccess = true ∧ get.result = (Failure.image e).response) ∧
      (∀ (s : Site Unit) (p : ImagePage Unit) (files : FileTree) (path : String),
        s.image = some p → p.IsFile files path → ∀ r m e, ¬ s.Refuses r m e) ∧
      ∀ (τ : Type) (s : Site (Remote.Memory τ)) (p : ImagePage (Remote.Memory τ))
        (remote : Remote τ) (url : String), s.image = some p →
        p.image.source = Remote.source remote url → ∀ r m e, s.Refuses r m e ↔
          ∃ payload total range m', s.imageFor? r = some (p, payload) ∧
            p.check payload r.headers m = (.ok (total, range), m') ∧
            remote.Refuses url (partOf total range).start (partOf total range).length
              m'.behind.server e := by
  intro head get
  have hhead : head.result = (respond ((s.page (r.asking .head)).result m).1).withoutBody :=
    congrArg (·.1.result) (handle_apply s (r.asking .head) m)
  have hget : get.result = respond ((s.page (r.asking .get)).result m).1 :=
    congrArg (·.1.result) (handle_apply s (r.asking .get) m)
  have hrefused : ∀ e, s.Refuses r m e →
      head.result.status.isSuccess = true ∧ get.result = (Failure.image e).response := by
    rintro e ⟨p, payload, hp, h⟩
    obtain ⟨total, range, hsend⟩ := ImagePage.send_head_of_refuses h
    rw [hhead, hget, result_asking s r rfl, result_asking s r rfl, hp]
    dsimp only
    rw [hsend, ImagePage.send_get_of_refuses h]
    exact ⟨ImagePage.imageHead_isSuccess total range, rfl⟩
  refine ⟨?_, ⟨?_, ?_⟩, hrefused, ?_, ?_⟩
  · rw [show head.asked = _ from congrArg (·.1.asked) (handle_apply s (r.asking .head) m),
      show get.asked = _ from congrArg (·.1.asked) (handle_apply s (r.asking .get) m)]
    exact s.asked_asking r rfl
  · rintro hsame ⟨e, h⟩
    obtain ⟨hsuccess, hfailed⟩ := hrefused e h
    rw [hsame.status, hfailed] at hsuccess
    cases hsuccess
  · intro h
    rw [hhead, hget, result_asking s r rfl, result_asking s r rfl]
    cases hp : s.imageFor? r with
    | none => exact Response.withoutBody_sameHead _
    | some found =>
      obtain ⟨p, payload⟩ := found
      have hserved : ¬ ∃ e, p.Refuses payload r.headers m e :=
        fun ⟨e, hr⟩ => h ⟨e, p, payload, hp, hr⟩
      exact (ImagePage.send_sameHead hserved).withoutBody
  · exact fun _ _ _ _ => not_refuses_file
  · exact fun _ _ _ _ _ => refuses_remote_iff

/-- A server that does not know ranges, and sends all that it has. -/
def rangeless (data : Octets) : Remote Unit := fun _ server =>
  (some
    { status := .ok
      headers := [Response.lengthHeader data.length]
      body := [some data] }, server)

def mirrorPage : ImagePage (Remote.Memory Unit) where
  image :=
    { source := Remote.source (rangeless smallImage) "http://mirror/hook.iso"
      marker := smallPage.image.marker }
  payload := {}

def mirrored : Site (Remote.Memory Unit) where
  store := .permissive
  timeout := 1000
  image := some mirrorPage

theorem mirrorPage_scan : mirrorPage.image.scan { server := () } =
    (.ok 2, { length := some 173, server := () }) := by
  have hlength : mirrorPage.image.source.length { server := () } =
      (.ok 173, { length := some 173, server := () }) :=
    Remote.length_told "http://mirror/hook.iso" rfl rfl (by decide +kernel)
  have hread : mirrorPage.image.source.read 0 (min scanWindow (173 - 0))
      { length := some 173, server := () } =
        (.ok [.ok smallImage], { length := some 173, server := () }) := by
    have hcut : Remote.cut 173 [some smallImage] = [.ok smallImage] := by
      rw [Remote.cut, if_neg (by decide), List.take_of_length_le (by decide +kernel), Remote.cut]
    rw [← hcut]
    exact Remote.read_apply (rangeless smallImage) "http://mirror/hook.iso" (Nat.succ_pos 172) _
  have hfound : ((Scanner.fresh mirrorPage.image.marker).feed smallImage).1 = some 2 := by
    decide +kernel
  rw [scan_eq _ hlength, scanFrom_window _ (by decide) _ _ _ hread, Search.feed]
  cases hf : (Scanner.fresh mirrorPage.image.marker).feed smallImage with
  | mk offset scanner =>
    rw [hf] at hfound
    cases hfound
    rfl

theorem requestedRange_resumed : requestedRange resumed.headers 173 = .ok (some ⟨1, 4⟩) := by
  have htext : (Header.of "range" "bytes=1-4").text? = some "bytes=1-4" := by decide
  have hparsed : ByteRange.parse? 173 "bytes=1-4" = some [⟨1, 4⟩] := by decide
  have hgiven : Headers.first? resumed.headers "range" = some (.of "range" "bytes=1-4") := rfl
  rw [requestedRange_text hgiven htext, hparsed]
  rfl

def mirrorPayload : Octets :=
  Octets.ofText (mirrorPage.payload.build ⟨2, 0, 0, 0, 0, 1⟩ Record.permissive)

/-- The marker is found, since the search begins where the server does. -/
theorem mirrorPage_check :
    mirrorPage.check mirrorPayload resumed.headers { behind := { server := () } } =
      (.ok (173, some ⟨1, 4⟩),
        { offset := some 2, behind := { length := some 173, server := () } }) := by
  obtain ⟨padded, hpad⟩ : ∃ padded, mirrorPage.image.marker.pad mirrorPayload = .ok padded :=
    smallPage_pad
  rw [ImagePage.check_apply, hpad, markerOffset_unknown _ rfl, mirrorPage_scan]
  show ((requestedRange resumed.headers 173).map (173, ·), _) = _
  rw [requestedRange_resumed]
  rfl

theorem mirrored_imageFor : mirrored.imageFor? resumed = some (mirrorPage, mirrorPayload) := by
  have hpath : resumed.path = imagePath "02:00:00:00:00:01" "hook.iso" := by decide +kernel
  have hroute : mirrored.route resumed.path = .image "02:00:00:00:00:01" "hook.iso" :=
    hpath ▸ route_imagePath rfl (by decide) (by decide)
  rw [imageFor?, hroute]
  dsimp only
  rw [imageOf?, admitted_permissive mirrored rfl]
  rfl

/-- `HEAD` promises a range that `GET` does not get. -/
theorem head_without_get :
    let m : Image.Memory (Remote.Memory Unit) := { behind := { server := () } }
    (mirrored.handle (resumed.asking .head) m).1.result.status = .partialContent ∧
      (mirrored.handle (resumed.asking .get) m).1.result.status = .internalError := by
  intro m
  have hrefuses : mirrorPage.Refuses mirrorPayload resumed.headers m
      (.source (.rangeRefused "http://mirror/hook.iso" 1 4 .ok)) :=
    ⟨_, _, _, { length := some 173, server := () }, mirrorPage_check, rfl⟩
  rw [handle_apply, handle_apply, result_asking _ _ rfl, result_asking _ _ rfl, mirrored_imageFor]
  dsimp only
  rw [ImagePage.send_get_of_refuses hrefuses,
    ImagePage.send_head (r := resumed.asking .head) rfl mirrorPage_check]
  exact ⟨rfl, rfl⟩

end Site
end BootServer.Http
