import BootServer.Proofs.Http.ImagePage
import BootServer.Proofs.Text.Fields

/-! Requests to a site. The image page of a client is found by its path, and comes only after the
client was found in the store and allowed to boot. Every other page is the same for all methods that
are served, and leaves what is remembered of the image alone, so that a history of requests is a
history of calls on the image. -/
namespace BootServer.Http

open Image PatchedImage

variable {σ : Type}

namespace Request

/-- The same request with another method. -/
def asking (r : Request) (method : Method) : Request := { r with method }

variable (r : Request) (method : Method)

@[simp] theorem method_asking : (r.asking method).method = method := rfl

@[simp] theorem path_asking : (r.asking method).path = r.path := rfl

@[simp] theorem headers_asking : (r.asking method).headers = r.headers := rfl

@[simp] theorem peer_asking : (r.asking method).peer = r.peer := rfl

end Request

namespace Site

variable {s : Site σ} {p : ImagePage σ} {r : Request} {client file : String}
  {m : Image.Memory σ} {method : Method}

/-! ## Paths -/

/-- The path of an image page. -/
def imagePath (client file : String) : String := "/iso/" ++ client ++ "/" ++ file

theorem toList_imagePath (client file : String) :
    (imagePath client file).toList =
      ['/', 'i', 's', 'o', '/'] ++ (client.toList ++ '/' :: file.toList) := by
  simp [imagePath, String.toList_append]

theorem captured?_imagePath (client file : String) :
    captured? "/iso/" (imagePath client file) =
      some (String.ofList (client.toList ++ '/' :: file.toList)) := by
  have hstart : Text.startsWith "/iso/" (imagePath client file) = true := by
    rw [Text.startsWith, toList_imagePath]
    simp
  rw [captured?, Text.after?, if_pos hstart, toList_imagePath, nonEmpty]
  simp

/-- Such a path is no other page's, whatever the names in it. -/
theorem route_imagePath (hs : s.image.isSome = true) (hc : '/' ∉ client.toList) (hf : file ≠ "") :
    s.route (imagePath client file) = .image client file := by
  have hhealth : imagePath client file ≠ "/healthcheck" := by
    intro he
    have := congrArg String.toList he
    rw [toList_imagePath] at this
    simp at this
  have hbinary : s.binaryRoute? (imagePath client file) = none := by
    have hstart : Text.startsWith "/ipxe/" (imagePath client file) = false := by
      rw [Text.startsWith, toList_imagePath]
      simp [List.isPrefixOf]
    rw [binaryRoute?, captured?, Text.after?, hstart]
    simp [nonEmpty]
  have himage : s.imageRoute? (imagePath client file) = some (.image client file) := by
    have hfile : file.toList.isEmpty = false := by
      rw [List.isEmpty_eq_false_iff, ne_eq, String.toList_eq_nil_iff]
      exact hf
    rw [imageRoute?, if_pos hs, captured?_imagePath, Option.bind_some, cutSegment?,
      String.toList_ofList, Text.cutFirst_append_cons hc]
    simp [hfile]
  rw [route, if_neg hhealth, hbinary, himage]
  rfl

/-! ## Pages -/

/-- The client with that address and its record, if it is allowed to boot. -/
def bootClient (s : Site σ) (name : String) : Except Failure (HardwareAddress × Record) :=
  match HardwareAddress.parse? name with
  | none => .error (.hardwareAddress name)
  | some mac => (allowedRecord mac ((s.store.byHardware mac).within s.timeout)).map (mac, ·)

/-- The client that a path is for, or why there is none. -/
def admitted (s : Site σ) (client file : String) : Except Failure (HardwareAddress × Record) := do
  let name ← decodePart "mac" client
  let _ ← decodePart "file" file
  s.bootClient name

/-! ### Who is admitted -/

section

variable {f : Failure} {mac : HardwareAddress} {record : Record}

theorem decodePart_of_decode {name raw part : String}
    (h : Text.Utf8.decode? (Text.Percent.decode (Octets.ofText raw)) = some part) :
    decodePart name raw = .ok part := by
  rw [decodePart, h]

theorem decodePart_error {name raw : String} (h : decodePart name raw = .error f) :
    f.status = .badRequest := by
  unfold decodePart at h
  split at h
  · cases h
  · cases h
    rfl

theorem bootClient_error {name : String} (h : s.bootClient name = .error f) :
    f.status = .badRequest ∨ f.status = .notFound ∨ f.status = .internalError := by
  unfold bootClient at h
  split at h
  · cases h
    exact .inl rfl
  · next mac _ =>
    unfold allowedRecord at h
    split at h
    · cases h
      exact .inr (.inr rfl)
    · cases h
      exact .inr (.inl rfl)
    · split at h
      · cases h
      · cases h
        exact .inr (.inl rfl)

theorem admitted_error (h : s.admitted client file = .error f) :
    f.status = .badRequest ∨ f.status = .notFound ∨ f.status = .internalError := by
  unfold admitted at h
  cases hc : decodePart "mac" client with
  | error f' =>
    rw [hc] at h
    cases h
    exact .inl (decodePart_error hc)
  | ok name =>
    rw [hc] at h
    cases hf : decodePart "file" file with
    | error f' =>
      rw [hf] at h
      cases h
      exact .inl (decodePart_error hf)
    | ok _ =>
      rw [hf] at h
      exact bootClient_error h

theorem allowedRecord_eq_ok_iff (mac : HardwareAddress)
    {answer : Except LookupError (Option Record)} :
    allowedRecord mac answer = .ok record ↔
      answer = .ok (some record) ∧ record.boot.allowed = true := by
  unfold allowedRecord
  split
  · simp
  · simp
  · next found =>
    by_cases hallowed : found.boot.allowed = true
    · rw [if_pos hallowed, Except.ok.injEq, Except.ok.injEq, Option.some.injEq]
      constructor
      · rintro rfl
        exact ⟨rfl, hallowed⟩
      · exact And.left
    · rw [if_neg hallowed, Except.ok.injEq, Option.some.injEq]
      constructor
      · intro h
        cases h
      · rintro ⟨rfl, h⟩
        exact absurd h hallowed

theorem bootClient_eq_ok_iff {name : String} :
    s.bootClient name = .ok (mac, record) ↔
      HardwareAddress.parse? name = some mac ∧
        (s.store.byHardware mac).within s.timeout = .ok (some record) ∧
        record.boot.allowed = true := by
  rw [bootClient, ← allowedRecord_eq_ok_iff mac]
  cases HardwareAddress.parse? name with
  | none => simp
  | some given =>
    dsimp only
    rw [Option.some.injEq]
    cases ha : allowedRecord given ((s.store.byHardware given).within s.timeout) with
    | error f =>
      constructor
      · intro h
        cases h
      · rintro ⟨rfl, h⟩
        rw [ha] at h
        cases h
    | ok found =>
      constructor
      · intro h
        cases h
        exact ⟨rfl, ha⟩
      · rintro ⟨rfl, h⟩
        rw [ha] at h
        cases h
        rfl

/-- Those are admitted whose path decodes and names the address of a record in the store that allows
booting. -/
theorem admitted_eq_ok_iff :
    s.admitted client file = .ok (mac, record) ↔
      (∃ name, decodePart "mac" client = .ok name ∧ HardwareAddress.parse? name = some mac) ∧
        (∃ name, decodePart "file" file = .ok name) ∧
        (s.store.byHardware mac).within s.timeout = .ok (some record) ∧
        record.boot.allowed = true := by
  unfold admitted
  cases hc : decodePart "mac" client with
  | error f =>
    constructor
    · intro h
      cases h
    · rintro ⟨⟨name, h, -⟩, -⟩
      cases h
  | ok name =>
    cases hf : decodePart "file" file with
    | error f =>
      constructor
      · intro h
        cases h
      · rintro ⟨-, ⟨name, h⟩, -⟩
        cases h
    | ok _ =>
      show s.bootClient name = _ ↔ _
      rw [bootClient_eq_ok_iff]
      constructor
      · rintro ⟨hm, hrecord⟩
        exact ⟨⟨name, rfl, hm⟩, ⟨_, rfl⟩, hrecord⟩
      · rintro ⟨⟨name', h, hm⟩, -, hrecord⟩
        cases h
        exact ⟨hm, hrecord⟩

end

/-! ### What a page does -/

theorem imagePage_apply (s : Site σ) (p : ImagePage σ) (name : String) (r : Request)
    (m : Image.Memory σ) :
    (s.imagePage p name r).result m =
      match s.bootClient name with
      | .error f => (.error f, m)
      | .ok (mac, record) => p.send (Octets.ofText (p.payload.build mac record)) r m := by
  rw [imagePage, bootClient]
  cases HardwareAddress.parse? name with
  | none => rfl
  | some mac =>
    show (decided (allowedRecord mac ((s.store.byHardware mac).within s.timeout)) >>= _) m = _
    rw [access_bind, decided_apply]
    dsimp only
    cases allowedRecord mac ((s.store.byHardware mac).within s.timeout) <;> rfl

/-- A client who is admitted to the image page is sent the image with the client's payload. -/
theorem page_image (hp : s.image = some p) (hroute : s.route r.path = .image client file)
    (hserved : isServed r.method = true) (m : Image.Memory σ) :
    (s.page r).result m =
      match s.admitted client file with
      | .error f => (.error f, m)
      | .ok (mac, record) => p.send (Octets.ofText (p.payload.build mac record)) r m := by
  rw [page, hroute, admitted]
  dsimp only
  rw [if_pos hserved, hp]
  cases decodePart "mac" client with
  | error f => rfl
  | ok name =>
    cases decodePart "file" file with
    | error f => rfl
    | ok _ => exact s.imagePage_apply p name r m

/-- The image page for a client who is admitted, with the client's payload. -/
def imageOf? (s : Site σ) (client file : String) : Option (ImagePage σ × Octets) :=
  match s.image, s.admitted client file with
  | some p, .ok (mac, record) => some (p, Octets.ofText (p.payload.build mac record))
  | _, _ => none

/-- The image page that a request leads to, with the payload for its client. -/
def imageFor? (s : Site σ) (r : Request) : Option (ImagePage σ × Octets) :=
  match s.route r.path with
  | .image client file => s.imageOf? client file
  | _ => none

theorem image_of_imageFor {payload : Octets} (h : s.imageFor? r = some (p, payload)) :
    s.image = some p := by
  unfold imageFor? at h
  split at h
  · unfold imageOf? at h
    split at h
    · next hp _ =>
      cases h
      exact hp
    · cases h
  · cases h

theorem scriptPage_asking (s : Site σ) (settings : Script.Settings) (r : Request)
    (method : Method) : s.scriptPage settings (r.asking method) = s.scriptPage settings r := by
  unfold scriptPage
  rw [Request.path_asking, Request.headers_asking, Request.peer_asking]

theorem restPage_asking (s : Site σ) (r : Request) (method : Method) :
    s.restPage (r.asking method) = s.restPage r := by
  unfold restPage
  simp only [scriptPage_asking]

/-- Every method that is served leads to the same questions to the store. -/
theorem asked_asking (s : Site σ) (r : Request) (hserved : isServed method = true) :
    (s.page (r.asking method)).asked = (s.page (r.asking .get)).asked := by
  have hget : isServed .get = true := rfl
  unfold page
  simp only [Request.path_asking, Request.method_asking, restPage_asking, hserved, hget, if_true]
  cases s.route r.path with
  | rest => rfl
  | health => rfl
  | binary file => rfl
  | image client file =>
    dsimp only
    cases decodePart "mac" client with
    | error f => rfl
    | ok name =>
      cases decodePart "file" file with
      | error f => rfl
      | ok _ =>
        cases s.image with
        | none => rfl
        | some p =>
          show (s.imagePage p name _).asked = (s.imagePage p name _).asked
          rw [imagePage, imagePage]
          cases HardwareAddress.parse? name <;> rfl

theorem image_of_route {path : String} (h : s.route path = .image client file) :
    ∃ p, s.image = some p := by
  cases hp : s.image with
  | some p => exact ⟨p, rfl⟩
  | none =>
    rw [route, imageRoute?, hp, binaryRoute?] at h
    split at h
    · cases h
    · split at h
      · cases hc : captured? "/ipxe/" path <;> rw [hc] at h <;> cases h
      · cases h

/-- What a page does for a method that is served: the image page of an admitted client looks at the
method, and every other page does the same for all of them. -/
theorem result_asking (s : Site σ) (r : Request) (hserved : isServed method = true)
    (m : Image.Memory σ) :
    (s.page (r.asking method)).result m =
      match s.imageFor? r with
      | some (p, payload) => p.send payload (r.asking method) m
      | none => (s.page (r.asking .get)).result m := by
  cases hroute : s.route r.path with
  | rest => simp only [page, imageFor?, Request.path_asking, hroute, restPage_asking]
  | health =>
    simp only [page, imageFor?, Request.path_asking, Request.method_asking, hroute, hserved]
    rfl
  | binary file =>
    simp only [page, imageFor?, Request.path_asking, Request.method_asking, hroute, hserved]
    rfl
  | image client file =>
    obtain ⟨p, hp⟩ := image_of_route hroute
    rw [page_image (r := r.asking method) hp hroute hserved m,
      page_image (r := r.asking .get) hp hroute rfl m, imageFor?, hroute]
    dsimp only
    rw [imageOf?, hp]
    cases s.admitted client file <;> rfl

/-! ## Answers and histories -/

/-- The response that a page's result stands for. -/
def respond : Except Failure Response → Response
  | .ok response => response
  | .error failure => failure.response

theorem handle_apply (s : Site σ) (r : Request) (m : Image.Memory σ) :
    s.handle r m =
      ({ asked := (s.page r).asked
         result := (respond ((s.page r).result m).1).answering r.method },
        ((s.page r).result m).2) := by
  rw [handle]
  cases (s.page r).result m with
  | mk result m' => cases result <;> rfl

/-- What is remembered of the image after requests, when the site began with nothing. -/
def after (s : Site σ) (behind : σ) (requests : List Request) : Image.Memory σ :=
  requests.foldl (fun m r => (s.handle r m).2) { behind }

theorem page_calls (hp : s.image = some p) (r : Request) (m : Image.Memory σ) :
    ∃ calls : List Call, ((s.page r).result m).2 = calls.foldl p.image.remembered m := by
  cases hroute : s.route r.path with
  | rest =>
    refine ⟨[], ?_⟩
    rw [page, hroute]
    unfold restPage
    cases s.script <;> rfl
  | health =>
    refine ⟨[], ?_⟩
    rw [page, hroute]
    rfl
  | binary file =>
    refine ⟨[], ?_⟩
    rw [page, hroute]
    dsimp only
    split <;> rfl
  | image client file =>
    by_cases hserved : isServed r.method = true
    · rw [page_image hp hroute hserved]
      cases s.admitted client file with
      | error f => exact ⟨[], rfl⟩
      | ok found => exact p.send_calls _ r m
    · refine ⟨[], ?_⟩
      rw [page, hroute]
      dsimp only
      rw [if_neg hserved]
      rfl

/-- What requests leave behind is what some calls on the image leave behind. -/
theorem after_calls (hp : s.image = some p) (behind : σ) (requests : List Request) :
    ∃ calls : List Call, s.after behind requests = p.image.after behind calls := by
  suffices h : ∀ m : Image.Memory σ, ∃ calls : List Call,
      requests.foldl (fun m r => (s.handle r m).2) m = calls.foldl p.image.remembered m from h _
  induction requests with
  | nil => exact fun m => ⟨[], rfl⟩
  | cons r rest ih =>
    intro m
    obtain ⟨first, hfirst⟩ := page_calls hp r m
    obtain ⟨more, hmore⟩ := ih (s.handle r m).2
    refine ⟨first ++ more, ?_⟩
    rw [List.foldl_cons, hmore, List.foldl_append, ← hfirst, handle_apply]

end Site
end BootServer.Http
