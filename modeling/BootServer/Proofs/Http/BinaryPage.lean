import BootServer.Proofs.Http.Site

/-! The pages of binaries. What is read under the name in the path is the body of the answer, and
there is no such body where nothing is read. -/
namespace BootServer.Http.Site

variable {σ : Type} {s : Site σ} {b : Binaries} {r : Request} {file name : String}

/-! ## Paths -/

def binaryPath (file : String) : String := "/ipxe/" ++ file

theorem toList_binaryPath (file : String) :
    (binaryPath file).toList = ['/', 'i', 'p', 'x', 'e', '/'] ++ file.toList := by
  simp [binaryPath, String.toList_append]

/-- The path of a binary is no other page's. -/
theorem route_binaryPath (hs : s.binaries.isSome = true) (hf : file ≠ "") :
    s.route (binaryPath file) = .binary file := by
  have hhealth : binaryPath file ≠ "/healthcheck" := by
    intro he
    have := congrArg String.toList he
    rw [toList_binaryPath] at this
    simp at this
  have hstart : Text.startsWith "/ipxe/" (binaryPath file) = true := by
    rw [Text.startsWith, toList_binaryPath]
    simp
  have hcaptured : captured? "/ipxe/" (binaryPath file) = some file := by
    rw [captured?, Text.after?, if_pos hstart, toList_binaryPath, nonEmpty]
    simp [hf]
  rw [route, if_neg hhealth, binaryRoute?, if_pos hs, hcaptured]
  rfl

/-! ## Answers -/

theorem handle_binary (hb : s.binaries = some b) (hpath : r.path = binaryPath file)
    (hf : file ≠ "") (hserved : isServed r.method = true)
    (hname : decodePart "file" file = .ok name) (m : Image.Memory σ) :
    s.handle r m = ({ result := (respond (s.binaryPage b name)).answering r.method }, m) := by
  have hroute : s.route r.path = .binary file := by
    rw [hpath]
    exact route_binaryPath (by rw [hb]; rfl) hf
  have hpage : s.page r = { result := decided (s.binaryPage b name) } := by
    rw [page, hroute]
    dsimp only
    rw [if_pos hserved, hname, hb]
    rfl
  rw [handle_apply, hpage]
  rfl

/-- The request is for the binary with that name. -/
def AsksFor (r : Request) (name : String) : Prop :=
  ∃ file, r.path = binaryPath file ∧ file ≠ "" ∧ decodePart "file" file = .ok name

/-- A `GET` is answered with the page of the binary as it is. -/
theorem get_binary (hb : s.binaries = some b) (hr : AsksFor r name) (hget : r.method = .get)
    (m : Image.Memory σ) : (s.handle r m).1.result = respond (s.binaryPage b name) := by
  obtain ⟨file, hpath, hf, hname⟩ := hr
  rw [handle_binary hb hpath hf (by rw [hget]; rfl) hname, hget]
  rfl

end BootServer.Http.Site
