import BootServer.Http.Site
import BootServer.Proofs.Json.RoundTrip
import BootServer.Proofs.Text.Utf8

/-! Answers that no record and no image decides. The health page holds what a monitor reads from it,
and a method that a page does not know is refused with the list of those that it does. Neither asks
the store, and neither changes what is known of the image. -/
namespace BootServer.Http

variable {σ : Type} {s : Site σ} {r : Request} {method : Method} {name : String}

namespace Site

/-! ## Methods -/

theorem isServed_ofName_iff : isServed (.ofName name) = true ↔ name = "GET" ∨ name = "HEAD" := by
  unfold Method.ofName
  split
  · simp [isServed]
  · simp [isServed]
  · simp [isServed]
  · next hget hhead _ =>
    have hnone : ¬ (name = "GET" ∨ name = "HEAD") := not_or.2 ⟨hget, hhead⟩
    simp [isServed, hnone]

/-- The header of a refusal names the methods that are served, and no others. -/
theorem served_iff_allowed (name : String) : isServed (.ofName name) = true ↔
    ∃ value, (Headers.first? methodRefused.headers "allow").bind Header.text? = some value ∧
      name ∈ Text.split ',' value := by
  have hallow : (Headers.first? methodRefused.headers "allow").bind Header.text? =
      some "GET,HEAD" := by decide +kernel
  have hnames : Text.split ',' "GET,HEAD" = ["GET", "HEAD"] := by decide +kernel
  rw [isServed_ofName_iff, hallow]
  constructor
  · intro h
    refine ⟨_, rfl, ?_⟩
    rw [hnames]
    simpa using h
  · rintro ⟨value, hvalue, h⟩
    cases hvalue
    rw [hnames] at h
    simpa using h

theorem methodRefused_answering (h : isServed method = false) :
    methodRefused.answering method = methodRefused := by
  cases method with
  | get => cases h
  | head => cases h
  | connect => rfl
  | other name => rfl

/-- Only scripts are served whatever the method. -/
theorem handle_refused (hroute : s.route r.path ≠ .rest) (h : isServed r.method = false)
    (m : Image.Memory σ) : s.handle r m = ({ result := methodRefused }, m) := by
  have hserved : ¬ isServed r.method = true := by
    rw [h]
    exact Bool.false_ne_true
  have hpage : s.page r = { result := pure methodRefused } := by
    unfold page
    split
    · next hrest => exact absurd hrest hroute
    · rw [if_neg hserved]
    · rw [if_neg hserved]
    · rw [if_neg hserved]
  rw [handle, hpage]
  show ({ result := methodRefused.answering r.method : Consulted Response }, m) = _
  rw [methodRefused_answering h]

/-! ## Health -/

theorem handle_health (hpath : r.path = "/healthcheck") (h : isServed r.method = true)
    (m : Image.Memory σ) :
    s.handle r m = ({ result := s.healthPage.answering r.method }, m) := by
  have hroute : s.route r.path = .health := by rw [route, if_pos hpath]
  rw [handle, page, hroute]
  dsimp only
  rw [if_pos h]
  rfl

/-- A monitor that reads the page as JSON has the revision, the seconds since the start and the name
of the store, whatever characters the texts hold. -/
theorem healthPage_read (huptime : s.uptime ≤ Text.Decimal.max64) :
    ∃ body text, s.healthPage.body = [.ok body] ∧ Text.Utf8.decode? body = some text ∧
      Json.parse? text = some (.object [("revision", .text s.revision), ("uptime", .int s.uptime),
        ("backend", .text s.store.name)]) := by
  refine ⟨_, _, rfl, Text.Utf8.decode?_eq_some_iff.2 rfl, Json.parse?_render (d := 1) (.object ?_)⟩
  intro m hm
  simp only [List.mem_cons, List.not_mem_nil, or_false] at hm
  rcases hm with rfl | rfl | rfl
  · exact .text _
  · exact .int (by omega) (Int.ofNat_le.2 huptime)
  · exact .text _

end Site
end BootServer.Http
