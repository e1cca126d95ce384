import BootServer.Proofs.Http.Site
import BootServer.Proofs.Url.Path
import BootServer.Proofs.Net.HardwareAddress

/-! Requests for boot scripts. The path tells which client a script is for, and the store is asked
one question about that client, or none where all clients have one script. -/
namespace BootServer.Http

variable {σ : Type}

/-! ## Paths -/

/-- What stands before the script's name is read as an address, whatever else the path has. -/
theorem scriptClient?_toText {others tail : List String} {name : String}
    (h : ∀ s ∈ others ++ [name, scriptName], Url.Path.Named s) (htail : tail = [] ∨ tail = [""]) :
    scriptClient? (Url.Path.segments (others ++ [name, scriptName] ++ tail)).toText =
      some (HardwareAddress.parse? name) := by
  rw [scriptClient?, Url.Path.split_trim_toText h (by simp) htail]
  simp

/-- Every path whose last segment is the script's name asks for a script. -/
theorem exists_scriptClient? {path : String}
    (h : (Text.split '/' (Text.trimWhile (· = '/') path)).getLast? = some scriptName) :
    ∃ client, scriptClient? path = some client := by
  obtain ⟨front, hfront⟩ := List.getLast?_eq_some_iff.1 h
  refine ⟨front.reverse.head?.bind HardwareAddress.parse?, ?_⟩
  rw [scriptClient?, hfront, List.reverse_append]
  rfl

/-! ## Pages -/

namespace Site

variable {s : Site σ} {settings : Script.Settings} {r : Request}
  {client : Option HardwareAddress}

/-- The question that decides about a script: which machine it is for. -/
def scriptQuestion (s : Site σ) (r : Request) (client : Option HardwareAddress) : Question :=
  client.elim (.address (clientAddress s.trusted r.peer r.headers)) .hardware

/-- What the store says to a question, with the client that it is about. -/
def answered (s : Site σ) : Question → Except LookupError (Option (HardwareAddress × Record))
  | .hardware mac => ((s.store.byHardware mac).within s.timeout).map (·.map (mac, ·))
  | .address ip => (s.store.byAddress ip).within s.timeout

theorem scriptPage_unnamed (hpath : scriptClient? r.path = none) :
    s.scriptPage settings r = { result := .error (.unknown r.path) } := by
  unfold scriptPage
  rw [hpath]

theorem scriptPage_static (hstatic : settings.static = true)
    (hpath : scriptClient? r.path = some client) :
    s.scriptPage settings r = { result := scriptResponse settings client none } := by
  unfold scriptPage
  rw [hpath]
  exact if_pos hstatic

/-- Where clients have scripts of their own, one question is asked and its answer decides. -/
theorem scriptPage_dynamic (hstatic : settings.static = false)
    (hpath : scriptClient? r.path = some client) :
    s.scriptPage settings r =
      { asked := [s.scriptQuestion r client]
        result := scriptFor settings r.path (s.answered (s.scriptQuestion r client)) } := by
  unfold scriptPage
  rw [hpath]
  dsimp only
  rw [hstatic]
  cases client <;> rfl

theorem page_rest (hroute : s.route r.path = .rest) (hscript : s.script = some settings) :
    s.page r = { asked := (s.scriptPage settings r).asked
                 result := decided (s.scriptPage settings r).result } := by
  rw [page, hroute]
  dsimp only
  rw [restPage, hscript]

/-- A request that is no other page's is answered with the script page. -/
theorem handle_rest (hroute : s.route r.path = .rest) (hscript : s.script = some settings)
    (m : Image.Memory σ) :
    s.handle r m =
      ({ asked := (s.scriptPage settings r).asked
         result := (respond (s.scriptPage settings r).result).answering r.method }, m) := by
  have hresult : (s.page r).result m = ((s.scriptPage settings r).result, m) := by
    rw [page_rest hroute hscript]
    rfl
  rw [handle_apply, hresult, page_rest hroute hscript]

/-- Without scripts there is nothing behind other paths. -/
theorem handle_rest_unscripted (hroute : s.route r.path = .rest) (hscript : s.script = none)
    (m : Image.Memory σ) :
    s.handle r m = ({ result := missing.answering r.method }, m) := by
  have hpage : s.page r = { result := pure missing } := by
    rw [page, hroute]
    dsimp only
    rw [restPage, hscript]
  have hresult : (s.page r).result m = (.ok missing, m) := by
    rw [hpage]
    rfl
  rw [handle_apply, hresult, hpage]
  rfl

end Site
end BootServer.Http
