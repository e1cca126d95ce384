import BootServer.Proofs.Dhcp.Replies
import BootServer.Proofs.Http.Script
import BootServer.Proofs.Url.Injection

/-! The way of a client to its script. It is given a location that has its hardware address in the
path, and when it asks there it is taken for the machine with that address, wherever it asks from.
-/
namespace BootServer

open BootUrl Http

namespace Dhcp.Responder

variable {h : Responder} {r : Request} {reply : Reply}

/-- A client that only needs the location of the script is given that. -/
theorem file_of_userClass (hclass : r.userClass = some h.boot.userClass)
    (hreply : (h.handle r).result = .ok (some reply)) :
    reply.file = some (h.boot.script.forClient r.mac).text := by
  have hfile : ∀ vlan binary, (h.boot.optionsFor r vlan binary).bootFile =
      (h.boot.script.forClient r.mac).text := by
    intro vlan binary
    show (h.boot.target _ r binary).2 = _
    rw [BootConfig.target, if_pos hclass]
  obtain ⟨-, hreplies⟩ := handle_eq_reply_iff.1 hreply
  cases hreplies with
  | reserved => exact congrArg some (hfile _ _)
  | proxied => exact congrArg some (hfile _ _)
  | automatic => exact congrArg some (hfile _ _)

end Dhcp.Responder

namespace ScriptUrl

variable {base : Url} {m : HardwareAddress}

/-- The location is one for the client, made from the base location, and it leads there again. -/
structure LeadsBack (base : Url) (m : HardwareAddress) (location : Url) : Prop where
  /-- Nothing but the path was changed. -/
  elsewhere : location = { base with path := location.path }
  /-- The address is there once more, unless it was there already. -/
  segments : ∃ others, segments location = others ++ [m.text, "auto.ipxe"] ∧
    (segments base = others ++ ["auto.ipxe"] ∨
      segments base = others ++ [m.text, "auto.ipxe"] ∧ location = base)
  client : scriptClient? location.pathText = some (some m)
  /-- Who asks for that path is looked up by that address and by no other one. -/
  page : ∀ {σ : Type} (s : Site σ) (settings : Script.Settings) (r : Http.Request),
    settings.static = false → r.path = location.pathText →
    s.scriptPage settings r =
      { asked := [.hardware m]
        result := Site.scriptFor settings r.path
          (((s.store.byHardware m).within s.timeout).map (·.map (m, ·))) }
  /-- A client that needs the location is told it. -/
  told : ∀ (h : Dhcp.Responder) (r : Dhcp.Request) (reply : Dhcp.Reply),
    h.boot.script = ⟨base, true⟩ → r.mac = m → r.userClass = some h.boot.userClass →
    (h.handle r).result = .ok (some reply) → reply.file = some location.text

theorem elsewhere_inject : inject base m = { base with path := (inject base m).path } := by
  unfold inject
  dsimp only
  split <;> rfl

/-- The path of a location for a client: the address and the script's name end it, and at most a
slash is left behind them. -/
theorem path_inject_script (hu : base.path.IsResolved) (hfile : base.scheme ≠ "file")
    (hsingle : ¬ ['/', '/'] <:+: base.pathText.toList)
    (hlast : (segments base).getLast? = some scriptName) :
    ∃ others tail, (tail = [] ∨ tail = [""]) ∧
      (inject base m).path = .segments (others ++ [m.text, scriptName] ++ tail) ∧
      (∀ s ∈ others ++ [m.text, scriptName], Url.Path.Named s) ∧
      (segments base = others ++ [scriptName] ∨
        segments base = others ++ [m.text, scriptName] ∧ inject base m = base) := by
  by_cases h : Carries base m
  · obtain ⟨list, hpath, hwritten⟩ := hu
    have hsegments := segments_of_path hpath hwritten
    obtain ⟨others, file, hcarried⟩ := h
    obtain rfl : file = scriptName := by simpa [hcarried] using hlast
    rw [Url.pathText, hpath] at hsingle
    obtain ⟨tail, htail, hlist⟩ := Url.Path.exists_tail_of_single_slashes hsingle
    rw [← hsegments, hcarried] at hlist
    refine ⟨others, tail, htail, ?_, ?_, .inr ⟨hcarried, inject_of_carries ⟨_, _, hcarried⟩⟩⟩
    · rw [inject_of_carries ⟨_, _, hcarried⟩, hpath, ← hlist]
    · rw [← hcarried]
      exact named_of_mem_segments ⟨list, hpath, hwritten⟩
  · obtain ⟨directories, -, hdirectories, hpath, hnamed⟩ := path_inject hu h
    rw [hdirectories hfile, hlast, List.append_assoc] at hpath hnamed
    refine ⟨_, [], .inl rfl, hpath.trans ?_, hnamed, .inl ?_⟩
    · rw [List.append_nil]
      rfl
    · obtain ⟨front, hfront⟩ := List.getLast?_eq_some_iff.1 hlast
      rw [hfront, List.dropLast_concat]

/-- A location for a client leads back to it, and not to another one. -/
theorem forClient_leads_back {raw : String} (hu : Url.parse raw = .ok base)
    (hscheme : base.scheme = "http" ∨ base.scheme = "https")
    (hsingle : ¬ ['/', '/'] <:+: base.pathText.toList)
    (hlast : (BootUrl.segments base).getLast? = some "auto.ipxe") :
    (∀ m, LeadsBack base m ((ScriptUrl.mk base true).forClient m)) ∧
    ∀ (m m' : HardwareAddress) {σ : Type} (s : Site σ) (settings : Script.Settings)
      (r r' : Http.Request), m ≠ m' → settings.static = false →
      r.path = ((ScriptUrl.mk base true).forClient m).pathText →
      r'.path = ((ScriptUrl.mk base true).forClient m').pathText →
      (s.scriptPage settings r).asked ≠ (s.scriptPage settings r').asked := by
  have hspecial : Url.isSpecial base.scheme = true ∧ base.scheme ≠ "file" := by
    rcases hscheme with hs | hs <;> rw [hs] <;> decide
  have hresolved := Url.isResolved_of_special hu hspecial.1
  have hback : ∀ m, LeadsBack base m ((ScriptUrl.mk base true).forClient m) := by
    intro m
    show LeadsBack base m (inject base m)
    obtain ⟨others, tail, htail, hpath, hnamed, hothers⟩ :=
      path_inject_script (m := m) hresolved hspecial.2 hsingle hlast
    have hclient : scriptClient? (inject base m).pathText = some (some m) := by
      rw [Url.pathText, hpath, scriptClient?_toText hnamed htail, HardwareAddress.parse?_text]
    constructor
    case elsewhere => exact elsewhere_inject
    case segments => exact ⟨others, segments_of_path_append hpath hnamed htail, hothers⟩
    case client => exact hclient
    case page =>
      intro σ s settings r hstatic hr
      exact Site.scriptPage_dynamic hstatic (hr ▸ hclient)
    case told =>
      rintro h r reply hscript rfl hclass hreply
      rw [Dhcp.Responder.file_of_userClass hclass hreply, hscript]
      rfl
  refine ⟨hback, ?_⟩
  intro m m' σ s settings r r' hne hstatic hr hr' heq
  rw [(hback m).page s settings r hstatic hr, (hback m').page s settings r' hstatic hr'] at heq
  cases heq
  exact hne rfl

theorem forClient_leads_back_below :
    Url.parse "http://host/path/auto.ipxe" = .ok scriptBelow ∧
    ¬ ['/', '/'] <:+: scriptBelow.pathText.toList ∧
    (segments scriptBelow).getLast? = some "auto.ipxe" ∧
    LeadsBack scriptBelow someAddress ((ScriptUrl.mk scriptBelow true).forClient someAddress) ∧
    ((ScriptUrl.mk scriptBelow true).forClient someAddress).pathText =
      "/path/aa:bb:cc:dd:ee:ff/auto.ipxe" := by
  have hparse : Url.parse "http://host/path/auto.ipxe" = .ok scriptBelow := rfl
  have hpath : scriptBelow.pathText = "/path/auto.ipxe" := by decide
  have hsingle : ¬ ['/', '/'] <:+: scriptBelow.pathText.toList := by
    rw [hpath]
    simp [List.infix_cons_iff]
  have hlast : (segments scriptBelow).getLast? = some "auto.ipxe" := by decide
  obtain ⟨hback, -⟩ := forClient_leads_back hparse (.inl rfl) hsingle hlast
  exact ⟨hparse, hsingle, hlast, hback someAddress, by decide⟩

end ScriptUrl
end BootServer
