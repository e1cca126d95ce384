import BootServer.Proofs.Config.AutoProxy
import BootServer.Proofs.Script.Parameters

/-! The two ways to boot the installer. What an image has on its command line for a client is what a
script for that client hands to the kernel: both merge the settings of the server with the client's
record in one way. -/
namespace BootServer

/-- The command line that an image has from the same parameters. -/
def Script.Context.commandLine (c : Script.Context) : List String :=
  c.kernelArgs ++ [c.console] ++ (c.vlan.map ("vlan_id=" ++ ·)).toList
    ++ ["hw_addr=" ++ c.hardwareAddress,
      "syslog_host=" ++ c.syslogHost,
      "grpc_authority=" ++ c.controlPlane.getD "",
      "tinkerbell_tls=" ++ Script.Template.truth c.tls,
      "tinkerbell_insecure_tls=" ++ Script.Template.truth c.insecureTls,
      "worker_id=" ++ c.hardwareAddress]
    ++ (c.addressing.map ("ipam=" ++ ·)).toList

namespace Config

variable {o : Options} {detected : Option Ipv4} {c : Config} {s : Script.Settings}

theorem SameParameters.arguments_eq {p : Image.PayloadSettings} (h : SameParameters s p)
    (hstatic : s.static = false) (mac : HardwareAddress) (r : Record) :
    p.arguments mac r = (s.context (some mac) (some r)).commandLine := by
  have haddress : s.addressFor (some mac) = mac.text := by simp [Script.Settings.addressFor, hstatic]
  have hipam : (if s.staticAddressing then ["ipam=" ++ r.addressing mac] else []) =
      ((if s.staticAddressing then some (r.addressing mac) else none).map ("ipam=" ++ ·)).toList := by
    cases s.staticAddressing <;> rfl
  simp only [Image.PayloadSettings.arguments, Script.Context.commandLine, Script.Settings.context,
    Script.Settings.base, haddress, ← h.kernelArgs, ← h.tls, ← h.insecureTls, ← h.syslogHost,
    ← h.controlPlane, ← h.staticAddressing, hipam, Option.map_some]

/-- An image for a client and a script for it tell the installer the same, outside the automatic
mode, in which a script is for no client in particular. -/
theorem boot_paths_agree (hc : resolve o detected = .ok c) (hmode : c.mode ≠ .autoProxy)
    (hs : c.http.script = some s) {i : ImageSettings} (hi : c.http.image = some i)
    (mac : HardwareAddress) (r : Record) :
    i.payload.build mac r = " ".intercalate (s.context (some mac) (some r)).commandLine ∧
    ∀ script, Script.render (s.context (some mac) (some r)) = .ok script →
      ∃ v, Script.values (s.context (some mac) (some r)) = .ok v ∧
        script = "\n".intercalate (Script.Template.lines v) ∧
        Script.Tells (s.context (some mac) (some r)) (Script.Template.lines v) ∧
        ((∀ text ∈ (s.context (some mac) (some r)).texts, Text.Unbroken text) →
          Text.split '\n' script = Script.Template.lines v) := by
  obtain ⟨syslogIp, hresolved⟩ := exists_resolved hc
  have hstatic : s.static = false := by rw [static_of_resolve hc hs, decide_eq_false hmode]
  have hsame := hresolved.sameParameters hs hi
  refine ⟨?_, fun script hscript => Script.tells_of_render hscript⟩
  rw [Image.PayloadSettings.build, hsame.arguments_eq hstatic]

/-- A server that offers both ways, to clients that have records. -/
def bothWays : Options where
  mode := .proxy
  fileStore := true
  filePath := some "/srv/records.yaml"
  installerUrl := some "http://10.0.0.1/hook"
  controlPlane := some "10.0.0.1:42113"
  kernelArgs := "quiet"
  image := true
  imageLocation := some "/srv/installer.iso"
  staticAddressing := true

def taggedClient : Record where
  lease := { vlan := some "10", address := some ⟨10, 0, 0, 2⟩ }
  boot := { allowed := true, kernelArgs := ["loglevel=3"] }

theorem boot_paths_agree_bothWays : ∃ c s i script,
    resolve bothWays (some ⟨10, 0, 0, 1⟩) = .ok c ∧ c.http.script = some s ∧
    c.http.image = some i ∧
    i.payload.build ⟨2, 0, 0, 0, 0, 10⟩ taggedClient = " ".intercalate
      (s.context (some ⟨2, 0, 0, 0, 0, 10⟩) (some taggedClient)).commandLine ∧
    Script.render (s.context (some ⟨2, 0, 0, 0, 0, 10⟩) (some taggedClient)) = .ok script ∧
    Script.Tells (s.context (some ⟨2, 0, 0, 0, 0, 10⟩) (some taggedClient))
      (Text.split '\n' script) := by
  have hresolved : ∃ c s i script, resolve bothWays (some ⟨10, 0, 0, 1⟩) = .ok c ∧
      c.mode = .proxy ∧ c.http.script = some s ∧ c.http.image = some i ∧
      Script.render (s.context (some ⟨2, 0, 0, 0, 0, 10⟩) (some taggedClient)) = .ok script ∧
      ∀ text ∈ (s.context (some ⟨2, 0, 0, 0, 0, 10⟩) (some taggedClient)).texts,
        '\n' ∉ text.toList :=
    ⟨_, _, _, _, rfl, rfl, rfl, rfl, rfl, by decide +kernel⟩
  obtain ⟨c, s, i, script, hc, hmode, hs, hi, hscript, hunbroken⟩ := hresolved
  have hmode : c.mode ≠ .autoProxy := by
    rw [hmode]
    decide
  obtain ⟨hbuild, htells⟩ := boot_paths_agree hc hmode hs hi ⟨2, 0, 0, 0, 0, 10⟩ taggedClient
  obtain ⟨v, -, -, htold, hlines⟩ := htells script hscript
  refine ⟨c, s, i, script, hc, hs, hi, hbuild, hscript, ?_⟩
  rw [hlines hunbroken]
  exact htold

end Config
end BootServer
