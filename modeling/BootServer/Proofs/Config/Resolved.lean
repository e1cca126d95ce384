import BootServer.Config.Resolve
import BootServer.Proofs.Except

/-! What a configuration in force comes from. Each of its steps has succeeded, and what more than one
part needs, such as the address of the syslog server, is the same in all of them. -/
namespace BootServer

namespace Config

variable {o : Options} {detected syslogIp : Option Ipv4} {c : Config}

/-- The steps that a configuration is made of, each with what it gives. -/
structure Resolved (o : Options) (detected syslogIp : Option Ipv4) (c : Config) : Prop where
  mode : c.mode = o.mode
  store : o.storeChoice = .ok c.store
  trusted : o.proxies = .ok c.http.trusted
  syslogServer : o.syslogServer detected = .ok syslogIp
  dhcp : o.dhcpSettings detected syslogIp = .ok c.dhcp
  image : o.imageSettings syslogIp = .ok c.http.image
  binaryPatch : o.binaryPatch = .ok c.binaryPatch
  lookupTimeout : c.lookupTimeout = max o.lookupTimeout 1
  tftp : c.tftp = o.tftpSettings
  script : c.http.script = o.scriptSettings syslogIp
  binaryDirectory : c.binaryDirectory = o.binaryDirectory

theorem exists_resolved (hc : resolve o detected = .ok c) :
    ∃ syslogIp, Resolved o detected syslogIp c := by
  obtain ⟨store, hstore, hc⟩ := bind_eq_ok_iff.1 hc
  obtain ⟨trusted, htrusted, hc⟩ := bind_eq_ok_iff.1 hc
  obtain ⟨syslogIp, hsyslogIp, hc⟩ := bind_eq_ok_iff.1 hc
  obtain ⟨dhcp, hdhcp, hc⟩ := bind_eq_ok_iff.1 hc
  obtain ⟨image, himage, hc⟩ := bind_eq_ok_iff.1 hc
  obtain ⟨binaryPatch, hpatch, hc⟩ := bind_eq_ok_iff.1 hc
  cases hc
  exact ⟨syslogIp, rfl, hstore, htrusted, hsyslogIp, hdhcp, himage, hpatch, rfl, rfl, rfl, rfl⟩

/-! ## Single steps -/

/-- One store is chosen, and the one that allows every client only in the automatic mode. -/
theorem storeChoice_eq_ok_iff {choice : StoreChoice} : o.storeChoice = .ok choice ↔
    (o.fileStore = true ∧ o.permissiveStore = false ∧ ∃ path, o.filePath = some path ∧
      choice = .file path) ∨
    o.fileStore = false ∧ o.permissiveStore = true ∧ o.mode = .autoProxy ∧
      choice = .permissive := by
  unfold Options.storeChoice
  cases o.fileStore <;> cases o.permissiveStore
  · simp
  · by_cases hmode : o.mode = .autoProxy <;> simp [hmode, eq_comm]
  · cases o.filePath <;> simp [eq_comm]
  · simp

theorem of_imageSettings {i : ImageSettings} (h : o.imageSettings syslogIp = .ok (some i)) :
    nonEmpty o.imageLocation = some i.location ∧ i.payload = o.payloadSettings syslogIp := by
  unfold Options.imageSettings at h
  split at h
  · cases hlocation : nonEmpty o.imageLocation with
    | none =>
      rw [hlocation] at h
      cases h
    | some location =>
      rw [hlocation] at h
      obtain ⟨marker, -, h⟩ := bind_eq_ok_iff.1 h
      cases h
      exact ⟨rfl, rfl⟩
  · cases h

/-- A script and an image tell the installer the same. -/
structure SameParameters (s : Script.Settings) (p : Image.PayloadSettings) : Prop where
  kernelArgs : s.kernelArgs = p.kernelArgs
  tls : s.tls = p.tls
  insecureTls : s.insecureTls = p.insecureTls
  syslogHost : s.syslogHost = p.syslogHost
  controlPlane : s.controlPlane.getD "" = p.controlPlane
  staticAddressing : s.staticAddressing = p.staticAddressing

theorem sameParameters_of_scriptSettings {s : Script.Settings}
    (h : o.scriptSettings syslogIp = some s) : SameParameters s (o.payloadSettings syslogIp) := by
  unfold Options.scriptSettings at h
  split at h
  · cases h
    constructor <;> rfl
  · cases h

theorem Resolved.sameParameters (h : Resolved o detected syslogIp c) {s : Script.Settings}
    {i : ImageSettings} (hs : c.http.script = some s) (hi : c.http.image = some i) :
    SameParameters s i.payload := by
  obtain ⟨-, hpayload⟩ := of_imageSettings (h.image.trans (congrArg Except.ok hi))
  rw [hpayload]
  exact sameParameters_of_scriptSettings (h.script.symm.trans hs)

end Config
end BootServer
