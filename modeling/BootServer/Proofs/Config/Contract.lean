import BootServer.Proofs.Binaries
import BootServer.Proofs.Config.AutoProxy
import BootServer.Proofs.Text.Blank

/-! What listeners may rely on in every configuration that is accepted. The store that allows all
clients is there only where neither datagrams nor requests for scripts lead to a question to it, no
time that something is waited for is zero, what is written into images and binaries has its place,
and a script and an image give the installer the same parameters. -/
namespace BootServer

namespace Http.Site

variable {σ : Type} {s : Site σ}

/-- The same site with another store. -/
def withStore (s : Site σ) (store : Store) : Site σ := { s with store }

/-- Where no client has a script of its own, whatever is no other page's is answered without the
store. -/
theorem handle_rest_of_static (h : ∀ settings, s.script = some settings → settings.static = true)
    {r : Request} (hroute : s.route r.path = .rest) (store : Store) (m : Image.Memory σ) :
    (s.withStore store).handle r m = s.handle r m ∧ (s.handle r m).1.asked = [] := by
  have hroute' : (s.withStore store).route r.path = .rest := hroute
  cases hscript : s.script with
  | none =>
    have hscript' : (s.withStore store).script = none := hscript
    rw [handle_rest_unscripted hroute hscript, handle_rest_unscripted hroute' hscript']
    exact ⟨rfl, rfl⟩
  | some settings =>
    have hscript' : (s.withStore store).script = some settings := hscript
    rw [handle_rest hroute hscript, handle_rest hroute' hscript']
    cases hclient : scriptClient? r.path with
    | none =>
      rw [scriptPage_unnamed hclient, scriptPage_unnamed hclient]
      exact ⟨rfl, rfl⟩
    | some client =>
      have hstatic := h settings hscript
      rw [scriptPage_static hstatic hclient, scriptPage_static hstatic hclient]
      exact ⟨rfl, rfl⟩

end Http.Site

namespace Config

variable {o : Options} {detected : Option Ipv4} {c : Config}

/-- Neither a datagram nor a request for a script leads to a question to the store, and the answers
are those of any other store. -/
structure LooksNobodyUp (c : Config) : Prop where
  datagram : ∀ (dhcp : DhcpSettings) (store store' : Store) data peer localPort,
    (c.responder dhcp store).datagram data peer localPort =
        (c.responder dhcp store').datagram data peer localPort ∧
      ((c.responder dhcp store).datagram data peer localPort).asked = []
  script : ∀ {σ : Type} (e : Surroundings σ) (store : Store) (r : Http.Request) m,
    (c.site e).route r.path = .rest →
    (c.site { e with store }).handle r m = (c.site e).handle r m ∧
      ((c.site e).handle r m).1.asked = []

theorem looksNobodyUp (hc : resolve o detected = .ok c) (hm : c.mode = .autoProxy) :
    LooksNobodyUp c where
  datagram dhcp store store' data peer localPort := by
    obtain ⟨hsame, hasked⟩ :=
      (c.responder dhcp store).datagram_of_autoProxy hm store' data peer localPort
    exact ⟨hsame.symm, hasked⟩
  script e store r m hroute := by
    refine Http.Site.handle_rest_of_static (fun settings hscript => ?_) hroute store m
    rw [static_of_resolve hc hscript, hm]
    rfl

/-- One store is selected, which is the permissive one only in the automatic mode. -/
def Selects (o : Options) (c : Config) : Prop :=
  (o.fileStore = true ∧ o.permissiveStore = false ∧ ∃ path, o.filePath = some path ∧
    c.store = .file path) ∨
  o.fileStore = false ∧ o.permissiveStore = true ∧ c.mode = .autoProxy ∧ c.store = .permissive

/-- A text that is one argument on a command line. -/
def IsArgument (arg : String) : Prop := arg ≠ "" ∧ ∀ c ∈ arg.toList, Text.isBlank c = false

structure Sound (o : Options) (c : Config) : Prop where
  store : Selects o c
  unattended : c.store = .permissive → LooksNobodyUp c
  static : ∀ s, c.http.script = some s → (s.static = true ↔ c.mode = .autoProxy)
  lookupTimeout : 1 ≤ c.lookupTimeout
  tftpTimeout : ∀ t, c.tftp = some t → 1 ≤ t.timeout
  image : ∀ i, c.http.image = some i → i.marker.octets ≠ [] ∧ i.location ≠ ""
  patch : ∀ p, c.binaryPatch = some p → PatchOf o p ∧
    ∃ padded, p.marker.pad p.script = .ok padded ∧ padded.length = p.marker.octets.length
  parameters : ∀ s i, c.http.script = some s → c.http.image = some i →
    SameParameters s i.payload
  scriptArguments : ∀ s, c.http.script = some s → ∀ arg ∈ s.kernelArgs, IsArgument arg
  imageArguments : ∀ i, c.http.image = some i → ∀ arg ∈ i.payload.kernelArgs, IsArgument arg

theorem sound_of_resolve (hc : resolve o detected = .ok c) : Sound o c := by
  obtain ⟨syslogIp, h⟩ := exists_resolved hc
  have hstore := storeChoice_eq_ok_iff.1 h.store
  rw [← h.mode] at hstore
  refine {
    store := hstore
    unattended := fun hpermissive => ?_
    static := fun s hs => ?_
    lookupTimeout := ?_
    tftpTimeout := fun t ht => ?_
    image := fun i hi => ?_
    patch := fun p hp => ?_
    parameters := fun s i hs hi => h.sameParameters hs hi
    scriptArguments := fun s hs arg harg => ?_
    imageArguments := fun i hi arg harg => ?_ }
  · rcases hstore with ⟨-, -, path, -, hfile⟩ | ⟨-, -, hmode, -⟩
    · rw [hfile] at hpermissive
      cases hpermissive
    · exact looksNobodyUp hc hmode
  · rw [static_of_resolve hc hs, decide_eq_true_eq]
  · rw [h.lookupTimeout]
    exact Nat.le_max_right ..
  · rw [h.tftp, Options.tftpSettings] at ht
    split at ht
    · cases ht
      exact Nat.le_max_right ..
    · cases ht
  · obtain ⟨hlocation, -⟩ := of_imageSettings (h.image.trans (congrArg Except.ok hi))
    exact ⟨i.marker.ne_nil, (nonEmpty_eq_some_iff.1 hlocation).2⟩
  · have hpatch := patchOf_of_binaryPatch (h.binaryPatch.trans (congrArg Except.ok hp))
    have hpad := Image.Marker.pad_of_length_le hpatch.fits
    exact ⟨hpatch, _, hpad, Image.Marker.length_pad hpad⟩
  · have hsame := sameParameters_of_scriptSettings (h.script.symm.trans hs)
    exact Text.of_mem_words (hsame.kernelArgs ▸ harg)
  · obtain ⟨-, hpayload⟩ := of_imageSettings (h.image.trans (congrArg Except.ok hi))
    rw [hpayload] at harg
    exact Text.of_mem_words harg

/-- A server that has no records, with all that it can be asked for. -/
def complete : Options where
  mode := .autoProxy
  permissiveStore := true
  binaryScript := some "#!ipxe\ndhcp\n"
  installerUrl := some "http://10.0.0.1/hook"
  controlPlane := some "10.0.0.1:42113"
  kernelArgs := " quiet  loglevel=3 "
  lookupTimeout := 0
  image := true
  imageLocation := some "/srv/installer.iso"

theorem sound_of_resolve_complete : ∃ c s i p,
    resolve complete (some ⟨10, 0, 0, 1⟩) = .ok c ∧ c.http.script = some s ∧
      c.http.image = some i ∧ c.binaryPatch = some p ∧ Sound complete c := by
  have hresolved : ∃ c s i p, resolve complete (some ⟨10, 0, 0, 1⟩) = .ok c ∧
      c.http.script = some s ∧ c.http.image = some i ∧ c.binaryPatch = some p :=
    ⟨_, _, _, _, rfl, rfl, rfl, rfl⟩
  obtain ⟨c, s, i, p, hc, hs, hi, hp⟩ := hresolved
  exact ⟨c, s, i, p, hc, hs, hi, hp, sound_of_resolve hc⟩

end Config
end BootServer
