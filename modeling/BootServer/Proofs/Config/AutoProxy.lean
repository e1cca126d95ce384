import BootServer.Config.Listeners
import BootServer.Proofs.Config.Resolved
import BootServer.Proofs.Dhcp.Replies
import BootServer.Proofs.Http.Script
import BootServer.Proofs.Script.Parameters

/-! The automatic mode. Neither a datagram nor a request for a script leads to a question to the
store, and what they are answered does not depend on it: a datagram is answered by what it says
itself, and there is one script for all requests for one, whoever they come from, in which the
booting machine fills in its own address. -/
namespace BootServer

/-! ## Configurations -/

namespace Config

variable {o : Options} {detected : Option Ipv4} {c : Config}

/-- Of all that is resolved, the mode and the script's settings come from the options as they are. -/
theorem of_resolve (hc : resolve o detected = .ok c) :
    c.mode = o.mode ∧ ∃ syslogIp, c.http.script = o.scriptSettings syslogIp := by
  obtain ⟨syslogIp, h⟩ := exists_resolved hc
  exact ⟨h.mode, syslogIp, h.script⟩

/-- There is one script for all clients exactly in the automatic mode. -/
theorem static_of_resolve (hc : resolve o detected = .ok c) {settings : Script.Settings}
    (hscript : c.http.script = some settings) : settings.static = decide (c.mode = .autoProxy) := by
  obtain ⟨hmode, syslogIp, hsettings⟩ := of_resolve hc
  rw [hscript, Options.scriptSettings] at hsettings
  split at hsettings
  · cases hsettings
    rw [hmode]
  · cases hsettings

end Config

/-! ## Datagrams -/

namespace Dhcp.Responder

variable (h : Responder)

/-- The same responder with another store. -/
def withStore (h : Responder) (store : Store) : Responder := { h with store }

/-- The automatic responder needs no store to answer. -/
theorem handle_withStore (hm : h.mode = .autoProxy) (store : Store) (r : Request) :
    (h.withStore store).handle r = h.handle r := by
  have hm' : (h.withStore store).mode = .autoProxy := hm
  by_cases hr : r.BearsSignature
  · obtain ⟨t, ht⟩ := hr.reply?
    rw [h.handle_signed hr ht, (h.withStore store).handle_signed hr ht, if_pos hm, if_pos hm']
    rfl
  · rw [h.handle_unsigned hr, (h.withStore store).handle_unsigned hr]

theorem asked_of_autoProxy (hm : h.mode = .autoProxy) (r : Request) : (h.handle r).asked = [] := by
  by_cases hr : r.BearsSignature
  · obtain ⟨t, ht⟩ := hr.reply?
    rw [h.handle_signed hr ht, if_pos hm]
  · rw [h.handle_unsigned hr]

theorem datagram_of_autoProxy (hm : h.mode = .autoProxy) (store : Store) (data : Octets)
    (peer : Endpoint) (localPort : UInt16) :
    (h.withStore store).datagram data peer localPort = h.datagram data peer localPort ∧
      (h.datagram data peer localPort).asked = [] := by
  unfold datagram
  cases Packet.parse data with
  | error e => exact ⟨rfl, rfl⟩
  | ok p =>
    dsimp only
    cases Request.ofPacket? p peer localPort with
    | none => exact ⟨rfl, rfl⟩
    | some r =>
      dsimp only
      rw [h.handle_withStore hm]
      exact ⟨rfl, h.asked_of_autoProxy hm r⟩

end Dhcp.Responder

/-! ## Scripts -/

namespace Script

variable {settings : Settings}

/-- Where there is one script for all clients, no address gets into it. -/
theorem compose_static (hstatic : settings.static = true) (client : Option HardwareAddress) :
    compose settings client none = compose settings none none := by
  have haddress : settings.addressFor client = settings.addressFor none := by
    cases client with
    | none => rfl
    | some mac => exact if_pos hstatic
  show render (settings.base client) = render (settings.base none)
  rw [Settings.base, haddress]
  rfl

/-- A script that is rendered without a client names it by a variable. -/
theorem exists_values_of_compose {script : String} (h : compose settings none none = .ok script) :
    ∃ v : Template.Values, v.context.hardwareAddress = runtimeAddress ∧
      script = Template.render v := by
  have hrender : (values (settings.base none)).map Template.render = .ok script := h
  obtain ⟨v, hv, rfl⟩ := map_eq_ok_iff.1 hrender
  refine ⟨v, ?_, rfl⟩
  rw [(of_values hv).1]
  rfl

end Script

namespace Http.Site

variable {σ : Type} {s : Site σ} {settings : Script.Settings} {r : Request}

/-- Does the response have a script that names its client by a variable, or a reason why there is
none? -/
def NamesNoClient (a : Response) : Prop :=
  (∃ v : Script.Template.Values, v.context.hardwareAddress = Script.runtimeAddress ∧
    a = .text .ok (Script.Template.render v)) ∨ ∃ e, a = (Failure.script e).response

theorem namesNoClient_scriptResponse (settings : Script.Settings) :
    NamesNoClient (respond (scriptResponse settings none none)) := by
  unfold scriptResponse
  cases hscript : Script.compose settings none none with
  | error e => exact .inr ⟨e, rfl⟩
  | ok script =>
    obtain ⟨v, hv, rfl⟩ := Script.exists_values_of_compose hscript
    exact .inl ⟨v, hv, rfl⟩

/-- Where there is one script for all clients, that is the answer to every request for one. -/
theorem handle_static (hroute : s.route r.path = .rest) (hscript : s.script = some settings)
    (hstatic : settings.static = true)
    (hpath : (Text.split '/' (Text.trimWhile (· = '/') r.path)).getLast? = some scriptName)
    (m : Image.Memory σ) :
    s.handle r m =
      ({ result := (respond (scriptResponse settings none none)).answering r.method }, m) := by
  obtain ⟨client, hclient⟩ := exists_scriptClient? hpath
  rw [handle_rest hroute hscript, scriptPage_static hstatic hclient, scriptResponse,
    Script.compose_static hstatic]
  rfl

end Http.Site

namespace Config

variable {o : Options} {detected : Option Ipv4} {c : Config}

/-- In the automatic mode neither replies nor scripts depend on the store, and scripts do not depend
on who asks for them either. -/
theorem autoProxy_ignores_store (hc : resolve o detected = .ok c) (hm : c.mode = .autoProxy) :
    (∀ (dhcp : DhcpSettings) (store store' : Store),
      (∀ r, (c.responder dhcp store).handle r = (c.responder dhcp store').handle r ∧
        ((c.responder dhcp store).handle r).asked = []) ∧
      ∀ data peer localPort, (c.responder dhcp store).datagram data peer localPort =
          (c.responder dhcp store').datagram data peer localPort ∧
        ((c.responder dhcp store).datagram data peer localPort).asked = []) ∧
    ∀ settings, c.http.script = some settings →
      ∃ answer, Http.Site.NamesNoClient answer ∧
        ∀ {σ : Type} (e : Surroundings σ) (r : Http.Request) (m : Image.Memory σ),
          (c.site e).route r.path = .rest →
          (Text.split '/' (Text.trimWhile (· = '/') r.path)).getLast? = some "auto.ipxe" →
          (c.site e).handle r m = ({ asked := [], result := answer.answering r.method }, m) := by
  constructor
  · intro dhcp store store'
    let h := c.responder dhcp store
    refine ⟨fun r => ⟨?_, h.asked_of_autoProxy hm r⟩, fun data peer localPort => ?_⟩
    · exact (h.handle_withStore hm store' r).symm
    · obtain ⟨hsame, hasked⟩ := h.datagram_of_autoProxy hm store' data peer localPort
      exact ⟨hsame.symm, hasked⟩
  · intro settings hscript
    have hstatic : settings.static = true := by
      rw [static_of_resolve hc hscript, hm]
      rfl
    refine ⟨_, Http.Site.namesNoClient_scriptResponse settings, ?_⟩
    intro σ e r m hroute hpath
    exact Http.Site.handle_static hroute hscript hstatic hpath m

/-- A server that has no records. -/
def unattended : Options where
  mode := .autoProxy
  permissiveStore := true
  installerUrl := some "http://10.0.0.1/hook"
  controlPlane := some "10.0.0.1:42113"

/-- Requests for the script of one machine, from anywhere. -/
def scriptRequest (peer : IpAddress) : Http.Request where
  method := .get
  target := "/52:54:00:12:34:56/auto.ipxe"
  headers := []
  peer := peer

theorem path_scriptRequest (peer : IpAddress) :
    (scriptRequest peer).path = "/52:54:00:12:34:56/auto.ipxe" := by
  show String.ofList ("/52:54:00:12:34:56/auto.ipxe".toList.takeWhile _) = _
  decide +kernel

theorem route_scriptRequest (s : Http.Site Unit) (peer : IpAddress) :
    s.route (scriptRequest peer).path = .rest := by
  have hbinary : Http.captured? "/ipxe/" "/52:54:00:12:34:56/auto.ipxe" = none := by decide +kernel
  have himage : Http.captured? "/iso/" "/52:54:00:12:34:56/auto.ipxe" = none := by decide +kernel
  rw [path_scriptRequest, Http.Site.route, if_neg (by decide), Http.Site.binaryRoute?,
    Http.Site.imageRoute?, hbinary, himage]
  simp

theorem autoProxy_ignores_store_unattended : ∃ c settings,
    resolve unattended (some ⟨10, 0, 0, 1⟩) = .ok c ∧ c.mode = .autoProxy ∧
    c.http.script = some settings ∧ ∃ answer, Http.Site.NamesNoClient answer ∧
      ∀ (e : Surroundings Unit) (peer : IpAddress) (m : Image.Memory Unit),
        (c.site e).handle (scriptRequest peer) m = ({ asked := [], result := answer }, m) := by
  have hresolved : ∃ c, resolve unattended (some ⟨10, 0, 0, 1⟩) = .ok c := ⟨_, rfl⟩
  obtain ⟨c, hc⟩ := hresolved
  obtain ⟨hmode, syslogIp, hscript⟩ := of_resolve hc
  obtain ⟨-, hanswers⟩ := autoProxy_ignores_store hc hmode
  obtain ⟨answer, hnames, hanswer⟩ := hanswers _ hscript
  refine ⟨c, _, hc, hmode, hscript, answer, hnames, fun e peer m => ?_⟩
  refine hanswer e (scriptRequest peer) m (route_scriptRequest _ peer) ?_
  rw [path_scriptRequest]
  decide +kernel

end Config
end BootServer
