import BootServer.Proofs.Config.Resolved
import BootServer.Proofs.Url.Exchange

/-! What a configuration takes from the address of this host. To know the address changes nothing
where a configuration, or a fault in it, is found without; and two addresses make configurations
that differ in nothing that an option gives. -/
namespace BootServer

/-- A value, if the option that it comes from is set. -/
def kept {α β : Type} (option : Option α) (blank value : β) : β :=
  if option.isSome then value else blank

theorem kept_congr {α β γ : Type} {option : Option α} {blank a b : β} (f : β → γ) (blank' : γ)
    (h : kept option blank a = kept option blank b) :
    kept option blank' (f a) = kept option blank' (f b) := by
  cases option with
  | none => rfl
  | some given =>
    have hab : a = b := h
    rw [hab]

namespace Config

variable {α β : Type} {o : Options}

/-! ## With and without an address -/

/-- A run without an address of this host, and one with it: the same, unless it was needed. -/
inductive Fills : Except ConfigError α → Except ConfigError α → Prop
  | needed (flag : String) (run : Except ConfigError α) : Fills (.error (.noLocalAddress flag)) run
  | same (run : Except ConfigError α) : Fills run run

theorem Fills.bind {run run' : Except ConfigError α} {f f' : α → Except ConfigError β}
    (h : Fills run run') (hf : ∀ a, Fills (f a) (f' a)) : Fills (run >>= f) (run' >>= f') := by
  cases h with
  | needed flag => exact .needed flag _
  | same =>
    cases run with
    | error e => exact .same _
    | ok a => exact hf a

theorem Fills.map {run run' : Except ConfigError α} (h : Fills run run') (f : α → β) :
    Fills (run.map f) (run'.map f) := by
  cases h with
  | needed flag => exact .needed flag _
  | same => exact .same _

theorem Fills.eq_ok {run run' : Except ConfigError α} (h : Fills run run') {a : α}
    (hrun : run = .ok a) : run' = .ok a := by
  cases h with
  | needed flag => cases hrun
  | same => exact hrun

theorem Fills.eq_error {run run' : Except ConfigError α} (h : Fills run run') {e : ConfigError}
    (hrun : run = .error e) (he : ∀ flag, e ≠ .noLocalAddress flag) : run' = .error e := by
  cases h with
  | needed flag =>
    cases hrun
    exact absurd rfl (he flag)
  | same => exact hrun

namespace Options

variable (o : Options) (x y : Ipv4)

theorem fills_localAddress (flag : String) :
    Fills (localAddress none flag) (localAddress (some x) flag) := .needed flag _

theorem fills_addressOr (given : Option Ipv4) (flag : String) :
    Fills (addressOr given none flag) (addressOr given (some x) flag) := by
  cases given with
  | none => exact fills_localAddress x flag
  | some ip => exact .same _

theorem fills_hostOr (given : Option String) (flag : String) :
    Fills (hostOr given none flag) (hostOr given (some x) flag) := by
  cases given with
  | none => exact (fills_localAddress x flag).map _
  | some host => exact .same _

theorem fills_syslogServer : Fills (o.syslogServer none) (o.syslogServer (some x)) := by
  unfold syslogServer
  split
  · exact .same _
  · split
    · exact (fills_localAddress x _).map _
    · exact .same _

theorem fills_scriptBase : Fills (o.scriptBase none) (o.scriptBase (some x)) := by
  unfold scriptBase
  split
  · exact .same _
  · exact (fills_hostOr x _ _).bind fun host => .same _

theorem fills_bootConfig : Fills (o.bootConfig none) (o.bootConfig (some x)) :=
  (fills_addressOr x _ _).bind fun _ =>
    ((fills_hostOr x _ _).bind fun _ => .same _).bind fun _ =>
      (fills_scriptBase o x).bind fun _ => .same _

theorem fills_dhcpSettings (syslogIp : Option Ipv4) :
    Fills (o.dhcpSettings none syslogIp) (o.dhcpSettings (some x) syslogIp) := by
  unfold dhcpSettings
  split
  · exact (fills_addressOr x _ _).bind fun _ => (fills_bootConfig o x).bind fun _ => .same _
  · exact .same _

end Options

theorem fills_resolve (o : Options) (x : Ipv4) : Fills (resolve o none) (resolve o (some x)) :=
  Fills.bind (.same _) fun _ => Fills.bind (.same _) fun _ =>
    (o.fills_syslogServer x).bind fun syslogIp =>
      (o.fills_dhcpSettings x syslogIp).bind fun _ => .same _

/-! ## Two addresses -/

namespace Options

/-- What the options give of the location of the binaries. -/
def binaryGiven (o : Options) (u : Url) : Url :=
  if o.binaryHost.isSome then u else u.given o.binaryScheme

/-- What the options give of the location of the script. -/
def scriptGiven (o : Options) (u : Url) : Url :=
  if (nonEmpty o.scriptUrl).isSome || o.scriptHost.isSome then u else u.given o.scriptScheme

/-- What the options give of the files to boot. -/
def bootGiven (o : Options) (b : Dhcp.BootConfig) : Dhcp.BootConfig :=
  { b with
    tftp := { b.tftp with ip := kept o.clientTftpIp .unspecified b.tftp.ip }
    binaryUrl := o.binaryGiven b.binaryUrl
    script := { b.script with base := o.scriptGiven b.script.base } }

/-- What the options give of the settings for DHCP. -/
def dhcpGiven (o : Options) (d : DhcpSettings) : DhcpSettings :=
  { d with
    serverIp := kept o.serverIp .unspecified d.serverIp
    syslogIp := kept o.syslogIp none d.syslogIp
    boot := o.bootGiven d.boot }

/-- What the options give of what scripts are rendered from. -/
def scriptSettingsGiven (o : Options) (s : Script.Settings) : Script.Settings :=
  { s with syslogHost := kept o.syslogIp "" s.syslogHost }

/-- What the options give of the settings for images. -/
def imageGiven (o : Options) (i : ImageSettings) : ImageSettings :=
  { i with payload := { i.payload with syslogHost := kept o.syslogIp "" i.payload.syslogHost } }

variable (o : Options) (x y : Ipv4)

theorem alike_addressOr (given : Option Ipv4) (flag : String) :
    Alike (fun a b => kept given .unspecified a = kept given .unspecified b)
      (addressOr given (some x) flag) (addressOr given (some y) flag) := by
  cases given with
  | none => exact .ok rfl
  | some ip => exact .ok rfl

/-- The host of a URL that is built where no host is given is the address. -/
theorem alike_built (flag scheme path : String) (port : UInt16)
    (fault : String → Url.Error → ConfigError) :
    Alike (fun u v => u.given scheme = v.given scheme)
      (hostOr none (some x) flag >>= fun host =>
        (BootUrl.build scheme host port path).mapError (fault host))
      (hostOr none (some y) flag >>= fun host =>
        (BootUrl.build scheme host port path).mapError (fault host)) := by
  have hhost (ip : Ipv4) : hostOr none (some ip) flag = .ok ip.text := rfl
  rw [hhost, hhost, ok_bind, ok_bind]
  exact (BootUrl.alike_build scheme port path x y).mapError

theorem alike_syslogServer :
    Alike (fun a b => kept o.syslogIp none a = kept o.syslogIp none b)
      (o.syslogServer (some x)) (o.syslogServer (some y)) := by
  unfold syslogServer
  cases o.syslogIp with
  | none => cases o.syslog <;> exact .ok rfl
  | some ip => exact .ok rfl

theorem alike_binaryUrl :
    Alike (fun u v => o.binaryGiven u = o.binaryGiven v)
      (o.binaryUrl (some x)) (o.binaryUrl (some y)) := by
  unfold binaryUrl binaryGiven
  cases o.binaryHost with
  | none =>
    simp only [Option.isSome_none, Bool.false_eq_true, if_false]
    exact alike_built x y _ _ _ _ _
  | some host => exact alike_self (fun _ => rfl) _

theorem alike_scriptBase :
    Alike (fun u v => o.scriptGiven u = o.scriptGiven v)
      (o.scriptBase (some x)) (o.scriptBase (some y)) := by
  unfold scriptBase scriptGiven
  cases nonEmpty o.scriptUrl with
  | some raw => exact alike_self (fun _ => rfl) _
  | none =>
    cases o.scriptHost with
    | none =>
      simp only [Option.isSome_none, Bool.or_self, Bool.false_eq_true, if_false]
      exact alike_built x y _ _ _ _ _
    | some host => exact alike_self (fun _ => rfl) _

theorem alike_bootConfig :
    Alike (fun b b' => o.bootGiven b = o.bootGiven b')
      (o.bootConfig (some x)) (o.bootConfig (some y)) := by
  refine (alike_addressOr x y _ _).bind fun ip ip' hip => ?_
  refine (alike_binaryUrl o x y).bind fun binaryUrl binaryUrl' hbinary => ?_
  refine (alike_scriptBase o x y).bind fun base base' hbase => .ok ?_
  simp only [bootGiven, hip, hbinary, hbase]

variable {o x y} {syslogIp syslogIp' : Option Ipv4}

theorem alike_dhcpSettings (h : kept o.syslogIp none syslogIp = kept o.syslogIp none syslogIp') :
    Alike (fun d d' => d.map o.dhcpGiven = d'.map o.dhcpGiven)
      (o.dhcpSettings (some x) syslogIp) (o.dhcpSettings (some y) syslogIp') := by
  unfold dhcpSettings
  split
  · refine (alike_addressOr x y _ _).bind fun ip ip' hip => ?_
    refine (alike_bootConfig o x y).bind fun b b' hboot => .ok ?_
    simp only [Option.map_some, dhcpGiven, hip, hboot, h]
  · exact .ok rfl

theorem scriptSettings_given (h : kept o.syslogIp none syslogIp = kept o.syslogIp none syslogIp') :
    (o.scriptSettings syslogIp).map o.scriptSettingsGiven =
      (o.scriptSettings syslogIp').map o.scriptSettingsGiven := by
  have hhost := kept_congr syslogHost "" h
  unfold scriptSettings
  split
  · simp only [Option.map_some, scriptSettingsGiven, hhost]
  · rfl

theorem alike_imageSettings (h : kept o.syslogIp none syslogIp = kept o.syslogIp none syslogIp') :
    Alike (fun i i' => i.map o.imageGiven = i'.map o.imageGiven)
      (o.imageSettings syslogIp) (o.imageSettings syslogIp') := by
  have hhost := kept_congr syslogHost "" h
  unfold imageSettings
  split
  · cases nonEmpty o.imageLocation with
    | none => exact .error
    | some location =>
      refine (alike_self (R := Eq) (fun _ => rfl) _).bind fun marker _ he => .ok ?_
      simp only [Option.map_some, imageGiven, payloadSettings, hhost, he]
  · exact .ok rfl

end Options

/-- What the options give of a configuration. -/
def given (o : Options) (c : Config) : Config :=
  { c with
    dhcp := c.dhcp.map o.dhcpGiven
    http := { c.http with
      script := c.http.script.map o.scriptSettingsGiven
      image := c.http.image.map o.imageGiven } }

theorem alike_resolve (o : Options) (x y : Ipv4) :
    Alike (fun c c' => c.given o = c'.given o) (resolve o (some x)) (resolve o (some y)) := by
  refine (alike_self (R := Eq) (fun _ => rfl) _).bind fun store _ hstore => ?_
  refine (alike_self (R := Eq) (fun _ => rfl) _).bind fun trusted _ htrusted => ?_
  refine (o.alike_syslogServer x y).bind fun syslogIp syslogIp' hsyslog => ?_
  refine (Options.alike_dhcpSettings hsyslog).bind fun dhcp dhcp' hdhcp => ?_
  refine (Options.alike_imageSettings hsyslog).bind fun image image' himage => ?_
  refine (alike_self (R := Eq) (fun _ => rfl) _).bind fun patch _ hpatch => .ok ?_
  simp only [given, hstore, htrusted, hdhcp, himage, hpatch, Options.scriptSettings_given hsyslog]

/-- To know the address of this host leaves alone what is accepted without it, and every fault but
the lack of it; and which address it is makes no difference to what the options give. -/
theorem detection_fills_gaps (o : Options) (x : Ipv4) :
    (∀ c, resolve o none = .ok c → resolve o (some x) = .ok c) ∧
    (∀ e, resolve o none = .error e → (∀ flag, e ≠ .noLocalAddress flag) →
      resolve o (some x) = .error e) ∧
    ∀ y c, resolve o (some x) = .ok c →
      ∃ c', resolve o (some y) = .ok c' ∧ c.given o = c'.given o := by
  refine ⟨fun c hc => ?_, fun e he hne => ?_, fun y c hc => ?_⟩
  · exact (fills_resolve o x).eq_ok hc
  · exact (fills_resolve o x).eq_error he hne
  · exact (alike_resolve o x y).exists_ok hc

/-- A server for every client that is told all addresses. -/
def addressed : Options where
  mode := .autoProxy
  permissiveStore := true
  serverIp := some ⟨10, 0, 0, 9⟩
  syslogIp := some ⟨10, 0, 0, 9⟩
  clientTftpIp := some ⟨10, 0, 0, 9⟩
  binaryHost := some "boot.example"
  scriptUrl := some "http://boot.example/auto.ipxe"

/-- A server for every client that is told none. -/
def unaddressed : Options where
  mode := .autoProxy
  permissiveStore := true

theorem detection_fills_gaps_applied :
    (∃ c, resolve addressed none = .ok c ∧ resolve addressed (some ⟨10, 0, 0, 1⟩) = .ok c) ∧
    (resolve {} none = .error .noStore ∧ resolve {} (some ⟨10, 0, 0, 1⟩) = .error .noStore) ∧
    ∃ c c', resolve unaddressed (some ⟨10, 0, 0, 1⟩) = .ok c ∧
      resolve unaddressed (some ⟨10, 0, 0, 2⟩) = .ok c' ∧
      c.given unaddressed = c'.given unaddressed ∧
      c.dhcp.map (·.boot.binaryUrl.text) = some "http://10.0.0.1:7171/ipxe/" ∧
      c'.dhcp.map (·.boot.binaryUrl.text) = some "http://10.0.0.2:7171/ipxe/" := by
  obtain ⟨c, hc⟩ : ∃ c, resolve addressed none = .ok c := ⟨_, rfl⟩
  have hfault : resolve {} none = .error .noStore := rfl
  obtain ⟨d, hd, htext⟩ : ∃ d, resolve unaddressed (some ⟨10, 0, 0, 1⟩) = .ok d ∧
      d.dhcp.map (·.boot.binaryUrl.text) = some "http://10.0.0.1:7171/ipxe/" := ⟨_, rfl, rfl⟩
  obtain ⟨d', hd', htext'⟩ : ∃ d', resolve unaddressed (some ⟨10, 0, 0, 2⟩) = .ok d' ∧
      d'.dhcp.map (·.boot.binaryUrl.text) = some "http://10.0.0.2:7171/ipxe/" := ⟨_, rfl, rfl⟩
  refine ⟨⟨c, hc, (detection_fills_gaps addressed _).1 c hc⟩,
    ⟨hfault, (detection_fills_gaps {} _).2.1 _ hfault fun flag => by simp⟩, d, d', hd, hd', ?_,
    htext, htext'⟩
  obtain ⟨d'', hd'', hgiven⟩ := (detection_fills_gaps unaddressed _).2.2 ⟨10, 0, 0, 2⟩ d hd
  cases hd'.symm.trans hd''
  exact hgiven

/-- With a host in the place of the scheme the address is left to the path, although a path is
given. -/
def misspelt : Options :=
  { unaddressed with binaryScheme := "http://boot", binaryPath := "/files/" }

theorem detection_reaches_path : ∃ c c' d d',
    resolve misspelt (some ⟨10, 0, 0, 1⟩) = .ok c ∧
    resolve misspelt (some ⟨10, 0, 0, 2⟩) = .ok c' ∧ c.dhcp = some d ∧ c'.dhcp = some d' ∧
    misspelt.binaryHost = none ∧
    d.boot.binaryUrl.text = "http://boot//10.0.0.1:7171/files/" ∧
    d'.boot.binaryUrl.text = "http://boot//10.0.0.2:7171/files/" ∧
    d.boot.binaryUrl.host = d'.boot.binaryUrl.host ∧
    d.boot.binaryUrl.path ≠ d'.boot.binaryUrl.path := by
  refine ⟨_, _, _, _, rfl, rfl, rfl, rfl, rfl, rfl, rfl, rfl, ?_⟩
  decide

end Config
end BootServer
