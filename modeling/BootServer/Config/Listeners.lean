import BootServer.Config.Basic
import BootServer.Dhcp.Responder
import BootServer.Http.Site
import BootServer.Tftp.Server

/-!
What answers requests under a configuration. Datagrams and web requests are answered from one store,
with one limit on the time that it may take. Binaries come from one directory, with one script
written into them, whichever way they are asked for.
-/
namespace BootServer.Config

/-- What is there besides the configuration when the server starts. -/
structure Surroundings (σ : Type) where
  store : Store
  files : FileTree
  /-- What can be read where the image is. -/
  source : Image.Source σ
  revision : String
  /-- Seconds since the start. -/
  uptime : Nat

/-- How many milliseconds the store may take. -/
def lookupLimit (c : Config) : Nat := 1000 * c.lookupTimeout

def responder (c : Config) (dhcp : DhcpSettings) (store : Store) : Dhcp.Responder where
  mode := c.mode
  store := store
  serverIp := dhcp.serverIp
  syslogIp := dhcp.syslogIp
  boot := dhcp.boot
  timeout := c.lookupLimit

def binaries (c : Config) : Binaries where
  directory := c.binaryDirectory
  patch := c.binaryPatch

/-- How TFTP requests are answered. -/
def transfers (c : Config) (tftp : TftpSettings) (files : FileTree) : Tftp.Settings where
  binaries := c.binaries
  files := files
  timeout := 1000 * tftp.timeout
  maxBlock := tftp.maxBlock

def site {σ : Type} (c : Config) (e : Surroundings σ) : Http.Site σ where
  store := e.store
  timeout := c.lookupLimit
  script := c.http.script
  binaries := if c.http.binaries then some c.binaries else none
  files := e.files
  image := c.http.image.map fun i => { image := ⟨e.source, i.marker⟩, payload := i.payload }
  trusted := c.http.trusted
  revision := e.revision
  uptime := e.uptime

end BootServer.Config
