import BootServer.Config.Listeners
import BootServer.Proofs.Binaries
import BootServer.Proofs.Http.BinaryPage
import BootServer.Proofs.Tftp.Files

/-! One script in all binaries. With a script configured, what is handed out under a name is the
file with the script in it, over TFTP and over HTTP alike, and nothing of a file that the script
cannot be written into. -/
namespace BootServer.Config

variable {o : Options} {detected : Option Ipv4} {c : Config} {p : BinaryPatch}

/-- Every `GET` for the binary with that name is answered so, whatever else there is besides these
files. -/
def Answers (c : Config) (files : FileTree) (name : String) (response : Http.Response) : Prop :=
  c.http.binaries = true → ∀ {σ : Type} (e : Surroundings σ) (r : Http.Request)
    (m : Image.Memory σ), e.files = files → Http.Site.AsksFor r name → r.method = .get →
    ((c.site e).handle r m).1.result = response

/-- The answer depends on what is read under the name and on nothing else. -/
theorem answers_read (c : Config) (files : FileTree) (name : String) :
    c.Answers files name
      (match c.binaries.read files name with
      | .ok (some octets) => .whole .ok Http.Response.octetStream octets
      | .ok none => (Http.Failure.unknown name).response
      | .error e => (Http.Failure.image e).response) := by
  rintro hserved σ e r m rfl hr hget
  have hb : (c.site e).binaries = some c.binaries := by
    rw [site, hserved]
    rfl
  have hfiles : (c.site e).files = e.files := rfl
  rw [Http.Site.get_binary hb hr hget, Http.Site.binaryPage, hfiles]
  cases c.binaries.read e.files name with
  | error failure => rfl
  | ok found => cases found <;> rfl

/-- Whatever the files are and whatever name is asked for, a configured script is in every binary
that is handed out. What is read is nothing, a failure, or the file with the script over the first
placeholder and every other octet as it was; the script always fits. What is read is what a TFTP
transfer carries and what the body of the page is; where nothing can be read there is one TFTP error
and a page that says so. -/
theorem binaries_carry_script (hc : resolve o detected = .ok c) (hp : c.binaryPatch = some p)
    (files : FileTree) (name : String) :
    PatchOf o p ∧ c.binaries.Reads p files name (c.binaries.read files name) ∧
    (∀ payload marker, c.binaries.read files name ≠ .error (.payloadTooLong payload marker)) ∧
    (∀ octets, c.binaries.read files name = .ok (some octets) →
      (∀ tftp, (c.transfers tftp files).Sends name octets) ∧
      c.Answers files name (.whole .ok Http.Response.octetStream octets)) ∧
    (∀ failure, c.binaries.read files name = .error failure →
      (∀ tftp, (c.transfers tftp files).Withholds name) ∧
      c.Answers files name (.text .internalError (Http.Failure.image failure).message)) ∧
    (c.binaries.read files name = .ok none →
      (∀ tftp, (c.transfers tftp files).Withholds name) ∧
      c.Answers files name (.text .notFound (Http.Failure.unknown name).message)) := by
  have hpatch : PatchOf o p := patchOf_of_binaryPatch (by rw [(binaries_of_resolve hc).2, hp])
  have hreads := c.binaries.reads_read hp hpatch.fits files name
  have hanswers := c.answers_read files name
  refine ⟨hpatch, hreads, ?_, ?_, ?_, ?_⟩
  · intro payload marker h
    rw [h] at hreads
    cases hreads
  · intro octets h
    rw [h] at hanswers
    exact ⟨fun tftp => Tftp.Settings.sends_of_read h, hanswers⟩
  · intro failure h
    rw [h] at hanswers
    refine ⟨fun tftp => Tftp.Settings.withholds_of_read fun octets hread => ?_, hanswers⟩
    cases h.symm.trans hread
  · intro h
    rw [h] at hanswers
    refine ⟨fun tftp => Tftp.Settings.withholds_of_read fun octets hread => ?_, hanswers⟩
    cases h.symm.trans hread

/-- A server that writes a script into its binaries. -/
def scripted : Options where
  mode := .autoProxy
  permissiveStore := true
  binaryDirectory := "/srv"
  binaryScript := some "#!ipxe\ndhcp\n"
  installerUrl := some "http://10.0.0.1/hook"
  controlPlane := some "10.0.0.1:42113"

/-- A binary with two places for a script, one right behind the other. -/
def marked : Octets :=
  Octets.ofText ("MZ" ++ Binaries.placeholder ++ Binaries.placeholder ++ "end")

def shelf : FileTree where
  files := [(["srv", "snp.efi"], marked)]

/-- The binary can be read with the script in it. -/
theorem read_shelf : ∃ p octets, scripted.binaryPatch = .ok (some p) ∧
    p.script = Octets.ofText "#!ipxe\ndhcp\n" ∧
    Binaries.read ⟨"/srv", some p⟩ shelf "snp.efi" = .ok (some octets) :=
  ⟨_, _, rfl, rfl, rfl⟩

theorem binaries_carry_script_once : ∃ c p octets,
    resolve scripted (some ⟨10, 0, 0, 1⟩) = .ok c ∧ c.binaryPatch = some p ∧
    c.binaries.read shelf "snp.efi" = .ok (some octets) ∧
    p.marker.Filled (Octets.ofText "#!ipxe\ndhcp\n") marked octets ∧
    (∀ tftp, (c.transfers tftp shelf).Sends "snp.efi" octets) ∧
    c.Answers shelf "snp.efi" (.whole .ok Http.Response.octetStream octets) := by
  have hresolved : ∃ c, resolve scripted (some ⟨10, 0, 0, 1⟩) = .ok c := ⟨_, rfl⟩
  obtain ⟨c, hc⟩ := hresolved
  obtain ⟨p, octets, hpatch, hscript, hread⟩ := read_shelf
  obtain ⟨hdirectory, hp⟩ := binaries_of_resolve hc
  have hp : c.binaryPatch = some p := Except.ok.inj (hp.symm.trans hpatch)
  have hbinaries : c.binaries = ⟨"/srv", some p⟩ := by
    rw [binaries, hdirectory, hp]
    rfl
  rw [← hbinaries] at hread
  obtain ⟨-, hreads, -, hsent, -⟩ := binaries_carry_script hc hp shelf "snp.efi"
  rw [hread] at hreads
  obtain ⟨hsends, hanswers⟩ := hsent octets hread
  refine ⟨c, p, octets, hc, hp, hread, ?_, hsends, hanswers⟩
  cases hreads with
  | filled path data out hpath hdata hfilled =>
    have hpath' : c.binaries.path? "snp.efi" = some "/srv/snp.efi" := by
      rw [hbinaries]
      exact (by decide +kernel : Binaries.path? ⟨"/srv", none⟩ "snp.efi" = some "/srv/snp.efi")
    obtain rfl := Option.some.inj (hpath.symm.trans hpath')
    have hmarked : shelf.read "/srv/snp.efi" = .ok marked := rfl
    obtain rfl := Except.ok.inj (hdata.symm.trans hmarked)
    rw [← hscript]
    exact hfilled

end BootServer.Config
