import BootServer.Binaries
import BootServer.Proofs.Config.Resolved
import BootServer.Proofs.Image.Patch

/-! Binaries with a script in them. The script stands where the placeholder stood first, filled up
with spaces, and every other octet of the file is as it was. A file without the placeholder is not
handed out. -/
namespace BootServer

namespace Image.Marker

variable {m : Marker} {payload data out : Octets} {e : ImageError}

/-- The octet of a padded payload. -/
def paddedAt (payload : Octets) (i : Nat) : UInt8 := payload[i]?.getD space

/-- Octets that differ from the data only where the marker stands first; there they are the payload
and spaces after it. -/
def Filled (m : Marker) (payload data out : Octets) : Prop :=
  out.length = data.length ∧ ∃ offset, m.FirstAt data offset ∧
    ∀ i, out[i]? =
      if offset ≤ i ∧ i < offset + m.length then some (paddedAt payload (i - offset)) else data[i]?

theorem getElem?_padded {n i : Nat} (h : i < payload.length + n) :
    (payload ++ List.replicate n space)[i]? = some (paddedAt payload i) := by
  unfold paddedAt
  by_cases hi : i < payload.length
  · rw [List.getElem?_append_left hi, List.getElem?_eq_getElem hi]
    rfl
  · rw [List.getElem?_append_right (by omega), List.getElem?_replicate_of_lt (by omega),
      List.getElem?_eq_none (by omega)]
    rfl

/-- A payload that fits is written over the first occurrence, padded. -/
theorem patch_eq_ok_iff (hfit : payload.length ≤ m.length) :
    m.patch payload data = .ok out ↔ m.Filled payload data out := by
  have hpad := pad_of_length_le hfit
  have hpadded : ∀ offset, m.FirstAt data offset → ∀ i,
      (written data (payload ++ List.replicate (m.length - payload.length) space) offset)[i]? =
        if offset ≤ i ∧ i < offset + m.length then some (paddedAt payload (i - offset))
        else data[i]? := by
    intro offset ho i
    have hlen := length_pad hpad
    rw [getElem?_written (by rw [hlen]; exact ho.1.le_length), hlen]
    by_cases hi : offset ≤ i ∧ i < offset + m.length
    · rw [if_pos hi, if_pos hi]
      exact getElem?_padded (by omega)
    · rw [if_neg hi, if_neg hi]
  constructor
  · intro h
    obtain ⟨padded, offset, hp, ho, rfl⟩ := patch_eq_ok h
    obtain rfl := Except.ok.inj (hpad.symm.trans hp)
    exact ⟨length_patch h, offset, ho, hpadded offset ho⟩
  · rintro ⟨-, offset, ho, hi⟩
    rw [patch_of_firstAt hpad ho]
    congr 1
    apply List.ext_getElem?
    intro i
    rw [hi, hpadded offset ho]

/-- A payload that fits is refused only for want of a marker. -/
theorem patch_eq_error_iff (hfit : payload.length ≤ m.length) :
    m.patch payload data = .error e ↔ e = .markerNotFound ∧ m.Absent data := by
  have hpad := pad_of_length_le hfit
  cases hf : m.find? data with
  | none =>
    have ha := find?_eq_none_iff.1 hf
    rw [patch_of_absent hpad ha, Except.error.injEq]
    constructor
    · rintro rfl
      exact ⟨rfl, ha⟩
    · rintro ⟨rfl, -⟩
      rfl
  | some offset =>
    have ho := find?_eq_some_iff.1 hf
    rw [patch_of_firstAt hpad ho]
    constructor
    · intro h
      cases h
    · rintro ⟨-, ha⟩
      exact absurd ha ho.not_absent

end Image.Marker

/-! ## Reading -/

namespace Binaries

/-- What reading a binary by its name can come to when a script is to be in it: no such binary, a
file that cannot be read, one that has no place for the script, or the file with the script. -/
inductive Reads (b : Binaries) (p : BinaryPatch) (files : FileTree) (name : String) :
    Except Image.ImageError (Option Octets) → Prop where
  | refused (hpath : b.path? name = none) : Reads b p files name (.ok none)
  | missing (path : String) (hpath : b.path? name = some path)
    (hread : files.read path = .error .notFound) : Reads b p files name (.ok none)
  | unreadable (path : String) (e : FileError) (hpath : b.path? name = some path)
    (hread : files.read path = .error e) (hfound : e ≠ .notFound) :
    Reads b p files name (.error (.file e))
  | unmarked (path : String) (data : Octets) (hpath : b.path? name = some path)
    (hread : files.read path = .ok data) (habsent : p.marker.Absent data) :
    Reads b p files name (.error .markerNotFound)
  | filled (path : String) (data out : Octets) (hpath : b.path? name = some path)
    (hread : files.read path = .ok data) (hfilled : p.marker.Filled p.script data out) :
    Reads b p files name (.ok (some out))

variable {b : Binaries} {p : BinaryPatch} {files : FileTree} {name path : String}

theorem read_of_path (hpath : b.path? name = some path) :
    b.read files name =
      match files.read path with
      | .ok data => (b.patched data).map some
      | .error .notFound => .ok none
      | .error e => .error (.file e) := by
  cases hfile : files.read path with
  | ok data => simp [read, hpath, hfile]
  | error e => cases e <;> simp [read, hpath, hfile]

/-- No binary is read without its script. -/
theorem reads_read (hp : b.patch = some p) (hfit : p.script.length ≤ p.marker.length)
    (files : FileTree) (name : String) : b.Reads p files name (b.read files name) := by
  cases hpath : b.path? name with
  | none =>
    rw [read, hpath]
    exact .refused hpath
  | some path =>
    rw [read_of_path hpath]
    cases hread : files.read path with
    | error e =>
      cases e with
      | notFound => exact .missing path hpath hread
      | isDirectory => exact .unreadable path _ hpath hread (by decide)
      | notDirectory => exact .unreadable path _ hpath hread (by decide)
      | nameTooLong => exact .unreadable path _ hpath hread (by decide)
      | nulInName => exact .unreadable path _ hpath hread (by decide)
      | invalidOffset => exact .unreadable path _ hpath hread (by decide)
    | ok data =>
      dsimp only
      rw [patched, hp]
      dsimp only
      cases hpatch : p.marker.patch p.script data with
      | error e =>
        obtain ⟨rfl, habsent⟩ := (Image.Marker.patch_eq_error_iff hfit).1 hpatch
        exact .unmarked path data hpath hread habsent
      | ok out =>
        exact .filled path data out hpath hread ((Image.Marker.patch_eq_ok_iff hfit).1 hpatch)

end Binaries

/-! ## The script that is configured -/

namespace Config

/-- The patch is made from the options: the script that is set, for the placeholder that binaries
are built with. -/
structure PatchOf (o : Options) (p : BinaryPatch) : Prop where
  script : (nonEmpty o.binaryScript).map Octets.ofText = some p.script
  marker : p.marker.octets = Octets.ofText Binaries.placeholder
  fits : p.script.length ≤ p.marker.length

variable {o : Options} {detected : Option Ipv4} {c : Config} {p : BinaryPatch}

theorem octets_of_markerOf {text : String} {m : Image.Marker} (h : Options.markerOf text = .ok m) :
    m.octets = Octets.ofText text := by
  unfold Options.markerOf Image.Marker.ofOctets at h
  split at h
  · cases h
  · cases h
    rfl

theorem patchOf_of_binaryPatch (h : o.binaryPatch = .ok (some p)) : PatchOf o p := by
  unfold Options.binaryPatch at h
  cases hscript : nonEmpty o.binaryScript with
  | none =>
    rw [hscript] at h
    cases h
  | some script =>
    rw [hscript] at h
    obtain ⟨marker, hmarker, h⟩ := bind_eq_ok_iff.1 h
    dsimp only at h
    split at h
    · cases h
    · next hfit =>
      cases h
      exact ⟨by rw [hscript]; rfl, octets_of_markerOf hmarker, Nat.le_of_not_lt hfit⟩

/-- Binaries come from the directory that is given. -/
theorem binaries_of_resolve (hc : resolve o detected = .ok c) :
    c.binaryDirectory = o.binaryDirectory ∧ o.binaryPatch = .ok c.binaryPatch := by
  obtain ⟨syslogIp, h⟩ := exists_resolved hc
  exact ⟨h.binaryDirectory, h.binaryPatch⟩

end Config
end BootServer
