import BootServer.Proofs.Text.Pieces
import BootServer.Script.Template

/-! Rendered scripts as forms with values in their holes. The form depends on nothing but which values
are set, and the values stand in it one by one and as they are; what other languages write for a
value that is absent, or for a truth value, begins in no text of a form. -/
namespace BootServer.Script.Template

/-! ## Forms -/

/-- Texts, and holes for values. -/
abbrev Form := List (Option String)

/-- The values in the holes of a form, each as it is. -/
def fill : Form → List String → String
  | some text :: form, values => text ++ fill form values
  | none :: form, value :: values => value ++ fill form values
  | _, _ => ""

/-- A text of a form, or a value in a hole. -/
inductive Piece where
  | fixed (text : String)
  | value (text : String)

namespace Piece

def text : Piece → String
  | fixed text => text
  | value text => text

def place : Piece → Option String
  | fixed text => some text
  | value _ => none

def value? : Piece → Option String
  | fixed _ => none
  | value text => some text

end Piece

def joinedLines (lines : List (List Piece)) : List Piece := [.fixed "\n"].intercalate lines

def argumentPieces (name : String) (value : Option String) : List Piece :=
  (value.map fun v => [.fixed (" " ++ name ++ "="), .value v]).getD []

def kernelPieces (c : Context) : List Piece :=
  [.fixed ("kernel " ++ loaderVar "base-url" ++ "/"), .value c.kernel]
    ++ argumentPieces "vlan_id" c.vlan
    ++ c.kernelArgs.flatMap (fun arg => [.fixed " ", .value arg])
    ++ argumentPieces "facility" (some c.facility)
    ++ [.fixed (handedOn "syslog_host"), .fixed (handedOn "grpc_authority"),
      .fixed (handedOn "tinkerbell_tls"), .fixed (handedOn "tinkerbell_insecure_tls"),
      .fixed (handedOn "worker_id")]
    ++ argumentPieces "hw_addr" (some c.hardwareAddress)
    ++ argumentPieces "ipam" c.addressing
    ++ [.fixed " modules=loop,squashfs,sd-mod,usb-storage intel_iommu=on iommu=pt"]
    ++ argumentPieces "initrd" (some c.initrd)
    ++ [.fixed " ", .value c.console, .fixed " && goto download_initrd",
      .fixed (retry "kernel-error" "retry_kernel")]

def fixedLines (lines : List String) : List (List Piece) := lines.map fun line => [.fixed line]

/-- The lines of a script, cut where its values begin and end. -/
def pieceLines (v : Values) : List (List Piece) :=
  let c := v.context
  fixedLines ["#!ipxe",
    "",
    "echo Loading the in-memory installer environment...",
    "",
    "set arch " ++ loaderVar "buildarch"]
  ++ (c.arch.map fun arch => [.fixed "set arch ", .value arch]).toList
  ++ fixedLines [aliasLine "i386" "x86_64", aliasLine "arm32" "aarch64", aliasLine "arm64" "aarch64"]
  ++ [[.fixed "set base-url ", .value v.baseUrl],
    [.fixed "set retries:int32 ", .value (Text.Decimal.text c.retries.toNat)],
    [.fixed "set retry_delay:int32 ", .value (Text.Decimal.text c.retryDelay.toNat)],
    [.fixed ""],
    [.fixed "set worker_id ", .value c.hardwareAddress],
    [.fixed "set grpc_authority ", .value v.controlPlane],
    [.fixed "set syslog_host ", .value c.syslogHost],
    [.fixed "set tinkerbell_tls ", .value (truth c.tls)],
    [.fixed "set tinkerbell_insecure_tls ", .value (truth c.insecureTls)]]
  ++ fixedLines ["",
    shown "worker_id",
    shown "grpc_authority",
    shown "syslog_host",
    shown "tinkerbell_tls",
    shown "tinkerbell_insecure_tls",
    "",
    "set idx:int32 0",
    ":retry_kernel"]
  ++ [kernelPieces c]
  ++ fixedLines ["",
    ":download_initrd",
    "set idx:int32 0",
    ":retry_initrd"]
  ++ [[.fixed ("initrd " ++ loaderVar "base-url" ++ "/"), .value c.initrd, .fixed " && goto boot",
    .fixed (retry "initrd-error" "retry_initrd")]]
  ++ fixedLines (["",
    ":boot",
    "set idx:int32 0",
    ":retry_boot",
    "boot" ++ retry "boot-error" "retry_boot",
    ""]
  ++ failure "kernel-error" "Failed to load kernel"
  ++ [""]
  ++ failure "initrd-error" "Failed to load initrd"
  ++ [""]
  ++ failure "boot-error" "Failed to boot")

def pieces (v : Values) : List Piece := joinedLines (pieceLines v)

/-- Which values are set, and how many arguments the kernel has. -/
structure Outline where
  arch : Bool
  vlan : Bool
  addressing : Bool
  kernelArgs : Nat

/-- An empty value, if there is one. -/
def blank? (isSet : Bool) : Option String := if isSet then some "" else none

/-- Values of which only the outline counts. -/
def Outline.blank (o : Outline) : Values where
  baseUrl := ""
  controlPlane := ""
  context := {
    hardwareAddress := ""
    installerUrl := none
    kernel := ""
    initrd := ""
    kernelArgs := List.replicate o.kernelArgs ""
    controlPlane := none
    tls := false
    insecureTls := false
    retries := 0
    retryDelay := 0
    syslogHost := ""
    vlan := blank? o.vlan
    addressing := blank? o.addressing
    arch := blank? o.arch
    console := ""
    facility := "" }

/-- The form of all scripts with that outline. -/
def form (o : Outline) : Form := (pieces o.blank).map Piece.place

/-! ## The text of the pieces -/

/-- What other languages write for an absent value and for the truth values. -/
def words : List String := ["None", "True", "False"]

/-- None of these words begins in the text, whatever follows it. -/
def Silent (s : String) : Prop :=
  ∀ word ∈ words, ∀ front tail rest : List Char, s.toList = front ++ tail → tail ≠ [] →
    ¬ word.toList <+: tail ++ rest

variable {s t name : String}

theorem Silent.append (hs : Silent s) (ht : Silent t) : Silent (s ++ t) := by
  intro word hword front tail rest hcut hne
  rw [String.toList_append] at hcut
  rcases List.append_eq_append_iff.1 hcut with ⟨mid, -, h⟩ | ⟨mid, h, rfl⟩
  · exact ht word hword mid tail rest h hne
  · cases mid with
    | nil => exact ht word hword [] _ rest rfl hne
    | cons c mid =>
      rw [List.append_assoc]
      exact hs word hword front (c :: mid) _ h (List.cons_ne_nil c mid)

end BootServer.Script.Template
