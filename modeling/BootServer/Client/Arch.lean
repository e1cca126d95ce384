import BootServer.Text.Decimal

/-!
Processor architectures as a booting client names them, by the codes of the IANA registry for DHCP
option 93, and the boot binary each of them is given.
-/
namespace BootServer

inductive Arch where
  | x86Bios
  | necPc98
  | efiItanium
  | decAlpha
  | arcX86
  | intelLeanClient
  | efiIa32
  | efiBc
  | efiXscale
  | efiX86_64
  | efiArm32
  | efiArm64
  | efiX86Http
  | efiX86_64Http
  | efiArm32Http
  | efiArm64Http
  | armRpiboot
  | unknown (code : UInt16)
  deriving DecidableEq, Repr

namespace Arch

def ofCode (code : UInt16) : Arch :=
  match code.toNat with
  | 0 => .x86Bios
  | 1 => .necPc98
  | 2 => .efiItanium
  | 3 => .decAlpha
  | 4 => .arcX86
  | 5 => .intelLeanClient
  | 6 => .efiIa32
  | 7 => .efiBc
  | 8 => .efiXscale
  | 9 => .efiX86_64
  | 10 => .efiArm32
  | 11 => .efiArm64
  | 15 => .efiX86Http
  | 16 => .efiX86_64Http
  | 18 => .efiArm32Http
  | 19 => .efiArm64Http
  | 41 => .armRpiboot
  | _ => .unknown code

def code : Arch → UInt16
  | .x86Bios => 0
  | .necPc98 => 1
  | .efiItanium => 2
  | .decAlpha => 3
  | .arcX86 => 4
  | .intelLeanClient => 5
  | .efiIa32 => 6
  | .efiBc => 7
  | .efiXscale => 8
  | .efiX86_64 => 9
  | .efiArm32 => 10
  | .efiArm64 => 11
  | .efiX86Http => 15
  | .efiX86_64Http => 16
  | .efiArm32Http => 18
  | .efiArm64Http => 19
  | .armRpiboot => 41
  | .unknown code => code

def name : Arch → String
  | .x86Bios => "x86 BIOS"
  | .necPc98 => "NEC/PC98"
  | .efiItanium => "EFI Itanium"
  | .decAlpha => "DEC Alpha"
  | .arcX86 => "Arc x86"
  | .intelLeanClient => "Intel Lean Client"
  | .efiIa32 => "EFI IA32"
  | .efiBc => "EFI BC"
  | .efiXscale => "EFI Xscale"
  | .efiX86_64 => "EFI x86-64"
  | .efiArm32 => "EFI ARM32"
  | .efiArm64 => "EFI ARM64"
  | .efiX86Http => "EFI x86 HTTP"
  | .efiX86_64Http => "EFI x86-64 HTTP"
  | .efiArm32Http => "EFI ARM32 HTTP"
  | .efiArm64Http => "EFI ARM64 HTTP"
  | .armRpiboot => "ARM rpiboot"
  | .unknown code => "Unknown(" ++ Text.Decimal.text code.toNat ++ ")"

/-- The boot binary of the architecture; `none` if it cannot be booted. -/
def binary? : Arch → Option String
  | .x86Bios | .necPc98 | .efiItanium | .decAlpha | .arcX86 | .intelLeanClient =>
    some "undionly.kpxe"
  | .efiIa32 | .efiBc | .efiXscale | .efiX86_64 | .efiX86Http | .efiX86_64Http => some "ipxe.efi"
  | .efiArm32 | .efiArm64 | .efiArm32Http | .efiArm64Http | .armRpiboot => some "snp.efi"
  | .unknown _ => none

theorem code_ofCode (c : UInt16) : (ofCode c).code = c := by
  unfold ofCode
  split <;> exact UInt16.toNat_inj.mp (by simp [code, *])

end Arch
end BootServer
