import BootServer.Net.Address

/-! Addresses as bits, the highest first. An address has as many as its family says, and they are those
of the number that it makes, so addresses with the same bits are one. -/
namespace BootServer

/-! ## Numbers -/

/-- The lower bits of a number, as many as the width says and the highest of them first. -/
def bitsOf (width n : Nat) : List Bool := (List.range width).map fun i => n.testBit (width - 1 - i)

section

variable {width low n m : Nat}

@[simp] theorem length_bitsOf (width n : Nat) : (bitsOf width n).length = width := by
  rw [bitsOf, List.length_map, List.length_range]

theorem lt_two_pow (h : n < 1 <<< width) : n < Nat.pow 2 width := by
  rwa [Nat.one_shiftLeft] at h

/-- Two numbers, one above the other, have the bits of both. -/
theorem bitsOf_add (width : Nat) (n : Nat) (h : m < 1 <<< low) :
    bitsOf (width + low) (n <<< low + m) = bitsOf width n ++ bitsOf low m := by
  have hbit : ∀ j, (n <<< low + m).testBit j =
      if j < low then m.testBit j else n.testBit (j - low) := by
    intro j
    rw [Nat.shiftLeft_eq, Nat.mul_comm]
    exact Nat.testBit_two_pow_mul_add n (lt_two_pow h) j
  rw [bitsOf, List.range_add, List.map_append, List.map_map]
  congr 1
  · refine List.map_congr_left fun i hi => ?_
    have hi := List.mem_range.1 hi
    rw [hbit, if_neg (by omega)]
    congr 1
    omega
  · refine List.map_congr_left fun i hi => ?_
    have hi := List.mem_range.1 hi
    rw [Function.comp_apply, hbit, if_pos (by omega)]
    congr 1
    omega

theorem bitsOf_inj (hn : n < 1 <<< width) (hm : m < 1 <<< width) :
    bitsOf width n = bitsOf width m ↔ n = m := by
  refine ⟨fun h => Nat.eq_of_testBit_eq fun j => ?_, fun h => h ▸ rfl⟩
  by_cases hj : j < width
  · have hi := List.map_inj_left.1 h (width - 1 - j) (List.mem_range.2 (by omega))
    have hindex : width - 1 - (width - 1 - j) = j := by omega
    rwa [hindex] at hi
  · have hhigh : ∀ x, x < 1 <<< width → x.testBit j = false := by
      intro x hx
      refine Nat.testBit_lt_two_pow (Nat.lt_of_lt_of_le (lt_two_pow hx) ?_)
      exact Nat.pow_le_pow_right (by decide) (Nat.le_of_not_lt hj)
    rw [hhigh n hn, hhigh m hm]

/-- The first bits are those of the number without the others. -/
theorem take_bitsOf {size : Nat} (h : size ≤ width) (n : Nat) :
    (bitsOf width n).take size = bitsOf size (n >>> (width - size)) := by
  rw [bitsOf, ← List.map_take, List.take_range, Nat.min_eq_left h, bitsOf]
  refine List.map_congr_left fun i hi => ?_
  have hi := List.mem_range.1 hi
  rw [Nat.testBit_shiftRight]
  congr 1
  omega

theorem shiftRight_lt {size : Nat} (h : size ≤ width) (hn : n < 1 <<< width) :
    n >>> (width - size) < 1 <<< size := by
  rw [Nat.shiftRight_eq_div_pow, Nat.one_shiftLeft]
  refine Nat.div_lt_of_lt_mul ?_
  rw [← Nat.pow_add, Nat.sub_add_cancel h]
  exact lt_two_pow hn

/-- Numbers agree on their first bits exactly if they are the same without the others. -/
theorem shiftRight_eq_iff {size : Nat} (h : size ≤ width) (hn : n < 1 <<< width)
    (hm : m < 1 <<< width) : n >>> (width - size) = m >>> (width - size) ↔
      (bitsOf width n).take size = (bitsOf width m).take size := by
  rw [take_bitsOf h, take_bitsOf h, bitsOf_inj (shiftRight_lt h hn) (shiftRight_lt h hm)]

/-- What is made of words of one width can be told from its bits. -/
theorem flatMap_bitsOf_inj {α : Type} {value : α → Nat} (hlt : ∀ a, value a < 1 <<< width)
    (hinj : ∀ a b, value a = value b → a = b) {l l' : List α} (hlength : l.length = l'.length)
    (h : (l.flatMap fun a => bitsOf width (value a)) = l'.flatMap fun a => bitsOf width (value a)) :
    l = l' := by
  induction l generalizing l' with
  | nil => exact (List.length_eq_zero_iff.1 hlength.symm).symm
  | cons a l ih =>
    cases l' with
    | nil => cases hlength
    | cons b l' =>
      rw [List.flatMap_cons, List.flatMap_cons] at h
      obtain ⟨hfirst, hrest⟩ := List.append_inj h (by rw [length_bitsOf, length_bitsOf])
      have hvalue := (bitsOf_inj (hlt a) (hlt b)).1 hfirst
      rw [hinj a b hvalue, ih (Nat.succ.inj hlength) hrest]

end

/-! ## Addresses -/

namespace Ipv4

variable (ip : Ipv4)

theorem toNat_lt : ip.toNat < 1 <<< 32 := by
  have ha := ip.a.toNat_lt
  have hb := ip.b.toNat_lt
  have hc := ip.c.toNat_lt
  have hd := ip.d.toNat_lt
  rw [toNat]
  omega

theorem bitsOf_toNat : bitsOf 32 ip.toNat = ip.octets.flatMap fun o => bitsOf 8 o.toNat := by
  have hoctet : ∀ o : UInt8, o.toNat < 1 <<< 8 := fun o => o.toNat_lt
  have hshift : ip.toNat =
      (((ip.a.toNat <<< 8 + ip.b.toNat) <<< 8 + ip.c.toNat) <<< 8) + ip.d.toNat := by
    simp only [toNat, Nat.shiftLeft_eq]
  rw [hshift, bitsOf_add 24 _ (hoctet ip.d), bitsOf_add 16 _ (hoctet ip.c),
    bitsOf_add 8 _ (hoctet ip.b)]
  simp [octets]

end Ipv4

namespace Ipv6

/-- Groups one above the other, below what is there already. -/
theorem bitsOf_foldl (gs : List UInt16) (width n : Nat) :
    bitsOf (width + 16 * gs.length) (gs.foldl (fun n g => n * 65536 + g.toNat) n) =
      bitsOf width n ++ gs.flatMap fun g => bitsOf 16 g.toNat := by
  induction gs generalizing width n with
  | nil => simp
  | cons g gs ih =>
    have hwidth : width + 16 * (g :: gs).length = width + 16 + 16 * gs.length := by
      rw [List.length_cons]
      omega
    have hshift : n * 65536 + g.toNat = n <<< 16 + g.toNat := by
      rw [Nat.shiftLeft_eq]
    rw [List.foldl_cons, hwidth, ih, hshift, bitsOf_add width n g.toNat_lt, List.append_assoc,
      List.flatMap_cons]

theorem foldl_lt (gs : List UInt16) {width n : Nat} (h : n < 1 <<< width) :
    gs.foldl (fun n g => n * 65536 + g.toNat) n < 1 <<< (width + 16 * gs.length) := by
  induction gs generalizing width n with
  | nil => exact h
  | cons g gs ih =>
    have hg := g.toNat_lt
    have hstep : n * 65536 + g.toNat < 1 <<< (width + 16) := by
      rw [Nat.shiftLeft_add, Nat.shiftLeft_eq (1 <<< width)]
      show n * 65536 + g.toNat < 1 <<< width * 65536
      omega
    have hwidth : width + 16 * (g :: gs).length = width + 16 + 16 * gs.length := by
      rw [List.length_cons]
      omega
    rw [List.foldl_cons, hwidth]
    exact ih hstep

variable (ip : Ipv6)

theorem toNat_lt : ip.toNat < 1 <<< 128 := by
  have hzero : 0 < 1 <<< 0 := by decide
  have h := foldl_lt ip.groups hzero
  rwa [ip.length_groups] at h

theorem bitsOf_toNat : bitsOf 128 ip.toNat = ip.groups.flatMap fun g => bitsOf 16 g.toNat := by
  have h := bitsOf_foldl ip.groups 0 0
  rwa [ip.length_groups] at h

end Ipv6

namespace IpAddress

/-- The number of bits, by which the families can be told apart. -/
def width : IpAddress → Nat
  | .v4 _ => 32
  | .v6 _ => 128

def bits : IpAddress → List Bool
  | .v4 ip => ip.octets.flatMap fun o => bitsOf 8 o.toNat
  | .v6 ip => ip.groups.flatMap fun g => bitsOf 16 g.toNat

theorem length_bits (ip : IpAddress) : ip.bits.length = ip.width := by
  cases ip with
  | v4 ip => rw [bits, ← ip.bitsOf_toNat, length_bitsOf, width]
  | v6 ip => rw [bits, ← ip.bitsOf_toNat, length_bitsOf, width]

/-- Within a family the bits tell which address it is. -/
theorem bits_inj {a b : IpAddress} (hwidth : a.width = b.width) (h : a.bits = b.bits) : a = b := by
  cases a with
  | v4 a =>
    cases b with
    | v4 b =>
      have hoctets : a.octets = b.octets :=
        flatMap_bitsOf_inj (fun o : UInt8 => o.toNat_lt) (fun _ _ => UInt8.toNat_inj.1) rfl h
      have hip := congrArg Ipv4.ofOctets? hoctets
      rw [Ipv4.ofOctets?_octets, Ipv4.ofOctets?_octets] at hip
      rw [Option.some.inj hip]
    | v6 b => cases hwidth
  | v6 a =>
    cases b with
    | v4 b => cases hwidth
    | v6 b =>
      have hlength : a.groups.length = b.groups.length := by
        rw [a.length_groups, b.length_groups]
      have hgroups : a.groups = b.groups :=
        flatMap_bitsOf_inj (fun g : UInt16 => g.toNat_lt) (fun _ _ => UInt16.toNat_inj.1) hlength h
      cases a
      cases b
      cases hgroups
      rfl

end IpAddress
end BootServer
