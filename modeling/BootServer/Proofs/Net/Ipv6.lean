import BootServer.Net.Ipv6
import BootServer.Proofs.Net.Ipv4
import BootServer.Proofs.Octets
import BootServer.Proofs.Text.Digits

/-! IPv6 addresses as text. The canonical text of an address is read back as the address: the groups
that it leaves out are the zeros that are missing, and where it ends in an IPv4 address that stands
for the last two groups. -/
namespace BootServer.Ipv6

/-! ## Groups -/

/-- A group in hexadecimal. -/
def digits (g : UInt16) : List Char := Nat.toDigits 16 g.toNat

theorem digits_ne_nil (g : UInt16) : digits g ≠ [] := Nat.toDigits_ne_nil

theorem group?_digits (g : UInt16) : group? (digits g) = some g := by
  have hlength : (digits g).length ≤ 4 :=
    (Nat.length_toDigits_le_iff (by decide) (by decide)).2 g.toNat_lt
  have hempty : (digits g).isEmpty = false := List.isEmpty_eq_false_iff.2 (digits_ne_nil g)
  have hvalue : (digits g).foldlM (fun n c => (Text.Hex.value? c).map (n * 16 + ·)) 0 =
      some g.toNat := Text.Hex.foldlM_toDigits g.toNat
  rw [group?, hempty, hvalue, decide_eq_false (by omega)]
  simp

/-- What the text of an address is made of. -/
def alphabet : List Char := "0123456789abcdef:.".toList

theorem digits_subset (g : UInt16) : digits g ⊆ alphabet.take 16 := by
  intro c hc
  obtain ⟨d, hd, rfl⟩ := Text.Hex.exists_digitChar_of_mem hc
  have h : ∀ d < 16, d.digitChar ∈ alphabet.take 16 := by decide
  exact h d hd

theorem colon_not_mem_digits (g : UInt16) : ':' ∉ digits g := fun h =>
  absurd (digits_subset g h) (by decide)

theorem dot_not_mem_digits (g : UInt16) : '.' ∉ digits g := fun h =>
  absurd (digits_subset g h) (by decide)

/-! ## Groups joined by colons -/

/-- Groups, each behind a colon. -/
def tailed (gs : List UInt16) : List Char := (gs.map digits).flatMap (':' :: ·)

/-- Groups joined by colons. -/
def joined : List UInt16 → List Char
  | [] => []
  | g :: gs => digits g ++ tailed gs

theorem toList_joinGroups (gs : List UInt16) : (joinGroups gs).toList = joined gs := by
  rw [joinGroups, String.toList_intercalate]
  cases gs with
  | nil => rfl
  | cons g gs =>
    show List.intercalate [':'] _ = digits g ++ tailed gs
    induction gs generalizing g with
    | nil => simp [List.intercalate, tailed, digits, Text.Hex.number]
    | cons g' gs ih =>
      have h := ih g'
      simp only [List.map_cons] at h ⊢
      rw [List.intercalate_cons_cons, h]
      simp [tailed, digits, Text.Hex.number]

theorem joined_subset (gs : List UInt16) : joined gs ⊆ alphabet.take 17 := by
  have hdigits : ∀ g, ∀ c ∈ digits g, c ∈ alphabet.take 17 := fun g c hc =>
    List.take_subset_take_left _ (by decide) (digits_subset g hc)
  cases gs with
  | nil => exact List.nil_subset _
  | cons g gs =>
    intro c hc
    simp only [joined, tailed, List.mem_append, List.mem_flatMap, List.mem_map,
      List.mem_cons] at hc
    rcases hc with hc | ⟨_, ⟨g', -, rfl⟩, rfl | hc⟩
    · exact hdigits g c hc
    · decide
    · exact hdigits g' c hc

theorem fields_joined (g : UInt16) (gs : List UInt16) :
    Text.fields ':' (joined (g :: gs)) = (g :: gs).map digits := by
  refine Text.fields_flatMap (colon_not_mem_digits g) ?_
  intro field h
  obtain ⟨g', -, rfl⟩ := List.mem_map.1 h
  exact colon_not_mem_digits g'

theorem mapM_digits (gs : List UInt16) : (gs.map digits).mapM group? = some gs := by
  induction gs with
  | nil => rfl
  | cons g gs ih => simp [group?_digits, ih]

/-- Groups alone are read as they are, also where an IPv4 address might stand at the end. -/
theorem groups?_joined (mixed : Bool) (gs : List UInt16) :
    groups? mixed (joined gs) = some gs := by
  cases gs with
  | nil => rfl
  | cons g gs =>
    have hempty : (joined (g :: gs)).isEmpty = false := by
      rw [List.isEmpty_eq_false_iff]
      exact List.append_ne_nil_of_left_ne_nil (digits_ne_nil g) _
    have hlast : Ipv4.parseChars? ((Text.fields ':' (joined (g :: gs))).getLastD []) = none := by
      rw [fields_joined, List.map_cons, List.getLastD_cons, List.getLastD_map]
      exact Ipv4.parseChars?_of_not_mem (dot_not_mem_digits _)
    rw [groups?, hempty]
    simp only [hlast, ite_self]
    rw [fields_joined, mapM_digits]
    rfl

/-! ## What is left out -/

theorem cutElision_cons {c : Char} {l : List Char} (h : c = ':' → l.head? ≠ some ':') :
    cutElision (c :: l) = (cutElision l).map fun (head, tail) => (c :: head, tail) := by
  rw [cutElision]
  rintro rest rfl rfl
  exact h rfl rfl

/-- The cut is behind what has no colon in it. -/
theorem cutElision_append {front : List Char} (h : ':' ∉ front) (rest : List Char) :
    cutElision (front ++ rest) =
      (cutElision rest).map fun (head, tail) => (front ++ head, tail) := by
  induction front with
  | nil => simp
  | cons c front ih =>
    obtain ⟨hc, hfront⟩ := List.ne_and_not_mem_of_not_mem_cons h
    rw [List.cons_append, cutElision_cons fun he => absurd he.symm hc, ih hfront, Option.map_map]
    rfl

theorem cutElision_tailed (gs : List UInt16) (rest : List Char) :
    cutElision (tailed gs ++ rest) =
      (cutElision rest).map fun (head, tail) => (tailed gs ++ head, tail) := by
  induction gs with
  | nil => simp [tailed]
  | cons g gs ih =>
    have htailed : tailed (g :: gs) = ':' :: (digits g ++ tailed gs) := by simp [tailed]
    have hhead : (digits g ++ (tailed gs ++ rest)).head? ≠ some ':' := by
      obtain ⟨c, l, hd⟩ := List.exists_cons_of_ne_nil (digits_ne_nil g)
      have hc : ':' ∉ c :: l := hd ▸ colon_not_mem_digits g
      rw [hd]
      simpa using fun he : c = ':' => hc (he ▸ List.mem_cons_self)
    rw [htailed, List.cons_append, List.append_assoc, cutElision_cons fun _ => hhead,
      cutElision_append (colon_not_mem_digits g), ih, Option.map_map, Option.map_map]
    simp [Function.comp_def]

/-- The cut is behind the groups before it. -/
theorem cutElision_joined (gs : List UInt16) (rest : List Char) :
    cutElision (joined gs ++ rest) =
      (cutElision rest).map fun (head, tail) => (joined gs ++ head, tail) := by
  cases gs with
  | nil => simp [joined]
  | cons g gs =>
    rw [joined, List.append_assoc, cutElision_append (colon_not_mem_digits g), cutElision_tailed,
      Option.map_map]
    simp [Function.comp_def]

theorem ofGroups?_groups (ip : Ipv6) : ofGroups? ip.groups = some ip := dif_pos ip.length_groups

theorem parseChars?_joined (ip : Ipv6) : parseChars? (joined ip.groups) = some ip := by
  have hcut : cutElision (joined ip.groups) = none := by
    simpa [cutElision] using cutElision_joined ip.groups []
  rw [parseChars?, hcut]
  simp only [groups?_joined, Option.bind_some]
  exact ofGroups?_groups ip

/-- The groups that are not there are zeros. -/
theorem parseChars?_elided {front back : List UInt16} {n : Nat} (ip : Ipv6) (hn : 0 < n)
    (h : ip.groups = front ++ List.replicate n 0 ++ back) :
    parseChars? (joined front ++ ':' :: ':' :: joined back) = some ip := by
  have hcut : cutElision (joined front ++ ':' :: ':' :: joined back) =
      some (joined front, joined back) := by
    rw [cutElision_joined]
    simp [cutElision]
  have hlength : front.length + n + back.length = 8 := by
    rw [← ip.length_groups, h]
    simp only [List.length_append, List.length_replicate]
  have hmissing : 8 - front.length - back.length = n := by omega
  have hfew : front.length + back.length ≤ 7 := by omega
  rw [parseChars?, hcut]
  simp only [groups?_joined, Option.bind_eq_bind, Option.bind_some, hmissing, hfew, if_true, ← h]
  exact ofGroups?_groups ip

/-! ## Runs of zeros -/

/-- A list of groups is its run of zeros and what follows. -/
theorem replicate_zeroRun_append (gs : List UInt16) :
    List.replicate (zeroRun gs) 0 ++ gs.drop (zeroRun gs) = gs := by
  induction gs with
  | nil => rfl
  | cons g gs ih =>
    by_cases hg : g = 0
    · have hrun : zeroRun (g :: gs) = zeroRun gs + 1 := by simp [zeroRun, hg]
      rw [hrun, List.replicate_succ, List.drop_succ_cons, List.cons_append, ih, hg]
    · have hrun : zeroRun (g :: gs) = 0 := by simp [zeroRun, hg]
      rw [hrun]
      rfl

/-- If there is a run, it is one of two or more zero groups, and it is where it is said to be. -/
def IsRun (gs : List UInt16) (best : Option (Nat × Nat)) : Prop :=
  ∀ i n, best = some (i, n) → n = zeroRun (gs.drop i) ∧ 1 < n

theorem isRun_longestZeroRun (gs : List UInt16) : IsRun gs (longestZeroRun gs) := by
  unfold longestZeroRun
  refine List.foldlRecOn _ _ (by rintro _ _ ⟨⟩) ?_
  intro best hbest i _
  dsimp only
  split
  · rintro _ _ ⟨⟩
    refine ⟨rfl, ?_⟩
    cases best with
    | none => assumption
    | some run => exact Nat.lt_trans (hbest run.1 run.2 rfl).2 ‹_›
  · exact hbest

/-! ## Canonical text -/

theorem toList_hexText (ip : Ipv6) :
    ip.hexText.toList = match longestZeroRun ip.groups with
      | none => joined ip.groups
      | some (i, n) =>
        joined (ip.groups.take i) ++ ':' :: ':' :: joined (ip.groups.drop (i + n)) := by
  rw [hexText]
  cases longestZeroRun ip.groups with
  | none => exact toList_joinGroups _
  | some run => simp [toList_joinGroups]

theorem hexText_subset (ip : Ipv6) : ip.hexText.toList ⊆ alphabet.take 17 := by
  rw [toList_hexText]
  split
  · exact joined_subset _
  · refine List.append_subset.2 ⟨joined_subset _, ?_⟩
    refine List.cons_subset.2 ⟨by decide, List.cons_subset.2 ⟨by decide, joined_subset _⟩⟩

theorem parse?_hexText (ip : Ipv6) : parse? ip.hexText = some ip := by
  rw [parse?, toList_hexText]
  cases hrun : longestZeroRun ip.groups with
  | none => exact parseChars?_joined ip
  | some run =>
    obtain ⟨i, n⟩ := run
    obtain ⟨hn, hlong⟩ := isRun_longestZeroRun ip.groups i n hrun
    have hgroups : ip.groups =
        ip.groups.take i ++ List.replicate n 0 ++ ip.groups.drop (i + n) := by
      rw [List.append_assoc, ← List.drop_drop, hn, replicate_zeroRun_append,
        List.take_append_drop]
    exact parseChars?_elided ip (by omega) hgroups

theorem groupsOfIpv4_ofNat (hi lo : UInt16) :
    groupsOfIpv4 (.ofNat (hi.toNat * 65536 + lo.toNat)) = [hi, lo] := by
  have hlo := lo.toNat_lt
  have ha : UInt8.ofNat ((hi.toNat * 65536 + lo.toNat) / 16777216) = (hi >>> 8).toUInt8 := by
    apply UInt8.toNat_inj.1
    simp [Nat.shiftRight_eq_div_pow]
    omega
  have hb : UInt8.ofNat ((hi.toNat * 65536 + lo.toNat) / 65536) = hi.toUInt8 := by
    apply UInt8.toNat_inj.1
    simp
    omega
  have hc : UInt8.ofNat ((hi.toNat * 65536 + lo.toNat) / 256) = (lo >>> 8).toUInt8 := by
    apply UInt8.toNat_inj.1
    simp [Nat.shiftRight_eq_div_pow]
    omega
  have hd : UInt8.ofNat (hi.toNat * 65536 + lo.toNat) = lo.toUInt8 := by
    apply UInt8.toNat_inj.1
    simp
  rw [groupsOfIpv4, Ipv4.ofNat, ha, hb, hc, hd, Octets.word16_ofWord16, Octets.word16_ofWord16]

theorem groups_of_mapped? {ip : Ipv6} {v4 : Ipv4} (h : ip.mapped? = some v4) :
    ip.groups = List.replicate 5 0 ++ (0xFFFF :: groupsOfIpv4 v4) := by
  unfold mapped? at h
  split at h
  · rename_i hi lo hgroups
    obtain rfl := Option.some.inj h
    rw [hgroups, groupsOfIpv4_ofNat]
    rfl
  · cases h

/-- A group before an IPv4 address, as in the text of a mapped address. -/
theorem groups?_mixed (g : UInt16) (ip : Ipv4) :
    groups? true (digits g ++ ':' :: ip.text.toList) = some (g :: groupsOfIpv4 ip) := by
  have hcolon : ':' ∉ ip.text.toList := fun h => absurd (ip.text_subset h) (by decide)
  have hfields : Text.fields ':' (digits g ++ ':' :: ip.text.toList) =
      [digits g, ip.text.toList] := by
    rw [Text.fields_append (colon_not_mem_digits g), Text.fields_of_not_mem hcolon]
  have hlast : Ipv4.parseChars? ip.text.toList = some ip := Ipv4.parse?_text ip
  rw [groups?, hfields]
  simp [hlast, group?_digits]

theorem text_of_mapped?_eq_none {ip : Ipv6} (h : ip.mapped? = none) : ip.text = ip.hexText := by
  rw [text, h]

theorem text_of_mapped? {ip : Ipv6} {v4 : Ipv4} (h : ip.mapped? = some v4) :
    ip.text.toList = ':' :: ':' :: (digits 0xFFFF ++ ':' :: v4.text.toList) := by
  have hdigits : digits 0xFFFF = ['f', 'f', 'f', 'f'] := by decide
  rw [text, h, hdigits]
  simp

theorem text_subset (ip : Ipv6) : ip.text.toList ⊆ alphabet := by
  cases h : ip.mapped? with
  | none =>
    rw [text_of_mapped?_eq_none h]
    exact List.Subset.trans ip.hexText_subset (List.take_subset _ _)
  | some v4 =>
    have hv4 : v4.text.toList ⊆ alphabet := List.Subset.trans v4.text_subset (by decide)
    have hdigits : digits 0xFFFF ⊆ alphabet :=
      List.Subset.trans (digits_subset _) (List.take_subset _ _)
    rw [text_of_mapped? h]
    refine List.cons_subset.2 ⟨by decide, List.cons_subset.2 ⟨by decide, ?_⟩⟩
    exact List.append_subset.2 ⟨hdigits, List.cons_subset.2 ⟨by decide, hv4⟩⟩

@[simp] theorem parse?_text (ip : Ipv6) : parse? ip.text = some ip := by
  cases h : ip.mapped? with
  | none => rw [text_of_mapped?_eq_none h, parse?_hexText]
  | some v4 =>
    -- nothing stands before the `::`, three groups behind it, and five are left out
    have hempty : groups? false [] = some [] := rfl
    have hgroups : [] ++ List.replicate (8 - 0 - 3) 0 ++ (0xFFFF :: groupsOfIpv4 v4) = ip.groups :=
      (groups_of_mapped? h).symm
    rw [parse?, text_of_mapped? h, parseChars?, cutElision]
    simp only [groups?_mixed, hempty, Option.bind_eq_bind, Option.bind_some]
    exact (congrArg ofGroups? hgroups).trans (ofGroups?_groups ip)

end BootServer.Ipv6
