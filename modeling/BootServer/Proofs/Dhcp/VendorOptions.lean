import BootServer.Proofs.Dhcp.OptionArea
import BootServer.Proofs.Dhcp.Reservation
import BootServer.Proofs.Text.Blank
import BootServer.Proofs.Text.Digits
import BootServer.Proofs.Text.Utf8

/-! The vendor options of a reply. Whatever text a record has for a VLAN, they are a list of
sub-options that a reader takes apart to the last octet: first the one that spares a client the
discovery of boot servers, then the VLAN, if the text is a number that can be one. A text that is
not costs the client nothing but the VLAN. -/
namespace BootServer.Dhcp

/-! ## Sub-options -/

/-- Read sub-options, each a code, a length and as many octets, to the end of the octets. -/
def readSubOptions : Octets → Option (List Item)
  | [] => some []
  | [_] => none
  | code :: length :: body =>
    if body.length < length.toNat then none
    else (readSubOptions (body.drop length.toNat)).map (⟨code, body.take length.toNat⟩ :: ·)
termination_by octets => octets.length
decreasing_by
  simp only [List.length_drop, List.length_cons]
  omega

variable {its : List Item}

theorem readSubOptions_octets_append {i : Item} (h : i.value.length ≤ 255) (rest : Octets) :
    readSubOptions (i.octets ++ rest) = (readSubOptions rest).map (i :: ·) := by
  have hlength : (UInt8.ofNat i.value.length).toNat = i.value.length := by
    rw [UInt8.toNat_ofNat']
    omega
  have hroom : ¬ (i.value ++ rest).length < i.value.length := by simp
  rw [Item.octets, List.cons_append, List.cons_append, readSubOptions, hlength, if_neg hroom,
    List.drop_left, List.take_left]

theorem readSubOptions_octets (h : ∀ i ∈ its, i.value.length ≤ 255) :
    readSubOptions (its.flatMap Item.octets) = some its := by
  induction its with
  | nil => rw [List.flatMap_nil, readSubOptions]
  | cons i its ih =>
    obtain ⟨hi, hits⟩ := List.forall_mem_cons.1 h
    rw [List.flatMap_cons, readSubOptions_octets_append hi, ih hits, Option.map_some]

/-! ## VLANs -/

/-- A text is a VLAN if it is a number that is small enough, with or without blanks around it. -/
def IsVlan (s : String) (id : Nat) : Prop :=
  ∃ before mid after, s.toList = before ++ mid ++ after ∧
    (∀ c ∈ before ++ after, Text.isBlank c = true) ∧ Text.Decimal.IsNumber mid id ∧ id ≤ 4095

theorem IsVlan.le {s : String} {id : Nat} (h : IsVlan s id) : id ≤ 4095 := by
  obtain ⟨before, mid, after, -, -, -, hle⟩ := h
  exact hle

theorem vlan?_eq_some_iff {s : String} {id : Nat} : vlan? s = some id ↔ IsVlan s id := by
  rw [vlan?, Option.filter_eq_some_iff, Text.Decimal.read?, Text.Decimal.readChars?_eq_some_iff,
    decide_eq_true_eq]
  constructor
  · intro h
    obtain ⟨⟨hnumber, -⟩, hle⟩ := h
    obtain ⟨before, after, hs, hblank⟩ := Text.exists_trimWhile Text.isBlank s
    exact ⟨before, _, after, hs, hblank, hnumber, hle⟩
  · intro h
    obtain ⟨before, mid, after, hs, hblank, hnumber, hle⟩ := h
    have htrim : Text.trim s = String.ofList mid :=
      Text.trimWhile_between hs hblank hnumber.ne_nil fun _ => hnumber.not_isBlank
    rw [htrim, String.toList_ofList]
    exact ⟨⟨hnumber, Nat.le_trans hle (by decide)⟩, hle⟩

/-! ## Vendor options -/

/-- A digit takes one octet. -/
theorem length_ofText_digits {l : List Char} (h : ∀ c ∈ l, c.isDigit = true) :
    (Octets.ofText (String.ofList l)).length = l.length := by
  have hchars : ∀ d < 10, (String.utf8EncodeChar (Nat.digitChar d)).length = 1 := by decide
  rw [Octets.ofText_eq_flatMap, String.toList_ofList]
  induction l with
  | nil => rfl
  | cons c l ih =>
    obtain ⟨hc, hl⟩ := List.forall_mem_cons.1 h
    obtain ⟨d, hd, rfl⟩ := Text.Decimal.exists_digitChar hc
    rw [List.flatMap_cons, List.length_append, hchars d hd, ih hl, List.length_cons, Nat.add_comm]

/-- The sub-option that names a VLAN. -/
def vlanItem (id : Nat) : Item := ⟨116, Octets.ofText (String.ofList (Nat.toDigits 10 id))⟩

theorem vlanItem_value {id : Nat} (h : id ≤ 4095) :
    (vlanItem id).value ≠ [] ∧ (vlanItem id).value.length ≤ 255 := by
  have hlength : (vlanItem id).value.length = (Nat.toDigits 10 id).length :=
    length_ofText_digits (Text.Decimal.isDigits_toDigits id).isDigit
  have hpos := Nat.length_toDigits_pos (b := 10) (n := id)
  have hle : (Nat.toDigits 10 id).length ≤ 4 :=
    (Nat.length_toDigits_le_iff (by decide) (by decide)).2 (by omega)
  rw [← List.length_pos_iff]
  omega

/-- The sub-options for a VLAN, if there is one. -/
def subOptions (vlan : Option Nat) : List Item := ⟨6, [8]⟩ :: (vlan.map vlanItem).toList

theorem readSubOptions_vendorOptions (vlan : Option String) :
    readSubOptions (vendorOptions vlan) = some (subOptions (vlan.bind vlan?)) := by
  unfold vendorOptions
  cases h : vlan.bind vlan? with
  | none =>
    have hits : ∀ i ∈ [(⟨6, [8]⟩ : Item)], i.value.length ≤ 255 := by simp
    exact readSubOptions_octets hits
  | some id =>
    obtain ⟨s, -, hs⟩ := Option.bind_eq_some_iff.1 h
    obtain ⟨hne, hlength⟩ := vlanItem_value (vlan?_eq_some_iff.1 hs).le
    have hitem : encodeItem vlanCode (Octets.ofText (Text.Decimal.text id)) =
        (vlanItem id).octets := by
      have hone : fragments 116 (vlanItem id).value = [vlanItem id] :=
        fragments_of_length_le hne hlength
      show encodeItem 116 (vlanItem id).value = _
      rw [encodeItem_eq, hone, List.flatMap_singleton]
    have hits : ∀ i ∈ [⟨6, [8]⟩, vlanItem id], i.value.length ≤ 255 := by simp [hlength]
    have hread := readSubOptions_octets hits
    rw [List.flatMap_cons, List.flatMap_singleton, ← hitem] at hread
    exact hread

/-- The same record with another text for the VLAN. -/
def withVlan (record : Record) (vlan : Option String) : Record :=
  { record with lease := { record.lease with vlan } }

theorem set_vendorOptions_offering (h : Responder) (r : Request) (t : MessageType)
    (binary : String) (record : Record) (ip : Ipv4) (vlan : Option String) :
    (h.offering r t (h.boot.optionsFor r none binary) ip
      (leaseEntries h.syslogIp record.lease record.leaseTime)).set 43 (vendorOptions vlan) =
    h.offering r t (h.boot.optionsFor r vlan binary) ip
      (leaseEntries h.syslogIp record.lease record.leaseTime) := by
  let front := (54, some h.serverIp.octets) ::
    (leaseEntries h.syslogIp record.lease record.leaseTime ++
      [(60, some (Octets.ofText (r.kind?.getD .pxe).name))])
  have hentries : ∀ vlan, h.entries (h.boot.optionsFor r vlan binary)
      (leaseEntries h.syslogIp record.lease record.leaseTime) =
      front ++ (43, some (vendorOptions vlan)) :: [(97, r.machineId)] := fun _ => rfl
  have hnew : 43 ∉ front.map Prod.fst := by
    have hcodes : front.map Prod.fst = [54, 1, 3, 6, 7, 12, 15, 28, 42, 51, 119, 60] := rfl
    rw [hcodes]
    decide
  have hset : Options.set 43 (vendorOptions vlan)
      (Options.present (front ++ (43, some (vendorOptions none)) :: [(97, r.machineId)])) = _ :=
    Options.set_present hnew _ _
  rw [← hentries, ← hentries] at hset
  rw [Reply.set, Responder.offering, hset]
  rfl

theorem reply?_withVlan (h : Responder) (r : Request) (t : MessageType) (record : Record)
    (vlan : Option String) :
    h.reply? r t (some (withVlan record vlan)) =
      (h.reply? r t (some (withVlan record none))).map (·.set 43 (vendorOptions vlan)) := by
  rw [Responder.reply?_reserved, Responder.reply?_reserved]
  cases r.binary? with
  | none => rfl
  | some binary =>
    show Option.map _ record.lease.address = Option.map _ (Option.map _ record.lease.address)
    rw [Option.map_map]
    congr 1
    funext ip
    exact (set_vendorOptions_offering h r t binary record ip vlan).symm

/-- The vendor options are well-formed whatever text is passed for a VLAN: the sub-option that spares
the discovery, and behind it the VLAN in as few digits as it takes, if the text is one. The text has
no say in whether there is an answer, nor in anything of it but these options. -/
theorem vendorOptions_wellFormed (c : BootConfig) (r : Request) (vlan : Option String) :
    (∀ o, c.options? r vlan = some o →
      (∀ s id, vlan = some s → IsVlan s id →
        let digits := Nat.toDigits 10 id
        let body := Octets.ofText (String.ofList digits)
        Text.Decimal.IsCanonical digits id ∧
          readSubOptions o.vendorOptions = some [⟨6, [8]⟩, ⟨116, body⟩] ∧
          (Text.Utf8.decode? body).bind (Text.Decimal.read? Text.Decimal.max16) = some id) ∧
      ((¬ ∃ s id, vlan = some s ∧ IsVlan s id) →
        readSubOptions o.vendorOptions = some [⟨6, [8]⟩])) ∧
    c.options? r vlan =
      (c.options? r none).map (fun o => { o with vendorOptions := vendorOptions vlan }) ∧
    ∀ (h : Responder) (t : MessageType) (record : Record),
      h.reply? r t (some (withVlan record vlan)) =
        (h.reply? r t (some (withVlan record none))).map (·.set 43 (vendorOptions vlan)) := by
  refine ⟨fun o ho => ?_, ?_, fun h t record => reply?_withVlan h r t record vlan⟩
  · have hread : readSubOptions o.vendorOptions = some (subOptions (vlan.bind vlan?)) := by
      rw [BootConfig.options?_eq] at ho
      obtain ⟨binary, -, rfl⟩ := Option.map_eq_some_iff.1 ho
      exact readSubOptions_vendorOptions vlan
    constructor
    · rintro s id rfl hs
      rw [Option.bind_some, vlan?_eq_some_iff.2 hs] at hread
      refine ⟨Text.Decimal.isCanonical_toDigits id, hread, ?_⟩
      have hle : id ≤ Text.Decimal.max16 := Nat.le_trans hs.le (by decide)
      rw [Text.Utf8.decode?_eq_some_iff.2 rfl, Option.bind_some]
      exact (Text.Decimal.read?_text _ id).trans (if_pos hle)
    · intro hnone
      have hvlan : vlan.bind vlan? = none := by
        rw [Option.bind_eq_none_iff]
        intro s hs
        refine Option.eq_none_iff_forall_ne_some.2 fun id hid => ?_
        exact hnone ⟨s, id, hs, vlan?_eq_some_iff.1 hid⟩
      rw [hread, hvlan]
      rfl
  · rw [BootConfig.options?_eq, BootConfig.options?_eq, Option.map_map]
    rfl

/-- A VLAN between blanks with a sign and zeros in front, and a number that is one too large. -/
theorem vendorOptions_wellFormed_signed :
    let boot := Responder.station.boot
    (∃ o, boot.options? Responder.discover (some " +0042\t") = some o ∧
      readSubOptions o.vendorOptions = some [⟨6, [8]⟩, ⟨116, [52, 50]⟩]) ∧
    ∃ o, boot.options? Responder.discover (some "4096") = some o ∧
      readSubOptions o.vendorOptions = some [⟨6, [8]⟩] := by
  intro boot
  have hsigned : IsVlan " +0042\t" 42 := vlan?_eq_some_iff.1 (by decide)
  have hlarge : ¬ ∃ s id, some "4096" = some s ∧ IsVlan s id := by
    rintro ⟨s, id, hs, hid⟩
    cases hs
    have hnone : vlan? "4096" = none := by decide
    rw [vlan?_eq_some_iff.2 hid] at hnone
    cases hnone
  obtain ⟨hread, -⟩ := vendorOptions_wellFormed boot Responder.discover (some " +0042\t")
  obtain ⟨hplain, -⟩ := vendorOptions_wellFormed boot Responder.discover (some "4096")
  exact ⟨⟨_, rfl, ((hread _ rfl).1 _ 42 rfl hsigned).2.1⟩, _, rfl, (hplain _ rfl).2 hlarge⟩

end BootServer.Dhcp
