import BootServer.Proofs.Except
import BootServer.Proofs.Text.Blank
import BootServer.Proofs.Text.Pieces
import BootServer.Script.Composer

/-! What a rendered script tells the installer. Each parameter that is set is set once, the kernel is
loaded once, and the line that does it has the arguments of the client in their order. Values stand in
the script as they are; it has the lines of its template as long as none of them breaks one. -/
namespace BootServer.Script

namespace Context

/-- The arguments of the kernel that come from server settings and records. -/
def kernelArguments (c : Context) : List String :=
  (c.vlan.map ("vlan_id=" ++ ·)).toList ++ c.kernelArgs ++ ["hw_addr=" ++ c.hardwareAddress]
    ++ (c.addressing.map ("ipam=" ++ ·)).toList ++ [c.console]

/-- The texts that a script has from its context. -/
def texts (c : Context) : List String :=
  [c.hardwareAddress, c.kernel, c.initrd, c.syslogHost, c.console, c.facility]
    ++ c.kernelArgs ++ c.installerUrl.toList ++ c.controlPlane.toList ++ c.vlan.toList
    ++ c.addressing.toList ++ c.arch.toList

end Context

/-- The lines of a script that tell the installer something. -/
structure Tells (c : Context) (lines : List String) : Prop where
  workerId : lines.filterMap (Text.after? "set worker_id ") = [c.hardwareAddress]
  grpcAuthority : lines.filterMap (Text.after? "set grpc_authority ") = [c.controlPlane.getD ""]
  syslogHost : lines.filterMap (Text.after? "set syslog_host ") = [c.syslogHost]
  tls : lines.filterMap (Text.after? "set tinkerbell_tls ") = [Template.truth c.tls]
  insecureTls : lines.filterMap (Text.after? "set tinkerbell_insecure_tls ") =
    [Template.truth c.insecureTls]
  kernel : ∃ line, lines.filter (Text.startsWith "kernel ") = [line] ∧
    Text.InOrder (c.kernelArguments.map (" " ++ ·)) line

namespace Template

/-! ## The kernel line -/

theorem exists_kernelLine (c : Context) : ∃ rest, kernelLine c = "kernel " ++ rest := by
  unfold kernelLine
  simp only [String.append_assoc]
  exact ⟨_, rfl⟩

theorem inOrder_argument (name : String) (value : Option String) :
    Text.InOrder ((value.map (name ++ "=" ++ ·)).toList.map (" " ++ ·)) (argument name value) := by
  cases value with
  | none => exact .nil _
  | some v =>
    have hargument : argument name (some v) = " " ++ (name ++ "=" ++ v) := by
      simp only [argument, Option.map_some, Option.getD_some, String.append_assoc]
    rw [hargument]
    exact .self _

theorem kernelLine_eq (c : Context) : ∃ front mid mid' rest : String, kernelLine c =
    front ++ argument "vlan_id" c.vlan ++ "".intercalate (c.kernelArgs.map (" " ++ ·)) ++ mid
      ++ argument "hw_addr" (some c.hardwareAddress) ++ argument "ipam" c.addressing ++ mid'
      ++ (" " ++ c.console) ++ rest := by
  refine ⟨"kernel " ++ loaderVar "base-url" ++ "/" ++ c.kernel,
    argument "facility" (some c.facility) ++ handedOn "syslog_host" ++ handedOn "grpc_authority"
      ++ handedOn "tinkerbell_tls" ++ handedOn "tinkerbell_insecure_tls" ++ handedOn "worker_id",
    " modules=loop,squashfs,sd-mod,usb-storage intel_iommu=on iommu=pt"
      ++ argument "initrd" (some c.initrd),
    " && goto download_initrd" ++ retry "kernel-error" "retry_kernel", ?_⟩
  unfold kernelLine
  simp only [String.append_assoc]

theorem inOrder_kernelLine (c : Context) :
    Text.InOrder (c.kernelArguments.map (" " ++ ·)) (kernelLine c) := by
  obtain ⟨front, mid, mid', rest, hline⟩ := kernelLine_eq c
  have hvlan := inOrder_argument "vlan_id" c.vlan
  have hargs := Text.inOrder_joined (c.kernelArgs.map (" " ++ ·))
  have haddress := inOrder_argument "hw_addr" (some c.hardwareAddress)
  have hipam := inOrder_argument "ipam" c.addressing
  have hconsole := Text.InOrder.self (" " ++ c.console)
  have hall := (((((((Text.InOrder.nil front).append hvlan).append hargs).append (.nil mid)).append
    haddress).append hipam).append (.nil mid')).append hconsole |>.append (.nil rest)
  rw [← hline] at hall
  have hvlan : "vlan_id" ++ "=" = "vlan_id=" := by decide +kernel
  have haddress : "hw_addr" ++ "=" = "hw_addr=" := by decide +kernel
  have hipam : "ipam" ++ "=" = "ipam=" := by decide +kernel
  simpa [Context.kernelArguments, hvlan, haddress, hipam] using hall

/-! ## The lines that tell something -/

/-- What the lines begin with that tell the installer something. -/
def fronts : List String :=
  ["set worker_id ", "set grpc_authority ", "set syslog_host ", "set tinkerbell_tls ",
    "set tinkerbell_insecure_tls ", "kernel "]

theorem fronts_apart : fronts.Pairwise Text.Apart := by
  simp only [fronts, List.pairwise_cons, List.forall_mem_cons]
  and_intros <;> first | exact Text.apart_ofList rfl | simp

def tells (line : String) : Bool := fronts.any (Text.startsWith · line)

/-- A line that begins so tells nothing: it does not load the kernel, and it sets something else. -/
def quiet : List Char → Bool
  | 's' :: 'e' :: 't' :: ' ' :: c :: _ => c ∉ ['w', 'g', 's', 't']
  | c :: _ => c ≠ 'k' && c ≠ 's'
  | [] => true

variable {line front value : String} {l : List Char} {v : Values}

theorem not_tells (h : line.toList = l) (hquiet : quiet l = true) : ¬ tells line = true := by
  unfold quiet at hquiet
  split at hquiet
  · next c l =>
    simp only [List.mem_cons, List.not_mem_nil, or_false, not_or, decide_eq_true_eq] at hquiet
    obtain ⟨hw, hg, hs, ht⟩ := hquiet
    simp [tells, fronts, Text.startsWith, h, Ne.symm hw, Ne.symm hg, Ne.symm hs, Ne.symm ht]
  · next c l _ =>
    simp only [Bool.and_eq_true, decide_eq_true_eq] at hquiet
    simp [tells, fronts, Text.startsWith, h, hquiet.1.symm, hquiet.2.symm]
  · simp [tells, fronts, Text.startsWith, h]

theorem tells_of_startsWith (hfront : front ∈ fronts) (h : Text.startsWith front line = true) :
    tells line = true :=
  List.any_eq_true.2 ⟨front, hfront, h⟩

/-- The beginnings with what follows them, where the kernel line goes on with `rest`. -/
def told (v : Values) (rest : String) : List (String × String) :=
  fronts.zip [v.context.hardwareAddress, v.controlPlane, v.context.syslogHost,
    truth v.context.tls, truth v.context.insecureTls, rest]

/-- The line that loads the kernel and those that set what it hands on are all that tell anything. -/
theorem filter_tells (v : Values) : ∃ rest, kernelLine v.context = "kernel " ++ rest ∧
    (lines v).filter tells = (told v rest).map fun p => p.1 ++ p.2 := by
  obtain ⟨rest, hline⟩ := exists_kernelLine v.context
  refine ⟨rest, hline, ?_⟩
  have htold : ∀ p ∈ told v rest, tells (p.1 ++ p.2) = true := by
    intro p hp
    exact tells_of_startsWith (List.of_mem_zip hp).1 (Text.startsWith_append p.1 p.2)
  have harch : (v.context.arch.map ("set arch " ++ ·)).toList.filter tells = [] := by
    cases v.context.arch with
    | none => rfl
    | some arch => exact List.filter_cons_of_neg (not_tells (Text.toList_ofList_append _ _) rfl)
  simp only [told, fronts, List.zip_cons_cons, List.zip_nil_left, List.forall_mem_cons,
    List.map_cons, List.map_nil, ← hline] at htold ⊢
  obtain ⟨hworker, hauthority, hsyslog, htls, hinsecure, hkernel, -⟩ := htold
  unfold lines aliasLine shown failure retry
  dsimp only
  -- under names of their own the six lines are not tried to be read as quiet ones
  generalize kernelLine v.context = kernel,
    "set worker_id " ++ v.context.hardwareAddress = worker,
    "set grpc_authority " ++ v.controlPlane = authority,
    "set syslog_host " ++ v.context.syslogHost = syslog,
    "set tinkerbell_tls " ++ truth v.context.tls = tls,
    "set tinkerbell_insecure_tls " ++ truth v.context.insecureTls = insecure
    at hkernel hworker hauthority hsyslog htls hinsecure ⊢
  simp (disch := first
    | exact not_tells String.toList_ofList rfl
    | exact not_tells (Text.toList_ofList_append _ _) rfl) only
    [String.append_assoc, harch, List.filter_append, List.filter_cons_of_neg, List.filter_nil,
      List.cons_append, List.nil_append, List.append_nil, List.filter_cons_of_pos hworker,
      List.filter_cons_of_pos hauthority, List.filter_cons_of_pos hsyslog,
      List.filter_cons_of_pos htls, List.filter_cons_of_pos hinsecure,
      List.filter_cons_of_pos hkernel]

theorem filter_lines (v : Values) : ∃ rest, kernelLine v.context = "kernel " ++ rest ∧
    ∀ front value, (front, value) ∈ told v rest →
      (lines v).filter (Text.startsWith front) = [front ++ value] := by
  obtain ⟨rest, hline, htold⟩ := filter_tells v
  refine ⟨rest, hline, fun front value hmem => ?_⟩
  have hfront : front ∈ fronts := (List.of_mem_zip hmem).1
  have htells : ∀ line ∈ lines v,
      Text.startsWith front line = (Text.startsWith front line && tells line) := by
    intro line _
    cases h : Text.startsWith front line with
    | false => rfl
    | true => rw [tells_of_startsWith hfront h, Bool.and_true]
  have hapart : (told v rest).Pairwise fun p q => Text.Apart p.1 q.1 := by
    rw [← List.pairwise_map (f := Prod.fst)]
    exact fronts_apart
  rw [List.filter_congr htells, ← List.filter_filter, htold]
  exact Text.filter_startsWith hapart hmem

theorem tells_lines (v : Values) (hcontrol : v.context.controlPlane = some v.controlPlane) :
    Tells v.context (lines v) := by
  obtain ⟨rest, hline, hlines⟩ := filter_lines v
  have hcontrol : v.controlPlane = v.context.controlPlane.getD "" := by rw [hcontrol]; rfl
  simp only [told, fronts, List.zip_cons_cons, List.zip_nil_left, hcontrol] at hlines
  exact {
    workerId := Text.filterMap_after? (hlines _ _ (by simp))
    grpcAuthority := Text.filterMap_after? (hlines _ _ (by simp))
    syslogHost := Text.filterMap_after? (hlines _ _ (by simp))
    tls := Text.filterMap_after? (hlines _ _ (by simp))
    insecureTls := Text.filterMap_after? (hlines _ _ (by simp))
    kernel := ⟨_, hlines "kernel " rest (by simp), hline ▸ inOrder_kernelLine v.context⟩ }

/-! ## Unbroken lines -/

open Text (Unbroken unbroken_append)

theorem unbroken_loaderVar {name : String} : Unbroken (loaderVar name) ↔ Unbroken name := by
  simp only [loaderVar, unbroken_append]
  exact ⟨fun h => h.1.2, fun h => ⟨⟨Text.unbroken_ofList rfl, h⟩, Text.unbroken_ofList rfl⟩⟩

theorem unbroken_argument {name : String} {value : Option String} (hname : Unbroken name)
    (h : ∀ s ∈ value.toList, Unbroken s) : Unbroken (argument name value) := by
  cases value with
  | none => exact Text.unbroken_ofList rfl
  | some s =>
    simp only [argument, Option.map_some, Option.getD_some, unbroken_append]
    exact ⟨⟨⟨Text.unbroken_ofList rfl, hname⟩, Text.unbroken_ofList rfl⟩, h s (by simp)⟩

theorem unbroken_argument_some {name s : String} (hname : Unbroken name) (h : Unbroken s) :
    Unbroken (argument name (some s)) := by
  refine unbroken_argument hname fun s' hs' => ?_
  rwa [List.mem_singleton.1 hs']

theorem unbroken_handedOn {name : String} (h : Unbroken name) : Unbroken (handedOn name) :=
  unbroken_argument_some h (unbroken_loaderVar.2 h)

theorem unbroken_retry {failure again : String} (hfailure : Unbroken failure)
    (hagain : Unbroken again) : Unbroken (retry failure again) := by
  unfold retry
  simp only [unbroken_append, unbroken_loaderVar]
  and_intros <;> first | assumption | exact Text.unbroken_ofList rfl

theorem unbroken_decimal (n : Nat) : Unbroken (Text.Decimal.text n) := by
  rw [Unbroken, Text.Decimal.text, String.toList_ofList]
  intro hmem
  have hdigit := Nat.isDigit_of_mem_toDigits (by decide) (by decide) hmem
  exact absurd hdigit (by decide)

theorem unbroken_truth (b : Bool) : Unbroken (truth b) := by
  cases b <;> exact Text.unbroken_ofList rfl

theorem unbroken_kernelLine {c : Context} (h : ∀ s ∈ c.texts, Unbroken s) :
    Unbroken (kernelLine c) := by
  simp only [Context.texts, List.forall_mem_append, List.forall_mem_cons] at h
  obtain ⟨⟨⟨⟨⟨⟨⟨haddress, hkernel, hinitrd, -, hconsole, hfacility, -⟩, hargs⟩, -⟩, -⟩, hvlan⟩,
    hipam⟩, -⟩ := h
  have hargs : Unbroken ("".intercalate (c.kernelArgs.map (" " ++ ·))) := by
    refine Text.unbroken_joined fun piece hpiece => ?_
    obtain ⟨arg, harg, rfl⟩ := List.mem_map.1 hpiece
    exact unbroken_append.2 ⟨Text.unbroken_ofList rfl, hargs arg harg⟩
  have hvlan : Unbroken (argument "vlan_id" c.vlan) :=
    unbroken_argument (Text.unbroken_ofList rfl) hvlan
  have hipam : Unbroken (argument "ipam" c.addressing) :=
    unbroken_argument (Text.unbroken_ofList rfl) hipam
  unfold kernelLine
  simp (disch := first | assumption | exact Text.unbroken_ofList rfl) only [unbroken_append,
    unbroken_loaderVar, unbroken_argument_some, unbroken_handedOn, unbroken_retry, hkernel, hvlan,
    hargs, hipam, hconsole, and_true]
  and_intros <;> exact Text.unbroken_ofList rfl

theorem unbroken_lines {v : Values} (h : ∀ s ∈ v.context.texts, Unbroken s)
    (hbase : Unbroken v.baseUrl) (hcontrol : Unbroken v.controlPlane) :
    ∀ line ∈ lines v, Unbroken line := by
  have hkernel := unbroken_kernelLine h
  simp only [Context.texts, List.forall_mem_append, List.forall_mem_cons] at h
  obtain ⟨⟨⟨⟨⟨⟨⟨haddress, -, hinitrd, hsyslog, -, -, -⟩, -⟩, -⟩, -⟩, -⟩, -⟩, harch⟩ := h
  have harch : ∀ line ∈ (v.context.arch.map ("set arch " ++ ·)).toList, Unbroken line := by
    intro line hline
    obtain ⟨arch, hsome, rfl⟩ := Option.map_eq_some_iff.1 (Option.mem_toList.1 hline)
    exact unbroken_append.2 ⟨Text.unbroken_ofList rfl, harch arch (Option.mem_toList.2 hsome)⟩
  unfold lines aliasLine shown failure
  dsimp only
  simp (disch := first | assumption | exact Text.unbroken_ofList rfl) only
    [List.forall_mem_append, List.forall_mem_cons, unbroken_append, unbroken_loaderVar,
    unbroken_retry, unbroken_decimal, unbroken_truth, hkernel, haddress, hinitrd, hsyslog,
    hbase, hcontrol, and_true, true_and, List.not_mem_nil, false_implies, implies_true]
  and_intros <;> first | exact harch | exact Text.unbroken_ofList rfl

end Template

/-! ## Rendered scripts -/

theorem of_values {c : Context} {v : Template.Values} (h : values c = .ok v) : v.context = c ∧
    c.controlPlane = some v.controlPlane ∧
    ∃ url, c.installerUrl = some url ∧ v.baseUrl = Text.trimEndWhile (· = '/') url := by
  unfold values at h
  split at h
  · cases h
  · next url hurl =>
    split at h
    · cases h
    · split at h
      · cases h
      · split at h
        · cases h
        · next controlPlane hcontrol =>
          cases h
          exact ⟨rfl, Option.eq_some_of_filter_eq_some hcontrol, url, hurl, rfl⟩

theorem unbroken_trimEndWhile {p : Char → Bool} {s : String} (h : Text.Unbroken s) :
    Text.Unbroken (Text.trimEndWhile p s) := by
  obtain ⟨after, hafter, -⟩ := Text.exists_dropEndWhile p s.toList
  intro hmem
  rw [Text.trimEndWhile, String.toList_ofList] at hmem
  exact h (hafter ▸ List.mem_append_left after hmem)

/-- A script tells the installer what its context has, in the lines of its template. Values break
these only where they have line breaks themselves. -/
theorem tells_of_render {c : Context} {script : String} (h : render c = .ok script) :
    ∃ v, values c = .ok v ∧ script = "\n".intercalate (Template.lines v) ∧
      Tells c (Template.lines v) ∧
      ((∀ s ∈ c.texts, Text.Unbroken s) → Text.split '\n' script = Template.lines v) := by
  obtain ⟨v, hv, rfl⟩ := map_eq_ok_iff.1 h
  obtain ⟨hcontext, hcontrol, url, hurl, hbase⟩ := of_values hv
  rw [← hcontext] at hcontrol hurl ⊢
  refine ⟨v, hcontext ▸ hv, rfl, Template.tells_lines v hcontrol, fun hunbroken => ?_⟩
  have hmem : ∀ s, v.context.installerUrl = some s ∨ v.context.controlPlane = some s →
      s ∈ v.context.texts := by
    intro s hs
    rcases hs with hs | hs <;> simp [Context.texts, hs]
  refine Text.split_lines (by simp [Template.lines]) (Template.unbroken_lines hunbroken ?_ ?_)
  · rw [hbase]
    exact unbroken_trimEndWhile (hunbroken url (hmem url (.inl hurl)))
  · exact hunbroken _ (hmem _ (.inr hcontrol))

end BootServer.Script
