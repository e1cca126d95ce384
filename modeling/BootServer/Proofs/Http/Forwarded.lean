import BootServer.Proofs.Http.Script
import BootServer.Proofs.Net.Address

/-! Whose request it is, behind proxies. A client may write forwarding lines of its own, and every
proxy adds the address that it got the request from. Its address is found among what the client made
up as long as the line that it was added to is text; where it is not, the client is who it says. -/
namespace BootServer.Http

/-! ## Lines -/

/-- The values of the forwarding headers. -/
def forwardedLines (headers : Headers) : List Octets :=
  (Headers.all headers forwardedHeader).map (·.value)

def isLegible (line : Octets) : Bool := line.all Header.isTextOctet

def lineChars (line : Octets) : List Char := line.map fun o => Char.ofNat o.toNat

def readHop? (field : List Char) : Option IpAddress :=
  IpAddress.parse? (Text.trim (String.ofList field))

/-- The addresses on a line; none of them counts where the line is not text. -/
def lineHops (line : Octets) : List IpAddress :=
  if isLegible line then (Text.fields ',' (lineChars line)).filterMap readHop? else []

theorem filterMap_split (text : String) :
    ((Text.split ',' text).filterMap fun hop => IpAddress.parse? (Text.trim hop)) =
      (Text.fields ',' text.toList).filterMap readHop? := by
  have hread : (fun hop => IpAddress.parse? (Text.trim hop)) ∘ String.ofList = readHop? := by
    funext field
    rw [Function.comp_apply, readHop?]
  rw [Text.split, List.filterMap_map, hread]

theorem hops_eq_flatMap (headers : Headers) :
    hops headers = (forwardedLines headers).flatMap lineHops := by
  simp only [hops, forwardedLines, filterMap_split]
  generalize Headers.all headers forwardedHeader = lines
  induction lines with
  | nil => rfl
  | cons line lines ih =>
    have hline : lineHops line.value =
        (Header.text? line).elim [] fun text =>
          (Text.fields ',' text.toList).filterMap readHop? := by
      unfold Header.text? lineHops isLegible
      split <;> simp [lineChars]
    rw [List.map_cons, List.flatMap_cons, hline, ← ih]
    cases ht : Header.text? line <;> simp [ht]

/-! ## Hops -/

/-- An address as a proxy adds it to the forwarding lines. -/
structure Hop where
  ip : IpAddress
  /-- The address as it is spelled. -/
  value : Octets
  /-- Is it written on a line of its own, rather than behind the last line? -/
  alone : Bool
  isLegible_value : isLegible value = true
  comma_not_mem : ',' ∉ lineChars value
  readHop?_value : readHop? (lineChars value) = some ip

namespace Hop

/-- What stands between the addresses on a line. -/
def separator : Octets := [0x2C, 0x20]

/-- Write the hop into the lines that a request came with. -/
def addTo (hop : Hop) (lines : List Octets) : List Octets :=
  match hop.alone, lines.getLast? with
  | false, some last => lines.dropLast ++ [last ++ (separator ++ hop.value)]
  | _, _ => lines ++ [hop.value]

/-- Is the hop on a line that is text? -/
def isRead (hop : Hop) (lines : List Octets) : Bool :=
  hop.alone || lines.getLast?.all isLegible

theorem lineHops_value (hop : Hop) : lineHops hop.value = [hop.ip] := by
  rw [lineHops, if_pos hop.isLegible_value, Text.fields_of_not_mem hop.comma_not_mem]
  simp [hop.readHop?_value]

theorem readHop?_cons_space (field : List Char) : readHop? (' ' :: field) = readHop? field := by
  simp [readHop?, Text.trim, Text.trimWhile, Text.trimStartWhile, Text.isBlank]

theorem lineHops_append (hop : Hop) (line : Octets) :
    lineHops (line ++ (separator ++ hop.value)) =
      lineHops line ++ if isLegible line then [hop.ip] else [] := by
  have hvalue := hop.isLegible_value
  have hlegible : isLegible (line ++ (separator ++ hop.value)) = isLegible line := by
    simp only [isLegible] at hvalue ⊢
    simp [hvalue, separator, Header.isTextOctet]
  have hchars : lineChars (line ++ (separator ++ hop.value)) =
      lineChars line ++ ',' :: ' ' :: lineChars hop.value := by
    simp [lineChars, separator]
  have hcomma : ',' ∉ ' ' :: lineChars hop.value := by
    simpa using hop.comma_not_mem
  rw [lineHops, hlegible, hchars, Text.fields_append_cons, Text.fields_of_not_mem hcomma,
    List.filterMap_append]
  cases hline : isLegible line with
  | false => simp [lineHops, hline]
  | true => simp [lineHops, hline, readHop?_cons_space, hop.readHop?_value]

/-! ### Canonical spelling -/

theorem of_mem_alphabet {c : Char} (h : c ∈ Ipv6.alphabet) :
    isLegible (String.utf8EncodeChar c) = true ∧ lineChars (String.utf8EncodeChar c) = [c] ∧
      c ≠ ',' ∧ Text.isBlank c = false := by
  have hall : Ipv6.alphabet.all (fun c => isLegible (String.utf8EncodeChar c) &&
      (lineChars (String.utf8EncodeChar c) = [c] && (c ≠ ',' && !Text.isBlank c))) = true := by
    decide +kernel
  simpa using List.all_eq_true.1 hall c h

theorem isLegible_ofText_text (ip : IpAddress) : isLegible (Octets.ofText ip.text) = true := by
  rw [Octets.ofText_eq_flatMap, isLegible, List.all_flatMap, List.all_eq_true]
  exact fun c hc => (of_mem_alphabet (ip.text_subset hc)).1

theorem lineChars_ofText_text (ip : IpAddress) :
    lineChars (Octets.ofText ip.text) = ip.text.toList := by
  have h : ∀ l ⊆ Ipv6.alphabet, lineChars (l.flatMap String.utf8EncodeChar) = l := by
    intro l hl
    induction l with
    | nil => rfl
    | cons c l ih =>
      obtain ⟨hc, hrest⟩ := List.cons_subset.1 hl
      have hchar := (of_mem_alphabet hc).2.1
      rw [lineChars] at hchar ih ⊢
      rw [List.flatMap_cons, List.map_append, hchar, ih hrest]
      rfl
  rw [Octets.ofText_eq_flatMap, h _ ip.text_subset]

/-- The address in its canonical form, which is text without a comma. -/
def canonical (ip : IpAddress) (alone : Bool) : Hop where
  ip := ip
  value := Octets.ofText ip.text
  alone := alone
  isLegible_value := isLegible_ofText_text ip
  comma_not_mem := by
    rw [lineChars_ofText_text]
    exact fun h => (of_mem_alphabet (ip.text_subset h)).2.2.1 rfl
  readHop?_value := by
    rw [lineChars_ofText_text, readHop?, String.ofList_toList, Text.trim,
      Text.trimWhile_of_forall fun c hc => (of_mem_alphabet (ip.text_subset hc)).2.2.2,
      IpAddress.parse?_text]

/-! ### Steps -/

/-- What one proxy does: the addresses stay, and that of the hop comes last where it is read. -/
theorem flatMap_addTo (hop : Hop) (lines : List Octets) :
    (hop.addTo lines).flatMap lineHops =
      lines.flatMap lineHops ++ if hop.isRead lines then [hop.ip] else [] := by
  cases ha : hop.alone with
  | true => simp [addTo, isRead, ha, lineHops_value]
  | false =>
    rcases List.eq_nil_or_concat lines with rfl | ⟨front, last, rfl⟩
    · simp [addTo, isRead, ha, lineHops_value]
    · simp [addTo, isRead, ha, List.concat_eq_append, lineHops_append]

end Hop

/-! ## Requests through proxies -/

theorem clientAddress_of_find? {trusted : List Network} {peer ip : IpAddress} {headers : Headers}
    (hpeer : isTrusted trusted peer = true)
    (h : (hops headers).reverse.find? (!isTrusted trusted ·) = some ip) :
    clientAddress trusted peer headers = ip := by
  rw [clientAddress, if_pos hpeer, origin?, h]
  rfl

/-- Where every hop is trusted, so is the one that counts as the client. -/
theorem isTrusted_clientAddress {trusted : List Network} {peer : IpAddress} {headers : Headers}
    (hpeer : isTrusted trusted peer = true)
    (h : (hops headers).reverse.find? (!isTrusted trusted ·) = none) :
    isTrusted trusted (clientAddress trusted peer headers) = true := by
  rw [clientAddress, if_pos hpeer, origin?, h]
  cases hhops : hops headers with
  | nil => exact hpeer
  | cons hop rest => simpa [hhops] using List.find?_eq_none.1 h hop

/-- A request as proxies bring it: the lines that the client sent, the client as the first proxy
added it, and the trusted proxies from there to the last one, as each was added by the next. -/
structure Forwarded (trusted : List Network) where
  sent : List Octets
  client : Hop
  proxies : List Hop
  client_untrusted : isTrusted trusted client.ip = false
  proxies_trusted : ∀ hop ∈ proxies, isTrusted trusted hop.ip = true

namespace Forwarded

variable {trusted : List Network} {peer : IpAddress} {headers : Headers}

/-- The forwarding lines when the request arrives. -/
def lines (f : Forwarded trusted) : List Octets :=
  f.proxies.foldl (fun lines hop => hop.addTo lines) (f.client.addTo f.sent)

/-- Is the client's address on a line that is text? -/
def isRead (f : Forwarded trusted) : Bool := f.client.isRead f.sent

/-- The client as the client itself has it. -/
def claimed? (f : Forwarded trusted) : Option IpAddress :=
  (f.sent.flatMap lineHops).reverse.find? (!isTrusted trusted ·)

/-- Trusted proxies leave the addresses that are there and add none that is not trusted. -/
theorem exists_flatMap_foldl {proxies : List Hop}
    (h : ∀ hop ∈ proxies, isTrusted trusted hop.ip = true) (lines : List Octets) :
    ∃ rest : List IpAddress, (∀ ip ∈ rest, isTrusted trusted ip = true) ∧
      (proxies.foldl (fun lines hop => hop.addTo lines) lines).flatMap lineHops =
        lines.flatMap lineHops ++ rest := by
  induction proxies generalizing lines with
  | nil => exact ⟨[], by simp, by simp⟩
  | cons hop proxies ih =>
    obtain ⟨hhop, hproxies⟩ := List.forall_mem_cons.1 h
    obtain ⟨rest, hrest, he⟩ := ih hproxies (hop.addTo lines)
    refine ⟨(if hop.isRead lines then [hop.ip] else []) ++ rest, ?_, ?_⟩
    · intro ip hip
      rcases List.mem_append.1 hip with hip | hip
      · split at hip
        · obtain rfl := List.mem_singleton.1 hip
          exact hhop
        · cases hip
      · exact hrest ip hip
    · rw [List.foldl_cons, he, Hop.flatMap_addTo, List.append_assoc]

/-- The last address that is not trusted: the client's, or else the one that it made up. -/
theorem find?_hops (f : Forwarded trusted) (h : forwardedLines headers = f.lines) :
    (hops headers).reverse.find? (!isTrusted trusted ·) =
      if f.isRead then some f.client.ip else f.claimed? := by
  obtain ⟨rest, hrest, he⟩ := exists_flatMap_foldl f.proxies_trusted (f.client.addTo f.sent)
  -- from the end, the trusted proxies come first and are passed over
  have hnone : rest.reverse.find? (!isTrusted trusted ·) = none := by
    simpa using hrest
  rw [hops_eq_flatMap, h, lines, he, Hop.flatMap_addTo, List.reverse_append, List.find?_append,
    hnone, Option.none_or, List.reverse_append, List.find?_append]
  cases hread : f.client.isRead f.sent with
  | true => simp [isRead, hread, f.client_untrusted]
  | false => simp [isRead, hread, claimed?]

theorem clientAddress_iff (f : Forwarded trusted) (hpeer : isTrusted trusted peer = true)
    (h : forwardedLines headers = f.lines) :
    clientAddress trusted peer headers = f.client.ip ↔
      f.isRead = true ∨ f.claimed? = some f.client.ip := by
  have hfind := f.find?_hops h
  cases hread : f.isRead with
  | true => simpa [hread] using clientAddress_of_find? hpeer (by simpa [hread] using hfind)
  | false =>
    simp only [hread, Bool.false_eq_true, if_false] at hfind
    cases hclaimed : f.claimed? with
    | some ip => simp [clientAddress_of_find? hpeer (hfind.trans hclaimed)]
    | none =>
      have htrusted := isTrusted_clientAddress hpeer (hfind.trans hclaimed)
      simp only [Bool.false_eq_true, reduceCtorEq, or_self, iff_false]
      intro he
      rw [he, f.client_untrusted] at htrusted
      cases htrusted

end Forwarded

/-! ## Scripts -/

namespace Site

variable {σ : Type}

/-- The script page looks at the headers for the client's address alone. -/
theorem handle_rest_congr {s : Site σ} {r r' : Request} (hroute : s.route r.path = .rest)
    (hpath : r'.path = r.path) (hmethod : r'.method = r.method)
    (hclient : clientAddress s.trusted r'.peer r'.headers =
      clientAddress s.trusted r.peer r.headers) (m : Image.Memory σ) :
    s.handle r' m = s.handle r m := by
  have hscript : ∀ settings, s.scriptPage settings r' = s.scriptPage settings r := by
    intro settings
    unfold scriptPage
    rw [hpath, hclient]
  have hpage : s.page r' = s.page r := by
    rw [page, page, hpath, hroute]
    simp only [restPage, hscript]
  rw [handle_apply, handle_apply, hpage, hmethod]

/-- Through trusted proxies the client's address is found exactly if it is on a line that is text, or
if the client named no other. Where it is found, the script is the same whatever lines the client
sent and whichever proxies were on the way. -/
theorem forwarded_client_iff (s : Site σ) (f : Forwarded s.trusted) {r : Request}
    (hpeer : isTrusted s.trusted r.peer = true) (hlines : forwardedLines r.headers = f.lines) :
    (clientAddress s.trusted r.peer r.headers = f.client.ip ↔
      f.isRead = true ∨ f.claimed? = some f.client.ip) ∧
    ∀ (g : Forwarded s.trusted) (r' : Request), g.client.ip = f.client.ip →
      f.isRead = true → g.isRead = true →
      isTrusted s.trusted r'.peer = true → forwardedLines r'.headers = g.lines →
      r'.path = r.path → r'.method = r.method → s.route r.path = .rest →
      ∀ m, s.handle r' m = s.handle r m := by
  refine ⟨f.clientAddress_iff hpeer hlines, ?_⟩
  intro g r' hip hf hg hpeer' hlines' hpath hmethod hroute m
  refine handle_rest_congr hroute hpath hmethod ?_ m
  rw [(g.clientAddress_iff hpeer' hlines').2 (.inl hg),
    (f.clientAddress_iff hpeer hlines).2 (.inl hf), hip]

end Site

/-! ### Two lines of a client's own -/

def tenNet : List Network := [.v4 ⟨10, 0, 0, 0⟩ 8]

/-- Lines of a client's own, through two proxies that write behind what is there. -/
def throughTwo (sent : List Octets) : Forwarded tenNet where
  sent := sent
  client := .canonical (.v4 ⟨203, 0, 113, 9⟩) false
  proxies := [.canonical (.v4 ⟨10, 0, 0, 2⟩) false]
  client_untrusted := by decide
  proxies_trusted := by decide

def scriptRequest (lines : List Octets) : Request where
  method := .get
  target := "/auto.ipxe"
  headers := lines.map fun line => ⟨forwardedHeader, line⟩
  peer := .v4 ⟨10, 0, 0, 1⟩

theorem forwardedLines_scriptRequest (lines : List Octets) :
    forwardedLines (scriptRequest lines).headers = lines := by
  simp [forwardedLines, scriptRequest, Headers.all, List.filter_map, Function.comp_def]

def plainSite : Site Unit where
  store := .permissive
  timeout := 0
  trusted := tenNet

theorem Site.forwarded_client_iff_legible :
    let f := throughTwo [Octets.ofText "6.6.6.6", Octets.ofText "10.0.0.7, me"]
    let g := throughTwo []
    let r := scriptRequest f.lines
    let r' := scriptRequest g.lines
    f.isRead = true ∧ g.isRead = true ∧
      clientAddress tenNet r.peer r.headers = .v4 ⟨203, 0, 113, 9⟩ ∧
      plainSite.handle r' ⟨none, ()⟩ = plainSite.handle r ⟨none, ()⟩ := by
  intro f g r r'
  have hf : f.isRead = true := by decide +kernel
  have hpeer : isTrusted plainSite.trusted r.peer = true := by decide
  have h := forwarded_client_iff plainSite f hpeer (forwardedLines_scriptRequest f.lines)
  have hroute : plainSite.route r.path = .rest := by decide +kernel
  exact ⟨hf, rfl, h.1.2 (.inl hf), h.2 g r' rfl hf rfl (by decide)
    (forwardedLines_scriptRequest g.lines) rfl rfl hroute ⟨none, ()⟩⟩

/-- Behind a line that is not text a proxy's word is lost, and the client is whom it makes up. -/
theorem Site.forwarded_client_forged :
    let f := throughTwo [Octets.ofText "6.6.6.6", Octets.ofText "é"]
    let r := scriptRequest f.lines
    isTrusted plainSite.trusted r.peer = true ∧ forwardedLines r.headers = f.lines ∧
      f.client.ip = .v4 ⟨203, 0, 113, 9⟩ ∧
      clientAddress plainSite.trusted r.peer r.headers = .v4 ⟨6, 6, 6, 6⟩ := by
  refine ⟨by decide, forwardedLines_scriptRequest _, rfl, ?_⟩
  decide +kernel

end BootServer.Http
