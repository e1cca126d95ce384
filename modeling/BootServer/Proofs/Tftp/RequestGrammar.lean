import BootServer.Proofs.Text.Digits
import BootServer.Proofs.Tftp.Fields

/-! Requests on the wire. A request is read exactly if it is an opcode with fields behind it of which
the first names a file and, to read, the second names a mode; it is read as what it was written from.
Of an error a reader gets back the code and the text, and no text of the server's is cut short. -/
namespace BootServer.Tftp

variable {opcode : UInt16} {names : List String} {data : Octets} {request : Request}

/-! ## Fields behind an opcode -/

/-- An opcode and fields, each with a NUL behind it. -/
def encodeFields (opcode : UInt16) (names : List String) : Octets :=
  Octets.ofWord16 opcode ++ names.flatMap encodeField

theorem length_encodeField (s : String) : (encodeField s).length = (Octets.ofText s).length + 1 := by
  rw [encodeField, List.length_append]
  rfl

theorem parse_encodeFields (hlength : Request.minSize ≤ (encodeFields opcode names).length)
    (hne : names ≠ []) (hfree : ∀ s ∈ names, NulFree s) :
    Request.parse (encodeFields opcode names) = Request.ofFields opcode names := by
  have hfields : fields (names.flatMap encodeField) = .ok names :=
    fields_eq_ok_iff.2 ⟨hne, hfree, rfl⟩
  unfold encodeFields at hlength ⊢
  rw [Octets.ofWord16, List.cons_append, List.singleton_append] at hlength ⊢
  rw [Request.parse, if_neg (Nat.not_lt.2 hlength), hfields, Octets.word16_ofWord16]
  rfl

theorem exists_fields_of_parse (h : Request.parse data = .ok request) :
    ∃ opcode names, (∀ s ∈ names, NulFree s) ∧ data = encodeFields opcode names ∧
      Request.ofFields opcode names = .ok request := by
  unfold Request.parse at h
  split at h
  · next a b body =>
    split at h
    · cases h
    · obtain ⟨names, hfields, hrequest⟩ := bind_eq_ok_iff.1 h
      obtain ⟨-, hfree, rfl⟩ := fields_eq_ok_iff.1 hfields
      refine ⟨_, names, hfree, ?_, hrequest⟩
      rw [encodeFields, Octets.ofWord16_word16]
      rfl
  · cases h

theorem ofFields_cons {file : String} (hfile : file ≠ "") (opcode : UInt16) (rest : List String) :
    Request.ofFields opcode (file :: rest) =
      if opcode = Opcode.read then readRequest file rest
      else if opcode = Opcode.write then .ok (.write file)
      else .error (.unexpectedOpcode opcode) := by
  unfold Request.ofFields
  split
  · next h => cases h
  · next h => exact absurd (List.cons.inj h).1 hfile
  · next h =>
    cases h
    rfl

theorem exists_file_of_ofFields (h : Request.ofFields opcode names = .ok request) :
    ∃ file rest, names = file :: rest ∧ file ≠ "" := by
  unfold Request.ofFields at h
  split at h
  · cases h
  · cases h
  · next file rest hne => exact ⟨file, rest, rfl, hne⟩

/-- A request is fields behind an opcode of which the first is not empty. -/
theorem parse_eq_ok_iff :
    Request.parse data = .ok request ↔
      ∃ opcode file rest, file ≠ "" ∧ (∀ s ∈ file :: rest, NulFree s) ∧
        data = encodeFields opcode (file :: rest) ∧
        Request.ofFields opcode (file :: rest) = .ok request := by
  constructor
  · intro h
    obtain ⟨opcode, names, hfree, hdata, h⟩ := exists_fields_of_parse h
    obtain ⟨file, rest, rfl, hfile⟩ := exists_file_of_ofFields h
    exact ⟨opcode, file, rest, hfile, hfree, hdata, h⟩
  · rintro ⟨opcode, file, rest, hfile, hfree, rfl, h⟩
    rw [parse_encodeFields ?_ (List.cons_ne_nil _ _) hfree, h]
    have hpos := Text.Utf8.length_ofText_pos hfile
    rw [encodeFields, List.flatMap_cons, List.length_append, List.length_append,
      length_encodeField, Request.minSize, Octets.ofWord16]
    simp only [List.length_cons, List.length_nil]
    omega

theorem readRequest_eq_ok_iff {file : String} {rest : List String} :
    readRequest file rest = .ok request ↔
      ∃ mode options, rest = mode :: options ∧ lowered mode ∈ modes ∧
        request = .read ⟨file, lowered mode, readOptions [] options⟩ := by
  cases rest with
  | nil => exact iff_of_false nofun (by simp)
  | cons mode options =>
    rw [readRequest]
    constructor
    · intro h
      split at h
      · next hmode =>
        cases h
        exact ⟨mode, options, rfl, hmode, rfl⟩
      · cases h
    · rintro ⟨mode, options, h, hmode, rfl⟩
      cases h
      rw [if_pos hmode]

/-! ## Options -/

namespace Options

variable {options : Options} {list : List (String × String)} {name value : String}

/-- Options as fields: each name with its value behind it, and perhaps a name that has none. -/
def toFields (list : List (String × String)) (unpaired : Option String) : List String :=
  (list.flatMap fun o => [o.1, o.2]) ++ unpaired.toList

/-- Set the option that comes next in a list; one without a name is none. -/
def take (options : Options) (o : String × String) : Options :=
  if o.1 = "" then options else options.put (lowered o.1) o.2

theorem readOptions_toFields (options : Options) (list : List (String × String))
    (unpaired : Option String) :
    readOptions options (toFields list unpaired) = list.foldl take options := by
  induction list generalizing options with
  | nil => cases unpaired <;> rfl
  | cons o list ih => exact ih (options.take o)

theorem lookup_filter_of_ne {other : String} (h : other ≠ name) (options : Options) :
    List.lookup other (options.filter (·.1 ≠ name)) = List.lookup other options := by
  induction options with
  | nil => rfl
  | cons o options ih =>
    obtain ⟨first, value⟩ := o
    rw [List.lookup_cons]
    by_cases hfirst : first = name
    · rw [List.filter_cons_of_neg (by simp [hfirst]), ih, beq_eq_false_iff_ne.2 (hfirst ▸ h)]
    · rw [List.filter_cons_of_pos (by simp [hfirst]), List.lookup_cons, ih]

/-- An option has the value that was set last for it. -/
theorem get?_put (options : Options) (name value other : String) :
    (options.put name value).get? other =
      if other = name then some value else options.get? other := by
  rw [put, get?, get?, List.lookup_append, List.lookup_cons, List.lookup_nil]
  by_cases h : other = name
  · have hgone : List.lookup other (options.filter (·.1 ≠ name)) = none := by
      rw [List.lookup_eq_none_iff]
      intro o ho
      have hne : o.1 ≠ name := by simpa using (List.mem_filter.1 ho).2
      rw [h]
      exact bne_iff_ne.2 hne.symm
    rw [hgone, if_pos h, beq_iff_eq.2 h, Option.none_or]
  · rw [lookup_filter_of_ne h, if_neg h, beq_eq_false_iff_ne.2 h, Option.or_none]

/-- The value listed last under a name, in whatever case the name is written there. -/
def lastValue? (list : List (String × String)) (name : String) : Option String :=
  ((list.filter fun o => o.1 ≠ "" && lowered o.1 = name).getLast?).map (·.2)

theorem get?_take (options : Options) (o : String × String) (name : String) :
    (options.take o).get? name =
      if o.1 ≠ "" ∧ lowered o.1 = name then some o.2 else options.get? name := by
  unfold take
  by_cases h : o.1 = ""
  · rw [if_pos h, if_neg fun hne => hne.1 h]
  · rw [if_neg h, get?_put]
    simp [h, eq_comm]

theorem get?_foldl_take (options : Options) (list : List (String × String)) (name : String) :
    (list.foldl take options).get? name = (lastValue? list name).or (options.get? name) := by
  induction list generalizing options with
  | nil => rfl
  | cons o list ih =>
    rw [List.foldl_cons, ih, get?_take, lastValue?, lastValue?]
    by_cases h : o.1 ≠ "" ∧ lowered o.1 = name
    · rw [if_pos h, List.filter_cons_of_pos (by simpa using h), List.getLast?_cons]
      cases (list.filter fun o => o.1 ≠ "" && lowered o.1 = name).getLast? <;> rfl
    · rw [if_neg h, List.filter_cons_of_neg (by simpa using h)]

theorem nodup_take {o : String × String} (h : (options.map (·.1)).Nodup) :
    ((options.take o).map (·.1)).Nodup := by
  unfold take
  split
  · exact h
  · rw [put, List.map_append, List.nodup_append]
    refine ⟨h.sublist (List.filter_sublist.map _), List.pairwise_singleton _ _, ?_⟩
    intro first hfirst other hother
    obtain ⟨p, hp, rfl⟩ := List.mem_map.1 hfirst
    obtain rfl := List.mem_singleton.1 hother
    simpa using (List.mem_filter.1 hp).2

theorem nodup_foldl_take (h : (options.map (·.1)).Nodup) (list : List (String × String)) :
    ((list.foldl take options).map (·.1)).Nodup := by
  induction list generalizing options with
  | nil => exact h
  | cons o list ih => exact ih (nodup_take h)

end Options

/-! ## Texts of errors -/

theorem nulFree_append {s t : String} : NulFree (s ++ t) ↔ NulFree s ∧ NulFree t := by
  rw [NulFree, String.toList_append, List.mem_append, not_or]
  rfl

theorem nulFree_ofList {l : List Char} (h : l.all (· ≠ '\x00') = true) :
    NulFree (String.ofList l) := by
  rw [NulFree, String.toList_ofList]
  intro hmem
  simpa using List.all_eq_true.1 h _ hmem

theorem nulFree_decimal (n : Nat) : NulFree (Text.Decimal.text n) := fun h =>
  absurd (Text.Decimal.isDigit_of_mem_text h) (by decide)

theorem toLower_eq_nul {c : Char} (h : c.toLower = '\x00') : c = '\x00' := by
  unfold Char.toLower at h
  split at h
  · next hupper =>
    -- a capital letter has a small one, which is no NUL
    have hval := congrArg (fun d : Char => d.val.toNat) h
    have hle : c.val.toNat ≤ 90 := UInt32.le_iff_toNat_le.1 hupper.2
    simp only [UInt32.toNat_add, Char.reduceVal, UInt32.reduceToNat, UInt32.reduceSub] at hval
    omega
  · exact h

theorem nulFree_lowered {s : String} (h : NulFree s) : NulFree (lowered s) := by
  rw [NulFree, lowered, String.toList_ofList]
  intro hmem
  obtain ⟨c, hc, hlower⟩ := List.mem_map.1 hmem
  exact h (toLower_eq_nul hlower ▸ hc)

/-- What a message quotes of the request. -/
def RequestError.quoted : RequestError → String
  | .unsupportedMode mode => mode
  | _ => ""

theorem RequestError.nulFree_message {e : RequestError} (h : NulFree e.quoted) :
    NulFree e.message := by
  cases e with
  | tooShort size =>
    exact nulFree_append.2 ⟨nulFree_append.2 ⟨nulFree_ofList rfl, nulFree_decimal size⟩,
      nulFree_ofList rfl⟩
  | unterminated => exact nulFree_ofList rfl
  | malformedField => exact nulFree_ofList rfl
  | emptyName => exact nulFree_ofList rfl
  | missingMode => exact nulFree_ofList rfl
  | unsupportedMode mode =>
    exact nulFree_append.2 ⟨nulFree_append.2 ⟨nulFree_ofList rfl, h⟩, nulFree_ofList rfl⟩
  | unexpectedOpcode opcode =>
    exact nulFree_append.2 ⟨nulFree_ofList rfl, nulFree_decimal _⟩

theorem quoted_of_fields {body : Octets} {e : RequestError} (h : fields body = .error e) :
    e.quoted = "" := by
  rw [fields_eq] at h
  split at h
  · obtain ⟨field, -, hfield⟩ := exists_of_mapM_eq_error h
    unfold readField at hfield
    split at hfield
    · cases hfield
    · cases hfield
      rfl
  · cases h
    rfl

theorem nulFree_quoted_of_ofFields {e : RequestError} (hfree : ∀ s ∈ names, NulFree s)
    (h : Request.ofFields opcode names = .error e) : NulFree e.quoted := by
  unfold Request.ofFields at h
  split at h
  · cases h
    exact nulFree_ofList rfl
  · cases h
    exact nulFree_ofList rfl
  · next file rest _ =>
    split at h
    · cases rest with
      | nil =>
        cases h
        exact nulFree_ofList rfl
      | cons mode options =>
        rw [readRequest] at h
        split at h
        · cases h
        · cases h
          exact nulFree_lowered (hfree mode (by simp))
    · split at h
      · cases h
      · cases h
        exact nulFree_ofList rfl

/-- What a message quotes of a request is of one of its fields. -/
theorem nulFree_quoted {e : RequestError} (h : Request.parse data = .error e) :
    NulFree e.quoted := by
  unfold Request.parse at h
  split at h
  · next a b body =>
    split at h
    · cases h
      exact nulFree_ofList rfl
    · cases hfields : fields body with
      | error e' =>
        rw [hfields] at h
        cases h
        rw [quoted_of_fields hfields]
        exact nulFree_ofList rfl
      | ok names =>
        rw [hfields] at h
        exact nulFree_quoted_of_ofFields (fields_eq_ok_iff.1 hfields).2.1 h
  · cases h
    exact nulFree_ofList rfl

/-- Every packet that answers a request at once is an error, and its text can be read to its end. -/
theorem Settings.error_of_answer {s : Settings} {packet : Packet}
    (h : s.answer data = .refused packet ∨ s.answer data = .unavailable packet) :
    ∃ code message, packet = .error code message ∧ NulFree message := by
  unfold answer at h
  cases hparse : Request.parse (data.take maxRequest) with
  | error e =>
    simp only [hparse, Answer.refused.injEq, reduceCtorEq, or_false] at h
    exact ⟨_, _, h.symm, RequestError.nulFree_message (nulFree_quoted hparse)⟩
  | ok request =>
    cases request with
    | write file =>
      simp only [hparse, Answer.refused.injEq, reduceCtorEq, or_false] at h
      exact ⟨_, _, h.symm, nulFree_ofList rfl⟩
    | read r =>
      simp only [hparse, answerRead] at h
      split at h
      · simp at h
      · simp only [Answer.unavailable.injEq, reduceCtorEq, false_or] at h
        exact ⟨_, _, h.symm, nulFree_ofList rfl⟩
      · simp only [Answer.unavailable.injEq, reduceCtorEq, false_or] at h
        exact ⟨_, _, h.symm, nulFree_ofList rfl⟩

/-- Of an error a reader gets back the code and the text. -/
theorem parse_error {message : String} (h : NulFree message) (code : UInt16) :
    Reply.parse (Packet.error code message).encode = .error code message := by
  have htext : Octets.untilNul (encodeField message) = Octets.ofText message := by
    have hfree : ∀ o ∈ Octets.ofText message, (o != 0) = true := by
      intro o ho
      exact bne_iff_ne.2 fun hzero => nulFree_iff.1 h (hzero ▸ ho)
    rw [encodeField, Octets.untilNul, List.takeWhile_append_of_pos hfree]
    exact List.append_nil _
  have hopcode : Opcode.error ≠ Opcode.ack := by decide
  rw [Packet.encode, Octets.ofWord16, Octets.ofWord16]
  simp only [List.cons_append, List.nil_append]
  rw [Reply.parse, Octets.word16_ofWord16, Octets.word16_ofWord16, if_neg hopcode, if_pos rfl,
    htext, Text.Utf8.decodeLossy_ofText]

/-! ## Reading and writing -/

/-- A read request as it is written: the file, the mode, and options, of which the last may lack a
value. -/
def encodeRead (file mode : String) (options : List (String × String)) (unpaired : Option String) :
    Octets :=
  encodeFields Opcode.read (file :: mode :: Options.toFields options unpaired)

/-- What a read request was written from. Of the options it has the lower-case names, each once, with
the value that was listed last for it. -/
structure ReadRequest.Conveys (r : ReadRequest) (file mode : String)
    (options : List (String × String)) : Prop where
  file : r.file = file
  mode : r.mode = lowered mode
  names_nodup : (r.options.map (·.1)).Nodup
  options : ∀ name, r.options.get? name = Options.lastValue? options name

theorem ofFields_read_iff {file : String} (hfile : file ≠ "") {rest : List String}
    {r : ReadRequest} :
    Request.ofFields opcode (file :: rest) = .ok (.read r) ↔
      opcode = Opcode.read ∧ ∃ mode options, rest = mode :: options ∧ lowered mode ∈ modes ∧
        r = ⟨file, lowered mode, readOptions [] options⟩ := by
  rw [ofFields_cons hfile]
  by_cases hread : opcode = Opcode.read
  · rw [if_pos hread, readRequest_eq_ok_iff]
    simp [hread]
  · rw [if_neg hread]
    refine iff_of_false (fun h => ?_) fun h => hread h.1
    split at h <;> cases h

theorem ofFields_write_iff {file other : String} (hfile : file ≠ "") {rest : List String} :
    Request.ofFields opcode (file :: rest) = .ok (.write other) ↔
      opcode = Opcode.write ∧ file = other := by
  rw [ofFields_cons hfile]
  by_cases hread : opcode = Opcode.read
  · have hother : Opcode.read ≠ Opcode.write := by decide
    rw [if_pos hread, readRequest_eq_ok_iff, hread]
    simp [hother]
  · rw [if_neg hread]
    by_cases hwrite : opcode = Opcode.write
    · rw [if_pos hwrite]
      simp [hwrite]
    · rw [if_neg hwrite]
      exact iff_of_false nofun fun h => hwrite h.1

theorem parse_read_iff {r : ReadRequest} :
    Request.parse data = .ok (.read r) ↔
      ∃ file mode options, file ≠ "" ∧ lowered mode ∈ modes ∧
        (∀ s ∈ file :: mode :: options, NulFree s) ∧
        data = encodeFields Opcode.read (file :: mode :: options) ∧
        r = ⟨file, lowered mode, readOptions [] options⟩ := by
  rw [parse_eq_ok_iff]
  constructor
  · rintro ⟨opcode, file, rest, hfile, hfree, rfl, h⟩
    obtain ⟨rfl, mode, options, rfl, hmode, rfl⟩ := (ofFields_read_iff hfile).1 h
    exact ⟨file, mode, options, hfile, hmode, hfree, rfl, rfl⟩
  · rintro ⟨file, mode, options, hfile, hmode, hfree, rfl, rfl⟩
    exact ⟨_, file, mode :: options, hfile, hfree, rfl,
      (ofFields_read_iff hfile).2 ⟨rfl, mode, options, rfl, hmode, rfl⟩⟩

theorem parse_write_iff {file : String} :
    Request.parse data = .ok (.write file) ↔
      file ≠ "" ∧ ∃ rest, (∀ s ∈ file :: rest, NulFree s) ∧
        data = encodeFields Opcode.write (file :: rest) := by
  rw [parse_eq_ok_iff]
  constructor
  · rintro ⟨opcode, other, rest, hother, hfree, rfl, h⟩
    obtain ⟨rfl, rfl⟩ := (ofFields_write_iff hother).1 h
    exact ⟨hother, rest, hfree, rfl⟩
  · rintro ⟨hfile, rest, hfree, rfl⟩
    exact ⟨_, file, rest, hfile, hfree, rfl, (ofFields_write_iff hfile).2 ⟨rfl, rfl⟩⟩

theorem parse_encodeRead {file mode : String} {options : List (String × String)}
    {unpaired : Option String} (hfile : file ≠ "") (hmode : lowered mode ∈ modes)
    (hfree : ∀ s ∈ file :: mode :: Options.toFields options unpaired, NulFree s) :
    ∃ r, Request.parse (encodeRead file mode options unpaired) = .ok (.read r) ∧
      r.Conveys file mode options := by
  refine ⟨_, parse_read_iff.2 ⟨file, mode, _, hfile, hmode, hfree, rfl, rfl⟩, rfl, rfl, ?_, ?_⟩
  · have hempty : (([] : Options).map (·.1)).Nodup := List.Pairwise.nil
    rw [Options.readOptions_toFields]
    exact Options.nodup_foldl_take hempty options
  · intro name
    rw [Options.readOptions_toFields, Options.get?_foldl_take]
    exact Option.or_none

/-- A datagram is read as a read request exactly if it is that opcode with fields behind it, each a
text and ended by a NUL, of which the first is not empty and the second names a mode in whatever
case; and what was written with a file, a mode and options is read as these, whether or not a field
without a partner stands at the end. A write request needs no more than a file. Of an error a client
reads the code and the text, and so of every error that the server sends for a request. -/
theorem request_grammar :
    (∀ data, (∃ r, Request.parse data = .ok (.read r)) ↔
      ∃ file mode rest, file ≠ "" ∧ lowered mode ∈ ["octet", "netascii"] ∧
        (∀ s ∈ file :: mode :: rest, NulFree s) ∧
        data = encodeFields Opcode.read (file :: mode :: rest)) ∧
    (∀ file mode options unpaired, file ≠ "" → lowered mode ∈ ["octet", "netascii"] →
      (∀ s ∈ file :: mode :: Options.toFields options unpaired, NulFree s) →
      ∃ r, Request.parse (encodeRead file mode options unpaired) = .ok (.read r) ∧
        r.Conveys file mode options) ∧
    (∀ data file, Request.parse data = .ok (.write file) ↔
      file ≠ "" ∧ ∃ rest, (∀ s ∈ file :: rest, NulFree s) ∧
        data = encodeFields Opcode.write (file :: rest)) ∧
    (∀ code text, NulFree text →
      Reply.parse (Packet.error code text).encode = .error code text) ∧
    ∀ (s : Settings) data packet,
      s.answer data = .refused packet ∨ s.answer data = .unavailable packet →
      ∃ code text, packet = .error code text ∧ NulFree text ∧
        Reply.parse packet.encode = .error code text := by
  refine ⟨fun data => ?_, fun _ _ _ _ => parse_encodeRead, fun _ _ => parse_write_iff,
    fun code _ htext => parse_error htext code, ?_⟩
  · constructor
    · rintro ⟨r, h⟩
      obtain ⟨file, mode, rest, hfile, hmode, hfree, hdata, -⟩ := parse_read_iff.1 h
      exact ⟨file, mode, rest, hfile, hmode, hfree, hdata⟩
    · rintro ⟨file, mode, rest, hfile, hmode, hfree, hdata⟩
      exact ⟨_, parse_read_iff.2 ⟨file, mode, rest, hfile, hmode, hfree, hdata, rfl⟩⟩
  · intro s data packet h
    obtain ⟨code, text, rfl, htext⟩ := s.error_of_answer h
    exact ⟨code, text, rfl, htext, parse_error htext code⟩

end BootServer.Tftp
