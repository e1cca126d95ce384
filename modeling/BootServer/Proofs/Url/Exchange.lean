import BootServer.BootUrl
import BootServer.Proofs.Except
import BootServer.Proofs.Text.Fields
import BootServer.Proofs.Url.AddressHost
import BootServer.Proofs.Url.Path

/-! URLs whose texts differ in an address. Where the address follows a scheme and two slashes it is
the host, and the URLs are one but for the host. Where more than a scheme stands before the slashes
the address is behind the authority, and the URLs have scheme, userinfo and port in common. -/
namespace BootServer

open Text

namespace Url

variable {scheme : String} {followed followed' : Bool} {ip x y : Ipv4} {port l : List Char}

/-! ## Behind two slashes -/

theorem takeWhile_slash (special : Bool) (l rest : List Char) :
    (l ++ '/' :: rest).takeWhile (!isSlash special ·) = l.takeWhile (!isSlash special ·) :=
  takeWhile_append_cons rfl l rest

theorem dropWhile_slash (special : Bool) (l rest : List Char) :
    (l ++ '/' :: rest).dropWhile (!isSlash special ·) =
      l.dropWhile (!isSlash special ·) ++ '/' :: rest :=
  dropWhile_append_cons rfl l rest

/-- An authority, which the next slash ends, and a path: what follows two slashes outside `file`. -/
def behindSlashes (special : Bool) (scheme : String) (followed : Bool) (l : List Char) :
    Except Error Hierarchy :=
  let path := l.dropWhile (!isSlash special ·)
  (readAuthority scheme (followed || !path.isEmpty) (l.takeWhile (!isSlash special ·))).map
    (·.withPath special path)

theorem specialHierarchy_eq (scheme : String) (followed : Bool) (l : List Char) :
    specialHierarchy scheme followed l =
      behindSlashes true scheme followed (l.dropWhile (isSlash true)) := by
  unfold specialHierarchy behindSlashes
  dsimp only
  cases readAuthority scheme _ _ <;> rfl

theorem plainHierarchy_eq (scheme : String) (followed : Bool) (l : List Char) :
    plainHierarchy scheme followed ('/' :: '/' :: l) = behindSlashes false scheme followed l := by
  have hslash : (fun c => !isSlash false c) = fun c : Char => decide (c ≠ '/') := by
    funext c
    simp [isSlash]
  rw [behindSlashes, hslash]
  simp only [plainHierarchy]
  cases readAuthority scheme _ _ <;> rfl

/-! ## The address as the host -/

/-- Hierarchies that have hosts, and are one but for them. -/
structure Hierarchy.EqButHost (h h' : Hierarchy) : Prop where
  isSome : h.host.isSome = true ∧ h'.host.isSome = true
  eq : { h with host := none } = { h' with host := none }

theorem takeWhile_authority (special : Bool) (ip : Ipv4) (hport : IsPort port)
    (path : List Char) :
    (ip.text.toList ++ (port ++ '/' :: path)).takeWhile (!isSlash special ·) =
        ip.text.toList ++ port ∧
      (ip.text.toList ++ (port ++ '/' :: path)).dropWhile (!isSlash special ·) = '/' :: path := by
  have hall : ∀ c ∈ ip.text.toList ++ port, (!isSlash special c) = true := by
    intro c hc
    simp [(inert_of_mem (authority_subset ip hport hc)).slash]
  rw [← List.append_assoc, List.takeWhile_append_of_pos hall, List.dropWhile_append_of_pos hall]
  exact ⟨List.append_nil _, rfl⟩

theorem alike_behindSlashes (special : Bool) (hport : IsPort port) (path : List Char) (x y : Ipv4) :
    Alike Hierarchy.EqButHost
      (behindSlashes special scheme followed (x.text.toList ++ (port ++ '/' :: path)))
      (behindSlashes special scheme followed (y.text.toList ++ (port ++ '/' :: path))) := by
  have heq (ip : Ipv4) :
      behindSlashes special scheme followed (ip.text.toList ++ (port ++ '/' :: path)) =
        (readPort scheme port).map fun read =>
          (⟨⟨"", ""⟩, addressHost scheme ip, read.1, read.2⟩ : Authority).withPath special
            ('/' :: path) := by
    obtain ⟨htake, hpath⟩ := takeWhile_authority special ip hport path
    rw [behindSlashes, htake, hpath, readAuthority_text hport]
    cases readPort scheme port <;> rfl
  rw [heq, heq]
  exact (alike_self (R := Eq) (fun _ => rfl) _).map fun read _ he => he ▸ ⟨⟨rfl, rfl⟩, rfl⟩

theorem dropWhile_slashes (rest : List Char) :
    ('/' :: '/' :: (ip.text.toList ++ rest)).dropWhile (isSlash true) = ip.text.toList ++ rest := by
  obtain ⟨c, tail, hcons⟩ :=
    List.exists_cons_of_ne_nil (mt String.toList_eq_nil_iff.1 ip.text_ne_empty)
  have hc := (inert_of_mem (Host.text_subset ip (hcons ▸ List.mem_cons_self))).slash true
  rw [List.dropWhile_cons_of_pos rfl, List.dropWhile_cons_of_pos rfl, hcons, List.cons_append,
    List.dropWhile_cons_of_neg (by simp [hc])]

/-- An address is no drive. -/
theorem isDriveLetter_authority (hport : IsPort port) :
    Path.isDriveLetter (ip.text.toList ++ port) = false := by
  rw [← Bool.not_eq_true]
  intro h
  obtain ⟨c, d, hcons, hc⟩ := Path.isDriveLetter_eq_cons h
  have hmem : c ∈ ip.text.toList ++ port := hcons ▸ List.mem_cons_self
  rw [(inert_of_mem (authority_subset ip hport hmem)).letter] at hc
  cases hc

/-- With a port no address is the host of a `file` URL. -/
theorem alike_fileHierarchy (hport : IsPort port) (path : List Char) (x y : Ipv4) :
    Alike Hierarchy.EqButHost
      (fileHierarchy ('/' :: '/' :: (x.text.toList ++ (port ++ '/' :: path))))
      (fileHierarchy ('/' :: '/' :: (y.text.toList ++ (port ++ '/' :: path)))) := by
  have heq (ip : Ipv4) : fileHierarchy ('/' :: '/' :: (ip.text.toList ++ (port ++ '/' :: path))) =
      (Host.parseSpecial (ip.text.toList ++ port)).map fun host =>
        if host = .domain "localhost" then localFile ('/' :: path) else remoteFile host path := by
    obtain ⟨htake, hpath⟩ := takeWhile_authority true ip hport path
    have hne : (ip.text.toList ++ port).isEmpty = false := by simp [ip.text_ne_empty]
    have hslash : isSlash true '/' = true := rfl
    rw [fileHierarchy]
    simp only [htake, hpath, hslash, hne, isDriveLetter_authority hport, Bool.and_self,
      Bool.or_self, if_true, Bool.false_eq_true, if_false]
    cases Host.parseSpecial _ <;> rfl
  rw [heq, heq]
  cases hport with
  | none =>
    rw [List.append_nil, List.append_nil, Host.parseSpecial_text, Host.parseSpecial_text]
    exact .ok ⟨⟨rfl, rfl⟩, rfl⟩
  | some h =>
    have hcolon (ip : Ipv4) := Host.parseSpecial_of_colon (authority_subset ip (.some h))
      (List.mem_append_right _ List.mem_cons_self)
    rw [hcolon, hcolon]
    exact .error

theorem alike_readHierarchy (hport : IsPort port) (path : List Char) (x y : Ipv4) :
    Alike Hierarchy.EqButHost
      (readHierarchy scheme followed ('/' :: '/' :: (x.text.toList ++ (port ++ '/' :: path))))
      (readHierarchy scheme followed ('/' :: '/' :: (y.text.toList ++ (port ++ '/' :: path)))) := by
  unfold readHierarchy
  split
  · exact alike_fileHierarchy hport path x y
  · split
    · rw [specialHierarchy_eq, specialHierarchy_eq, dropWhile_slashes, dropWhile_slashes]
      exact alike_behindSlashes true hport path x y
    · rw [plainHierarchy_eq, plainHierarchy_eq]
      exact alike_behindSlashes false hport path x y

/-! ## The address behind the authority -/

/-- Hierarchies with one userinfo and one port. -/
def Hierarchy.EqAuthority (h h' : Hierarchy) : Prop :=
  h.userinfo = h'.userinfo ∧ h.port = h'.port

/-- Nothing behind a slash belongs to the authority in front of it. -/
theorem alike_behindSlashes_of_slash (special : Bool) (front z z' : List Char) :
    Alike Hierarchy.EqAuthority
      (behindSlashes special scheme followed (front ++ '/' :: z))
      (behindSlashes special scheme followed' (front ++ '/' :: z')) := by
  have hsome (z : List Char) :
      (front.dropWhile (!isSlash special ·) ++ '/' :: z).isEmpty = false := by simp
  simp only [behindSlashes, takeWhile_slash, dropWhile_slash, hsome, Bool.not_false, Bool.or_true]
  cases readAuthority scheme true (front.takeWhile (!isSlash special ·)) with
  | error e => exact .error
  | ok a => exact .ok ⟨rfl, rfl⟩

theorem alike_specialHierarchy_of_colon (front z z' : List Char) :
    Alike Hierarchy.EqAuthority
      (specialHierarchy scheme followed (front ++ ':' :: '/' :: z))
      (specialHierarchy scheme followed' (front ++ ':' :: '/' :: z')) := by
  have hdrop (z : List Char) : (front ++ ':' :: '/' :: z).dropWhile (isSlash true) =
      (front.dropWhile (isSlash true) ++ [':']) ++ '/' :: z := by
    rw [dropWhile_append_cons rfl, List.append_assoc, List.singleton_append]
  rw [specialHierarchy_eq, specialHierarchy_eq, hdrop, hdrop]
  exact alike_behindSlashes_of_slash true _ z z'

theorem plainHierarchy_of_ne {c : Char} (h : c ≠ '/') (l : List Char) :
    plainHierarchy scheme followed (c :: l) =
      .ok { path := .text (encoded (fun _ => false) (c :: l)) } := by
  simp [plainHierarchy, h]

theorem plainHierarchy_of_single {c : Char} (h : c ≠ '/') (l : List Char) :
    plainHierarchy scheme followed ('/' :: c :: l) =
      .ok { path := .ofPieces (pieces false (c :: l)) } := by
  simp [plainHierarchy, h]

theorem alike_plainHierarchy_of_colon (front z z' : List Char) :
    Alike Hierarchy.EqAuthority
      (plainHierarchy scheme followed (front ++ ':' :: '/' :: z))
      (plainHierarchy scheme followed' (front ++ ':' :: '/' :: z')) := by
  have hassoc (r z : List Char) : r ++ ':' :: '/' :: z = (r ++ [':']) ++ '/' :: z := by simp
  -- an authority follows two slashes, so the first two characters decide
  cases front with
  | nil => exact .ok ⟨rfl, rfl⟩
  | cons c r =>
    by_cases hc : c = '/'
    · subst hc
      cases r with
      | nil => exact .ok ⟨rfl, rfl⟩
      | cons d r =>
        by_cases hd : d = '/'
        · subst hd
          simp only [List.cons_append, plainHierarchy_eq, hassoc]
          exact alike_behindSlashes_of_slash false _ z z'
        · simp only [List.cons_append, plainHierarchy_of_single hd]
          exact .ok ⟨rfl, rfl⟩
    · simp only [List.cons_append, plainHierarchy_of_ne hc]
      exact .ok ⟨rfl, rfl⟩

theorem alike_fileHierarchy_of_colon (front z z' : List Char) :
    Alike Hierarchy.EqAuthority
      (fileHierarchy (front ++ ':' :: '/' :: z)) (fileHierarchy (front ++ ':' :: '/' :: z')) := by
  have hassoc (r z : List Char) : r ++ ':' :: '/' :: z = (r ++ [':']) ++ '/' :: z := by simp
  match front with
  | [] => exact .ok ⟨rfl, rfl⟩
  | [a] =>
    have hcolon : isSlash true ':' = false := rfl
    simp only [List.cons_append, List.nil_append, fileHierarchy, hcolon, Bool.and_false]
    exact .ok ⟨rfl, rfl⟩
  | a :: b :: r =>
    simp only [List.cons_append, fileHierarchy, hassoc, takeWhile_slash, dropWhile_slash]
    split
    · split
      · exact .ok ⟨rfl, rfl⟩
      · refine (alike_self (R := Eq) (fun _ => rfl) _).bind fun host _ he => ?_
        subst he
        refine .ok ?_
        split <;> exact ⟨rfl, rfl⟩
    · exact .ok ⟨rfl, rfl⟩

/-- Nothing behind a slash that follows a colon belongs to an authority. -/
theorem alike_readHierarchy_of_colon (front z z' : List Char) :
    Alike Hierarchy.EqAuthority
      (readHierarchy scheme followed (front ++ ':' :: '/' :: z))
      (readHierarchy scheme followed' (front ++ ':' :: '/' :: z')) := by
  unfold readHierarchy
  split
  · exact alike_fileHierarchy_of_colon front z z'
  · split
    · exact alike_specialHierarchy_of_colon front z z'
    · exact alike_plainHierarchy_of_colon front z z'

/-! ## Behind the scheme -/

/-- A URL but for its host. -/
def butHost (u : Url) : Url := { u with host := none }

/-- A URL but for its host and all that stands behind its authority. -/
def butPlace (u : Url) : Url :=
  { u with host := none, apart := false, path := .segments [], query := none, fragment := none }

/-- What stands behind the scheme of a URL, read as the URL. -/
def readRest (scheme : String) (l : List Char) : Except Error Url :=
  let hash := cutMark '#' l
  let mark := cutMark '?' hash.1
  (readHierarchy scheme (hash.2.isSome || mark.2.isSome) mark.1).map fun h => {
    scheme := scheme
    username := h.userinfo.username
    password := h.userinfo.password
    host := h.host
    port := h.port
    apart := h.host.isNone && Text.startsWith "//" h.path.toText
    path := h.path
    query := mark.2.map (encoded (isReservedInQuery (isSpecial scheme)))
    fragment := hash.2.map (encoded isReservedInFragment) }

theorem parse_eq (s : String) : parse s =
    match scheme? (stripped s) with
    | some (scheme, l) => readRest scheme l
    | none => .error .relativeWithoutBase := by
  unfold parse readRest
  cases scheme? (stripped s) with
  | none => rfl
  | some found =>
    dsimp only
    cases readHierarchy _ _ _ <;> rfl

theorem cutMark_append {mark : Char} (h : mark ∉ l) (rest : List Char) :
    cutMark mark (l ++ rest) = (l ++ (cutMark mark rest).1, (cutMark mark rest).2) := by
  rw [cutMark, cutFirst_append h, cutMark]
  cases cutFirst mark rest <;> rfl

theorem cutMark_append_of_mem {mark : Char} (h : mark ∈ l) : ∃ before, ∀ rest, ∃ behind,
    cutMark mark (l ++ rest) = (before, some behind) := by
  obtain ⟨before, behind, hcut⟩ := cutFirst_append_of_mem h
  exact ⟨before, fun rest => ⟨behind ++ rest, by rw [cutMark, hcut]⟩⟩

theorem alike_readRest (hport : IsPort port) (path : List Char) (x y : Ipv4) :
    Alike (fun u v => u.butHost = v.butHost)
      (readRest scheme ('/' :: '/' :: (x.text.toList ++ (port ++ '/' :: path))))
      (readRest scheme ('/' :: '/' :: (y.text.toList ++ (port ++ '/' :: path)))) := by
  have hcut (ip : Ipv4) {mark : Char} (hmark : mark = '#' ∨ mark = '?') (path : List Char) :
      cutMark mark ('/' :: '/' :: (ip.text.toList ++ (port ++ '/' :: path))) =
        ('/' :: '/' :: (ip.text.toList ++ (port ++ '/' :: (cutMark mark path).1)),
          (cutMark mark path).2) := by
    have hslash : mark ∉ ['/', '/'] ∧ mark ∉ ['/'] := by rcases hmark with rfl | rfl <;> decide
    have haddress : mark ∉ ip.text.toList ++ port := by
      intro h
      have hinert := inert_of_mem (authority_subset ip hport h)
      rcases hmark with rfl | rfl
      · exact hinert.fragmentMark rfl
      · exact hinert.queryMark rfl
    have hfront : mark ∉ ['/', '/'] ++ (ip.text.toList ++ port) ++ ['/'] := by
      rw [List.mem_append, List.mem_append, not_or, not_or]
      exact ⟨⟨hslash.1, haddress⟩, hslash.2⟩
    simpa using cutMark_append hfront path
  simp only [readRest, hcut _ (.inl rfl), hcut _ (.inr rfl)]
  refine (alike_readHierarchy hport _ x y).map fun h h' he => ?_
  have hnone : h.host.isNone = false ∧ h'.host.isNone = false := by
    simpa [Option.isSome_iff_ne_none, Option.isNone_eq_false_iff] using he.isSome
  obtain ⟨huserinfo, hport, hpath⟩ :
      h.userinfo = h'.userinfo ∧ h.port = h'.port ∧ h.path = h'.path := by
    simpa using he.eq
  simp only [butHost, huserinfo, hport, hpath, hnone]

theorem alike_readRest_of_colon (front z z' : List Char) :
    Alike (fun u v => u.butPlace = v.butPlace)
      (readRest scheme (front ++ ':' :: '/' :: z))
      (readRest scheme (front ++ ':' :: '/' :: z')) := by
  have hcut {mark : Char} (hmem : mark ∉ front) (hmark : mark = '#' ∨ mark = '?')
      (z : List Char) : cutMark mark (front ++ ':' :: '/' :: z) =
        (front ++ ':' :: '/' :: (cutMark mark z).1, (cutMark mark z).2) := by
    have hfront : mark ∉ front ++ [':', '/'] := by
      rw [List.mem_append, not_or]
      refine ⟨hmem, ?_⟩
      rcases hmark with rfl | rfl <;> decide
    simpa using cutMark_append hfront z
  by_cases hhash : '#' ∈ front
  · obtain ⟨before, hbefore⟩ := cutMark_append_of_mem hhash
    obtain ⟨behind, hz⟩ := hbefore (':' :: '/' :: z)
    obtain ⟨behind', hz'⟩ := hbefore (':' :: '/' :: z')
    simp only [readRest, hz, hz', Option.isSome_some, Bool.true_or]
    exact (alike_self (R := Eq) (fun _ => rfl) _).map fun h _ he => he ▸ rfl
  · by_cases hquery : '?' ∈ front
    · obtain ⟨before, hbefore⟩ := cutMark_append_of_mem hquery
      obtain ⟨behind, hz⟩ := hbefore (':' :: '/' :: (cutMark '#' z).1)
      obtain ⟨behind', hz'⟩ := hbefore (':' :: '/' :: (cutMark '#' z').1)
      simp only [readRest, hcut hhash (.inl rfl), hz, hz', Option.isSome_some, Bool.or_true]
      exact (alike_self (R := Eq) (fun _ => rfl) _).map fun h _ he => he ▸ rfl
    · simp only [readRest, hcut hhash (.inl rfl), hcut hquery (.inr rfl)]
      refine (alike_readHierarchy_of_colon front _ _).map fun h h' he => ?_
      obtain ⟨huserinfo, hport⟩ := he
      simp only [butPlace, huserinfo, hport]

/-! ## Texts -/

theorem scheme?_append (l rest : List Char) : scheme? (l ++ ':' :: rest) =
    (scheme? (l ++ [':'])).map fun found => (found.1, found.2 ++ rest) := by
  have hcolon : isSchemeChar ':' = false := rfl
  unfold scheme?
  dsimp only
  rw [takeWhile_append_cons hcolon, takeWhile_append_cons hcolon, dropWhile_append_cons hcolon,
    dropWhile_append_cons hcolon]
  cases l.takeWhile isSchemeChar with
  | nil => rfl
  | cons first name =>
    cases l.dropWhile isSchemeChar with
    | nil =>
      simp only [List.nil_append]
      split <;> rfl
    | cons c behind =>
      by_cases hc : c = ':'
      · subst hc
        simp only [List.cons_append]
        split
        · simp
        · rfl
      · simp [hc]

/-- What follows a scheme ends as the text does. -/
theorem of_scheme?_concat {behind : List Char} (h : scheme? (l ++ [':']) = some (scheme, behind)) :
    behind = [] ∨ ∃ front, behind = front ++ [':'] := by
  have hsuffix : behind <:+ l ++ [':'] := by
    unfold scheme? at h
    dsimp only at h
    split at h
    · next first name rest _ hrest =>
      split at h
      · cases h
        exact (List.suffix_cons _ _).trans (hrest ▸ List.dropWhile_suffix _)
      · cases h
    · cases h
  rcases List.eq_nil_or_concat behind with hnil | ⟨front, c, hfront⟩
  · exact .inl hnil
  · rw [List.concat_eq_append] at hfront
    obtain ⟨before, hbefore⟩ := hsuffix
    rw [hfront, ← List.append_assoc] at hbefore
    have hc : [c] = [':'] := (List.append_inj' hbefore rfl).2
    exact .inr ⟨front, by rw [hfront, hc]⟩

theorem isTabOrBreak_of_not_blank {c : Char} (h : isControlOrSpace c = false) :
    isTabOrBreak c = false := by
  rw [← Bool.not_eq_true]
  intro hc
  simp only [isTabOrBreak, Bool.or_eq_true, decide_eq_true_eq] at hc
  rcases hc with (rfl | rfl) | rfl <;> cases h

/-- What is not blank in a text keeps its place. -/
theorem stripped_of_toList {t : String} {s mid back : List Char} {c : Char}
    (ht : t.toList = s ++ (mid ++ c :: back)) (hmid : ∀ a ∈ mid, isControlOrSpace a = false)
    (hc : isControlOrSpace c = false) :
    stripped t = (s.dropWhile isControlOrSpace).filter (!isTabOrBreak ·) ++ (mid ++
      c :: (dropEndWhile isControlOrSpace back).filter (!isTabOrBreak ·)) := by
  have hdrop : (s ++ (mid ++ c :: back)).dropWhile isControlOrSpace =
      s.dropWhile isControlOrSpace ++ mid ++ c :: back := by
    cases mid with
    | nil => rw [List.nil_append, dropWhile_append_cons hc, List.append_nil]
    | cons a mid =>
      rw [List.cons_append, dropWhile_append_cons (hmid a List.mem_cons_self), List.append_assoc]
      rfl
  have hkept : (mid ++ [c]).filter (!isTabOrBreak ·) = mid ++ [c] := by
    refine List.filter_eq_self.2 fun a ha => ?_
    have hblank : isControlOrSpace a = false := by
      rcases List.mem_append.1 ha with ha | ha
      · exact hmid a ha
      · rwa [List.mem_singleton.1 ha]
    rw [isTabOrBreak_of_not_blank hblank]
    rfl
  rw [stripped, ht, hdrop, dropEndWhile_append_cons hc, List.append_assoc,
    ← List.singleton_append (x := c), ← List.append_assoc mid, List.filter_append,
    List.filter_append, hkept]
  simp

/-! ## Whole URLs -/

/-- Is a text, read as the beginning of a URL, a scheme and nothing else? -/
def isScheme (s : String) : Bool := (scheme? (stripped (s ++ ":"))).any (·.2.isEmpty)

/-- What a text in front of `://` and an address settles: all but the host if it is a scheme. -/
def given (s : String) (u : Url) : Url := if isScheme s then u.butHost else u.butPlace

theorem stripped_colon (s : String) : ∃ l, stripped (s ++ ":") = l ++ [':'] := by
  have hcolon : (s ++ ":").toList = s.toList ++ ([] ++ ':' :: []) := by simp
  exact ⟨_, stripped_of_toList hcolon (by simp) rfl⟩

/-- The scheme in front of an address, and what stands between the two, are found without it. -/
theorem parse_address {s after : String} {path : List Char} (hport : IsPort port)
    (hafter : after.toList = port ++ '/' :: path) : ∃ path, ∀ ip : Ipv4,
    parse (s ++ "://" ++ ip.text ++ after) =
      match scheme? (stripped (s ++ ":")) with
      | some (scheme, behind) =>
        readRest scheme (behind ++ '/' :: '/' :: (ip.text.toList ++ (port ++ '/' :: path)))
      | none => .error .relativeWithoutBase := by
  have hcolon : (s ++ ":").toList = s.toList ++ ([] ++ ':' :: []) := by simp
  refine ⟨(dropEndWhile isControlOrSpace path).filter (!isTabOrBreak ·), fun ip => ?_⟩
  have htext : (s ++ "://" ++ ip.text ++ after).toList =
      s.toList ++ ((':' :: '/' :: '/' :: (ip.text.toList ++ port)) ++ '/' :: path) := by
    simp [hafter]
  have haddress : ∀ c ∈ ip.text.toList ++ port, isControlOrSpace c = false :=
    fun c hc => (inert_of_mem (authority_subset ip hport hc)).blank
  have hmid : ∀ c ∈ ':' :: '/' :: '/' :: (ip.text.toList ++ port), isControlOrSpace c = false :=
    List.forall_mem_cons.2 ⟨rfl, List.forall_mem_cons.2 ⟨rfl,
      List.forall_mem_cons.2 ⟨rfl, haddress⟩⟩⟩
  rw [parse_eq, stripped_of_toList htext hmid rfl, stripped_of_toList hcolon (by simp) rfl]
  simp only [List.cons_append, List.nil_append, List.append_assoc]
  rw [scheme?_append]
  show _ = match scheme? (_ ++ [':']) with
    | some (scheme, behind) => _
    | none => _
  cases scheme? (_ ++ [':']) <;> rfl

/-- Whether there is a URL does not depend on the address, and neither does what the text in front
of it settles. -/
theorem alike_parse {s after : String} {path : List Char} (hport : IsPort port)
    (hafter : after.toList = port ++ '/' :: path) (x y : Ipv4) :
    Alike (fun u v => u.given s = v.given s) (parse (s ++ "://" ++ x.text ++ after))
      (parse (s ++ "://" ++ y.text ++ after)) := by
  obtain ⟨path, hparse⟩ := parse_address (s := s) hport hafter
  obtain ⟨l, hl⟩ := stripped_colon s
  rw [hparse, hparse]
  cases hfound : scheme? (stripped (s ++ ":")) with
  | none => exact .error
  | some found =>
    obtain ⟨scheme, behind⟩ := found
    have hgiven : given s = if behind.isEmpty then butHost else butPlace := by
      funext u
      rw [given, isScheme, hfound, Option.any_some]
      split <;> rfl
    rw [hgiven]
    rcases of_scheme?_concat (hl ▸ hfound) with rfl | ⟨front, rfl⟩
    · exact alike_readRest hport path x y
    · have hfront : (front ++ [':']).isEmpty = false := by simp
      rw [hfront]
      simp only [List.append_assoc, List.singleton_append]
      exact alike_readRest_of_colon front _ _

end Url

/-- A URL for clients that is built around an address. -/
theorem BootUrl.alike_build (scheme : String) (port : UInt16) (path : String) (x y : Ipv4) :
    Alike (fun u v => u.given scheme = v.given scheme) (build scheme x.text port path)
      (build scheme y.text port path) := by
  have hdigit : ∀ d < 10, d.digitChar ∈ Ipv4.alphabet.dropLast := by decide
  have hdigits : (Decimal.text port.toNat).toList ⊆ Ipv4.alphabet.dropLast := by
    intro c hc
    obtain ⟨d, hd, rfl⟩ := Decimal.exists_digitChar (Decimal.isDigit_of_mem_text hc)
    exact hdigit d hd
  obtain ⟨after, place, hafter, hport, htext⟩ : ∃ (after : String) (place : List Char),
      after.toList = place ++ '/' :: (trimStartWhile (· = '/') path).toList ∧ Url.IsPort place ∧
      ∀ ip : Ipv4, scheme ++ "://" ++ authority scheme ip.text port ++ "/" ++
        trimStartWhile (· = '/') path = scheme ++ "://" ++ ip.text ++ after := by
    by_cases h : defaultPort scheme = some port
    · refine ⟨"/" ++ trimStartWhile (· = '/') path, [], by simp, .none, fun ip => ?_⟩
      rw [authority, if_pos h, String.append_assoc]
    · refine ⟨":" ++ Decimal.text port.toNat ++ "/" ++ trimStartWhile (· = '/') path,
        ':' :: (Decimal.text port.toNat).toList, by simp, .some hdigits, fun ip => ?_⟩
      rw [authority, if_neg h]
      simp only [String.append_assoc]
  rw [build, build, htext, htext]
  exact Url.alike_parse hport hafter x y

end BootServer
