import BootServer.Config.Resolve
import BootServer.Proofs.Http.Forwarded
import BootServer.Proofs.Net.Network

/-! Whose request it is, by the configured list of proxies. The list is refused for its first entry that
is neither an address nor a block of them. An accepted list names addresses, and a request is that of
the last hop that is not named, as long as all the way from there is. -/
namespace BootServer

/-- The addresses that a list of proxies names. -/
def Network.Named (raw : String) (ip : IpAddress) : Prop :=
  ∃ text ∈ entries raw, ∃ e : Entry, e.Spelled text ∧ e.Matches ip

/-- The first entry of a list that stands for nothing. -/
def Network.FirstFault (raw text : String) : Prop :=
  ∃ front back, entries raw = front ++ text :: back ∧ (∀ t ∈ front, ∃ e : Entry, e.Spelled t) ∧
    ¬ ∃ e : Entry, e.Spelled text

theorem Config.Options.proxies_eq_error_iff {o : Options} {e : ConfigError} :
    o.proxies = .error e ↔
      ∃ text, Network.FirstFault o.trustedProxies text ∧ e = .trustedProxy text := by
  have hfault : ∀ text, Network.parseList o.trustedProxies = .error text ↔
      Network.FirstFault o.trustedProxies text := fun _ => Network.parseList_eq_error_iff
  rw [proxies, mapError_eq_error_iff]
  simp only [hfault, eq_comm]

theorem Config.Options.parseList_of_proxies {o : Options} {trusted : List Network}
    (h : o.proxies = .ok trusted) : Network.parseList o.trustedProxies = .ok trusted :=
  mapError_eq_ok_iff.1 h

namespace Http

/-- Whose request it is that came from a peer by these hops, the nearest of them last. -/
inductive Attributed (Trusted : IpAddress → Prop) (peer : IpAddress) (hops : List IpAddress) :
    IpAddress → Prop
  /-- A peer that is not trusted speaks for itself alone. -/
  | direct (hpeer : ¬ Trusted peer) : Attributed Trusted peer hops peer
  | forwarded {front rest : List IpAddress} {hop : IpAddress} (hpeer : Trusted peer)
    (hhops : hops = front ++ hop :: rest) (hhop : ¬ Trusted hop) (hrest : ∀ ip ∈ rest, Trusted ip) :
    Attributed Trusted peer hops hop
  /-- All hops are trusted, so it is the farthest one. -/
  | farthest {first : IpAddress} {rest : List IpAddress} (hpeer : Trusted peer)
    (hhops : hops = first :: rest) (hall : ∀ ip ∈ hops, Trusted ip) :
    Attributed Trusted peer hops first
  | unforwarded (hpeer : Trusted peer) (hhops : hops = []) : Attributed Trusted peer hops peer

variable {trusted : List Network} {peer ip : IpAddress} {headers : Headers}

/-- Every request is someone's. -/
theorem attributed_clientAddress (trusted : List Network) (peer : IpAddress) (headers : Headers) :
    Attributed (isTrusted trusted · = true) peer (hops headers)
      (clientAddress trusted peer headers) := by
  rw [clientAddress]
  by_cases hpeer : isTrusted trusted peer = true
  · rw [if_pos hpeer, origin?]
    cases hfind : (hops headers).reverse.find? (!isTrusted trusted ·) with
    | some hop =>
      obtain ⟨hhop, after, before, hsplit, hafter⟩ := List.find?_eq_some_iff_append.1 hfind
      have hhops : hops headers = before.reverse ++ hop :: after.reverse := by
        rw [← (hops headers).reverse_reverse, hsplit]
        simp
      refine .forwarded hpeer hhops (by simpa using hhop) fun ip hip => ?_
      simpa using hafter ip (List.mem_reverse.1 hip)
    | none =>
      have hall : ∀ ip ∈ hops headers, isTrusted trusted ip = true := by
        simpa using hfind
      cases hhops : hops headers with
      | nil => exact .unforwarded hpeer rfl
      | cons first rest => exact .farthest hpeer rfl (hhops ▸ hall)
  · rw [if_neg hpeer]
    exact .direct hpeer

theorem Attributed.clientAddress_eq
    (h : Attributed (isTrusted trusted · = true) peer (hops headers) ip) :
    clientAddress trusted peer headers = ip := by
  cases h with
  | direct hpeer => exact if_neg hpeer
  | @forwarded front rest _ hpeer hhops hhop hrest =>
    refine clientAddress_of_find? hpeer ?_
    have hnone : rest.reverse.find? (!isTrusted trusted ·) = none := by simpa using hrest
    rw [hhops, List.reverse_append, List.reverse_cons, List.append_assoc, List.find?_append, hnone,
      Option.none_or, List.singleton_append]
    exact List.find?_cons_of_pos (by simpa using hhop)
  | farthest hpeer hhops hall =>
    have hnone : (hops headers).reverse.find? (!isTrusted trusted ·) = none := by simpa using hall
    rw [clientAddress, if_pos hpeer, origin?, hnone, hhops]
    rfl
  | unforwarded hpeer hhops =>
    rw [clientAddress, if_pos hpeer, origin?, hhops]
    rfl

theorem clientAddress_eq_iff : clientAddress trusted peer headers = ip ↔
    Attributed (isTrusted trusted · = true) peer (hops headers) ip := by
  refine ⟨?_, Attributed.clientAddress_eq⟩
  rintro rfl
  exact attributed_clientAddress trusted peer headers

/-- With a list that is accepted, trust is in the addresses that it names. -/
theorem isTrusted_iff_named {raw : String} (h : Network.parseList raw = .ok trusted)
    (ip : IpAddress) : isTrusted trusted ip = true ↔ Network.Named raw ip := by
  rw [isTrusted, List.any_eq_true]
  exact (Network.lists_of_parseList h).contains_iff ip

/-- A list is refused for its first fault and for nothing else. One that is accepted has a network for
each entry, with the addresses that the entry stands for, and by these it is decided whose request one
is, from the addresses on all lines that are text. -/
theorem client_by_trustList (o : Config.Options) :
    (∀ e, o.proxies = .error e ↔
      ∃ text, Network.FirstFault o.trustedProxies text ∧ e = .trustedProxy text) ∧
    ∀ trusted, o.proxies = .ok trusted →
      Network.Lists (Network.entries o.trustedProxies) trusted ∧
      ∀ peer headers ip, clientAddress trusted peer headers = ip ↔
        Attributed (Network.Named o.trustedProxies) peer
          ((forwardedLines headers).flatMap lineHops) ip := by
  refine ⟨fun e => Config.Options.proxies_eq_error_iff, fun trusted htrusted => ?_⟩
  have hlist := Config.Options.parseList_of_proxies htrusted
  have hnamed : (isTrusted trusted · = true) = Network.Named o.trustedProxies :=
    funext fun ip => propext (isTrusted_iff_named hlist ip)
  refine ⟨Network.lists_of_parseList hlist, fun peer headers ip => ?_⟩
  rw [clientAddress_eq_iff, hnamed, hops_eq_flatMap]

/-- A list with blanks, a block by figures and one by a mask, both with bits to spare. -/
def sparseList : Config.Options where
  trustedProxies := " 10.0.0.7/8 ,,fd00::1, 192.168.7.9/255.255.255.0,"

/-- What the list names: the addresses by themselves and by the blocks they are in. -/
def sparseNetworks : List Network :=
  [.v4 ⟨10, 0, 0, 7⟩ 8, .v6 ⟨[0xfd00, 0, 0, 0, 0, 0, 0, 1], rfl⟩ 128, .v4 ⟨192, 168, 7, 9⟩ 24]

/-- An IPv4 address in the form of the other family, which no block of IPv4 addresses has. -/
def mappedTen : IpAddress := .v6 ⟨[0, 0, 0, 0, 0, 0xffff, 0x0a00, 2], rfl⟩

theorem client_by_trustList_sparse :
    let lines := [Octets.ofText "203.0.113.9, ::ffff:10.0.0.2", Octets.ofText "é, 6.6.6.6",
      Octets.ofText "unknown,10.1.2.3 "]
    let headers := (scriptRequest lines).headers
    sparseList.proxies = .ok sparseNetworks ∧
    Network.Lists (Network.entries sparseList.trustedProxies) sparseNetworks ∧
    clientAddress sparseNetworks (.v4 ⟨192, 168, 7, 1⟩) headers = mappedTen ∧
    Attributed (Network.Named sparseList.trustedProxies) (.v4 ⟨192, 168, 7, 1⟩)
      (lines.flatMap lineHops) mappedTen := by
  intro lines headers
  have hproxies : sparseList.proxies = .ok sparseNetworks := rfl
  have hclient : clientAddress sparseNetworks (.v4 ⟨192, 168, 7, 1⟩) headers = mappedTen := by
    decide +kernel
  obtain ⟨-, haccepted⟩ := client_by_trustList sparseList
  obtain ⟨hlists, hattributed⟩ := haccepted sparseNetworks hproxies
  have h := (hattributed (.v4 ⟨192, 168, 7, 1⟩) headers mappedTen).1 hclient
  rw [forwardedLines_scriptRequest] at h
  exact ⟨hproxies, hlists, hclient, h⟩

end Http
end BootServer
