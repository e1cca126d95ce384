import BootServer.Image.Patched
import BootServer.Proofs.Image.Scanner
import BootServer.Proofs.Image.Source

/-! The search for the marker of an image. It asks for one window after another, each from where
the answer before it ended, and whatever the windows, answers and chunks are it comes to the first
offset at which the marker stands in the whole image. An answer without octets ends it. -/
namespace BootServer.Image

/-- What a search of the whole data comes to. -/
def Marker.Located (m : Marker) (data : Octets) (result : Except ImageError Nat) : Prop :=
  (∃ offset, m.FirstAt data offset ∧ result = .ok offset) ∨
    (m.Absent data ∧ result = .error .markerNotFound)

/-! ## One body -/

/-- A body is searched as one string: neither its chunks nor what was fed before it matter. -/
theorem Search.feed_spec {s : Scanner} {seen : Octets} (h : s.Follows seen) (received : Nat)
    (body : Body) :
    match Search.feed s received body with
    | .error e => body.collect = .error e
    | .ok (.found offset) => s.marker.FirstAt (seen ++ body.sent) offset
    | .ok (.pending s' received') => ∃ bytes, body.collect = .ok bytes ∧
        received' = received + bytes.length ∧ s'.marker = s.marker ∧ s'.Follows (seen ++ bytes) := by
  induction body generalizing s seen received with
  | nil => exact ⟨[], rfl, rfl, rfl, by rw [List.append_nil]; exact h⟩
  | cons first rest ih =>
    cases first with
    | error e => rfl
    | ok chunk =>
      rw [Search.feed, Body.sent, ← List.append_assoc]
      cases hf : s.feed chunk with
      | mk answer s' =>
        have hs' : s' = (s.feed chunk).2 := by rw [hf]
        cases answer with
        | some offset =>
          have ho := (h.feed_eq_some chunk offset).mp (by rw [hf])
          exact ho.append
        | none =>
          have hm : s'.marker = s.marker := by rw [hs', Scanner.feed_marker]
          have hs : s'.Follows (seen ++ chunk) := hs' ▸ h.feed_none (by rw [hf])
          have hrest := ih hs (received + chunk.length)
          show match Search.feed s' (received + chunk.length) rest with
            | .error e => _ | .ok (.found offset) => _ | .ok (.pending s'' received') => _
          cases hr : Search.feed s' (received + chunk.length) rest with
          | error e =>
            rw [hr] at hrest
            rw [Body.collect_ok, hrest]
            rfl
          | ok search =>
            rw [hr] at hrest
            cases search with
            | found offset => rw [hm] at hrest; exact hrest
            | pending s'' received' =>
              obtain ⟨bytes, hc, hlen, hm', hs''⟩ := hrest
              refine ⟨chunk ++ bytes, Body.collect_ok_eq_ok.mpr ⟨bytes, hc, rfl⟩, ?_, ?_, ?_⟩
              · rw [hlen, List.length_append, Nat.add_assoc]
              · rw [hm', hm]
              · rw [← List.append_assoc]; exact hs''

variable {data : Octets} {pos : Nat}

theorem take_append_delivered {bytes : Octets} {n : Nat}
    (h : bytes <+: (data.drop pos).take n) :
    data.take pos ++ bytes = data.take (pos + bytes.length) := by
  have hd : bytes <+: data.drop pos := h.trans (List.take_prefix _ _)
  rw [List.take_add, ← List.prefix_iff_eq_take.mp hd]

/-- The answer for one window. The scanner has seen all that stands before the window, so that the
window is searched together with what came before: up to where the answer breaks off, up to the
marker, or all of it. -/
theorem Search.feed_answer {scanner : Scanner} (follows : scanner.Follows (data.take pos)) {n : Nat}
    {body : Body} (hp : body.sent <+: (data.drop pos).take n) :
    (∃ e, Search.feed scanner 0 body = .error e ∧ body.collect = .error e) ∨
    (∃ offset, Search.feed scanner 0 body = .ok (.found offset) ∧
      scanner.marker.FirstAt data offset ∧ body.sent ≠ []) ∨
    ∃ scanner' bytes, Search.feed scanner 0 body = .ok (.pending scanner' bytes.length) ∧
      body.collect = .ok bytes ∧ scanner'.marker = scanner.marker ∧
      scanner'.Follows (data.take (pos + bytes.length)) := by
  have hseen := take_append_delivered hp
  have hspec := Search.feed_spec follows 0 body
  cases hf : Search.feed scanner 0 body with
  | error e =>
    rw [hf] at hspec
    exact .inl ⟨e, rfl, hspec⟩
  | ok search =>
    rw [hf] at hspec
    cases search with
    | found offset =>
      have hprefix : data.take pos ++ body.sent <+: data := hseen ▸ List.take_prefix _ _
      refine .inr (.inl ⟨offset, rfl, hspec.of_prefix hprefix, fun he => ?_⟩)
      rw [he, List.append_nil] at hspec
      exact hspec.not_absent follows.absent
    | pending scanner' received =>
      obtain ⟨bytes, hc, hlen, hm, hs⟩ := hspec
      rw [Body.sent_of_collect hc] at hseen
      rw [hseen] at hs
      rw [hlen, Nat.zero_add]
      exact .inr (.inr ⟨scanner', bytes, rfl, hc, hm, hs⟩)

theorem Search.feed_window {scanner : Scanner} (follows : scanner.Follows (data.take pos))
    {n : Nat} {body : Body} {bytes : Octets} (hc : body.collect = .ok bytes)
    (hp : bytes <+: (data.drop pos).take n) :
    (∃ offset, Search.feed scanner 0 body = .ok (.found offset) ∧
      scanner.marker.FirstAt data offset ∧ bytes ≠ []) ∨
    (∃ scanner', Search.feed scanner 0 body = .ok (.pending scanner' bytes.length) ∧
      scanner'.marker = scanner.marker ∧ scanner'.Follows (data.take (pos + bytes.length))) := by
  have hsent : body.sent = bytes := Body.sent_of_collect hc
  rcases Search.feed_answer follows (hsent ▸ hp) with
    ⟨e, -, hbroken⟩ | ⟨offset, hf, hfirst, hne⟩ | ⟨scanner', bytes', hf, hc', hm, hs⟩
  · rw [hc] at hbroken
    cases hbroken
  · exact .inl ⟨offset, hf, hfirst, hsent ▸ hne⟩
  · cases hc.symm.trans hc'
    exact .inr ⟨scanner', hf, hm, hs⟩

namespace PatchedImage

variable {σ : Type}

theorem scanFrom_end (source : Source σ) {total pos : Nat} (h : ¬ pos < total) (scanner : Scanner)
    (s : σ) : scanFrom source total pos scanner s = (.error .markerNotFound, s) := by
  rw [scanFrom, dif_neg h]
  rfl

/-- One window of the search, and how it goes on from there. -/
theorem scanFrom_window (source : Source σ) {total pos : Nat} (h : pos < total) (scanner : Scanner)
    (s s' : σ) {body : Body}
    (hr : source.read pos (min scanWindow (total - pos)) s = (.ok body, s')) :
    scanFrom source total pos scanner s =
      match Search.feed scanner 0 body with
      | .error e => (.error e, s')
      | .ok (.found offset) => (.ok offset, s')
      | .ok (.pending scanner' received) =>
        if received = 0 then (.error (.source (.noData pos)), s')
        else scanFrom source total (pos + received) scanner' s' := by
  rw [scanFrom, dif_pos h, access_bind, hr]
  dsimp only
  cases Search.feed scanner 0 body with
  | error e => rfl
  | ok search =>
    cases search with
    | found offset => rfl
    | pending scanner' received =>
      by_cases hz : received = 0
      · simp only [dif_pos hz, if_pos hz, access_throw]
      · simp only [dif_neg hz, if_neg hz]

/-! ## The whole search -/

/-- A request for a window of the data, as the source answered it. -/
def Window (source : Source σ) (data : Octets) (a : Source.Answer) : Prop :=
  a.start < data.length ∧ a.length = min scanWindow (data.length - a.start) ∧
    ∃ s s', source.read a.start a.length s = (a.outcome, s')

/-- What a search from `pos` on came to, by the answers that it had: they make up the data from
there without gap or overlap, and the result is right unless one of them was without octets. -/
structure Searched (source : Source σ) (m : Marker) (data : Octets) (pos : Nat)
    (log : List Source.Answer) (result : Except ImageError Nat) : Prop where
  asked : ∀ a ∈ log, Window source data a
  bounded : log.length ≤ data.length - pos
  aligned : log.flatMap Source.Answer.octets <+: data.drop pos
  located : (∀ a ∈ log, a.octets ≠ []) → m.Located data result
  refused : (∃ a ∈ log, a.octets = []) → ∃ position < data.length,
    m.Absent (data.take position) ∧ result = .error (.source (.noData position))

variable {source : Source σ} {m : Marker} {log : List Source.Answer}
  {result : Except ImageError Nat} {a : Source.Answer}

/-- A search that ends without another answer. -/
theorem Searched.settled (h : m.Located data result) :
    Searched source m data pos [] result := by
  refine ⟨List.forall_mem_nil _, Nat.zero_le _, List.nil_prefix, fun _ => h, ?_⟩
  rintro ⟨b, hb, -⟩
  cases hb

theorem Searched.empty (hw : Window source data a) (h : m.Absent (data.take pos))
    (hpos : pos < data.length) (he : a.octets = []) :
    Searched source m data pos [a] (.error (.source (.noData pos))) := by
  refine ⟨?_, ?_, ?_, ?_, fun _ => ⟨pos, hpos, h, rfl⟩⟩
  · rintro b hb
    rw [List.mem_singleton.mp hb]
    exact hw
  · rw [List.length_singleton]
    omega
  · rw [List.flatMap_singleton, he]
    exact List.nil_prefix
  · intro hall
    exact absurd he (hall a (List.mem_singleton_self a))

/-- An answer with octets moves the search on by as many. -/
theorem Searched.cons (hw : Window source data a) (hp : a.octets <+: data.drop pos)
    (hne : a.octets ≠ []) (h : Searched source m data (pos + a.octets.length) log result) :
    Searched source m data pos (a :: log) result := by
  have hpos := List.length_pos_iff.mpr hne
  have hle := hp.length_le
  rw [List.length_drop] at hle
  refine ⟨List.forall_mem_cons.mpr ⟨hw, h.asked⟩, ?_, ?_, ?_, ?_⟩
  · have := h.bounded
    rw [List.length_cons]
    omega
  · obtain ⟨rest, hr⟩ := hp
    have hal := h.aligned
    rw [← List.drop_drop, ← hr, List.drop_left] at hal
    rw [List.flatMap_cons, ← hr]
    exact (List.prefix_append_right_inj _).mpr hal
  · intro hall
    exact h.located fun b hb => hall b (List.mem_cons_of_mem a hb)
  · rintro ⟨b, hb, he⟩
    rcases List.mem_cons.mp hb with rfl | hb
    · exact absurd he hne
    · exact h.refused ⟨b, hb, he⟩

/-- The search from a position on, with the record of its answers. -/
theorem scanFrom_searched (serves : source.Serves data) {scanner : Scanner}
    (follows : scanner.Follows (data.take pos)) (s : σ) (log : List Source.Answer) :
    ∃ result s' more,
      scanFrom source.recorded data.length pos scanner (s, log) = (result, s', log ++ more) ∧
      scanFrom source data.length pos scanner s = (result, s') ∧
      Searched source scanner.marker data pos more result := by
  -- on the octets that the search has not come to yet
  induction hn : data.length - pos using Nat.strongRecOn generalizing pos scanner s log with
  | _ n ih =>
    by_cases hpos : pos < data.length
    · have hwindow : 0 < min scanWindow (data.length - pos) := by
        rw [scanWindow]
        omega
      obtain ⟨bytes, s', ⟨body, hr, hc⟩, hp⟩ := serves.read s pos _ hpos hwindow
      let answer : Source.Answer := ⟨pos, min scanWindow (data.length - pos), .ok body⟩
      have ha : answer.octets = bytes := Body.sent_of_collect hc
      have had : answer.octets <+: data.drop pos := by
        rw [ha]
        exact hp.trans (List.take_prefix _ _)
      have hw : Window source data answer := ⟨hpos, rfl, s, s', hr⟩
      rw [scanFrom_window source hpos scanner s s' hr,
        scanFrom_window source.recorded hpos scanner _ _ (Source.recorded_read hr log)]
      rcases Search.feed_window follows hc hp with
        ⟨offset, hf, hfirst, hne⟩ | ⟨scanner', hf, hm, hs⟩
      · rw [hf]
        rw [← ha] at hne
        exact ⟨_, _, [answer], rfl, rfl, .cons hw had hne (.settled (.inl ⟨offset, hfirst, rfl⟩))⟩
      · rw [hf]
        by_cases hz : bytes.length = 0
        · have hnil : answer.octets = [] := by
            rw [ha]
            exact List.length_eq_zero_iff.mp hz
          exact ⟨_, _, [answer], if_pos hz, if_pos hz, .empty hw follows.absent hpos hnil⟩
        · have hne : answer.octets ≠ [] := by
            rw [ha]
            exact List.ne_nil_of_length_pos (Nat.pos_of_ne_zero hz)
          obtain ⟨result, s'', more, hrec, hplain, hsearched⟩ :=
            ih _ (by omega) hs s' (log ++ [answer]) rfl
          rw [← List.append_cons] at hrec
          rw [← ha, hm] at hsearched
          exact ⟨result, s'', answer :: more, (if_neg hz).trans hrec, (if_neg hz).trans hplain,
            .cons hw had hne hsearched⟩
    · have hall : data.take pos = data := List.take_of_length_le (by omega)
      have habsent := follows.absent
      rw [hall] at habsent
      refine ⟨_, _, [], ?_, scanFrom_end source hpos scanner s, .settled (.inr ⟨habsent, rfl⟩)⟩
      rw [List.append_nil]
      exact scanFrom_end source.recorded hpos scanner _

/-- The same image, with a record of what its source answers. -/
def recorded (image : PatchedImage σ) : PatchedImage (σ × List Source.Answer) :=
  { source := image.source.recorded, marker := image.marker }

theorem scan_eq (image : PatchedImage σ) {s s' : σ} {total : Nat}
    (h : image.source.length s = (.ok total, s')) :
    image.scan s = scanFrom image.source total 0 (.fresh image.marker) s' := by
  show (image.source.length >>= _) s = _
  rw [access_bind, h]
  rfl

theorem scan_searched (image : PatchedImage σ) (serves : image.source.Serves data) (s : σ) :
    ∃ result s' log, image.recorded.scan (s, []) = (result, s', log) ∧
      image.scan s = (result, s') ∧ Searched image.source image.marker data 0 log result := by
  obtain ⟨s₁, hlen⟩ := serves.length s
  have follows : (Scanner.fresh image.marker).Follows (data.take 0) :=
    Scanner.follows_fresh image.marker
  obtain ⟨result, s', log, hrec, hplain, hsearched⟩ := scanFrom_searched serves follows s₁ []
  refine ⟨result, s', log, ?_, ?_, hsearched⟩
  · rw [scan_eq image.recorded (Source.recorded_length hlen [])]
    exact hrec
  · rw [scan_eq image hlen]
    exact hplain

/-- A source that always gives something never leads to an empty answer. -/
theorem Window.ne_nil (serves : source.Serves data) (fruitful : source.Fruitful data)
    (hw : Window source data a) : a.octets ≠ [] := by
  obtain ⟨hstart, hlength, s₁, s₂, hread⟩ := hw
  have hpos : 0 < a.length := by
    rw [hlength, scanWindow]
    omega
  obtain ⟨bytes, s₃, ⟨body, hbody, hc⟩, -⟩ := serves.read s₁ a.start a.length hstart hpos
  have hne := fruitful s₁ a.start a.length bytes s₃ hstart hpos ⟨body, hbody, hc⟩
  rw [hread] at hbody
  have ho : a.outcome = .ok body := congrArg Prod.fst hbody
  unfold Source.Answer.octets
  rw [ho]
  show body.sent ≠ []
  rw [Body.sent_of_collect hc]
  exact hne

/-- The search for the marker comes to an end after at most as many requests as the image has
octets. When none of the answers that it had is empty it gives the first offset of the marker in
the whole image, or finds that there is none; an empty answer is an error of the source. -/
theorem scan_locates_marker (image : PatchedImage σ) (data : Octets)
    (serves : image.source.Serves data) (s : σ) :
    ∃ result s' log, image.recorded.scan (s, []) = (result, s', log) ∧
      image.scan s = (result, s') ∧
      (∀ a ∈ log, Window image.source data a) ∧ log.length ≤ data.length ∧
      ((∀ a ∈ log, a.octets ≠ []) →
        (∃ offset, image.marker.FirstAt data offset ∧ result = .ok offset) ∨
          (image.marker.Absent data ∧ result = .error .markerNotFound)) ∧
      ((∃ a ∈ log, a.octets = []) → ∃ position < data.length,
        image.marker.Absent (data.take position) ∧
          result = .error (.source (.noData position))) := by
  obtain ⟨result, s', log, hrec, hscan, h⟩ := scan_searched image serves s
  exact ⟨result, s', log, hrec, hscan, h.asked, h.bounded, h.located, h.refused⟩

/-- An image that is read four octets at a time, and whose marker two answers share. -/
def straddled : PatchedImage Unit :=
  { source := .ofOctets [1, 2, 3, 65, 66, 4] 1 (some 4) none, marker := ⟨[65, 66], by decide⟩ }

theorem scan_locates_marker_straddled :
    straddled.source.Serves [1, 2, 3, 65, 66, 4] ∧ ∃ s', straddled.scan () = (.ok 3, s') := by
  have serves := Source.ofOctets_serves [1, 2, 3, 65, 66, 4] 1 (some 4) (by decide)
  have fruitful := Source.ofOctets_fruitful [1, 2, 3, 65, 66, 4] 1 (some 4) (by decide)
    (by decide)
  obtain ⟨result, s', log, -, hscan, hasked, -, hlocated, -⟩ :=
    scan_locates_marker straddled _ serves ()
  have hfirst : straddled.marker.FirstAt [1, 2, 3, 65, 66, 4] 3 :=
    ⟨by decide, by decide⟩
  rcases hlocated fun a ha => (hasked a ha).ne_nil serves fruitful with
    ⟨offset, ho, rfl⟩ | ⟨habsent, -⟩
  · rw [ho.unique hfirst] at hscan
    exact ⟨serves, s', hscan⟩
  · exact absurd habsent hfirst.not_absent

end PatchedImage
end BootServer.Image
