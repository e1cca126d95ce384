import BootServer.Proofs.Image.Search

/-! Sources that fail. A source may leave any question unanswered and break off any answer; all that
is asked of it is that what it does tell is true. A search of such a source either fails or gives
the first offset of the marker, and it fails only if one of the answers that it had did, or was
empty. -/
namespace BootServer.Image

/-! ## What a source may be trusted with -/

namespace Source

variable {σ : Type} {source : Source σ} {data : Octets}

/-- What a source tells is true of the image: a length is the image's, and what comes before any
failure is what stands where it was asked for. -/
structure Truthful (source : Source σ) (data : Octets) : Prop where
  length : ∀ {s s' total}, source.length s = (.ok total, s') → total = data.length
  read : ∀ {s s' start length body}, 0 < length → start + length ≤ data.length →
    source.read start length s = (.ok body, s') → body.sent <+: (data.drop start).take length

/-- No question within the image is left without an answer, and no answer is empty. -/
structure Dependable (source : Source σ) (data : Octets) : Prop where
  length : ∀ s, ∃ s', source.length s = (.ok data.length, s')
  read : ∀ s start length, 0 < length → start + length ≤ data.length →
    ∃ bytes s', source.Delivers s start length bytes s' ∧
      bytes <+: (data.drop start).take length ∧ bytes ≠ []

/-- Every range within the image is answered by all of its octets. -/
structure Complete (source : Source σ) (data : Octets) : Prop where
  length : ∀ s, ∃ s', source.length s = (.ok data.length, s')
  read : ∀ s start length, 0 < length → start + length ≤ data.length →
    ∃ s', source.Delivers s start length ((data.drop start).take length) s'

theorem Delivers.sent_prefix {s s' s₁ : σ} {start length : Nat} {bytes whole : Octets} {body : Body}
    (hd : source.Delivers s start length bytes s') (hp : bytes <+: whole)
    (hr : source.read start length s = (.ok body, s₁)) : body.sent <+: whole := by
  obtain ⟨body', hr', hc⟩ := hd
  rw [hr] at hr'
  cases hr'
  rw [Body.sent_of_collect hc]
  exact hp

theorem Dependable.truthful (dependable : source.Dependable data) : source.Truthful data := by
  constructor
  · intro s s' total h
    obtain ⟨s₁, hs⟩ := dependable.length s
    rw [hs] at h
    cases h
    rfl
  · intro s s' start length body hl hin h
    obtain ⟨bytes, s₁, hd, hp, -⟩ := dependable.read s start length hl hin
    exact hd.sent_prefix hp h

theorem Serves.dependable (serves : source.Serves data) (fruitful : source.Fruitful data) :
    source.Dependable data := by
  refine ⟨serves.length, ?_⟩
  intro s start length hl hin
  obtain ⟨bytes, s', hd, hp⟩ := serves.read s start length (by omega) hl
  exact ⟨bytes, s', hd, hp, fruitful s start length bytes s' (by omega) hl hd⟩

theorem Complete.dependable (complete : source.Complete data) : source.Dependable data := by
  refine ⟨complete.length, ?_⟩
  intro s start length hl hin
  obtain ⟨s', hd⟩ := complete.read s start length hl hin
  refine ⟨_, s', hd, List.prefix_refl _, ?_⟩
  apply List.ne_nil_of_length_pos
  rw [List.length_take, List.length_drop]
  omega

/-- An image in memory is answered for in full, whatever the chunks. -/
theorem ofOctets_complete (data : Octets) (chunk : Nat) (h : 0 < chunk) :
    (ofOctets data chunk none none).Complete data := by
  refine ⟨fun s => ⟨s, rfl⟩, ?_⟩
  intro s start length _ _
  exact ⟨(), ofOctets_read data chunk none none h start length⟩

section File

variable {files : FileTree} {path : String} {start : Nat}

theorem ofFile_length (h : files.read path = .ok data) :
    (ofFile files path).length () = (.ok data.length, ()) := by
  show (ofFile.content files path >>= _) () = _
  rw [access_bind, ofFile.content, h]
  rfl

theorem ofFile_missing {cause : FileError} (h : files.read path = .error cause) :
    (ofFile files path).length () = (.error (.file cause), ()) := by
  show (ofFile.content files path >>= _) () = _
  rw [access_bind, ofFile.content, h]
  rfl

theorem ofFile_read (h : files.read path = .ok data) (hs : start ≤ maxFileOffset)
    (length : Nat) :
    (ofFile files path).read start length () =
      (.ok ((Octets.pieces fileChunk ((data.drop start).take length)).map .ok), ()) := by
  show (ofFile.content files path >>= _) () = _
  rw [access_bind, ofFile.content, h]
  dsimp only [pure, ExceptT.pure, ExceptT.mk, StateT.pure]
  rw [if_neg (by omega)]
  rfl

end File

/-- Nothing went wrong with an answer: it was made, it does not break off, and it has octets. -/
def Answer.Healthy (a : Answer) : Prop :=
  ∃ body bytes, a.outcome = .ok body ∧ body.collect = .ok bytes ∧ bytes ≠ []

end Source

/-! ## The search -/

namespace PatchedImage

variable {σ : Type} {source : Source σ} {m : Marker} {data : Octets} {pos : Nat}
  {log : List Source.Answer} {result : Except ImageError Nat} {a : Source.Answer} {e : ImageError}
  {body : Body}

theorem Window.healthy (dependable : source.Dependable data) (hw : Window source data a) :
    a.Healthy := by
  obtain ⟨hstart, hlength, s, s', hread⟩ := hw
  have hpos : 0 < a.length := by
    rw [hlength, scanWindow]
    omega
  obtain ⟨bytes, s₁, ⟨body, hbody, hc⟩, -, hne⟩ :=
    dependable.read s a.start a.length hpos (by omega)
  rw [hread] at hbody
  exact ⟨body, bytes, congrArg Prod.fst hbody, hc, hne⟩

theorem scanFrom_refused (source : Source σ) {total pos : Nat} (h : pos < total)
    (scanner : Scanner) {s s' : σ}
    (hr : source.read pos (min scanWindow (total - pos)) s = (.error e, s')) :
    scanFrom source total pos scanner s = (.error e, s') := by
  rw [scanFrom, dif_pos h, access_bind, hr]

/-- What a search comes to by the answers that it had: an offset that it gives is right whatever
went wrong, and when nothing did it gives one unless there is none. -/
structure Heard (source : Source σ) (m : Marker) (data : Octets) (log : List Source.Answer)
    (result : Except ImageError Nat) : Prop where
  asked : ∀ a ∈ log, Window source data a
  right : ∀ offset, result = .ok offset → m.FirstAt data offset
  located : (∀ a ∈ log, a.Healthy) → m.Located data result

theorem Heard.settled (h : m.Located data result) : Heard source m data [] result := by
  refine ⟨List.forall_mem_nil _, ?_, fun _ => h⟩
  intro offset ho
  rcases h with ⟨found, hf, he⟩ | ⟨-, he⟩
  · rw [he] at ho
    exact Except.ok.inj ho ▸ hf
  · rw [he] at ho
    cases ho

/-- An answer that something is wrong with ends the search. -/
theorem Heard.failed (hw : Window source data a) (h : ¬ a.Healthy) (e : ImageError) :
    Heard source m data [a] (.error e) := by
  refine ⟨?_, ?_, ?_⟩
  · intro b hb
    rw [List.mem_singleton.mp hb]
    exact hw
  · intro offset ho
    cases ho
  · intro hall
    exact absurd (hall a (List.mem_singleton_self a)) h

theorem Heard.cons (hw : Window source data a) (h : Heard source m data log result) :
    Heard source m data (a :: log) result :=
  ⟨List.forall_mem_cons.mpr ⟨hw, h.asked⟩, h.right,
    fun hall => h.located fun b hb => hall b (List.mem_cons_of_mem a hb)⟩

/-- An answered window either ends the search or moves it on, and in the same way whatever source
it is that gives this answer. -/
theorem heard_window (hw : Window source data ⟨pos, min scanWindow (data.length - pos), .ok body⟩)
    {scanner : Scanner} (follows : scanner.Follows (data.take pos))
    (hsent : body.sent <+: (data.drop pos).take (min scanWindow (data.length - pos))) :
    (∃ result, Heard source scanner.marker data
        [⟨pos, min scanWindow (data.length - pos), .ok body⟩] result ∧
      ∀ {τ : Type} (source : Source τ) {s s' : τ},
        source.read pos (min scanWindow (data.length - pos)) s = (.ok body, s') →
        scanFrom source data.length pos scanner s = (result, s')) ∨
    ∃ scanner' received, 0 < received ∧ scanner'.marker = scanner.marker ∧
      scanner'.Follows (data.take (pos + received)) ∧
      ∀ {τ : Type} (source : Source τ) {s s' : τ},
        source.read pos (min scanWindow (data.length - pos)) s = (.ok body, s') →
        scanFrom source data.length pos scanner s =
          scanFrom source data.length (pos + received) scanner' s' := by
  rcases Search.feed_answer follows hsent with
    ⟨e, hf, hbroken⟩ | ⟨offset, hf, hfirst, -⟩ | ⟨scanner', bytes, hf, hc, hm, hs⟩
  · refine .inl ⟨.error e, .failed hw ?_ e, fun source s s' hr => ?_⟩
    · rintro ⟨body', bytes, ho, hc, -⟩
      cases ho
      rw [hbroken] at hc
      cases hc
    · rw [scanFrom_window source hw.1 scanner s s' hr, hf]
  · refine .inl ⟨.ok offset, .cons hw (.settled (.inl ⟨offset, hfirst, rfl⟩)), ?_⟩
    intro τ source s s' hr
    rw [scanFrom_window source hw.1 scanner s s' hr, hf]
  · by_cases hz : bytes.length = 0
    · refine .inl ⟨.error (.source (.noData pos)), .failed hw ?_ _, fun source s s' hr => ?_⟩
      · rintro ⟨body', bytes', ho, hc', hne⟩
        cases ho
        cases hc.symm.trans hc'
        exact hne (List.length_eq_zero_iff.mp hz)
      · rw [scanFrom_window source hw.1 scanner s s' hr, hf]
        exact if_pos hz
    · refine .inr ⟨scanner', bytes.length, Nat.pos_of_ne_zero hz, hm, hs, fun source s s' hr => ?_⟩
      rw [scanFrom_window source hw.1 scanner s s' hr, hf]
      exact if_neg hz

/-- The search from a position on, with the record of its answers. -/
theorem scanFrom_heard (truthful : source.Truthful data) {scanner : Scanner}
    (follows : scanner.Follows (data.take pos)) (s : σ) (log : List Source.Answer) :
    ∃ result s' more,
      scanFrom source.recorded data.length pos scanner (s, log) = (result, s', log ++ more) ∧
      scanFrom source data.length pos scanner s = (result, s') ∧
      Heard source scanner.marker data more result := by
  -- on the octets that the search has not come to yet
  induction hn : data.length - pos using Nat.strongRecOn generalizing pos scanner s log with
  | _ n ih =>
    by_cases hpos : pos < data.length
    · cases hr : source.read pos (min scanWindow (data.length - pos)) s with
      | mk outcome s' =>
        let answer : Source.Answer := ⟨pos, min scanWindow (data.length - pos), outcome⟩
        have hw : Window source data answer := ⟨hpos, rfl, s, s', hr⟩
        have hrec := Source.recorded_read hr log
        cases outcome with
        | error e =>
          refine ⟨_, _, [answer], scanFrom_refused _ hpos scanner hrec,
            scanFrom_refused source hpos scanner hr, .failed hw ?_ e⟩
          rintro ⟨body, bytes, ho, -, -⟩
          cases ho
        | ok body =>
          have hwindow : 0 < min scanWindow (data.length - pos) := by
            rw [scanWindow]
            omega
          have hsent := truthful.read hwindow (by omega) hr
          rcases heard_window hw follows hsent with
            ⟨result, hheard, hends⟩ | ⟨scanner', received, hmore, hm, hs, hgoes⟩
          · exact ⟨result, s', [answer], hends source.recorded hrec, hends source hr, hheard⟩
          · obtain ⟨result, s'', more, hrec', hplain, hheard⟩ :=
              ih _ (by omega) hs s' (log ++ [answer]) rfl
            rw [← List.append_cons] at hrec'
            rw [hm] at hheard
            exact ⟨result, s'', answer :: more, (hgoes source.recorded hrec).trans hrec',
              (hgoes source hr).trans hplain, .cons hw hheard⟩
    · have habsent := follows.absent
      rw [List.take_of_length_le (by omega)] at habsent
      refine ⟨_, _, [], ?_, scanFrom_end source hpos scanner s, .settled (.inr ⟨habsent, rfl⟩)⟩
      rw [List.append_nil]
      exact scanFrom_end source.recorded hpos scanner _

theorem scan_refused (image : PatchedImage σ) {s s' : σ}
    (h : image.source.length s = (.error e, s')) : image.scan s = (.error e, s') := by
  show (image.source.length >>= _) s = _
  rw [access_bind, h]

/-- A search of the whole image. Its first question is for the length. -/
theorem scan_heard (image : PatchedImage σ) (truthful : image.source.Truthful data) (s : σ) :
    ∃ result s' log, image.recorded.scan (s, []) = (result, s', log) ∧
      image.scan s = (result, s') ∧
      (∀ a ∈ log, Window image.source data a) ∧
      (∀ offset, result = .ok offset → image.marker.FirstAt data offset) ∧
      ((∃ total s₁, image.source.length s = (.ok total, s₁)) → (∀ a ∈ log, a.Healthy) →
        image.marker.Located data result) := by
  cases hl : image.source.length s with
  | mk told s₁ =>
    have hrec := Source.recorded_length hl []
    cases told with
    | error e =>
      refine ⟨.error e, s₁, [], scan_refused image.recorded hrec, scan_refused image hl,
        List.forall_mem_nil _, ?_, ?_⟩
      · intro offset h
        cases h
      · rintro ⟨total, s₂, h⟩
        cases h
    | ok total =>
      cases truthful.length hl
      have follows : (Scanner.fresh image.marker).Follows (data.take 0) :=
        Scanner.follows_fresh image.marker
      obtain ⟨result, s', log, hrec', hplain, heard⟩ := scanFrom_heard truthful follows s₁ []
      refine ⟨result, s', log, ?_, ?_, heard.asked, heard.right, fun _ => heard.located⟩
      · rw [scan_eq image.recorded hrec]
        exact hrec'
      · rw [scan_eq image hl]
        exact hplain

/-- A search of a dependable source finds the marker or shows that there is none. -/
theorem scan_dependable (image : PatchedImage σ) (dependable : image.source.Dependable data)
    (s : σ) : ∃ result s', image.scan s = (result, s') ∧ image.marker.Located data result := by
  obtain ⟨result, s', log, -, hscan, hasked, -, hlocated⟩ :=
    scan_heard image dependable.truthful s
  obtain ⟨s₁, hl⟩ := dependable.length s
  exact ⟨result, s', hscan, hlocated ⟨_, s₁, hl⟩ fun a ha => (hasked a ha).healthy dependable⟩

end PatchedImage
end BootServer.Image
