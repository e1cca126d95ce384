import BootServer.Image.Patched
import BootServer.Proofs.Image.Occurrence
import BootServer.Proofs.Image.Source

/-! Patches, octet by octet. A patch that is written over a whole image and a patch that is laid
over one chunk of it after another put the same octet at every offset, so a body that is patched
while it is read is a part of the patched image. -/
namespace BootServer.Image

/-- Data with a patch written over it from an offset on. -/
def written (data patch : Octets) (offset : Nat) : Octets :=
  data.take offset ++ patch ++ data.drop (offset + patch.length)

variable {data patch chunk : Octets} {offset start : Nat}

theorem length_written (h : offset + patch.length ≤ data.length) :
    (written data patch offset).length = data.length := by
  simp only [written, List.length_append, List.length_take, List.length_drop]
  omega

/-- The patch stands in its window and the data everywhere else. -/
theorem getElem?_written (h : offset + patch.length ≤ data.length) (i : Nat) :
    (written data patch offset)[i]? =
      if offset ≤ i ∧ i < offset + patch.length then patch[i - offset]? else data[i]? := by
  have ht : (data.take offset).length = offset := by rw [List.length_take]; omega
  unfold written
  rw [List.append_assoc]
  by_cases hlt : i < offset
  · rw [if_neg (by omega), List.getElem?_append_left (by omega), List.getElem?_take_of_lt hlt]
  · rw [List.getElem?_append_right (by omega), ht]
    by_cases hin : i < offset + patch.length
    · rw [if_pos (by omega), List.getElem?_append_left (by omega)]
    · rw [if_neg (by omega), List.getElem?_append_right (by omega), List.getElem?_drop]
      congr 1
      omega

theorem length_overlay (chunk : Octets) (chunkStart : Nat) (patch : Octets) (patchStart : Nat) :
    (overlay chunk chunkStart patch patchStart).length = chunk.length := by
  unfold overlay
  dsimp only
  split
  · rfl
  · simp only [List.length_append, List.length_take, List.length_drop]
    omega

/-- An overlay puts the patch where the chunk and the window of the patch meet. -/
theorem getElem?_overlay (chunk : Octets) (chunkStart : Nat) (patch : Octets)
    (patchStart i : Nat) (hi : i < chunk.length) :
    (overlay chunk chunkStart patch patchStart)[i]? =
      if patchStart ≤ chunkStart + i ∧ chunkStart + i < patchStart + patch.length
      then patch[chunkStart + i - patchStart]? else chunk[i]? := by
  unfold overlay
  dsimp only
  by_cases hd : min (chunkStart + chunk.length) (patchStart + patch.length) ≤
      max chunkStart patchStart
  · rw [if_pos hd, if_neg (by omega)]
  · rw [if_neg hd, List.append_assoc]
    have ht : (chunk.take (max chunkStart patchStart - chunkStart)).length =
        max chunkStart patchStart - chunkStart := by rw [List.length_take]; omega
    by_cases hbefore : i < max chunkStart patchStart - chunkStart
    · rw [if_neg (by omega), List.getElem?_append_left (by omega),
        List.getElem?_take_of_lt hbefore]
    · rw [List.getElem?_append_right (by omega), ht]
      by_cases hin : chunkStart + i < patchStart + patch.length
      · rw [if_pos (by omega), List.getElem?_append_left, List.getElem?_take_of_lt (by omega),
          List.getElem?_drop]
        · congr 1
          omega
        · rw [List.length_take, List.length_drop]
          omega
      · rw [if_neg (by omega), List.getElem?_append_right, List.getElem?_drop,
          List.length_take, List.length_drop]
        · congr 1
          omega
        · rw [List.length_take, List.length_drop]
          omega

/-- A chunk of the data with the patch laid over it is a chunk of the patched data. -/
theorem overlay_eq_written (h : offset + patch.length ≤ data.length)
    (hc : chunk <+: data.drop start) :
    overlay chunk start patch offset =
      ((written data patch offset).drop start).take chunk.length := by
  have hle := hc.length_le
  rw [List.length_drop] at hle
  apply List.ext_getElem?
  intro i
  by_cases hi : i < chunk.length
  · rw [getElem?_overlay chunk start patch offset i hi, List.getElem?_take_of_lt hi,
      List.getElem?_drop, getElem?_written h]
    congr 1
    have he := congrArg (·[i]?) (List.prefix_iff_eq_take.mp hc)
    simpa only [List.getElem?_take_of_lt hi, List.getElem?_drop] using he
  · rw [List.getElem?_eq_none (by rw [length_overlay]; omega),
      List.getElem?_eq_none (by rw [List.length_take]; omega)]

/-- A body that is patched while it is read is a part of the patched data. -/
theorem collect_patchBody (h : offset + patch.length ≤ data.length) {body : Body}
    {bytes : Octets} (hb : body.collect = .ok bytes) (hp : bytes <+: data.drop start) :
    (patchBody patch offset start body).collect =
      .ok (((written data patch offset).drop start).take bytes.length) := by
  induction body generalizing start bytes with
  | nil =>
    cases hb
    rfl
  | cons first rest ih =>
    cases first with
    | error e => cases hb
    | ok chunk =>
      obtain ⟨more, hm, rfl⟩ := Body.collect_ok_eq_ok.mp hb
      have hc : chunk <+: data.drop start := (List.prefix_append _ _).trans hp
      have hmore : more <+: data.drop (start + chunk.length) := by
        obtain ⟨t, ht⟩ := hp
        rw [← List.drop_drop, ← ht, List.append_assoc, List.drop_left]
        exact List.prefix_append _ _
      refine Body.collect_ok_eq_ok.mpr ⟨_, ih hm hmore, ?_⟩
      rw [overlay_eq_written h hc, ← List.drop_drop, List.length_append, List.take_add]

/-! ## The patch of a marker -/

namespace Marker

variable {m : Marker} {payload padded patched : Octets} {e : ImageError}

theorem length_pad (h : m.pad payload = .ok padded) : padded.length = m.length := by
  unfold pad at h
  split at h
  · cases h
  · cases h
    rw [List.length_append, List.length_replicate]
    omega

theorem pad_of_length_le (h : payload.length ≤ m.length) :
    m.pad payload = .ok (payload ++ List.replicate (m.length - payload.length) space) := by
  rw [pad, if_neg (by omega)]

theorem patch_of_pad_error (h : m.pad payload = .error e) (data : Octets) :
    m.patch payload data = .error e := by
  unfold Marker.patch
  rw [h]
  rfl

theorem patch_of_firstAt (h : m.pad payload = .ok padded) (ho : m.FirstAt data offset) :
    m.patch payload data = .ok (written data padded offset) := by
  unfold Marker.patch
  rw [h, find?_eq_some_iff.mpr ho]
  rfl

theorem patch_of_absent (h : m.pad payload = .ok padded) (ha : m.Absent data) :
    m.patch payload data = .error .markerNotFound := by
  unfold Marker.patch
  rw [h, find?_eq_none_iff.mpr ha]
  rfl

theorem patch_eq_ok (h : m.patch payload data = .ok patched) :
    ∃ padded offset, m.pad payload = .ok padded ∧ m.FirstAt data offset ∧
      patched = written data padded offset := by
  cases hp : m.pad payload with
  | error e => rw [patch_of_pad_error hp] at h; cases h
  | ok padded =>
    cases hf : m.find? data with
    | none =>
      rw [patch_of_absent hp (find?_eq_none_iff.mp hf)] at h
      cases h
    | some offset =>
      have ho := find?_eq_some_iff.mp hf
      rw [patch_of_firstAt hp ho] at h
      exact ⟨padded, offset, rfl, ho, (Except.ok.inj h).symm⟩

theorem length_patch (h : m.patch payload data = .ok patched) : patched.length = data.length := by
  obtain ⟨padded, offset, hp, ho, rfl⟩ := patch_eq_ok h
  apply length_written
  rw [length_pad hp]
  exact ho.1.le_length

theorem length_pos_of_patch (h : m.patch payload data = .ok patched) : 0 < data.length := by
  obtain ⟨padded, offset, -, ho, -⟩ := patch_eq_ok h
  have := ho.1.le_length
  have := m.length_pos
  omega

end Marker
end BootServer.Image
