import BootServer.Image.Error

/-!
Markers. What can be patched carries a marker. The patch is padded with spaces to the length of the
marker and written over its first occurrence, so that every other octet stays where it is.
-/
namespace BootServer.Image

structure Marker where
  octets : Octets
  ne_nil : octets ≠ []
  deriving DecidableEq

/-- Why something cannot be the marker. -/
inductive MarkerError where
  | empty
  | scriptTooLong (script marker : Nat)
  deriving DecidableEq

def MarkerError.message : MarkerError → String
  | .empty => "marker must not be empty"
  | .scriptTooLong script marker =>
    "script patch is " ++ Text.Decimal.text script ++ " bytes, the binary placeholder holds "
      ++ Text.Decimal.text marker

namespace Marker

def ofOctets (bs : Octets) : Except MarkerError Marker :=
  if h : bs = [] then .error .empty else .ok ⟨bs, h⟩

/-- What the installer image is built with. -/
def defaultText : String :=
  "464vn90e7rbj08xbwdjejmdf4it17c5zfzjyfhthbh19eij201hjgit021bmpdb9ctrc87x2ymc8e7icu4ffi15x"
    ++ "1hah9iyaiz38ckyap8hwx2vt5rm44ixv4hau8iw718q5yd019um5dt2xpqqa2rjtdypzr5v1gun8un110hhwp8ce"
    ++ "x7pqrh2ivh0ynpm4zkkwc8wcn367zyethzy7q8hzudyeyzx3cgmxqbkh825gcak7kxzjbgjajwizryv7ec1xm2h0"
    ++ "hh7pz29qmvtgfjj1vphpgq1zcbiiehv52wrjy9yq473d9t1rvryy6929nk435hfx55du3ih05kn5tju3vijreru1"
    ++ "p6knc988d4gfdz28eragvryq5x8aibe5trxd0t6t7jwxkde34v6pj1khmp50k6qqj3nzgcfzabtgqkmeqhdedbvw"
    ++ "f3byfdma4nkv3rcxugaj2d0ru30pa2fqadjqrtjnv8bu52xzxv7irbhyvygygxu1nt5z4fh9w1vwbdcmagep26d2"
    ++ "98zknykf2e88kumt59ab7nq79d8amnhhvbexgh48e8qc61vq2e9qkihzt1twk1ijfgw70nwizai15iqyted2dt9g"
    ++ "fmf2gg7amzufre79hwqkddc1cd935ywacnkrnak6r7xzcz7zbmq3kt04u2hg1iuupid8rt4nyrju51e6uejb2ruu"
    ++ "36g9aibmz3hnmvazptu8x5tyxk820g2cdpxjdij766bt2n3djur7v623a2v44juyfgz80ekgfb9hkibpxh3zgknw"
    ++ "8a34t4jifhf116x15cei9hwch0fye3xyq0acuym8uhitu5evc4rag3ui0fny3qg4kju7zkfyy8hwh537urd5uixk"
    ++ "zwu5bdvafz4jmv7imypj543xg5em8jk8cgk7c4504xdd5e4e71ihaumt6u5u2t1w7um92fepzae8p0vq93wdrd17"
    ++ "56npu1pziiur1payc7kmdwyxg3hj5n4phxbc29x0tcddamjrwt260b0w"

def length (m : Marker) : Nat := m.octets.length

theorem length_pos (m : Marker) : 0 < m.length := List.length_pos_iff.2 m.ne_nil

def space : UInt8 := 0x20

/-- Fill up with spaces to the length of the marker. -/
def pad (m : Marker) (payload : Octets) : Except ImageError Octets :=
  if payload.length > m.length then .error (.payloadTooLong payload.length m.length)
  else .ok (payload ++ List.replicate (m.length - payload.length) space)

/-- The offset of the first place where `front` begins, counted on from `offset`. -/
def findFrom (front : Octets) (offset : Nat) : Octets → Option Nat
  | [] => none
  | b :: bs => if front.isPrefixOf (b :: bs) then some offset else findFrom front (offset + 1) bs

/-- The offset of the first occurrence. -/
def find? (m : Marker) (data : Octets) : Option Nat := findFrom m.octets 0 data

/-- Write the padded payload over the first occurrence. -/
def patch (m : Marker) (payload data : Octets) : Except ImageError Octets := do
  let padded ← m.pad payload
  match m.find? data with
  | some offset => return data.take offset ++ padded ++ data.drop (offset + padded.length)
  | none => throw .markerNotFound

end Marker

/-- The chunk that begins at `chunkStart`, with as much of the patch written over it as falls inside
when the patch begins at `patchStart`. -/
def overlay (chunk : Octets) (chunkStart : Nat) (patch : Octets) (patchStart : Nat) : Octets :=
  let start := max chunkStart patchStart
  let stop := min (chunkStart + chunk.length) (patchStart + patch.length)
  if stop ≤ start then chunk
  else
    chunk.take (start - chunkStart) ++ (patch.drop (start - patchStart)).take (stop - start)
      ++ chunk.drop (stop - chunkStart)

end BootServer.Image
