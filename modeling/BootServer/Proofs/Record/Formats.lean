import BootServer.Proofs.Yaml.CoreSchema
import BootServer.Record.OfJson
import BootServer.Record.OfYaml

/-! Records do not depend on the format. A JSON value can be written in YAML with its texts quoted
and all else plain, and then whatever record the value holds is read from the document too. No alias
is followed, so nothing is used up of what a document may follow. -/
namespace BootServer

open Yaml Yaml.Document

/-! ## Values as nodes -/

mutual

/-- The node that a value is in a YAML document. -/
def Json.node : Json → Node
  | .null => .scalar none .plain "null"
  | .bool b => .scalar none .plain (if b then "true" else "false")
  | .int i => .scalar none .plain (intText i)
  | .real digits => .scalar none .plain digits
  | .text s => .scalar none .doubleQuoted s
  | .list items => .sequence none (itemNodes items)
  | .object members => .mapping none (memberNodes members)

def Json.itemNodes : List Json → List Node
  | [] => []
  | item :: rest => item.node :: itemNodes rest

def Json.memberNodes : List (String × Json) → List (Node × Node)
  | [] => []
  | (name, value) :: rest => (.scalar none .doubleQuoted name, value.node) :: memberNodes rest

end

namespace Json

theorem itemNodes_eq_map (vs : List Json) : itemNodes vs = vs.map node := by
  induction vs with
  | nil => rfl
  | cons v vs ih => rw [itemNodes, ih, List.map_cons]

theorem memberNodes_eq_map (ms : List (String × Json)) :
    memberNodes ms = ms.map fun m => (.scalar none .doubleQuoted m.1, m.2.node) := by
  induction ms with
  | nil => rfl
  | cons m ms ih => rw [memberNodes, ih, List.map_cons]

end Json

/-! ## Readings that follow no alias -/

section
variable {α β γ δ : Type}

/-- A reading that comes to something and follows no alias on the way. -/
def Yields (y : Reading β) (b : β) : Prop := ∀ left, y left = some (b, left)

theorem Yields.pure (b : β) : Yields (Pure.pure b) b := fun _ => rfl

theorem Yields.bind {y : Reading β} {g : β → Reading δ} {b : β} {c : δ} (h : Yields y b)
    (hg : Yields (g b) c) : Yields (y >>= g) c := by
  intro left
  show (y left).bind (fun p => g p.1 p.2) = _
  rw [h left]
  exact hg left

theorem Yields.mapM {source : α → β} {g : β → Reading δ} {result : α → δ} {l : List α}
    (h : ∀ a ∈ l, Yields (g (source a)) (result a)) :
    Yields ((l.map source).mapM g) (l.map result) := by
  induction l with
  | nil => exact .pure []
  | cons a l ih =>
    rw [List.map_cons, List.map_cons, List.mapM_cons]
    have hl := ih fun b hb => h b (List.mem_cons_of_mem a hb)
    exact (h a List.mem_cons_self).bind (hl.bind (.pure _))

/-- Whatever the one comes to, the other comes to its image and follows nothing. -/
def Gives (image : α → β) (x : Option α) (y : Reading β) : Prop :=
  ∀ a, x = some a → Yields y (image a)

variable {image : α → β} {image' : γ → δ} {x : Option α} {y : Reading β}

theorem Gives.pure (a : α) : Gives image (some a) (Pure.pure (image a)) := by
  intro a' ha
  cases ha
  exact .pure _

theorem Gives.bind {f : α → Option γ} {g : β → Reading δ} (h : Gives image x y)
    (hfg : ∀ a, x = some a → Gives image' (f a) (g (image a))) :
    Gives image' (x >>= f) (y >>= g) := by
  intro c hc
  obtain ⟨a, ha, hc⟩ := Option.bind_eq_some_iff.1 hc
  exact (h a ha).bind (hfg a ha c hc)

theorem Gives.lift (x : Option α) : Gives image x (liftM (x.map image)) := by
  intro a ha
  rw [ha]
  exact fun _ => rfl

theorem Gives.mapM {source : α → β} {f : α → Option γ} {g : β → Reading γ} {l : List α}
    (h : ∀ a ∈ l, Gives id (f a) (g (source a))) :
    Gives id (l.mapM f) ((l.map source).mapM g) := by
  induction l with
  | nil => exact .pure []
  | cons a l ih =>
    rw [List.map_cons, List.mapM_cons, List.mapM_cons]
    refine (h a List.mem_cons_self).bind fun c _ => ?_
    have hl := ih fun b hb => h b (List.mem_cons_of_mem a hb)
    exact hl.bind fun cs _ => .pure (c :: cs)

end

/-! ## Types of nodes -/

namespace Yaml.Document

variable {d : Document} {depth : Nat} {v : Json}

theorem target_node (v : Json) : d.target v.node = pure v.node := by
  cases v <;> rfl

theorem typed_scalar (style : Style) (text : String) :
    d.typed depth (.scalar none style text) = (typedScalar none style text).getM := by
  unfold typed
  rfl

theorem typed_sequence (items : List Node) : d.typed (depth + 1) (.sequence none items) =
    (do return .list (← items.mapM (d.typed depth))) := by
  conv => lhs; unfold typed
  rfl

theorem typed_mapping (pairs : List (Node × Node)) : d.typed (depth + 1) (.mapping none pairs) =
    (do return .object (← pairs.mapM fun (k, v) => do
      return (keyText (← d.typed depth k), ← d.typed depth v))) := by
  conv => lhs; unfold typed
  rfl

theorem yields_pair (name : String) (h : Yields (d.typed depth v.node) v) :
    Yields (do return (keyText (← d.typed depth (.scalar none .doubleQuoted name)),
      ← d.typed depth v.node)) (name, v) := by
  rw [typed_scalar]
  exact (Yields.pure (Json.text name)).bind (h.bind (.pure _))

/-- A value within the limits has its own type in a document. -/
theorem yields_typed (h : v.Exact depth) : Yields (d.typed depth v.node) v := by
  induction h with
  | null =>
    rw [Json.node, typed_scalar]
    exact .pure Json.null
  | bool b =>
    rw [Json.node, typed_scalar]
    cases b with
    | true => exact .pure (Json.bool true)
    | false => exact .pure (Json.bool false)
  | @int _ i hmin hmax =>
    rw [Json.node, typed_scalar, typedScalar, if_pos rfl, CoreSchema.plain?_intText hmin hmax]
    exact .pure (Json.int i)
  | text s =>
    rw [Json.node, typed_scalar]
    exact .pure (Json.text s)
  | @list depth vs h ih =>
    have hitems : Yields ((vs.map Json.node).mapM (d.typed depth)) (vs.map id) := .mapM ih
    rw [List.map_id] at hitems
    rw [Json.node, Json.itemNodes_eq_map, typed_sequence]
    exact hitems.bind (.pure _)
  | @object depth ms h ih =>
    rw [Json.node, Json.memberNodes_eq_map, typed_mapping]
    have hmembers : Yields ((ms.map fun m => (Node.scalar none .doubleQuoted m.1, m.2.node)).mapM
        fun (k, v) => do return (keyText (← d.typed depth k), ← d.typed depth v)) (ms.map id) :=
      .mapM fun m hm => yields_pair m.1 (ih m hm)
    rw [List.map_id] at hmembers
    exact hmembers.bind (.pure _)

end Yaml.Document

/-! ## Records -/

namespace Record

/-- A member as a document has it. -/
def inDocument (m : String × Json) : String × Node := (m.1, m.2.node)

theorem once_map (names : List String) (members : List (String × Json)) :
    once names (members.map inDocument) = (once names members).map (Option.map Json.node) := by
  have hfilter : (members.map inDocument).filter (fun m => m.1 ∈ names) =
      (members.filter fun m => m.1 ∈ names).map inDocument := by
    rw [List.filter_map]
    rfl
  rw [once, once, hfilter]
  cases members.filter fun m => m.1 ∈ names with
  | nil => rfl
  | cons m rest =>
    cases rest with
    | nil => rfl
    | cons m' rest => rfl

theorem mem_of_once {ν : Type} {names : List String} {members : List (String × ν)} {v : ν}
    (h : once names members = some (some v)) : ∃ m ∈ members, m.1 ∈ names ∧ m.2 = v := by
  unfold once at h
  split at h
  · cases h
  · next name v' hfilter =>
    cases h
    have hmem : (name, v) ∈ members.filter fun m => m.1 ∈ names := by simp [hfilter]
    obtain ⟨hmember, hname⟩ := List.mem_filter.1 hmem
    exact ⟨_, hmember, of_decide_eq_true hname, rfl⟩
  · cases h

variable {d : Document} {v : Json}

theorem gives_field {α : Type} {members : List (String × Json)} {names : List String} {default : α}
    {read : Json → Option α} {read' : Node → Reading α}
    (h : ∀ m ∈ members, m.1 ∈ names → Gives id (read m.2) (read' m.2.node)) :
    Gives id (field members names default read)
      (field (members.map inDocument) names default read') := by
  rw [field, field, once_map]
  refine (Gives.lift (once names members)).bind fun found hfound => ?_
  cases found with
  | none => exact .pure default
  | some v =>
    obtain ⟨m, hm, hname, rfl⟩ := mem_of_once hfound
    exact h m hm hname

theorem gives_target (v : Json) :
    Gives Json.node (Json.recordFormat.target v) (d.recordFormat.target v.node) := by
  intro v' hv
  cases hv
  show Yields (d.target v.node) v.node
  rw [target_node]
  exact .pure _

theorem gives_members (v : Json) : Gives (List.map inDocument) (Json.recordFormat.members v)
    (d.recordFormat.members v.node) := by
  intro ms hms
  cases v with
  | object ms' =>
    cases hms
    show Yields (d.members (.mapping none (Json.memberNodes ms))) _
    rw [Json.memberNodes_eq_map]
    exact .mapM fun m _ => .pure (inDocument m)
  | _ => cases hms

theorem gives_textOrUnset (v : Json) : Gives id (textOrUnset Json.recordFormat v)
    (textOrUnset d.recordFormat v.node) := by
  -- a document takes the text of any scalar, JSON only that of a text
  intro text htext
  cases v with
  | null =>
    cases htext
    exact .pure none
  | text s =>
    cases htext
    exact .pure (some s)
  | _ => cases htext

theorem gives_flag (v : Json) : Gives id (flag Json.recordFormat v)
    (flag d.recordFormat v.node) := by
  intro b hb
  cases v with
  | bool b' =>
    cases hb
    cases b with
    | true => exact .pure true
    | false => exact .pure false
  | _ => cases hb

theorem gives_text (v : Json) : Gives id (Json.recordFormat.text v)
    (do d.recordFormat.text (← d.recordFormat.target v.node)) := by
  intro s hs
  cases v with
  | text s' =>
    cases hs
    exact .pure s
  | _ => cases hs

theorem gives_texts (v : Json) : Gives id (texts Json.recordFormat v)
    (texts d.recordFormat v.node) := by
  intro ss hss
  cases v with
  | list vs =>
    have hitems : Gives id (vs.mapM Json.recordFormat.text) ((vs.map Json.node).mapM
        fun n => do d.recordFormat.text (← d.recordFormat.target n)) := .mapM fun v _ => gives_text v
    show Yields ((Json.itemNodes vs).mapM _) _
    rw [Json.itemNodes_eq_map]
    exact hitems ss hss
  | _ => cases hss

/-! ### Groups of fields -/

/-- A group that is no list, so that its fields have names. -/
def Named (v : Json) : Prop := v.items? = none

theorem eq_object_of_group {names : List String} {ms : List (String × Json)} (h : Named v)
    (hms : group Json.recordFormat names v = some ms) : v = .object ms := by
  cases v with
  | object ms' =>
    cases hms
    rfl
  | list vs => cases h
  | _ => cases hms

theorem gives_group (names : List String) (h : Named v) :
    Gives (List.map inDocument) (group Json.recordFormat names v)
      (group d.recordFormat names v.node) := by
  intro ms hms
  cases v with
  | object ms' => exact gives_members (.object ms') ms hms
  | list vs => cases h
  | _ => cases hms

theorem gives_installer (h : Named v) :
    Gives id (installer Json.recordFormat v) (installer d.recordFormat v.node) := by
  unfold installer
  refine (gives_group _ h).bind fun ms _ => ?_
  refine (gives_field fun m _ _ => gives_textOrUnset m.2).bind fun baseUrl _ => ?_
  refine (gives_field fun m _ _ => gives_textOrUnset m.2).bind fun kernel _ => ?_
  refine (gives_field fun m _ _ => gives_textOrUnset m.2).bind fun initrd _ => ?_
  exact .pure _

/-- Boot settings in which no group is a list. -/
structure NamedSettings (v : Json) : Prop where
  settings : Named v
  installer : ∀ ms, v = .object ms → ∀ m ∈ ms, m.1 = "osie" → Named m.2

theorem gives_bootSettings (h : NamedSettings v) :
    Gives id (bootSettings Json.recordFormat v) (bootSettings d.recordFormat v.node) := by
  unfold bootSettings
  refine (gives_group _ h.settings).bind fun ms hms => ?_
  have hinstaller : ∀ m ∈ ms, m.1 ∈ ["osie"] → Named m.2 := fun m hm hname =>
    h.installer ms (eq_object_of_group h.settings hms) m hm (List.mem_singleton.1 hname)
  refine (gives_field fun m _ _ => gives_flag m.2).bind fun allowed _ => ?_
  refine (gives_field fun m _ _ => gives_textOrUnset m.2).bind fun scriptUrl _ => ?_
  refine (gives_field fun m _ _ => gives_textOrUnset m.2).bind fun script _ => ?_
  refine (gives_field fun m hm hname => gives_installer (hinstaller m hm hname)).bind
    fun installer _ => ?_
  refine (gives_field fun m _ _ => gives_texts m.2).bind fun kernelArgs _ => ?_
  refine (gives_field fun m _ _ => gives_textOrUnset m.2).bind fun console _ => ?_
  refine (gives_field fun m _ _ => gives_textOrUnset m.2).bind fun facility _ => ?_
  exact .pure _

/-- A value that stands for the same in both formats. -/
structure Portable (v : Json) : Prop where
  exact : v.Exact (maxDepth + 1)
  named : ∀ ms, v = .object ms → ∀ m ∈ ms, m.1 = "netboot" → NamedSettings m.2

/-- Whatever record a value holds in JSON, it holds in a document. -/
theorem gives_read (h : Portable v) : Gives id (ofJson? v) (read d.recordFormat v.node) := by
  unfold ofJson? read
  refine (gives_target v).bind fun v' hv' => ?_
  cases hv'
  refine (gives_members v).bind fun ms hms => ?_
  have hv : v = .object ms := by
    cases v with
    | object ms' =>
      cases hms
      rfl
    | _ => cases hms
  have htyped : ∀ m ∈ ms, Yields (d.typed maxDepth m.2.node) m.2 := by
    have hexact := h.exact
    rw [hv] at hexact
    cases hexact with
    | object h => exact fun m hm => yields_typed (h m hm)
  have hfilter : (ms.map inDocument).filter (·.1 ≠ "netboot") =
      (ms.filter (·.1 ≠ "netboot")).map inDocument := by
    rw [List.filter_map]
    rfl
  rw [hfilter]
  -- lease fields are typed by the value, and from there on both formats do the same
  refine (Gives.mapM fun m hm => ?_).bind fun typed _ => ?_
  · have hm := htyped m (List.mem_filter.1 hm).1
    intro a ha
    cases ha
    exact hm.bind (.pure m)
  · have hlease : Gives id (lease? typed) (liftM ((lease? typed).map id)) := .lift _
    rw [Option.map_id] at hlease
    refine hlease.bind fun lease _ => ?_
    refine (gives_field fun m hm hname => ?_).bind fun boot _ => .pure _
    exact gives_bootSettings (h.named ms hv m hm (List.mem_singleton.1 hname))

end Record

/-- The records of a document that is written like a JSON object are those that the object holds,
under the same keys. -/
theorem Yaml.Document.gives_keyedRecords {d : Document} {ms : List (String × Json)}
    (hroot : d.root = (Json.object ms).node) (h : ∀ m ∈ ms, Record.Portable m.2) :
    Gives id (ms.mapM fun m => do return (m.1, ← Record.ofJson? m.2)) d.keyedRecords := by
  have hmembers : Yields (d.members d.root) (ms.map Record.inDocument) := by
    rw [hroot]
    exact Record.gives_members (.object ms) ms rfl
  intro records hrecords
  refine hmembers.bind (Gives.mapM (fun m hm => ?_) records hrecords)
  exact (Record.gives_read (h m hm)).bind fun r _ => .pure (m.1, r)

end BootServer
