import StreamGateway.Proofs.Json.Members
import StreamGateway.Proofs.Json.Shapes

/-! # Envelopes

An object with the key of embedded documents and no other is an envelope. The reader leaves no
envelope unopened: what it makes of a text is never one (`not_isEnvelope_of_parse`). An object that
is being built has a key of another name, or its first key is still to come. One character keeps
that (`Build.opens_next`), and so does the way through a text. -/
namespace StreamGateway.Json

/-- An object with the key of embedded documents and no other. -/
def IsEnvelope (v : Json) : Prop := ∃ w, v = .obj [(embeddedKey, w)]

/-- There is a key among the members that is not the one of embedded documents. -/
def Members.Mixed (members : Members) : Prop := ∃ key ≠ embeddedKey, members.get? key ≠ none

theorem Members.Mixed.not_isEnvelope {members : Members} (h : members.Mixed) :
    ¬IsEnvelope (.obj members) := by
  rintro ⟨w, hw⟩
  cases hw
  obtain ⟨key, hkey, hget⟩ := h
  rw [get?_cons, if_neg hkey] at hget
  exact hget rfl

theorem Members.Mixed.set {members : Members} {key : String} (h : key ≠ embeddedKey ∨ members.Mixed)
    (v : Json) : (members.set key v).Mixed := by
  by_cases hkey : key = embeddedKey
  · obtain ⟨other, hother, hget⟩ := h.resolve_left fun hne => hne hkey
    refine ⟨other, hother, ?_⟩
    rw [get?_set, if_neg (hkey ▸ hother)]
    exact hget
  · refine ⟨key, hkey, ?_⟩
    rw [get?_set, if_pos rfl]
    exact Option.some_ne_none v

/-- No object around the place can become an envelope. -/
def Place.Opens : Place → Prop
  | .whole => True
  | .item _ outer | .embedded outer => outer.Opens
  | .member members key outer => (key ≠ embeddedKey ∨ members.Mixed) ∧ outer.Opens

namespace Build

/-- No envelope is left unopened. -/
def Opens : Build → Prop
  | .value place | .colon place | .text _ place | .number _ _ place => place.Opens
  | .firstItem outer | .nextItem _ outer | .afterItem _ outer => outer.Opens
  | .firstKey embeds outer => embeds = true ∧ outer.Opens
  | .nextKey members outer | .afterMember members outer => members.Mixed ∧ outer.Opens
  | .inKey embeds _ members outer => (embeds = true ∨ members.Mixed) ∧ outer.Opens
  | .afterEmbedded v outer => ¬v.IsEnvelope ∧ outer.Opens
  | .word _ v place => ¬v.IsEnvelope ∧ place.Opens

def Next.Opens : Next → Prop
  | .go b => b.Opens
  | .done v | .past v => ¬v.IsEnvelope
  | .bad _ => True

theorem opens_placeOf {embeds : Bool} {members : Members} {outer : Place} (key : String)
    (h : embeds = true ∨ members.Mixed) (houter : outer.Opens) :
    (placeOf embeds members key outer).Opens := by
  rw [placeOf]
  split_ifs with hembedded
  · exact houter
  · refine ⟨?_, houter⟩
    rcases h with h | h
    · exact Or.inl fun hkey => hembedded ⟨h, hkey⟩
    · exact Or.inr h

theorem opens_enter {b : Build} (kind : Found) (place : Place) (hb : b.Opens) :
    (enter kind b place).Opens := by
  rw [enter.eq_def]
  split
  · trivial
  · split_ifs
    · exact hb
    · trivial

theorem opens_start {place : Place} (h : place.Opens) (c : Char) : (start place c).Opens := by
  have hplain : ¬IsEnvelope .null ∧ ∀ b, ¬IsEnvelope (.bool b) := by simp [IsEnvelope]
  rw [start]
  split_ifs
  · exact ⟨hplain.1, h⟩
  · exact ⟨hplain.2 _, h⟩
  · exact ⟨hplain.2 _, h⟩
  · exact h
  · exact opens_enter _ _ h
  · exact opens_enter _ _ ⟨rfl, h⟩
  · split
    · exact h
    · trivial

theorem not_isEnvelope_value {n : Numeral} {v : Json} (h : n.value = .ok v) : ¬v.IsEnvelope := by
  rintro ⟨w, rfl⟩
  have hfloat : n.toFloat ≠ .ok (.obj [(embeddedKey, w)]) := by
    rw [Numeral.toFloat]
    split <;> simp
  rw [Numeral.value] at h
  split_ifs at h
  · exact hfloat h
  · cases h
  · exact hfloat h
  · cases h

section

variable {document : String → Except Problem Json}
  (hdocument : ∀ s v, document s = .ok v → ¬v.IsEnvelope)

include hdocument

theorem opens_finished {v : Json} {place : Place} (hv : ¬v.IsEnvelope) (h : place.Opens) :
    (finished document v place).Opens := by
  cases place with
  | whole => exact hv
  | item items outer => exact h
  | member members key outer => exact ⟨.set h.1 v, h.2⟩
  | embedded outer =>
    cases v with
    | str s =>
      rw [finished]
      split
      · rename_i hread
        exact ⟨hdocument s _ hread, h⟩
      · trivial
    | _ => trivial

theorem opens_behindItem (items : List Json) {outer : Place} (h : outer.Opens) (c : Char) :
    (behindItem document items outer c).Opens := by
  rw [behindItem]
  split_ifs
  · exact h
  · exact h
  · exact opens_finished hdocument (by simp [IsEnvelope]) h
  · trivial

theorem opens_behindMember {members : Members} {outer : Place} (hmembers : members.Mixed)
    (h : outer.Opens) (c : Char) : (behindMember document members outer c).Opens := by
  rw [behindMember]
  split_ifs
  · exact ⟨hmembers, h⟩
  · exact ⟨hmembers, h⟩
  · exact opens_finished hdocument hmembers.not_isEnvelope h
  · trivial

theorem opens_behindEmbedded {v : Json} {outer : Place} (hv : ¬v.IsEnvelope)
    (h : outer.Opens) (c : Char) : (behindEmbedded document v outer c).Opens := by
  rw [behindEmbedded]
  split_ifs
  · exact ⟨hv, h⟩
  · exact opens_finished hdocument hv h
  · trivial
  · trivial

theorem opens_behindNumber {v : Json} {place : Place} (hv : ¬v.IsEnvelope)
    (h : place.Opens) (c : Char) : (behindNumber document v place c).Opens := by
  cases place with
  | whole => exact hv
  | item items outer =>
    have houter : outer.Opens := h
    exact opens_behindItem hdocument (v :: items) houter c
  | member members key outer => exact opens_behindMember hdocument (.set h.1 v) h.2 c
  | embedded outer => trivial

/-- One character leaves no envelope unopened. -/
theorem opens_next {b : Build} (h : b.Opens) (c : Char) (left : List Char) :
    (b.next document c left).Opens := by
  cases b with
  | value place =>
    rw [next]
    split_ifs
    · exact h
    · exact opens_start h c
  | firstItem outer =>
    rw [next]
    split_ifs
    · exact h
    · exact opens_finished hdocument (by simp [IsEnvelope]) h
    · have hplace : (Place.item [] outer).Opens := h
      exact opens_start hplace c
  | nextItem items outer =>
    rw [next]
    split_ifs
    · exact h
    · trivial
    · have hplace : (Place.item items outer).Opens := h
      exact opens_start hplace c
  | afterItem items outer => exact opens_behindItem hdocument items h c
  | firstKey embeds outer =>
    rw [next]
    split_ifs
    · exact h
    · exact opens_finished hdocument (by simp [IsEnvelope]) h.2
    · exact ⟨Or.inl h.1, h.2⟩
    · trivial
  | nextKey members outer =>
    rw [next]
    split_ifs
    · exact h
    · trivial
    · exact ⟨Or.inr h.1, h.2⟩
    · trivial
  | inKey embeds q members outer =>
    rw [next]
    split
    · exact h
    · exact opens_placeOf q.text h.1 h.2
    · trivial
  | colon place =>
    rw [next]
    split_ifs
    · exact h
    · exact h
    · trivial
  | afterMember members outer => exact opens_behindMember hdocument h.1 h.2 c
  | afterEmbedded v outer => exact opens_behindEmbedded hdocument h.1 h.2 c
  | word missing v place =>
    cases missing with
    | nil => exact opens_finished hdocument h.1 h.2
    | cons d more =>
      rw [next]
      split_ifs
      · trivial
      · exact opens_finished hdocument h.1 h.2
      · exact h
  | number phase numeral place =>
    rw [next]
    split
    · exact h
    · trivial
    · split
      · rename_i hvalue
        exact opens_behindNumber hdocument (not_isEnvelope_value hvalue) h c
      · trivial
  | text q place =>
    rw [next]
    split
    · exact h
    · exact opens_finished hdocument (by simp [IsEnvelope]) h
    · trivial

omit hdocument in
theorem not_isEnvelope_of_atEnd {b : Build} {v : Json} (h : b.atEnd = .ok v) : ¬v.IsEnvelope := by
  cases b with
  | number phase numeral place =>
    rw [atEnd] at h
    split_ifs at h
    obtain ⟨w, hvalue, hplace⟩ := bind_eq_ok.mp h
    cases place with
    | whole =>
      cases hplace
      exact not_isEnvelope_value hvalue
    | _ => cases hplace
  | _ => cases h

/-- Nor does the reader on its whole way. -/
theorem not_isEnvelope_of_run {b : Build} (h : b.Opens) {cs rest : List Char} {v : Json}
    (hrun : b.run document cs = .ok (v, rest)) : ¬v.IsEnvelope := by
  induction cs generalizing b with
  | nil =>
    obtain ⟨w, hend, hdone⟩ := bind_eq_ok.mp hrun
    cases hdone
    exact not_isEnvelope_of_atEnd hend
  | cons c cs ih =>
    have hopens := opens_next hdocument h c cs
    rw [run] at hrun
    split at hrun <;> rename_i hnext <;> rw [hnext] at hopens
    · exact ih hopens hrun
    · cases hrun
      exact hopens
    · cases hrun
      exact hopens
    · cases hrun

end

end Build

theorem not_isEnvelope_of_readWithin {levels : Nat} {cs rest : List Char} {v : Json}
    (h : readWithin levels cs = .ok (v, rest)) : ¬v.IsEnvelope := by
  induction levels generalizing cs rest v with
  | zero => exact Build.not_isEnvelope_of_run (b := .value .whole) (by simp) trivial h
  | succ levels ih =>
    refine Build.not_isEnvelope_of_run (b := .value .whole) (fun s w hdocument => ?_) trivial h
    obtain ⟨⟨w', rest'⟩, hread, halone⟩ := bind_eq_ok.mp hdocument
    exact eq_of_alone halone ▸ ih hread

/-- The reader leaves no envelope unopened. -/
theorem not_isEnvelope_of_parse {text : String} {v : Json} (h : parse text = .ok v) :
    ¬v.IsEnvelope := by
  obtain ⟨⟨w, rest⟩, hread, halone⟩ := bind_eq_ok.mp h
  exact eq_of_alone halone ▸ not_isEnvelope_of_readWithin hread

/-- A text is read by a reader of documents that leaves no envelope unopened. -/
theorem exists_document (levels : Nat) (cs : List Char) :
    ∃ document, (∀ s v, document s = .ok v → ¬v.IsEnvelope) ∧
      readWithin levels cs = Build.run document (.value .whole) cs := by
  cases levels with
  | zero => exact ⟨fun _ => .error .tooDeep, by simp, rfl⟩
  | succ levels =>
    refine ⟨fun s => readWithin levels s.toList >>= fun r => alone r.1 r.2, fun s v h => ?_, rfl⟩
    obtain ⟨⟨w, rest⟩, hread, halone⟩ := bind_eq_ok.mp h
    exact eq_of_alone halone ▸ not_isEnvelope_of_readWithin hread

end StreamGateway.Json
