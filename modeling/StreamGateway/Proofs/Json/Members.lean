import StreamGateway.Json.Merge
import StreamGateway.Json.Parse

/-! # Objects by their keys

An object is looked up by key, and its members stand by increasing key, each key once
(`Members.Sorted`). What is read from a text is tidy through and through: all of its objects are
sorted, and all whole numbers fit into sixty-four bits (`tidy_parse`). Laying one object over
another is therefore a matter of single keys (`get?_mergeMembers`). -/
namespace StreamGateway.Json

namespace Members

/-- The members stand by increasing key. -/
def Sorted (ms : Members) : Prop := ms.Pairwise fun a b => a.1 < b.1

@[simp] theorem get?_nil (key : String) : get? key [] = none := rfl

theorem get?_cons (key k : String) (v : Json) (ms : Members) :
    get? key ((k, v) :: ms) = if key = k then some v else get? key ms := rfl

theorem get?_set (key : String) (value : Json) (ms : Members) (x : String) :
    get? x (set key value ms) = if x = key then some value else get? x ms := by
  induction ms with
  | nil => rfl
  | cons m ms ih =>
    obtain ⟨k, v⟩ := m
    rw [set]
    split
    · rfl
    · split
      · rename_i hkey
        subst hkey
        by_cases hx : x = key
        · rw [get?_cons, if_pos hx, if_pos hx]
        · rw [get?_cons, get?_cons, if_neg hx, if_neg hx, if_neg hx]
      · rename_i hkey
        rw [get?_cons, get?_cons, ih]
        by_cases hx : x = k
        · have hne : x ≠ key := fun heq => hkey (heq.symm.trans hx)
          rw [if_pos hx, if_neg hne, if_pos hx]
        · rw [if_neg hx, if_neg hx]

theorem mem_of_get? {key : String} {v : Json} {ms : Members} (h : get? key ms = some v) :
    (key, v) ∈ ms := by
  induction ms with
  | nil => cases h
  | cons m ms ih =>
    obtain ⟨k, w⟩ := m
    rw [get?_cons] at h
    split at h <;> rename_i hkey
    · cases h
      rw [hkey]
      exact List.mem_cons_self
    · exact List.mem_cons_of_mem _ (ih h)

theorem get?_of_forall_ne {key : String} {ms : Members} (h : ∀ m ∈ ms, m.1 ≠ key) :
    get? key ms = none := by
  cases hget : get? key ms with
  | none => rfl
  | some v => exact absurd rfl (h _ (mem_of_get? hget))

/-- Behind the first member of a sorted object its key does not come again. -/
theorem Sorted.get?_tail {k : String} {v : Json} {ms : Members} (h : Sorted ((k, v) :: ms)) :
    get? k ms = none := by
  obtain ⟨hfirst, -⟩ := List.pairwise_cons.mp h
  apply get?_of_forall_ne
  intro m hm heq
  have hlt := hfirst m hm
  rw [heq] at hlt
  exact String.lt_irrefl k hlt

theorem mem_set {key : String} {value : Json} {ms : Members} {m : String × Json}
    (h : m ∈ set key value ms) : m = (key, value) ∨ m ∈ ms := by
  induction ms with
  | nil => exact Or.inl (List.mem_singleton.mp h)
  | cons n ms ih =>
    obtain ⟨k, v⟩ := n
    rw [set] at h
    split at h
    · exact List.mem_cons.mp h
    · split at h
      · exact (List.mem_cons.mp h).imp_right (List.mem_cons_of_mem _)
      · rcases List.mem_cons.mp h with hm | hm
        · exact Or.inr (hm ▸ List.mem_cons_self)
        · exact (ih hm).imp_right (List.mem_cons_of_mem _)

theorem Sorted.set {ms : Members} (h : Sorted ms) (key : String) (value : Json) :
    Sorted (ms.set key value) := by
  induction ms with
  | nil => exact List.pairwise_singleton _ _
  | cons m ms ih =>
    obtain ⟨k, v⟩ := m
    obtain ⟨hfirst, hrest⟩ := List.pairwise_cons.mp h
    rw [Members.set]
    split
    · rename_i hlt
      refine List.pairwise_cons.mpr ⟨fun n hn => ?_, h⟩
      rcases List.mem_cons.mp hn with rfl | hn
      · exact hlt
      · exact String.lt_trans hlt (hfirst n hn)
    · rename_i hnlt
      split
      · rename_i hkey
        exact List.pairwise_cons.mpr ⟨hkey ▸ hfirst, hrest⟩
      · rename_i hne
        have hgt : k < key :=
          String.not_le.mp fun hle => hne (String.le_antisymm hle (String.not_lt.mp hnlt))
        refine List.pairwise_cons.mpr ⟨fun n hn => ?_, ih hrest⟩
        rcases mem_set hn with rfl | hn
        · exact hgt
        · exact hfirst n hn

/-- The members of a list added to an object one by one. -/
def gather (pairs : List (String × Json)) (ms : Members) : Members :=
  pairs.foldl (fun ms pair => ms.set pair.1 pair.2) ms

theorem get?_gather_of_not_mem {pairs : List (String × Json)} {key : String}
    (h : key ∉ pairs.map Prod.fst) (ms : Members) : get? key (gather pairs ms) = get? key ms := by
  induction pairs generalizing ms with
  | nil => rfl
  | cons pair pairs ih =>
    rw [List.map_cons, List.mem_cons, not_or] at h
    rw [gather, List.foldl_cons, ← gather, ih h.2, get?_set, if_neg h.1]

theorem get?_gather {pairs : List (String × Json)} (hkeys : (pairs.map Prod.fst).Nodup)
    {key : String} {v : Json} (h : (key, v) ∈ pairs) (ms : Members) :
    get? key (gather pairs ms) = some v := by
  induction pairs generalizing ms with
  | nil => cases h
  | cons pair pairs ih =>
    obtain ⟨hfirst, hrest⟩ := List.nodup_cons.mp hkeys
    rw [gather, List.foldl_cons, ← gather]
    rcases List.mem_cons.mp h with rfl | h
    · rw [get?_gather_of_not_mem hfirst, get?_set, if_pos rfl]
    · exact ih hrest h _

end Members

/-! ## Layers -/

/-- What one key of an object becomes under another object. -/
def layer (lower upper : Option Json) : Option Json :=
  match upper with
  | none => lower
  | some v =>
    if v.isNull then lower
    else match lower with
      | none => some v
      | some old => some (merge old v)

/-- One member laid over an object. -/
def mergeMember (lower : Members) (key : String) (v : Json) : Members :=
  if v.isNull then lower
  else match Members.get? key lower with
    | some old => Members.set key (merge old v) lower
    | none => Members.set key v lower

theorem merge_of_ne_obj {lower : Json} (h : ∀ members, lower ≠ .obj members) (upper : Json) :
    merge lower upper = upper := by
  rw [merge]
  exact fun members _ heq _ => h members heq

theorem mergeMembers_nil (lower : Members) : mergeMembers lower [] = lower := by
  rw [mergeMembers]

theorem mergeMembers_cons (lower : Members) (key : String) (v : Json) (upper : Members) :
    mergeMembers lower ((key, v) :: upper) = mergeMembers (mergeMember lower key v) upper := by
  rw [mergeMembers]
  rfl

theorem get?_mergeMember (lower : Members) (key : String) (v : Json) (x : String) :
    Members.get? x (mergeMember lower key v) =
      if x = key then layer (Members.get? key lower) (some v) else Members.get? x lower := by
  simp only [mergeMember, layer]
  by_cases hx : x = key
  · subst hx
    split
    · simp
    · cases Members.get? x lower <;> simp [Members.get?_set]
  · rw [if_neg hx]
    split
    · rfl
    · cases Members.get? key lower <;> simp [Members.get?_set, hx]

theorem get?_mergeMembers {lower upper : Members} (h : upper.Sorted) (x : String) :
    Members.get? x (mergeMembers lower upper) =
      layer (Members.get? x lower) (Members.get? x upper) := by
  induction upper generalizing lower with
  | nil =>
    rw [mergeMembers_nil]
    rfl
  | cons m upper ih =>
    obtain ⟨key, v⟩ := m
    rw [mergeMembers_cons, ih h.of_cons, get?_mergeMember, Members.get?_cons]
    by_cases hx : x = key
    · subst hx
      rw [if_pos rfl, if_pos rfl, h.get?_tail]
      rfl
    · rw [if_neg hx, if_neg hx]

/-! ## Values that were read -/

/-- A whole number that is read as one. -/
def InRange (n : Int) : Prop := -(Nat.pow 2 63 : Int) ≤ n ∧ n < (Nat.pow 2 64 : Int)

/-- All objects are sorted and all whole numbers are in range. -/
inductive Tidy : Json → Prop where
  | null : Tidy .null
  | bool (b : Bool) : Tidy (.bool b)
  | int {n : Int} (h : InRange n) : Tidy (.int n)
  | float (x : Binary64) : Tidy (.float x)
  | str (s : String) : Tidy (.str s)
  | arr {items : List Json} (h : ∀ v ∈ items, Tidy v) : Tidy (.arr items)
  | obj {members : Members} (hsorted : members.Sorted) (h : ∀ m ∈ members, Tidy m.2) :
      Tidy (.obj members)

theorem Tidy.members {members : Members} (h : Tidy (.obj members)) :
    members.Sorted ∧ ∀ m ∈ members, Tidy m.2 := by
  cases h with
  | obj hsorted h => exact ⟨hsorted, h⟩

theorem Tidy.set {members : Members} {key : String} {v : Json} (h : Tidy (.obj members))
    (hv : Tidy v) : Tidy (.obj (members.set key v)) := by
  obtain ⟨hsorted, h⟩ := h.members
  refine .obj (hsorted.set key v) fun m hm => ?_
  rcases Members.mem_set hm with rfl | hm
  · exact hv
  · exact h m hm

theorem tidy_object_nil : Tidy (.obj []) :=
  .obj List.Pairwise.nil fun _ hm => absurd hm List.not_mem_nil

theorem Tidy.gather {pairs : List (String × Json)} (hpairs : ∀ pair ∈ pairs, pair.2.Tidy)
    {ms : Members} (h : Tidy (.obj ms)) : Tidy (.obj (Members.gather pairs ms)) := by
  induction pairs generalizing ms with
  | nil => exact h
  | cons pair pairs ih =>
    obtain ⟨hpair, hpairs⟩ := List.forall_mem_cons.mp hpairs
    exact ih hpairs (h.set hpair)

mutual

/-- Layers of tidy values are tidy. -/
theorem Tidy.merge {lower upper : Json} (hlower : lower.Tidy) (hupper : upper.Tidy) :
    (merge lower upper).Tidy := by
  match lower, upper with
  | .obj lower, .obj upper =>
    rw [Json.merge]
    exact hlower.mergeMembers hupper
  | .null, _ | .bool _, _ | .int _, _ | .float _, _ | .str _, _ | .arr _, _ =>
    rw [merge_of_ne_obj (by simp)]
    exact hupper
  | .obj _, .null | .obj _, .bool _ | .obj _, .int _ | .obj _, .float _ | .obj _,
      .str _ | .obj _, .arr _ =>
    exact hupper

theorem Tidy.mergeMembers {lower upper : Members} (hlower : Tidy (.obj lower))
    (hupper : Tidy (.obj upper)) : Tidy (.obj (mergeMembers lower upper)) := by
  match upper with
  | [] =>
    rw [mergeMembers_nil]
    exact hlower
  | (key, v) :: upper =>
    obtain ⟨hsorted, hvalues⟩ := hupper.members
    obtain ⟨hv, hrest⟩ := List.forall_mem_cons.mp hvalues
    have hmember : Tidy (.obj (mergeMember lower key v)) := by
      rw [mergeMember]
      split
      · exact hlower
      split
      · rename_i old hold
        have hold := hlower.members.2 _ (Members.mem_of_get? hold)
        exact hlower.set (hold.merge hv)
      · exact hlower.set hv
    rw [mergeMembers_cons]
    exact hmember.mergeMembers (.obj hsorted.of_cons hrest)

end

/-! ### Numbers -/

/-- The digits taken into account fit into sixty-four bits. -/
def Numeral.Fits (n : Numeral) : Prop := n.leading ≤ Number.largest

theorem Numeral.Fits.take {n : Numeral} (h : n.Fits) (phase : Phase) (c : Char) :
    (n.take phase c).Fits := by
  cases phase with
  | whole =>
    rw [Numeral.take, takeWhole]
    split
    · exact h
    · rename_i hfull
      exact Nat.le_of_not_lt fun hlt => hfull (Or.inr hlt)
  | fraction =>
    rw [Numeral.take, takeFraction]
    split
    · exact h
    · rename_i hfull
      exact Nat.le_of_not_lt fun hlt => hfull (Or.inr hlt)
  | _ => exact h

theorem Numeral.tidy_toFloat {n : Numeral} {v : Json} (h : n.toFloat = .ok v) : v.Tidy := by
  rw [toFloat] at h
  split at h <;> cases h
  exact .float _

theorem inRange_of_le {n : Nat} (h : n ≤ Number.largest) : InRange n := by
  have hlargest : Number.largest = 18446744073709551615 := rfl
  have hlow : (Nat.pow 2 63 : Int) = 9223372036854775808 := rfl
  have hhigh : (Nat.pow 2 64 : Int) = 18446744073709551616 := rfl
  rw [InRange, hlow, hhigh]
  omega

theorem inRange_neg {n : Nat} (h : ¬ Nat.pow 2 63 < n) : InRange (-n) := by
  have hlow : Nat.pow 2 63 = 9223372036854775808 := rfl
  have hhigh : (Nat.pow 2 64 : Int) = 18446744073709551616 := rfl
  rw [hlow] at h
  rw [InRange, hlow, hhigh]
  omega

theorem Numeral.tidy_value {n : Numeral} {v : Json} (hn : n.Fits) (h : n.value = .ok v) :
    v.Tidy := by
  rw [value] at h
  split at h
  · exact tidy_toFloat h
  · split at h
    · cases h
      exact .int (inRange_of_le hn)
    · split at h
      · exact tidy_toFloat h
      · rename_i hsmall
        cases h
        exact .int (inRange_neg fun hlt => hsmall (Or.inr hlt))

/-! ### The reader -/

/-- What has been built around a value is tidy. -/
def Place.Tidy : Place → Prop
  | .whole => True
  | .item items outer => (∀ v ∈ items, v.Tidy) ∧ outer.Tidy
  | .member members _ outer => (Json.obj members).Tidy ∧ outer.Tidy
  | .embedded outer => outer.Tidy

namespace Build

/-- What has been built so far is tidy. -/
def Tidy : Build → Prop
  | .value place | .colon place | .text _ place => place.Tidy
  | .firstItem outer | .firstKey _ outer => outer.Tidy
  | .nextItem items outer | .afterItem items outer => (∀ v ∈ items, v.Tidy) ∧ outer.Tidy
  | .nextKey members outer | .inKey _ _ members outer | .afterMember members outer =>
    (Json.obj members).Tidy ∧ outer.Tidy
  | .afterEmbedded v outer => v.Tidy ∧ outer.Tidy
  | .word _ v place => v.Tidy ∧ place.Tidy
  | .number _ numeral place => numeral.Fits ∧ place.Tidy

def Next.Tidy : Next → Prop
  | .go b => b.Tidy
  | .done v | .past v => v.Tidy
  | .bad _ => True

theorem tidy_placeOf {members : Members} {outer : Place} (embeds : Bool) (key : String)
    (h : (Json.obj members).Tidy) (houter : outer.Tidy) :
    (placeOf embeds members key outer).Tidy := by
  rw [placeOf]
  split
  · exact houter
  · exact ⟨h, houter⟩

theorem tidy_enter {b : Build} (kind : Found) (place : Place) (hb : b.Tidy) :
    (enter kind b place).Tidy := by
  cases place with
  | embedded => trivial
  | _ =>
    rw [enter]
    split
    · exact hb
    · trivial
    · intro outer heq
      cases heq

theorem tidy_start {place : Place} (h : place.Tidy) (c : Char) : (start place c).Tidy := by
  rw [start]
  split
  · exact ⟨.null, h⟩
  split
  · exact ⟨.bool _, h⟩
  split
  · exact ⟨.bool _, h⟩
  split
  · exact h
  split
  · exact tidy_enter _ _ h
  split
  · exact tidy_enter _ _ h
  split
  · exact ⟨Numeral.Fits.take (Nat.zero_le _) _ c, h⟩
  · trivial

section

variable {document : String → Except Problem Json}
  (hdocument : ∀ s v, document s = .ok v → v.Tidy)

include hdocument

theorem tidy_finished {v : Json} {place : Place} (hv : v.Tidy) (h : place.Tidy) :
    (finished document v place).Tidy := by
  cases place with
  | whole => exact hv
  | item items outer => exact ⟨List.forall_mem_cons.mpr ⟨hv, h.1⟩, h.2⟩
  | member members key outer => exact ⟨h.1.set hv, h.2⟩
  | embedded outer =>
    cases v with
    | str s =>
      rw [finished]
      split
      · rename_i hread
        exact ⟨hdocument s _ hread, h⟩
      · trivial
    | _ => trivial

theorem tidy_behindItem {items : List Json} {outer : Place} (hitems : ∀ v ∈ items, v.Tidy)
    (h : outer.Tidy) (c : Char) : (behindItem document items outer c).Tidy := by
  rw [behindItem]
  split
  · exact ⟨hitems, h⟩
  split
  · exact ⟨hitems, h⟩
  split
  · exact tidy_finished hdocument (.arr fun v hv => hitems v (List.mem_reverse.mp hv)) h
  · trivial

theorem tidy_behindMember {members : Members} {outer : Place} (hmembers : (Json.obj members).Tidy)
    (h : outer.Tidy) (c : Char) : (behindMember document members outer c).Tidy := by
  rw [behindMember]
  split
  · exact ⟨hmembers, h⟩
  split
  · exact ⟨hmembers, h⟩
  split
  · exact tidy_finished hdocument hmembers h
  · trivial

theorem tidy_behindEmbedded {v : Json} {outer : Place} (hv : v.Tidy) (h : outer.Tidy) (c : Char) :
    (behindEmbedded document v outer c).Tidy := by
  rw [behindEmbedded]
  split
  · exact ⟨hv, h⟩
  split
  · exact tidy_finished hdocument hv h
  split <;> trivial

theorem tidy_behindNumber {v : Json} {place : Place} (hv : v.Tidy) (h : place.Tidy) (c : Char) :
    (behindNumber document v place c).Tidy := by
  cases place with
  | whole => exact hv
  | item items outer => exact tidy_behindItem hdocument (List.forall_mem_cons.mpr ⟨hv, h.1⟩) h.2 c
  | member members key outer => exact tidy_behindMember hdocument (h.1.set hv) h.2 c
  | embedded outer => trivial

/-- One character keeps everything tidy. -/
theorem tidy_next {b : Build} (h : b.Tidy) (c : Char) (left : List Char) :
    (b.next document c left).Tidy := by
  cases b with
  | value place =>
    rw [next]
    split
    · exact h
    · exact tidy_start h c
  | firstItem outer =>
    have hnil : ∀ v ∈ ([] : List Json), v.Tidy := fun _ hv => absurd hv List.not_mem_nil
    rw [next]
    split
    · exact h
    split
    · exact tidy_finished hdocument (.arr hnil) h
    · have hplace : (Place.item [] outer).Tidy := ⟨hnil, h⟩
      exact tidy_start hplace c
  | nextItem items outer =>
    rw [next]
    split
    · exact h
    split
    · trivial
    · have hplace : (Place.item items outer).Tidy := h
      exact tidy_start hplace c
  | afterItem items outer => exact tidy_behindItem hdocument h.1 h.2 c
  | firstKey embeds outer =>
    rw [next]
    split
    · exact h
    split
    · exact tidy_finished hdocument tidy_object_nil h
    split
    · exact ⟨tidy_object_nil, h⟩
    · trivial
  | nextKey members outer =>
    rw [next]
    split
    · exact h
    split
    · trivial
    split
    · exact h
    · trivial
  | inKey embeds q members outer =>
    rw [next]
    split
    · exact h
    · exact tidy_placeOf embeds q.text h.1 h.2
    · trivial
  | colon place =>
    rw [next]
    split
    · exact h
    split
    · exact h
    · trivial
  | afterMember members outer => exact tidy_behindMember hdocument h.1 h.2 c
  | afterEmbedded v outer => exact tidy_behindEmbedded hdocument h.1 h.2 c
  | word missing v place =>
    cases missing with
    | nil => exact tidy_finished hdocument h.1 h.2
    | cons d more =>
      rw [next]
      split
      · trivial
      split
      · exact tidy_finished hdocument h.1 h.2
      · exact h
  | number phase numeral place =>
    rw [next]
    split
    · exact ⟨h.1.take _ c, h.2⟩
    · trivial
    · split
      · rename_i hvalue
        exact tidy_behindNumber hdocument (Numeral.tidy_value h.1 hvalue) h.2 c
      · trivial
  | text q place =>
    rw [next]
    split
    · exact h
    · exact tidy_finished hdocument (.str q.text) h
    · trivial

omit hdocument in
theorem tidy_atEnd {b : Build} {v : Json} (h : b.Tidy) (hend : b.atEnd = .ok v) : v.Tidy := by
  cases b with
  | number phase numeral place =>
    rw [atEnd] at hend
    split at hend
    · cases hvalue : numeral.value with
      | error _ =>
        rw [hvalue] at hend
        cases hend
      | ok w =>
        rw [hvalue] at hend
        cases place with
        | whole =>
          cases hend
          exact Numeral.tidy_value h.1 hvalue
        | _ => cases hend
    · cases hend
  | _ => cases hend

theorem tidy_run {b : Build} (h : b.Tidy) {cs rest : List Char} {v : Json}
    (hrun : b.run document cs = .ok (v, rest)) : v.Tidy := by
  induction cs generalizing b with
  | nil =>
    rw [run] at hrun
    cases hend : b.atEnd with
    | error _ =>
      rw [hend] at hrun
      cases hrun
    | ok w =>
      rw [hend] at hrun
      cases hrun
      exact tidy_atEnd h hend
  | cons c cs ih =>
    have hnext := tidy_next hdocument h c cs
    rw [run] at hrun
    split at hrun <;> rename_i heq <;> rw [heq] at hnext
    · exact ih hnext hrun
    · cases hrun
      exact hnext
    · cases hrun
      exact hnext
    · cases hrun

end

end Build

theorem eq_of_alone {v w : Json} {rest : List Char} (h : alone v rest = .ok w) : v = w := by
  rw [alone] at h
  split at h <;> cases h
  rfl

theorem tidy_readWithin {levels : Nat} {cs rest : List Char} {v : Json}
    (h : readWithin levels cs = .ok (v, rest)) : v.Tidy := by
  induction levels generalizing cs rest v with
  | zero =>
    exact Build.tidy_run (b := .value .whole) (fun _ _ hdocument => by cases hdocument) trivial h
  | succ levels ih =>
    -- a document inside a string is read with one level less
    refine Build.tidy_run (b := .value .whole) (fun s w hdocument => ?_) trivial h
    cases hread : readWithin levels s.toList with
    | error _ =>
      rw [hread] at hdocument
      cases hdocument
    | ok read =>
      rw [hread] at hdocument
      exact eq_of_alone hdocument ▸ ih hread

/-- What is read from a text is tidy. -/
theorem tidy_parse {text : String} {v : Json} (h : parse text = .ok v) : v.Tidy := by
  rw [parse] at h
  cases hread : read text.toList with
  | error _ =>
    rw [hread] at h
    cases h
  | ok result =>
    rw [hread] at h
    exact eq_of_alone h ▸ tidy_readWithin hread

end StreamGateway.Json
