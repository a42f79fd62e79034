import StreamGateway.Json.Print
import StreamGateway.Proofs.Json.Members

/-! # One document over another

What becomes of two documents when one is laid over the other, key by key and along paths of keys.
Laying the upper document over the result once more changes nothing (`merge_merge`). A null of the
upper document is skipped as long as the lower one has an object around it. If it has none there,
then the object of the upper document is taken over as a whole, with its nulls
(`at?_merge_null`). -/
namespace StreamGateway.Json

theorem merge_of_upper_ne_obj {upper : Json} (h : ∀ members, upper ≠ .obj members) (lower : Json) :
    merge lower upper = upper := by
  rw [merge]
  exact fun _ members _ heq => h members heq

theorem merge_obj (lower upper : Members) :
    merge (.obj lower) (.obj upper) = .obj (mergeMembers lower upper) := by
  rw [merge]

theorem isNull_eq_false {v : Json} (h : v ≠ .null) : v.isNull = false := by
  cases v with
  | null => exact absurd rfl h
  | _ => rfl

/-! ## Keys -/

/-- What the upper object lacks or has as null stays as it is below. -/
theorem layer_of_skipped {upper : Option Json} (h : upper = none ∨ upper = some .null)
    (lower : Option Json) : layer lower upper = lower := by
  rcases h with rfl | rfl <;> rfl

theorem layer_none_some {v : Json} (hv : v ≠ .null) : layer none (some v) = some v := by
  simp [layer, isNull_eq_false hv]

theorem layer_some_some {v : Json} (hv : v ≠ .null) (old : Json) :
    layer (some old) (some v) = some (merge old v) := by
  simp [layer, isNull_eq_false hv]

theorem layer_isSome_iff {lower upper : Option Json} :
    (layer lower upper).isSome ↔ lower.isSome ∨ ∃ v, upper = some v ∧ v ≠ .null := by
  cases upper with
  | none => simp [layer]
  | some v =>
    by_cases hv : v = .null
    · simp [layer_of_skipped, hv]
    · cases lower <;> simp [layer_none_some, layer_some_some, hv]

namespace Members

theorem Sorted.first_le {k key : String} {v w : Json} {ms : Members} (h : Sorted ((k, v) :: ms))
    (hget : get? key ((k, v) :: ms) = some w) : k ≤ key := by
  rcases List.mem_cons.mp (mem_of_get? hget) with heq | hmem
  · cases heq
    exact String.le_refl k
  · exact String.not_lt.mp (String.lt_asymm ((List.pairwise_cons.mp h).1 _ hmem))

/-- Sorted members are known by what is found under each key. -/
theorem Sorted.ext {ms ms' : Members} (h : ms.Sorted) (h' : ms'.Sorted)
    (hget : ∀ key, get? key ms = get? key ms') : ms = ms' := by
  induction ms generalizing ms' with
  | nil =>
    cases ms' with
    | nil => rfl
    | cons m ms' =>
      have hfirst := hget m.1
      rw [get?_nil, get?_cons, if_pos rfl] at hfirst
      cases hfirst
  | cons m ms ih =>
    obtain ⟨k, v⟩ := m
    cases ms' with
    | nil =>
      have hfirst := hget k
      rw [get?_nil, get?_cons, if_pos rfl] at hfirst
      cases hfirst
    | cons m' ms' =>
      obtain ⟨k', v'⟩ := m'
      have hv : get? k ((k, v) :: ms) = some v := by rw [get?_cons, if_pos rfl]
      have hv' : get? k' ((k', v') :: ms') = some v' := by rw [get?_cons, if_pos rfl]
      -- each first key is found in the other list, so it does not stand before the first key there
      obtain rfl : k = k' :=
        String.le_antisymm (h.first_le ((hget k').trans hv')) (h'.first_le ((hget k).symm.trans hv))
      obtain rfl : v = v' := Option.some.inj (hv.symm.trans ((hget k).trans hv'))
      have hrest : ∀ key, get? key ms = get? key ms' := by
        intro key
        by_cases hkey : key = k
        · rw [hkey, h.get?_tail, h'.get?_tail]
        · simpa [get?_cons, hkey] using hget key
      rw [ih h.of_cons h'.of_cons hrest]

end Members

/-! ## The same document twice -/

/-- Laying the value over once more changes nothing, whatever lies below. -/
def Settles (upper : Json) : Prop :=
  ∀ lower, lower.Tidy → merge (merge lower upper) upper = merge lower upper

theorem Settles.merge_self {v : Json} (h : v.Settles) : merge v v = v := by
  have hnull : merge .null v = v := merge_of_ne_obj (by simp) v
  simpa [hnull] using h .null .null

theorem Settles.layer_layer {v : Json} (h : v.Settles) {lower : Option Json}
    (hlower : ∀ old ∈ lower, old.Tidy) :
    layer (layer lower (some v)) (some v) = layer lower (some v) := by
  by_cases hv : v = .null
  · rw [layer_of_skipped (Or.inr (congrArg some hv))]
  · cases lower with
    | none => rw [layer_none_some hv, layer_some_some hv, h.merge_self]
    | some old => rw [layer_some_some hv, layer_some_some hv, h old (hlower old rfl)]

theorem Settles.layer_self {v : Json} (h : v.Settles) : layer (some v) (some v) = some v := by
  by_cases hv : v = .null
  · rw [layer_of_skipped (Or.inr (congrArg some hv))]
  · rw [layer_some_some hv, h.merge_self]

section

variable {upper : Members} (hupper : (Json.obj upper).Tidy) (hsettles : ∀ m ∈ upper, m.2.Settles)

include hupper hsettles

theorem mergeMembers_self : mergeMembers upper upper = upper := by
  have hsorted := hupper.members.1
  refine (hupper.mergeMembers hupper).members.1.ext hsorted fun key => ?_
  rw [get?_mergeMembers hsorted]
  cases hkey : Members.get? key upper with
  | none => rfl
  | some v => exact (hsettles _ (Members.mem_of_get? hkey)).layer_self

theorem mergeMembers_mergeMembers {lower : Members} (hlower : (Json.obj lower).Tidy) :
    mergeMembers (mergeMembers lower upper) upper = mergeMembers lower upper := by
  have hsorted := hupper.members.1
  have hmerged := hlower.mergeMembers hupper
  refine (hmerged.mergeMembers hupper).members.1.ext hmerged.members.1 fun key => ?_
  rw [get?_mergeMembers hsorted, get?_mergeMembers hsorted]
  cases hkey : Members.get? key upper with
  | none => rfl
  | some v =>
    refine (hsettles _ (Members.mem_of_get? hkey)).layer_layer fun old hold => ?_
    exact hlower.members.2 _ (Members.mem_of_get? hold)

end

/-- The same document laid over twice is the same as once. -/
theorem merge_merge {upper : Json} (hupper : upper.Tidy) : upper.Settles := by
  induction hupper with
  | @obj upper hsorted hvalues ih =>
    -- the members settle by induction; a lower object is merged with them, anything else gives way
    -- to them
    have htidy : (Json.obj upper).Tidy := .obj hsorted hvalues
    intro lower hlower
    by_cases hobj : ∃ members, lower = .obj members
    · obtain ⟨members, rfl⟩ := hobj
      rw [merge_obj, merge_obj, mergeMembers_mergeMembers htidy ih hlower]
    · rw [merge_of_ne_obj (not_exists.mp hobj), merge_obj, mergeMembers_self htidy ih]
  | _ =>
    intro lower _
    rw [merge_of_upper_ne_obj (by simp), merge_of_upper_ne_obj (by simp)]

/-- **Laying a document over another settles at once and loses no key.** Doing it again changes
nothing. The keys of two objects laid over each other are those of the lower one and those under
which the upper one has something other than null, and under all keys that the upper one lacks or
has as null the lower one stays as it is. -/
theorem merge_settles_and_keeps_keys :
    (∀ lower upper : Json, lower.Tidy → upper.Tidy →
      merge (merge lower upper) upper = merge lower upper) ∧
    ∀ lower upper : Members, (Json.obj lower).Tidy → (Json.obj upper).Tidy →
      ∃ merged : Members, merge (.obj lower) (.obj upper) = .obj merged ∧
        (∀ key, (merged.get? key).isSome ↔
          (lower.get? key).isSome ∨ ∃ v, upper.get? key = some v ∧ v ≠ .null) ∧
        ∀ key, upper.get? key = none ∨ upper.get? key = some .null →
          merged.get? key = lower.get? key := by
  refine ⟨fun lower upper hlower hupper => merge_merge hupper lower hlower, ?_⟩
  intro lower upper _ hupper
  have hget (key : String) :
      Members.get? key (mergeMembers lower upper) = layer (lower.get? key) (upper.get? key) :=
    get?_mergeMembers hupper.members.1 key
  refine ⟨mergeMembers lower upper, merge_obj lower upper, fun key => ?_, fun key hskipped => ?_⟩
  · rw [hget, layer_isSome_iff]
  · rw [hget, layer_of_skipped hskipped]

/-- A document with an object, a number and a null. -/
def ground : Members := [("a", .obj [("x", .int 1)]), ("b", .int 2), ("c", .null)]

/-- A document with nulls at several depths. -/
def cover : Members := [("a", .obj [("x", .null), ("y", .obj [("z", .null)])]), ("b", .null),
      ("d", .arr [.null])]

theorem tidy_ground : (Json.obj ground).Tidy := by
  have hparse : parse "\x7b\"a\":\x7b\"x\":1\x7d,\"b\":2,\"c\":null\x7d" = .ok (.obj ground) := by
    rfl
  exact tidy_parse hparse

theorem tidy_cover : (Json.obj cover).Tidy := by
  have hparse :
      parse "\x7b\"d\":[null],\"b\":null,\"a\":\x7b\"y\":\x7b\"z\":null\x7d,\"x\":null\x7d\x7d" =
        .ok (.obj cover) := by rfl
  exact tidy_parse hparse

theorem merge_settles_and_keeps_keys_nested :
    (Json.obj ground).Tidy ∧ (Json.obj cover).Tidy ∧
      merge (merge (.obj ground) (.obj cover)) (.obj cover) = merge (.obj ground) (.obj cover) ∧
      ∃ merged : Members, merge (.obj ground) (.obj cover) = .obj merged ∧
        (merged.get? "d").isSome ∧
        ¬(merged.get? "e").isSome ∧ merged.get? "b" = some (.int 2) := by
  obtain ⟨hagain, hkeys⟩ := merge_settles_and_keeps_keys
  obtain ⟨merged, hmerged, hsome, hkept⟩ := hkeys ground cover tidy_ground tidy_cover
  refine ⟨tidy_ground, tidy_cover, hagain _ _ tidy_ground tidy_cover, merged, hmerged, ?_, ?_,
    hkept "b" (Or.inr rfl)⟩
  · exact (hsome "d").mpr (Or.inr ⟨.arr [.null], rfl, by simp⟩)
  · rw [hsome]
    simp [ground, cover, Members.get?]

/-! ## Paths -/

/-- The value at a path of keys. -/
def at? : Json → List String → Option Json
  | v, [] => some v
  | .obj members, key :: path => (Members.get? key members).bind fun v => v.at? path
  | _, _ :: _ => none

theorem at?_nil (v : Json) : v.at? [] = some v := by
  rw [at?]

theorem at?_cons (members : Members) (key : String) (path : List String) :
    (Json.obj members).at? (key :: path) = (members.get? key).bind fun v => v.at? path := by
  rw [at?]

theorem at?_of_ne_obj {v : Json} (h : ∀ members, v ≠ .obj members) (key : String)
    (path : List String) : v.at? (key :: path) = none := by
  rw [at?]
  exact fun members heq => h members heq

/-- A path is followed one part after the other. -/
theorem at?_append (v : Json) (path path' : List String) :
    v.at? (path ++ path') = (v.at? path).bind fun w => w.at? path' := by
  induction path generalizing v with
  | nil => rw [List.nil_append, at?_nil, Option.bind_some]
  | cons key path ih =>
    by_cases hobj : ∃ members, v = .obj members
    · obtain ⟨members, rfl⟩ := hobj
      rw [List.cons_append, at?_cons, at?_cons, Option.bind_assoc]
      exact Option.bind_congr fun w _ => ih w
    · have hne := not_exists.mp hobj
      rw [List.cons_append, at?_of_ne_obj hne, at?_of_ne_obj hne, Option.bind_none]

/-- Inside something that is no object there is nothing. -/
theorem at?_eq_none {v : Json} {path : List String}
    (h : ∀ members, v.at? path ≠ some (.obj members)) (key : String) :
    v.at? (path ++ [key]) = none := by
  rw [at?_append]
  cases hv : v.at? path with
  | none => rfl
  | some w =>
    exact at?_of_ne_obj (fun members heq => h members (hv.trans (congrArg some heq))) key []

/-- A path that leads somewhere begins in an object. -/
theorem exists_of_at?_cons {v w : Json} {key : String} {path : List String}
    (h : v.at? (key :: path) = some w) :
    ∃ members u, v = .obj members ∧ Members.get? key members = some u ∧ u.at? path = some w := by
  by_cases hobj : ∃ members, v = .obj members
  · obtain ⟨members, rfl⟩ := hobj
    rw [at?_cons] at h
    obtain ⟨u, hu, hw⟩ := Option.bind_eq_some_iff.mp h
    exact ⟨members, u, rfl, hu, hw⟩
  · rw [at?_of_ne_obj (not_exists.mp hobj)] at h
    cases h

/-- The upper document holds null at a path. If the lower one has an object around the place, then
the null is skipped; otherwise it is taken over. -/
theorem at?_merge_null {upper : Json} (hupper : upper.Tidy) {path : List String} {key : String}
    (hnull : upper.at? (path ++ [key]) = some .null) (lower : Json) :
    ((∃ members, lower.at? path = some (.obj members)) ∧
        (merge lower upper).at? (path ++ [key]) = lower.at? (path ++ [key])) ∨
      (∀ members, lower.at? path ≠ some (.obj members)) ∧
        (merge lower upper).at? (path ++ [key]) = some .null := by
  induction path generalizing lower upper with
  | nil =>
    obtain ⟨ums, u, rfl, hu, hu'⟩ := exists_of_at?_cons hnull
    obtain rfl : u = .null := Option.some.inj hu'
    by_cases hobj : ∃ members, lower = .obj members
    · obtain ⟨lms, rfl⟩ := hobj
      refine Or.inl ⟨⟨lms, at?_nil _⟩, ?_⟩
      rw [List.nil_append, merge_obj, at?_cons, at?_cons, get?_mergeMembers hupper.members.1,
        layer_of_skipped (Or.inr hu)]
    · have hne := not_exists.mp hobj
      refine Or.inr ⟨fun members heq => hne members (Option.some.inj heq), ?_⟩
      rw [merge_of_ne_obj hne, hnull]
  | cons first path ih =>
    obtain ⟨ums, u, rfl, hu, hu'⟩ := exists_of_at?_cons hnull
    by_cases hobj : ∃ members, lower = .obj members
    · obtain ⟨lms, rfl⟩ := hobj
      have hne : u ≠ .null := by
        rintro rfl
        cases path <;> cases hu'
      have htidy : u.Tidy := hupper.members.2 _ (Members.mem_of_get? hu)
      rw [List.cons_append, merge_obj, at?_cons, at?_cons, at?_cons,
        get?_mergeMembers hupper.members.1, hu]
      cases hold : Members.get? first lms with
      | none =>
        -- the whole member is new below, and is taken over with the null in it
        rw [layer_none_some hne]
        exact Or.inr ⟨by simp, hu'⟩
      | some old =>
        rw [layer_some_some hne]
        exact ih htidy hu' old
    · have hne := not_exists.mp hobj
      rw [merge_of_ne_obj hne, at?_of_ne_obj hne]
      exact Or.inr ⟨by simp, hnull⟩

/-- **A null is skipped exactly where the lower document has an object around it.** The upper object
holds null at a path of keys. The result has there what the lower object has there, if and only if
the lower one has an object at the path without its last key. Otherwise the lower one has nothing
there and the result has the null. -/
theorem null_skipped_iff {lower upper : Members} (hupper : (Json.obj upper).Tidy)
    {path : List String} {key : String}
    (hnull : (Json.obj upper).at? (path ++ [key]) = some .null) :
    let merged := merge (.obj lower) (.obj upper)
    (merged.at? (path ++ [key]) = (Json.obj lower).at? (path ++ [key]) ↔
        ∃ members, (Json.obj lower).at? path = some (.obj members)) ∧
      ((∀ members, (Json.obj lower).at? path ≠ some (.obj members)) →
        (Json.obj lower).at? (path ++ [key]) = none ∧ merged.at? (path ++ [key]) = some .null) := by
  intro merged
  rcases at?_merge_null hupper hnull (.obj lower) with ⟨hobject, hkept⟩ | ⟨hnone, htaken⟩
  · exact ⟨⟨fun _ => hobject, fun _ => hkept⟩, fun hnone => absurd hobject (not_exists.mpr hnone)⟩
  · have hempty := at?_eq_none hnone key
    refine ⟨⟨fun heq => ?_, fun hobject => absurd hobject (not_exists.mpr hnone)⟩,
      fun _ => ⟨hempty, htaken⟩⟩
    rw [hempty, htaken] at heq
    cases heq

theorem null_skipped_iff_nested :
    (Json.obj cover).Tidy ∧ (Json.obj cover).at? (["a"] ++ ["x"]) = some .null ∧
      (merge (.obj ground) (.obj cover)).at? (["a"] ++ ["x"]) =
        (Json.obj ground).at? (["a"] ++ ["x"]) :=
  ⟨tidy_cover, rfl, (null_skipped_iff tidy_cover rfl).1.mpr ⟨_, rfl⟩⟩

/-- A null in an object that the lower document lacks is not skipped. -/
theorem null_kept_in_new_object :
    ∃ lower upper, parse "\x7b\x7d" = .ok lower ∧
      parse "\x7b\"a\":\x7b\"b\":null\x7d\x7d" = .ok upper ∧
      upper.at? ["a", "b"] = some .null ∧ lower.at? ["a", "b"] = none ∧
      (merge lower upper).at? ["a", "b"] = some .null ∧
      render (merge lower upper) = "\x7b\"a\":\x7b\"b\":null\x7d\x7d" :=
  ⟨.obj [], .obj [("a", .obj [("b", .null)])], by rfl, by rfl, rfl, rfl, rfl, by decide +kernel⟩

end StreamGateway.Json
