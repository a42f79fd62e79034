import StreamGateway.Proofs.Json.Returning
import StreamGateway.Protocol.Frame

/-! # Data with extensions

Extensions go into the data as one more member, which replaces a member of that name. The object
that results is written anew, and it is not always read back as it is: its keys are sorted, so a key
of embedded documents that stood behind other keys may now come first, and then the object it is in
is taken for the envelope of a document. -/
namespace StreamGateway

open Json (Raw)

namespace Json

/-- The members of a text are tidy. -/
theorem tidy_parseMembers {text : String} {members : Members}
    (h : parseMembers text = .ok members) : Tidy (.obj members) := by
  rw [parseMembers] at h
  split at h
  · cases h
  · obtain ⟨⟨v, rest⟩, hrun, hbehind⟩ := bind_eq_ok.mp h
    obtain ⟨w, halone, hmembers⟩ := bind_eq_ok.mp hbehind
    have hv : v.Tidy := Build.tidy_run (b := .firstKey false .whole)
      (fun _ _ => tidy_parse) trivial hrun
    rw [eq_of_alone halone] at hv
    cases w with
    | obj ms =>
      cases hmembers
      exact hv
    | _ => cases hmembers
  · obtain ⟨_, -, hthrow⟩ := bind_eq_ok.mp h
    cases hthrow

/-- What is among sorted members is found by its key. -/
theorem Members.Sorted.get?_of_mem {ms : Members} (h : ms.Sorted) {m : String × Json}
    (hm : m ∈ ms) : ms.get? m.1 = some m.2 := by
  induction ms with
  | nil => cases hm
  | cons n ms ih =>
    obtain ⟨hfirst, hrest⟩ := List.pairwise_cons.mp h
    rcases List.mem_cons.mp hm with rfl | hm
    · exact if_pos rfl
    · have hne : m.1 ≠ n.1 := fun heq => String.lt_irrefl n.1 (heq ▸ hfirst m hm)
      rw [get?_cons, if_neg hne]
      exact ih hrest hm

/-- A property of all values of an object with one key set. -/
theorem Members.forall_mem_set {ms : Members} (h : ms.Sorted) (key : String) (v : Json)
    {P : Json → Prop} :
    (∀ m ∈ ms.set key v, P m.2) ↔ P v ∧ ∀ other ≠ key, ∀ w, ms.get? other = some w → P w := by
  constructor
  · intro hall
    have hget {other : String} {w : Json} (hw : (ms.set key v).get? other = some w) : P w :=
      hall _ (mem_of_get? hw)
    constructor
    · have hkey : (ms.set key v).get? key = some v := by rw [get?_set, if_pos rfl]
      exact hget hkey
    · intro other hother w hw
      have hkept : (ms.set key v).get? other = some w := by rw [get?_set, if_neg hother, hw]
      exact hget hkept
  · rintro ⟨hv, hothers⟩ m hm
    have hget := (h.set key v).get?_of_mem hm
    rw [get?_set] at hget
    split_ifs at hget with hkey
    · cases hget
      exact hv
    · exact hothers m.1 hkey m.2 hget

end Json

namespace Payload

/-- **Extensions that are merged into data**: without extensions the data stay as they are written.
With extensions the result is there exactly if the data are an object and the extensions a value,
and it is the text of the data's object with the extensions set and every other member unchanged.
Read as an object, the text gives this object back exactly if the extensions and the other members
are recoverable: they have at most 126 levels, their numbers are the ones that their decimals are
rounded to, and none of their objects starts with the key of embedded documents. Read as any value,
the text also must not be taken for an envelope itself. -/
theorem withExtensions_comes_back (data extensions : Raw) :
    withExtensions data none = .ok data ∧
    ((∃ merged, withExtensions data (some extensions) = .ok merged) ↔
      (∃ members, Json.parseMembers data.text = .ok members) ∧
        ∃ v, Json.parse extensions.text = .ok v) ∧
    ∀ members v, Json.parseMembers data.text = .ok members → Json.parse extensions.text = .ok v →
      ∃ merged, withExtensions data (some extensions) = .ok merged ∧
        let all := members.set "extensions" v
        all.get? "extensions" = some v ∧ (∀ key ≠ "extensions", all.get? key = members.get? key) ∧
        (Json.parseMembers merged.text = .ok all ↔
          v.Recoverable 126 ∧
            ∀ key ≠ "extensions", ∀ w, members.get? key = some w → w.Recoverable 126) ∧
        (Json.parse merged.text = .ok (.obj all) ↔
          Json.parseMembers merged.text = .ok all ∧ ∀ m ∈ all.head?, m.1 ≠ Json.embeddedKey) := by
  have hwritten {members : Json.Members} {v : Json}
      (hmembers : Json.parseMembers data.text = .ok members)
      (hv : Json.parse extensions.text = .ok v) :
      withExtensions data (some extensions) =
        .ok ⟨Json.render (.obj (members.set "extensions" v))⟩ := by
    rw [withExtensions, hmembers, hv]
    rfl
  refine ⟨rfl, ⟨?_, ?_⟩, ?_⟩
  · rintro ⟨merged, hmerged⟩
    obtain ⟨members, hmembers, hbehind⟩ := Json.bind_eq_ok.mp hmerged
    obtain ⟨v, hv, -⟩ := Json.bind_eq_ok.mp hbehind
    exact ⟨⟨members, hmembers⟩, v, hv⟩
  · rintro ⟨⟨members, hmembers⟩, v, hv⟩
    exact ⟨_, hwritten hmembers hv⟩
  · intro members v hmembers hv
    have hsorted : members.Sorted := (Json.tidy_parseMembers hmembers).members.1
    have htidy : (Json.obj (members.set "extensions" v)).Tidy :=
      (Json.tidy_parseMembers hmembers).set (Json.tidy_parse hv)
    have hobject := Json.parseMembers_render_iff htidy
    refine ⟨_, hwritten hmembers hv, ?_, ?_, ?_, ?_⟩
    · rw [Json.Members.get?_set, if_pos rfl]
    · intro key hkey
      rw [Json.Members.get?_set, if_neg hkey]
    · rw [hobject, Json.Members.forall_mem_set hsorted]
      rfl
    · rw [hobject, Json.parse_render_iff htidy, and_comm]
      exact Json.recoverable_obj

/-- Data that hold extensions already, and a nested object where the key of embedded documents is
not the first. -/
def marked : Json.Members :=
  [("extensions", .null), ("n", .arr [.int 1, .obj [("!", .int (-2)), (Json.embeddedKey, .int 0)]])]

/-- The extensions that are set. -/
def mark : Json := .obj [("a", .arr []), ("z", .str "\\")]

theorem tidy_marked : (Json.obj marked).Tidy ∧ mark.Tidy := by
  have hint (n : Int) (h : n.natAbs < 3) : (Json.int n).Tidy := by
    refine .int ⟨?_, ?_⟩
    · have : (Nat.pow 2 63 : Int) = 9223372036854775808 := rfl
      omega
    · have : (Nat.pow 2 64 : Int) = 18446744073709551616 := rfl
      omega
  have hnested : (Json.obj [("!", .int (-2)), (Json.embeddedKey, .int 0)]).Tidy := by
    refine .obj ?_ ?_
    · unfold Json.Members.Sorted
      decide +kernel
    · simpa using ⟨hint (-2) (by decide), hint 0 (by decide)⟩
  have hlist : (Json.arr [.int 1, .obj [("!", .int (-2)), (Json.embeddedKey, .int 0)]]).Tidy :=
    .arr (by simpa using ⟨hint 1 (by decide), hnested⟩)
  refine ⟨.obj ?_ ?_, .obj ?_ ?_⟩
  · unfold Json.Members.Sorted
    decide +kernel
  · simpa [marked] using ⟨.null, hlist⟩
  · unfold Json.Members.Sorted
    decide +kernel
  · simpa using ⟨.arr (by simp), .str _⟩

theorem recoverable_marked :
    (∀ m ∈ marked, m.2.Recoverable 126) ∧ ∀ levels, mark.Recoverable (levels + 2) := by
  have hnested : (Json.obj [("!", .int (-2)), (Json.embeddedKey, .int 0)]).Recoverable 125 :=
    .obj (by decide) (by simpa using ⟨.int _, .int _⟩)
  have hlist :
      (Json.arr [.int 1, .obj [("!", .int (-2)), (Json.embeddedKey, .int 0)]]).Recoverable 126 :=
    .arr (by simpa using ⟨.int _, hnested⟩)
  refine ⟨?_, fun levels => .obj (by decide) ?_⟩
  · simpa [marked] using ⟨.null, hlist⟩
  · simpa using ⟨.arr (by simp), .str _⟩

theorem withExtensions_comes_back_marked :
    let data : Raw :=
      ⟨"\x7b\"extensions\":null,\"n\":[1,\x7b\"!\":-2,\"$serde_json::private::RawValue\":0\x7d]\x7d"⟩
    let extensions : Raw := ⟨"\x7b\"a\":[],\"z\":\"\\\\\"\x7d"⟩
    Json.parseMembers data.text = .ok marked ∧ Json.parse extensions.text = .ok mark ∧
      ∃ merged, withExtensions data (some extensions) = .ok merged ∧
        Json.parseMembers merged.text = .ok (marked.set "extensions" mark) := by
  intro data extensions
  obtain ⟨hdata, hextensions⟩ := tidy_marked
  obtain ⟨hmembers, hvalue⟩ := recoverable_marked
  have hmarked : Json.parseMembers data.text = .ok marked := by
    rw [show data.text = Json.render (.obj marked) by decide +kernel]
    exact (Json.parseMembers_render_iff hdata).mpr hmembers
  have hmark : Json.parse extensions.text = .ok mark := by
    rw [show extensions.text = Json.render mark by decide +kernel]
    exact (Json.parse_render_iff hextensions).mpr (hvalue 125)
  obtain ⟨merged, hmerged, -, -, hiff, -⟩ :=
    (withExtensions_comes_back data extensions).2.2 marked mark hmarked hmark
  refine ⟨hmarked, hmark, merged, hmerged, hiff.mpr ⟨hvalue 124, ?_⟩⟩
  intro key _ w hw
  exact hmembers _ (Json.Members.mem_of_get? hw)

/-- A key of embedded documents moves to the front when the result is written, and then the result
cannot be read. -/
theorem sorted_key_spoils_result :
    let data : Raw := ⟨"\x7b\"a\":\x7b\"b\":1,\"$serde_json::private::RawValue\":\"x\"\x7d\x7d"⟩
    let merged : Raw :=
      ⟨"\x7b\"a\":\x7b\"$serde_json::private::RawValue\":\"x\",\"b\":1\x7d,\"extensions\":\x7b\x7d\x7d"⟩
    (Json.parseMembers data.text).toOption.isSome = true ∧
      (Json.parse "\x7b\x7d").toOption.isSome = true ∧
      withExtensions data (some ⟨"\x7b\x7d"⟩) = .ok merged ∧
      (Json.parseMembers merged.text).toOption.isNone = true ∧
        (Json.parse merged.text).toOption.isNone = true := by
  decide +kernel

end Payload
end StreamGateway
