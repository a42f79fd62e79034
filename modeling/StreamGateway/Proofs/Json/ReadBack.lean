import Mathlib.Tactic.IntervalCases
import StreamGateway.Proofs.Json.Legibility
import StreamGateway.Proofs.Json.Members
import StreamGateway.Proofs.Json.Printing

/-! # Printed values are read back

A value without fractions is read back from its text, with the members of its objects put in order
(`parse_render_ordered`). The reader is followed through the text: behind the characters of a value
it stands where it would stand had it been handed the value (`Build.resume`), whatever comes next.
This is shown for strings, for digits and then for all values together, each with what may follow
it. -/
namespace StreamGateway.Json

/-! ## Values that can be read back -/

mutual

/-- The value with the members of its objects by increasing key; of several with one key the last
one stays. -/
def ordered : Json → Json
  | .arr items => .arr (orderedItems items)
  | .obj members => .obj (Members.gather (orderedMembers members) [])
  | .null => .null
  | .bool b => .bool b
  | .int n => .int n
  | .float x => .float x
  | .str s => .str s

def orderedItems : List Json → List Json
  | [] => []
  | v :: vs => v.ordered :: orderedItems vs

def orderedMembers : List (String × Json) → List (String × Json)
  | [] => []
  | (key, v) :: ms => (key, v.ordered) :: orderedMembers ms

end

/-- What can be read back where `levels` more containers may be opened: numbers are whole and in
range, and no object is one that embeds a document. -/
inductive Legible : Nat → Json → Prop where
  | null {levels : Nat} : Legible levels .null
  | bool {levels : Nat} (b : Bool) : Legible levels (.bool b)
  | int {levels : Nat} {n : Int} (h : InRange n) : Legible levels (.int n)
  | str {levels : Nat} (s : String) : Legible levels (.str s)
  | arr {levels : Nat} {items : List Json} (h : ∀ v ∈ items, Legible levels v) :
      Legible (levels + 1) (.arr items)
  | obj {levels : Nat} {members : List (String × Json)} (h : ∀ m ∈ members, Legible levels m.2)
      (hkey : ∀ m ∈ members.head?, m.1 ≠ embeddedKey) : Legible (levels + 1) (.obj members)

namespace Build

variable {document : String → Except Problem Json}

/-- Goes on behind a value that was read. -/
def resume (document : String → Except Problem Json) (v : Json) (place : Place) (rest : List Char) :
    Except Problem (Json × List Char) :=
  match finished document v place with
  | .go b => b.run document rest
  | .done v => .ok (v, rest)
  | .past v => .ok (v, rest)
  | .bad p => .error p

theorem run_finished {b : Build} {v : Json} {place : Place} {c : Char} {rest : List Char}
    (h : b.next document c rest = finished document v place) (hplace : place.Plain) :
    b.run document (c :: rest) = resume document v place rest := by
  rw [run, h, resume]
  cases place with
  | whole | item | member => rfl
  | embedded => exact absurd hplace id

/-! ## Strings -/

/-- Behind a string. -/
theorem run_text {place : Place} (hplace : place.Plain) {q : Quote}
    {cs rest : List Char} {s : String} (h : q.run cs = .ok (s, rest)) :
    run document (.text q place) cs = resume document (.str s) place rest := by
  induction cs generalizing q with
  | nil => cases h
  | cons c cs ih =>
    rw [Quote.run] at h
    split at h <;> rename_i hnext
    · rw [run, next, hnext]
      exact ih h
    · cases h
      exact run_finished (by rw [next, hnext]) hplace
    · cases h

/-- Behind the text of a key. -/
theorem run_inKey {embeds : Bool} {members : Members} {outer : Place} {q : Quote}
    {cs rest : List Char} {key : String} (h : q.run cs = .ok (key, rest)) :
    run document (.inKey embeds q members outer) cs =
      run document (.colon (placeOf embeds members key outer)) rest := by
  induction cs generalizing q with
  | nil => cases h
  | cons c cs ih =>
    rw [Quote.run] at h
    split at h <;> rename_i hnext
    · rw [run, next, hnext]
      exact ih h
    · cases h
      rw [run, next, hnext]
    · cases h

/-! ## Numbers -/

/-- A number that may end does so before what may stand behind a value. -/
theorem run_number {place : Place} (hplace : place.Plain) {phase : Phase}
    (hphase : phase.complete = true) {numeral : Numeral} {v : Json} (hvalue : numeral.value = .ok v)
    {rest : List Char} (hrest : Delimited rest) :
    run document (.number phase numeral place) rest = resume document v place rest := by
  cases rest with
  | nil =>
    rw [run, atEnd, if_pos hphase, hvalue]
    cases place with
    | whole | item | member => rfl
    | embedded => exact absurd hplace id
  | cons c rest =>
    have hstop : phase.next c = .stop := phase.next_of_delimits hphase (hrest c rfl)
    rw [run, next, hstop]
    simp only [hvalue]
    cases place with
    | whole => rfl
    | item items outer | member members key outer => rfl
    | embedded => exact absurd hplace id

theorem digitChar_spec :
    ∀ d < 10, isDigit d.digitChar = true ∧ Numeral.digitValue d.digitChar = d := by
  decide

/-- Behind the digits of a positive number the reader holds it. What it did with the first digit is
left open, since a sign may stand before it. -/
theorem run_toDigits {b : Build} {place : Place} {negative : Bool}
    (hb : ∀ d < 10, 0 < d → ∀ left,
      b.next document d.digitChar left = .go (.number .whole { negative, leading := d } place))
    {n : Nat} (hpos : 0 < n) (hn : n ≤ Number.largest) (rest : List Char) :
    run document b (Nat.toDigits 10 n ++ rest) =
      run document (.number .whole { negative, leading := n } place) rest := by
  induction n using Nat.strong_induction_on generalizing rest with
  | _ n ih =>
    rw [Nat.toDigits_eq_if (by decide)]
    split <;> rename_i hlt
    · rw [List.singleton_append, run, hb n hlt hpos]
    · obtain ⟨hdigit, hvalue⟩ := digitChar_spec (n % 10) (by omega)
      have hnumber : n / 10 * 10 + n % 10 = n := by omega
      have hnext (left : List Char) :
          next document (.number .whole { negative, leading := n / 10 } place)
          (n % 10).digitChar left = .go (.number .whole { negative, leading := n } place) := by
        simp [next, Phase.next, hdigit, Numeral.take, Numeral.takeWhole, hvalue, hnumber,
          Nat.not_lt.mpr hn]
      rw [List.append_assoc, ih (n / 10) (by omega) (by omega) (by omega),
        List.singleton_append, run, hnext]

/-- Behind a whole number. -/
theorem run_toString {place : Place} (hplace : place.Plain) {n : Int} (hn : InRange n)
    {rest : List Char} (hrest : Delimited rest) :
    run document (.value place) ((toString n).toList ++ rest) = resume document
      (.int n) place rest := by
  obtain ⟨hlow, hhigh⟩ := hn
  have hpow : (Nat.pow 2 63 : Int) = 9223372036854775808 ∧
      (Nat.pow 2 64 : Int) = 18446744073709551616 :=
    ⟨rfl, rfl⟩
  have hlargest : Number.largest = 18446744073709551615 := rfl
  rw [hpow.1] at hlow
  rw [hpow.2] at hhigh
  have hstart : ∀ d < 10, 0 < d → ∀ left : List Char,
      next document (.value place) d.digitChar left = .go
        (.number .whole { leading := d } place) := by
    intro d hd hpos left
    interval_cases d <;> rfl
  have hminus : ∀ d < 10, 0 < d → ∀ left : List Char,
      next document (.number .minus { negative := true } place) d.digitChar left =
      .go (.number .whole { negative := true, leading := d } place) := by
    intro d hd hpos left
    interval_cases d <;> rfl
  cases n with
  | ofNat n =>
    have htext : (toString (Int.ofNat n)).toList = Nat.toDigits 10 n := by
      rw [show toString (Int.ofNat n) = n.repr from rfl, Nat.toList_repr]
    rw [htext]
    rcases Nat.eq_zero_or_pos n with rfl | hpos
    · have hzero : Phase.complete .zero = true := rfl
      have hvalue : Numeral.value {} = .ok (.int 0) := rfl
      exact run_number hplace hzero hvalue hrest
    · have hhigh' : (n : Int) < 18446744073709551616 := hhigh
      rw [run_toDigits hstart hpos (by omega)]
      exact run_number hplace rfl rfl hrest
  | negSucc n =>
    have htext : (toString (Int.negSucc n)).toList = '-' :: Nat.toDigits 10 (n + 1) := by
      rw [show toString (Int.negSucc n) = "-" ++ (n + 1).repr from rfl, String.toList_append,
        Nat.toList_repr]
      rfl
    rw [htext, List.cons_append]
    show run document (.number .minus { negative := true } place) _ = _
    rw [run_toDigits hminus (Nat.succ_pos n) (by omega)]
    refine run_number hplace rfl ?_ hrest
    have hfits : ¬(n + 1 = 0 ∨ Nat.pow 2 63 < n + 1) := by
      have : Nat.pow 2 63 = 9223372036854775808 := rfl
      omega
    simp only [Numeral.value, Bool.not_true, if_neg hfits]
    rfl

/-! ## Values -/

theorem next_start_item (items : List Json) (outer : Place) {c : Char} (hc : delimits c = false)
    (left : List Char) :
    next document (.firstItem outer) c left = next document (.value (.item [] outer)) c left ∧
    next document (.nextItem items outer) c left = next document
      (.value (.item items outer)) c left := by
  have hcases : isBlank c = false ∧ c ≠ ']' := by simp_all [delimits]
  simp [next, hcases]

/-- An item starts like a value that stands alone. -/
theorem run_renderItem (v : Json) (items : List Json) (outer : Place) (rest : List Char) :
    run document (.firstItem outer) (v.renderChars ++ rest) =
      run document (.value (.item [] outer)) (v.renderChars ++ rest) ∧
    run document (.nextItem items outer) (v.renderChars ++ rest) =
      run document (.value (.item items outer)) (v.renderChars ++ rest) := by
  obtain ⟨c, cs, hv, hc⟩ := exists_cons_of_spells (spells_renderChars v)
  obtain ⟨hfirst, hnext⟩ := next_start_item items outer hc (cs ++ rest)
  rw [hv, List.cons_append, run, run, run, hfirst, hnext]
  exact ⟨rfl, rfl⟩

/-- Behind a key and its colon. -/
theorem run_key {embeds : Bool} {members : Members} {outer : Place} {key : String}
    (hkey : embeds = true → key ≠ embeddedKey) (rest : List Char) :
    run document (.inKey embeds {} members outer)
      (key.toList.flatMap escapeChar ++ '"' :: ':' :: rest) =
      run document (.value (.member members key outer)) rest := by
  rw [run_inKey (Quote.run_renderString key (':' :: rest)), placeOf, if_neg fun h => hkey h.1 h.2]
  rfl

theorem enter_eq {kind : Found} {b : Build} {place : Place} (hplace : place.Plain)
    (hdepth : place.depth < deepest) : enter kind b place = .go b := by
  cases place with
  | embedded => exact absurd hplace id
  | whole | item | member =>
    rw [enter, if_pos hdepth]
    all_goals simp

/-- Behind the opening bracket of a container. -/
theorem run_open {kind : Found} {b : Build} {place : Place} {c : Char} {cs : List Char}
    (hplace : place.Plain) (hdepth : place.depth < deepest)
    (hstart : next document (.value place) c cs = enter kind b place) :
    run document (.value place) (c :: cs) = run document b cs := by
  rw [run, hstart, enter_eq hplace hdepth]

theorem delimited_renderItems (vs : List Json) (rest : List Char) :
    Delimited (renderItems vs ++ rest) := by
  cases vs <;> simp [renderItems, Delimited, delimits]

theorem delimited_renderMembers (ms : List (String × Json)) (rest : List Char) :
    Delimited (renderMembers ms ++ rest) := by
  cases ms <;> simp [renderMembers, Delimited, delimits]

mutual

/-- Behind a value. -/
theorem run_renderChars {place : Place} (hplace : place.Plain) {rest : List Char}
    (hrest : Delimited rest) :
    ∀ {v : Json} {levels : Nat}, Legible levels v → place.depth + levels ≤ deepest →
      run document (.value place) (v.renderChars ++ rest) = resume document v.ordered place rest
  | .null, _, _, _ => by
    rw [renderChars, ordered]
    exact run_finished (b := .word ['l'] .null place) (by rw [next]; rfl) hplace
  | .bool true, _, _, _ => by
    rw [renderChars, ordered]
    exact run_finished (b := .word ['e'] (.bool true) place) (by rw [next]; rfl) hplace
  | .bool false, _, _, _ => by
    rw [renderChars, ordered]
    exact run_finished (b := .word ['e'] (.bool false) place) (by rw [next]; rfl) hplace
  | .int n, _, .int h, _ => by
    rw [renderChars, ordered]
    exact run_toString hplace h hrest
  | .str s, _, _, _ => by
    rw [renderChars, ordered, renderString_append]
    exact run_text hplace (Quote.run_renderString s rest)
  | .arr [], _, .arr h, hdepth => by
    rw [renderChars, ordered, orderedItems]
    show run document (.value place) ('[' :: ']' :: rest) = _
    rw [run_open hplace (by omega) rfl]
    exact run_finished rfl hplace
  | .arr (v :: vs), _, .arr h, hdepth => by
    obtain ⟨hv, hvs⟩ := List.forall_mem_cons.mp h
    have hitem : (Place.item [] place).Plain := hplace
    have hinner : (Place.item [] place).depth = place.depth + 1 := rfl
    rw [renderChars, ordered, orderedItems, List.cons_append, List.append_assoc,
      run_open hplace (by omega) rfl, (run_renderItem v [] place _).1,
      run_renderChars hitem (delimited_renderItems vs rest) hv (by omega)]
    exact run_renderItems hplace hvs (by omega)
  | .obj [], _, .obj h _, hdepth => by
    rw [renderChars, ordered, orderedMembers]
    show run document (.value place) ('\x7b' :: '\x7d' :: rest) = _
    rw [run_open hplace (by omega) rfl]
    exact run_finished rfl hplace
  | .obj ((key, v) :: ms), _, .obj h hkey, hdepth => by
    obtain ⟨hv, hms⟩ := List.forall_mem_cons.mp h
    have hmember : (Place.member [] key place).Plain := hplace
    have hinner : (Place.member [] key place).depth = place.depth + 1 := rfl
    rw [renderChars, ordered, orderedMembers, List.cons_append, List.append_assoc,
      renderString_append, List.cons_append, List.append_assoc, run_open hplace (by omega) rfl]
    show run document (.inKey true {} [] place) _ = _
    rw [run_key (fun _ => hkey (key, v) rfl),
      run_renderChars hmember (delimited_renderMembers ms rest) hv (by omega)]
    exact run_renderMembers hplace hms (by omega)

/-- Behind the end of a list of which `items` were read. -/
theorem run_renderItems {outer : Place} (houter : outer.Plain) {items : List Json}
    {rest : List Char} :
    ∀ {vs : List Json} {levels : Nat}, (∀ v ∈ vs, Legible levels v) →
      outer.depth + 1 + levels ≤ deepest →
      run document (.afterItem items outer) (renderItems vs ++ rest) =
        resume document (.arr (items.reverse ++ orderedItems vs)) outer rest
  | [], _, _, _ => by
    rw [renderItems, orderedItems, List.append_nil]
    exact run_finished rfl houter
  | v :: vs, _, h, hdepth => by
    obtain ⟨hv, hvs⟩ := List.forall_mem_cons.mp h
    have hitem : (Place.item items outer).Plain := houter
    have hinner : (Place.item items outer).depth = outer.depth + 1 := rfl
    rw [renderItems, orderedItems, List.cons_append, List.append_assoc]
    show run document (.nextItem items outer) _ = _
    rw [(run_renderItem v items outer _).2, run_renderChars hitem (delimited_renderItems vs rest)
      hv (by omega)]
    show run document (.afterItem (v.ordered :: items) outer) _ = _
    rw [run_renderItems houter hvs hdepth, List.reverse_cons, List.append_assoc,
      List.singleton_append]

/-- Behind the end of an object of which `members` were read. -/
theorem run_renderMembers {outer : Place} (houter : outer.Plain) {members : Members}
    {rest : List Char} :
    ∀ {ms : List (String × Json)} {levels : Nat}, (∀ m ∈ ms, Legible levels m.2) →
      outer.depth + 1 + levels ≤ deepest →
      run document (.afterMember members outer) (renderMembers ms ++ rest) =
        resume document (.obj (Members.gather (orderedMembers ms) members)) outer rest
  | [], _, _, _ => by
    rw [renderMembers, orderedMembers]
    exact run_finished rfl houter
  | (key, v) :: ms, _, h, hdepth => by
    obtain ⟨hv, hms⟩ := List.forall_mem_cons.mp h
    have hmember : (Place.member members key outer).Plain := houter
    have hinner : (Place.member members key outer).depth = outer.depth + 1 := rfl
    rw [renderMembers, orderedMembers, List.cons_append, List.append_assoc, renderString_append,
      List.cons_append, List.append_assoc]
    show run document (.inKey false {} members outer) _ = _
    rw [run_key fun h => absurd h Bool.false_ne_true,
      run_renderChars hmember (delimited_renderMembers ms rest) hv (by omega)]
    exact run_renderMembers houter hms hdepth

end

end Build

/-- **A printed value is read back**, with its objects in order. -/
theorem parse_render_ordered {v : Json} (h : Legible deepest v) :
    parse v.render = .ok v.ordered := by
  obtain ⟨document, hread⟩ := readWithin_eq v.renderChars.length v.renderChars
  have hrun : Build.run document (.value .whole) v.renderChars = .ok (v.ordered, []) := by
    have hwhole : Place.whole.Plain := trivial
    have hend : Delimited [] := by simp [Delimited]
    have hall : Build.run document (.value .whole) (v.renderChars ++ []) =
        Build.resume document v.ordered .whole [] := Build.run_renderChars hwhole hend h (by decide)
    rwa [List.append_nil] at hall
  rw [parse, render, String.toList_ofList, read, hread, hrun]
  rfl

end StreamGateway.Json
