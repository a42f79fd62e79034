import StreamGateway.Proofs.Json.Envelopes
import StreamGateway.Proofs.Json.Numerals
import StreamGateway.Proofs.Json.ReadBack

/-! # The values that come back from their texts

A value is printed and read again. It comes back exactly if it is no deeper than the reader goes,
its numbers are the ones that their decimals are rounded to, and none of its objects starts with the
key of embedded documents (`parse_render_iff`). Such an object is taken for the envelope of a
document: it is refused, or the document comes back in its place. That is never the envelope itself,
since the reader leaves none unopened. -/
namespace StreamGateway.Json

/-! ## Numbers -/

namespace Build

/-- A numeral is read to its end, whatever stands around it and behind it. -/
theorem run_finishing {phase : Phase} {t : List Char} (ht : phase.Finishes t) (numeral : Numeral)
    (document : String → Except Problem Json) {place : Place} (hplace : place.Plain)
    {rest : List Char} (hrest : Delimited rest) :
    run document (.number phase numeral place) (t ++ rest) =
      (numeral.through phase t).value.bind fun v => resume document v place rest := by
  induction t generalizing phase numeral with
  | nil =>
    have hcomplete := Phase.finishes_nil.mp ht
    rw [Numeral.through]
    cases hvalue : numeral.value with
    | ok v => exact run_number hplace hcomplete hvalue hrest
    | error p =>
      cases rest with
      | nil =>
        rw [List.append_nil, run, atEnd, if_pos hcomplete, hvalue]
        rfl
      | cons c rest =>
        have hstop : phase.next c = .stop := phase.next_of_delimits hcomplete (hrest c rfl)
        rw [List.nil_append, run, next, hstop, hvalue]
        rfl
  | cons c t ih =>
    have haccepts := Phase.finishes_cons.mp ht
    cases hnext : phase.next c with
    | go phase' =>
      rw [hnext] at haccepts
      rw [List.cons_append, run, next, Numeral.through, hnext]
      exact ih haccepts (numeral.take phase' c)
    | stop =>
      rw [hnext] at haccepts
      exact absurd haccepts Phase.Next.not_accepts_stop
    | bad =>
      rw [hnext] at haccepts
      exact absurd haccepts Phase.Next.not_accepts_bad

theorem next_of_first? {document : String → Except Problem Json} {c : Char} {phase : Phase}
    (h : Phase.first? c = some phase) (place : Place) (left : List Char) :
    next document (.value place) c left = .go
      (.number phase (({} : Numeral).take phase c) place) := by
  have hne {d : Char} (hd : Phase.first? d = none) : c ≠ d := by
    rintro rfl
    rw [hd] at h
    cases h
  have hblank : isBlank c = false := by
    simp [isBlank, hne (d := ' ') rfl, hne (d := '\t') rfl, hne (d := '\n') rfl,
      hne (d := '\r') rfl]
  rw [next, if_neg (by simp [hblank]), start, if_neg (hne rfl), if_neg (hne rfl), if_neg (hne rfl),
    if_neg (hne rfl), if_neg (hne rfl), if_neg (hne rfl), h]

/-- What a number is read as is a matter of its text alone. -/
theorem run_isNumber {t : List Char} (ht : IsNumber t) (document : String → Except Problem Json)
    {place : Place} (hplace : place.Plain) {rest : List Char} (hrest : Delimited rest) :
    run document (.value place) (t ++ rest) =
      (Numeral.ofText t).value.bind fun v => resume document v place rest := by
  cases t with
  | nil => exact absurd ht (by simp [IsNumber])
  | cons c t =>
    obtain ⟨phase, hfirst, hfinishes⟩ := isNumber_cons.mp ht
    rw [List.cons_append, run, next_of_first? hfirst, Numeral.ofText, hfirst]
    exact run_finishing hfinishes _ document hplace hrest

end Build

/-! ## Objects -/

namespace Members

theorem set_of_lt {ms : Members} {key : String} (h : ∀ m ∈ ms, m.1 < key) (v : Json) :
    ms.set key v = ms ++ [(key, v)] := by
  induction ms with
  | nil => rfl
  | cons m ms ih =>
    obtain ⟨hm, hms⟩ := List.forall_mem_cons.mp h
    have hne : key ≠ m.1 := fun heq => String.lt_irrefl key (heq ▸ hm)
    rw [set, if_neg (String.lt_asymm hm), if_neg hne, ih hms]
    rfl

/-- Members that stand by increasing key are gathered as they stand. -/
theorem gather_of_sorted {before ms : Members} (h : Sorted (before ++ ms)) :
    gather ms before = before ++ ms := by
  induction ms generalizing before with
  | nil => rw [List.append_nil]; rfl
  | cons m ms ih =>
    have hlast : ∀ x ∈ before, x.1 < m.1 :=
      fun x hx => (List.pairwise_append.mp h).2.2 x hx m List.mem_cons_self
    rw [List.append_cons] at h
    rw [gather, List.foldl_cons, ← gather, set_of_lt hlast, ih h, ← List.append_cons]

end Members

/-! ## Values that come back -/

/-- What comes back from its text where `levels` more containers may be opened: a value that is no
deeper, whose numbers with a fraction are the ones that their decimals are rounded to (the reader
rounds twice, so that not all are), and none of whose objects starts with the key of embedded
documents. -/
inductive Recoverable : Nat → Json → Prop where
  | null {levels : Nat} : Recoverable levels .null
  | bool {levels : Nat} (b : Bool) : Recoverable levels (.bool b)
  | int {levels : Nat} (n : Int) : Recoverable levels (.int n)
  | float {levels : Nat} {x : Binary64} (h : x.reread? = some x) : Recoverable levels (.float x)
  | str {levels : Nat} (s : String) : Recoverable levels (.str s)
  | arr {levels : Nat} {items : List Json} (h : ∀ v ∈ items, Recoverable levels v) :
      Recoverable (levels + 1) (.arr items)
  | obj {levels : Nat} {members : List (String × Json)}
      (hkey : ∀ m ∈ members.head?, m.1 ≠ embeddedKey)
      (h : ∀ m ∈ members, Recoverable levels m.2) : Recoverable (levels + 1) (.obj members)

theorem not_recoverable_zero {v : Json}
    (h : (∃ items, v = .arr items) ∨ ∃ members, v = .obj members) : ¬Recoverable 0 v := by
  intro hv
  cases hv <;> simp at h

theorem recoverable_arr {levels : Nat} {items : List Json} :
    Recoverable (levels + 1) (.arr items) ↔ ∀ v ∈ items, Recoverable levels v := by
  refine ⟨fun h => ?_, .arr⟩
  cases h with
  | arr h => exact h

theorem recoverable_obj {levels : Nat} {members : List (String × Json)} :
    Recoverable (levels + 1) (.obj members) ↔
      (∀ m ∈ members.head?, m.1 ≠ embeddedKey) ∧ ∀ m ∈ members, Recoverable levels m.2 := by
  refine ⟨fun h => ?_, fun h => .obj h.1 h.2⟩
  cases h with
  | obj hkey h => exact ⟨hkey, h⟩

namespace Build

variable {document : String → Except Problem Json}

/-! ### Behind the key of embedded documents -/

/-- A number is no document. -/
theorem run_number_embedded (phase : Phase) (numeral : Numeral) (outer : Place) (cs : List Char) :
    ∃ p, run document (.number phase numeral (.embedded outer)) cs = .error p := by
  induction cs generalizing phase numeral with
  | nil =>
    rw [run, atEnd]
    split_ifs
    · cases numeral.value with
      | ok v => exact ⟨_, rfl⟩
      | error p => exact ⟨_, rfl⟩
    · exact ⟨_, rfl⟩
  | cons c cs ih =>
    rw [run, next]
    cases phase.next c with
    | go phase' => exact ih phase' _
    | bad => exact ⟨_, rfl⟩
    | stop =>
      cases numeral.value with
      | ok v => exact ⟨_, rfl⟩
      | error p => exact ⟨_, rfl⟩

theorem run_isNumber_embedded {t : List Char} (ht : IsNumber t) (outer : Place) (rest : List Char) :
    ∃ p, run document (.value (.embedded outer)) (t ++ rest) = .error p := by
  cases t with
  | nil => exact absurd ht (by simp [IsNumber])
  | cons c t =>
    obtain ⟨phase, hfirst, -⟩ := isNumber_cons.mp ht
    rw [List.cons_append, run, next_of_first? hfirst]
    exact run_number_embedded _ _ _ _

/-- A string is read as a document. -/
theorem run_text_embedded {outer : Place} {q : Quote} {cs rest : List Char} {s : String}
    (h : q.run cs = .ok (s, rest)) :
    run document (.text q (.embedded outer)) cs =
      (document s).bind fun v => run document (.afterEmbedded v outer) rest := by
  induction cs generalizing q with
  | nil => cases h
  | cons c cs ih =>
    rw [Quote.run] at h
    split at h <;> rename_i hnext
    · rw [run, next, hnext]
      exact ih h
    · cases h
      rw [run, next, hnext]
      dsimp only
      rw [finished]
      cases document q.text with
      | ok v => rfl
      | error p => rfl
    · cases h

/-- An object that starts with the key of embedded documents is refused, unless it is an envelope
with a document. -/
theorem run_envelope {outer : Place} (houter : outer.Plain) (v : Json) (ms : List (String × Json))
    (rest : List Char) :
    (∃ p, run document (.value (.embedded outer)) (v.renderChars ++ (renderMembers ms ++ rest)) =
      .error p) ∨
      ∃ s w, v = .str s ∧ ms = [] ∧ document s = .ok w ∧
        run document (.value (.embedded outer)) (v.renderChars ++ (renderMembers ms ++ rest)) =
          resume document w outer rest := by
  cases v with
  | null => exact Or.inl ⟨_, rfl⟩
  | bool b => cases b <;> exact Or.inl ⟨_, rfl⟩
  | int n =>
    rw [renderChars]
    exact Or.inl (run_isNumber_embedded (isNumber_toString n) outer _)
  | float x =>
    rw [renderChars]
    exact Or.inl (run_isNumber_embedded (isNumber_text x) outer _)
  | str s =>
    have hrun : run document (.value (.embedded outer))
        ((Json.str s).renderChars ++ (renderMembers ms ++ rest)) =
        (document s).bind fun w => run document (.afterEmbedded w outer)
          (renderMembers ms ++ rest) := by
      rw [renderChars, renderString_append]
      exact run_text_embedded (Quote.run_renderString s _)
    rw [hrun]
    cases hdocument : document s with
    | error p => exact Or.inl ⟨p, rfl⟩
    | ok w =>
      cases ms with
      | nil => exact Or.inr ⟨s, w, rfl, rfl, hdocument, run_finished rfl houter⟩
      | cons m ms => exact Or.inl ⟨_, rfl⟩
  | arr items =>
    cases items with
    | nil => exact Or.inl ⟨_, rfl⟩
    | cons v vs => exact Or.inl ⟨_, rfl⟩
  | obj members =>
    cases members with
    | nil => exact Or.inl ⟨_, rfl⟩
    | cons m ms => exact Or.inl ⟨_, rfl⟩

/-! ### The way back -/

/-- A text is refused, or the reader goes on with something, of which `goesOn` holds. It is the `a`
that was printed exactly if `intact` holds. -/
def Recovers {α : Type} (result : Except Problem (Json × List Char)) (goesOn : α → Prop) (a : α)
    (intact : Prop) : Prop :=
  ((∃ p, result = .error p) ∧ ¬intact) ∨ ∃ w, goesOn w ∧ (w = a ↔ intact)

/-- One thing is printed behind another. -/
theorem Recovers.both {α β : Type} {result : Except Problem (Json × List Char)}
    {first : α → Except Problem (Json × List Char)} {goesOn : α → β → Prop} {a : α}
    {b : β} {p q : Prop} (h : Recovers result (fun w => result = first w) a p)
    (hbehind : ∀ w, Recovers (first w) (goesOn w) b q) :
    Recovers result (fun x => result = first x.1 ∧ goesOn x.1 x.2) (a, b) (p ∧ q) := by
  obtain ⟨hrefused, hnot⟩ | ⟨w, hw, hwa⟩ := h
  · exact Or.inl ⟨hrefused, fun hboth => hnot hboth.1⟩
  · obtain ⟨hrefused, hnot⟩ | ⟨x, hx, hxb⟩ := hbehind w
    · exact Or.inl ⟨hw ▸ hrefused, fun hboth => hnot hboth.2⟩
    · refine Or.inr ⟨(w, x), ⟨hw, hx⟩, ?_⟩
      rw [Prod.mk.injEq, hwa, hxb]

/-- Something is made of what is read. -/
theorem Recovers.map {α β : Type} {result : Except Problem (Json × List Char)} {goesOn : α → Prop}
    {goesOn' : β → Prop} {a : α} {p : Prop} (h : Recovers result goesOn a p) (f : α → β)
    (hf : ∀ w, f w = f a ↔ w = a) (hgoesOn : ∀ w, goesOn w → goesOn' (f w)) :
    Recovers result goesOn' (f a) p := by
  obtain hrefused | ⟨w, hw, hwa⟩ := h
  · exact Or.inl hrefused
  · exact Or.inr ⟨f w, hgoesOn w hw, (hf w).trans hwa⟩

/-- What becomes of the text of a value. -/
def Returns (document : String → Except Problem Json) (place : Place) (levels : Nat) (v : Json)
    (rest : List Char) : Prop :=
  Recovers (run document (.value place) (v.renderChars ++ rest))
    (fun w => run document (.value place) (v.renderChars ++ rest) = resume document w place rest) v
    (v.Recoverable levels)

/-- What becomes of the further items of a list, behind `items`. -/
def ReturnsItems (document : String → Except Problem Json) (items : List Json) (outer : Place)
    (levels : Nat) (vs : List Json) (rest : List Char) : Prop :=
  Recovers (run document (.afterItem items outer) (renderItems vs ++ rest))
    (fun ws => run document (.afterItem items outer) (renderItems vs ++ rest) =
      resume document (.arr (items.reverse ++ ws)) outer rest) vs
    (∀ v ∈ vs, v.Recoverable levels)

/-- What becomes of the further members of an object, behind `members`. Their keys come back in any
case. -/
def ReturnsMembers (document : String → Except Problem Json) (members : Members) (outer : Place)
    (levels : Nat) (ms : List (String × Json)) (rest : List Char) : Prop :=
  Recovers (run document (.afterMember members outer) (renderMembers ms ++ rest))
    (fun ms' => run document (.afterMember members outer) (renderMembers ms ++ rest) =
      resume document (.obj (Members.gather ms' members)) outer rest ∧
      ms'.map Prod.fst = ms.map Prod.fst) ms
    (∀ m ∈ ms, m.2.Recoverable levels)

/-- A value that is read as it was printed. -/
theorem returns_of_legible {place : Place} (hplace : place.Plain) {rest : List Char}
    (hrest : Delimited rest) {levels : Nat} {v : Json} (hlegible : Legible levels v)
    (hordered : v.ordered = v) (hv : v.Recoverable levels)
    (hlevels : place.depth + levels = deepest) : Returns document place levels v rest := by
  have hrun : run document (.value place) (v.renderChars ++ rest) = resume document
      v.ordered place rest :=
    run_renderChars hplace hrest hlegible (Nat.le_of_eq hlevels)
  rw [hordered] at hrun
  exact Or.inr ⟨v, hrun, iff_of_true rfl hv⟩

/-- A container that is too deep. -/
theorem returns_of_deep {place : Place} (hplace : place.Plain) (hdepth : place.depth = deepest)
    {v : Json} (hv : (∃ items, v = .arr items) ∨ ∃ members, v = .obj members) (rest : List Char) :
    Returns document place 0 v rest := by
  refine Or.inl ⟨?_, not_recoverable_zero hv⟩
  have henter (kind : Found) (b : Build) : enter kind b place = .bad .tooDeep := by
    have hdeep : ¬place.depth < deepest := by rw [hdepth]; exact Nat.lt_irrefl _
    cases place with
    | embedded => exact absurd hplace id
    | _ => exact if_neg hdeep
  rcases hv with ⟨items, rfl⟩ | ⟨members, rfl⟩
  · have hstart : ∀ left, next document (.value place) '[' left = .bad .tooDeep :=
      fun _ => henter _ _
    cases items with
    | nil => exact ⟨.tooDeep, by rw [renderChars, List.cons_append, run, hstart]⟩
    | cons v vs => exact ⟨.tooDeep, by rw [renderChars, List.cons_append, run, hstart]⟩
  · have hstart : ∀ left, next document (.value place) '\x7b' left = .bad .tooDeep :=
      fun _ => henter _ _
    cases members with
    | nil => exact ⟨.tooDeep, by rw [renderChars, List.cons_append, run, hstart]⟩
    | cons m ms => exact ⟨.tooDeep, by rw [renderChars, List.cons_append, run, hstart]⟩

/-- A number with a fraction comes back if its decimal is rounded to it. -/
theorem returns_float {place : Place} (hplace : place.Plain) (levels : Nat) (x : Binary64)
    {rest : List Char} (hrest : Delimited rest) :
    Returns document place levels (.float x) rest := by
  have hrecoverable : (Json.float x).Recoverable levels ↔ x.reread? = some x := by
    refine ⟨fun h => ?_, .float⟩
    cases h with
    | float h => exact h
  rw [Returns, renderChars, run_isNumber (isNumber_text x) document hplace hrest,
    x.value_text, hrecoverable]
  cases x.reread? with
  | none => exact Or.inl ⟨⟨.outOfRange, rfl⟩, by simp⟩
  | some y => exact Or.inr ⟨.float y, rfl, by simp⟩

/-- A list comes back if its first item does and the others do. -/
theorem returns_arr {place : Place} (hplace : place.Plain) {levels : Nat}
    (hlevels : place.depth + (levels + 1) = deepest) {v : Json} {vs : List Json} {rest : List Char}
    (hv : Returns document (.item [] place) levels v (renderItems vs ++ rest))
    (hvs : ∀ w, ReturnsItems document [w] place levels vs rest) :
    Returns document place (levels + 1) (.arr (v :: vs)) rest := by
  have hrun : run document (.value place) ((Json.arr (v :: vs)).renderChars ++ rest) =
      run document (.value (.item [] place)) (v.renderChars ++ (renderItems vs ++ rest)) := by
    rw [renderChars, List.cons_append, List.append_assoc, run_open hplace (by omega) rfl,
      (run_renderItem v [] place _).1]
  rw [Returns, hrun, recoverable_arr, List.forall_mem_cons]
  refine (Recovers.both hv hvs).map (fun x => Json.arr (x.1 :: x.2)) (by simp [Prod.ext_iff])
    fun x hx => ?_
  exact hx.1.trans hx.2

theorem returnsItems_cons {outer : Place} {levels : Nat} {items : List Json} {v : Json}
    {vs : List Json} {rest : List Char}
    (hv : Returns document (.item items outer) levels v (renderItems vs ++ rest))
    (hvs : ∀ w, ReturnsItems document (w :: items) outer levels vs rest) :
    ReturnsItems document items outer levels (v :: vs) rest := by
  have hrun : run document (.afterItem items outer) (renderItems (v :: vs) ++ rest) =
      run document (.value (.item items outer)) (v.renderChars ++ (renderItems vs ++ rest)) := by
    rw [renderItems, List.cons_append, List.append_assoc]
    show run document (.nextItem items outer) _ = _
    rw [(run_renderItem v items outer _).2]
  rw [ReturnsItems, hrun, List.forall_mem_cons]
  refine (Recovers.both hv hvs).map (fun x => x.1 :: x.2) (by simp [Prod.ext_iff]) fun x hx => ?_
  rw [hx.1, List.append_cons, ← List.reverse_cons]
  exact hx.2

theorem returnsMembers_cons {outer : Place} {levels : Nat} {members : Members}
    {key : String} {v : Json} {ms : List (String × Json)} {rest : List Char}
    (hv : Returns document (.member members key outer) levels v (renderMembers ms ++ rest))
    (hms : ∀ w, ReturnsMembers document (members.set key w) outer levels ms rest) :
    ReturnsMembers document members outer levels ((key, v) :: ms) rest := by
  have hrun : run document (.afterMember members outer) (renderMembers ((key, v) :: ms) ++ rest) =
      run document (.value (.member members key outer))
        (v.renderChars ++ (renderMembers ms ++ rest)) := by
    rw [renderMembers, List.cons_append, List.append_assoc, renderString_append, List.cons_append,
      List.append_assoc]
    show run document (.inKey false {} members outer) _ = _
    rw [run_key fun h => absurd h Bool.false_ne_true]
  rw [ReturnsMembers, hrun, List.forall_mem_cons]
  refine (Recovers.both hv hms).map (fun x => (key, x.1) :: x.2) (by simp [Prod.ext_iff])
    fun x hx => ?_
  exact ⟨hx.1.trans hx.2.1, by rw [List.map_cons, List.map_cons, hx.2.2]⟩

/-- What becomes of an object behind its first key. -/
theorem returns_members {place : Place} {levels : Nat} {key : String} {v : Json}
    {ms : List (String × Json)} (hsorted : Members.Sorted ((key, v) :: ms)) {rest : List Char}
    (hv : Returns document (.member [] key place) levels v (renderMembers ms ++ rest))
    (hms : ∀ w, ReturnsMembers document [(key, w)] place levels ms rest) :
    Recovers (run document (.value (.member [] key place))
      (v.renderChars ++ (renderMembers ms ++ rest)))
      (fun ms' => run document (.value (.member [] key place))
        (v.renderChars ++ (renderMembers ms ++ rest)) =
        resume document (.obj ms') place rest) ((key, v) :: ms)
      (∀ m ∈ (key, v) :: ms, m.2.Recoverable levels) := by
  rw [List.forall_mem_cons]
  refine (Recovers.both hv hms).map (fun x => (key, x.1) :: x.2) (by simp [Prod.ext_iff])
    fun x hx => ?_
  obtain ⟨hfirst, hothers, hkeys⟩ := hx
  have hsorted' : Members.Sorted ([(key, x.1)] ++ x.2) := by
    rw [Members.Sorted, ← List.pairwise_map] at hsorted ⊢
    simpa [hkeys] using hsorted
  rw [Members.gather_of_sorted hsorted'] at hothers
  exact hfirst.trans hothers

/-- An object comes back if its members do, provided that it is not taken for an envelope. -/
theorem returns_obj {place : Place} (hplace : place.Plain) {levels : Nat}
    (hlevels : place.depth + (levels + 1) = deepest) {key : String} (hkey : key ≠ embeddedKey)
    {v : Json} {ms : List (String × Json)} (hsorted : Members.Sorted ((key, v) :: ms))
    {rest : List Char}
    (hv : Returns document (.member [] key place) levels v (renderMembers ms ++ rest))
    (hms : ∀ w, ReturnsMembers document [(key, w)] place levels ms rest) :
    Returns document place (levels + 1) (.obj ((key, v) :: ms)) rest := by
  have hrun : run document (.value place) ((Json.obj ((key, v) :: ms)).renderChars ++ rest) =
      run document (.value (.member [] key place))
        (v.renderChars ++ (renderMembers ms ++ rest)) := by
    rw [renderChars, List.cons_append, List.append_assoc, renderString_append, List.cons_append,
      List.append_assoc, run_open hplace (by omega) rfl]
    show run document (.inKey true {} [] place) _ = _
    rw [run_key fun _ => hkey]
  have hrecoverable : (Json.obj ((key, v) :: ms)).Recoverable (levels + 1) ↔
      ∀ m ∈ (key, v) :: ms, m.2.Recoverable levels := by
    rw [recoverable_obj]
    exact and_iff_right (by simpa using hkey)
  rw [Returns, hrun, hrecoverable]
  exact (returns_members hsorted hv hms).map Json.obj (by simp) fun _ hms' => hms'

/-- An object that starts with the key of embedded documents does not come back. -/
theorem returns_envelope (hdocument : ∀ s v, document s = .ok v → ¬v.IsEnvelope) {place : Place}
    (hplace : place.Plain) {levels : Nat} (hlevels : place.depth + (levels + 1) = deepest)
    (v : Json) (ms : List (String × Json)) (rest : List Char) :
    Returns document place (levels + 1) (.obj ((embeddedKey, v) :: ms)) rest := by
  have hrun : run document (.value place)
      ((Json.obj ((embeddedKey, v) :: ms)).renderChars ++ rest) =
      run document (.value (.embedded place)) (v.renderChars ++ (renderMembers ms ++ rest)) := by
    rw [renderChars, List.cons_append, List.append_assoc, renderString_append, List.cons_append,
      List.append_assoc, run_open hplace (by omega) rfl]
    show run document (.inKey true {} [] place) _ = _
    rw [run_inKey (Quote.run_renderString embeddedKey _), placeOf, if_pos ⟨rfl, rfl⟩]
    rfl
  have hnot : ¬(Json.obj ((embeddedKey, v) :: ms)).Recoverable (levels + 1) := by
    rw [recoverable_obj]
    exact fun h => h.1 (embeddedKey, v) rfl rfl
  rw [Returns, hrun]
  obtain ⟨p, hp⟩ | ⟨s, w, rfl, rfl, hread, hw⟩ := run_envelope hplace v ms rest
  · exact Or.inl ⟨⟨p, hp⟩, hnot⟩
  · refine Or.inr ⟨w, hw, iff_of_false ?_ hnot⟩
    rintro rfl
    exact hdocument s _ hread ⟨_, rfl⟩

mutual

/-- What becomes of the text of a value. -/
theorem returns_renderChars (hdocument : ∀ s v, document s = .ok v → ¬v.IsEnvelope) {place : Place}
    (hplace : place.Plain) {rest : List Char} (hrest : Delimited rest) :
    ∀ {v : Json} {levels : Nat}, v.Tidy → place.depth + levels = deepest →
      Returns document place levels v rest
  | .null, _, _, hlevels => returns_of_legible hplace hrest .null (by rw [ordered]) .null hlevels
  | .bool b, _, _, hlevels =>
    returns_of_legible hplace hrest (.bool b) (by rw [ordered]) (.bool b) hlevels
  | .int n, _, .int h, hlevels =>
    returns_of_legible hplace hrest (.int h) (by rw [ordered]) (.int n) hlevels
  | .float x, levels, _, _ => returns_float hplace levels x hrest
  | .str s, _, _, hlevels =>
    returns_of_legible hplace hrest (.str s) (by rw [ordered]) (.str s) hlevels
  | .arr items, 0, _, hlevels => returns_of_deep hplace hlevels (Or.inl ⟨items, rfl⟩) rest
  | .arr [], levels + 1, _, hlevels => by
    have hlegible : Legible (levels + 1) (.arr []) := .arr (by simp)
    exact returns_of_legible hplace hrest hlegible (by rw [ordered, orderedItems])
      (.arr (by simp)) hlevels
  | .arr (v :: vs), levels + 1, .arr h, hlevels => by
    obtain ⟨hv, hvs⟩ := List.forall_mem_cons.mp h
    have hitem : (Place.item [] place).Plain := hplace
    have hinner : (Place.item [] place).depth = place.depth + 1 := rfl
    refine returns_arr hplace hlevels ?_
      fun w => returns_renderItems hdocument hplace hvs (by omega)
    exact returns_renderChars hdocument hitem (delimited_renderItems vs rest) hv (by omega)
  | .obj members, 0, _, hlevels => returns_of_deep hplace hlevels (Or.inr ⟨members, rfl⟩) rest
  | .obj [], levels + 1, _, hlevels => by
    have hlegible : Legible (levels + 1) (.obj []) := .obj (by simp) (by simp)
    have hordered : (Json.obj []).ordered = .obj [] := by
      rw [ordered, orderedMembers]
      rfl
    exact returns_of_legible hplace hrest hlegible hordered (.obj (by simp) (by simp)) hlevels
  | .obj ((key, v) :: ms), levels + 1, .obj hsorted h, hlevels => by
    obtain ⟨hv, hms⟩ := List.forall_mem_cons.mp h
    have hmember : (Place.member [] key place).Plain := hplace
    have hinner : (Place.member [] key place).depth = place.depth + 1 := rfl
    by_cases hkey : key = embeddedKey
    · rw [hkey]
      exact returns_envelope hdocument hplace hlevels v ms rest
    · refine returns_obj hplace hlevels hkey hsorted ?_ fun w => returns_renderMembers hdocument
        hplace hms (by omega)
      exact returns_renderChars hdocument hmember (delimited_renderMembers ms rest) hv (by omega)

/-- What becomes of the further items of a list. -/
theorem returns_renderItems (hdocument : ∀ s v, document s = .ok v → ¬v.IsEnvelope) {outer : Place}
    (houter : outer.Plain) {items : List Json} {rest : List Char} :
    ∀ {vs : List Json} {levels : Nat}, (∀ v ∈ vs, v.Tidy) → outer.depth + 1 + levels = deepest →
      ReturnsItems document items outer levels vs rest
  | [], _, _, _ => by
    have hrun : run document (.afterItem items outer) (renderItems [] ++ rest) =
        resume document (.arr items.reverse) outer rest := run_finished rfl houter
    rw [← List.append_nil items.reverse] at hrun
    exact Or.inr ⟨[], hrun, by simp⟩
  | v :: vs, levels, h, hlevels => by
    obtain ⟨hv, hvs⟩ := List.forall_mem_cons.mp h
    have hitem : (Place.item items outer).Plain := houter
    have hinner : (Place.item items outer).depth = outer.depth + 1 := rfl
    refine returnsItems_cons ?_ fun w => returns_renderItems hdocument houter hvs hlevels
    exact returns_renderChars hdocument hitem (delimited_renderItems vs rest) hv (by omega)

/-- What becomes of the further members of an object. -/
theorem returns_renderMembers (hdocument : ∀ s v, document s = .ok v → ¬v.IsEnvelope)
    {outer : Place} (houter : outer.Plain) {members : Members} {rest : List Char} :
    ∀ {ms : List (String × Json)} {levels : Nat}, (∀ m ∈ ms, m.2.Tidy) →
      outer.depth + 1 + levels = deepest →
      ReturnsMembers document members outer levels ms rest
  | [], _, _, _ => by
    refine Or.inr ⟨[], ⟨?_, rfl⟩, by simp⟩
    rw [renderMembers]
    exact run_finished rfl houter
  | (key, v) :: ms, levels, h, hlevels => by
    obtain ⟨hv, hms⟩ := List.forall_mem_cons.mp h
    have hmember : (Place.member members key outer).Plain := houter
    have hinner : (Place.member members key outer).depth = outer.depth + 1 := rfl
    refine returnsMembers_cons ?_ fun w => returns_renderMembers hdocument houter hms hlevels
    exact returns_renderChars hdocument hmember (delimited_renderMembers ms rest) hv (by omega)

end

end Build

/-- **A tidy value comes back from its text exactly if it is recoverable.** -/
theorem parse_render_iff {v : Json} (hv : v.Tidy) :
    parse v.render = .ok v ↔ v.Recoverable deepest := by
  have hend : Delimited [] := by simp [Delimited]
  obtain ⟨document, hdocument, hread⟩ := exists_document v.renderChars.length v.renderChars
  have hparse : parse v.render = Build.run document (.value .whole) v.renderChars >>= fun r =>
      alone r.1 r.2 := by
    rw [parse, render, String.toList_ofList, read, hread]
  have hwhole : Place.whole.Plain := trivial
  have hreturns : Build.Returns document .whole deepest v [] :=
    Build.returns_renderChars hdocument hwhole hend hv (Nat.zero_add deepest)
  rw [Build.Returns, List.append_nil] at hreturns
  obtain ⟨⟨p, hp⟩, hnot⟩ | ⟨w, hw, hiff⟩ := hreturns
  · rw [hparse, hp]
    exact iff_of_false (by simp [bind, Except.bind]) hnot
  · rw [hparse, hw, ← hiff]
    show (.ok w : Except Problem Json) = .ok v ↔ w = v
    rw [Except.ok.injEq]

/-- The text is that of the value, and it is read as the value exactly if the value is one that
comes back. -/
def Raw.Shows (raw : Raw) (v : Json) : Prop :=
  raw.text = v.render ∧ (parse raw.text = .ok v ↔ v.Recoverable deepest)

theorem shows_render {v : Json} (hv : v.Tidy) : (⟨v.render⟩ : Raw).Shows v :=
  ⟨rfl, parse_render_iff hv⟩

theorem parseMembers_of_error {text : String} {cs : List Char} (htext : text.toList = '\x7b' :: cs)
    {p : Problem} (h : Build.run parse (.firstKey false .whole) cs = .error p) :
    parseMembers text = .error p := by
  rw [parseMembers, htext]
  show Build.run parse (.firstKey false .whole) cs >>= _ = _
  rw [h]
  rfl

theorem parseMembers_of_ok {text : String} {cs : List Char} (htext : text.toList = '\x7b' :: cs)
    {ms : Members} (h : Build.run parse (.firstKey false .whole) cs = .ok (.obj ms, [])) :
    parseMembers text = .ok ms := by
  rw [parseMembers, htext]
  show Build.run parse (.firstKey false .whole) cs >>= _ = _
  rw [h]
  rfl

/-- The members of an object come back from its text exactly if they are recoverable. The object
itself is not taken for an envelope. -/
theorem parseMembers_render_iff {ms : Members} (hms : Tidy (.obj ms)) :
    parseMembers (render (.obj ms)) = .ok ms ↔ ∀ m ∈ ms, m.2.Recoverable (deepest - 1) := by
  have hdocument : ∀ s v, parse s = .ok v → ¬v.IsEnvelope := fun _ _ => not_isEnvelope_of_parse
  obtain ⟨hsorted, hvalues⟩ := hms.members
  cases ms with
  | nil => exact iff_of_true rfl (by simp)
  | cons m ms =>
    obtain ⟨key, v⟩ := m
    obtain ⟨hv, hvs⟩ := List.forall_mem_cons.mp hvalues
    have htext : (render (.obj ((key, v) :: ms))).toList =
        '\x7b' :: (renderString key ++ ':' :: (v.renderChars ++ renderMembers ms)) := by
      rw [render, String.toList_ofList, renderChars]
    have hrun : Build.run parse (.firstKey false .whole)
          (renderString key ++ ':' :: (v.renderChars ++ renderMembers ms)) =
        Build.run parse (.value (.member [] key .whole))
          (v.renderChars ++ (renderMembers ms ++ [])) := by
      rw [renderString_append, List.append_nil]
      show Build.run parse (.inKey false {} [] .whole) _ = _
      rw [Build.run_key fun h => absurd h Bool.false_ne_true]
    have hwhole : Place.whole.Plain := trivial
    have hplace : (Place.member [] key .whole).Plain := trivial
    have hlevels : (Place.member [] key .whole).depth + (deepest - 1) = deepest := rfl
    have hfirst : Build.Returns parse (.member [] key .whole) (deepest - 1) v
        (renderMembers ms ++ []) :=
      Build.returns_renderChars hdocument hplace (Build.delimited_renderMembers ms []) hv hlevels
    have hothers (w : Json) : Build.ReturnsMembers parse [(key, w)] .whole (deepest - 1) ms [] :=
      Build.returns_renderMembers hdocument hwhole hvs hlevels
    obtain ⟨⟨p, hp⟩, hnot⟩ | ⟨ms', hms', heq⟩ := Build.returns_members hsorted hfirst hothers
    · rw [parseMembers_of_error htext (hrun.trans hp)]
      exact iff_of_false (by simp) hnot
    · rw [parseMembers_of_ok htext (hrun.trans hms'), ← heq, Except.ok.injEq]

end StreamGateway.Json
