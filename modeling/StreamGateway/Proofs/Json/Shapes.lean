import StreamGateway.Proofs.Json.Legibility

/-! # The texts that a record is read from

Which texts are read as a record, and as what. A record is read from an object or from a list. The
members of the object and the items of the list are found in the text (`IsObject`, `IsList`), each
known member and each item is read by its field alone, and nothing required is left out
(`Record.shape_of_parse`). For lists that is enough: a list whose items are read by the fields in
order is read as a record (`Record.parse_of_list`). -/
namespace StreamGateway.Json

/-! ## Objects and lists -/

/-- The text is a string that stands for `s`. -/
def Writes (s : String) : List Char → Prop := After '"' fun t => Quote.run {} t = .ok (s, [])

/-- The text is the value `v`. -/
def Value (v t : List Char) : Prop := Spells .value v ∧ t = v

/-- Behind a value of a list: the values that follow, and the end. -/
def ItemsRest : List (List Char) → List Char → Prop
  | [] => Then Blanks (After ']' (· = []))
  | v :: vs => Then Blanks (After ',' (Then Blanks (Then (Value v) (ItemsRest vs))))

/-- The text is a list of these values. -/
def IsList : List (List Char) → List Char → Prop
  | [] => After '[' (Then Blanks (After ']' (· = [])))
  | v :: vs => After '[' (Then Blanks (Then (Value v) (ItemsRest vs)))

/-- The text is a member of an object behind the blanks before its key. -/
def Member (m : String × List Char) : List Char → Prop :=
  Then (Writes m.1) (Then Blanks (After ':' (Then Blanks (Value m.2))))

/-- Behind a member of an object: the members that follow, and the end. -/
def MembersRest : List (String × List Char) → List Char → Prop
  | [] => Then Blanks (After '\x7d' (· = []))
  | m :: ms => Then Blanks (After ',' (Then Blanks (Then (Member m) (MembersRest ms))))

/-- The text is an object with these members, each with its key decoded and its value as it is
written. -/
def IsObject : List (String × List Char) → List Char → Prop
  | [] => After '\x7b' (Then Blanks (After '\x7d' (· = [])))
  | m :: ms => After '\x7b' (Then Blanks (Then (Member m) (MembersRest ms)))

/-- The text is of a kind, apart from blanks around it. -/
def Around (P : List Char → Prop) (text : String) : Prop := Then Blanks (Then P Blanks) text.toList

theorem spells_of_itemsRest {vs : List (List Char)} {t : List Char} (h : ItemsRest vs t) :
    ∀ v ∈ vs, Spells .value v := by
  induction vs generalizing t with
  | nil => simp
  | cons v vs ih =>
    obtain ⟨_, _, -, ⟨_, ⟨_, _, -, ⟨_, _, hv, hrest, -⟩, -⟩, -⟩, -⟩ := h
    exact List.forall_mem_cons.mpr ⟨hv.1, ih hrest⟩

theorem spells_of_isList {vs : List (List Char)} {t : List Char} (h : IsList vs t) :
    ∀ v ∈ vs, Spells .value v := by
  cases vs with
  | nil => simp
  | cons v vs =>
    obtain ⟨_, ⟨_, _, -, ⟨_, _, hv, hrest, -⟩, -⟩, -⟩ := h
    exact List.forall_mem_cons.mpr ⟨hv.1, spells_of_itemsRest hrest⟩

theorem bind_eq_ok {α β : Type} {x : Except Problem α} {f : α → Except Problem β} {b : β} :
    x >>= f = .ok b ↔ ∃ a, x = .ok a ∧ f a = .ok b := by
  constructor
  · intro h
    cases x with
    | error p => cases h
    | ok a => exact ⟨a, rfl, h⟩
  · rintro ⟨a, rfl, h⟩
    exact h

/-! ## Strings -/

namespace Quote

theorem takeUnit_cases (q : Quote) (high : Option Nat) (unit : Nat) :
    (∃ p, q.takeUnit high unit = .bad p) ∨ ∃ q', q.takeUnit high unit = .go q' ∧
      q'.outline = .plain := by
  cases high with
  | none =>
    rw [takeUnit]
    split_ifs
    · exact Or.inl ⟨_, rfl⟩
    · exact Or.inr ⟨_, rfl, rfl⟩
    · exact Or.inr ⟨_, rfl, rfl⟩
  | some n =>
    rw [takeUnit]
    split_ifs
    · exact Or.inr ⟨_, rfl, rfl⟩
    · exact Or.inl ⟨_, rfl⟩

/-- A character breaks a string, or it does the same to it and to its shape, whatever follows. -/
theorem next_cases (q : Quote) (c : Char) :
    (∀ left, ∃ p, q.next c left = .bad p) ∨
      (∃ q', ∀ left, q.next c left = .go q' ∧ q.outline.next c left = .go q'.outline) ∨
      ∀ left, q.next c left = .close ∧ q.outline.next c left = .close := by
  obtain ⟨mode, read⟩ := q
  cases mode with
  | plain =>
    simp only [next, outline, Outline.next]
    split_ifs
    · exact Or.inr (Or.inr fun _ => ⟨rfl, rfl⟩)
    · exact Or.inr (Or.inl ⟨_, fun _ => ⟨rfl, rfl⟩⟩)
    · exact Or.inl fun _ => ⟨_, rfl⟩
    · exact Or.inr (Or.inl ⟨_, fun _ => ⟨rfl, rfl⟩⟩)
  | escape =>
    simp only [next, outline, Outline.next]
    split_ifs with hu
    · exact Or.inr (Or.inl ⟨_, fun _ => ⟨rfl, rfl⟩⟩)
    · rw [Option.isSome_iff_exists] at *
      obtain ⟨d, hd⟩ := ‹_›
      rw [hd]
      exact Or.inr (Or.inl ⟨_, fun _ => ⟨rfl, rfl⟩⟩)
    · rw [Option.not_isSome_iff_eq_none] at *
      rw [‹shortEscape? c = none›]
      exact Or.inl fun _ => ⟨_, rfl⟩
  | hex high seen value =>
    simp only [next]
    cases hdigit : Number.hexDigit? c with
    | none => exact Or.inl fun _ => ⟨_, rfl⟩
    | some d =>
      have hshape (left : List Char) : Outline.next (.hex seen) c left =
          .go (if seen = 3 then .plain else .hex (seen + 1)) := by rw [Outline.next, hdigit]; rfl
      dsimp only
      split_ifs with hseen
      · rw [if_pos hseen] at hshape
        obtain ⟨p, hp⟩ | ⟨q', hq', hplain⟩ :=
          takeUnit_cases ⟨.hex high seen value, read⟩ high (value * 16 + d)
        · exact Or.inl fun _ => ⟨p, hp⟩
        · exact Or.inr (Or.inl ⟨q', fun left => ⟨hq', hplain ▸ hshape left⟩⟩)
      · rw [if_neg hseen] at hshape
        exact Or.inr (Or.inl ⟨_, fun left => ⟨rfl, hshape left⟩⟩)
  | pair high =>
    by_cases hslash : c = '\\'
    · subst hslash
      exact Or.inr (Or.inl ⟨_, fun _ => ⟨rfl, rfl⟩⟩)
    · exact Or.inl fun _ => ⟨_, if_neg hslash⟩
  | pairMark high =>
    by_cases hu : c = 'u'
    · subst hu
      exact Or.inr (Or.inl ⟨_, fun _ => ⟨rfl, rfl⟩⟩)
    · exact Or.inl fun _ => ⟨_, if_neg hu⟩

/-- A string that was read has the shape of one, and is read whatever follows. -/
theorem finishes_of_run {q : Quote} {cs rest : List Char} {s : String}
    (h : q.run cs = .ok (s, rest)) :
    ∃ t, cs = t ++ rest ∧ q.outline.Finishes t ∧ ∀ rest', q.run (t ++ rest') = .ok (s, rest') := by
  induction cs generalizing q with
  | nil => cases h
  | cons c cs ih =>
    rw [run] at h
    obtain hbad | ⟨q', hgo⟩ | hclose := q.next_cases c
    · obtain ⟨p, hp⟩ := hbad cs
      rw [hp] at h
      cases h
    · rw [(hgo cs).1] at h
      obtain ⟨t, rfl, ht, hrun⟩ := ih h
      refine ⟨c :: t, rfl, ?_, fun rest' => ?_⟩
      · rw [Outline.finishes_cons [], (hgo []).2]
        exact ht
      · rw [List.cons_append, run, (hgo _).1]
        exact hrun rest'
    · rw [(hclose cs).1] at h
      cases h
      refine ⟨[c], rfl, ?_, fun rest' => ?_⟩
      · rw [Outline.finishes_cons [], (hclose []).2]
        rfl
      · rw [List.singleton_append, run, (hclose _).1]

end Quote

/-- A string at the head of a text. -/
theorem exists_writes {cs rest : List Char} {s : String} (h : Quote.run {} cs = .ok (s, rest)) :
    ∃ t, Writes s ('"' :: t) ∧ cs = t ++ rest := by
  obtain ⟨t, rfl, -, hrun⟩ := Quote.finishes_of_run h
  refine ⟨t, ⟨t, ?_, rfl⟩, rfl⟩
  simpa using hrun []

theorem Writes.run {s : String} {t : List Char} (h : Writes s ('"' :: t)) (rest : List Char) :
    Quote.run {} (t ++ rest) = .ok (s, rest) := by
  obtain ⟨_, hread, htail⟩ := h
  cases htail
  obtain ⟨u, hu, -, hrun⟩ := Quote.finishes_of_run hread
  rw [List.append_nil] at hu
  rw [hu]
  exact hrun rest

theorem Writes.spells {s : String} {v : List Char} (h : Writes s v) : Spells .value v := by
  obtain ⟨t, hrun, rfl⟩ := h
  obtain ⟨u, hu, hshape, -⟩ := Quote.finishes_of_run hrun
  rw [List.append_nil] at hu
  exact .text ⟨t, hu ▸ hshape, rfl⟩

namespace Build

variable {document : String → Except Problem Json}

/-- A word is read letter by letter, and stands for its value. -/
theorem eq_of_run_word {left cs rest : List Char} (hleft : left ≠ []) {v w : Json}
    (h : run document (.word left v .whole) cs = .ok (w, rest)) : w = v ∧ cs = left ++ rest := by
  induction cs generalizing left with
  | nil => cases h
  | cons c cs ih =>
    obtain ⟨d, more, rfl⟩ := List.exists_cons_of_ne_nil hleft
    rw [run, next] at h
    split_ifs at h with hc hmore
    · rw [List.isEmpty_iff.mp hmore, Decidable.not_not.mp hc]
      cases h
      exact ⟨rfl, rfl⟩
    · have hne : more ≠ [] := fun hnil => hmore (List.isEmpty_iff.mpr hnil)
      obtain ⟨hw, hcs⟩ := ih hne h
      rw [hcs, Decidable.not_not.mp hc]
      exact ⟨hw, rfl⟩

/-- A number is read as one. -/
theorem value_of_run_number {phase : Phase} {numeral : Numeral} {cs rest : List Char} {w : Json}
    (h : run document (.number phase numeral .whole) cs = .ok (w, rest)) :
    ∃ n : Numeral, n.value = .ok w := by
  induction cs generalizing phase numeral with
  | nil =>
    rw [run, atEnd] at h
    split_ifs at h
    · cases hvalue : numeral.value with
      | error p =>
        rw [hvalue] at h
        cases h
      | ok v =>
        rw [hvalue] at h
        cases h
        exact ⟨numeral, hvalue⟩
    · cases h
  | cons c cs ih =>
    rw [run, next] at h
    cases hphase : phase.next c with
    | go phase' =>
      rw [hphase] at h
      exact ih h
    | bad =>
      rw [hphase] at h
      cases h
    | stop =>
      rw [hphase] at h
      cases hvalue : numeral.value with
      | error p =>
        rw [hvalue] at h
        cases h
      | ok v =>
        rw [hvalue] at h
        cases h
        exact ⟨numeral, hvalue⟩

end Build

theorem Numeral.value_ne_str {n : Numeral} {s : String} : n.value ≠ .ok (.str s) := by
  have hfloat : n.toFloat ≠ .ok (.str s) := by
    rw [toFloat]
    split <;> simp
  rw [value]
  split_ifs
  · exact hfloat
  · simp
  · exact hfloat
  · simp

/-- Of the values without brackets only a string is read as one. -/
theorem run_of_read_str {c : Char} {cs rest : List Char} {s : String} (hblank : isBlank c = false)
    (hlist : c ≠ '[') (hobject : c ≠ '\x7b') (h : read (c :: cs) = .ok (.str s, rest)) :
    c = '"' ∧ Quote.run {} cs = .ok (s, rest) := by
  obtain ⟨document, hread⟩ := readWithin_eq (c :: cs).length (c :: cs)
  rw [read, hread, Build.run, Build.next, if_neg (by simp [hblank]), Build.start] at h
  split_ifs at h with hn ht hf hquote
  · cases (Build.eq_of_run_word (by simp) h).1
  · cases (Build.eq_of_run_word (by simp) h).1
  · cases (Build.eq_of_run_word (by simp) h).1
  · refine ⟨hquote, ?_⟩
    have hrun : Build.run document (.text {} .whole) cs = .ok (.str s, rest) := h
    rw [build_run_text] at hrun
    cases hq : Quote.run {} cs with
    | error p =>
      rw [hq] at hrun
      cases hrun
    | ok r =>
      rw [hq] at hrun
      cases hrun
      rfl
  · cases hfirst : Phase.first? c with
    | none =>
      rw [hfirst] at h
      cases h
    | some phase =>
      rw [hfirst] at h
      obtain ⟨n, hn⟩ := Build.value_of_run_number h
      exact absurd hn Numeral.value_ne_str

theorem asString_eq_ok {v : Json} {s : String} : asString v = .ok s ↔ v = .str s := by
  cases v <;> simp [asString]

/-- A string is read from a string. -/
theorem writes_of_readString {cs rest : List Char} {s : String}
    (h : readString cs = .ok (s, rest)) :
    ∃ bs v, Blanks bs ∧ Writes s v ∧ cs = bs ++ (v ++ rest) := by
  obtain ⟨bs, hbs, hcs⟩ := exists_blanks cs
  rw [readString, scalar] at h
  split at h
  · cases h
  · cases h
  · rename_i hlist hobject
    obtain ⟨r, hread, hr⟩ := bind_eq_ok.mp h
    obtain ⟨s', hstring, hsame⟩ := bind_eq_ok.mp hr
    cases hsame
    cases hdrop : cs.dropWhile isBlank with
    | nil =>
      rw [hdrop] at hread
      cases hread
    | cons c t =>
      rw [hdrop] at hread
      have hstr : read (c :: t) = .ok (.str s, r.2) := by
        rw [hread, ← asString_eq_ok.mp hstring]
      obtain ⟨rfl, hrun⟩ := run_of_read_str (isBlank_of_dropWhile hdrop)
        (fun hc => hlist t (hc ▸ hdrop)) (fun hc => hobject t (hc ▸ hdrop)) hstr
      obtain ⟨u, hu, rfl⟩ := exists_writes hrun
      exact ⟨bs, '"' :: u, hbs, hu, by rw [hcs, hdrop]; rfl⟩

/-! ## Readers -/

/-- The reader skips blanks and reads one value, whatever follows it. -/
def Lexical {α : Type} (reader : Reader α) : Prop :=
  ∀ cs a rest, reader cs = .ok (a, rest) →
    ∃ bs v, Blanks bs ∧ Spells .value v ∧ Reads reader v a ∧ cs = bs ++ (v ++ rest)

/-- The same behind blanks that were skipped before. -/
theorem Lexical.skipped {α : Type} {reader : Reader α} (hreader : Lexical reader)
    {cs solid : List Char} (hsolid : cs.dropWhile isBlank = solid) {a : α} {rest : List Char}
    (h : reader solid = .ok (a, rest)) :
    ∃ bs v, Blanks bs ∧ Spells .value v ∧ Reads reader v a ∧ cs = bs ++ (v ++ rest) := by
  obtain ⟨before, hbefore, hcs⟩ := exists_blanks cs
  obtain ⟨bs, v, hbs, hv, hreads, hrest⟩ := hreader _ _ _ h
  refine ⟨before ++ bs, v, List.forall_mem_append.mpr ⟨hbefore, hbs⟩, hv, hreads, ?_⟩
  rw [hcs, hsolid, hrest, List.append_assoc]

theorem Writes.reads {s : String} {v : List Char} (h : Writes s v) : Reads readString v s where
  head := exists_cons_of_spells h.spells
  read := by
    intro rest _
    obtain ⟨t, hrun, rfl⟩ := h
    obtain ⟨document, hread⟩ := readWithin_eq ('"' :: (t ++ rest)).length ('"' :: (t ++ rest))
    have hvalue : Json.read ('"' :: (t ++ rest)) = .ok (.str s, rest) := by
      rw [Json.read, hread]
      show Build.run document (.text {} .whole) (t ++ rest) = _
      rw [build_run_text, Writes.run ⟨t, hrun, rfl⟩]
      rfl
    show (Json.read ('"' :: (t ++ rest)) >>= fun r => asString r.1 >>= fun v => .ok (v, r.2)) = _
    rw [hvalue]
    rfl

theorem lexical_readString : Lexical readString := by
  intro cs s rest h
  obtain ⟨bs, v, hbs, hv, hcs⟩ := writes_of_readString h
  exact ⟨bs, v, hbs, hv.spells, hv.reads, hcs⟩

theorem lexical_raw : Lexical Raw.read := by
  intro cs raw rest h
  obtain ⟨bs, hbs, hraw, hcs⟩ := Raw.exists_of_read h
  exact ⟨bs, raw.text.toList, hbs, hraw, reads_raw hraw, hcs⟩

/-- What is found where there may be something: `null`, or a value for the reader. -/
theorem Lexical.optional_cases {α : Type} {reader : Reader α} (hreader : Lexical reader)
    {cs rest : List Char} {a : Option α} (h : Json.optional reader cs = .ok (a, rest)) :
    ∃ bs v, Blanks bs ∧ Spells .value v ∧ cs = bs ++ (v ++ rest) ∧
      (a = none ∧ v = "null".toList ∨ ∃ x, a = some x ∧ Reads reader v x ∧ v.head? ≠ some 'n') := by
  obtain ⟨before, hbefore, hcs⟩ := exists_blanks cs
  rw [Json.optional] at h
  split at h
  · rename_i t hdrop
    obtain ⟨r, hread, hr⟩ := bind_eq_ok.mp h
    cases hr
    obtain ⟨document, hbuild⟩ := readWithin_eq ('n' :: t).length ('n' :: t)
    have hword : Build.run document (.word ['u', 'l', 'l'] .null .whole) t = .ok (r.1, r.2) :=
      hbuild.symm.trans hread
    have ht : t = ['u', 'l', 'l'] ++ r.2 := (Build.eq_of_run_word (by simp) hword).2
    exact ⟨before, "null".toList, hbefore,
      .word (by decide), by rw [hcs, hdrop, ht]; rfl, Or.inl ⟨rfl, rfl⟩⟩
  · rename_i hnull
    obtain ⟨r, hread, hr⟩ := bind_eq_ok.mp h
    cases hr
    obtain ⟨bs, v, hbs, hv, hreads, hsolid⟩ := hreader _ _ _ hread
    cases bs with
    | nil =>
      have hhead : v.head? ≠ some 'n' := by
        intro hn
        obtain ⟨t, rfl⟩ := List.head?_eq_some_iff.mp hn
        exact hnull _ hsolid
      exact ⟨before, v, hbefore, hv, by rw [hcs, hsolid]; rfl, Or.inr ⟨_, rfl, hreads, hhead⟩⟩
    | cons b bs =>
      have hblank := isBlank_of_dropWhile hsolid
      rw [(run_cons.mp hbs).1] at hblank
      cases hblank

theorem Lexical.optional {α : Type} {reader : Reader α} (hreader : Lexical reader) :
    Lexical (optional reader) := by
  intro cs a rest h
  obtain ⟨bs, v, hbs, hv, hcs, ⟨rfl, rfl⟩ | ⟨x, rfl, hreads, hhead⟩⟩ := hreader.optional_cases h
  · exact ⟨bs, _, hbs, hv, reads_null, hcs⟩
  · exact ⟨bs, v, hbs, hv, hreads.optional hhead, hcs⟩

/-- What is found behind blanks in a value is the whole value. -/
theorem eq_of_blanks {bs v w : List Char} (hbs : Blanks bs)
    (hw : ∃ c cs, w = c :: cs ∧ delimits c = false) (h : w ++ [] = bs ++ (v ++ [])) : w = v := by
  obtain ⟨c, cs, rfl, hc⟩ := hw
  cases bs with
  | nil => simpa using h
  | cons b bs =>
    obtain ⟨rfl, -⟩ := List.cons.inj h
    have hblank : isBlank c = true := (run_cons.mp hbs).1
    simp [delimits, hblank] at hc

/-- What a reader reads a whole value as, if something is made of it then. -/
theorem Lexical.reads_of_map {α β : Type} {reader : Reader α} (hreader : Lexical reader) (f : α → β)
    {v : List Char} {b : β}
    (h : Reads (fun cs => do let (x, rest) ← reader cs; return (f x, rest)) v b) :
    ∃ a, Reads reader v a ∧ b = f a := by
  have hend : Delimited [] := by simp [Delimited]
  obtain ⟨⟨a, rest⟩, hread, hdone⟩ := bind_eq_ok.mp (h.read [] hend)
  cases hdone
  obtain ⟨bs, v', hbs, -, hreads, hv⟩ := hreader _ _ _ hread
  exact ⟨a, eq_of_blanks hbs h.head hv ▸ hreads, rfl⟩

/-- A value that is read as a string is one. -/
theorem writes_of_reads {s : String} {v : List Char} (h : Reads readString v s) : Writes s v := by
  have hend : Delimited [] := by simp [Delimited]
  obtain ⟨bs, v', hbs, hv, hcs⟩ := writes_of_readString (h.read [] hend)
  exact eq_of_blanks hbs h.head hcs ▸ hv

/-- A value that is read as it is written. -/
theorem eq_of_reads_raw {raw : Raw} {v : List Char} (h : Reads Raw.read v raw) :
    v = raw.text.toList := by
  have hend : Delimited [] := by simp [Delimited]
  obtain ⟨bs, hbs, -, hcs⟩ := Raw.exists_of_read (h.read [] hend)
  exact eq_of_blanks hbs h.head hcs

/-- A value that is read where there may be something. -/
theorem Lexical.reads_of_optional {α : Type} {reader : Reader α} (hreader : Lexical reader)
    {v : List Char} {a : Option α} (h : Reads (Json.optional reader) v a) :
    a = none ∧ v = "null".toList ∨ ∃ x, a = some x ∧ Reads reader v x := by
  have hend : Delimited [] := by simp [Delimited]
  obtain ⟨bs, v', hbs, -, hcs, hcases⟩ := hreader.optional_cases (h.read [] hend)
  obtain rfl : v = v' := eq_of_blanks hbs h.head hcs
  refine hcases.imp_right ?_
  rintro ⟨x, hx, hreads, -⟩
  exact ⟨x, hx, hreads⟩

/-- Where there may be something, `null` is read as nothing. -/
theorem eq_none_of_reads_null {α : Type} {reader : Reader α} {a : Option α}
    (h : Reads (Json.optional reader) "null".toList a) : a = none := by
  have hend : Delimited [] := by simp [Delimited]
  have hboth := (h.read [] hend).symm.trans (reads_null.read [] hend)
  simpa using hboth

theorem Lexical.map {α β : Type} {reader : Reader α} (hreader : Lexical reader) (f : α → β) :
    Lexical fun cs => do let (x, rest) ← reader cs; return (f x, rest) := by
  intro cs b rest h
  obtain ⟨r, hread, hr⟩ := bind_eq_ok.mp h
  cases hr
  obtain ⟨bs, v, hbs, hv, hreads, hcs⟩ := hreader _ _ _ hread
  exact ⟨bs, v, hbs, hv, hreads.map f, hcs⟩

/-! ## Records -/

namespace Record

variable {σ : Type} (r : Record σ)

/-- The fields read the values in order; those that are left over need not be there. -/
inductive Fills : List (Field σ) → σ → List (List Char) → σ → Prop where
  | done {fs : List (Field σ)} {s : σ} (h : ∀ f ∈ fs, f.required = false) : Fills fs s [] s
  | next {f : Field σ} {fs : List (Field σ)} {s s' s'' : σ} {v : List Char} {vs : List (List Char)}
      (h : Reads (f.read s) v s') (hs : Fills fs s' vs s'') : Fills (f :: fs) s (v :: vs) s''

theorem Fills.of_required {f : Field σ} {fs : List (Field σ)} {s s'' : σ} {vs : List (List Char)}
    (h : Fills (f :: fs) s vs s'') (hf : f.required = true) :
    ∃ v vs' s', vs = v :: vs' ∧ Reads (f.read s) v s' ∧ Fills fs s' vs' s'' := by
  cases h with
  | done hoptional =>
    rw [hoptional f (.head fs)] at hf
    cases hf
  | next hreads hs => exact ⟨_, _, _, rfl, hreads, hs⟩

theorem Fills.of_nil {s s' : σ} {vs : List (List Char)} (h : Fills [] s vs s') :
    vs = [] ∧ s' = s := by
  cases h with
  | done => exact ⟨rfl, rfl⟩

/-- The members with the name of a field are read by it, no two by the same, and the others are
passed over. -/
inductive Collects : σ → List (String × List Char) → σ → Prop where
  | done (s : σ) : Collects s [] s
  | field {f : Field σ} {s s' s'' : σ} {m : String × List Char} {ms : List (String × List Char)}
      (hfind : r.fields.find? (·.name = m.1) = some f) (hnew : m.1 ∉ ms.map Prod.fst)
      (h : Reads (f.read s) m.2 s') (hs : Collects s' ms s'') : Collects s (m :: ms) s''
  | other {s s' : σ} {m : String × List Char} {ms : List (String × List Char)}
      (hfind : r.fields.find? (·.name = m.1) = none) (hs : Collects s ms s') :
        Collects s (m :: ms) s'

/-! ### Lists -/

theorem checkShort_eq_ok {fs : List (Field σ)} {index : Nat} :
    r.checkShort fs index = .ok () ↔ ∀ f ∈ fs, f.required = false := by
  induction fs generalizing index with
  | nil => simp [checkShort]
  | cons f fs ih =>
    rw [checkShort, List.forall_mem_cons]
    cases f.required with
    | true => simp
    | false => simp [ih]

theorem exists_of_endList {s s' : σ} {cs rest : List Char} (h : endList s cs = .ok (s', rest)) :
    s' = s ∧ ∃ bs, Blanks bs ∧ cs = bs ++ ']' :: rest := by
  obtain ⟨bs, hbs, hcs⟩ := exists_blanks cs
  rw [endList] at h
  split at h
  · cases h
  · rename_i hdrop
    cases h
    exact ⟨rfl, bs, hbs, hdrop ▸ hcs⟩
  · split at h <;> cases h
  · cases h

variable {r}

/-- Behind a value of a list. -/
theorem itemsRest_of_readItems {fs : List (Field σ)} (hfs : ∀ f ∈ fs, ∀ s, Lexical (f.read s))
    {index : Nat} (hindex : index ≠ 0) {s s' : σ} {cs rest : List Char}
    (h : r.readItems fs index s cs = .ok (s', rest)) :
    ∃ vs t, Fills fs s vs s' ∧ ItemsRest vs t ∧ cs = t ++ rest := by
  induction fs generalizing index s cs with
  | nil =>
    obtain ⟨rfl, bs, hbs, hcs⟩ := exists_of_endList h
    exact ⟨[], bs ++ [']'], .done (by simp), ⟨bs, _, hbs, ⟨[], rfl, rfl⟩, rfl⟩, by simp [hcs]⟩
  | cons f fs ih =>
    obtain ⟨hf, hfs⟩ := List.forall_mem_cons.mp hfs
    obtain ⟨bs, hbs, hcs⟩ := exists_blanks cs
    rw [readItems] at h
    split at h
    · cases h
    · rename_i t hdrop
      obtain ⟨_, hshort, hr⟩ := bind_eq_ok.mp h
      cases hr
      exact ⟨[], bs ++ [']'], .done (r.checkShort_eq_ok.mp hshort),
        ⟨bs, _, hbs, ⟨[], rfl, rfl⟩, rfl⟩, by rw [hcs, hdrop]; simp⟩
    · rename_i c t hne hdrop
      rw [if_neg hindex] at h
      split_ifs at h with hcomma
      split at h
      · cases h
      · cases h
      · rename_i d u _ hafter
        obtain ⟨⟨s₁, rest₁⟩, hread, hr⟩ := bind_eq_ok.mp h
        obtain ⟨bs₁, v, hbs₁, hv, hreads, ht⟩ := (hf s).skipped hafter hread
        obtain ⟨vs, t', hfills, hitems, rfl⟩ := ih hfs (Nat.succ_ne_zero index) hr
        exact ⟨v :: vs, bs ++ ',' :: (bs₁ ++ (v ++ t')), .next hreads hfills,
          ⟨bs, _, hbs, ⟨_, ⟨bs₁, _, hbs₁, ⟨v, t', ⟨hv, rfl⟩, hitems, rfl⟩, rfl⟩, rfl⟩, rfl⟩,
          by rw [hcs, hdrop, hcomma, ht]; simp⟩

/-- Behind the opening bracket of a list. -/
theorem isList_of_readItems {fs : List (Field σ)} (hfs : ∀ f ∈ fs, ∀ s, Lexical (f.read s))
    {s s' : σ} {cs rest : List Char} (h : r.readItems fs 0 s cs = .ok (s', rest)) :
    ∃ vs t, Fills fs s vs s' ∧ IsList vs ('[' :: t) ∧ cs = t ++ rest := by
  cases fs with
  | nil =>
    obtain ⟨rfl, bs, hbs, hcs⟩ := exists_of_endList h
    exact ⟨[], bs ++ [']'], .done (by simp),
      ⟨_, ⟨bs, _, hbs, ⟨[], rfl, rfl⟩, rfl⟩, rfl⟩, by simp [hcs]⟩
  | cons f fs =>
    obtain ⟨hf, hfs⟩ := List.forall_mem_cons.mp hfs
    obtain ⟨bs, hbs, hcs⟩ := exists_blanks cs
    rw [readItems] at h
    split at h
    · cases h
    · rename_i t hdrop
      obtain ⟨_, hshort, hr⟩ := bind_eq_ok.mp h
      cases hr
      exact ⟨[], bs ++ [']'], .done (r.checkShort_eq_ok.mp hshort),
        ⟨_, ⟨bs, _, hbs, ⟨[], rfl, rfl⟩, rfl⟩, rfl⟩, by rw [hcs, hdrop]; simp⟩
    · rename_i c t hne hdrop
      rw [if_pos rfl] at h
      obtain ⟨⟨s₁, rest₁⟩, hread, hr⟩ := bind_eq_ok.mp h
      obtain ⟨bs₁, v, hbs₁, hv, hreads, ht⟩ := (hf s).skipped hdrop hread
      obtain ⟨vs, t', hfills, hitems, rfl⟩ := itemsRest_of_readItems hfs Nat.one_ne_zero hr
      exact ⟨v :: vs, bs₁ ++ (v ++ t'), .next hreads hfills,
        ⟨_, ⟨bs₁, _, hbs₁, ⟨v, t', ⟨hv, rfl⟩, hitems, rfl⟩, rfl⟩, rfl⟩, by simp [ht]⟩

theorem dropWhile_blanks {bs : List Char} (hbs : Blanks bs) (cs : List Char) :
    (bs ++ cs).dropWhile isBlank = cs.dropWhile isBlank := List.dropWhile_append_of_pos hbs

theorem readItems_blanks {bs : List Char} (hbs : Blanks bs) (fs : List (Field σ))
    (index : Nat) (s : σ) (cs : List Char) :
    r.readItems fs index s (bs ++ cs) = r.readItems fs index s cs := by
  cases fs <;> simp only [readItems, endList, dropWhile_blanks hbs]

theorem delimited_blanks {bs : List Char} (hbs : Blanks bs) {c : Char} (hc : delimits c = true)
    (cs : List Char) : Delimited (bs ++ c :: cs) := by
  cases bs with
  | nil => simpa [Delimited] using hc
  | cons b bs =>
    have hb : isBlank b = true := (run_cons.mp hbs).1
    simp [Delimited, delimits, hb]

theorem delimited_itemsRest {vs : List (List Char)} {t : List Char} (h : ItemsRest vs t)
    (rest : List Char) : Delimited (t ++ rest) := by
  cases vs with
  | nil =>
    obtain ⟨bs, _, hbs, ⟨_, rfl, rfl⟩, rfl⟩ := h
    rw [List.append_assoc]
    exact delimited_blanks hbs rfl _
  | cons v vs =>
    obtain ⟨bs, _, hbs, ⟨_, -, rfl⟩, rfl⟩ := h
    rw [List.append_assoc]
    exact delimited_blanks hbs rfl _

/-- A list may end where no other field is required. -/
theorem readItems_end {fs : List (Field σ)} (hfs : ∀ f ∈ fs, f.required = false)
    (index : Nat) (s : σ) (rest : List Char) :
    r.readItems fs index s (']' :: rest) = .ok (s, rest) := by
  cases fs with
  | nil => rfl
  | cons f fs =>
    show (r.checkShort (f :: fs) index >>= fun _ => .ok (s, rest)) = _
    rw [r.checkShort_eq_ok.mpr hfs]
    rfl

/-- A list is read whose values fill the fields: behind a value. -/
theorem readItems_of_itemsRest {fs : List (Field σ)} {s s' : σ} {vs : List (List Char)}
    (hfills : Fills fs s vs s') {t : List Char} (ht : ItemsRest vs t) {index : Nat}
    (hindex : index ≠ 0) (rest : List Char) :
    r.readItems fs index s (t ++ rest) = .ok (s', rest) := by
  induction hfills generalizing index t with
  | @done fs s h =>
    obtain ⟨bs, _, hbs, ⟨_, rfl, rfl⟩, rfl⟩ := ht
    rw [List.append_assoc, readItems_blanks hbs]
    exact readItems_end h index s rest
  | @next f fs s s' s'' v vs h hs ih =>
    obtain ⟨bs, _, hbs, ⟨_, ⟨bs₁, _, hbs₁, ⟨_, t, ⟨hv, rfl⟩, hitems, rfl⟩, rfl⟩, rfl⟩, rfl⟩ := ht
    have hread := h.read (t ++ rest) (delimited_itemsRest hitems rest)
    obtain ⟨c, cs, rfl, hc⟩ := h.head
    have hcases : isBlank c = false ∧ c ≠ ']' := by simp_all [delimits]
    have hnext : r.readItems (f :: fs) index s (',' :: (bs₁ ++ c :: (cs ++ (t ++ rest)))) =
        f.read s (c :: (cs ++ (t ++ rest))) >>= fun p => r.readItems fs (index + 1) p.1 p.2 := by
      have hcomma : isBlank ',' = false := by decide
      simp [readItems, hcomma, hindex, dropWhile_blanks hbs₁, hcases]
    simp only [List.append_assoc, List.cons_append] at hread ⊢
    rw [readItems_blanks hbs, hnext, hread]
    exact ih hitems (Nat.succ_ne_zero index)

/-- A list is read whose values fill the fields: behind its opening bracket. -/
theorem readItems_of_isList {fs : List (Field σ)} {s s' : σ} {vs : List (List Char)}
    (hfills : Fills fs s vs s') {t : List Char} (ht : IsList vs ('[' :: t)) (rest : List Char) :
    r.readItems fs 0 s (t ++ rest) = .ok (s', rest) := by
  cases hfills with
  | done h =>
    obtain ⟨_, ⟨bs, _, hbs, ⟨_, rfl, rfl⟩, rfl⟩, hsame⟩ := ht
    cases hsame
    rw [List.append_assoc, readItems_blanks hbs]
    exact readItems_end h 0 s rest
  | @next f fs _ s₁ _ v vs h hs =>
    obtain ⟨_, ⟨bs, _, hbs, ⟨_, t, ⟨hv, rfl⟩, hitems, rfl⟩, rfl⟩, hsame⟩ := ht
    cases hsame
    have hread := h.read (t ++ rest) (delimited_itemsRest hitems rest)
    obtain ⟨c, cs, rfl, hc⟩ := h.head
    simp only [List.append_assoc, List.cons_append] at hread ⊢
    rw [readItems_blanks hbs, r.readItems_first hc, hread]
    exact readItems_of_itemsRest hs hitems Nat.one_ne_zero rest

/-! ### Objects -/

theorem exists_of_readColon {cs rest : List Char} (h : readColon cs = .ok rest) :
    ∃ bs, Blanks bs ∧ cs = bs ++ ':' :: rest := by
  obtain ⟨bs, hbs, hcs⟩ := exists_blanks cs
  rw [readColon] at h
  split at h
  · cases h
  · rename_i hdrop
    cases h
    exact ⟨bs, hbs, hdrop ▸ hcs⟩
  · cases h

/-- Before a key, or at the end of an object. -/
theorem nextKey_cases {first more : Bool} {cs rest : List Char}
    (h : nextKey first cs = .ok (more, rest)) :
    ∃ bs, Blanks bs ∧
      (more = false ∧ cs = bs ++ '\x7d' :: rest ∨
        more = true ∧ first = true ∧ cs = bs ++ '"' :: rest ∨
        more = true ∧ first = false ∧ ∃ bs₁, Blanks bs₁ ∧
          cs = bs ++ ',' :: (bs₁ ++ '"' :: rest)) := by
  obtain ⟨bs, hbs, hcs⟩ := exists_blanks cs
  refine ⟨bs, hbs, ?_⟩
  rw [nextKey] at h
  split at h
  · cases h
  · rename_i hdrop
    cases h
    exact Or.inl ⟨rfl, hdrop ▸ hcs⟩
  · rename_i c t hne hdrop
    split_ifs at h with hfirst hquote hcomma
    · cases h
      exact Or.inr (Or.inl ⟨rfl, hfirst, hquote ▸ hdrop ▸ hcs⟩)
    · obtain ⟨bs₁, hbs₁, ht⟩ := exists_blanks t
      split at h
      · cases h
      · rename_i hafter
        cases h
        refine Or.inr (Or.inr ⟨rfl, by simpa using hfirst, bs₁, hbs₁, ?_⟩)
        rw [hcs, hdrop, hcomma, ht, hafter]
      · cases h
      · cases h

/-- A member behind the opening quote of its key. -/
theorem exists_member {r : Record σ} (hr : ∀ f ∈ r.fields, ∀ s, Lexical (f.read s))
    {seen seen' : List String} {s s' : σ} {cs rest : List Char}
    (h : r.readMember seen s cs = .ok ((s', seen'), rest)) :
    ∃ m t, Member m ('"' :: t) ∧ cs = t ++ rest ∧
      ((∃ f, r.fields.find? (·.name = m.1) = some f ∧ Reads (f.read s) m.2 s' ∧ m.1 ∉ seen ∧
        seen' = m.1 :: seen) ∨ r.fields.find? (·.name = m.1) = none ∧ s' = s ∧ seen' = seen) := by
  rw [readMember] at h
  obtain ⟨⟨key, rest₁⟩, hkey, hbehind⟩ := bind_eq_ok.mp h
  obtain ⟨k, hk, hcs⟩ := exists_writes hkey
  dsimp only at hbehind
  split at hbehind
  · rename_i f hfind
    split_ifs at hbehind with hseen
    · cases hbehind
    · obtain ⟨rest₂, hcolon, hvalue⟩ := bind_eq_ok.mp hbehind
      obtain ⟨⟨s₁, rest₃⟩, hread, hdone⟩ := bind_eq_ok.mp hvalue
      cases hdone
      obtain ⟨bs₁, hbs₁, rfl⟩ := exists_of_readColon hcolon
      obtain ⟨bs₂, v, hbs₂, hv, hreads, rfl⟩ := hr f (List.mem_of_find?_eq_some hfind) s _ _ _ hread
      refine ⟨(key, v), k ++ (bs₁ ++ ':' :: (bs₂ ++ v)), ?_, by simp [hcs],
        Or.inl ⟨f, hfind, hreads, hseen, rfl⟩⟩
      exact ⟨'"' :: k, _, hk, ⟨bs₁, _, hbs₁, ⟨_, ⟨bs₂, v, hbs₂, ⟨hv, rfl⟩, rfl⟩, rfl⟩, rfl⟩, rfl⟩
  · rename_i hfind
    obtain ⟨rest₂, hcolon, hvalue⟩ := bind_eq_ok.mp hbehind
    obtain ⟨⟨raw, rest₃⟩, hread, hdone⟩ := bind_eq_ok.mp hvalue
    cases hdone
    obtain ⟨bs₁, hbs₁, rfl⟩ := exists_of_readColon hcolon
    obtain ⟨bs₂, v, hbs₂, hv, -, rfl⟩ := lexical_raw _ _ _ hread
    refine ⟨(key, v), k ++ (bs₁ ++ ':' :: (bs₂ ++ v)), ?_, by simp [hcs], Or.inr ⟨hfind, rfl, rfl⟩⟩
    exact ⟨'"' :: k, _, hk, ⟨bs₁, _, hbs₁, ⟨_, ⟨bs₂, v, hbs₂, ⟨hv, rfl⟩, rfl⟩, rfl⟩, rfl⟩, rfl⟩

theorem mem_of_checkMissing {seen : List String} {fs : List (Field σ)}
    (h : checkMissing seen fs = .ok ()) {f : Field σ} (hf : f ∈ fs)
    (hrequired : f.required = true) : f.name ∈ seen := by
  induction fs with
  | nil => cases hf
  | cons g fs ih =>
    rw [checkMissing] at h
    split_ifs at h with hg
    rcases List.mem_cons.mp hf with rfl | hf
    · simpa [hrequired] using hg
    · exact ih h hf

/-- A member that was read and those behind it: `seen` are the known names before it. -/
theorem Collects.cons {seen seen' : List String} {s s' s'' : σ} {m : String × List Char}
    {ms : List (String × List Char)}
    (hm : (∃ f, r.fields.find? (·.name = m.1) = some f ∧ Reads (f.read s) m.2 s' ∧ m.1 ∉ seen ∧
      seen' = m.1 :: seen) ∨ r.fields.find? (·.name = m.1) = none ∧ s' = s ∧ seen' = seen)
    (hms : r.Collects s' ms s'')
    (hnew : ∀ x ∈ ms, r.fields.find? (·.name = x.1) ≠ none → x.1 ∉ seen') :
    r.Collects s (m :: ms) s'' ∧ ∀ x ∈ m :: ms, r.fields.find? (·.name = x.1) ≠ none →
      x.1 ∉ seen := by
  obtain ⟨f, hfind, hreads, hseen, rfl⟩ | ⟨hfind, rfl, rfl⟩ := hm
  · refine ⟨.field hfind (fun hmem => ?_) hreads hms, List.forall_mem_cons.mpr ⟨fun _ => hseen, ?_⟩⟩
    · -- a member with the same name behind it would have been refused
      obtain ⟨x, hx, hname⟩ := List.mem_map.mp hmem
      exact hnew x hx (by simp [hname, hfind]) (hname ▸ .head _)
    · intro x hx hknown hin
      exact hnew x hx hknown (.tail _ hin)
  · exact ⟨.other hfind hms, List.forall_mem_cons.mpr ⟨fun hknown => absurd hfind hknown, hnew⟩⟩

/-- Behind the opening bracket or behind a member of an object. -/
theorem isObject_of_readMembers {r : Record σ} (hr : ∀ f ∈ r.fields, ∀ s, Lexical (f.read s))
    {rounds : Nat} {first : Bool} {seen : List String} {s s' : σ} {cs rest : List Char}
    (h : r.readMembers rounds first seen s cs = .ok (s', rest)) :
    ∃ ms t, (first = true → IsObject ms ('\x7b' :: t)) ∧ (first = false → MembersRest ms t) ∧
      cs = t ++ rest ∧
      (r.Collects s ms s' ∧ ∀ m ∈ ms, r.fields.find? (·.name = m.1) ≠ none → m.1 ∉ seen) ∧
      ∀ f ∈ r.fields, f.required = true → f.name ∈ seen ∨ f.name ∈ ms.map Prod.fst := by
  induction rounds generalizing first seen s cs with
  | zero => cases h
  | succ rounds ih =>
    rw [readMembers] at h
    obtain ⟨⟨more, rest₁⟩, hkey, hbehind⟩ := bind_eq_ok.mp h
    obtain ⟨bs, hbs, ⟨rfl, hcs⟩ | hmore⟩ := nextKey_cases hkey
    · obtain ⟨_, hmissing, hdone⟩ := bind_eq_ok.mp hbehind
      cases hdone
      exact ⟨[], bs ++ ['\x7d'], fun _ => ⟨_, ⟨bs, _, hbs, ⟨[], rfl, rfl⟩, rfl⟩, rfl⟩,
        fun _ => ⟨bs, _, hbs, ⟨[], rfl, rfl⟩, rfl⟩, by simp [hcs], ⟨.done _, by simp⟩,
        fun f hf hrequired => Or.inl (mem_of_checkMissing hmissing hf hrequired)⟩
    · have htrue : more = true := hmore.elim And.left And.left
      subst htrue
      obtain ⟨⟨⟨s₁, seen₁⟩, rest₂⟩, hmember, hothers⟩ := bind_eq_ok.mp hbehind
      obtain ⟨m, t, hm, rfl, htaken⟩ := exists_member hr hmember
      obtain ⟨ms, t', -, hrest, rfl, ⟨hall, hnew⟩, hnames⟩ := ih hothers
      have hcollects := Collects.cons htaken hall hnew
      have hrequired (f : Field σ) (hf : f ∈ r.fields) (hf' : f.required = true) :
          f.name ∈ seen ∨ f.name ∈ (m :: ms).map Prod.fst := by
        have hseen : ∀ x ∈ seen₁, x = m.1 ∨ x ∈ seen := by
          obtain ⟨_, -, -, -, rfl⟩ | ⟨-, -, rfl⟩ := htaken
          · exact fun x => List.mem_cons.mp
          · exact fun x => Or.inr
        rw [List.map_cons, List.mem_cons]
        rcases hnames f hf hf' with hin | hin
        · exact (hseen _ hin).elim (fun heq => Or.inr (Or.inl heq)) Or.inl
        · exact Or.inr (Or.inr hin)
      obtain ⟨-, rfl, hcs⟩ | ⟨-, rfl, bs₁, hbs₁, hcs⟩ := hmore
      · exact ⟨m :: ms, bs ++ ('"' :: t ++ t'),
          fun _ => ⟨_, ⟨bs, _, hbs, ⟨_, _, hm, hrest rfl, rfl⟩, rfl⟩, rfl⟩,
          fun hfirst => Bool.noConfusion hfirst, by simp [hcs], hcollects, hrequired⟩
      · exact ⟨m :: ms, bs ++ ',' :: (bs₁ ++ ('"' :: t ++ t')),
          fun hfirst => Bool.noConfusion hfirst,
          fun _ => ⟨bs, _, hbs, ⟨_, ⟨bs₁, _, hbs₁, ⟨_, _, hm, hrest rfl, rfl⟩, rfl⟩, rfl⟩, rfl⟩, by
            simp [hcs], hcollects, hrequired⟩

/-- What the members leave in one place of the record. Only the field there can change it, and it is
what the field makes of the member with its name. -/
theorem Collects.lookup {α : Type} {s s' : σ} {ms : List (String × List Char)}
    (h : r.Collects s ms s') (place : σ → α) {f : Field σ}
    (hf : r.fields.find? (·.name = f.name) = some f)
    (hothers : ∀ g ∈ r.fields, g.name ≠ f.name → ∀ s v s', Reads (g.read s) v s' →
      place s' = place s) :
    (ms.lookup f.name = none ∧ place s' = place s) ∨
      ∃ v s₁ s₂, ms.lookup f.name = some v ∧ Reads (f.read s₁) v s₂ ∧ place s' = place s₂ := by
  induction h with
  | done s => exact Or.inl ⟨rfl, rfl⟩
  | @field g s s₁ s₂ m ms hfind hnew hreads hs ih =>
    have hg : g.name = m.1 := by simpa using List.find?_some hfind
    by_cases hname : f.name = m.1
    · rw [← hname, hf] at hfind
      cases hfind
      have hlater : ms.lookup f.name = none := by
        rw [List.lookup_eq_none_iff, hname]
        intro x hx
        have hne : m.1 ≠ x.1 := fun heq => hnew (List.mem_map.mpr ⟨x, hx, heq.symm⟩)
        simpa using hne
      obtain ⟨-, hkept⟩ | ⟨v, _, _, hv, -⟩ := ih
      · have hfound : (m :: ms).lookup f.name = some m.2 := by
          rw [List.lookup_cons, beq_iff_eq.mpr hname]
        exact Or.inr ⟨m.2, s, s₁, hfound, hreads, hkept⟩
      · rw [hlater] at hv
        cases hv
    · have hkept : place s₁ = place s :=
        hothers g (List.mem_of_find?_eq_some hfind) (hg ▸ Ne.symm hname) s m.2 s₁ hreads
      rw [List.lookup_cons, beq_eq_false_iff_ne.mpr hname, ← hkept]
      exact ih
  | @other s _ m ms hfind hs ih =>
    have hname : f.name ≠ m.1 := by
      intro hname
      rw [← hname, hf] at hfind
      cases hfind
    rw [List.lookup_cons, beq_eq_false_iff_ne.mpr hname]
    exact ih

/-! ### Whole texts -/

/-- **A record is read from a list or from an object.** The values of the list fill the fields in
order; the members of the object are read by the fields they are named after, and no required one is
missing. -/
theorem shape_of_parse (hr : ∀ f ∈ r.fields, ∀ s, Lexical (f.read s)) {s s' : σ} {text : String}
    (h : r.parse s text = .ok s') :
    (∃ vs, Around (IsList vs) text ∧ Fills r.fields s vs s') ∨
      r.keyed = true ∧ ∃ ms, Around (IsObject ms) text ∧ r.Collects s ms s' ∧
        ∀ f ∈ r.fields, f.required = true → f.name ∈ ms.map Prod.fst := by
  rw [parse] at h
  obtain ⟨⟨s₁, rest⟩, hread, hdone⟩ := bind_eq_ok.mp h
  dsimp only at hdone
  split_ifs at hdone with hblanks
  cases hdone
  have hrest : Blanks rest := List.all_eq_true.mp hblanks
  obtain ⟨bs, hbs, htext⟩ := exists_blanks text.toList
  rw [read] at hread
  split at hread
  · rename_i cs hdrop
    obtain ⟨vs, t, hfills, hlist, rfl⟩ := isList_of_readItems hr hread
    exact Or.inl ⟨vs, ⟨bs, _, hbs, ⟨_, rest, hlist, hrest, rfl⟩, htext.trans (congrArg _ hdrop)⟩,
      hfills⟩
  · rename_i cs hdrop
    split_ifs at hread with hkeyed
    obtain ⟨ms, t, hobject, -, rfl, ⟨hcollects, -⟩, hrequired⟩ := isObject_of_readMembers hr hread
    refine Or.inr ⟨hkeyed, ms, ⟨bs, _, hbs, ⟨_, rest, hobject rfl, hrest, rfl⟩,
      htext.trans (congrArg _ hdrop)⟩, hcollects, ?_⟩
    intro f hf hf'
    exact (hrequired f hf hf').resolve_left (by simp)
  · obtain ⟨_, -, hthrow⟩ := bind_eq_ok.mp hread
    cases hthrow

/-- What no field can break holds of the whole record. -/
theorem invariant_of_parse (hr : ∀ f ∈ r.fields, ∀ s, Lexical (f.read s)) {P : σ → Prop}
    (hP : ∀ f ∈ r.fields, ∀ s v s', Reads (f.read s) v s' → P s → P s') {s s' : σ}
    {text : String} (hs : P s) (h : r.parse s text = .ok s') : P s' := by
  obtain ⟨vs, -, hfills⟩ | ⟨-, ms, -, hcollects, -⟩ := shape_of_parse hr h
  · clear h
    generalize r.fields = fs at hP hfills
    induction hfills with
    | done => exact hs
    | next hreads _ ih =>
      obtain ⟨hfirst, hrest⟩ := List.forall_mem_cons.mp hP
      exact ih (hfirst _ _ _ hreads hs) hrest
  · clear h
    induction hcollects with
    | done => exact hs
    | field hfind _ hreads _ ih => exact ih (hP _ (List.mem_of_find?_eq_some hfind) _ _ _ hreads hs)
    | other _ _ ih => exact ih hs

/-- **A list whose values fill the fields is read as a record.** -/
theorem parse_of_list {s s' : σ} {vs : List (List Char)} {text : String}
    (htext : Around (IsList vs) text) (hfills : Fills r.fields s vs s') :
    r.parse s text = .ok s' := by
  obtain ⟨bs, _, hbs, ⟨u, rest, hlist, hrest, rfl⟩, htext⟩ := htext
  obtain ⟨t, rfl⟩ : ∃ t, u = '[' :: t := by
    cases vs with
    | nil =>
      obtain ⟨t, -, rfl⟩ := hlist
      exact ⟨t, rfl⟩
    | cons v vs =>
      obtain ⟨t, -, rfl⟩ := hlist
      exact ⟨t, rfl⟩
  have hread : r.read s text.toList = .ok (s', rest) := by
    rw [read, htext, dropWhile_blanks hbs, List.cons_append, List.dropWhile_cons_of_neg (by decide)]
    exact readItems_of_isList hfills hlist rest
  rw [parse, hread]
  show (if rest.all isBlank then _ else _) = _
  rw [if_pos (List.all_eq_true.mpr hrest)]
  rfl

end Record
end StreamGateway.Json
