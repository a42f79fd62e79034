import StreamGateway.Proofs.Json.Shapes

/-! # Objects and lists are read in one way

A text is an object or a list in one way only: the members or the items that `IsObject` and `IsList`
find in it are determined by the text. Both are series, items between two brackets with commas
between them (`Enclosed`), so it is enough that an item that something else follows can be told from
what follows it (`Sole`). For a value that is so because the reader of raw values finds its end
(`Raw.read_append`), for a member because the reader of strings finds the end of its key. -/
namespace StreamGateway.Json

/-- Where an item of the kind `P` is followed by what may stand behind a value, it is found in one
way. -/
structure Sole {α : Type} (P : α → List Char → Prop) : Prop where
  head : ∀ {a t}, P a t → ∃ c cs, t = c :: cs ∧ delimits c = false
  sole : ∀ {a a' t t' r r'}, P a t → P a' t' → Delimited r → Delimited r' → t ++ r = t' ++ r' →
    a = a' ∧ r = r'

/-- What stands behind blanks is found in one way. -/
theorem eq_of_blanks_append {bs bs' r r' : List Char} {c c' : Char} (hbs : Blanks bs)
    (hbs' : Blanks bs') (hc : isBlank c = false) (hc' : isBlank c' = false)
    (h : bs ++ c :: r = bs' ++ c' :: r') : c = c' ∧ r = r' := by
  have hdrop := congrArg (List.dropWhile isBlank) h
  rw [Record.dropWhile_blanks hbs, Record.dropWhile_blanks hbs',
    List.dropWhile_cons_of_neg (by simp [hc]), List.dropWhile_cons_of_neg (by simp [hc'])] at hdrop
  exact List.cons.inj hdrop

theorem isBlank_of_delimits {c : Char} (h : delimits c = false) : isBlank c = false := by
  simp_all [delimits]

/-- The same of an item. -/
theorem Sole.blanks {α : Type} {P : α → List Char → Prop} (hP : Sole P)
    {bs bs' t t' r r' : List Char} {a a' : α} (hbs : Blanks bs) (hbs' : Blanks bs') (ha : P a t)
    (ha' : P a' t') (hr : Delimited r) (hr' : Delimited r')
    (h : bs ++ (t ++ r) = bs' ++ (t' ++ r')) : a = a' ∧ r = r' := by
  obtain ⟨c, cs, rfl, hc⟩ := hP.head ha
  obtain ⟨c', cs', rfl, hc'⟩ := hP.head ha'
  obtain ⟨rfl, htail⟩ :=
    eq_of_blanks_append hbs hbs' (isBlank_of_delimits hc) (isBlank_of_delimits hc') h
  exact hP.sole ha ha' hr hr' (congrArg (c :: ·) htail)

/-! ## Values and members -/

theorem sole_value : Sole Value where
  head := by
    rintro v t ⟨hv, rfl⟩
    exact exists_cons_of_spells hv
  sole := by
    rintro v v' t t' r r' ⟨hv, rfl⟩ ⟨hv', rfl⟩ hr hr' h
    have hread (u : List Char) (hu : Spells .value u) {rest : List Char} (hrest : Delimited rest) :
        Raw.read (u ++ rest) = .ok (⟨String.ofList u⟩, rest) := by
      have hraw : (⟨String.ofList u⟩ : Raw).IsJson := by
        rw [Raw.IsJson, String.toList_ofList]
        exact hu
      simpa using Raw.read_append hraw hrest
    have hboth := (hread t hv hr).symm.trans ((congrArg Raw.read h).trans (hread t' hv' hr'))
    simp only [Except.ok.injEq, Prod.mk.injEq, Raw.mk.injEq] at hboth
    exact ⟨by simpa using congrArg String.toList hboth.1, hboth.2⟩

/-- A key is found in one way, whatever follows it. -/
theorem Writes.sole {s s' : String} {t t' r r' : List Char} (hs : Writes s t) (hs' : Writes s' t')
    (h : t ++ r = t' ++ r') : s = s' ∧ r = r' := by
  obtain ⟨u, hu, rfl⟩ := hs
  obtain ⟨u', hu', rfl⟩ := hs'
  have hrun := Writes.run ⟨u, hu, rfl⟩ r
  have hrun' := Writes.run ⟨u', hu', rfl⟩ r'
  have htail : u ++ r = u' ++ r' := (List.cons.inj h).2
  rw [htail, hrun'] at hrun
  simpa [eq_comm] using hrun

theorem sole_member : Sole Member where
  head := by
    rintro m _ ⟨_, _, ⟨_, -, rfl⟩, -, rfl⟩
    exact ⟨'"', _, rfl, by decide⟩
  sole := by
    rintro ⟨k, v⟩ ⟨k', v'⟩ _ _ r r' ⟨_, _, hk, ⟨bs, _, hbs, ⟨_, ⟨bs₁, _, hbs₁, hv, rfl⟩, rfl⟩, rfl⟩,
      rfl⟩
      ⟨_, _, hk', ⟨bs', _, hbs', ⟨_, ⟨bs₁', _, hbs₁', hv', rfl⟩, rfl⟩, rfl⟩, rfl⟩ hr hr' h
    simp only [List.append_assoc, List.cons_append] at h
    obtain ⟨rfl, hcolon⟩ := hk.sole hk' h
    obtain ⟨-, hvalue⟩ := eq_of_blanks_append hbs hbs' (by decide) (by decide) hcolon
    obtain ⟨rfl, hrest⟩ := sole_value.blanks hbs₁ hbs₁' hv hv' hr hr' hvalue
    exact ⟨rfl, hrest⟩

/-! ## Series -/

section Series

variable {α : Type} (P : α → List Char → Prop) (opening closing : Char)

/-- Behind an item of a series: the items that follow, and the end. -/
def Rest : List α → List Char → Prop
  | [] => Then Blanks (After closing (· = []))
  | a :: as => Then Blanks (After ',' (Then Blanks (Then (P a) (Rest as))))

/-- A series of items between brackets. -/
def Enclosed : List α → List Char → Prop
  | [] => After opening (Then Blanks (After closing (· = [])))
  | a :: as => After opening (Then Blanks (Then (P a) (Rest P closing as)))

variable {P opening closing}

theorem delimited_rest (hclosing : delimits closing = true) {as : List α} {t : List Char}
    (h : Rest P closing as t) (r : List Char) : Delimited (t ++ r) := by
  cases as with
  | nil =>
    obtain ⟨bs, _, hbs, ⟨_, -, rfl⟩, rfl⟩ := h
    rw [List.append_assoc]
    exact Record.delimited_blanks hbs hclosing _
  | cons a as =>
    obtain ⟨bs, _, hbs, ⟨_, -, rfl⟩, rfl⟩ := h
    rw [List.append_assoc]
    exact Record.delimited_blanks hbs rfl _

/-- A character that closes a series and is not taken for anything else. -/
structure IsClosing (c : Char) : Prop where
  solid : isBlank c = false
  notComma : c ≠ ','
  delimits : Json.delimits c = true

/-- The rest of a series is found in one way. -/
theorem Sole.rest (hP : Sole P) (hclosing : IsClosing closing) {as as' : List α}
    {t t' r r' : List Char} (h : Rest P closing as t) (h' : Rest P closing as' t')
    (heq : t ++ r = t' ++ r') : as = as' := by
  induction as generalizing as' t t' with
  | nil =>
    obtain ⟨bs, _, hbs, ⟨_, rfl, rfl⟩, rfl⟩ := h
    cases as' with
    | nil => rfl
    | cons a' as' =>
      obtain ⟨bs', _, hbs', ⟨_, -, rfl⟩, rfl⟩ := h'
      simp only [List.append_assoc, List.cons_append] at heq
      exact absurd (eq_of_blanks_append hbs hbs' hclosing.solid (by decide) heq).1 hclosing.notComma
  | cons a as ih =>
    obtain ⟨bs, _, hbs, ⟨_, ⟨bs₁, _, hbs₁, ⟨_, _, ha, has, rfl⟩, rfl⟩, rfl⟩, rfl⟩ := h
    cases as' with
    | nil =>
      obtain ⟨bs', _, hbs', ⟨_, rfl, rfl⟩, rfl⟩ := h'
      simp only [List.append_assoc, List.cons_append] at heq
      exact absurd (eq_of_blanks_append hbs hbs' (by decide) hclosing.solid heq).1.symm
        hclosing.notComma
    | cons a' as' =>
      obtain ⟨bs', _, hbs', ⟨_, ⟨bs₁', _, hbs₁', ⟨_, _, ha', has', rfl⟩, rfl⟩, rfl⟩, rfl⟩ := h'
      simp only [List.append_assoc, List.cons_append] at heq
      obtain ⟨-, hitem⟩ := eq_of_blanks_append hbs hbs' (by decide) (by decide) heq
      obtain ⟨rfl, hrest⟩ := hP.blanks hbs₁ hbs₁' ha ha' (delimited_rest hclosing.delimits has r)
        (delimited_rest hclosing.delimits has' r') hitem
      rw [ih has has' hrest]

/-- A series is found in one way, wherever it ends. -/
theorem Sole.enclosed (hP : Sole P) (hclosing : IsClosing closing) {as as' : List α}
    {t t' r r' : List Char} (h : Enclosed P opening closing as t)
    (h' : Enclosed P opening closing as' t') (heq : t ++ r = t' ++ r') : as = as' := by
  -- a closing bracket is no item
  have hempty {a : α} {bs bs' u u' w : List Char} (hbs : Blanks bs) (hbs' : Blanks bs') (ha : P a u)
      (hsame : bs ++ closing :: w = bs' ++ (u ++ u')) : False := by
    obtain ⟨c, cs, rfl, hc⟩ := hP.head ha
    obtain ⟨rfl, -⟩ := eq_of_blanks_append hbs hbs' hclosing.solid (isBlank_of_delimits hc) hsame
    rw [hclosing.delimits] at hc
    cases hc
  cases as with
  | nil =>
    obtain ⟨_, ⟨bs, _, hbs, ⟨_, rfl, rfl⟩, rfl⟩, rfl⟩ := h
    cases as' with
    | nil => rfl
    | cons a' as' =>
      obtain ⟨_, ⟨bs', _, hbs', ⟨_, _, ha', -, rfl⟩, rfl⟩, rfl⟩ := h'
      simp only [List.append_assoc, List.cons_append, List.cons.injEq, true_and] at heq
      exact (hempty hbs hbs' ha' heq).elim
  | cons a as =>
    obtain ⟨_, ⟨bs, _, hbs, ⟨_, _, ha, has, rfl⟩, rfl⟩, rfl⟩ := h
    cases as' with
    | nil =>
      obtain ⟨_, ⟨bs', _, hbs', ⟨_, rfl, rfl⟩, rfl⟩, rfl⟩ := h'
      simp only [List.append_assoc, List.cons_append, List.cons.injEq, true_and] at heq
      exact (hempty hbs' hbs ha heq.symm).elim
    | cons a' as' =>
      obtain ⟨_, ⟨bs', _, hbs', ⟨_, _, ha', has', rfl⟩, rfl⟩, rfl⟩ := h'
      simp only [List.append_assoc, List.cons_append, List.cons.injEq, true_and] at heq
      obtain ⟨rfl, hrest⟩ := hP.blanks hbs hbs' ha ha' (delimited_rest hclosing.delimits has r)
        (delimited_rest hclosing.delimits has' r') heq
      rw [hP.rest hclosing has has' hrest]

theorem exists_cons_of_enclosed {as : List α} {t : List Char}
    (h : Enclosed P opening closing as t) : ∃ u, t = opening :: u := by
  cases as with
  | nil =>
    obtain ⟨u, -, rfl⟩ := h
    exact ⟨u, rfl⟩
  | cons a as =>
    obtain ⟨u, -, rfl⟩ := h
    exact ⟨u, rfl⟩

theorem exists_of_rest {as : List α} {t : List Char} (h : Rest P closing as t) {a : α}
    (ha : a ∈ as) : ∃ u, P a u := by
  induction as generalizing t with
  | nil => cases ha
  | cons b as ih =>
    obtain ⟨_, _, -, ⟨_, ⟨_, _, -, ⟨u, _, hb, has, -⟩, -⟩, -⟩, -⟩ := h
    rcases List.mem_cons.mp ha with rfl | ha
    · exact ⟨u, hb⟩
    · exact ih has ha

theorem exists_of_enclosed {as : List α} {t : List Char} (h : Enclosed P opening closing as t)
    {a : α} (ha : a ∈ as) : ∃ u, P a u := by
  cases as with
  | nil => cases ha
  | cons b as =>
    obtain ⟨_, ⟨_, _, -, ⟨u, _, hb, has, -⟩, -⟩, -⟩ := h
    rcases List.mem_cons.mp ha with rfl | ha
    · exact ⟨u, hb⟩
    · exact exists_of_rest has ha

/-- With blanks around it, too. -/
theorem Sole.around (hP : Sole P) (hclosing : IsClosing closing)
    (hopening : isBlank opening = false) {as as' : List α} {text : String}
    (h : Around (Enclosed P opening closing as) text)
    (h' : Around (Enclosed P opening closing as') text) : as = as' := by
  obtain ⟨bs, _, hbs, ⟨t, r, ht, -, rfl⟩, htext⟩ := h
  obtain ⟨bs', _, hbs', ⟨t', r', ht', -, rfl⟩, htext'⟩ := h'
  obtain ⟨u, rfl⟩ := exists_cons_of_enclosed ht
  obtain ⟨u', rfl⟩ := exists_cons_of_enclosed ht'
  obtain ⟨-, htail⟩ := eq_of_blanks_append hbs hbs' hopening hopening (htext.symm.trans htext')
  exact hP.enclosed hclosing ht ht' (congrArg (opening :: ·) htail)

/-- The first character that is no blank tells what kind of series a text is. -/
theorem head_of_enclosed (hopening : isBlank opening = false) {as : List α} {text : String}
    (h : Around (Enclosed P opening closing as) text) :
    (text.toList.dropWhile isBlank).head? = some opening := by
  obtain ⟨bs, _, hbs, ⟨t, r, ht, -, rfl⟩, htext⟩ := h
  obtain ⟨u, rfl⟩ := exists_cons_of_enclosed ht
  rw [htext, Record.dropWhile_blanks hbs, List.cons_append,
    List.dropWhile_cons_of_neg (by simp [hopening])]
  rfl

end Series

theorem itemsRest_eq (vs : List (List Char)) : ItemsRest vs = Rest Value ']' vs := by
  induction vs with
  | nil => rfl
  | cons v vs ih => rw [ItemsRest, Rest, ih]

theorem membersRest_eq (ms : List (String × List Char)) :
    MembersRest ms = Rest Member '\x7d' ms := by
  induction ms with
  | nil => rfl
  | cons m ms ih => rw [MembersRest, Rest, ih]

theorem isList_eq (vs : List (List Char)) : IsList vs = Enclosed Value '[' ']' vs := by
  cases vs with
  | nil => rfl
  | cons v vs => rw [IsList, Enclosed, itemsRest_eq]

theorem isObject_eq (ms : List (String × List Char)) :
    IsObject ms = Enclosed Member '\x7b' '\x7d' ms := by
  cases ms with
  | nil => rfl
  | cons m ms => rw [IsObject, Enclosed, membersRest_eq]

/-- A text is a list of one series of values. -/
theorem isList_unique {vs vs' : List (List Char)} {text : String} (h : Around (IsList vs) text)
    (h' : Around (IsList vs') text) : vs = vs' := by
  rw [isList_eq] at h h'
  exact sole_value.around ⟨by decide, by decide, by decide⟩ (by decide) h h'

/-- A text is an object with one series of members. -/
theorem isObject_unique {ms ms' : List (String × List Char)} {text : String}
    (h : Around (IsObject ms) text) (h' : Around (IsObject ms') text) : ms = ms' := by
  rw [isObject_eq] at h h'
  exact sole_member.around ⟨by decide, by decide, by decide⟩ (by decide) h h'

/-- The values of an object's members. -/
theorem spells_of_isObject {ms : List (String × List Char)} {t : List Char} (h : IsObject ms t) :
    ∀ m ∈ ms, Spells .value m.2 := by
  intro m hm
  rw [isObject_eq] at h
  obtain ⟨_, ⟨_, _, -, ⟨_, _, -, ⟨_, ⟨_, _, -, hv, -⟩, -⟩, -⟩, -⟩⟩ := exists_of_enclosed h hm
  exact hv.1

theorem head_of_isList {vs : List (List Char)} {text : String} (h : Around (IsList vs) text) :
    (text.toList.dropWhile isBlank).head? = some '[' := by
  rw [isList_eq] at h
  exact head_of_enclosed (by decide) h

theorem head_of_isObject {ms : List (String × List Char)} {text : String}
    (h : Around (IsObject ms) text) : (text.toList.dropWhile isBlank).head? = some '\x7b' := by
  rw [isObject_eq] at h
  exact head_of_enclosed (by decide) h

/-- No text is both a list and an object. -/
theorem not_isObject_of_isList {vs : List (List Char)} {ms : List (String × List Char)}
    {text : String} (h : Around (IsList vs) text) : ¬Around (IsObject ms) text := by
  intro h'
  have hboth := (head_of_isList h).symm.trans (head_of_isObject h')
  exact absurd hboth (by decide)

end StreamGateway.Json
