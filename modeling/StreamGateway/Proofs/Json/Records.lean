import StreamGateway.Json.Print
import StreamGateway.Json.Record
import StreamGateway.Proofs.Json.Scanning

/-! # Written records are read back

A string that was written is read back as it was (`readString_renderString`), and so is a record
whose fields are each written so that they are read back, both as an object (`Record.read_object`)
and as a list (`Record.read_list`). What a field's reader makes of a text is stated once, for any
rest that may stand behind a value (`Reads`), since the reader of the whole has to find the end of
each part by itself. -/
namespace StreamGateway.Json

/-! ## Strings -/

/-- The three ways in which a character is written. -/
inductive Escaped (c : Char) : List Char → Prop where
  | plain (hquote : c ≠ '"') (hslash : c ≠ '\\') (hprintable : 0x20 ≤ c.toNat) : Escaped c [c]
  | short (letter : Char) (hletter : letter ∈ escapeLetters) (h : shortEscape? letter = some c) :
      Escaped c ['\\', letter]
  | hex (high low : Char) (hsmall : c.toNat < 0x20)
      (hhigh : Number.hexDigit? high = some (c.toNat / 16))
      (hlow : Number.hexDigit? low = some (c.toNat % 16)) :
      Escaped c ['\\', 'u', '0', '0', high, low]

theorem hexDigit?_hexDigit {n : Nat} (h : n < 16) : Number.hexDigit? (hexDigit n) = some n := by
  have hall : ∀ n < 16, Number.hexDigit? (hexDigit n) = some n := by decide
  exact hall n h

theorem escaped_escapeChar (c : Char) : Escaped c (escapeChar c) := by
  rw [escapeChar]
  split_ifs with h₁ h₂ h₃ h₄ h₅ h₆ h₇ h₈
  · subst h₁; exact .short '"' (by decide) rfl
  · subst h₂; exact .short '\\' (by decide) rfl
  · subst h₃; exact .short 'b' (by decide) rfl
  · subst h₄; exact .short 'f' (by decide) rfl
  · subst h₅; exact .short 'n' (by decide) rfl
  · subst h₆; exact .short 'r' (by decide) rfl
  · subst h₇; exact .short 't' (by decide) rfl
  · exact .hex _ _ h₈ (hexDigit?_hexDigit (by omega)) (hexDigit?_hexDigit (by omega))
  · exact .plain h₁ h₂ (by omega)

theorem Body.escaped {c : Char} {text cs : List Char} (h : Escaped c text) (hcs : Body cs) :
    Body (text ++ cs) := by
  cases h with
  | plain hquote hslash hprintable => exact .plain hquote hslash hprintable hcs
  | short letter hletter h => exact .short hletter hcs
  | hex high low hsmall hhigh hlow =>
    have hzero : (Number.hexDigit? '0').isSome = true := by decide
    have hdigits : Hexes 4 ['0', '0', high, low] := by simp [hzero, hhigh, hlow]
    exact .hex hdigits hcs

theorem body_escapes (cs : List Char) : Body (cs.flatMap escapeChar) := by
  induction cs with
  | nil => exact .nil
  | cons c cs ih => exact Body.escaped (escaped_escapeChar c) ih

theorem isText_renderString (s : String) : IsText (renderString s) :=
  ⟨_, ⟨_, _, body_escapes s.toList, rfl, rfl⟩, rfl⟩

theorem renderString_append (s : String) (rest : List Char) :
    renderString s ++ rest = '"' :: (s.toList.flatMap escapeChar ++ '"' :: rest) := by
  simp [renderString]

namespace Quote

theorem run_escaped {c : Char} {text : List Char} (h : Escaped c text) (read rest : List Char) :
    run ⟨.plain, read⟩ (text ++ rest) = run ⟨.plain, c :: read⟩ rest := by
  cases h with
  | plain hquote hslash hprintable => simp [run, next, hquote, hslash, Nat.not_lt.mpr hprintable]
  | short letter hletter h =>
    have hu : letter ≠ 'u' := by
      rintro rfl
      exact absurd hletter (by decide)
    simp [run, next, hu, h]
  | hex high low hsmall hhigh hlow =>
    have hzero : Number.hexDigit? '0' = some 0 := by decide
    have hvalue : c.toNat / 16 * 16 + c.toNat % 16 = c.toNat := by omega
    -- a control character is no half of a pair
    have hunit : isLowSurrogate c.toNat = false ∧ isHighSurrogate c.toNat = false := by
      simp only [isLowSurrogate, isHighSurrogate]
      constructor <;> simp <;> omega
    simp [run, next, hzero, hhigh, hlow, takeUnit, hvalue, hunit]

theorem run_escapes (cs read rest : List Char) :
    run ⟨.plain, read⟩ (cs.flatMap escapeChar ++ '"' :: rest) =
      .ok (String.ofList (read.reverse ++ cs), rest) := by
  induction cs generalizing read with
  | nil => simp [run, next, text]
  | cons c cs ih =>
    rw [List.flatMap_cons, List.append_assoc, run_escaped (escaped_escapeChar c), ih]
    simp

/-- Behind its opening quote a string that was written is read back. -/
theorem run_renderString (s : String) (rest : List Char) :
    run {} (s.toList.flatMap escapeChar ++ '"' :: rest) = .ok (s, rest) := by
  rw [run_escapes]
  simp

end Quote

theorem build_run_text (document : String → Except Problem Json) (q : Quote) (cs : List Char) :
    Build.run document (.text q .whole) cs = (Quote.run q cs).map fun r => (.str r.1, r.2) := by
  induction cs generalizing q with
  | nil => rfl
  | cons c cs ih =>
    rw [Build.run, Build.next, Quote.run]
    cases q.next c cs with
    | go q' => exact ih q'
    | close => rfl
    | bad p => rfl

theorem readWithin_eq (levels : Nat) (cs : List Char) :
    ∃ document, readWithin levels cs = Build.run document (.value .whole) cs := by
  cases levels with
  | zero => exact ⟨_, rfl⟩
  | succ levels => exact ⟨_, rfl⟩

/-- **A string that was written is read back**, whatever follows. -/
theorem readString_renderString (s : String) (rest : List Char) :
    readString (renderString s ++ rest) = .ok (s, rest) := by
  obtain ⟨document, hread⟩ := readWithin_eq (renderString s ++ rest).length (renderString s ++ rest)
  have hvalue : read (renderString s ++ rest) = .ok (.str s, rest) := by
    rw [read, hread, renderString_append]
    show Build.run document (.text {} .whole) _ = _
    rw [build_run_text, Quote.run_renderString]
    rfl
  -- behind a quote it is no container, which would be refused at its bracket
  have hscalar : readString (renderString s ++ rest) =
      read (renderString s ++ rest) >>= fun r => asString r.1 >>= fun v => .ok (v, r.2) := by
    rw [renderString_append]
    rfl
  rw [hscalar, hvalue]
  rfl

theorem read_null (rest : List Char) :
    read ('n' :: 'u' :: 'l' :: 'l' :: rest) = .ok (.null, rest) := by
  obtain ⟨document, hread⟩ := readWithin_eq _ ('n' :: 'u' :: 'l' :: 'l' :: rest)
  rw [read, hread]
  rfl

/-! ## What a reader makes of a text -/

/-- The text is a value that the reader reads as `a`, and it stops behind it. -/
structure Reads {α : Type} (reader : Reader α) (text : List Char) (a : α) : Prop where
  head : ∃ c cs, text = c :: cs ∧ delimits c = false
  read : ∀ rest, Delimited rest → reader (text ++ rest) = .ok (a, rest)

section

variable {α β : Type} {reader : Reader α} {text : List Char} {a : α}

theorem reads_string (s : String) : Reads readString (renderString s) s where
  head := ⟨'"', _, rfl, by decide⟩
  read := fun rest _ => readString_renderString s rest

theorem reads_raw {raw : Raw} (h : raw.IsJson) : Reads Raw.read raw.text.toList raw where
  head := exists_cons_of_spells h
  read := fun _ hrest => Raw.read_append h hrest

theorem reads_null : Reads (optional reader) "null".toList none where
  head := ⟨'n', _, rfl, by decide⟩
  read := by
    intro rest _
    show (read ('n' :: 'u' :: 'l' :: 'l' :: rest) >>= fun r => .ok (none, r.2)) = _
    rw [read_null]
    rfl

/-- What does not begin as `null` does is there. -/
theorem Reads.optional (h : Reads reader text a) (hnull : text.head? ≠ some 'n') :
    Reads (optional reader) text (some a) where
  head := h.head
  read := by
    intro rest hrest
    obtain ⟨c, cs, rfl, hc⟩ := h.head
    have hblank : isBlank c = false := by simp_all [delimits]
    have hn : c ≠ 'n' := by
      intro hn
      exact hnull (by simp [hn])
    have hread := h.read rest hrest
    rw [List.cons_append] at hread
    simp [Json.optional, hblank, hn, hread, bind, Except.bind, pure, Except.pure]

theorem Reads.map (h : Reads reader text a) (f : α → β) :
    Reads (fun cs => do let (x, rest) ← reader cs; return (f x, rest)) text (f a) where
  head := h.head
  read := by
    intro rest hrest
    simp [h.read rest hrest, bind, Except.bind, pure, Except.pure]

end

/-- The only value that begins as `null` does is `null`. -/
theorem head_ne_of_ne_null {raw : Raw} (h : raw.IsJson) (hne : raw.text ≠ "null") :
    raw.text.toList.head? ≠ some 'n' := by
  intro hhead
  obtain ⟨t, ht⟩ := List.head?_eq_some_iff.mp hhead
  rw [Raw.IsJson, ht, spells_value] at h
  have hnull : t = ['u', 'l', 'l'] := by
    simpa [valueWords, isNumber_cons, isText_cons, bracket_exists, Bracket.opening, Phase.first?,
      isDigit] using h
  apply hne
  rw [← String.ofList_toList (s := raw.text), ht, hnull]

/-! ## Lists and objects -/

/-- The further items of a list, and its end. -/
def itemsChars : List (List Char) → List Char
  | [] => [']']
  | v :: vs => ',' :: (v ++ itemsChars vs)

/-- A list of items that are written already. -/
def listChars : List (List Char) → List Char
  | [] => ['[', ']']
  | v :: vs => '[' :: (v ++ itemsChars vs)

/-- The further members of an object, and its end. -/
def membersChars : List (String × List Char) → List Char
  | [] => ['\x7d']
  | (key, v) :: ms => ',' :: (renderString key ++ ':' :: (v ++ membersChars ms))

/-- An object of members that are written already. -/
def objectChars : List (String × List Char) → List Char
  | [] => ['\x7b', '\x7d']
  | (key, v) :: ms => '\x7b' :: (renderString key ++ ':' :: (v ++ membersChars ms))

theorem delimited_itemsChars (vs : List (List Char)) (rest : List Char) :
    Delimited (itemsChars vs ++ rest) := by
  cases vs <;> simp [itemsChars, Delimited, delimits]

theorem delimited_membersChars (ms : List (String × List Char)) (rest : List Char) :
    Delimited (membersChars ms ++ rest) := by
  cases ms <;> simp [membersChars, Delimited, delimits]

theorem length_lt_membersChars (ms : List (String × List Char)) :
    ms.length < (membersChars ms).length := by
  induction ms with
  | nil => simp [membersChars]
  | cons m ms ih =>
    simp only [membersChars, List.length_cons, List.length_append]
    omega

theorem Spells.written {key : String} {v t : List Char} (hv : Spells .value v)
    (ht : Spells (.rest .object) t) :
    Spells (.contents .object) (renderString key ++ ':' :: (v ++ t)) := by
  have hmember := Spells.member run_nil (isText_renderString key) run_nil run_nil hv ht
  simpa using hmember

theorem Spells.membersChars {ms : List (String × List Char)} (h : ∀ m ∈ ms, Spells .value m.2) :
    Spells (.rest .object) (membersChars ms) := by
  induction ms with
  | nil => exact Spells.close run_nil
  | cons m ms ih =>
    obtain ⟨hm, hms⟩ := List.forall_mem_cons.mp h
    exact Spells.more run_nil (Spells.written hm (ih hms))

/-- An object of written values is a value. -/
theorem Spells.objectChars {ms : List (String × List Char)} (h : ∀ m ∈ ms, Spells .value m.2) :
    Spells .value (objectChars ms) := by
  cases ms with
  | nil => exact Spells.empty .object run_nil
  | cons m ms =>
    obtain ⟨hm, hms⟩ := List.forall_mem_cons.mp h
    exact Spells.filled (Spells.written hm (Spells.membersChars hms))

/-! ## Records -/

namespace Record

variable {σ : Type} (r : Record σ)

/-- Each field reads one of the texts, in order. -/
inductive TakesItems : List (Field σ) → σ → List (List Char) → σ → Prop where
  | nil (s : σ) : TakesItems [] s [] s
  | cons {f : Field σ} {fs : List (Field σ)} {s s' s'' : σ} {v : List Char} {vs : List (List Char)}
      (h : Reads (f.read s) v s') (hs : TakesItems fs s' vs s'') :
      TakesItems (f :: fs) s (v :: vs) s''

theorem readItems_first {f : Field σ} {fs : List (Field σ)} {s : σ} {c : Char} {cs : List Char}
    (hc : delimits c = false) :
    r.readItems (f :: fs) 0 s (c :: cs) =
      f.read s (c :: cs) >>= fun (s, rest) => r.readItems fs 1 s rest := by
  have hcases : isBlank c = false ∧ c ≠ ']' := by simp_all [delimits]
  simp [readItems, hcases]

theorem readItems_next {f : Field σ} {fs : List (Field σ)} {index : Nat}
    (hindex : index ≠ 0) {s : σ} {c : Char} {cs : List Char} (hc : delimits c = false) :
    r.readItems (f :: fs) index s (',' :: c :: cs) =
      f.read s (c :: cs) >>= fun (s, rest) => r.readItems fs (index + 1) s rest := by
  have hcases : isBlank c = false ∧ c ≠ ']' := by simp_all [delimits]
  have hcomma : isBlank ',' = false := by decide
  simp [readItems, hcases, hindex, hcomma]

theorem readItems_itemsChars {fs : List (Field σ)} {s s' : σ} {vs : List (List Char)}
    (h : TakesItems fs s vs s') {index : Nat} (hindex : index ≠ 0) (rest : List Char) :
    r.readItems fs index s (itemsChars vs ++ rest) = .ok (s', rest) := by
  -- behind the first item, hence `hindex`, each item has a comma in front
  induction h generalizing index with
  | nil s => rfl
  | @cons f fs s s' s'' v vs h hs ih =>
    obtain ⟨c, cs, rfl, hc⟩ := h.head
    have hread := h.read (itemsChars vs ++ rest) (delimited_itemsChars vs rest)
    simp only [itemsChars, List.cons_append, List.append_assoc] at hread ⊢
    rw [r.readItems_next hindex hc, hread]
    exact ih (Nat.succ_ne_zero index)

/-- **A record whose fields are written as a list is read back.** -/
theorem read_list {s s' : σ} {vs : List (List Char)} (h : TakesItems r.fields s vs s')
    (rest : List Char) : r.read s (listChars vs ++ rest) = .ok (s', rest) := by
  have hopen (cs : List Char) : r.read s ('[' :: cs) = r.readItems r.fields 0 s cs := rfl
  generalize hfields : r.fields = fields at h
  cases h with
  | nil s =>
    show r.read s ('[' :: ']' :: rest) = _
    rw [hopen, hfields]
    rfl
  | @cons f fs _ s₁ _ v vs h hs =>
    obtain ⟨c, cs, rfl, hc⟩ := h.head
    have hread := h.read (itemsChars vs ++ rest) (delimited_itemsChars vs rest)
    simp only [listChars, List.cons_append, List.append_assoc] at hread ⊢
    rw [hopen, hfields, r.readItems_first hc, hread]
    exact r.readItems_itemsChars hs Nat.one_ne_zero rest

/-- Each member is a field that was not seen before and reads the member's text. -/
inductive TakesMembers : List String → σ → List (String × List Char) → List String → σ → Prop where
  | nil (seen : List String) (s : σ) : TakesMembers seen s [] seen s
  | cons {f : Field σ} {seen seen' : List String} {s s' s'' : σ} {key : String} {v : List Char}
      {ms : List (String × List Char)} (hfind : r.fields.find? (·.name = key) = some f)
      (hseen : key ∉ seen) (h : Reads (f.read s) v s')
      (hs : TakesMembers (key :: seen) s' ms seen' s'') :
      TakesMembers seen s ((key, v) :: ms) seen' s''

theorem readMember_written {f : Field σ} {seen : List String} {s s' : σ} {key : String}
    {v : List Char} (hfind : r.fields.find? (·.name = key) = some f) (hseen : key ∉ seen)
    (h : Reads (f.read s) v s') {rest : List Char} (hrest : Delimited rest) :
    r.readMember seen s (key.toList.flatMap escapeChar ++ '"' :: ':' :: (v ++ rest)) =
      .ok ((s', key :: seen), rest) := by
  have hkey := Quote.run_renderString key (':' :: (v ++ rest))
  have hcolon : readColon (':' :: (v ++ rest)) = .ok (v ++ rest) := rfl
  simp only [readMember, hkey, bind, Except.bind, hfind, if_neg hseen, hcolon, h.read rest hrest]
  rfl

theorem readMembers_membersChars {seen seen' : List String} {s s' : σ}
    {ms : List (String × List Char)} (h : r.TakesMembers seen s ms seen' s')
    (hmissing : checkMissing seen' r.fields = .ok ()) {rounds : Nat} (hrounds : ms.length < rounds)
    (rest : List Char) :
    r.readMembers rounds false seen s (membersChars ms ++ rest) = .ok (s', rest) := by
  -- one round for each member and one for the end
  induction h generalizing rounds with
  | nil seen s =>
    obtain ⟨n, rfl⟩ := Nat.exists_eq_succ_of_ne_zero (Nat.ne_zero_of_lt hrounds)
    have hkey : nextKey false (membersChars [] ++ rest) = .ok (false, rest) := rfl
    simp [readMembers, hkey, hmissing, bind, Except.bind, pure, Except.pure]
  | @cons f seen seen' s s' s'' key v ms hfind hseen h hs ih =>
    obtain ⟨n, rfl⟩ := Nat.exists_eq_succ_of_ne_zero (Nat.ne_zero_of_lt hrounds)
    have hkey : nextKey false (membersChars ((key, v) :: ms) ++ rest) =
        .ok (true,
          key.toList.flatMap escapeChar ++ '"' :: ':' :: (v ++ (membersChars ms ++ rest))) := by
      simp only [membersChars, List.cons_append, List.append_assoc, renderString_append]
      rfl
    have hmember := r.readMember_written hfind hseen h (delimited_membersChars ms rest)
    simp only [readMembers, hkey, bind, Except.bind, if_true, hmember]
    exact ih hmissing (by simpa using hrounds)

/-- **A record whose fields are written as an object is read back.** -/
theorem read_object (hkeyed : r.keyed = true) {s s' : σ} {seen : List String}
    {ms : List (String × List Char)} (h : r.TakesMembers [] s ms seen s')
    (hmissing : checkMissing seen r.fields = .ok ()) (rest : List Char) :
    r.read s (objectChars ms ++ rest) = .ok (s', rest) := by
  have hopen (cs : List Char) :
      r.read s ('\x7b' :: cs) = r.readMembers (cs.length + 1) true [] s cs := by
    show (if r.keyed then _ else _) = _
    rw [if_pos hkeyed]
  cases h with
  | nil =>
    have hkey : nextKey true ('\x7d' :: rest) = .ok (false, rest) := rfl
    show r.read s ('\x7b' :: '\x7d' :: rest) = _
    simp [hopen, readMembers, hkey, hmissing, bind, Except.bind, pure, Except.pure]
  | @cons f _ _ _ s₁ _ key v ms hfind hseen h hs =>
    have hkey : nextKey true (renderString key ++ ':' :: (v ++ (membersChars ms ++ rest))) =
        .ok (true,
          key.toList.flatMap escapeChar ++ '"' :: ':' :: (v ++ (membersChars ms ++ rest))) := by
      rw [renderString_append]
      rfl
    have hmember := r.readMember_written hfind hseen h (delimited_membersChars ms rest)
    -- there are as many rounds as characters, which is more than there are members
    have hlength := length_lt_membersChars ms
    simp only [objectChars, List.cons_append, List.append_assoc]
    rw [hopen]
    simp only [readMembers, hkey, bind, Except.bind, if_true, hmember]
    refine r.readMembers_membersChars hs hmissing ?_ rest
    simp only [List.length_append, List.length_cons]
    omega

theorem parse_ofList {s s' : σ} {cs : List Char}
    (h : ∀ rest, r.read s (cs ++ rest) = .ok (s', rest)) :
    r.parse s (String.ofList cs) = .ok s' := by
  have hread : r.read s cs = .ok (s', []) := by simpa using h []
  simp [parse, hread, bind, Except.bind, pure, Except.pure]

end Record
end StreamGateway.Json
