import StreamGateway.Proofs.Json.Records

/-! # Texts that have the shape of a value and are none

A text that is passed on as it is written is only checked for its shape. Not every such text can be
read as a value: it may be nested too deeply, hold a number that is too large or half of a surrogate
pair, or use the key that embeds a document. There is no other reason (`parse_of_isJson`). The
reader that builds values goes through the places of the scanner: forgetting what has been built
turns a place of the one into a place of the other (`Build.scan`), one character takes both to
corresponding places (`Build.follows`), and so does a whole text (`Build.run_of_finishes`). -/
namespace StreamGateway.Json

/-- What a text can have too much of, although its shape is right. -/
def Problem.Beyond (p : Problem) : Prop :=
  p ∈ [.tooDeep, .outOfRange, .loneSurrogate, .unpairedSurrogate]

/-- Somewhere in a text there is a string that is read as `key`. -/
def Mentions (key : String) (t : List Char) : Prop :=
  ∃ before behind rest, t = before ++ '"' :: behind ∧ Quote.run {} behind = .ok (key, rest)

/-! ## Strings and numbers -/

namespace Quote

/-- The shape of a string at the place where its reader stands. Whether half of a pair has been read
is forgotten. -/
def outline (q : Quote) : Outline :=
  match q.mode with
  | .plain | .pair _ => .plain
  | .escape | .pairMark _ => .escape
  | .hex _ seen _ => .hex seen

/-- A string follows its shape, unless the shape is wrong or the string goes beyond what it can
hold. -/
inductive Tracks : Next → Outline.Next → Prop where
  | fails (n : Next) (p : Problem) : Tracks n (.bad p)
  | beyond {p : Problem} (o : Outline.Next) (h : p.Beyond) : Tracks (.bad p) o
  | go (q : Quote) : Tracks (.go q) (.go q.outline)
  | close : Tracks .close .close

theorem tracks_takeUnit (q : Quote) (high : Option Nat) (unit : Nat) :
    Tracks (q.takeUnit high unit) (.go .plain) := by
  have hlone : Problem.loneSurrogate.Beyond := by simp [Problem.Beyond]
  rw [takeUnit.eq_def]
  cases high with
  | none =>
    dsimp only
    split_ifs
    · exact .beyond _ hlone
    · exact .go _
    · exact .go _
  | some h =>
    dsimp only
    split_ifs
    · exact .go _
    · exact .beyond _ hlone

theorem tracks_next (q : Quote) (c : Char) (left : List Char) :
    Tracks (q.next c left) (q.outline.next c left) := by
  have hunpaired : Problem.unpairedSurrogate.Beyond := by simp [Problem.Beyond]
  obtain ⟨mode, read⟩ := q
  cases mode with
  | plain =>
    simp only [next, outline, Outline.next]
    split_ifs
    · exact .close
    · exact .go _
    · exact .fails _ _
    · exact .go _
  | escape =>
    simp only [next, outline, Outline.next]
    split_ifs with hu
    · exact .go _
    · rw [Option.isSome_iff_exists] at *
      obtain ⟨d, hd⟩ := ‹_›
      rw [hd]
      exact .go _
    · exact .fails _ _
  | hex high seen value =>
    simp only [next, outline, Outline.next]
    cases Number.hexDigit? c with
    | none => exact .fails _ _
    | some d =>
      dsimp only [Option.isSome_some]
      rw [if_pos rfl]
      split_ifs
      · exact tracks_takeUnit _ high (value * 16 + d)
      · exact .go _
  | pair high =>
    simp only [next, outline, Outline.next]
    by_cases hslash : c = '\\'
    · rw [if_pos hslash, if_neg (by rw [hslash]; decide), if_pos hslash]
      exact .go _
    · rw [if_neg hslash]
      exact .beyond _ hunpaired
  | pairMark high =>
    simp only [next, outline, Outline.next]
    by_cases hu : c = 'u'
    · rw [if_pos hu, if_pos hu]
      exact .go _
    · rw [if_neg hu]
      exact .beyond _ hunpaired

end Quote

/-- A numeral has no value only if the value is too large. -/
theorem Numeral.beyond_of_value {n : Numeral} {p : Problem} (h : n.value = .error p) :
    p.Beyond := by
  have hfloat {p : Problem} (h : n.toFloat = .error p) : p.Beyond := by
    rw [toFloat] at h
    split at h <;> cases h
    simp [Problem.Beyond]
  rw [value] at h
  split at h
  · exact hfloat h
  · split at h
    · cases h
    · split at h
      · exact hfloat h
      · cases h

/-! ## Places -/

/-- The containers around a value, without what they hold. -/
def Place.brackets : Place → List Bracket
  | .whole => []
  | .item _ outer => .list :: outer.brackets
  | .member _ _ outer | .embedded outer => .object :: outer.brackets

/-- No document is embedded around the value. -/
def Place.Plain : Place → Prop
  | .whole => True
  | .item _ outer | .member _ _ outer => outer.Plain
  | .embedded _ => False

namespace Build

/-- Where the scanner stands when the reader stands here. -/
def scan : Build → Scan
  | .value place => .value place.brackets
  | .firstItem outer => .opened .list outer.brackets
  | .nextItem _ outer => .value (.list :: outer.brackets)
  | .afterItem _ outer => .behind .list outer.brackets
  | .firstKey _ outer => .opened .object outer.brackets
  | .nextKey _ outer => .key outer.brackets
  | .inKey _ quote _ outer => .inKey quote.outline outer.brackets
  | .colon place => .colon place.brackets.tail
  | .afterMember _ outer | .afterEmbedded _ outer => .behind .object outer.brackets
  | .word left _ place => .word left place.brackets
  | .number phase _ place => .number phase place.brackets
  | .text quote place => .text quote.outline place.brackets

/-- No document is embedded where the reader stands. -/
def Plain : Build → Prop
  | .value place | .word _ _ place | .number _ _ place | .text _ place => place.Plain
  | .firstItem outer | .nextItem _ outer | .afterItem _ outer | .firstKey _ outer | .nextKey _ outer
  | .inKey _ _ _ outer | .afterMember _ outer => outer.Plain
  | .colon (.member _ _ outer) => outer.Plain
  | .colon _ | .afterEmbedded _ _ => False

/-- The key that is being read. -/
def key? : Build → Option Quote
  | .inKey _ quote _ _ => some quote
  | _ => none

/-- The reader follows the scanner, unless the shape is wrong or the value goes beyond what it can
hold. It is then inside the key `quote?`. -/
inductive Tracks (quote? : Option Quote) : Next → Scan.Next → Prop where
  | fails (n : Next) (p : Problem) : Tracks quote? n (.bad p)
  | beyond {p : Problem} (s : Scan.Next) (h : p.Beyond) : Tracks quote? (.bad p) s
  | go {b : Build} (hb : b.Plain) (hkey : b.key? = quote?) : Tracks quote? (.go b) (.go b.scan)
  | done (v : Json) : Tracks quote? (.done v) .done
  | past (v : Json) : Tracks quote? (.past v) .past

variable (document : String → Except Problem Json)

theorem tracks_enter {b : Build} {place : Place} (kind : Found) (hb : b.Plain)
    (hkey : b.key? = none) (h : place.Plain) : Tracks none (enter kind b place) (.go b.scan) := by
  have hdeep : Problem.tooDeep.Beyond := by simp [Problem.Beyond]
  cases place with
  | embedded => exact absurd h id
  | whole | item | member =>
    rw [enter]
    split
    · exact .go hb hkey
    · exact .beyond _ hdeep
    all_goals nofun

theorem tracks_start (place : Place) (h : place.Plain) (c : Char) :
    Tracks none (start place c) (Scan.start place.brackets c) := by
  rw [start, Scan.start]
  split_ifs
  · exact .go h rfl
  · exact .go h rfl
  · exact .go h rfl
  · exact .go h rfl
  · exact tracks_enter .list (b := .firstItem place) h rfl h
  · exact tracks_enter .map (b := .firstKey true place) h rfl h
  · cases Phase.first? c with
    | none => exact .fails _ _
    | some phase => exact .go h rfl

theorem tracks_finished (v : Json) {place : Place} (h : place.Plain) :
    Tracks none (finished document v place) (Scan.finished place.brackets) := by
  cases place with
  | whole => exact .done v
  | item items outer => exact .go h rfl
  | member members key outer => exact .go h rfl
  | embedded outer => exact absurd h id

theorem tracks_behindItem (items : List Json) (outer : Place) (h : outer.Plain) (c : Char) :
    Tracks none (behindItem document items outer c) (Scan.afterValue .list outer.brackets c) := by
  rw [behindItem, Scan.afterValue.eq_def, Bracket.closing]
  split_ifs
  · exact .go h rfl
  · exact .go h rfl
  · exact tracks_finished document _ h
  · exact .fails _ _

theorem tracks_behindMember (members : Members) (outer : Place) (h : outer.Plain) (c : Char) :
    Tracks none (behindMember document members outer c)
      (Scan.afterValue .object outer.brackets c) := by
  rw [behindMember, Scan.afterValue.eq_def, Bracket.closing]
  split_ifs
  · exact .go h rfl
  · exact .go h rfl
  · exact tracks_finished document _ h
  · exact .fails _ _

theorem tracks_behindNumber (v : Json) {place : Place} (h : place.Plain) {phase : Phase} {c : Char}
    (hstop : phase.next c = .stop) (left : List Char) :
    Tracks none (behindNumber document v place c)
      ((Scan.number phase place.brackets).next c left) := by
  simp only [Scan.next, hstop]
  cases place with
  | whole => exact .past v
  | item items outer => exact tracks_behindItem document (v :: items) outer h c
  | member members key outer =>
    exact tracks_behindMember document (members.set key v) outer h c
  | embedded outer => exact absurd h id

/-- Inside a key the next character leads on to `quote?`; a quote may also begin a key. -/
def LeadsTo (b : Build) (c : Char) (left : List Char) (quote? : Option Quote) : Prop :=
  ∀ q' ∈ quote?, (c = '"' ∧ q' = {}) ∨ ∃ q ∈ b.key?, q.next c left = .go q'

theorem leadsTo_none (b : Build) (c : Char) (left : List Char) : b.LeadsTo c left none :=
  fun q hq => absurd hq (Option.not_mem_none q)

/-- The next character ends a key, and it is the one that embeds a document. -/
def EndsKey (b : Build) (c : Char) (left : List Char) : Prop :=
  ∃ q ∈ b.key?, q.next c left = .close ∧ q.text = embeddedKey

/-- One character takes the reader to where it takes the scanner, as long as no document is
embedded. -/
def Follows (b : Build) (c : Char) (left : List Char) : Prop :=
  (∃ quote?, Tracks quote? (b.next document c left) (b.scan.next c left) ∧
    b.LeadsTo c left quote?) ∨
    b.EndsKey c left

variable {document} in
theorem Follows.of_tracks {b : Build} {c : Char} {left : List Char}
    (h : Tracks none (b.next document c left) (b.scan.next c left)) : b.Follows document c left :=
  Or.inl ⟨none, h, b.leadsTo_none c left⟩

theorem follows_firstKey (embeds : Bool) {outer : Place} (h : outer.Plain) (c : Char)
    (left : List Char) : (firstKey embeds outer).Follows document c left := by
  by_cases hquote : c = '"'
  · subst hquote
    refine Or.inl ⟨some {}, .go (b := .inKey embeds {} [] outer) h rfl, ?_⟩
    rintro q' ⟨⟩
    exact Or.inl ⟨rfl, rfl⟩
  · refine .of_tracks ?_
    simp only [next, scan, Scan.next, Scan.startKey]
    rw [Bracket.closing]
    split_ifs
    · exact .go h rfl
    · exact tracks_finished document _ h
    · exact .fails _ _

theorem follows_nextKey (members : Members) {outer : Place} (h : outer.Plain) (c : Char)
    (left : List Char) : (nextKey members outer).Follows document c left := by
  by_cases hquote : c = '"'
  · subst hquote
    refine Or.inl ⟨some {}, .go (b := .inKey false {} members outer) h rfl, ?_⟩
    rintro q' ⟨⟩
    exact Or.inl ⟨rfl, rfl⟩
  · refine .of_tracks ?_
    simp only [next, scan, Scan.next, Scan.startKey]
    split_ifs
    · exact .go h rfl
    · exact .fails _ _
    · exact .fails _ _

theorem follows_inKey (embeds : Bool) (q : Quote) (members : Members) {outer : Place}
    (h : outer.Plain) (c : Char) (left : List Char) :
    (inKey embeds q members outer).Follows document c left := by
  have hquote := q.tracks_next c left
  rw [Follows, next, scan, Scan.next]
  generalize hnext : q.next c left = n, q.outline.next c left = o at hquote ⊢
  cases hquote with
  | fails => exact Or.inl ⟨none, .fails _ _, leadsTo_none _ c left⟩
  | beyond _ hp => exact Or.inl ⟨none, .beyond _ hp, leadsTo_none _ c left⟩
  | go q' =>
    refine Or.inl ⟨some q', .go (b := .inKey embeds q' members outer) h rfl, ?_⟩
    rintro _ ⟨⟩
    exact Or.inr ⟨q, rfl, hnext⟩
  | close =>
    by_cases hkey : q.text = embeddedKey
    · exact Or.inr ⟨q, rfl, hnext, hkey⟩
    · rw [placeOf, if_neg fun hembeds => hkey hembeds.2]
      exact Or.inl
        ⟨none, .go (b := .colon (.member members q.text outer)) h rfl, leadsTo_none _ c left⟩

theorem tracks_text (q : Quote) {place : Place} (h : place.Plain) (c : Char) (left : List Char) :
    Tracks none ((text q place).next document c left) ((text q place).scan.next c left) := by
  have hquote := q.tracks_next c left
  rw [next, scan, Scan.next]
  generalize q.next c left = n, q.outline.next c left = o at hquote
  cases hquote with
  | fails => exact .fails _ _
  | beyond _ hp => exact .beyond _ hp
  | go q' => exact .go (b := .text q' place) h rfl
  | close => exact tracks_finished document _ h

theorem tracks_number (phase : Phase) (numeral : Numeral) {place : Place}
    (h : place.Plain) (c : Char) (left : List Char) :
    Tracks none ((number phase numeral place).next document c left)
      ((number phase numeral place).scan.next c left) := by
  cases hnext : phase.next c with
  | go phase' =>
    simp only [next, scan, Scan.next, hnext]
    exact .go (b := .number phase' (numeral.take phase' c) place) h rfl
  | bad =>
    simp only [next, scan, Scan.next, hnext]
    exact .fails _ _
  | stop =>
    rw [next, hnext]
    dsimp only
    cases hvalue : numeral.value with
    | ok v => exact tracks_behindNumber document v h hnext left
    | error p => exact .beyond _ (Numeral.beyond_of_value hvalue)

theorem tracks_word (missing : List Char) (v : Json) {place : Place} (h : place.Plain) (c : Char)
    (left : List Char) :
    Tracks none ((word missing v place).next document c left)
      ((word missing v place).scan.next c left) := by
  simp only [next, scan, Scan.next]
  cases missing with
  | nil => exact tracks_finished document v h
  | cons d more =>
    dsimp only
    split_ifs
    · exact .fails _ _
    · exact tracks_finished document v h
    · exact .go (b := .word more v place) h rfl

theorem follows {b : Build} (h : b.Plain) (c : Char) (left : List Char) :
    b.Follows document c left := by
  cases b with
  | value place =>
    refine .of_tracks ?_
    simp only [next, scan, Scan.next]
    split_ifs
    · exact .go h rfl
    · exact tracks_start _ h c
  | firstItem outer =>
    refine .of_tracks ?_
    simp only [next, scan, Scan.next]
    rw [Bracket.closing]
    split_ifs
    · exact .go h rfl
    · exact tracks_finished document _ h
    · exact tracks_start (.item [] outer) h c
  | nextItem items outer =>
    refine .of_tracks ?_
    simp only [next, scan, Scan.next]
    split_ifs with hblank hclose
    · exact .go h rfl
    · rw [hclose]
      exact .fails _ _
    · exact tracks_start (.item items outer) h c
  | afterItem items outer => exact .of_tracks (tracks_behindItem document items outer h c)
  | firstKey embeds outer => exact follows_firstKey document embeds h c left
  | nextKey members outer => exact follows_nextKey document members h c left
  | inKey embeds q members outer => exact follows_inKey document embeds q members h c left
  | colon place =>
    cases place with
    | member members key outer =>
      refine .of_tracks ?_
      simp only [next, scan, Scan.next]
      split_ifs
      · exact .go (b := .colon (.member members key outer)) h rfl
      · exact .go (b := .value (.member members key outer)) h rfl
      · exact .fails _ _
    | whole | item | embedded => exact absurd h id
  | afterMember members outer => exact .of_tracks (tracks_behindMember document members outer h c)
  | afterEmbedded v outer => exact absurd h id
  | word missing v place => exact .of_tracks (tracks_word document missing v h c left)
  | number phase numeral place => exact .of_tracks (tracks_number document phase numeral h c left)
  | text q place => exact .of_tracks (tracks_text document q h c left)

/-! ## Texts -/

/-- The key that embeds a document is the one that is being read, or it is mentioned later. -/
def Meets (b : Build) (t : List Char) : Prop :=
  (∃ q ∈ b.key?, ∃ rest, q.run t = .ok (embeddedKey, rest)) ∨ Mentions embeddedKey t

theorem Meets.cons {b b' : Build} {c : Char} {t : List Char} (hleads : b.LeadsTo c t b'.key?)
    (h : b'.Meets t) : b.Meets (c :: t) := by
  rcases h with ⟨q', hq', rest, hrun⟩ | ⟨before, behind, rest, rfl, hrun⟩
  · rcases hleads q' hq' with ⟨rfl, rfl⟩ | ⟨q, hq, hnext⟩
    · exact Or.inr ⟨[], t, rest, rfl, hrun⟩
    · refine Or.inl ⟨q, hq, rest, ?_⟩
      rw [Quote.run, hnext]
      exact hrun
  · exact Or.inr ⟨c :: before, behind, rest, rfl, hrun⟩

theorem meets_of_endsKey {b : Build} {c : Char} {t : List Char} (h : b.EndsKey c t) :
    b.Meets (c :: t) := by
  obtain ⟨q, hq, hnext, hkey⟩ := h
  refine Or.inl ⟨q, hq, t, ?_⟩
  rw [Quote.run, hnext, hkey]

theorem atEnd_of_finishes {b : Build} (h : b.scan.Finishes []) :
    (∃ v, b.atEnd = .ok v) ∨ ∃ p, p.Beyond ∧ b.atEnd = .error p := by
  obtain ⟨phase, hscan, hcomplete⟩ := Scan.finishes_nil.mp h
  cases b with
  | number phase' numeral place =>
    obtain ⟨rfl, hplace⟩ := Scan.number.inj hscan
    cases place with
    | whole =>
      cases hvalue : numeral.value with
      | ok v => exact Or.inl ⟨v, by simp [atEnd, hcomplete, hvalue]; rfl⟩
      | error p =>
        exact Or.inr ⟨p, Numeral.beyond_of_value hvalue, by simp [atEnd, hcomplete, hvalue]; rfl⟩
    | item | member | embedded => cases hplace
  | _ => cases hscan

/-- **A text that completes a scan is read as a value**, unless the value goes beyond what it can
hold or may embed a document. -/
theorem run_of_finishes {b : Build} (hb : b.Plain) {t : List Char} (h : b.scan.Finishes t) :
    (∃ v, b.run document t = .ok (v, [])) ∨ (∃ p, p.Beyond ∧ b.run document t = .error p) ∨
      b.Meets t := by
  induction t generalizing b with
  | nil =>
    rcases atEnd_of_finishes h with ⟨v, hv⟩ | ⟨p, hp, herror⟩
    · exact Or.inl ⟨v, by rw [run, hv]; rfl⟩
    · exact Or.inr (Or.inl ⟨p, hp, by rw [run, herror]; rfl⟩)
  | cons c t ih =>
    -- the scanner accepts the character, so a wrong shape is ruled out and the reader is at most
    -- beyond its limits
    have haccepts := (Scan.finishes_cons t).mp h
    rcases follows document hb c t with ⟨quote?, htracks, hleads⟩ | hends
    · rw [run]
      generalize b.next document c t = n, b.scan.next c t = s at htracks haccepts
      cases htracks with
      | fails => exact absurd haccepts id
      | beyond s hp => exact Or.inr (Or.inl ⟨_, hp, rfl⟩)
      | go hb' hkey =>
        subst hkey
        rcases ih hb' haccepts with hok | herror | hmeets
        · exact Or.inl hok
        · exact Or.inr (Or.inl herror)
        · exact Or.inr (Or.inr (hmeets.cons hleads))
      | done v =>
        have hnil : t = [] := haccepts
        subst hnil
        exact Or.inl ⟨v, rfl⟩
      | past v => exact absurd haccepts id
    · exact Or.inr (Or.inr (meets_of_endsKey hends))

end Build

/-- **A text with the shape of a value is one**, unless it goes beyond what a value can hold or
mentions the key that embeds a document. -/
theorem parse_of_isJson {raw : Raw} (h : raw.IsJson) :
    (∃ v, parse raw.text = .ok v) ∨ (∃ p, p.Beyond ∧ parse raw.text = .error p) ∨
      Mentions embeddedKey raw.text.toList := by
  obtain ⟨document, hread⟩ := readWithin_eq raw.text.toList.length raw.text.toList
  have hfinishes : (Build.value .whole).scan.Finishes raw.text.toList :=
    ⟨[], _, run_nil, ⟨_, [], h, rfl, (List.append_nil _).symm⟩, rfl⟩
  rw [parse, read, hread]
  rcases Build.run_of_finishes document (b := .value .whole) trivial hfinishes with
    ⟨v, hrun⟩ | ⟨p, hp, hrun⟩ | ⟨q, hq, -⟩ | hmentions
  · rw [hrun]
    exact Or.inl ⟨v, rfl⟩
  · rw [hrun]
    exact Or.inr (Or.inl ⟨p, hp, rfl⟩)
  · cases hq
  · exact Or.inr (Or.inr hmentions)

end StreamGateway.Json
