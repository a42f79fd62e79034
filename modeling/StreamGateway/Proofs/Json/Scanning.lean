import Mathlib.Tactic.SplitIfs
import StreamGateway.Proofs.Json.Grammar

/-! # The scanner finds exactly the JSON values

What completes a scan is stated in terms of the grammar for every place that the scanner can stand
at: inside a numeral (`Phase.Finishes`), inside a string (`Outline.Finishes`) and anywhere in a
value with containers open around it (`Scan.Finishes`). At each place one character is read off what
completes the scan (`Scan.finishes_cons`). By induction on the text a scan reads what completes it
and nothing else (`Scan.run_append`, `Scan.finishes_of_run`), so a text is read as it stands iff it
is a JSON value (`Raw.isJson_iff`). -/
namespace StreamGateway.Json

/-! ## Numbers -/

namespace Phase

/-- What completes a numeral. -/
def Finishes : Phase → List Char → Prop
  | .minus => Then Whole (Then Fraction Exponent)
  | .zero => Then Fraction Exponent
  | .whole => Then (Run isDigit) (Then Fraction Exponent)
  | .point => Then (SomeRun isDigit) Exponent
  | .fraction => Then (Run isDigit) Exponent
  | .mark => Scale
  | .sign => SomeRun isDigit
  | .exponent => Run isDigit

/-- What completes a numeral behind a character. -/
def Next.Accepts : Next → List Char → Prop
  | .go phase, t => phase.Finishes t
  | .stop, _ | .bad, _ => False

theorem finishes_nil {phase : Phase} : phase.Finishes [] ↔ phase.complete = true := by
  cases phase <;> simp [Finishes, complete, Whole, Fraction, Exponent, Scale]

@[simp] theorem Next.accepts_go {phase : Phase} {t : List Char} :
    (Next.go phase).Accepts t ↔ phase.Finishes t := Iff.rfl

@[simp] theorem Next.not_accepts_stop {t : List Char} : ¬ Next.stop.Accepts t := id

@[simp] theorem Next.not_accepts_bad {t : List Char} : ¬ Next.bad.Accepts t := id

@[simp] theorem Next.accepts_ite {p : Prop} [Decidable p] {n n' : Next} {t : List Char} :
    (if p then n else n').Accepts t ↔ (p ∧ n.Accepts t) ∨ (¬ p ∧ n'.Accepts t) := by
  split <;> simp [*]

/-- What completes a numeral starts with a character that the numeral goes on with. -/
theorem finishes_cons {phase : Phase} {c : Char} {t : List Char} :
    phase.Finishes (c :: t) ↔ (phase.next c).Accepts t := by
  by_cases hdigit : isDigit c = true
  · -- a digit is no point, no mark and no sign
    have hpoint : c ≠ '.' := ne_of_class hdigit (by decide)
    have hmark : ¬ (c = 'e' ∨ c = 'E') :=
      not_or.mpr ⟨ne_of_class hdigit (by decide), ne_of_class hdigit (by decide)⟩
    have hsign : ¬ (c = '+' ∨ c = '-') :=
      not_or.mpr ⟨ne_of_class hdigit (by decide), ne_of_class hdigit (by decide)⟩
    cases phase <;> simp [Finishes, next, hdigit, hpoint, hmark, hsign]
  · have hzero : c ≠ '0' := fun hc => hdigit (hc ▸ rfl)
    by_cases hpoint : c = '.'
    · subst hpoint
      cases phase <;> simp [Finishes, next, tail, hdigit]
    · cases phase <;> simp [Finishes, next, tail, hdigit, hzero, hpoint]

/-- A numeral that may end does so before what may stand behind a value. -/
theorem next_of_delimits {phase : Phase} {c : Char} (hphase : phase.complete = true)
    (hc : delimits c = true) : phase.next c = .stop := by
  cases phase with
  | minus | point | mark | sign => cases hphase
  | zero | whole | fraction | exponent =>
    rcases delimits_iff.mp hc with rfl | rfl | rfl | rfl | rfl | rfl | rfl <;> decide

theorem complete_of_next {phase : Phase} {c : Char} (h : phase.next c = .stop) :
    phase.complete = true := by
  cases phase with
  | zero | whole | fraction | exponent => rfl
  | minus | point | mark | sign =>
    rw [next] at h
    split_ifs at h

end Phase

/-! ## Strings -/

theorem shortEscape?_isSome {c : Char} : (shortEscape? c).isSome = true ↔ c ∈ escapeLetters := by
  simp only [shortEscape?, escapeLetters, List.mem_cons, List.not_mem_nil, or_false]
  split_ifs with h h h h h h
  · rcases h with rfl | rfl | rfl <;> simp
  · simp [h]
  · simp [h]
  · simp [h]
  · simp [h]
  · simp [h]
  · simp_all

namespace Outline

/-- What completes a string, up to its closing quote. -/
def Finishes : Outline → List Char → Prop
  | .plain => Then Body (· = ['"'])
  | .escape => Then (fun t => Body ('\\' :: t)) (· = ['"'])
  | .hex seen => fun t => ∃ n, seen + n = 3 ∧ Then (Hexes (n + 1)) (Then Body (· = ['"'])) t

/-- What completes a string behind a character. -/
def Next.Accepts : Next → List Char → Prop
  | .go o, t => o.Finishes t
  | .close, t => t = []
  | .bad _, _ => False

theorem not_finishes_nil {o : Outline} : ¬ o.Finishes [] := by
  cases o <;> simp [Finishes]

theorem hex_cons {seen : Nat} {c : Char} {t : List Char} :
    (Outline.hex seen).Finishes (c :: t) ↔
      (Number.hexDigit? c).isSome = true ∧
        (if seen = 3 then Outline.plain else .hex (seen + 1)).Finishes t := by
  by_cases hseen : seen = 3
  · subst hseen
    simp [Finishes]
  · simp only [Finishes, then_cons, hexes_succ_nil, hexes_succ_cons, then_and, false_and, false_or,
      if_neg hseen]
    -- `n` digits are missing behind this one
    constructor
    · rintro ⟨n, hn, hc, h⟩
      obtain ⟨m, rfl⟩ := Nat.exists_eq_succ_of_ne_zero (n := n) (by omega)
      exact ⟨hc, m, by omega, h⟩
    · rintro ⟨hc, n, hn, h⟩
      exact ⟨n + 1, by omega, hc, h⟩

/-- What completes a string starts with a character that the string goes on with. -/
theorem finishes_cons {o : Outline} {c : Char} {t : List Char} (left : List Char) :
    o.Finishes (c :: t) ↔ (o.next c left).Accepts t := by
  cases o with
  | plain =>
    have hplain : Outline.plain.Finishes (c :: t) ↔
        (c = '"' ∧ t = []) ∨ Then (fun u => Body (c :: u)) (· = ['"']) t := by
      simp [Finishes, Body.nil]
    rw [hplain, next]
    by_cases hslash : c = '\\'
    · subst hslash
      simp [Next.Accepts, Finishes]
    · simp only [body_cons hslash, then_and]
      split_ifs with hquote hcontrol
      · simp [hquote, Next.Accepts]
      · simp [hquote, Next.Accepts, Nat.not_le.mpr hcontrol]
      · simp [hquote, Next.Accepts, Finishes, Nat.not_lt.mp hcontrol]
  | escape =>
    have hescape : Outline.escape.Finishes (c :: t) ↔
        (c ∈ escapeLetters ∧ Outline.plain.Finishes t) ∨
          (c = 'u' ∧ (Outline.hex 0).Finishes t) := by
      simp [Finishes, not_body_slash, body_escape, then_assoc]
    have hu : 'u' ∉ escapeLetters := by decide
    simp only [hescape, next, shortEscape?_isSome]
    split_ifs with hc hc'
    · simp [hc, hu, Next.Accepts]
    · simp [hc, hc', Next.Accepts]
    · simp [hc, hc', Next.Accepts]
  | hex seen =>
    rw [hex_cons, next]
    by_cases hc : (Number.hexDigit? c).isSome = true
    · simp [hc, Next.Accepts]
    · simp [hc, Next.Accepts]

end Outline

/-! ## How values begin -/

theorem isNumber_cons {c : Char} {t : List Char} :
    IsNumber (c :: t) ↔ ∃ phase, Phase.first? c = some phase ∧ phase.Finishes t := by
  have hminus : isDigit '-' = false := by decide
  simp only [IsNumber, Phase.first?]
  split_ifs with h₁ h₂ h₃
  · simp [h₁, hminus, Phase.Finishes]
  · simp [h₂, Phase.Finishes]
  · simp [h₁, h₂, h₃, Phase.Finishes]
  · simp [h₁, h₂, h₃]

theorem isText_cons {c : Char} {t : List Char} :
    IsText (c :: t) ↔ c = '"' ∧ Outline.plain.Finishes t := after_cons

theorem bracket_exists {P : Bracket → Prop} : (∃ b, P b) ↔ P .list ∨ P .object := by
  constructor
  · rintro ⟨b, h⟩
    cases b with
    | list => exact Or.inl h
    | object => exact Or.inr h
  · rintro (h | h)
    · exact ⟨.list, h⟩
    · exact ⟨.object, h⟩

theorem not_spells_nil : ¬ Spells .value [] := by
  simp [spells_value, valueWords, IsNumber, IsText]

/-- What may stand behind a value does not begin one. -/
theorem not_spells_of_delimits {c : Char} {t : List Char} (hc : delimits c = true) :
    ¬ Spells .value (c :: t) := by
  rcases delimits_iff.mp hc with rfl | rfl | rfl | rfl | rfl | rfl | rfl <;>
    simp [spells_value, valueWords, isNumber_cons, isText_cons, bracket_exists, Bracket.opening,
      Phase.first?, isDigit]

theorem exists_cons_of_spells {t : List Char} (h : Spells .value t) :
    ∃ c u, t = c :: u ∧ delimits c = false := by
  cases t with
  | nil => exact absurd h not_spells_nil
  | cons c u =>
    refine ⟨c, u, rfl, Bool.eq_false_iff.mpr ?_⟩
    intro hc
    exact not_spells_of_delimits hc h

/-! ## Values and the containers around them -/

/-- What closes the containers that are open. -/
def Closes : List Bracket → List Char → Prop
  | [] => (· = [])
  | b :: outer => Then (Spells (.rest b)) (Closes outer)

theorem closes_cons {b : Bracket} {outer : List Bracket} {c : Char} {t : List Char} :
    Closes (b :: outer) (c :: t) ↔
      (c = b.closing ∧ Closes outer t) ∨ (c = ',' ∧ Then (Spells (.contents b)) (Closes outer) t) ∨
        (isBlank c = true ∧ Closes (b :: outer) t) := by
  simp [Closes, spells_rest, then_assoc, or_assoc]

theorem not_closes_nil {b : Bracket} {outer : List Bracket} : ¬ Closes (b :: outer) [] := by
  simp [Closes, spells_rest]

namespace Scan

/-- A value behind blanks, and what closes the containers around it. -/
def Valued (inside : List Bracket) : List Char → Prop :=
  Then Blanks (Then (Spells .value) (Closes inside))

/-- What follows the key of a member. -/
def Keyed (outer : List Bracket) : List Char → Prop :=
  Then Blanks (After ':' (Valued (.object :: outer)))

/-- What completes a scan. -/
def Finishes : Scan → List Char → Prop
  | .value inside => Valued inside
  | .opened b outer => fun t =>
    Then Blanks (After b.closing (Closes outer)) t ∨ Then (Spells (.contents b)) (Closes outer) t
  | .behind b outer => Closes (b :: outer)
  | .key outer => Then (Spells (.contents .object)) (Closes outer)
  | .inKey o outer => Then o.Finishes (Keyed outer)
  | .colon outer => Keyed outer
  -- some letter of a word is always missing; otherwise any one would do
  | .word [] inside => fun t => ∃ c, After c (Closes inside) t
  | .word (d :: more) inside => Then (· = d :: more) (Closes inside)
  | .number phase inside => Then phase.Finishes (Closes inside)
  | .text o inside => Then o.Finishes (Closes inside)

/-- What completes a scan behind a character. -/
def Next.Accepts : Next → List Char → Prop
  | .go s, t => s.Finishes t
  | .done, t => t = []
  | .past, _ | .bad _, _ => False

@[simp] theorem Next.accepts_go {s : Scan} {t : List Char} :
    (Next.go s).Accepts t ↔ s.Finishes t := Iff.rfl

@[simp] theorem Next.accepts_done {t : List Char} : Next.done.Accepts t ↔ t = [] := Iff.rfl

@[simp] theorem Next.not_accepts_past {t : List Char} : ¬ Next.past.Accepts t := id

@[simp] theorem Next.not_accepts_bad {p : Problem} {t : List Char} :
    ¬ (Next.bad p).Accepts t := id

@[simp] theorem accepts_finished {inside : List Bracket} {t : List Char} :
    (finished inside).Accepts t ↔ Closes inside t := by
  cases inside with
  | nil => exact Iff.rfl
  | cons b outer => exact Iff.rfl

theorem contained_list {outer : List Bracket} :
    Then (Spells (.contents .list)) (Closes outer) = Valued (.list :: outer) := by
  rw [spells_list, then_assoc, then_assoc]
  rfl

theorem contained_object {outer : List Bracket} :
    Then (Spells (.contents .object)) (Closes outer) = Then Blanks (Then IsText (Keyed outer)) := by
  simp only [spells_object, then_assoc, after_then]
  rfl

/-! ### One character -/

theorem accepts_afterValue {b : Bracket} {outer : List Bracket} {c : Char} {t : List Char} :
    (afterValue b outer c).Accepts t ↔ Closes (b :: outer) (c :: t) := by
  have hclosing : isBlank b.closing = false ∧ b.closing ≠ ',' := by cases b <;> decide
  rw [closes_cons, afterValue.eq_def]
  by_cases hc : c = b.closing
  · simp [hc, hclosing]
  · by_cases hcomma : c = ','
    · subst hcomma
      have hblank : isBlank ',' = false := by decide
      cases b with
      | list => simp [hblank, hc, Finishes, contained_list]
      | object => simp [hblank, hc, Finishes]
    · by_cases hblank : isBlank c = true
      · simp [hblank, hc, hcomma, Finishes]
      · simp [hblank, hc, hcomma]

/-- The first character of a value, with what completes the value and closes the containers around
it. -/
theorem accepts_start {inside : List Bracket} {c : Char} {t : List Char} :
    (start inside c).Accepts t ↔ Then (fun v => Spells .value (c :: v)) (Closes inside) t := by
  simp only [spells_value, isNumber_cons, isText_cons, valueWords, List.mem_cons, List.cons.injEq,
    List.not_mem_nil, or_false, after_cons, bracket_exists, Bracket.opening, then_or, then_and,
    then_exists, then_assoc, after_then, then_eq_nil]
  rw [start]
  split_ifs with h₁ h₂ h₃ h₄ h₅ h₆
  · simp [h₁, Finishes, Phase.first?, isDigit]
  · simp [h₂, Finishes, Phase.first?, isDigit]
  · simp [h₃, Finishes, Phase.first?, isDigit]
  · simp [h₄, Finishes, Phase.first?, isDigit]
  · simp [h₅, Finishes, Phase.first?, isDigit]
  · simp [h₆, Finishes, Phase.first?, isDigit]
  · cases hfirst : Phase.first? c with
    | none => simp [h₁, h₂, h₃, h₄, h₅, h₆]
    | some phase => simp [h₁, h₂, h₃, h₄, h₅, h₆, Finishes]

theorem valued_cons {inside : List Bracket} {c : Char} {t : List Char} :
    Valued inside (c :: t) ↔
      (if isBlank c then Next.go (.value inside) else start inside c).Accepts t := by
  have hcons : Valued inside (c :: t) ↔
      (start inside c).Accepts t ∨ (isBlank c = true ∧ Valued inside t) := by
    simp [Valued, not_spells_nil, accepts_start]
  rw [hcons]
  split_ifs with hblank
  · -- no value begins with a blank
    have hstart : ¬ (start inside c).Accepts t := by
      rw [accepts_start]
      rintro ⟨v, -, hv, -⟩
      exact not_spells_of_delimits (by simp [delimits, hblank]) hv
    simp [hblank, hstart, Finishes]
  · simp [hblank]

theorem key_cons {outer : List Bracket} {c : Char} {t : List Char} :
    (Scan.key outer).Finishes (c :: t) ↔ (startKey outer c).Accepts t := by
  have hcons : (Scan.key outer).Finishes (c :: t) ↔
      (c = '"' ∧ (Scan.inKey .plain outer).Finishes t) ∨
        (isBlank c = true ∧ (Scan.key outer).Finishes t) := by
    simp only [Finishes, contained_object]
    simp [IsText, Outline.Finishes]
  have hquote : isBlank '"' = false := by decide
  rw [hcons, startKey]
  split_ifs with hblank hc
  · have hne : c ≠ '"' := ne_of_class hblank hquote
    simp [hblank, hne]
  · simp [hc, hquote]
  · simp [hblank, hc]

theorem contained_cons {b : Bracket} {outer : List Bracket} {c : Char} {t : List Char} :
    Then (Spells (.contents b)) (Closes outer) (c :: t) ↔
      (isBlank c = true ∧ Then (Spells (.contents b)) (Closes outer) t) ∨
        (isBlank c = false ∧ (match b with
          | .list => start (.list :: outer) c
          | .object => startKey outer c).Accepts t) := by
  cases b with
  | list =>
    rw [contained_list, valued_cons]
    by_cases hblank : isBlank c = true <;> simp [hblank, Finishes]
  | object =>
    show (Scan.key outer).Finishes (c :: t) ↔ _
    rw [key_cons]
    by_cases hblank : isBlank c = true
    · simp [hblank, startKey, Finishes]
    · simp [hblank]

theorem opened_cons {b : Bracket} {outer : List Bracket} {c : Char} {t : List Char}
    (left : List Char) :
    (Scan.opened b outer).Finishes (c :: t) ↔ ((Scan.opened b outer).next c left).Accepts t := by
  have hclosing : isBlank b.closing = false := by cases b <;> decide
  have hcons : (Scan.opened b outer).Finishes (c :: t) ↔
      ((c = b.closing ∧ Closes outer t) ∨
        (isBlank c = true ∧ Then Blanks (After b.closing (Closes outer)) t)) ∨
        Then (Spells (.contents b)) (Closes outer) (c :: t) := by
    show _ ∨ _ ↔ _
    simp only [then_cons (P := Blanks), run_nil, run_cons, after_cons, then_and, true_and]
  rw [hcons, contained_cons, next.eq_def]
  dsimp only
  split_ifs with hblank hc
  · have hne : c ≠ b.closing := ne_of_class hblank hclosing
    simp [hblank, hne, Finishes]
  · subst hc
    cases b <;> simp [start, startKey, Phase.first?, Bracket.closing, isDigit, isBlank]
  · cases b <;> simp [hblank, hc]

theorem delimits_of_closes {inside : List Bracket} {c : Char} {t : List Char}
    (h : Closes inside (c :: t)) : delimits c = true := by
  cases inside with
  | nil => cases h
  | cons b outer =>
    rcases closes_cons.mp h with ⟨rfl, -⟩ | ⟨rfl, -⟩ | ⟨hc, -⟩
    · cases b <;> decide
    · decide
    · simp [delimits, hc]

theorem number_cons {phase : Phase} {inside : List Bracket} {c : Char} {t : List Char}
    (left : List Char) :
    (Scan.number phase inside).Finishes (c :: t) ↔
      ((Scan.number phase inside).next c left).Accepts t := by
  have hcons : (Scan.number phase inside).Finishes (c :: t) ↔
      (phase.complete = true ∧ Closes inside (c :: t)) ∨
        Then (fun u => (phase.next c).Accepts u) (Closes inside) t := by
    simp only [Finishes, then_cons, Phase.finishes_cons, Phase.finishes_nil]
  -- a complete number is only left behind a character that it cannot go on with
  have hleft (hne : phase.next c ≠ .stop) : ¬ (phase.complete = true ∧ Closes inside (c :: t)) := by
    rintro ⟨hphase, hr⟩
    exact hne (phase.next_of_delimits hphase (delimits_of_closes hr))
  rw [hcons, next.eq_def]
  dsimp only
  cases hnext : phase.next c with
  | go phase' => simp [hleft (by simp [hnext]), Finishes]
  | bad => simp [hleft (by simp [hnext])]
  | stop =>
    have hphase : phase.complete = true := Phase.complete_of_next hnext
    cases inside with
    | nil => simp [Closes]
    | cons b outer => simp [hphase, accepts_afterValue]

/-- **What completes a scan is read character by character.** -/
theorem finishes_cons {s : Scan} {c : Char} {t : List Char} (left : List Char) :
    s.Finishes (c :: t) ↔ (s.next c left).Accepts t := by
  cases s with
  | value inside => exact valued_cons
  | opened b outer => exact opened_cons left
  | behind b outer => exact accepts_afterValue.symm
  | key outer => exact key_cons
  | inKey o outer =>
    simp only [Finishes, next, then_cons, Outline.not_finishes_nil, Outline.finishes_cons left]
    cases o.next c left with
    | go o' => simp [Finishes, Outline.Next.Accepts]
    | close => simp [Finishes, Outline.Next.Accepts]
    | bad p => simp [Outline.Next.Accepts]
  | colon outer =>
    have hcolon : isBlank ':' = false := by decide
    simp only [Finishes, Keyed, next]
    split_ifs with hblank hc
    · have hne : c ≠ ':' := ne_of_class hblank hcolon
      simp [hblank, hne, Finishes, Keyed]
    · simp [hc, hcolon, Finishes]
    · simp [hblank, hc]
  | word missing inside =>
    cases missing with
    | nil => simp [next, Finishes]
    | cons d more =>
      by_cases hc : c = d
      · cases more <;> simp [next, Finishes, hc]
      · simp [next, Finishes, hc]
  | number phase inside => exact number_cons left
  | text o inside =>
    simp only [Finishes, next, then_cons, Outline.not_finishes_nil, Outline.finishes_cons left]
    cases o.next c left with
    | go o' => simp [Finishes, Outline.Next.Accepts]
    | close => simp [Outline.Next.Accepts]
    | bad p => simp [Outline.Next.Accepts]

theorem finished_ne_past {inside : List Bracket} : finished inside ≠ .past := by
  cases inside <;> nofun

theorem afterValue_ne_past {b : Bracket} {outer : List Bracket} {c : Char} :
    afterValue b outer c ≠ .past := by
  rw [afterValue.eq_def]
  split_ifs
  · nofun
  · nofun
  · exact finished_ne_past
  · nofun

theorem start_ne_past {inside : List Bracket} {c : Char} : start inside c ≠ .past := by
  rw [start]
  repeat' split
  all_goals nofun

theorem startKey_ne_past {outer : List Bracket} {c : Char} : startKey outer c ≠ .past := by
  rw [startKey]
  repeat' split
  all_goals nofun

/-- Only a number that stands alone ends before the next character. -/
theorem next_eq_past {s : Scan} {c : Char} {left : List Char} (h : s.next c left = .past) :
    ∃ phase, s = .number phase [] ∧ phase.complete = true := by
  rw [next.eq_def] at h
  cases s with
  | value inside =>
    dsimp only at h
    split_ifs at h
    exact absurd h start_ne_past
  | opened b outer =>
    dsimp only at h
    split_ifs at h
    · exact absurd h finished_ne_past
    · cases b with
      | list => exact absurd h start_ne_past
      | object => exact absurd h startKey_ne_past
  | behind b outer => exact absurd h afterValue_ne_past
  | key outer => exact absurd h startKey_ne_past
  | inKey o outer =>
    dsimp only at h
    split at h <;> cases h
  | colon outer =>
    dsimp only at h
    split_ifs at h
  | word missing inside =>
    cases missing with
    | nil => exact absurd h finished_ne_past
    | cons d more =>
      dsimp only at h
      split_ifs at h
      exact absurd h finished_ne_past
  | number phase inside =>
    dsimp only at h
    split at h
    · cases h
    · cases h
    · rename_i hstop
      cases inside with
      | nil => exact ⟨phase, rfl, Phase.complete_of_next hstop⟩
      | cons b outer => exact absurd h afterValue_ne_past
  | text o inside =>
    dsimp only at h
    split at h
    · cases h
    · exact absurd h finished_ne_past
    · cases h

/-- A scan that needs nothing more stands behind a number that may end. -/
theorem finishes_nil {s : Scan} :
    s.Finishes [] ↔ ∃ phase, s = .number phase [] ∧ phase.complete = true := by
  cases s with
  | value inside => simp [Finishes, Valued, not_spells_nil]
  | opened b outer =>
    cases b <;> simp [Finishes, spells_list, spells_object, not_spells_nil, IsText]
  | behind b outer => simp [Finishes, not_closes_nil]
  | key outer => simp [Finishes, spells_object, IsText]
  | inKey o outer => simp [Finishes, Outline.not_finishes_nil]
  | colon outer => simp [Finishes, Keyed]
  | word missing inside => cases missing <;> simp [Finishes]
  | number phase inside =>
    cases inside with
    | nil => simp [Finishes, Phase.finishes_nil, Closes]
    | cons b outer => simp [Finishes, not_closes_nil]
  | text o inside => simp [Finishes, Outline.not_finishes_nil]

theorem atEnd_eq_ok {s : Scan} : s.atEnd = .ok () ↔ s.Finishes [] := by
  rw [finishes_nil]
  constructor
  · intro h
    cases s with
    | number phase inside =>
      rw [atEnd.eq_def] at h
      dsimp only at h
      split_ifs at h with hphase
      cases inside with
      | nil => exact ⟨phase, rfl, hphase⟩
      | cons b outer => cases h
    | _ => cases h
  · rintro ⟨phase, rfl, hphase⟩
    simp [atEnd, hphase]

/-- **A scan reads exactly what completes it**, if something follows that may stand behind a
value. -/
theorem run_append {s : Scan} {t rest : List Char} (h : s.Finishes t) (hrest : Delimited rest)
    (read : List Char) : s.run read (t ++ rest) = .ok (t.reverse ++ read, rest) := by
  induction t generalizing s read with
  | nil =>
    obtain ⟨phase, rfl, hphase⟩ := finishes_nil.mp h
    cases rest with
    | nil =>
      have hend : (Scan.number phase []).atEnd = .ok () := atEnd_eq_ok.mpr h
      simp only [List.append_nil, run, hend]
      rfl
    | cons c cs =>
      have hc : phase.next c = .stop := phase.next_of_delimits hphase (hrest c rfl)
      simp [run, next, hc]
  | cons c t ih =>
    have hnext := (finishes_cons (t ++ rest)).mp h
    -- the scan goes on or is done behind `c`; it is not done before `c`, and `c` is not refused
    rw [List.cons_append, run]
    split <;> rename_i heq <;> rw [heq] at hnext
    · rw [ih hnext, List.reverse_cons, List.append_assoc]
      rfl
    · have hnil : t = [] := hnext
      subst hnil
      rfl
    · exact hnext.elim
    · exact hnext.elim

/-- What a scan has read completes it. -/
theorem finishes_of_run {s : Scan} {read cs read' rest : List Char}
    (h : s.run read cs = .ok (read', rest)) :
    ∃ t, cs = t ++ rest ∧ read' = t.reverse ++ read ∧ s.Finishes t := by
  induction cs generalizing s read with
  | nil =>
    cases hend : s.atEnd with
    | error p =>
      rw [run, hend] at h
      cases h
    | ok _ =>
      rw [run, hend] at h
      cases h
      exact ⟨[], rfl, rfl, atEnd_eq_ok.mp hend⟩
  | cons c cs ih =>
    rw [run] at h
    split at h <;> rename_i heq
    · obtain ⟨t, rfl, rfl, ht⟩ := ih h
      refine ⟨c :: t, rfl, by simp, (finishes_cons (t ++ rest)).mpr ?_⟩
      rw [heq]
      exact ht
    · cases h
      refine ⟨[c], rfl, rfl, (finishes_cons rest).mpr ?_⟩
      rw [heq]
      exact rfl
    · -- a number has ended before `c`, so nothing more was read
      cases h
      exact ⟨[], rfl, rfl, finishes_nil.mpr (next_eq_past heq)⟩
    · cases h

end Scan

/-! ## Raw values -/

theorem exists_blanks (cs : List Char) : ∃ bs, Blanks bs ∧ cs = bs ++ cs.dropWhile isBlank :=
  ⟨cs.takeWhile isBlank, List.all_eq_true.mp List.all_takeWhile,
    List.takeWhile_append_dropWhile.symm⟩

theorem isBlank_of_dropWhile {cs t : List Char} {c : Char} (h : cs.dropWhile isBlank = c :: t) :
    isBlank c = false := by
  have hne := List.head_dropWhile_not isBlank (l := cs) (by simp [h])
  simpa [h] using hne

namespace Raw

/-- **A JSON value is read as it stands**, whatever may stand behind it. -/
theorem read_append {raw : Raw} {rest : List Char} (h : raw.IsJson) (hrest : Delimited rest) :
    read (raw.text.toList ++ rest) = .ok (raw, rest) := by
  obtain ⟨c, u, hraw, hc⟩ := exists_cons_of_spells h
  have hdrop : (raw.text.toList ++ rest).dropWhile isBlank = raw.text.toList ++ rest := by
    have hblank : isBlank c = false := by simp_all [delimits]
    simp [hraw, hblank]
  have hvalue : (Scan.value []).Finishes raw.text.toList :=
    ⟨[], _, run_nil, ⟨_, [], h, rfl, (List.append_nil _).symm⟩, rfl⟩
  rw [read, hdrop, Scan.run_append hvalue hrest]
  simp [bind, Except.bind, pure, Except.pure]

/-- **What is read is a JSON value as it stands**, behind some blanks. -/
theorem exists_of_read {raw : Raw} {cs rest : List Char} (h : read cs = .ok (raw, rest)) :
    ∃ bs, Blanks bs ∧ raw.IsJson ∧ cs = bs ++ (raw.text.toList ++ rest) := by
  obtain ⟨before, hbefore, hcs⟩ := exists_blanks cs
  rw [read] at h
  cases hrun : Scan.run (.value []) [] (cs.dropWhile isBlank) with
  | error p => simp [hrun, bind, Except.bind] at h
  | ok found =>
    obtain ⟨lexeme, rest'⟩ := found
    obtain ⟨t, ht, rfl, bs, _, hbs, ⟨v, r, hv, rfl, rfl⟩, rfl⟩ := Scan.finishes_of_run hrun
    -- the blanks in front have been dropped
    have hnil : bs = [] := by
      cases bs with
      | nil => rfl
      | cons c bs =>
        have hc := isBlank_of_dropWhile ht
        rw [(run_cons.mp hbs).1] at hc
        cases hc
    subst hnil
    obtain ⟨rfl, rfl⟩ : ⟨String.ofList v⟩ = raw ∧ rest' = rest := by
      simpa [hrun, bind, Except.bind, pure, Except.pure] using h
    refine ⟨before, hbefore, ?_, ?_⟩
    · rw [IsJson, String.toList_ofList]
      exact hv
    · rw [hcs, ht, String.toList_ofList]
      simp

theorem isJson_of_read {raw : Raw} {cs rest : List Char} (h : read cs = .ok (raw, rest)) :
    raw.IsJson := by
  obtain ⟨_, -, hraw, -⟩ := exists_of_read h
  exact hraw

/-- A text is a JSON value iff it is read as itself. -/
theorem isJson_iff {raw : Raw} : raw.IsJson ↔ ofText raw.text = .ok raw := by
  constructor
  · intro h
    have hread : read raw.text.toList = .ok (raw, []) := by
      have hend : Delimited [] := by simp [Delimited]
      simpa using read_append h hend
    simp [ofText, hread, bind, Except.bind, pure, Except.pure]
  · intro h
    cases hread : read raw.text.toList with
    | error p => simp [ofText, hread, bind, Except.bind] at h
    | ok found =>
      obtain ⟨raw', rest⟩ := found
      simp only [ofText, hread, bind, Except.bind] at h
      split_ifs at h with hrest
      cases h
      exact isJson_of_read hread

instance (raw : Raw) : Decidable raw.IsJson :=
  decidable_of_iff ((ofText raw.text).toOption = some raw) (by
    rw [isJson_iff]
    cases ofText raw.text <;> simp [Except.toOption])

example : (⟨"[-1.5e3, \x7b\"a\": null\x7d ]"⟩ : Raw).IsJson := by decide +kernel

end Raw
end StreamGateway.Json
