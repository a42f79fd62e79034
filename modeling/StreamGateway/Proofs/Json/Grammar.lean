import StreamGateway.Json.Raw

/-! # The grammar of JSON

Which texts are JSON values, stated by what follows what, without any reader. A text is of a kind;
kinds are put together in sequence (`Then`, `After`), and `then_cons` says to which part the first
character of a text belongs. Containers hold values, so values and what stands in a container are
spelled together (`Spells`). -/
namespace StreamGateway.Json

/-! ## Kinds of text -/

/-- A text of one kind, followed by one of another. -/
def Then (P Q : List Char → Prop) (t : List Char) : Prop := ∃ u r, P u ∧ Q r ∧ t = u ++ r

/-- A character, followed by a text of some kind. -/
def After (c : Char) (P : List Char → Prop) (t : List Char) : Prop := ∃ r, P r ∧ t = c :: r

/-- Characters of one class. -/
def Run (p : Char → Bool) (t : List Char) : Prop := ∀ c ∈ t, p c = true

/-- At least one character of a class, and no other. -/
def SomeRun (p : Char → Bool) (t : List Char) : Prop := t ≠ [] ∧ Run p t

section

variable {P Q S : List Char → Prop} {p : Char → Bool} {c d : Char} {t : List Char}

@[simp] theorem then_nil : Then P Q [] ↔ P [] ∧ Q [] := by
  constructor
  · rintro ⟨u, r, hu, hr, h⟩
    obtain ⟨rfl, rfl⟩ := List.append_eq_nil_iff.mp h.symm
    exact ⟨hu, hr⟩
  · rintro ⟨hu, hr⟩
    exact ⟨[], [], hu, hr, rfl⟩

/-- The first character belongs to the second text only if the first one may be empty. -/
@[simp] theorem then_cons :
    Then P Q (c :: t) ↔ (P [] ∧ Q (c :: t)) ∨ Then (fun u => P (c :: u)) Q t := by
  constructor
  · rintro ⟨u, r, hu, hr, h⟩
    cases u with
    | nil =>
      rw [List.nil_append] at h
      exact Or.inl ⟨hu, h ▸ hr⟩
    | cons d u =>
      obtain ⟨rfl, rfl⟩ := List.cons.inj h
      exact Or.inr ⟨u, r, hu, hr, rfl⟩
  · rintro (⟨hu, hr⟩ | ⟨u, r, hu, hr, rfl⟩)
    · exact ⟨[], c :: t, hu, hr, rfl⟩
    · exact ⟨c :: u, r, hu, hr, rfl⟩

theorem then_assoc : Then (Then P Q) S = Then P (Then Q S) := by
  ext t
  constructor
  · rintro ⟨_, r, ⟨u, v, hu, hv, rfl⟩, hr, rfl⟩
    exact ⟨u, v ++ r, hu, ⟨v, r, hv, hr, rfl⟩, List.append_assoc u v r⟩
  · rintro ⟨u, _, hu, ⟨v, r, hv, hr, rfl⟩, rfl⟩
    exact ⟨u ++ v, r, ⟨u, v, hu, hv, rfl⟩, hr, (List.append_assoc u v r).symm⟩

@[simp] theorem then_eq_nil : Then (· = []) Q = Q := by
  ext t
  simp [Then]

@[simp] theorem then_and {a : Prop} : Then (fun u => a ∧ P u) Q t ↔ a ∧ Then P Q t := by
  simp [Then, and_assoc]

@[simp] theorem then_or : Then (fun u => P u ∨ S u) Q t ↔ Then P Q t ∨ Then S Q t := by
  simp only [Then, or_and_right, exists_or]

@[simp] theorem then_exists {ι : Type} {P : ι → List Char → Prop} :
    Then (fun u => ∃ i, P i u) Q t ↔ ∃ i, Then (P i) Q t := by
  constructor
  · rintro ⟨u, r, ⟨i, hu⟩, hr, h⟩
    exact ⟨i, u, r, hu, hr, h⟩
  · rintro ⟨i, u, r, hu, hr, h⟩
    exact ⟨u, r, ⟨i, hu⟩, hr, h⟩

@[simp] theorem then_false : ¬ Then (fun _ => False) Q t := by
  simp [Then]

@[simp] theorem after_nil : ¬ After c P [] := by
  simp [After]

@[simp] theorem after_cons : After c P (d :: t) ↔ d = c ∧ P t := by
  simp [After, and_comm, eq_comm]

theorem after_then : Then (After c P) Q = After c (Then P Q) := by
  ext t
  cases t with
  | nil => simp
  | cons d t => simp

@[simp] theorem run_nil : Run p [] := by
  simp [Run]

@[simp] theorem run_cons : Run p (c :: t) ↔ p c = true ∧ Run p t := by
  simp [Run]

@[simp] theorem someRun_nil : ¬ SomeRun p [] := by
  simp [SomeRun]

@[simp] theorem someRun_cons : SomeRun p (c :: t) ↔ p c = true ∧ Run p t := by
  simp [SomeRun]

end

/-- Characters are told apart by a class that only one of them is in. -/
theorem ne_of_class {p : Char → Bool} {c d : Char} (hc : p c = true) (hd : p d = false) :
    c ≠ d := by
  rintro rfl
  rw [hd] at hc
  cases hc

/-! ## Numbers -/

/-- A zero alone, or digits of which the first is not a zero. -/
def Whole (t : List Char) : Prop :=
  t = ['0'] ∨ SomeRun isDigit t ∧ t.head? ≠ some '0'

/-- Nothing, or a point and digits. -/
def Fraction (t : List Char) : Prop := t = [] ∨ After '.' (SomeRun isDigit) t

/-- Perhaps a sign, and digits. -/
def Scale : List Char → Prop := Then (fun t => t = [] ∨ t = ['+'] ∨ t = ['-']) (SomeRun isDigit)

/-- Nothing, or a mark and what it scales by. -/
def Exponent (t : List Char) : Prop := t = [] ∨ After 'e' Scale t ∨ After 'E' Scale t

/-- A number. -/
def IsNumber : List Char → Prop :=
  Then (fun t => t = [] ∨ t = ['-']) (Then Whole (Then Fraction Exponent))

@[simp] theorem exponent_cons {c : Char} {t : List Char} :
    Exponent (c :: t) ↔ (c = 'e' ∨ c = 'E') ∧ Scale t := by
  simp [Exponent, or_and_right]

@[simp] theorem scale_cons {c : Char} {t : List Char} :
    Scale (c :: t) ↔
      ((c = '+' ∨ c = '-') ∧ SomeRun isDigit t) ∨ (isDigit c = true ∧ Run isDigit t) := by
  simp [Scale, or_and_right, or_comm]

@[simp] theorem fraction_cons {c : Char} {t : List Char} :
    Fraction (c :: t) ↔ c = '.' ∧ SomeRun isDigit t := by
  simp [Fraction]

@[simp] theorem whole_cons {c : Char} {t : List Char} :
    Whole (c :: t) ↔ (c = '0' ∧ t = []) ∨ ((isDigit c = true ∧ c ≠ '0') ∧ Run isDigit t) := by
  simp [Whole, and_right_comm]

@[simp] theorem exponent_nil : Exponent [] := Or.inl rfl

@[simp] theorem fraction_nil : Fraction [] := Or.inl rfl

@[simp] theorem not_whole_nil : ¬ Whole [] := by simp [Whole]

/-! ## Strings -/

/-- The letters of one-letter escapes. -/
def escapeLetters : List Char := ['"', '\\', '/', 'b', 'f', 'n', 'r', 't']

/-- A number of hexadecimal digits. -/
def Hexes (n : Nat) (t : List Char) : Prop :=
  t.length = n ∧ Run (fun c => (Number.hexDigit? c).isSome) t

/-- What stands between the quotes of a string. -/
inductive Body : List Char → Prop where
  | nil : Body []
  | plain {c : Char} {cs : List Char} (hquote : c ≠ '"') (hslash : c ≠ '\\')
      (hprintable : 0x20 ≤ c.toNat) (h : Body cs) : Body (c :: cs)
  | short {c : Char} {cs : List Char} (hc : c ∈ escapeLetters) (h : Body cs) :
      Body ('\\' :: c :: cs)
  | hex {digits cs : List Char} (hdigits : Hexes 4 digits) (h : Body cs) :
      Body ('\\' :: 'u' :: (digits ++ cs))

/-- A string. -/
def IsText : List Char → Prop := After '"' (Then Body (· = ['"']))

@[simp] theorem hexes_zero : Hexes 0 = (· = []) := by
  ext t
  cases t <;> simp [Hexes]

@[simp] theorem hexes_succ_nil {n : Nat} : ¬ Hexes (n + 1) [] := by
  simp [Hexes]

@[simp] theorem hexes_succ_cons {n : Nat} {c : Char} {t : List Char} :
    Hexes (n + 1) (c :: t) ↔ (Number.hexDigit? c).isSome = true ∧ Hexes n t := by
  simp [Hexes, and_left_comm]

theorem body_cons {c : Char} {t : List Char} (hc : c ≠ '\\') :
    Body (c :: t) ↔ (c ≠ '"' ∧ 0x20 ≤ c.toNat) ∧ Body t := by
  constructor
  · intro h
    cases h with
    | plain hquote _ hprintable h => exact ⟨⟨hquote, hprintable⟩, h⟩
    | short => exact absurd rfl hc
    | hex => exact absurd rfl hc
  · rintro ⟨⟨hquote, hprintable⟩, h⟩
    exact .plain hquote hc hprintable h

theorem body_escape {c : Char} {t : List Char} :
    Body ('\\' :: c :: t) ↔ (c ∈ escapeLetters ∧ Body t) ∨ (c = 'u' ∧ Then (Hexes 4) Body t) := by
  constructor
  · intro h
    cases h with
    | plain _ hslash => exact absurd rfl hslash
    | short hc h => exact Or.inl ⟨hc, h⟩
    | hex hdigits h => exact Or.inr ⟨rfl, _, _, hdigits, h, rfl⟩
  · rintro (⟨hc, h⟩ | ⟨rfl, digits, cs, hdigits, h, rfl⟩)
    · exact .short hc h
    · exact .hex hdigits h

theorem not_body_slash : ¬ Body ['\\'] := by
  intro h
  cases h with
  | plain _ hslash => exact absurd rfl hslash

/-! ## Values -/

/-- Nothing but blanks. -/
abbrev Blanks : List Char → Prop := Run isBlank

/-- The values that are words. -/
def valueWords : List (List Char) :=
  [['n', 'u', 'l', 'l'], ['t', 'r', 'u', 'e'], ['f', 'a', 'l', 's', 'e']]

def Bracket.opening : Bracket → Char
  | .list => '['
  | .object => '\x7b'

/-- The parts of a document that hold one another. -/
inductive Part where
  | value
  /-- Behind the opening bracket or a comma of a container, with its closing bracket. -/
  | contents (bracket : Bracket)
  /-- Behind a value in a container, with the closing bracket. -/
  | rest (bracket : Bracket)

/-- How the parts of a document are spelled. No blanks stand around a value here; they belong to the
container. -/
inductive Spells : Part → List Char → Prop where
  | word {cs : List Char} (h : cs ∈ valueWords) : Spells .value cs
  | number {cs : List Char} (h : IsNumber cs) : Spells .value cs
  | text {cs : List Char} (h : IsText cs) : Spells .value cs
  | empty (bracket : Bracket) {bs : List Char} (hbs : Blanks bs) :
      Spells .value (bracket.opening :: (bs ++ [bracket.closing]))
  | filled {bracket : Bracket} {cs : List Char} (h : Spells (.contents bracket) cs) :
      Spells .value (bracket.opening :: cs)
  | item {bs v t : List Char} (hbs : Blanks bs) (hv : Spells .value v)
      (ht : Spells (.rest .list) t) : Spells (.contents .list) (bs ++ (v ++ t))
  | member {bs key bs₁ bs₂ v t : List Char} (hbs : Blanks bs) (hkey : IsText key)
      (hbs₁ : Blanks bs₁) (hbs₂ : Blanks bs₂) (hv : Spells .value v)
      (ht : Spells (.rest .object) t) :
      Spells (.contents .object) (bs ++ (key ++ (bs₁ ++ ':' :: (bs₂ ++ (v ++ t)))))
  | close {bracket : Bracket} {bs : List Char} (hbs : Blanks bs) :
      Spells (.rest bracket) (bs ++ [bracket.closing])
  | more {bracket : Bracket} {bs cs : List Char} (hbs : Blanks bs)
      (h : Spells (.contents bracket) cs) : Spells (.rest bracket) (bs ++ ',' :: cs)

/-- The text is one JSON value, without blanks around it. -/
def Raw.IsJson (raw : Raw) : Prop := Spells .value raw.text.toList

theorem spells_list :
    Spells (.contents .list) = Then Blanks (Then (Spells .value) (Spells (.rest .list))) := by
  ext t
  constructor
  · intro h
    cases h with
    | item hbs hv ht => exact ⟨_, _, hbs, ⟨_, _, hv, ht, rfl⟩, rfl⟩
  · rintro ⟨_, _, hbs, ⟨_, _, hv, ht, rfl⟩, rfl⟩
    exact .item hbs hv ht

theorem spells_object :
    Spells (.contents .object) = Then Blanks (Then IsText (Then Blanks (After ':'
      (Then Blanks (Then (Spells .value) (Spells (.rest .object))))))) := by
  ext t
  constructor
  · intro h
    cases h with
    | member hbs hkey hbs₁ hbs₂ hv ht =>
      exact ⟨_, _, hbs, ⟨_, _, hkey, ⟨_, _, hbs₁, ⟨_, ⟨_, _, hbs₂, ⟨_, _, hv, ht, rfl⟩, rfl⟩, rfl⟩,
        rfl⟩, rfl⟩, rfl⟩
  · rintro ⟨_, _, hbs, ⟨_, _, hkey, ⟨_, _, hbs₁, ⟨_, ⟨_, _, hbs₂, ⟨_, _, hv, ht, rfl⟩, rfl⟩, rfl⟩,
      rfl⟩, rfl⟩, rfl⟩
    exact .member hbs hkey hbs₁ hbs₂ hv ht

theorem spells_rest {b : Bracket} :
    Spells (.rest b) =
      Then Blanks fun t => After b.closing (· = []) t ∨ After ',' (Spells (.contents b)) t := by
  ext t
  constructor
  · intro h
    cases h with
    | close hbs => exact ⟨_, _, hbs, Or.inl ⟨_, rfl, rfl⟩, rfl⟩
    | more hbs h => exact ⟨_, _, hbs, Or.inr ⟨_, h, rfl⟩, rfl⟩
  · rintro ⟨bs, _, hbs, ⟨_, rfl, rfl⟩ | ⟨_, h, rfl⟩, rfl⟩
    · exact .close hbs
    · exact .more hbs h

theorem spells_value {t : List Char} :
    Spells .value t ↔ t ∈ valueWords ∨ IsNumber t ∨ IsText t ∨
      ∃ b : Bracket,
        After b.opening
          (fun t => Then Blanks (After b.closing (· = [])) t ∨ Spells (.contents b) t) t := by
  constructor
  · intro h
    cases h with
    | word h => exact Or.inl h
    | number h => exact Or.inr (Or.inl h)
    | text h => exact Or.inr (Or.inr (Or.inl h))
    | empty b hbs =>
      exact Or.inr (Or.inr (Or.inr ⟨b, _, Or.inl ⟨_, _, hbs, ⟨_, rfl, rfl⟩, rfl⟩, rfl⟩))
    | filled h => exact Or.inr (Or.inr (Or.inr ⟨_, _, Or.inr h, rfl⟩))
  · rintro (h | h | h | ⟨b, _, ⟨bs, _, hbs, ⟨_, rfl, rfl⟩, rfl⟩ | h, rfl⟩)
    · exact .word h
    · exact .number h
    · exact .text h
    · exact .empty b hbs
    · exact .filled h

/-- A character that may stand behind a value. -/
def delimits (c : Char) : Bool := isBlank c || c = ',' || c = ']' || c = '\x7d'

/-- Nothing follows, or something that may stand behind a value. -/
def Delimited (rest : List Char) : Prop := ∀ c ∈ rest.head?, delimits c = true

theorem delimits_iff {c : Char} :
    delimits c = true ↔
      c = ' ' ∨ c = '\t' ∨ c = '\n' ∨ c = '\r' ∨ c = ',' ∨ c = ']' ∨ c = '\x7d' := by
  simp [delimits, isBlank, or_assoc]

end StreamGateway.Json
