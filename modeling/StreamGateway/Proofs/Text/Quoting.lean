import Mathlib.Data.List.Forall2
import StreamGateway.Text.Quoted

/-! # A quotation names one text

How a text may stand between quotes is said here without the code that quotes it (`Quotes`): each
character stands for itself, or is spelled by a backslash and a letter, or by its number. Every text
has one quotation (`quotes_iff`), and no two texts have the same one (`Quotes.unique`), so a message
that quotes an id tells which id it is about. -/
namespace StreamGateway.Text

/-! ## Numbers -/

theorem digitChar_injOn {m n : Nat} (hm : m < 16) (hn : n < 16) (h : m.digitChar = n.digitChar) :
    m = n := by
  have hall : ∀ m < 16, ∀ n < 16, m.digitChar = n.digitChar → m = n := by decide
  exact hall m hm n hn h

/-- Different numbers have different numerals. -/
theorem toDigits_injective {m n : Nat} (h : Nat.toDigits 16 m = Nat.toDigits 16 n) : m = n := by
  induction m using Nat.strongRecOn generalizing n with
  | ind m ih =>
    have hlength (k : Nat) : 0 < (Nat.toDigits 16 k).length := Nat.length_toDigits_pos
    rw [Nat.toDigits_eq_if (b := 16) (n := m) (by decide), Nat.toDigits_eq_if (b := 16) (n := n)
      (by decide)] at h
    split_ifs at h with hm hn hn
    · exact digitChar_injOn hm hn (List.singleton_inj.mp h)
    · have hlong := congrArg List.length h
      have hfront := hlength (n / 16)
      simp only [List.length_append, List.length_singleton] at hlong
      omega
    · have hlong := congrArg List.length h
      have hfront := hlength (m / 16)
      simp only [List.length_append, List.length_singleton] at hlong
      omega
    · obtain ⟨hfront, hlast⟩ := List.append_inj' h rfl
      have hdiv := ih (m / 16) (by omega) hfront
      have hmod := digitChar_injOn (Nat.mod_lt m (by decide)) (Nat.mod_lt n (by decide))
        (List.singleton_inj.mp hlast)
      omega

theorem brace_notMem_toDigits (n : Nat) : '\x7d' ∉ Nat.toDigits 16 n := by
  induction n using Nat.strongRecOn with
  | ind n ih =>
    rw [Nat.toDigits_eq_if (by decide)]
    split_ifs with hn
    · simp
    · simpa using ih (n / 16) (by omega)

/-- A numeral ends at the first brace. -/
theorem eq_of_append_brace {ds es r r' : List Char} (hds : '\x7d' ∉ ds) (hes : '\x7d' ∉ es)
    (h : ds ++ '\x7d' :: r = es ++ '\x7d' :: r') : ds = es ∧ r = r' := by
  rcases List.append_eq_append_iff.mp h with ⟨m, rfl, hm⟩ | ⟨m, rfl, hm⟩
  · cases m with
    | nil => exact ⟨(List.append_nil ds).symm, (List.cons.inj hm).2⟩
    | cons c m =>
      obtain rfl := (List.cons.inj hm).1
      exact absurd (by simp) hes
  · cases m with
    | nil => exact ⟨List.append_nil es, (List.cons.inj hm).2.symm⟩
    | cons c m =>
      obtain rfl := (List.cons.inj hm).1
      exact absurd (by simp) hds

/-! ## Characters -/

/-- The letters that stand for a character behind a backslash. -/
def escapes : List (Char × Char) :=
  [('"', '"'), ('\\', '\\'), ('t', '\t'), ('r', '\r'), ('n', '\n'), ('0', '\x00')]

/-- How a character is written between quotes. -/
inductive Written (c : Char) : List Char → Prop where
  | plain (hescape : c ∉ escapes.map Prod.snd) (hseen : isConcealed c = false) : Written c [c]
  | letter {letter : Char} (h : (letter, c) ∈ escapes) : Written c ['\\', letter]
  | number (hescape : c ∉ escapes.map Prod.snd) (hconcealed : isConcealed c = true) :
      Written c ('\\' :: 'u' :: '\x7b' :: (Nat.toDigits 16 c.toNat ++ ['\x7d']))

theorem quotedChar_of_letter {letter c : Char} (h : (letter, c) ∈ escapes) :
    quotedChar c = ['\\', letter] := by
  have hall : ∀ e ∈ escapes, quotedChar e.2 = ['\\', e.1] := by decide
  exact hall (letter, c) h

theorem quotedChar_of_notMem {c : Char} (h : c ∉ escapes.map Prod.snd) :
    quotedChar c =
      if isConcealed c then '\\' :: 'u' :: '\x7b' :: (Nat.toDigits 16 c.toNat ++ ['\x7d'])
      else [c] := by
  simp only [escapes, List.map_cons, List.map_nil, List.mem_cons, List.not_mem_nil,
    or_false, not_or] at h
  obtain ⟨hquote, hslash, htab, hreturn, hline, hzero⟩ := h
  rw [quotedChar, if_neg hquote, if_neg hslash, if_neg htab, if_neg hreturn,
    if_neg hline, if_neg hzero]
  rfl

theorem written_iff {c : Char} {cs : List Char} : Written c cs ↔ cs = quotedChar c := by
  constructor
  · rintro (⟨hescape, hseen⟩ | hletter | ⟨hescape, hconcealed⟩)
    · rw [quotedChar_of_notMem hescape, hseen]
      rfl
    · exact (quotedChar_of_letter hletter).symm
    · rw [quotedChar_of_notMem hescape, hconcealed]
      rfl
  · rintro rfl
    by_cases hescape : c ∈ escapes.map Prod.snd
    · obtain ⟨⟨letter, _⟩, hmem, rfl⟩ := List.mem_map.mp hescape
      rw [quotedChar_of_letter hmem]
      exact .letter hmem
    · rw [quotedChar_of_notMem hescape]
      split_ifs with hconcealed
      · exact .number hescape hconcealed
      · exact .plain hescape (Bool.eq_false_iff.mpr hconcealed)

/-- Where one character is written, no other one is. -/
theorem Written.sole {c c' : Char} {cs cs' rest rest' : List Char} (h : Written c cs)
    (h' : Written c' cs') (heq : cs ++ rest = cs' ++ rest') : c = c' ∧ rest = rest' := by
  have hslash {x : Char} (hx : x ∉ escapes.map Prod.snd) : x ≠ '\\' := by
    rintro rfl
    exact hx (by decide)
  have hu {x : Char} : ('u', x) ∉ escapes := by simp [escapes]
  have hletters : ∀ e ∈ escapes, ∀ e' ∈ escapes, e.1 = e'.1 → e.2 = e'.2 := by decide
  cases h with
  | plain hescape hseen =>
    cases h' with
    | plain => exact List.cons_eq_cons.mp heq
    | letter | number => exact absurd (List.head_eq_of_cons_eq heq) (hslash hescape)
  | letter hmem =>
    cases h' with
    | plain hescape hseen => exact absurd (List.head_eq_of_cons_eq heq).symm (hslash hescape)
    | letter hmem' =>
      obtain ⟨hletter, hrest⟩ := List.cons_eq_cons.mp (List.tail_eq_of_cons_eq heq)
      exact ⟨hletters _ hmem _ hmem' hletter, hrest⟩
    | number =>
      obtain ⟨rfl, -⟩ := List.cons_eq_cons.mp (List.tail_eq_of_cons_eq heq)
      exact absurd hmem hu
  | number hescape hconcealed =>
    cases h' with
    | plain hescape' hseen' => exact absurd (List.head_eq_of_cons_eq heq).symm (hslash hescape')
    | letter hmem' =>
      obtain ⟨rfl, -⟩ := List.cons_eq_cons.mp (List.tail_eq_of_cons_eq heq)
      exact absurd hmem' hu
    | number =>
      simp only [List.cons_append, List.cons.injEq, true_and, List.append_assoc,
        List.nil_append] at heq
      obtain ⟨hdigits, hrest⟩ :=
        eq_of_append_brace (brace_notMem_toDigits _) (brace_notMem_toDigits _) heq
      exact ⟨Char.toNat_inj.mp (toDigits_injective hdigits), hrest⟩

/-! ## Texts -/

/-- The quotation is the text between double quotes. -/
def Quotes (quotation text : String) : Prop :=
  ∃ parts, List.Forall₂ Written text.toList parts ∧
    quotation.toList = '"' :: (parts.flatten ++ ['"'])

theorem quotes_iff {quotation text : String} : Quotes quotation text ↔ quotation = quoted text := by
  have hwritten : Written = fun c t => quotedChar c = t :=
    funext fun c => funext fun t => propext (written_iff.trans eq_comm)
  have hparts (parts : List (List Char)) :
      List.Forall₂ Written text.toList parts ↔ text.toList.map quotedChar = parts := by
    rw [hwritten, ← List.forall₂_map_left_iff, List.forall₂_eq_eq_eq]
  rw [Quotes, quoted, ← String.toList_inj, String.toList_ofList, List.flatMap_def]
  constructor
  · rintro ⟨parts, hall, hquotation⟩
    rw [hquotation, (hparts parts).mp hall]
  · intro hquotation
    exact ⟨_, (hparts _).mpr rfl, hquotation⟩

/-- What stands between the quotes is read character by character. -/
theorem Written.all_unique {cs cs' : List Char} {parts parts' : List (List Char)}
    (h : List.Forall₂ Written cs parts) (h' : List.Forall₂ Written cs' parts')
    (heq : parts.flatten ++ ['"'] = parts'.flatten ++ ['"']) : cs = cs' := by
  -- what is written does not begin with the quote that ends it
  have hopen {c : Char} {t rest : List Char} (hc : Written c t) : t ++ rest ≠ ['"'] := by
    cases hc with
    | plain hescape hseen =>
      intro hquote
      obtain rfl := List.head_eq_of_cons_eq hquote
      exact hescape (by decide)
    | letter | number => simp
  induction h generalizing cs' parts' with
  | nil =>
    cases h' with
    | nil => rfl
    | cons hc _ =>
      rw [List.flatten_cons, List.append_assoc] at heq
      exact absurd heq.symm (hopen hc)
  | cons hc _ ih =>
    cases h' with
    | nil =>
      rw [List.flatten_cons, List.append_assoc] at heq
      exact absurd heq (hopen hc)
    | cons hc' hrest' =>
      rw [List.flatten_cons, List.flatten_cons, List.append_assoc, List.append_assoc] at heq
      obtain ⟨rfl, hbehind⟩ := hc.sole hc' heq
      rw [ih hrest' hbehind]

/-- A quotation names one text. -/
theorem Quotes.unique {quotation text text' : String} (h : Quotes quotation text)
    (h' : Quotes quotation text') : text = text' := by
  obtain ⟨parts, hparts, hquotation⟩ := h
  obtain ⟨parts', hparts', hquotation'⟩ := h'
  have hbetween : parts.flatten ++ ['"'] = parts'.flatten ++ ['"'] :=
    List.tail_eq_of_cons_eq (hquotation.symm.trans hquotation')
  exact String.toList_injective (Written.all_unique hparts hparts' hbetween)

end StreamGateway.Text
