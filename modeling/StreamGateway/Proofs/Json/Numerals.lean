import Mathlib.Tactic.Positivity
import Mathlib.Tactic.Ring
import StreamGateway.Json.Numeral
import StreamGateway.Proofs.Json.Printing

/-! # What the text of a number says

A number with a fraction is written by its shortest decimal, and the reader makes of a decimal
whatever `Binary64.scaled?` makes of its digits and its exponent. In between lies the text, with its
zeros, its point and its exponent. Here the text is left out: the digits that are written always fit
into sixty-four bits (`written_digits_le`), so none is dropped, and reading the text comes to
scaling the decimal `Binary64.written` (`value_text`). -/
namespace StreamGateway

open Json (isDigit Run SomeRun Phase Numeral Problem)

/-! ## Digits -/

theorem le_ofDigitChars (ds : List Char) (a : Nat) : a ≤ Nat.ofDigitChars 10 ds a := by
  induction ds generalizing a with
  | nil => exact Nat.le_refl a
  | cons c ds ih =>
    rw [Nat.ofDigitChars_cons]
    exact Nat.le_trans (by omega) (ih _)

theorem ofDigitChars_lt {ds : List Char} (hds : Run isDigit ds) :
    Nat.ofDigitChars 10 ds 0 < 10 ^ ds.length := by
  induction ds with
  | nil => exact Nat.one_pos
  | cons c ds ih =>
    obtain ⟨hc, hds⟩ := Json.run_cons.mp hds
    have hdigit : c.toNat - '0'.toNat ≤ 9 := by
      have hbounds : '0' ≤ c ∧ c ≤ '9' := by simpa [isDigit] using hc
      have hnine : c.toNat ≤ '9'.toNat := hbounds.2
      have : '9'.toNat = 57 := rfl
      have : '0'.toNat = 48 := rfl
      omega
    have hrest := ih hds
    have hfirst := Nat.mul_le_mul_left (10 ^ ds.length) hdigit
    rw [Nat.ofDigitChars_cons, Nat.ofDigitChars_eq_ofDigitChars_zero, Nat.mul_zero, Nat.zero_add,
      List.length_cons, Nat.pow_succ]
    omega

namespace Binary64

/-! ## Seventeen digits -/

theorem digits_onGrid?_le {x : Binary64} {k : Int} {d : Decimal} (h : x.onGrid? k = some d) :
    d.digits ≤ 4 * x.significand * (2 ^ (x.exponent - 2).toNat * 10 ^ (-k).toNat) /
      (10 ^ k.toNat * 2 ^ (2 - x.exponent).toNat) + 1 := by
  unfold onGrid? at h
  dsimp only at h
  split at h
  · split at h <;> cases h
    · exact Nat.le_succ _
    · exact Nat.le_refl _
  · cases h
    exact Nat.le_succ _
  · cases h
    exact Nat.le_refl _
  · cases h

/-- The number lies below the power of ten behind its first digit. -/
theorem lt_of_leadingDigit (x : Binary64) (n : Nat) {k : Int}
    (hk : k = leadingDigit x.num x.den - n + 1) :
    4 * x.significand * (2 ^ (x.exponent - 2).toNat * 10 ^ (-k).toNat) <
      10 ^ n * (10 ^ k.toNat * 2 ^ (2 - x.exponent).toNat) := by
  rw [leadingDigit] at hk
  generalize hplaces : 400 = places at hk
  generalize hl : (Nat.toDigits 10 (x.num * Nat.pow 10 places / x.den)).length = l at hk
  have hbelow :
      x.significand * 2 ^ x.exponent.toNat * 10 ^ places < 10 ^ l * 2 ^ (-x.exponent).toNat := by
    have hdiv : x.num * 10 ^ places / x.den < 10 ^ l :=
      (Nat.length_toDigits_le_iff (by decide) (hl ▸ Nat.length_toDigits_pos)).mp (Nat.le_of_eq hl)
    have hden : 0 < x.den := Nat.pow_pos (by decide)
    exact (Nat.div_lt_iff_lt_mul hden).mp hdiv
  -- what the two sides are multiplied by, so that all powers are those of the number
  have htwo : 4 * 2 ^ (x.exponent - 2).toNat * 2 ^ (-x.exponent).toNat =
      2 ^ (2 - x.exponent).toNat * 2 ^ x.exponent.toNat := by
    rw [show 4 = 2 ^ 2 from rfl, ← Nat.pow_add, ← Nat.pow_add, ← Nat.pow_add]
    congr 1
    omega
  have hten : 10 ^ (-k).toNat * 10 ^ l = 10 ^ n * 10 ^ k.toNat * 10 ^ places := by
    rw [← Nat.pow_add, ← Nat.pow_add, ← Nat.pow_add]
    congr 1
    omega
  refine Nat.lt_of_mul_lt_mul_right (a := 2 ^ x.exponent.toNat * 10 ^ places) ?_
  calc
    4 * x.significand * (2 ^ (x.exponent - 2).toNat * 10 ^ (-k).toNat) *
          (2 ^ x.exponent.toNat * 10 ^ places)
      = x.significand * 2 ^ x.exponent.toNat * 10 ^ places *
          (4 * 2 ^ (x.exponent - 2).toNat * 10 ^ (-k).toNat) := by ring
    _ < 10 ^ l * 2 ^ (-x.exponent).toNat * (4 * 2 ^ (x.exponent - 2).toNat * 10 ^ (-k).toNat) := by
        refine Nat.mul_lt_mul_of_pos_right hbelow ?_
        positivity
    _ = 10 ^ (-k).toNat * 10 ^ l *
          (4 * 2 ^ (x.exponent - 2).toNat * 2 ^ (-x.exponent).toNat) := by ring
    _ = 10 ^ n * (10 ^ k.toNat * 2 ^ (2 - x.exponent).toNat) *
          (2 ^ x.exponent.toNat * 10 ^ places) := by
        rw [hten, htwo]
        ring

theorem digits_shortestFrom_le {x : Binary64} {n fuel : Nat} {d : Decimal}
    (h : shortestFrom x (leadingDigit x.num x.den) n fuel = some d) :
    d.digits ≤ 10 ^ (n + fuel) := by
  induction fuel generalizing n with
  | zero => cases h
  | succ fuel ih =>
    rw [shortestFrom] at h
    split at h
    · rename_i hgrid
      cases h
      calc d.digits ≤ _ + 1 := digits_onGrid?_le hgrid
        _ ≤ 10 ^ n := Nat.div_lt_of_lt_mul
          ((lt_of_leadingDigit x n rfl).trans_eq (Nat.mul_comm _ _))
        _ ≤ 10 ^ (n + (fuel + 1)) := Nat.pow_le_pow_right (by decide) (Nat.le_add_right _ _)
    · rw [Nat.add_succ, ← Nat.succ_add]
      exact ih h

theorem digits_shortest_le (x : Binary64) : x.shortest.digits ≤ 10 ^ 18 := by
  rw [shortest]
  split
  · exact Nat.zero_le _
  · cases h : shortestFrom x (leadingDigit x.num x.den) 1 17 with
    | none => exact Nat.zero_le _
    | some d => exact digits_shortestFrom_le h

/-! ## The decimal that is written -/

/-- The exponent of the first digit. -/
def firstPlace (x : Binary64) : Int :=
  x.shortest.exponent + (Nat.toDigits 10 x.shortest.digits).length - 1

/-- The decimal that the text of the number spells. Zeros at the end are left out, but a whole
number that is not too large has one behind its point. -/
def written (x : Binary64) : Decimal :=
  let ds := significantDigits x.shortest
  let lastPlace := x.firstPlace + 1 - ds.length
  if 0 ≤ lastPlace ∧ x.firstPlace ≤ 15 then
    ⟨Nat.ofDigitChars 10 ds 0 * 10 ^ (lastPlace + 1).toNat, -1⟩
  else ⟨Nat.ofDigitChars 10 ds 0, lastPlace⟩

theorem ofDigitChars_significantDigits_le (x : Binary64) :
    Nat.ofDigitChars 10 (significantDigits x.shortest) 0 ≤ Number.largest := by
  obtain ⟨rest, hrest⟩ := significantDigits_front x.shortest
  have hwhole := congrArg (Nat.ofDigitChars 10 · 0) hrest
  simp only [Nat.ofDigitChars_append, Nat.ofDigitChars_ten_toDigits] at hwhole
  calc _ ≤ x.shortest.digits := hwhole ▸ le_ofDigitChars rest _
    _ ≤ 10 ^ 18 := x.digits_shortest_le
    _ ≤ Number.largest := by decide

theorem written_digits_le (x : Binary64) : x.written.digits ≤ Number.largest := by
  rw [written]
  split
  · rename_i h
    have hlt := ofDigitChars_lt (run_significantDigits x.shortest)
    calc _ ≤ 10 ^ (significantDigits x.shortest).length *
          10 ^ (x.firstPlace + 1 - (significantDigits x.shortest).length + 1).toNat :=
          Nat.mul_le_mul_right _ hlt.le
      _ ≤ 10 ^ 17 := by
          rw [← Nat.pow_add]
          exact Nat.pow_le_pow_right (by decide) (by omega)
      _ ≤ Number.largest := by decide
  · exact x.ofDigitChars_significantDigits_le

end Binary64

/-! ## Reading -/

namespace Json.Numeral

/-- The numeral behind some more characters. -/
def through (n : Numeral) (phase : Phase) : List Char → Numeral
  | [] => n
  | c :: cs =>
    match phase.next c with
    | .go phase => (n.take phase c).through phase cs
    | _ => n

/-- Where two phases go on alike, it does not matter which of them it is. -/
theorem through_congr {phase phase' : Phase} {c : Char} (h : phase.next c = phase'.next c)
    (n : Numeral) (cs : List Char) : n.through phase (c :: cs) = n.through phase' (c :: cs) := by
  rw [through, through, h]

/-- The numeral that a text spells. -/
def ofText : List Char → Numeral
  | [] => {}
  | c :: cs =>
    match Phase.first? c with
    | some phase => (take {} phase c).through phase cs
    | none => {}

/-- A numeral without a sign is read as if it stood behind one. -/
theorem ofText_of_finishes {t : List Char} (ht : Phase.minus.Finishes t) :
    ofText t = through {} .minus t := by
  cases t with
  | nil => rfl
  | cons c t =>
    have haccepts := Phase.finishes_cons.mp ht
    have hc : c = '0' ∨ isDigit c = true := by
      by_contra hother
      rw [not_or] at hother
      rw [Phase.next, if_neg hother.1, if_neg hother.2] at haccepts
      exact Phase.Next.not_accepts_bad haccepts
    have hminus : c ≠ '-' := by
      rintro rfl
      exact absurd hc (by decide)
    rw [ofText, through, Phase.first?, Phase.next, if_neg hminus]
    by_cases hzero : c = '0'
    · rw [if_pos hzero, if_pos hzero]
    · have hdigit := hc.resolve_left hzero
      rw [if_neg hzero, if_neg hzero, if_pos hdigit, if_pos hdigit]

theorem take_whole {n : Numeral} (hfull : n.full = false) {c : Char}
    (hfits : 10 * n.leading + (c.toNat - '0'.toNat) ≤ Number.largest) :
    n.take .whole c = { n with leading := 10 * n.leading + (c.toNat - '0'.toNat) } := by
  rw [take, takeWhole, digitValue, Nat.mul_comm,
    if_neg (not_or.mpr ⟨by simp [hfull], hfits.not_gt⟩)]

theorem take_fraction {n : Numeral} (hfull : n.full = false) {c : Char}
    (hfits : 10 * n.leading + (c.toNat - '0'.toNat) ≤ Number.largest) :
    n.take .fraction c =
      { n with leading := 10 * n.leading + (c.toNat - '0'.toNat), shift := n.shift - 1 } := by
  rw [take, takeFraction, digitValue, Nat.mul_comm,
    if_neg (not_or.mpr ⟨by simp [hfull], hfits.not_gt⟩)]

/-- Digits of the whole part are taken in as long as they fit. -/
theorem through_whole {n : Numeral} (hfull : n.full = false) {ds : List Char} (hds : Run isDigit ds)
    (hfits : Nat.ofDigitChars 10 ds n.leading ≤ Number.largest) (rest : List Char) :
    n.through .whole (ds ++ rest) =
      through { n with leading := Nat.ofDigitChars 10 ds n.leading } .whole rest := by
  induction ds generalizing n with
  | nil => rfl
  | cons c ds ih =>
    obtain ⟨hc, hds⟩ := run_cons.mp hds
    rw [Nat.ofDigitChars_cons] at hfits ⊢
    have hnext : Phase.whole.next c = .go .whole := if_pos hc
    have hsmall := Nat.le_trans (le_ofDigitChars ds _) hfits
    rw [List.cons_append, through, hnext]
    dsimp only
    rw [take_whole hfull hsmall]
    exact ih (n := { n with leading := 10 * n.leading + (c.toNat - '0'.toNat) }) hfull hds hfits

/-- Digits of the fraction are taken in as long as they fit. -/
theorem through_fraction {n : Numeral} (hfull : n.full = false) {ds : List Char}
    (hds : Run isDigit ds) (hfits : Nat.ofDigitChars 10 ds n.leading ≤ Number.largest)
    (rest : List Char) :
    n.through .fraction (ds ++ rest) =
      through { n with leading := Nat.ofDigitChars 10 ds n.leading, shift := n.shift - ds.length }
        .fraction rest := by
  induction ds generalizing n with
  | nil => simp
  | cons c ds ih =>
    obtain ⟨hc, hds⟩ := run_cons.mp hds
    rw [Nat.ofDigitChars_cons] at hfits ⊢
    have hnext : Phase.fraction.next c = .go .fraction := if_pos hc
    have hsmall := Nat.le_trans (le_ofDigitChars ds _) hfits
    have hplaces : n.shift - (c :: ds).length = n.shift - 1 - ds.length := by
      rw [List.length_cons]
      omega
    rw [List.cons_append, through, hnext, hplaces]
    dsimp only
    rw [take_fraction hfull hsmall]
    exact ih (n := { n with
      leading := 10 * n.leading + (c.toNat - '0'.toNat), shift := n.shift - 1 }) hfull hds hfits

/-- A point with the digits behind it. -/
theorem through_point {n : Numeral} {phase : Phase} (hphase : phase = .zero ∨ phase = .whole)
    {ds : List Char} (hds : SomeRun isDigit ds)
    (hfits : Nat.ofDigitChars 10 ds n.leading ≤ Number.largest) (rest : List Char) :
    n.through phase ('.' :: (ds ++ rest)) =
      through { n with
        inexact := true, full := false, leading := Nat.ofDigitChars 10 ds n.leading
        shift := n.shift - ds.length } .fraction rest := by
  have hpoint : phase.next '.' = .go .point := by rcases hphase with rfl | rfl <;> rfl
  obtain ⟨hne, hrun⟩ := hds
  rw [through, hpoint]
  dsimp only [take]
  have hsame : through { n with inexact := true, full := false } .point (ds ++ rest) =
      through { n with inexact := true, full := false } .fraction (ds ++ rest) := by
    cases ds with
    | nil => exact absurd rfl hne
    | cons c ds =>
      have hc := (run_cons.mp hrun).1
      have hnext : Phase.point.next c = Phase.fraction.next c :=
        (if_pos hc).trans (if_pos hc).symm
      exact through_congr hnext _ _
  rw [hsame]
  exact through_fraction (n := { n with inexact := true, full := false }) rfl hrun hfits rest

theorem through_exponent (n : Numeral) {ds : List Char} (hds : Run isDigit ds) :
    n.through .exponent ds = { n with scale := Nat.ofDigitChars 10 ds n.scale } := by
  induction ds generalizing n with
  | nil => rfl
  | cons c ds ih =>
    obtain ⟨hc, hds⟩ := run_cons.mp hds
    have hnext : Phase.exponent.next c = .go .exponent := if_pos hc
    rw [through, hnext]
    dsimp only [take]
    rw [ih _ hds, Nat.ofDigitChars_cons, digitValue, Nat.mul_comm]

/-- An exponent with its sign. -/
theorem through_scale {n : Numeral} {phase : Phase} (hphase : phase = .whole ∨ phase = .fraction)
    {sign : Char} (hsign : sign = '+' ∨ sign = '-') {ds : List Char} (hds : SomeRun isDigit ds) :
    n.through phase ('e' :: sign :: ds) =
      { n with
        inexact := true, scaleNegative := decide (sign = '-')
        scale := Nat.ofDigitChars 10 ds n.scale } := by
  have hmark : phase.next 'e' = .go .mark := by rcases hphase with rfl | rfl <;> rfl
  have hnext : Phase.mark.next sign = .go .sign := if_pos hsign
  obtain ⟨hne, hrun⟩ := hds
  rw [through, hmark]
  dsimp only [take]
  rw [through, hnext]
  dsimp only [take]
  cases ds with
  | nil => exact absurd rfl hne
  | cons c ds =>
    have hc := (run_cons.mp hrun).1
    have hnext : Phase.sign.next c = Phase.exponent.next c := (if_pos hc).trans (if_pos hc).symm
    rw [through_congr hnext, through_exponent _ hrun]

/-- The numeral stands for a decimal with a sign, and not for a whole number. -/
structure Spells (n : Numeral) (negative : Bool) (d : Binary64.Decimal) : Prop where
  negative : n.negative = negative
  leading : n.leading = d.digits
  inexact : n.inexact = true
  exponent : (if n.scaleNegative then n.shift - n.scale else n.shift + n.scale) = d.exponent

theorem Spells.value {n : Numeral} {negative : Bool} {d : Binary64.Decimal}
    (h : n.Spells negative d) :
    n.value = (Binary64.scaled? d.digits d.exponent).elim (.error .outOfRange) fun x =>
      .ok (.float (x.signed negative)) := by
  rw [Numeral.value, if_pos h.inexact, toFloat]
  simp only [h.exponent, h.leading, h.negative]
  cases Binary64.scaled? d.digits d.exponent <;> rfl

/-- A whole part that does not start with a zero. -/
theorem through_minus_eq {n : Numeral} {c : Char} (hzero : c ≠ '0') {ws : List Char}
    (hws : Run isDigit (c :: ws)) (rest : List Char) :
    n.through .minus (c :: ws ++ rest) = n.through .whole (c :: ws ++ rest) := by
  have hc := (run_cons.mp hws).1
  have hnext : Phase.minus.next c = .go .whole := (if_neg hzero).trans (if_pos hc)
  exact through_congr (hnext.trans (if_pos hc).symm) _ _

/-- Digits, the first of which is not zero, and a fraction. -/
theorem through_minus (negative : Bool) {c : Char} (hzero : c ≠ '0') {ws fs : List Char}
    (hws : Run isDigit (c :: ws)) (hfs : SomeRun isDigit fs)
    (hfits : Nat.ofDigitChars 10 (c :: ws ++ fs) 0 ≤ Number.largest) (rest : List Char) :
    through { negative } .minus (c :: ws ++ '.' :: (fs ++ rest)) =
      through
        { negative, leading := Nat.ofDigitChars 10 (c :: ws ++ fs) 0, shift := -fs.length
          inexact := true } .fraction rest := by
  rw [Nat.ofDigitChars_append] at hfits ⊢
  rw [through_minus_eq hzero hws, through_whole rfl hws (Nat.le_trans (le_ofDigitChars fs _) hfits)]
  rw [through_point (.inr rfl) hfs hfits]
  simp

end Json.Numeral

namespace Binary64

open Json.Numeral (ofText ofText_of_finishes through through_minus through_minus_eq through_whole
  through_point through_scale Spells)

theorem written_of_zero {x : Binary64} (h : x.shortest.digits = 0) : x.written = ⟨0, -1⟩ := by
  have hexponent := x.proper_shortest h
  simp [written, firstPlace, h, hexponent, significantDigits_zero h]

theorem sizeText_of_zero {x : Binary64} (h : x.shortest.digits = 0) :
    x.sizeText = ['0', '.', '0'] := by
  have hexponent := x.proper_shortest h
  rw [sizeText]
  split
  · rfl
  · simp [h, hexponent, significantDigits_zero h]

variable {x : Binary64} {c : Char} {ws fs : List Char}

/-- A text with a point and without an exponent. -/
theorem spells_point (negative : Bool) (hc : c ≠ '0') (hws : Run isDigit (c :: ws))
    (hfs : SomeRun isDigit fs)
    (hwritten : x.written = ⟨Nat.ofDigitChars 10 (c :: ws ++ fs) 0, -fs.length⟩) :
    (through { negative } .minus (c :: ws ++ '.' :: fs)).Spells negative x.written := by
  have hfits := hwritten ▸ x.written_digits_le
  have hread := through_minus negative hc hws hfs hfits []
  rw [List.append_nil] at hread
  rw [hread, hwritten]
  exact ⟨rfl, rfl, rfl, by simp [through]⟩

/-- A text that begins with zero. -/
theorem spells_zero_point (negative : Bool) (hfs : SomeRun isDigit fs)
    (hwritten : x.written = ⟨Nat.ofDigitChars 10 fs 0, -fs.length⟩) :
    (through { negative } .minus ('0' :: '.' :: fs)).Spells negative x.written := by
  have hfits := hwritten ▸ x.written_digits_le
  have hstart : through { negative } .minus ('0' :: '.' :: fs) =
      through { negative } .zero ('.' :: fs) := rfl
  have hread := through_point (n := { negative }) (.inl rfl) hfs hfits []
  rw [List.append_nil] at hread
  rw [hstart, hread, hwritten]
  exact ⟨rfl, rfl, rfl, by simp [through]⟩

/-- A text with an exponent. -/
theorem spells_scaled (negative : Bool) (hc : c ≠ '0') (hcs : Run isDigit (c :: fs)) {scale : Int}
    (hwritten : x.written = ⟨Nat.ofDigitChars 10 (c :: fs) 0, scale - fs.length⟩) :
    (through { negative } .minus
      (c :: ((if fs.isEmpty then [] else '.' :: fs) ++
        'e' :: (if scale < 0 then '-' else '+') :: Nat.toDigits 10 scale.natAbs))).Spells
      negative x.written := by
  have hfits := hwritten ▸ x.written_digits_le
  have hsign : (if scale < 0 then '-' else '+') = '+' ∨ (if scale < 0 then '-' else '+') = '-' := by
    split <;> simp
  -- whatever stands before it, the exponent is added to it
  have hscale {phase : Phase} (hphase : phase = .whole ∨ phase = .fraction) :
      (through
        { negative, leading := Nat.ofDigitChars 10 (c :: fs) 0, shift := -fs.length
          inexact := true } phase
        ('e' :: (if scale < 0 then '-' else '+') :: Nat.toDigits 10 scale.natAbs)).Spells
      negative x.written := by
    rw [through_scale hphase hsign (someRun_toDigits _), hwritten]
    refine ⟨rfl, rfl, rfl, ?_⟩
    rw [Nat.ofDigitChars_ten_toDigits]
    by_cases h : scale < 0
    · simp only [h]
      show -(fs.length : Int) - (scale.natAbs : Int) = scale - fs.length
      omega
    · simp only [h]
      show -(fs.length : Int) + (scale.natAbs : Int) = scale - fs.length
      omega
  cases fs with
  | nil =>
    have hmark := hscale (.inl rfl)
    rw [through_scale (.inl rfl) hsign (someRun_toDigits _)] at hmark
    rw [List.isEmpty_nil, if_pos rfl, List.nil_append, ← List.singleton_append,
      through_minus_eq hc hcs, through_whole rfl hcs hfits,
      through_scale (.inl rfl) hsign (someRun_toDigits _)]
    exact hmark
  | cons d fs =>
    have hfs : SomeRun isDigit (d :: fs) := ⟨by simp, (Json.run_cons.mp hcs).2⟩
    have hc' : Run isDigit [c] := by simpa using (Json.run_cons.mp hcs).1
    have hread := through_minus negative hc hc' hfs hfits
      ('e' :: (if scale < 0 then '-' else '+') :: Nat.toDigits 10 scale.natAbs)
    rw [List.isEmpty_cons, if_neg (by decide), List.cons_append]
    exact hread ▸ hscale (.inr rfl)

/-- A text with a point, which may stand among the digits or behind all of them. -/
theorem spells_positional (negative : Bool) (hc : c ≠ '0') (hrun : Run isDigit (c :: fs))
    (place : Nat)
    (hwritten : x.written =
      if fs.length ≤ place then
        ⟨Nat.ofDigitChars 10 (c :: fs) 0 * 10 ^ (place - fs.length + 1), -1⟩
      else ⟨Nat.ofDigitChars 10 (c :: fs) 0, place - fs.length⟩) :
    (through { negative } .minus
      ((c :: fs).take (place + 1) ++ List.replicate (place + 1 - (c :: fs).length) '0' ++
        '.' :: if ((c :: fs).drop (place + 1)).isEmpty then ['0']
          else (c :: fs).drop (place + 1))).Spells negative x.written := by
  rw [List.take_succ_cons, List.drop_succ_cons, List.length_cons, Nat.add_sub_add_right]
  by_cases hwhole : fs.length ≤ place
  · have hdigits : c :: (fs ++ List.replicate (place - fs.length) '0') ++ ['0'] =
        c :: fs ++ List.replicate (place - fs.length + 1) '0' := by
      simp [List.replicate_succ']
    rw [if_pos hwhole] at hwritten
    rw [List.take_of_length_le hwhole, List.drop_eq_nil_of_le hwhole, List.isEmpty_nil, if_pos rfl,
      List.cons_append]
    refine spells_point negative hc (hrun.append (Json.run_zeros _)) (by simp [isDigit]) ?_
    rw [hwritten, hdigits, Nat.ofDigitChars_append, Nat.ofDigitChars_replicate_zero, Nat.mul_comm]
    rfl
  · have hfraction : (fs.drop place).isEmpty = false := by simpa using hwhole
    have hdigits : c :: fs.take place ++ fs.drop place = c :: fs := by
      rw [List.cons_append, List.take_append_drop]
    have hbehind : Run isDigit (fs.drop place) :=
      (Json.run_cons.mp hrun).2.sublist (List.drop_sublist _ _)
    rw [if_neg hwhole] at hwritten
    rw [hfraction, if_neg (by simp), Nat.sub_eq_zero_of_le (by omega), List.replicate_zero,
      List.append_nil]
    refine spells_point negative hc (hrun.sublist ((List.take_sublist _ _).cons_cons c))
      ⟨by simpa using hwhole, hbehind⟩ ?_
    rw [hwritten, hdigits, List.length_drop, Decimal.mk.injEq]
    exact ⟨rfl, by omega⟩

theorem written_eq (hfs : significantDigits x.shortest = c :: fs) :
    x.written =
      if fs.length ≤ x.firstPlace ∧ x.firstPlace ≤ 15 then
        ⟨Nat.ofDigitChars 10 (c :: fs) 0 * 10 ^ (x.firstPlace - fs.length + 1).toNat, -1⟩
      else ⟨Nat.ofDigitChars 10 (c :: fs) 0, x.firstPlace - fs.length⟩ := by
  have hlast : x.firstPlace + 1 - ((fs.length + 1 : Nat) : Int) = x.firstPlace - fs.length := by
    omega
  rw [written, hfs, List.length_cons, hlast]
  simp only [Int.sub_nonneg]

/-- Reading the size of a number comes to the decimal that is written. -/
theorem spells_sizeText (x : Binary64) (negative : Bool) :
    (through { negative } .minus x.sizeText).Spells negative x.written := by
  rcases Nat.eq_zero_or_pos x.shortest.digits with hzero | hpos
  · rw [sizeText_of_zero hzero, written_of_zero hzero]
    exact ⟨rfl, rfl, rfl, rfl⟩
  have hx : x.significand ≠ 0 := fun h => by simp [shortest, h] at hpos
  obtain ⟨c, cs, hds, hc⟩ := significantDigits_pos hpos
  have hrun : Run isDigit (c :: cs) := hds ▸ run_significantDigits x.shortest
  have hwritten := written_eq hds
  rw [sizeText, if_neg hx]
  dsimp only
  rw [hds, show x.shortest.exponent + _ - 1 = x.firstPlace from rfl]
  generalize x.firstPlace = place at hwritten ⊢
  split
  · rename_i hplace
    obtain ⟨n, rfl⟩ := Int.eq_ofNat_of_zero_le hplace.1
    refine spells_positional negative hc hrun n (hwritten.trans ?_)
    by_cases hwhole : cs.length ≤ n
    · rw [if_pos ⟨by omega, hplace.2⟩, if_pos hwhole,
        show ((n : Int) - cs.length + 1).toNat = n - cs.length + 1 by omega]
    · rw [if_neg (by omega), if_neg hwhole]
  · rename_i hplace
    rw [if_neg (by omega)] at hwritten
    split
    · refine spells_zero_point negative ⟨by simp, (Json.run_zeros _).append hrun⟩ ?_
      rw [hwritten, Nat.ofDigitChars_append, Nat.ofDigitChars_replicate_zero, Nat.mul_zero]
      simp only [List.length_append, List.length_replicate, List.length_cons, Decimal.mk.injEq,
        true_and]
      omega
    · have hscaled := spells_scaled negative hc hrun hwritten
      cases cs with
      | nil => exact hscaled
      | cons d ds => exact hscaled

/-- What the reader makes of the decimal that a number is written as. -/
def reread? (x : Binary64) : Option Binary64 :=
  (scaled? x.written.digits x.written.exponent).map (signed x.negative)

theorem ofText_text (x : Binary64) :
    ofText x.text = through { negative := x.negative } .minus x.sizeText := by
  rw [text]
  cases x.negative with
  | false => exact ofText_of_finishes (Json.isSize_sizeText x)
  | true => rfl

/-- The text of a number is read as the decimal that is written. -/
theorem value_text (x : Binary64) :
    (ofText x.text).value = x.reread?.elim (.error .outOfRange) fun y => .ok (.float y) := by
  rw [ofText_text, (x.spells_sizeText x.negative).value, reread?]
  cases scaled? x.written.digits x.written.exponent <;> rfl

end Binary64
end StreamGateway
