import Mathlib.Data.List.DropRight
import StreamGateway.Proofs.Json.Records

/-! # What is printed is JSON

Every value prints as a JSON text, whatever numbers it holds. A number with a fraction is written
from its shortest decimal. The digits of a decimal do not start with a zero, unless it is zero; and
then it has no exponent (`proper_shortest`), so that it is written positionally. -/
namespace StreamGateway

open Json (Raw isDigit Run SomeRun Whole)

/-! ## Digits -/

theorem run_toDigits (n : Nat) : Run isDigit (Nat.toDigits 10 n) := by
  intro c hc
  have hdigit : c.isDigit = true := Nat.isDigit_of_mem_toDigits (by decide) (by decide) hc
  have hbounds : 48 ≤ c.val ∧ c.val ≤ 57 := by simpa [Char.isDigit] using hdigit
  simpa [isDigit, Char.le_def] using hbounds

theorem digitChar_ne_zero : ∀ n < 10, 0 < n → n.digitChar ≠ '0' := by decide

theorem toDigits_ne_nil (n : Nat) : Nat.toDigits 10 n ≠ [] :=
  List.ne_nil_of_length_pos Nat.length_toDigits_pos

theorem someRun_toDigits (n : Nat) : SomeRun isDigit (Nat.toDigits 10 n) :=
  ⟨toDigits_ne_nil n, run_toDigits n⟩

theorem head_toDigits {n : Nat} (hn : 0 < n) : (Nat.toDigits 10 n).head? ≠ some '0' := by
  induction n using Nat.strong_induction_on with
  | _ n ih =>
    rw [Nat.toDigits_eq_if (by decide)]
    split <;> rename_i hlt
    · simpa using digitChar_ne_zero n hlt hn
    · have hfront : (Nat.toDigits 10 (n / 10)).head? ≠ some '0' := ih (n / 10) (by omega) (by omega)
      rwa [List.head?_append_of_ne_nil _ (toDigits_ne_nil _)]

theorem whole_toDigits (n : Nat) : Whole (Nat.toDigits 10 n) := by
  rcases Nat.eq_zero_or_pos n with rfl | hn
  · exact Or.inl rfl
  · exact Or.inr ⟨someRun_toDigits n, head_toDigits hn⟩

/-! ## The shortest decimal -/

namespace Binary64

/-- A decimal that is zero has no exponent. -/
def Decimal.Proper (d : Decimal) : Prop := d.digits = 0 → d.exponent = 0

/-- Zero lies outside of what rounds to another number. -/
theorem onGrid?_pos {x : Binary64} {k : Int} {d : Decimal} (hx : x.significand ≠ 0)
    (h : x.onGrid? k = some d) : 0 < d.digits := by
  have hscale : 0 < Nat.pow 2 (x.exponent - 2).toNat * Nat.pow 10 (-k).toNat :=
    Nat.mul_pos (Nat.pow_pos (by decide)) (Nat.pow_pos (by decide))
  unfold onGrid? at h
  dsimp only at h
  generalize Nat.pow 2 (x.exponent - 2).toNat * Nat.pow 10 (-k).toNat = scale at h hscale
  generalize Nat.pow 10 k.toNat * Nat.pow 2 (2 - x.exponent).toNat = step at h
  generalize hgap : (if x.significand = Nat.pow 2 52 ∧ -1074 < x.exponent then 1 else 2) = gap at h
  have hgap2 : gap ≤ 2 := by
    rw [← hgap]
    split <;> decide
  -- the interval starts above zero, so only the upper neighbour can be meant if the lower one is
  -- zero
  have hlow : 0 < (4 * x.significand - gap) * scale := Nat.mul_pos (by omega) hscale
  rcases Nat.eq_zero_or_pos (4 * x.significand * scale / step) with hdown | hdown
  · simp only [hdown, Nat.zero_mul, hlow.not_ge, Nat.not_lt_zero, decide_false, Bool.false_and,
      ite_self] at h
    split at h
    · contradiction
    · contradiction
    · cases h
      exact Nat.one_pos
    · cases h
  · split at h
    · split at h <;> cases h
      · exact hdown
      · exact Nat.succ_pos _
    · cases h
      exact hdown
    · cases h
      exact Nat.succ_pos _
    · cases h

theorem shortestFrom_pos {x : Binary64} {lead : Int} {n fuel : Nat} {d : Decimal}
    (hx : x.significand ≠ 0) (h : shortestFrom x lead n fuel = some d) : 0 < d.digits := by
  induction fuel generalizing n with
  | zero => cases h
  | succ fuel ih =>
    rw [shortestFrom] at h
    split at h
    · rename_i hgrid
      cases h
      exact onGrid?_pos hx hgrid
    · exact ih h

theorem proper_shortest (x : Binary64) : x.shortest.Proper := by
  rw [shortest]
  split
  · intro _
    rfl
  · rename_i hx
    cases h : shortestFrom x (leadingDigit x.num x.den) 1 17 with
    | none =>
      intro _
      rfl
    | some d =>
      have hpos : 0 < d.digits := shortestFrom_pos hx h
      intro hzero
      exact absurd hzero hpos.ne'

theorem significantDigits_front (d : Decimal) :
    significantDigits d <+: Nat.toDigits 10 d.digits := List.rdropWhile_prefix _ _

theorem run_significantDigits (d : Decimal) : Run isDigit (significantDigits d) :=
  fun c hc => run_toDigits _ c ((significantDigits_front d).subset hc)

theorem significantDigits_zero {d : Decimal} (h : d.digits = 0) : significantDigits d = [] := by
  rw [significantDigits, h]
  decide

/-- The first digit stays when the zeros at the end are dropped. -/
theorem significantDigits_pos {d : Decimal} (h : 0 < d.digits) :
    ∃ c cs, significantDigits d = c :: cs ∧ c ≠ '0' := by
  obtain ⟨c, cs, hds⟩ := List.exists_cons_of_ne_nil (toDigits_ne_nil d.digits)
  have hc : c ≠ '0' := by simpa [hds] using head_toDigits h
  have hne : significantDigits d ≠ [] := by
    rw [significantDigits, hds]
    intro hnil
    have hall := List.rdropWhile_eq_nil_iff.mp hnil
    exact hc (by simpa using hall c List.mem_cons_self)
  obtain ⟨c', cs', hcons⟩ := List.exists_cons_of_ne_nil hne
  obtain ⟨rest, hrest⟩ := significantDigits_front d
  rw [hcons, hds] at hrest
  exact ⟨c', cs', hcons, (List.cons.inj hrest).1 ▸ hc⟩

end Binary64

namespace Json

/-! ## Numbers -/

theorem Run.append {p : Char → Bool} {t u : List Char} (ht : Run p t) (hu : Run p u) :
    Run p (t ++ u) := by
  intro c hc
  rcases List.mem_append.mp hc with hc | hc
  · exact ht c hc
  · exact hu c hc

theorem Run.sublist {p : Char → Bool} {t u : List Char} (ht : Run p t) (hu : u.Sublist t) :
    Run p u :=
  fun c hc => ht c (hu.subset hc)

theorem run_zeros (n : Nat) : Run isDigit (List.replicate n '0') := by
  intro c hc
  rw [List.eq_of_mem_replicate hc]
  rfl

/-- A number without a sign. -/
def IsSize : List Char → Prop := Then Whole (Then Fraction Exponent)

theorem IsSize.signed {t : List Char} (h : IsSize t) : IsNumber ('-' :: t) :=
  ⟨['-'], t, Or.inr rfl, h, rfl⟩

theorem IsSize.unsigned {t : List Char} (h : IsSize t) : IsNumber t := ⟨[], t, Or.inl rfl, h, rfl⟩

theorem isSize_whole {t : List Char} (ht : Whole t) : IsSize t :=
  ⟨t, [], ht, by simp, by simp⟩

theorem isSize_point {t u : List Char} (ht : Whole t) (hu : SomeRun isDigit u) :
    IsSize (t ++ '.' :: u) :=
  ⟨t, _, ht, ⟨'.' :: u, [], fraction_cons.mpr ⟨rfl, hu⟩, exponent_nil, by simp⟩, rfl⟩

theorem isSize_scaled {t u : List Char} {sign : Char} {n : Nat} (ht : Whole t) (hu : Fraction u)
    (hsign : sign = '+' ∨ sign = '-') : IsSize (t ++ u ++ 'e' :: sign :: Nat.toDigits 10 n) := by
  have hscale : Scale (sign :: Nat.toDigits 10 n) :=
    scale_cons.mpr (Or.inl ⟨hsign, someRun_toDigits n⟩)
  exact ⟨t, _, ht, ⟨u, _, hu, exponent_cons.mpr ⟨Or.inl rfl, hscale⟩, rfl⟩, by simp⟩

theorem isSize_sizeText (x : Binary64) : IsSize x.sizeText := by
  have hzeros : IsSize ['0', '.', '0'] := isSize_point (t := ['0']) (Or.inl rfl) (by simp [isDigit])
  rw [Binary64.sizeText]
  split
  · exact hzeros
  dsimp only
  rcases Nat.eq_zero_or_pos x.shortest.digits with hzero | hpos
  · have hexponent : x.shortest.exponent = 0 := x.proper_shortest hzero
    rw [hexponent, hzero, Binary64.significantDigits_zero hzero]
    exact hzeros
  · obtain ⟨c, cs, hds, hc⟩ := Binary64.significantDigits_pos hpos
    have hrun := Binary64.run_significantDigits x.shortest
    rw [hds] at hrun ⊢
    obtain ⟨hdigit, hcs⟩ := run_cons.mp hrun
    split
    · refine isSize_point ?_ ?_
      · refine whole_cons.mpr (Or.inr ⟨⟨hdigit, hc⟩, ?_⟩)
        exact (hcs.sublist (List.take_sublist _ _)).append (run_zeros _)
      · split <;> rename_i hbehind
        · simp [isDigit]
        · exact ⟨by simpa using hbehind, hrun.sublist (List.drop_sublist _ _)⟩
    · split
      · exact isSize_point (t := ['0']) (Or.inl rfl) ⟨by simp, (run_zeros _).append hrun⟩
      · refine isSize_scaled (t := [c]) ?_ ?_ ?_
        · exact whole_cons.mpr (Or.inr ⟨⟨hdigit, hc⟩, run_nil⟩)
        · rw [List.drop_succ_cons, List.drop_zero]
          split <;> rename_i hmore
          · exact fraction_nil
          · exact fraction_cons.mpr ⟨rfl, hmore, hcs⟩
        · split <;> simp

theorem isNumber_text (x : Binary64) : IsNumber x.text := by
  rw [Binary64.text]
  split
  · exact (isSize_sizeText x).signed
  · exact (isSize_sizeText x).unsigned

theorem isNumber_toString (n : Int) : IsNumber (toString n).toList := by
  cases n with
  | ofNat n =>
    have htext : (toString (Int.ofNat n)).toList = Nat.toDigits 10 n := by
      rw [show toString (Int.ofNat n) = n.repr from rfl, Nat.toList_repr]
    rw [htext]
    exact (isSize_whole (whole_toDigits n)).unsigned
  | negSucc n =>
    have htext : (toString (Int.negSucc n)).toList = '-' :: Nat.toDigits 10 (n + 1) := by
      rw [show toString (Int.negSucc n) = "-" ++ (n + 1).repr from rfl, String.toList_append,
        Nat.toList_repr]
      rfl
    rw [htext]
    exact (isSize_whole (whole_toDigits _)).signed

/-! ## Values -/

mutual

theorem spells_renderChars : ∀ v : Json, Spells .value v.renderChars
  | .null => .word (by decide)
  | .bool true => .word (by decide)
  | .bool false => .word (by decide)
  | .int n => by
    rw [renderChars]
    exact .number (isNumber_toString n)
  | .float x => by
    rw [renderChars]
    exact .number (isNumber_text x)
  | .str s => by
    rw [renderChars]
    exact .text (isText_renderString s)
  | .arr [] => .empty .list run_nil
  | .arr (v :: vs) => by
    rw [renderChars]
    exact .filled (.item run_nil (spells_renderChars v) (spells_renderItems vs))
  | .obj [] => .empty .object run_nil
  | .obj ((key, v) :: ms) => by
    rw [renderChars]
    exact .filled (.written (spells_renderChars v) (spells_renderMembers ms))

theorem spells_renderItems : ∀ vs : List Json, Spells (.rest .list) (renderItems vs)
  | [] => .close run_nil
  | v :: vs => by
    rw [renderItems]
    exact .more run_nil (.item run_nil (spells_renderChars v) (spells_renderItems vs))

theorem spells_renderMembers :
    ∀ ms : List (String × Json), Spells (.rest .object) (renderMembers ms)
  | [] => .close run_nil
  | (key, v) :: ms => by
    rw [renderMembers]
    exact .more run_nil (.written (spells_renderChars v) (spells_renderMembers ms))

end

/-- Every value prints as JSON. -/
theorem render_isJson (v : Json) : (⟨render v⟩ : Raw).IsJson := by
  rw [Raw.IsJson, render, String.toList_ofList]
  exact spells_renderChars v

end Json
end StreamGateway
