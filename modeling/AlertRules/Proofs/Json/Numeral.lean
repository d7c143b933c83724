import AlertRules.Proofs.Double.Shortest
import AlertRules.Proofs.Json.Lexing

/-!
# Texts of numbers

A number is written as digits, perhaps a fraction, and perhaps an exponent with a sign (`IsWhole`,
`IsFraction`, `IsExponent`). Whatever has this form is read to its end (`exists_scanNumeral`), and
the text of every double has it, since its digits do not begin with a zero
(`Double.exists_jsonText`).

> `Number.exists_token`: the text of a number is one token, which is a number; which one it is, and
> whether it is in range, is another question.
-/

namespace AlertRules

namespace Json

/-! ## Written numbers -/

/-- That a text is one or more digits. -/
def Digits (cs : List Char) : Prop := cs ≠ [] ∧ ∀ c ∈ cs, c.isDigit = true

/-- That no further digit follows. -/
def EndsDigits (rest : List Char) : Prop := ∀ c ∈ rest.head?, c.isDigit = false

theorem endsDigits_nil : EndsDigits [] := fun _ hc => nomatch hc

theorem takeWhile_digits {ds rest : List Char} (hds : Digits ds) (hrest : EndsDigits rest) :
    (ds ++ rest).takeWhile Char.isDigit = ds := by
  rw [List.takeWhile_append_of_pos hds.2]
  cases rest with
  | nil => exact List.append_nil ds
  | cons c rest =>
    rw [List.takeWhile_cons_of_neg (by rw [hrest c rfl]; exact Bool.false_ne_true), List.append_nil]

theorem dropWhile_digits {ds rest : List Char} (hds : Digits ds) (hrest : EndsDigits rest) :
    (ds ++ rest).dropWhile Char.isDigit = rest := by
  rw [List.dropWhile_append_of_pos hds.2]
  cases rest with
  | nil => rfl
  | cons c rest =>
    rw [List.dropWhile_cons_of_neg (by rw [hrest c rfl]; exact Bool.false_ne_true)]

/-- Digits before the point: the first is zero only if it stands alone. -/
def IsWhole (cs : List Char) : Prop := Digits cs ∧ (cs.head? = some '0' → cs = ['0'])

/-- Nothing, or a point and digits. -/
def IsFraction (cs : List Char) : Prop := cs = [] ∨ ∃ ds, Digits ds ∧ cs = '.' :: ds

/-- Nothing, or an exponent with a sign. -/
def IsExponent (cs : List Char) : Prop :=
  cs = [] ∨ ∃ sign ds, (sign = '-' ∨ sign = '+') ∧ Digits ds ∧ cs = 'e' :: sign :: ds

theorem exists_scanExponent {e : List Char} (he : IsExponent e) :
    ∃ x, scanExponent e = some (x, []) := by
  rcases he with rfl | ⟨sign, ds, hsign, hds, rfl⟩
  · exact ⟨none, rfl⟩
  · have htake := takeWhile_digits hds endsDigits_nil
    have hdrop := dropWhile_digits hds endsDigits_nil
    rw [List.append_nil] at htake hdrop
    rcases hsign with rfl | rfl
    · refine ⟨some (true, digitValues ds), ?_⟩
      show (if ds.takeWhile Char.isDigit = [] then none
        else some (some (true, digitValues (ds.takeWhile Char.isDigit)),
          ds.dropWhile Char.isDigit)) = _
      rw [htake, hdrop, if_neg hds.1]
    · refine ⟨some (false, digitValues ds), ?_⟩
      show (if ds.takeWhile Char.isDigit = [] then none
        else some (some (false, digitValues (ds.takeWhile Char.isDigit)),
          ds.dropWhile Char.isDigit)) = _
      rw [htake, hdrop, if_neg hds.1]

theorem endsDigits_of_isExponent {e : List Char} (he : IsExponent e) : EndsDigits e := by
  rcases he with rfl | ⟨sign, ds, -, -, rfl⟩
  · exact endsDigits_nil
  · intro c hc
    cases hc
    rfl

theorem exists_scanFraction {f e : List Char} (hf : IsFraction f) (he : IsExponent e) :
    ∃ x, scanFraction (f ++ e) = some (x, e) := by
  rcases hf with rfl | ⟨ds, hds, rfl⟩
  · refine ⟨none, ?_⟩
    rcases he with rfl | ⟨sign, ds, -, -, rfl⟩ <;> rfl
  · have hend := endsDigits_of_isExponent he
    refine ⟨some (digitValues ds), ?_⟩
    show (if (ds ++ e).takeWhile Char.isDigit = [] then none
      else some (some (digitValues ((ds ++ e).takeWhile Char.isDigit)),
        (ds ++ e).dropWhile Char.isDigit)) = _
    rw [takeWhile_digits hds hend, dropWhile_digits hds hend, if_neg hds.1]

theorem endsDigits_of_isFraction {f e : List Char} (hf : IsFraction f) (he : IsExponent e) :
    EndsDigits (f ++ e) := by
  rcases hf with rfl | ⟨ds, -, rfl⟩
  · exact endsDigits_of_isExponent he
  · intro c hc
    cases hc
    rfl

/-- **A written number is read to its end.** -/
theorem exists_scanNumeral (negative : Bool) {w f e : List Char} (hw : IsWhole w)
    (hf : IsFraction f) (he : IsExponent e) :
    ∃ n, scanNumeral negative (w ++ (f ++ e)) = some (n, []) := by
  have hend := endsDigits_of_isFraction hf he
  obtain ⟨fraction, hfraction⟩ := exists_scanFraction hf he
  obtain ⟨exponent, hexponent⟩ := exists_scanExponent he
  refine ⟨⟨negative, digitValues w, fraction, exponent⟩, ?_⟩
  unfold scanNumeral
  dsimp only
  rw [takeWhile_digits hw.1 hend, dropWhile_digits hw.1 hend, if_neg, hfraction,
    Option.bind_eq_bind, Option.bind_some, hexponent]
  · rfl
  · rintro (hnil | ⟨hhead, hne⟩)
    · exact hw.1.1 hnil
    · exact hne (hw.2 hhead)

end Json

namespace Double

open Json

variable {d : Double}

theorem toList_pointed (digits : String) (whole : Int) : (pointed digits whole).toList =
    if whole ≤ 0 then '0' :: '.' :: (List.replicate (-whole).toNat '0' ++ digits.toList)
    else if digits.toList.length ≤ whole.toNat then
      digits.toList ++ List.replicate (whole.toNat - digits.toList.length) '0'
    else digits.toList.take whole.toNat ++ '.' :: digits.toList.drop whole.toNat := by
  unfold pointed zeros
  rw [String.length_toList]
  split
  · simp
  · split
    · simp
    · simp

theorem digits_toDigits (m : Nat) : Digits (Nat.toDigits 10 m) :=
  ⟨Nat.toDigits_ne_nil, fun _ hc => Nat.isDigit_of_mem_toDigits (by decide) (by decide) hc⟩

theorem digits_append {ds es : List Char} (hds : Digits ds) (hes : ∀ c ∈ es, c.isDigit = true) :
    Digits (ds ++ es) := by
  refine ⟨fun hnil => hds.1 (List.append_eq_nil_iff.mp hnil).1, fun c hc => ?_⟩
  rcases List.mem_append.mp hc with hc | hc
  · exact hds.2 c hc
  · exact hes c hc

theorem isDigit_of_mem_zeros {n : Nat} : ∀ c ∈ List.replicate n '0', c.isDigit = true := by
  intro c hc
  rw [List.eq_of_mem_replicate hc]
  rfl

/-- Digits with a point after some of them, the first of which is not zero. -/
theorem exists_pointed {digits : String} (hdigits : Digits digits.toList)
    (hhead : digits.toList.head? ≠ some '0') (whole : Int) :
    ∃ w f, IsWhole w ∧ IsFraction f ∧
      (pointed digits whole ++ (if digits.length ≤ whole then ".0" else "")).toList = w ++ f := by
  have hlength : digits.toList.length = digits.length := String.length_toList
  have hpos : 0 < digits.toList.length := List.length_pos_iff.mpr hdigits.1
  rw [String.toList_append, toList_pointed]
  by_cases hwhole : whole ≤ 0
  · rw [if_pos hwhole, if_neg (by omega)]
    refine ⟨['0'], '.' :: (List.replicate (-whole).toNat '0' ++ digits.toList), ?_,
      .inr ⟨_, ?_, rfl⟩, ?_⟩
    · exact ⟨⟨by simp, by simp⟩, fun _ => rfl⟩
    · refine ⟨fun hnil => hdigits.1 (List.append_eq_nil_iff.mp hnil).2, fun c hc => ?_⟩
      rcases List.mem_append.mp hc with hc | hc
      · exact isDigit_of_mem_zeros c hc
      · exact hdigits.2 c hc
    · simp
  · rw [if_neg hwhole]
    by_cases hlong : digits.toList.length ≤ whole.toNat
    · rw [if_pos hlong, if_pos (by omega)]
      refine ⟨digits.toList ++ List.replicate (whole.toNat - digits.toList.length) '0',
        ['.', '0'], ?_, .inr ⟨['0'], ⟨by simp, by simp⟩, rfl⟩, rfl⟩
      refine ⟨digits_append hdigits isDigit_of_mem_zeros, fun hzero => ?_⟩
      rw [List.head?_append, List.head?_eq_some_head hdigits.1, Option.some_or,
        ← List.head?_eq_some_head hdigits.1] at hzero
      exact absurd hzero hhead
    · rw [if_neg hlong, if_neg (by omega)]
      refine ⟨digits.toList.take whole.toNat, '.' :: digits.toList.drop whole.toNat, ?_,
        .inr ⟨_, ?_, rfl⟩, by simp⟩
      · refine ⟨⟨fun hnil => ?_, fun c hc => hdigits.2 c (List.mem_of_mem_take hc)⟩,
          fun hzero => ?_⟩
        · rcases List.take_eq_nil_iff.mp hnil with hnone | hnone
          · omega
          · exact hdigits.1 hnone
        · rw [List.head?_take, if_neg (by omega)] at hzero
          exact absurd hzero hhead
      · refine ⟨fun hnil => ?_, fun c hc => hdigits.2 c (List.mem_of_mem_drop hc)⟩
        have hle := List.drop_eq_nil_iff.mp hnil
        omega

/-- **The text of a double is a written number.** -/
theorem exists_jsonText (d : Double) : ∃ w f e, IsWhole w ∧ IsFraction f ∧ IsExponent e ∧
    d.jsonText.toList = d.signText.toList ++ (w ++ (f ++ e)) := by
  unfold jsonText
  by_cases hd : d.magnitude = 0
  · rw [if_pos hd, String.toList_append]
    exact ⟨['0'], ['.', '0'], [], ⟨⟨by simp, by simp⟩, fun _ => rfl⟩,
      .inr ⟨['0'], ⟨by simp, by simp⟩, rfl⟩, .inl rfl, rfl⟩
  · have htext : (toString d.shortest.digits).toList = Nat.toDigits 10 d.shortest.digits :=
      Nat.toList_repr
    have hdigits : Digits (toString d.shortest.digits).toList := htext ▸ digits_toDigits _
    have hhead : (toString d.shortest.digits).toList.head? ≠ some '0' := by
      rw [htext]
      exact fun hzero => shortest_digits_ne_zero hd (toDigits_head_zero _ hzero)
    rw [if_neg hd]
    dsimp only
    generalize toString d.shortest.digits = digits at hdigits hhead
    generalize d.shortest.exponent + digits.length - 1 = first
    split
    next =>
      obtain ⟨w, f, hw, hf, hpointed⟩ := exists_pointed hdigits hhead (first + 1)
      refine ⟨w, f, [], hw, hf, .inl rfl, ?_⟩
      rw [String.append_assoc, String.toList_append, hpointed, List.append_nil]
    next =>
      have hmantissa : ∃ w f, IsWhole w ∧ IsFraction f ∧
          (if digits.length = 1 then digits else pointed digits 1).toList = w ++ f := by
        by_cases hone : digits.length = 1
        · rw [if_pos hone]
          exact ⟨digits.toList, [], ⟨hdigits, fun hzero => absurd hzero hhead⟩, .inl rfl,
            (List.append_nil _).symm⟩
        · rw [if_neg hone]
          obtain ⟨w, f, hw, hf, hpointed⟩ := exists_pointed hdigits hhead 1
          have hpos : 0 < digits.toList.length := List.length_pos_iff.mpr hdigits.1
          rw [String.length_toList] at hpos
          rw [if_neg (by omega), String.append_empty] at hpointed
          exact ⟨w, f, hw, hf, hpointed⟩
      obtain ⟨w, f, hw, hf, hmantissa⟩ := hmantissa
      refine ⟨w, f, 'e' :: (if first < 0 then '-' else '+') :: Nat.toDigits 10 first.natAbs, hw, hf,
        .inr ⟨_, _, ?_, digits_toDigits _, rfl⟩, ?_⟩
      · split
        · exact .inl rfl
        · exact .inr rfl
      · have hnat : (toString first.natAbs).toList = Nat.toDigits 10 first.natAbs := Nat.toList_repr
        rw [String.toList_append, String.toList_append, String.toList_append, String.toList_append,
          hmantissa, hnat]
        split <;> simp

end Double

namespace Json

/-- **The text of a number is one token**, and that is a number. -/
theorem Number.exists_token (n : Number) :
    ∃ m, firstToken? n.text.toList = some (.number m, []) := by
  cases n with
  | integer n => exact ⟨_, Number.readsBack_integer n⟩
  | double d =>
    obtain ⟨w, f, e, hw, hf, he, htext⟩ := d.exists_jsonText
    show ∃ m, firstToken? d.jsonText.toList = _
    rw [htext, Double.signText]
    cases d.negative with
    | true =>
      obtain ⟨numeral, hscan⟩ := exists_scanNumeral true hw hf he
      refine ⟨numeral.toNumber?, ?_⟩
      show firstToken? ('-' :: (w ++ (f ++ e))) = _
      rw [firstToken?_minus, hscan]
      rfl
    | false =>
      obtain ⟨numeral, hscan⟩ := exists_scanNumeral false hw hf he
      refine ⟨numeral.toNumber?, ?_⟩
      show firstToken? (w ++ (f ++ e)) = _
      -- What is left begins with a digit.
      cases w with
      | nil => exact absurd rfl hw.1.1
      | cons c w =>
        rw [List.cons_append] at hscan ⊢
        rw [firstToken?_digit (hw.1.2 c (List.mem_cons_self ..)), hscan]
        rfl

end Json

end AlertRules
