import AlertRules.Json.Document
import AlertRules.Json.Writing
import Mathlib.Data.List.TakeWhile

/-!
# Tokens of written texts

The text of a document splits into the tokens one would write down for it. What has to be shown is
about the two kinds of token whose texts vary.

* A quoted text: every character is written by `escapeChar` as one `Piece`, so `scanString` gives
  the pieces back one by one (`scanString_writeString`), and none of them is half of a surrogate
  pair (`charsOfPieces?_map_pieceOf`).
* A number: reading its text alone and reading it in front of a comma or a closing bracket give the
  same (`firstToken?_number_append`), because no numeral can go on with one of these.

Whether the text of a number stands for that number again is a property of the number,
`Number.ReadsBack`. Every integer has it; a double has it unless the two roundings of the reader
move it.

Main results: `firstToken?_writeString` and `firstToken?_number_append`; what they come to for a
whole document is in `Rereading`.
-/

namespace AlertRules.Json

/-! ## Quoted texts -/

/-- The piece that reading makes of a written character. -/
def pieceOf (c : Char) : Piece :=
  if c.toNat < 0x20 ∧ c.toNat ≠ 0x08 ∧ c.toNat ≠ 0x0c ∧ c ≠ '\n' ∧ c ≠ '\r' ∧ c ≠ '\t' then
    .unit c.toNat
  else .char c

theorem hexValue?_hexDigit : ∀ n : Nat, n < 16 → hexValue? (hexDigit n) = some n := by
  decide

/-- The numeric escape of a control character stands for it. -/
theorem hexUnit?_control {n : Nat} (hn : n < 0x20) :
    hexUnit? '0' '0' (hexDigit (n / 16)) (hexDigit (n % 16)) = some n := by
  have hzero : hexValue? '0' = some 0 := by decide
  rw [hexUnit?, hzero, hexValue?_hexDigit _ (by omega), hexValue?_hexDigit _ (by omega)]
  show some (((0 * 16 + 0) * 16 + n / 16) * 16 + n % 16) = some n
  congr 1
  omega

/-- A character that needs no escape is read as it stands. -/
theorem scanString_cons {c : Char} (hquote : c ≠ '"') (hback : c ≠ '\\') (hctl : ¬ c.toNat < 0x20)
    (rest : List Char) :
    scanString (c :: rest) = (scanString rest).map fun p => (.char c :: p.1, p.2) := by
  rw [scanString]
  · rw [if_neg (by simp [hctl, hback])]
    cases scanString rest <;> rfl
  · exact hquote
  all_goals
    intros
    exact hback ‹_›

/-- One written character is read as its piece. -/
theorem scanString_escapeChar (c : Char) (rest : List Char) :
    scanString (escapeChar c ++ rest) =
      (scanString rest).map fun p => (pieceOf c :: p.1, p.2) := by
  -- the two-letter escapes all read alike
  have hshort : ∀ e d : Char, e ≠ 'u' → shortEscape? e = some d →
      scanString ('\\' :: e :: rest) = (scanString rest).map fun p => (.char d :: p.1, p.2) := by
    intro e d hu hd
    rw [scanString.eq_4 _ _ (by rintro _ _ _ _ _ rfl; exact absurd rfl hu), hd]
    cases scanString rest <;> rfl
  by_cases h08 : c.toNat = 0x08
  · obtain rfl : c = Char.ofNat 0x08 := by rw [← h08, Char.ofNat_toNat]
    exact hshort 'b' _ (by decide) rfl
  by_cases h0c : c.toNat = 0x0c
  · obtain rfl : c = Char.ofNat 0x0c := by rw [← h0c, Char.ofNat_toNat]
    exact hshort 'f' _ (by decide) rfl
  by_cases hquote : c = '"'
  · subst hquote; exact hshort '"' _ (by decide) rfl
  by_cases hback : c = '\\'
  · subst hback; exact hshort '\\' _ (by decide) rfl
  by_cases hn : c = '\n'
  · subst hn; exact hshort 'n' _ (by decide) rfl
  by_cases hr : c = '\r'
  · subst hr; exact hshort 'r' _ (by decide) rfl
  by_cases ht : c = '\t'
  · subst ht; exact hshort 't' _ (by decide) rfl
  -- What is left has no short escape: a control character has a numeric one, the others none.
  by_cases hctl : c.toNat < 0x20
  · have hesc : escapeChar c =
        ['\\', 'u', '0', '0', hexDigit (c.toNat / 16), hexDigit (c.toNat % 16)] := by
      simp [escapeChar, h08, h0c, hquote, hback, hn, hr, ht, hctl]
    have hpiece : pieceOf c = .unit c.toNat := by
      simp [pieceOf, h08, h0c, hn, hr, ht, hctl]
    rw [hesc, hpiece]
    show scanString ('\\' :: 'u' :: '0' :: '0' :: _ :: _ :: rest) = _
    rw [scanString, hexUnit?_control hctl]
    cases scanString rest <;> rfl
  · have hesc : escapeChar c = [c] := by
      simp [escapeChar, h08, h0c, hquote, hback, hn, hr, ht, hctl]
    have hpiece : pieceOf c = .char c := by simp [pieceOf, hctl]
    rw [hesc, hpiece]
    exact scanString_cons hquote hback hctl rest

/-- A written text is read up to its closing quotation mark. -/
theorem scanString_writeString (cs rest : List Char) :
    scanString (cs.flatMap escapeChar ++ '"' :: rest) = some (cs.map pieceOf, rest) := by
  induction cs with
  | nil => rfl
  | cons c cs ih =>
    rw [List.flatMap_cons, List.append_assoc, scanString_escapeChar, ih]
    rfl

/-- A unit below the surrogates stands for its character, whatever follows. -/
theorem charsOfPieces?_unit {a : Nat} (ha : a < 0xd800) (pieces : List Piece) :
    charsOfPieces? (.unit a :: pieces) = (charsOfPieces? pieces).map (Char.ofNat a :: ·) := by
  have hhigh : isHighHalf a = false := by simp [isHighHalf]; omega
  have hlow : isLowHalf a = false := by simp [isLowHalf]; omega
  match pieces with
  | [] => simp [charsOfPieces?, hhigh, hlow]
  | .unit b :: rest => simp [charsOfPieces?, hhigh, hlow]
  | .char c :: rest =>
    simp only [charsOfPieces?, hhigh, hlow, Bool.false_eq_true, or_self, if_false, Option.map_map]
    rfl

/-- The pieces of a written text give it back. -/
theorem charsOfPieces?_map_pieceOf (cs : List Char) :
    charsOfPieces? (cs.map pieceOf) = some cs := by
  induction cs with
  | nil => rfl
  | cons c cs ih =>
    rw [List.map_cons]
    by_cases hctl : c.toNat < 0x20 ∧ c.toNat ≠ 0x08 ∧ c.toNat ≠ 0x0c ∧
        c ≠ '\n' ∧ c ≠ '\r' ∧ c ≠ '\t'
    · rw [pieceOf, if_pos hctl, charsOfPieces?_unit (by omega), ih, Char.ofNat_toNat]
      rfl
    · rw [pieceOf, if_neg hctl, charsOfPieces?, ih]
      rfl

theorem firstToken?_writeString (s : String) (rest : List Char) :
    firstToken? (writeString s ++ rest) = some (.string (some s), rest) := by
  have hcons : writeString s ++ rest = '"' :: (s.toList.flatMap escapeChar ++ '"' :: rest) := by
    simp [writeString]
  rw [hcons, firstToken?, scanString_writeString]
  show some (Token.string ((charsOfPieces? _).map String.ofList), rest) = _
  rw [charsOfPieces?_map_pieceOf, Option.map_some, String.ofList_toList]

/-! ## Numbers -/

/-- That a text ends here or goes on with what may follow a value: a comma or a closing bracket. -/
def Terminated (rest : List Char) : Prop :=
  ∀ c ∈ rest.head?, c = ',' ∨ c = ']' ∨ c = '\x7d'

theorem terminated_nil : Terminated [] := by
  intro c hc
  cases hc

theorem terminated_cons {c : Char} (hc : c = ',' ∨ c = ']' ∨ c = '\x7d') (rest : List Char) :
    Terminated (c :: rest) := by
  intro d hd
  cases hd
  exact hc

theorem Terminated.takeWhile_isDigit {rest : List Char} (h : Terminated rest) :
    rest.takeWhile Char.isDigit = [] := by
  cases rest with
  | nil => rfl
  | cons c rest =>
    rcases h c rfl with rfl | rfl | rfl <;> rfl

theorem Terminated.dropWhile_isDigit {rest : List Char} (h : Terminated rest) :
    rest.dropWhile Char.isDigit = rest := by
  cases rest with
  | nil => rfl
  | cons c rest =>
    rcases h c rfl with rfl | rfl | rfl <;> rfl

/-- The digits at the start of a text stay the same before a terminator, -/
theorem takeWhile_append_terminated (cs : List Char) {rest : List Char} (h : Terminated rest) :
    (cs ++ rest).takeWhile Char.isDigit = cs.takeWhile Char.isDigit := by
  induction cs with
  | nil => exact h.takeWhile_isDigit
  | cons c cs ih =>
    rw [List.cons_append, List.takeWhile_cons, List.takeWhile_cons, ih]

/-- and so does what follows them. -/
theorem dropWhile_append_terminated (cs : List Char) {rest : List Char} (h : Terminated rest) :
    (cs ++ rest).dropWhile Char.isDigit = cs.dropWhile Char.isDigit ++ rest := by
  induction cs with
  | nil => exact h.dropWhile_isDigit
  | cons c cs ih =>
    rw [List.cons_append, List.dropWhile_cons, List.dropWhile_cons]
    split
    next => exact ih
    next => rfl

theorem scanFraction_append {cs after rest : List Char} {f : Option (List Nat)}
    (h : scanFraction cs = some (f, after)) (hrest : Terminated rest) :
    scanFraction (cs ++ rest) = some (f, after ++ rest) := by
  unfold scanFraction at h ⊢
  split at h
  next digits =>
    show (if (digits ++ rest).takeWhile Char.isDigit = [] then none
      else some (some (digitValues ((digits ++ rest).takeWhile Char.isDigit)),
        (digits ++ rest).dropWhile Char.isDigit)) = _
    dsimp only at h
    rw [takeWhile_append_terminated _ hrest, dropWhile_append_terminated _ hrest]
    split at h
    next => cases h
    next hne =>
      cases h
      rw [if_neg hne]
  next hpoint =>
    cases h
    split
    next heq =>
      -- only a point at the start makes a fraction, and a terminator is none
      cases cs with
      | nil =>
        rw [List.nil_append] at heq
        subst heq
        rcases hrest '.' rfl with hc | hc | hc <;> exact absurd hc (by decide)
      | cons c cs => cases heq; exact absurd rfl (hpoint cs)
    next => rfl

theorem scanSign_append {cs : List Char} (hcs : cs ≠ []) (rest : List Char) :
    scanSign (cs ++ rest) = ((scanSign cs).1, (scanSign cs).2 ++ rest) := by
  cases cs with
  | nil => exact absurd rfl hcs
  | cons c cs =>
    rw [List.cons_append]
    unfold scanSign
    split
    next heq => cases heq; rfl
    next heq => cases heq; rfl
    next hminus hplus =>
      split
      next heq => cases heq; exact absurd rfl (hminus _)
      next heq => cases heq; exact absurd rfl (hplus _)
      next => rfl

theorem scanExponent_append {cs after rest : List Char} {e : Option (Bool × List Nat)}
    (h : scanExponent cs = some (e, after)) (hrest : Terminated rest) :
    scanExponent (cs ++ rest) = some (e, after ++ rest) := by
  cases cs with
  | nil =>
    cases h
    cases rest with
    | nil => rfl
    | cons c rest =>
      rcases hrest c rfl with rfl | rfl | rfl <;> rfl
  | cons c cs =>
    rw [List.cons_append]
    unfold scanExponent at h ⊢
    dsimp only at h ⊢
    split at h
    next he =>
      rw [if_pos he]
      -- An exponent has digits, so the text does not end behind its letter.
      have hcs : cs ≠ [] := by
        rintro rfl
        exact nomatch h
      rw [scanSign_append hcs]
      dsimp only
      rw [takeWhile_append_terminated _ hrest, dropWhile_append_terminated _ hrest]
      split at h
      next => cases h
      next hne =>
        cases h
        rw [if_neg hne]
    next he =>
      cases h
      rw [if_neg he]
      rfl

theorem scanNumeral_append {negative : Bool} {cs after rest : List Char} {numeral : Numeral}
    (h : scanNumeral negative cs = some (numeral, after)) (hrest : Terminated rest) :
    scanNumeral negative (cs ++ rest) = some (numeral, after ++ rest) := by
  unfold scanNumeral at h ⊢
  dsimp only at h ⊢
  rw [takeWhile_append_terminated _ hrest, dropWhile_append_terminated _ hrest]
  split at h
  next => cases h
  next hwhole =>
    rw [if_neg hwhole]
    cases hf : scanFraction (cs.dropWhile Char.isDigit) with
    | none => rw [hf] at h; cases h
    | some f =>
      obtain ⟨fraction, afterFraction⟩ := f
      rw [hf] at h
      rw [scanFraction_append hf hrest]
      cases he : scanExponent afterFraction with
      | none => simp [he] at h
      | some e =>
        obtain ⟨exponent, afterExponent⟩ := e
        simp only [he, Option.bind_eq_bind, Option.bind_some, Option.pure_def, Option.some.injEq,
          Prod.mk.injEq] at h
        simp only [scanExponent_append he hrest, Option.bind_eq_bind, Option.bind_some,
          Option.pure_def, Option.some.injEq, Prod.mk.injEq]
        exact ⟨h.1, by rw [h.2]⟩

/-- A digit starts a number without a sign. -/
theorem firstToken?_digit {c : Char} (hc : c.isDigit) (cs : List Char) :
    firstToken? (c :: cs) =
      (scanNumeral false (c :: cs)).map fun p => (.number p.1.toNumber?, p.2) := by
  unfold firstToken?
  split
  all_goals try (rename_i heq; cases heq; exact absurd hc (by decide))
  cases scanNumeral false (c :: cs) <;> rfl

theorem firstToken?_minus (cs : List Char) :
    firstToken? ('-' :: cs) =
      (scanNumeral true cs).map fun p => (.number p.1.toNumber?, p.2) := by
  rw [firstToken?]
  cases scanNumeral true cs <;> rfl

/-- A number starts with a digit or with a minus. -/
theorem head_of_firstToken?_number {cs rest : List Char} {n : Option Number}
    (h : firstToken? cs = some (.number n, rest)) :
    ∃ c tail, cs = c :: tail ∧ (c.isDigit ∨ c = '-') := by
  unfold firstToken? at h
  split at h
  all_goals try (cases h)
  next rest' =>
    cases hs : scanString rest' with
    | none => simp [hs] at h
    | some p => simp [hs] at h
  next rest' => exact ⟨'-', rest', rfl, Or.inr rfl⟩
  next =>
    cases cs with
    | nil => simp [scanNumeral] at h
    | cons c tail =>
      refine ⟨c, tail, rfl, Or.inl ?_⟩
      cases hc : c.isDigit with
      | true => rfl
      | false => simp [scanNumeral, hc] at h

/-- A number that is a whole text is the same number before a terminator. -/
theorem firstToken?_number_append {cs rest : List Char} {n : Option Number}
    (h : firstToken? cs = some (.number n, [])) (hrest : Terminated rest) :
    firstToken? (cs ++ rest) = some (.number n, rest) := by
  obtain ⟨c, tail, rfl, hdigit | rfl⟩ := head_of_firstToken?_number h
  · rw [firstToken?_digit hdigit] at h
    obtain ⟨⟨numeral, after⟩, hscan, heq⟩ := Option.map_eq_some_iff.mp h
    cases heq
    rw [List.cons_append, firstToken?_digit hdigit, ← List.cons_append,
      scanNumeral_append hscan hrest]
    rfl
  · rw [firstToken?_minus] at h
    obtain ⟨⟨numeral, after⟩, hscan, heq⟩ := Option.map_eq_some_iff.mp h
    cases heq
    rw [List.cons_append, firstToken?_minus, scanNumeral_append hscan hrest]
    rfl

/-- That a number survives being written and read: its text is one token, which stands for it. -/
def Number.ReadsBack (n : Number) : Prop :=
  firstToken? n.text.toList = some (.number (some n), [])

instance (n : Number) : Decidable n.ReadsBack :=
  inferInstanceAs (Decidable (firstToken? n.text.toList = some (.number (some n), [])))

/-- Only zero is written with a zero at its start. -/
theorem toDigits_head_zero : ∀ m : Nat, (Nat.toDigits 10 m).head? = some '0' → m = 0
  | m => by
    intro h
    rw [Nat.toDigits_eq_if (by decide)] at h
    split at h
    next hlt =>
      have hall : ∀ d : Nat, d < 10 → [Nat.digitChar d].head? = some '0' → d = 0 := by decide
      exact hall m hlt h
    -- All but the last digit come first, so they start with a zero too.
    next hge =>
      have hhead : (Nat.toDigits 10 (m / 10)).head? = some '0' := by
        cases hds : Nat.toDigits 10 (m / 10) with
        | nil => exact absurd hds Nat.toDigits_ne_nil
        | cons c cs =>
          rw [hds] at h
          exact h
      have hzero := toDigits_head_zero (m / 10) hhead
      omega
  termination_by m => m
  decreasing_by omega

/-- The digits of a number before a terminator are read as its numeral. -/
theorem scanNumeral_toDigits (negative : Bool) (m : Nat) :
    scanNumeral negative (Nat.toDigits 10 m) =
      some (⟨negative, digitValues (Nat.toDigits 10 m), none, none⟩, []) := by
  have hdigit : ∀ c ∈ Nat.toDigits 10 m, c.isDigit = true := fun c hc =>
    Nat.isDigit_of_mem_toDigits (by decide) (by decide) hc
  have htake : (Nat.toDigits 10 m).takeWhile Char.isDigit = Nat.toDigits 10 m :=
    List.takeWhile_eq_self_iff.mpr hdigit
  have hdrop : (Nat.toDigits 10 m).dropWhile Char.isDigit = [] :=
    List.dropWhile_eq_nil_iff.mpr hdigit
  unfold scanNumeral
  dsimp only
  rw [htake, hdrop, if_neg]
  · rfl
  · rintro (hnil | ⟨hhead, hne⟩)
    · exact Nat.toDigits_ne_nil hnil
    · obtain rfl := toDigits_head_zero m hhead
      exact hne (Nat.toDigits_zero 10)

theorem foldl_digitValues (m : Nat) :
    (digitValues (Nat.toDigits 10 m)).foldl (fun v d => 10 * v + d) 0 = m := by
  rw [digitValues, List.foldl_map]
  exact (Nat.ofDigitChars_eq_foldl (l := Nat.toDigits 10 m)).symm.trans
    Nat.ofDigitChars_ten_toDigits

theorem Integer.ofInt?_eq {n : Int} (h : -0x8000000000000000 ≤ n ∧ n < 0x10000000000000000) :
    Integer.ofInt? n = some ⟨n, h⟩ := dif_pos h

/-- A numeral of whole digits other than minus zero stands for its integer. -/
theorem toNumber?_whole {negative : Bool} {m : Nat} {v : Int}
    (hv : (if negative then -(m : Int) else m) = v) (hzero : ¬(negative ∧ v = 0))
    (hrange : -0x8000000000000000 ≤ v ∧ v < 0x10000000000000000) :
    Numeral.toNumber? ⟨negative, digitValues (Nat.toDigits 10 m), none, none⟩ =
      some (.integer ⟨v, hrange⟩) := by
  unfold Numeral.toNumber?
  dsimp only
  rw [foldl_digitValues, hv, if_pos ⟨rfl, rfl, hzero⟩, Integer.ofInt?_eq hrange]

/-- Every integer survives being written and read. -/
theorem Number.readsBack_integer (n : Integer) : (Number.integer n).ReadsBack := by
  obtain ⟨val, hrange⟩ := n
  unfold ReadsBack
  show firstToken? (toString val).toList = some (.number (some (.integer ⟨val, hrange⟩)), [])
  -- Only a negative integer is written with a minus, so the two are read in different ways.
  cases val with
  | ofNat m =>
    have htext : (toString (Int.ofNat m)).toList = Nat.toDigits 10 m := Nat.toList_repr
    have hvalue : Numeral.toNumber? ⟨false, digitValues (Nat.toDigits 10 m), none, none⟩ =
        some (.integer ⟨Int.ofNat m, hrange⟩) := by
      apply toNumber?_whole
      · rfl
      · exact fun h => Bool.false_ne_true h.1
    rw [htext]
    cases hds : Nat.toDigits 10 m with
    | nil => exact absurd hds Nat.toDigits_ne_nil
    | cons c cs =>
      have hc : c.isDigit = true :=
        Nat.isDigit_of_mem_toDigits (by decide) (by decide) (hds ▸ List.mem_cons_self ..)
      rw [firstToken?_digit hc, ← hds, scanNumeral_toDigits, Option.map_some, hvalue]
  | negSucc m =>
    have htext : (toString (Int.negSucc m)).toList = '-' :: Nat.toDigits 10 (m + 1) := by
      show ("-" ++ (m + 1).repr).toList = _
      rw [String.toList_append, Nat.toList_repr]
      rfl
    have hvalue : Numeral.toNumber? ⟨true, digitValues (Nat.toDigits 10 (m + 1)), none, none⟩ =
        some (.integer ⟨Int.negSucc m, hrange⟩) := by
      apply toNumber?_whole
      · rfl
      · exact fun h => Int.negSucc_ne_zero m h.2
    rw [htext, firstToken?_minus, scanNumeral_toDigits, Option.map_some, hvalue]

/-! ## Whole documents -/

/-- More fuel does not change what is read. -/
theorem tokensWithin_mono {n m : Nat} (hnm : n ≤ m) :
    ∀ {cs : List Char} {ts : List Token}, tokensWithin n cs = some ts →
      tokensWithin m cs = some ts := by
  -- Without fuel nothing but the end is read, and for that none is needed.
  induction n generalizing m with
  | zero =>
    intro cs ts h
    cases cs with
    | nil => rw [← h]; cases m <;> rfl
    | cons c cs => cases h
  | succ n ih =>
    intro cs ts h
    cases cs with
    | nil => rw [← h]; cases m <;> rfl
    | cons c cs =>
      obtain ⟨m, rfl⟩ : ∃ k, m = k + 1 := ⟨m - 1, by omega⟩
      have hnm' : n ≤ m := Nat.le_of_succ_le_succ hnm
      rw [tokensWithin] at h ⊢
      split at h
      next hspace => rw [if_pos hspace]; exact ih hnm' h
      next hspace =>
        rw [if_neg hspace]
        cases hfirst : firstToken? (c :: cs) with
        | none => simp [hfirst] at h
        | some p =>
          cases hrest : tokensWithin n p.2 with
          | none => simp [hfirst, hrest] at h
          | some ts' =>
            simp only [hfirst, hrest, Option.bind_eq_bind, Option.bind_some] at h
            simp only [ih hnm' hrest, Option.bind_eq_bind, Option.bind_some]
            exact h

/-- A token in front of a text that can be read. -/
theorem tokens?_append {c : Char} {cs rest : List Char} {t : Token} {ts : List Token}
    (hspace : isSpace c = false) (hfirst : firstToken? (c :: cs ++ rest) = some (t, rest))
    (hrest : tokens? rest = some ts) : tokens? (c :: cs ++ rest) = some (t :: ts) := by
  have hfuel : tokensWithin (cs ++ rest).length rest = some ts :=
    tokensWithin_mono (by rw [List.length_append]; omega) hrest
  unfold tokens?
  rw [List.cons_append, List.length_cons, tokensWithin, hspace, if_neg Bool.false_ne_true]
  rw [List.cons_append] at hfirst
  simp only [hfirst, hfuel, Option.bind_eq_bind, Option.bind_some, Option.pure_def]

namespace Document

mutual

/-- That a document stands for something that can be written: its texts and names have values, and
its numbers survive. -/
def Plain : Document → Prop
  | .null | .bool _ => True
  | .number n => ∃ k, n = some k ∧ k.ReadsBack
  | .string s => s.isSome
  | .array items => PlainItems items
  | .object members => PlainMembers members

/-- That all of some documents are plain. -/
def PlainItems : List Document → Prop
  | [] => True
  | d :: rest => Plain d ∧ PlainItems rest

/-- That all of some members are plain. -/
def PlainMembers : List (Option String × Document) → Prop
  | [] => True
  | (name, d) :: rest => name.isSome ∧ Plain d ∧ PlainMembers rest

end

mutual

/-- The tokens of a document. -/
def tokens : Document → List Token
  | .null => [.null]
  | .bool b => [.bool b]
  | .number n => [.number n]
  | .string s => [.string s]
  | .array [] => [.arrayOpen, .arrayClose]
  | .array (d :: rest) => .arrayOpen :: tokens d ++ itemTokens rest ++ [.arrayClose]
  | .object [] => [.objectOpen, .objectClose]
  | .object ((name, d) :: rest) =>
    .objectOpen :: .string name :: .colon :: tokens d ++ memberTokens rest ++ [.objectClose]

/-- The tokens of documents, each behind a comma. -/
def itemTokens : List Document → List Token
  | [] => []
  | d :: rest => .comma :: tokens d ++ itemTokens rest

/-- The tokens of members, each behind a comma. -/
def memberTokens : List (Option String × Document) → List Token
  | [] => []
  | (name, d) :: rest => .comma :: .string name :: .colon :: tokens d ++ memberTokens rest

end

theorem terminated_writeItems (items : List Document) (rest : List Char) :
    Terminated (writeItems items ++ ']' :: rest) := by
  cases items with
  | nil => exact terminated_cons (by decide) _
  | cons d items => exact terminated_cons (by decide) _

theorem terminated_writeMembers (members : List (Option String × Document)) (rest : List Char) :
    Terminated (writeMembers members ++ '\x7d' :: rest) := by
  cases members with
  | nil => exact terminated_cons (by decide) _
  | cons m members => exact terminated_cons (by decide) _

theorem tokens?_punctuation {c : Char} {rest : List Char} {t : Token} {ts : List Token}
    (hspace : isSpace c = false) (hfirst : firstToken? (c :: rest) = some (t, rest))
    (hrest : tokens? rest = some ts) : tokens? (c :: rest) = some (t :: ts) := by
  show tokens? ([c] ++ rest) = _
  exact tokens?_append hspace hfirst hrest

theorem tokens?_writeString {rest : List Char} {ts : List Token} (s : String)
    (hrest : tokens? rest = some ts) :
    tokens? (writeString s ++ rest) = some (.string (some s) :: ts) :=
  tokens?_append (by decide) (firstToken?_writeString s rest) hrest

end Document

end AlertRules.Json
