import AlertRules.Proofs.Codec.Calendar
import AlertRules.Timestamp.Reading

/-!
# Reading back instants

`Timestamp.text` writes date and time of day in numbers of fixed width, and `Timestamp.ofString?`
scans them one after the other. A number is followed by something that is no digit, or has as many
digits as may be scanned (`scanNumber_padded`). What the numbers stand for is settled by the
calendar (`Calendar.daysOfDate_dateOfDays`) and by the length of a day.

> `Timestamp.ofString?_text`: every instant is read back from its text.
-/

namespace AlertRules.Timestamp

open AlertRules.Text (trimStart isBlankChar)

/-! ## Numbers -/

/-- The characters of a number with at least `width` digits. -/
def paddedDigits (width n : Nat) : List Char :=
  List.replicate (width - (Nat.toDigits 10 n).length) '0' ++ Nat.toDigits 10 n

theorem toList_padded (width n : Nat) : (padded width n).toList = paddedDigits width n := by
  have htext : (toString n).toList = Nat.toDigits 10 n := Nat.toList_repr
  have hlength : (toString n).length = (Nat.toDigits 10 n).length := by
    rw [← String.length_toList, htext]
  rw [padded, String.toList_append, String.toList_ofList, htext, hlength]
  rfl

theorem isDigit_of_mem_paddedDigits {width n : Nat} {c : Char} (h : c ∈ paddedDigits width n) :
    c.isDigit = true := by
  rcases List.mem_append.mp h with h | h
  · rw [List.eq_of_mem_replicate h]
    rfl
  · exact Nat.isDigit_of_mem_toDigits (by decide) (by decide) h

theorem length_paddedDigits {width n : Nat} (hwidth : 0 < width) (hn : n < Nat.pow 10 width) :
    (paddedDigits width n).length = width := by
  have hlen : (Nat.toDigits 10 n).length ≤ width :=
    (Nat.length_toDigits_le_iff (by decide) hwidth).mpr hn
  rw [paddedDigits, List.length_append, List.length_replicate]
  omega

theorem foldl_paddedDigits (width n : Nat) :
    (paddedDigits width n).foldl (fun n c => 10 * n + (c.toNat - '0'.toNat)) 0 = n := by
  rw [← Nat.ofDigitChars_eq_foldl, paddedDigits, Nat.ofDigitChars_append,
    Nat.ofDigitChars_replicate_zero, Nat.mul_zero, Nat.ofDigitChars_ten_toDigits]

theorem paddedDigits_ne_nil (width n : Nat) : paddedDigits width n ≠ [] := by
  intro h
  exact Nat.toDigits_ne_nil (List.append_eq_nil_iff.mp h).2

theorem exists_cons_paddedDigits (width n : Nat) :
    ∃ c cs, paddedDigits width n = c :: cs ∧ c.isDigit = true := by
  cases hds : paddedDigits width n with
  | nil => exact absurd hds (paddedDigits_ne_nil width n)
  | cons c cs => exact ⟨c, cs, rfl, isDigit_of_mem_paddedDigits (hds ▸ List.mem_cons_self ..)⟩

/-- A number is scanned up to the first character that is no digit, or up to the width. -/
theorem scanNumber_padded {width scanned n : Nat} {rest : List Char}
    (hwidth : (paddedDigits width n).length ≤ scanned)
    (hrest : (paddedDigits width n).length = scanned ∨ ∀ c ∈ rest.head?, c.isDigit = false) :
    scanNumber scanned (paddedDigits width n ++ rest) = some (n, rest) := by
  have hall : ∀ c ∈ paddedDigits width n, c.isDigit = true :=
    fun c hc => isDigit_of_mem_paddedDigits hc
  have htake : ((paddedDigits width n ++ rest).take scanned).takeWhile Char.isDigit =
      paddedDigits width n := by
    rw [List.take_append, List.take_of_length_le hwidth, List.takeWhile_append_of_pos hall]
    -- Either the width is used up, or what follows ends the number.
    rcases hrest with hlen | hhead
    · rw [hlen, Nat.sub_self, List.take_zero, List.takeWhile_nil, List.append_nil]
    · cases rest with
      | nil => simp
      | cons c rest =>
        have hc := hhead c rfl
        cases scanned - (paddedDigits width n).length with
        | zero => simp
        | succ k => simp [hc]
  unfold scanNumber
  dsimp only
  rw [htake, if_neg (paddedDigits_ne_nil width n), foldl_paddedDigits, List.drop_left]

/-- Digits are no white space. -/
theorem trimStart_padded (width n : Nat) (rest : List Char) :
    trimStart (paddedDigits width n ++ rest) = paddedDigits width n ++ rest := by
  have hblank : ∀ c : Char, c.isDigit = true → isBlankChar c = false := by
    intro c hc
    simp only [Char.isDigit, Bool.and_eq_true, decide_eq_true_eq, ge_iff_le,
      UInt32.le_iff_toNat_le] at hc
    have hlow : 48 ≤ c.toNat := hc.1
    have hhigh : c.toNat ≤ 57 := hc.2
    simp only [isBlankChar, decide_eq_false_iff_not]
    omega
  obtain ⟨c, cs, hds, hc⟩ := exists_cons_paddedDigits width n
  rw [hds, List.cons_append, trimStart, List.dropWhile_cons_of_neg]
  rw [hblank c hc]
  exact Bool.false_ne_true

theorem scanField_two {n : Nat} (hn : n < 100) (rest : List Char) :
    scanField 2 (paddedDigits 2 n ++ rest) = some (n, rest) := by
  have hlen : (paddedDigits 2 n).length = 2 := length_paddedDigits (by decide) hn
  rw [scanField, trimStart_padded]
  exact scanNumber_padded (by omega) (.inl hlen)

/-! ## Parts of an instant -/

theorem expect_cons {c : Char} (hc : isBlankChar c = false) (rest : List Char) :
    expect c (c :: rest) = some rest := by
  simp [expect, trimStart, hc]

/-- A year with four digits is scanned as it is, without a sign. -/
theorem scanYear_padded {n : Nat} (hn : n < 10000) (rest : List Char) :
    scanYear (paddedDigits 4 n ++ '-' :: rest) = some ((n : Int), '-' :: rest) := by
  have hlen : (paddedDigits 4 n).length = 4 := length_paddedDigits (by decide) hn
  have hfour : scanNumber 4 (paddedDigits 4 n ++ '-' :: rest) = some (n, '-' :: rest) :=
    scanNumber_padded (by omega) (.inl hlen)
  unfold scanYear
  rw [trimStart_padded]
  obtain ⟨c, cs, hds, hc⟩ := exists_cons_paddedDigits 4 n
  rw [hds] at hfour
  rw [hds, List.cons_append]
  rw [List.cons_append] at hfour
  -- A digit is no sign.
  split
  next heq =>
    rw [(List.cons.inj heq).1] at hc
    exact absurd hc (by decide)
  next heq =>
    rw [(List.cons.inj heq).1] at hc
    exact absurd hc (by decide)
  next =>
    rw [hfour]
    rfl

/-- Behind a sign a year may have any number of digits. -/
theorem scanNumber_year (n : Nat) (rest : List Char) :
    scanNumber (paddedDigits 4 n ++ '-' :: rest).length (paddedDigits 4 n ++ '-' :: rest) =
      some (n, '-' :: rest) := by
  apply scanNumber_padded
  · rw [List.length_append]
    omega
  · right
    intro c hc
    cases hc
    rfl

/-- A year is scanned up to the hyphen behind it. -/
theorem scanYear_yearText (year : Int) (rest : List Char) :
    scanYear ((yearText year).toList ++ '-' :: rest) = some (year, '-' :: rest) := by
  unfold yearText
  split
  next h =>
    obtain ⟨n, rfl⟩ := Int.eq_ofNat_of_zero_le h.1
    rw [Int.toNat_natCast, toList_padded]
    exact scanYear_padded (by omega) rest
  next h =>
    rw [String.toList_append, toList_padded]
    split
    next hneg =>
      have habs : -(year.natAbs : Int) = year := by omega
      refine Option.map_eq_some_iff.mpr ⟨_, scanNumber_year year.natAbs rest, ?_⟩
      show (-(year.natAbs : Int), '-' :: rest) = (year, '-' :: rest)
      rw [habs]
    next hpos =>
      have habs : (year.natAbs : Int) = year := by omega
      refine Option.map_eq_some_iff.mpr ⟨_, scanNumber_year year.natAbs rest, ?_⟩
      show ((year.natAbs : Int), '-' :: rest) = (year, '-' :: rest)
      rw [habs]

/-- Nine digits count, and those of a fraction with fewer are taken to the left. -/
theorem scanNanos_padded {width n : Nat} {rest : List Char} (h0 : 0 < width) (h9 : width ≤ 9)
    (hn : n < Nat.pow 10 width) (hrest : ∀ c ∈ rest.head?, c.isDigit = false) :
    scanNanos ('.' :: (paddedDigits width n ++ rest)) =
      some (n * Nat.pow 10 (9 - width), rest) := by
  have hlen : (paddedDigits width n).length = width := length_paddedDigits h0 hn
  have hscan : scanNumber 9 (paddedDigits width n ++ rest) = some (n, rest) :=
    scanNumber_padded (by omega) (.inr hrest)
  have hdrop : rest.dropWhile Char.isDigit = rest := by
    cases rest with
    | nil => rfl
    | cons c rest =>
      rw [List.dropWhile_cons_of_neg]
      rw [hrest c rfl]
      exact Bool.false_ne_true
  show (scanNumber 9 (paddedDigits width n ++ rest)).bind _ = _
  rw [hscan, Option.bind_some]
  dsimp only
  rw [hdrop, List.length_append, hlen, Nat.add_sub_cancel]
  rfl

theorem scanNanos_fractionText {n : Nat} (hn : n < nanosPerSecond) :
    scanNanos ((fractionText n).toList ++ ['Z']) = some (n, ['Z']) := by
  unfold nanosPerSecond at hn
  have hzone : ∀ c ∈ ['Z'].head?, c.isDigit = false := by
    intro c hc
    cases hc
    rfl
  have hread : ∀ width m, 0 < width → width ≤ 9 → m < Nat.pow 10 width →
      scanNanos (("." ++ padded width m).toList ++ ['Z']) =
        some (m * Nat.pow 10 (9 - width), ['Z']) := by
    intro width m h0 h9 hm
    rw [String.toList_append, toList_padded]
    exact scanNanos_padded h0 h9 hm hzone
  unfold fractionText
  split
  next h => rw [h]; rfl
  next =>
    split
    next h =>
      rw [hread 3 _ (by decide) (by decide) (show n / 1000000 < 1000 by omega)]
      have hvalue : n / 1000000 * Nat.pow 10 (9 - 3) = n := Nat.div_mul_cancel (by omega)
      rw [hvalue]
    next =>
      split
      next h =>
        rw [hread 6 _ (by decide) (by decide) (show n / 1000 < 1000000 by omega)]
        have hvalue : n / 1000 * Nat.pow 10 (9 - 6) = n := Nat.div_mul_cancel (by omega)
        rw [hvalue]
      next =>
        rw [hread 9 _ (by decide) (by decide) hn]
        have hvalue : n * Nat.pow 10 (9 - 9) = n := Nat.mul_one n
        rw [hvalue]

/-! ## Whole instants -/

/-- The days before a year that begins in March, counted without eras. -/
theorem daysOfEras (y dayOfYear : Int) :
    y / 400 * 146097 + (y % 400 * 365 + y % 400 / 4 - y % 400 / 100 + dayOfYear) =
      365 * y + (y / 4 - y / 100 + y / 400) + dayOfYear := by
  have hquarter : y % 400 / 4 = y / 4 - 100 * (y / 400) := by omega
  have hcentury : y % 400 / 100 = y / 100 - 4 * (y / 400) := by omega
  omega

/-- The days before a year grow with it. -/
theorem daysOfEras_mono {y z : Int} (h : y ≤ z) :
    365 * y + (y / 4 - y / 100 + y / 400) ≤ 365 * z + (z / 4 - z / 100 + z / 400) := by
  by_cases heq : y = z
  · subst heq
    exact Int.le_refl _
  · omega

theorem daysInMonth_le (year : Int) (month : Nat) : Calendar.daysInMonth year month ≤ 31 := by
  unfold Calendar.daysInMonth
  split
  · split <;> decide
  · split <;> decide

/-- Months are counted from March. -/
theorem shifted_month {month : Nat} (h1 : 1 ≤ month) (h12 : month ≤ 12) :
    ((month : Int) + 9) % 12 = if month ≤ 2 then (month : Int) + 9 else month - 3 := by
  split
  · omega
  · omega

/-- The year of an instant is one of those that there are instants of. -/
theorem year_range {t : Timestamp} :
    Calendar.firstYear ≤ (Calendar.dateOfDays (t.seconds / 86400)).1 ∧
      (Calendar.dateOfDays (t.seconds / 86400)).1 ≤ Calendar.lastYear := by
  obtain ⟨hfirst, hlast, -, -⟩ := t.valid
  have hfirstDay : firstSecond = -8334601228800 := by decide
  have hlastDay : lastSecond = 8210266876799 := by decide
  rw [hfirstDay] at hfirst
  rw [hlastDay] at hlast
  obtain ⟨hdate, hdays⟩ := Calendar.daysOfDate_dateOfDays (t.seconds / 86400)
  generalize Calendar.dateOfDays (t.seconds / 86400) = date at hdate hdays ⊢
  obtain ⟨year, month, day⟩ := date
  obtain ⟨h1, h12, hday1, hday⟩ := hdate
  have hday31 : day ≤ 31 := Nat.le_trans hday (daysInMonth_le year month)
  dsimp only at *
  unfold Calendar.daysOfDate at hdays
  unfold Calendar.firstYear Calendar.lastYear
  dsimp only at hdays
  rw [daysOfEras, shifted_month h1 h12] at hdays
  -- Days grow with the year, so a year outside of the range would be outside of the seconds too.
  constructor
  · apply Int.not_lt.mp
    intro hlt
    by_cases hmonth : month ≤ 2
    · rw [if_pos hmonth, if_pos hmonth] at hdays
      have hbefore := daysOfEras_mono (y := year - 1) (z := -262145) (by omega)
      omega
    · rw [if_neg hmonth, if_neg hmonth] at hdays
      have hbefore := daysOfEras_mono (y := year) (z := -262144) (by omega)
      omega
  · apply Int.not_lt.mp
    intro hlt
    by_cases hmonth : month ≤ 2
    · rw [if_pos hmonth, if_pos hmonth] at hdays
      have hbefore := daysOfEras_mono (y := 262142) (z := year - 1) (by omega)
      omega
    · rw [if_neg hmonth, if_neg hmonth] at hdays
      have hbefore := daysOfEras_mono (y := 262143) (z := year) (by omega)
      omega

/-- The numbers of the text of an instant stand for it. -/
theorem ofLocal?_parts (t : Timestamp) :
    ofLocal? (Calendar.dateOfDays (t.seconds / 86400)).1
      (Calendar.dateOfDays (t.seconds / 86400)).2.1
      (Calendar.dateOfDays (t.seconds / 86400)).2.2
      ((t.seconds % 86400).toNat / 3600) ((t.seconds % 86400).toNat / 60 % 60)
      ((t.seconds % 86400).toNat % 60 + t.nanos / nanosPerSecond) (t.nanos % nanosPerSecond) 0 =
      some t := by
  obtain ⟨⟨hmonth1, hmonth12, hday1, hday⟩, hdays⟩ :=
    Calendar.daysOfDate_dateOfDays (t.seconds / 86400)
  have hyear := year_range (t := t)
  obtain ⟨seconds, nanos, hvalid⟩ := t
  have hleap : 1000000000 ≤ nanos → seconds % 60 = 59 := hvalid.2.2.2
  have hnanos : nanos < 2000000000 := hvalid.2.2.1
  dsimp only at *
  unfold nanosPerSecond
  obtain ⟨time, htime⟩ : ∃ k : Nat, (k : Int) = seconds % 86400 :=
    ⟨(seconds % 86400).toNat, by omega⟩
  rw [← htime, Int.toNat_natCast]
  have hsplit : time / 3600 * 3600 + time / 60 % 60 * 60 + time % 60 = time := by omega
  unfold ofLocal?
  rw [if_pos ⟨hyear.1, hyear.2, hmonth1, hmonth12, hday1, hday, by omega, by omega, by omega,
    by omega, by omega⟩]
  rw [hdays]
  have hparts : ∀ within extra : Nat,
      (seconds / 86400 * 86400 + ((time / 3600 * 3600 + time / 60 % 60 * 60 + within : Nat) : Int) -
        0 = seconds) → nanos % 1000000000 + extra = nanos →
      ofParts? (seconds / 86400 * 86400 +
        ((time / 3600 * 3600 + time / 60 % 60 * 60 + within : Nat) : Int) - 0)
        (nanos % 1000000000 + extra) = some ⟨seconds, nanos, hvalid⟩ := by
    intro within extra hseconds hnanoseconds
    rw [hseconds, hnanoseconds, ofParts?, dif_pos hvalid]
  -- In a leap second the text says 60, which stands for 59 and a second of nanoseconds.
  by_cases hlt : nanos < 1000000000
  · rw [if_neg (by omega)]
    exact hparts _ 0 (by omega) (by omega)
  · have h59 := hleap (by omega)
    rw [if_pos (by omega)]
    exact hparts 59 1000000000 (by omega) (by omega)

theorem toList_text (t : Timestamp) : t.text.toList =
    (yearText (Calendar.dateOfDays (t.seconds / 86400)).1).toList ++ '-' ::
      (paddedDigits 2 (Calendar.dateOfDays (t.seconds / 86400)).2.1 ++ '-' ::
        (paddedDigits 2 (Calendar.dateOfDays (t.seconds / 86400)).2.2 ++ 'T' ::
          (paddedDigits 2 ((t.seconds % 86400).toNat / 3600) ++ ':' ::
            (paddedDigits 2 ((t.seconds % 86400).toNat / 60 % 60) ++ ':' ::
              (paddedDigits 2 ((t.seconds % 86400).toNat % 60 + t.nanos / nanosPerSecond) ++
                ((fractionText (t.nanos % nanosPerSecond)).toList ++ ['Z'])))))) := by
  simp [text, String.toList_append, toList_padded]

/-- **Every instant is read back from its text.** -/
theorem ofString?_text (t : Timestamp) : ofString? t.text = some t := by
  obtain ⟨⟨-, hmonth, -, hday⟩, -⟩ := Calendar.daysOfDate_dateOfDays (t.seconds / 86400)
  have hday31 := Nat.le_trans hday (daysInMonth_le ..)
  have hnanos : t.nanos < 2000000000 := t.valid.2.2.1
  have hleap : t.nanos / nanosPerSecond ≤ 1 := by
    unfold nanosPerSecond
    omega
  have hfraction : t.nanos % nanosPerSecond < nanosPerSecond := Nat.mod_lt _ (by decide)
  -- The parts are scanned from left to right, each up to the sign behind it.
  unfold ofString?
  rw [toList_text, scanYear_yearText]
  simp only [Option.bind_eq_bind, Option.bind_some]
  rw [expect_cons rfl, Option.bind_some, scanField_two (by omega), Option.bind_some,
    expect_cons rfl, Option.bind_some, scanField_two (by omega), Option.bind_some]
  simp only [scanSeparator, Option.bind_some]
  rw [scanField_two (by omega), Option.bind_some, expect_cons rfl, Option.bind_some,
    scanField_two (by omega), Option.bind_some, expect_cons rfl, Option.bind_some,
    scanField_two (by omega), Option.bind_some, scanNanos_fractionText hfraction]
  exact ofLocal?_parts t

end AlertRules.Timestamp
