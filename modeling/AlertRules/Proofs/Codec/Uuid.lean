import AlertRules.Proofs.Json.Lexing
import AlertRules.Uuid

/-!
# Reading back identifiers

`Uuid.text` writes thirty-two hexadecimal digits in five groups, and `Uuid.ofString?` takes the
groups apart again. The digits are followed through the number they stand for, four bits each
(`foldl_nibbles`).

> `Uuid.ofString?_text`: every identifier is read back from its text; so no two have one text
> (`Uuid.text_injective`).
-/

namespace AlertRules.Uuid

open Json

/-- The last `count` groups of four bits of a number. -/
def nibbles (n : Nat) : (count : Nat) → List Nat
  | 0 => []
  | count + 1 => nibbles (n / 16) count ++ [n % 16]

theorem hexDigits_eq_map (n count : Nat) :
    hexDigits n count = (nibbles n count).map hexDigit := by
  induction count generalizing n with
  | zero => rfl
  | succ count ih => rw [hexDigits, nibbles, List.map_append, ih]; rfl

theorem length_nibbles (n count : Nat) : (nibbles n count).length = count := by
  induction count generalizing n with
  | zero => rfl
  | succ count ih => rw [nibbles, List.length_append, ih]; rfl

theorem length_hexDigits (n count : Nat) : (hexDigits n count).length = count := by
  rw [hexDigits_eq_map, List.length_map, length_nibbles]

theorem lt_of_mem_nibbles {n count d : Nat} (h : d ∈ nibbles n count) : d < 16 := by
  induction count generalizing n with
  | zero => exact nomatch h
  | succ count ih =>
    rcases List.mem_append.mp h with h | h
    · exact ih h
    · rw [List.mem_singleton.mp h]
      omega

/-- The groups of four bits make up the number again. -/
theorem foldl_nibbles {n count : Nat} (h : n < Nat.pow 16 count) :
    (nibbles n count).foldl (fun n d => 16 * n + d) 0 = n := by
  induction count generalizing n with
  | zero => exact (Nat.lt_one_iff.mp h).symm
  | succ count ih =>
    have hdiv : n / 16 < Nat.pow 16 count := Nat.div_lt_of_lt_mul (by rwa [Nat.mul_comm])
    rw [nibbles, List.foldl_append, ih hdiv]
    show 16 * (n / 16) + n % 16 = n
    omega

theorem mapM_hexDigit : ∀ {ds : List Nat}, (∀ d ∈ ds, d < 16) →
    (ds.map hexDigit).mapM hexValue? = some ds
  | [], _ => rfl
  | d :: rest, h => by
    rw [List.map_cons, List.mapM_cons, hexValue?_hexDigit d (h d (List.mem_cons_self ..)),
      mapM_hexDigit fun x hx => h x (List.mem_cons_of_mem _ hx)]
    rfl

theorem ofNat_val (u : Uuid) : ofNat u.val = u := by
  cases u with
  | mk val hval => simp only [ofNat, Nat.mod_eq_of_lt hval]

theorem ofHexDigits?_hexDigits (u : Uuid) : ofHexDigits? (hexDigits u.val 32) = some u := by
  have hrange : u.val < Nat.pow 16 32 := by
    have hbound : Nat.pow 16 32 = 0x100000000000000000000000000000000 := by decide
    rw [hbound]
    exact u.inRange
  have hvalues : (hexDigits u.val 32).mapM hexValue? = some (nibbles u.val 32) := by
    rw [hexDigits_eq_map]
    exact mapM_hexDigit fun d hd => lt_of_mem_nibbles hd
  rw [ofHexDigits?, hvalues, Option.bind_eq_bind, Option.bind_some, if_pos (length_nibbles ..),
    foldl_nibbles hrange, ofNat_val]

/-- Five groups of digits are taken apart where they were put together. -/
theorem ofGroups?_groups {a b c d e : List Char} (ha : a.length = 8) (hb : b.length = 4)
    (hc : c.length = 4) (hd : d.length = 4) (he : e.length = 12) :
    ofGroups? (a ++ '-' :: b ++ '-' :: c ++ '-' :: d ++ '-' :: e) =
      ofHexDigits? (a ++ b ++ c ++ d ++ e) := by
  rw [ofGroups?, if_pos]
  · simp [ha, hb, hc, hd, List.drop_append, List.drop_of_length_le]
  · simp [ha, hb, hc, hd, he]

theorem toList_text (u : Uuid) :
    u.text.toList = (hexDigits u.val 32).take 8 ++ '-' :: ((hexDigits u.val 32).drop 8).take 4 ++
      '-' :: ((hexDigits u.val 32).drop 12).take 4 ++
      '-' :: ((hexDigits u.val 32).drop 16).take 4 ++
      '-' :: (hexDigits u.val 32).drop 20 := by
  rw [text, String.toList_ofList]

/-- No text of an identifier begins like a name in front of one. -/
theorem take_text_ne_urn (u : Uuid) :
    (u.text.toList.take 9).map Char.toLower ≠ "urn:uuid:".toList := by
  have hlower : ∀ d : Nat, d < 16 → (hexDigit d).toLower ≠ 'u' := by decide
  intro h
  cases hds : nibbles u.val 32 with
  | nil =>
    have hlen := length_nibbles u.val 32
    rw [hds] at hlen
    cases hlen
  | cons d rest =>
    have hd : d < 16 := lt_of_mem_nibbles (hds ▸ List.mem_cons_self ..)
    -- The first character is a digit, and that is no `u` in either case.
    have hhead : (u.text.toList.take 9).map Char.toLower =
        (hexDigit d).toLower :: ((u.text.toList.take 9).map Char.toLower).tail := by
      rw [toList_text, hexDigits_eq_map, hds]
      rfl
    rw [hhead] at h
    exact hlower d hd (List.cons.inj h).1

/-- **Every identifier is read back from its text.** -/
theorem ofString?_text (u : Uuid) : ofString? u.text = some u := by
  have hlen : u.text.toList.length = 36 := by
    simp [toList_text, length_hexDigits]
  rw [ofString?, if_neg (by omega), if_neg (by omega), if_neg (take_text_ne_urn u), toList_text,
    ofGroups?_groups (by simp [length_hexDigits]) (by simp [length_hexDigits])
      (by simp [length_hexDigits]) (by simp [length_hexDigits]) (by simp [length_hexDigits])]
  have hjoin : (hexDigits u.val 32).take 8 ++ ((hexDigits u.val 32).drop 8).take 4 ++
      ((hexDigits u.val 32).drop 12).take 4 ++ ((hexDigits u.val 32).drop 16).take 4 ++
      (hexDigits u.val 32).drop 20 = hexDigits u.val 32 := by
    rw [← List.take_add, ← List.take_add, ← List.take_add, List.take_append_drop]
  -- The five groups are parts of the digits that follow one another.
  rw [hjoin, ofHexDigits?_hexDigits]

theorem text_injective {u v : Uuid} (h : u.text = v.text) : u = v := by
  have hu := ofString?_text u
  rw [h, ofString?_text] at hu
  exact (Option.some.inj hu).symm

theorem text_inj {u v : Uuid} : u.text = v.text ↔ u = v := ⟨text_injective, congrArg text⟩

end AlertRules.Uuid
