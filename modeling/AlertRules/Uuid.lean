import AlertRules.Json.Writing

/-!
# Identifiers

A rule is identified by a number of 128 bits, written as thirty-two hexadecimal digits in five
groups. Reading also takes the digits without hyphens, the groups in braces, and the groups behind
`urn:uuid:`.
-/

namespace AlertRules

/-- An identifier of 128 bits. -/
structure Uuid where
  val : Nat
  inRange : val < 0x100000000000000000000000000000000
deriving DecidableEq

namespace Uuid

/-- The identifier whose number is zero. -/
def nil : Uuid := ⟨0, by decide⟩

/-- The identifier with the given number, which is taken modulo `2 ^ 128`. -/
def ofNat (n : Nat) : Uuid := ⟨n % 0x100000000000000000000000000000000, Nat.mod_lt _ (by decide)⟩

/-- The last `count` hexadecimal digits of a number. -/
def hexDigits (n : Nat) : (count : Nat) → List Char
  | 0 => []
  | count + 1 => hexDigits (n / 16) count ++ [Json.hexDigit (n % 16)]

/-- The text of an identifier. -/
def text (u : Uuid) : String :=
  let ds := hexDigits u.val 32
  String.ofList (ds.take 8 ++ '-' :: (ds.drop 8).take 4 ++ '-' :: (ds.drop 12).take 4 ++
    '-' :: (ds.drop 16).take 4 ++ '-' :: ds.drop 20)

/-- The identifier of thirty-two hexadecimal digits. -/
def ofHexDigits? (ds : List Char) : Option Uuid := do
  let values ← ds.mapM Json.hexValue?
  if values.length = 32 then some (ofNat (values.foldl (fun n d => 16 * n + d) 0)) else none

/-- The identifier of hexadecimal digits in five groups. -/
def ofGroups? (cs : List Char) : Option Uuid :=
  if cs.length = 36 ∧ cs[8]? = some '-' ∧ cs[13]? = some '-' ∧ cs[18]? = some '-' ∧
      cs[23]? = some '-' then
    ofHexDigits? (cs.take 8 ++ (cs.drop 9).take 4 ++ (cs.drop 14).take 4 ++ (cs.drop 19).take 4 ++
      cs.drop 24)
  else none

/-- The identifier of a text in any of the accepted forms. -/
def ofString? (s : String) : Option Uuid :=
  let cs := s.toList
  if cs.length = 32 then ofHexDigits? cs
  else if cs.length = 38 ∧ cs.head? = some '\x7b' ∧ cs.getLast? = some '\x7d' then
    ofGroups? ((cs.drop 1).take 36)
  else if (cs.take 9).map Char.toLower = "urn:uuid:".toList then ofGroups? (cs.drop 9)
  else ofGroups? cs

end Uuid

end AlertRules
