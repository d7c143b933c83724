import AlertRules.Text.Category
import AlertRules.Text.Property

/-!
# Letters and numbers

Characters that count as letters or numbers in any script.
-/

namespace AlertRules.Text

/-- The characters of numbers: digits, letters used as numbers, and other numbers. -/
def numberChars : CharSet := Category.members ["Nd", "Nl", "No"]

/-- Whether a character counts as a letter. -/
def isAlphabetic (c : Char) : Bool := Property.alphabetic.contains c.toNat

/-- Whether a character counts as a letter or a number. -/
def isAlphanumeric (c : Char) : Bool := isAlphabetic c || numberChars.contains c.toNat

end AlertRules.Text
