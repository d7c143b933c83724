/-!
# Words

The integers that a signed word of 64 bits holds. What counts, keeps settings or reads texts is
bounded by them. A natural number that is put into one keeps its lowest 64 bits only.
-/

namespace AlertRules

/-- That a signed word of 64 bits holds an integer. -/
abbrev FitsInt64 (n : Int) : Prop := -0x8000000000000000 ≤ n ∧ n < 0x8000000000000000

/-- The integer in a signed word of 64 bits that a natural number has been put into. -/
def signedWord (n : Nat) : Int := (n : Int).bmod 0x10000000000000000

end AlertRules
