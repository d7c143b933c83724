import AlertRules.Proofs.Json.Numeral

/-!
# Reading what was written

Every document can be written, and its text can be read; but what is read need not be the document.
A number gives way to the one its text stands for, if that is in range, and a text or a number
without a value, which is written as null, comes back as null. `Document.reread` says so of a whole
document, and of a plain one that it comes back as it is (`Document.reread_of_plain`).

> `Document.tokens?_write`: the text of a document splits into the tokens of what it is read as.
-/

namespace AlertRules.Json

/-- The number that the text of a number stands for, if it is in range. -/
def Number.reread (n : Number) : Option Number :=
  match firstToken? n.text.toList with
  | some (.number m, _) => m
  | _ => none

theorem Number.firstToken?_text (n : Number) :
    firstToken? n.text.toList = some (.number n.reread, []) := by
  obtain ⟨m, hm⟩ := n.exists_token
  rw [reread, hm]

theorem Number.reread_of_readsBack {n : Number} (h : n.ReadsBack) : n.reread = some n := by
  rw [reread, h]

namespace Document

mutual

/-- What the text of a document is read as. -/
def reread : Document → Document
  | .null => .null
  | .bool b => .bool b
  | .number (some n) => .number n.reread
  | .number none => .null
  | .string (some s) => .string (some s)
  | .string none => .null
  | .array items => .array (rereadItems items)
  | .object members => .object (rereadMembers members)

/-- What the texts of documents are read as. -/
def rereadItems : List Document → List Document
  | [] => []
  | d :: rest => reread d :: rereadItems rest

/-- What the texts of members are read as. -/
def rereadMembers : List (Option String × Document) → List (Option String × Document)
  | [] => []
  | (name, d) :: rest => (some (name.getD ""), reread d) :: rereadMembers rest

end

mutual

/-- A plain document comes back as it is. -/
theorem reread_of_plain : ∀ {d : Document}, d.Plain → d.reread = d
  | .null, _ => rfl
  | .bool _, _ => rfl
  | .number _, h => by
    obtain ⟨n, rfl, hback⟩ := h
    rw [reread, Number.reread_of_readsBack hback]
  | .string none, h => nomatch h
  | .string (some _), _ => rfl
  | .array _, h => congrArg Document.array (rereadItems_of_plain h)
  | .object _, h => congrArg Document.object (rereadMembers_of_plain h)

theorem rereadItems_of_plain :
    ∀ {items : List Document}, PlainItems items → rereadItems items = items
  | [], _ => rfl
  | _ :: _, h => by rw [rereadItems, reread_of_plain h.1, rereadItems_of_plain h.2]

theorem rereadMembers_of_plain : ∀ {members : List (Option String × Document)},
    PlainMembers members → rereadMembers members = members
  | [], _ => rfl
  | (none, _) :: _, h => nomatch h.1
  | (some _, _) :: _, h => by
    rw [rereadMembers, reread_of_plain h.2.1, rereadMembers_of_plain h.2.2]
    rfl

end

mutual

/-- **The text of a document** before a terminator splits into the tokens of what it is read as. -/
theorem tokens?_write : ∀ (d : Document) {rest : List Char} {ts : List Token}, Terminated rest →
    tokens? rest = some ts → tokens? (d.write ++ rest) = some (d.reread.tokens ++ ts)
  | .null, _, _, _, h => tokens?_append (by decide) rfl h
  | .bool true, _, _, _, h => tokens?_append (by decide) rfl h
  | .bool false, _, _, _, h => tokens?_append (by decide) rfl h
  | .number none, _, _, _, h => tokens?_append (by decide) rfl h
  | .number (some n), _, _, hterm, h => by
    have hfirst := firstToken?_number_append n.firstToken?_text hterm
    obtain ⟨c, cs, htext, hc⟩ := head_of_firstToken?_number n.firstToken?_text
    rw [write]
    rw [htext] at hfirst ⊢
    -- A number begins with a digit or a minus, and so with no white space.
    refine tokens?_append ?_ hfirst h
    rcases hc with hc | rfl
    · cases hs : isSpace c with
      | false => rfl
      | true =>
        simp only [isSpace, decide_eq_true_eq] at hs
        rcases hs with rfl | rfl | rfl | rfl <;> exact absurd hc (by decide)
    · decide
  | .string none, _, _, _, h => tokens?_append (by decide) rfl h
  | .string (some s), _, _, _, h => tokens?_writeString s h
  | .array [], _, _, _, h => by
    exact tokens?_punctuation (c := '[') (by decide) rfl
      (tokens?_punctuation (by decide) rfl h)
  | .array (d :: items), rest, ts, _, h => by
    have hclose : tokens? (']' :: rest) = some (.arrayClose :: ts) :=
      tokens?_punctuation (by decide) rfl h
    have hitems := tokens?_writeItems items hclose
    have hitem := tokens?_write d (terminated_writeItems items rest) hitems
    have hopen := tokens?_punctuation (c := '[') (by decide) rfl hitem
    simpa [write, reread, rereadItems, tokens] using hopen
  | .object [], _, _, _, h => by
    exact tokens?_punctuation (c := '\x7b') (by decide) rfl
      (tokens?_punctuation (by decide) rfl h)
  | .object ((name, d) :: members), rest, ts, _, h => by
    have hclose : tokens? ('\x7d' :: rest) = some (.objectClose :: ts) :=
      tokens?_punctuation (by decide) rfl h
    have hmembers := tokens?_writeMembers members hclose
    have hmember := tokens?_write d (terminated_writeMembers members rest) hmembers
    have hcolon := tokens?_punctuation (c := ':') (by decide) rfl hmember
    have hname := tokens?_writeString (name.getD "") hcolon
    have hopen := tokens?_punctuation (c := '\x7b') (by decide) rfl hname
    simpa [write, writeMember, reread, rereadMembers, tokens] using hopen

/-- The same of documents up to the end of their array, -/
theorem tokens?_writeItems : ∀ (items : List Document) {rest : List Char} {ts : List Token},
    tokens? (']' :: rest) = some ts →
      tokens? (writeItems items ++ ']' :: rest) = some (itemTokens (rereadItems items) ++ ts)
  | [], _, _, h => h
  | d :: items, rest, ts, h => by
    have hitems := tokens?_writeItems items h
    have hitem := tokens?_write d (terminated_writeItems items rest) hitems
    have hcomma := tokens?_punctuation (c := ',') (by decide) rfl hitem
    simpa [writeItems, rereadItems, itemTokens] using hcomma

/-- and of members up to the end of their object. -/
theorem tokens?_writeMembers :
    ∀ (members : List (Option String × Document)) {rest : List Char} {ts : List Token},
      tokens? ('\x7d' :: rest) = some ts →
        tokens? (writeMembers members ++ '\x7d' :: rest) =
          some (memberTokens (rereadMembers members) ++ ts)
  | [], _, _, h => h
  | (name, d) :: members, rest, ts, h => by
    have hmembers := tokens?_writeMembers members h
    have hmember := tokens?_write d (terminated_writeMembers members rest) hmembers
    have hcolon := tokens?_punctuation (c := ':') (by decide) rfl hmember
    have hname := tokens?_writeString (name.getD "") hcolon
    have hcomma := tokens?_punctuation (c := ',') (by decide) rfl hname
    simpa [writeMembers, writeMember, rereadMembers, memberTokens] using hcomma

end

end Document

end AlertRules.Json
