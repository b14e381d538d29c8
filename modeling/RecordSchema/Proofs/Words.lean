import Mathlib.Data.List.TakeWhile
import RecordSchema.Proofs.Readers
import RecordSchema.Source.Path

/-!
# Words that are read as words

An identifier that is no keyword is one token, and this token is a path of one segment.  All that
the lexer looks for before it looks for a word begins with a character that no word begins with, or,
like a raw string, has one behind its first letters that no word holds.  So each attempt before
fails, and the word goes on to the end of the text.

Main statements: `Path.segmentOfText?_word` for a word alone, and `Path.ofText?_absolute` for a word
behind `::`.
-/

namespace RecordSchema

/-- The characters of a word. -/
structure Token.IsWord (cs : List Char) : Prop where
  starts : cs.head?.any isIdentifierStart
  goesOn : ∀ c ∈ cs, isIdentifierContinue c

/-- An identifier that is no keyword. -/
structure Token.IsIdentifier (text : String) : Prop extends IsWord text.toList where
  free : text ∉ reservedWords

instance (cs : List Char) : Decidable (Token.IsWord cs) :=
  decidable_of_iff (cs.head?.any isIdentifierStart ∧ cs.all isIdentifierContinue)
    ⟨fun h => ⟨h.1, List.all_eq_true.1 h.2⟩, fun h => ⟨h.starts, List.all_eq_true.2 h.goesOn⟩⟩

instance (text : String) : Decidable (Token.IsIdentifier text) :=
  decidable_of_iff (Token.IsWord text.toList ∧ text ∉ Token.reservedWords)
    ⟨fun h => ⟨h.1, h.2⟩, fun h => ⟨h.toIsWord, h.free⟩⟩

/-! ## Characters of identifiers -/

section Characters

variable {c : Char}

theorem isUpper_iff : c.isUpper ↔ 65 ≤ c.toNat ∧ c.toNat ≤ 90 := decide_eq_true_iff

theorem isLower_iff : c.isLower ↔ 97 ≤ c.toNat ∧ c.toNat ≤ 122 :=
  (iff_of_eq (Bool.and_eq_true _ _)).trans (and_congr decide_eq_true_iff decide_eq_true_iff)

theorem isAlpha_iff : c.isAlpha ↔
    65 ≤ c.toNat ∧ c.toNat ≤ 90 ∨ 97 ≤ c.toNat ∧ c.toNat ≤ 122 :=
  (iff_of_eq (Bool.or_eq_true _ _)).trans (or_congr isUpper_iff isLower_iff)

namespace CodePoints

theorem contains_of_mem {ranges : CodePoints} {range : Nat × Nat} (listed : range ∈ ranges)
    (least : range.1 ≤ c.toNat) (most : c.toNat ≤ range.2) : ranges.contains c := by
  rw [contains, List.any_eq_true]
  exact ⟨range, listed, by simp [least, most]⟩

/-- Sets have no common character if no range of the one meets a range of the other. -/
theorem contains_eq_false_of_apart {gaps ranges : CodePoints}
    (apart : ∀ gap ∈ gaps, ∀ range ∈ ranges, range.2 < gap.1 ∨ gap.2 < range.1)
    (inside : gaps.contains c) : ranges.contains c = false := by
  simp only [contains, List.any_eq_true, Bool.and_eq_true, decide_eq_true_eq] at inside
  obtain ⟨gap, listed, least, most⟩ := inside
  simp only [contains, List.any_eq_false, Bool.and_eq_true, decide_eq_true_eq]
  rintro range listed' ⟨least', most'⟩
  rcases apart gap listed range listed' with below | above <;> omega

end CodePoints

/-- Code points between those of identifiers: marks, brackets, quotes and blanks. -/
def identifierGaps : CodePoints :=
  [(0, 0x2F), (0x3A, 0x40), (0x5B, 0x5E), (0x60, 0x60), (0x7B, 0xA9), (0x1680, 0x1680),
   (0x2000, 0x200B), (0x200E, 0x203E), (0x205F, 0x205F), (0x3000, 0x3000), (0xFEFF, 0xFEFF)]

/-- The letters, digits and underscore of ASCII. -/
def asciiWordCodePoints : CodePoints := [(0x30, 0x39), (0x41, 0x5A), (0x5F, 0x5F), (0x61, 0x7A)]

theorem contains_of_isAlphanum (letter : c.isAlphanum) : asciiWordCodePoints.contains c := by
  rw [Char.isAlphanum, Bool.or_eq_true, isAlpha_iff, Char.isDigit_iff_toNat] at letter
  rcases letter with (⟨least, most⟩ | ⟨least, most⟩) | ⟨least, most⟩
  · exact CodePoints.contains_of_mem (by decide : (0x41, 0x5A) ∈ asciiWordCodePoints) least most
  · exact CodePoints.contains_of_mem (by decide : (0x61, 0x7A) ∈ asciiWordCodePoints) least most
  · exact CodePoints.contains_of_mem (by decide : (0x30, 0x39) ∈ asciiWordCodePoints) least most

theorem not_isIdentifierContinue (gap : identifierGaps.contains c) :
    ¬ isIdentifierContinue c := by
  have ascii : asciiWordCodePoints.contains c = false :=
    CodePoints.contains_eq_false_of_apart (by decide +kernel) gap
  have start : identifierStartCodePoints.contains c = false :=
    CodePoints.contains_eq_false_of_apart (by decide +kernel) gap
  have only : identifierOnlyContinueCodePoints.contains c = false :=
    CodePoints.contains_eq_false_of_apart (by decide +kernel) gap
  have noLetter : c.isAlphanum = false := by
    by_contra letter
    rw [Bool.not_eq_false] at letter
    rw [contains_of_isAlphanum letter] at ascii
    cases ascii
  have noAlpha : c.isAlpha = false := (Bool.or_eq_false_iff.1 noLetter).1
  have noUnderscore : (c == '_') = false := by
    rw [beq_eq_false_iff_ne]
    rintro rfl
    exact absurd ascii (by decide)
  simp only [isIdentifierContinue, isIdentifierStart, noLetter, noAlpha, noUnderscore, start, only,
    Bool.or_false, Bool.false_eq_true, not_false_iff]

theorem not_isIdentifierStart_of_isDigit (digit : c.isDigit) : ¬ isIdentifierStart c := by
  obtain ⟨least, most⟩ := Char.isDigit_iff_toNat.1 digit
  have noAlpha : c.isAlpha = false := by
    by_contra letter
    rw [Bool.not_eq_false, isAlpha_iff] at letter
    change c.toNat ≤ 57 at most
    omega
  have noUnderscore : (c == '_') = false := by
    rw [beq_eq_false_iff_ne]
    rintro rfl
    exact absurd most (by decide)
  have gap : CodePoints.contains [(0x30, 0x39)] c :=
    CodePoints.contains_of_mem List.mem_cons_self least most
  have start : identifierStartCodePoints.contains c = false :=
    CodePoints.contains_eq_false_of_apart (by decide +kernel) gap
  simp only [isIdentifierStart, noAlpha, noUnderscore, start, Bool.or_false, Bool.false_eq_true,
    not_false_iff]

theorem contains_of_isBlank (blank : Token.isBlank c) : identifierGaps.contains c := by
  simp only [Token.isBlank, isSpace, Bool.or_eq_true, Bool.and_eq_true, beq_iff_eq,
    decide_eq_true_eq, or_assoc] at blank
  rcases blank with rfl | ⟨least, most⟩ | rfl | rfl | rfl | ⟨least, most⟩ | blank
  · decide
  · have below : c.toNat ≤ 0x2F := Nat.le_trans most (by decide)
    exact CodePoints.contains_of_mem (by decide : (0, 0x2F) ∈ identifierGaps) (Nat.zero_le _) below
  · decide
  · decide
  · decide
  · have below : c.toNat ≤ 0x200B := Nat.le_trans most (by decide)
    exact CodePoints.contains_of_mem (by decide : (0x2000, 0x200B) ∈ identifierGaps) least below
  · rcases blank with rfl | rfl | rfl | rfl | rfl | rfl | rfl <;> decide

end Characters

/-! ## Reading a word -/

namespace Token

section Lexing

variable {cs : List Char}

/-- A character of a gap does not stand in a word. -/
theorem IsWord.not_mem (word : IsWord cs) {gap : Char} (apart : identifierGaps.contains gap) :
    gap ∉ cs :=
  fun inside => not_isIdentifierContinue apart (word.goesOn gap inside)

/-- A raw literal needs a quote, behind a fence or not. -/
theorem fencedValue_eq_none (form : Literal.QuotedForm) (noQuote : '"' ∉ cs)
    (noFence : '#' ∉ cs) : Literal.fencedValue form cs = none := by
  cases cs with
  | nil => rfl
  | cons c rest =>
    have head : (c == '#') = false := by
      rw [beq_eq_false_iff_ne]
      rintro rfl
      exact noFence List.mem_cons_self
    have quote : c ≠ '"' := by
      rintro rfl
      exact noQuote List.mem_cons_self
    simp [Literal.fencedValue, head, quote]

/-- A literal begins with a digit or holds a quote. -/
theorem read_eq_none (word : IsWord cs) : Literal.read cs = none := by
  have noQuote := word.not_mem (by decide : identifierGaps.contains '"')
  have noApostrophe := word.not_mem (by decide : identifierGaps.contains '\'')
  have noFence := word.not_mem (by decide : identifierGaps.contains '#')
  have raw : ∀ form lead {fenced}, cs = lead ++ fenced →
      Literal.fencedValue form fenced = none := by
    rintro form lead fenced rfl
    exact fencedValue_eq_none form (fun inside => noQuote (List.mem_append_right _ inside))
      (fun inside => noFence (List.mem_append_right _ inside))
  unfold Literal.read
  split
  case h_1 | h_3 | h_6 => simp at noQuote
  case h_5 | h_8 => simp at noApostrophe
  case h_2 =>
    rw [raw _ ['r'] rfl]
    rfl
  case h_4 =>
    rw [raw _ ['b', 'r'] rfl]
    rfl
  case h_7 =>
    rw [raw _ ['c', 'r'] rfl]
    rfl
  case h_9 c rest _ _ _ _ _ _ _ _ =>
    rw [if_neg]
    exact fun digit => not_isIdentifierStart_of_isDigit digit word.starts
  case h_10 => rfl

/-- A word goes on as long as the characters allow it. -/
theorem identifier_eq_some (word : IsWord cs) :
    identifier cs = some (String.ofList cs, []) := by
  have noFence := word.not_mem (by decide : identifierGaps.contains '#')
  have run : Literal.identifierRun cs = (cs, []) := by
    rw [Literal.identifierRun, List.takeWhile_eq_self_iff.2 word.goesOn,
      List.dropWhile_eq_nil_iff.2 word.goesOn]
  unfold identifier
  split
  next lead name plain =>
  split at plain
  · simp at noFence
  · cases plain
    simp [run, word.starts]

theorem readWord_eq_some (word : IsWord cs) :
    readWord cs = some (.word (String.ofList cs), []) := by
  have leads : ∀ lead ∈ literalLeads, lead.toList.any identifierGaps.contains := by
    decide +kernel
  have noLiteral : (literalLeads.any fun lead => lead.toList.isPrefixOf cs) = false := by
    rw [List.any_eq_false]
    intro lead listed begins
    obtain ⟨c, inside, apart⟩ := List.any_eq_true.1 (leads lead listed)
    have leading := List.isPrefixOf_iff_prefix.1 begins
    exact word.not_mem apart (leading.subset inside)
  rw [readWord, noLiteral, if_neg Bool.false_ne_true, identifier_eq_some word]
  rfl

/-- A word begins with no mark. -/
theorem startsWithMark_eq_false (word : IsWord cs) :
    startsWithMark cs = false := by
  have marks : "~!@#$%^&*-=+|;:,<.>/?'".toList.all identifierGaps.contains := by
    decide +kernel
  unfold startsWithMark
  split
  · rfl
  · rfl
  · next c rest _ _ =>
    rw [List.contains_eq_mem, decide_eq_false_iff_not]
    intro listed
    exact word.not_mem (List.all_eq_true.1 marks c listed) List.mem_cons_self
  · rfl

theorem delimiterOpenedBy_eq_none {c : Char} (goesOn : isIdentifierContinue c) :
    delimiterOpenedBy c = none := by
  unfold delimiterOpenedBy
  split
  case h_1 | h_2 | h_3 => exact absurd goesOn (not_isIdentifierContinue (by decide))
  case h_4 => rfl

theorem delimiterClosedBy_eq_none {c : Char} (goesOn : isIdentifierContinue c) :
    delimiterClosedBy c = none := by
  unfold delimiterClosedBy
  split
  case h_1 | h_2 | h_3 => exact absurd goesOn (not_isIdentifierContinue (by decide))
  case h_4 => rfl

/-- A word is one token, for whatever is looked for before fails. -/
theorem leaf_eq_some (word : IsWord cs) :
    leaf cs = some (.word (String.ofList cs), []) := by
  have readable : unreadable.toList.isPrefixOf cs = false := by
    by_contra begins
    rw [Bool.not_eq_false, List.isPrefixOf_iff_prefix] at begins
    have inside : '(' ∈ cs := begins.subset (by decide +kernel)
    exact word.not_mem (by decide) inside
  unfold leaf
  rw [readable, if_neg Bool.false_ne_true]
  cases cs with
  | nil => cases word.starts
  | cons c rest =>
    have first := word.goesOn c List.mem_cons_self
    have noApostrophe : ¬ (c == '\'') := by
      rw [beq_iff_eq]
      rintro rfl
      exact not_isIdentifierContinue (by decide) first
    simp only [delimiterOpenedBy_eq_none first, delimiterClosedBy_eq_none first]
    rw [read_eq_none word, Option.none_or, if_neg noApostrophe,
      startsWithMark_eq_false word, if_neg Bool.false_ne_true, readWord_eq_some word]

/-- A word is no comment and begins with no blank. -/
theorem next_eq_some (word : IsWord cs) :
    next cs = some ([.word (String.ofList cs)], []) := by
  have noSlash := word.not_mem (by decide : identifierGaps.contains '/')
  unfold next
  split
  case h_1 => cases word.starts
  case h_2 | h_3 => simp at noSlash
  case h_4 c rest _ _ =>
    have first := word.goesOn c List.mem_cons_self
    have noBlank : ¬ isBlank c := fun blank =>
      not_isIdentifierContinue (contains_of_isBlank blank) first
    rw [if_neg noBlank, leaf_eq_some word]
    rfl

theorem lexChars_nil : lexChars [] = some [] := by
  rw [lexChars]
  rfl

theorem lexChars_word (word : IsWord cs) :
    lexChars cs = some [.word (String.ofList cs)] := by
  rw [lexChars, next_eq_some word]
  cases cs with
  | nil => cases word.starts
  | cons c rest => simp [lexChars_nil]

/-- A colon is a mark by itself. -/
theorem lexChars_colon (cs : List Char) :
    lexChars (':' :: cs) = (lexChars cs).map fun more => .mark ':' (startsWithMark cs) :: more := by
  have mark : next (':' :: cs) = some ([.mark ':' (startsWithMark cs)], cs) := rfl
  rw [lexChars, mark]
  simp

end Lexing

/-! ## Words as texts -/

section Texts

variable {word : String}

theorem lex_word (identifier : IsIdentifier word) : lex word = some [.word word] := by
  have noOrderMark : withoutOrderMark word.toList = word.toList := by
    have absent := identifier.not_mem (by decide : identifierGaps.contains '\ufeff')
    unfold withoutOrderMark
    split
    · next rest chars => simp [chars] at absent
    · rfl
  rw [lex, noOrderMark, lexChars_word identifier.toIsWord, String.ofList_toList]
  rfl

theorem lex_absolute (identifier : IsIdentifier word) :
    lex ("::" ++ word) = some (operator "::" ++ [.word word]) := by
  have chars : withoutOrderMark ("::" ++ word).toList = ':' :: ':' :: word.toList := by
    rw [String.toList_append]
    rfl
  rw [lex, chars, lexChars_colon, lexChars_colon,
    lexChars_word identifier.toIsWord, String.ofList_toList,
    startsWithMark_eq_false identifier.toIsWord]
  rfl

end Texts

end Token

/-! ## Words as paths -/

open Reader ReaderOf

section Paths

variable {word : String} {start : Cursor}

theorem Reader.outcome_identifier (identifier : Token.IsIdentifier word)
    (alone : start.tokens = [.word word]) :
    Reader.identifier.outcome start = .ok ([.word word], { start with tokens := [] }) := by
  have free : Token.reservedWords.contains word = false := by simpa using identifier.free
  unfold Reader.identifier
  rw [outcome_bind_of_ok (outcome_cursor start), alone]
  simp only [free, if_false, Bool.false_eq_true]
  rw [outcome_take, alone]
  rfl

/-- No keyword stands where an identifier stands. -/
theorem Token.startsWordOf_eq_false {words : List String} (identifier : Token.IsIdentifier word)
    (reserved : words ⊆ Token.reservedWords) : startsWordOf words [.word word] = false := by
  rw [startsWordOf, List.any_eq_false]
  intro other listed same
  have same : word = other := by simpa [startsWord] using same
  exact identifier.free (same ▸ reserved listed)

theorem Phrases.outcome_readSegment (inner : Phrases) (identifier : Token.IsIdentifier word)
    (alone : start.tokens = [.word word]) :
    (inner.readSegment false).outcome start =
      .ok ({ stem := [.word word] }, { start with tokens := [] }) := by
  have noPlace : Token.startsWordOf placeWords start.tokens = false := by
    rw [alone]
    exact Token.startsWordOf_eq_false identifier (by decide)
  have noSelf : Token.startsWord "Self" start.tokens = false := by
    have reserved : ["Self"] ⊆ Token.reservedWords := by decide
    rw [alone]
    simpa [Token.startsWordOf] using Token.startsWordOf_eq_false identifier reserved
  unfold readSegment
  rw [outcome_bind_of_ok (outcome_sees _ start), noPlace, if_neg Bool.false_ne_true]
  rw [outcome_bind_of_ok (outcome_sees _ start), noSelf, if_neg Bool.false_ne_true]
  rw [outcome_bind_of_ok (outcome_identifier identifier alone)]
  rfl

theorem Phrases.outcome_readPath (inner : Phrases) (identifier : Token.IsIdentifier word)
    (absolute : start.tokens = Token.operator "::" ++ [.word word]) :
    (inner.readPath false).outcome start =
      .ok ({ stem := Token.operator "::" ++ [.word word], absolute := true },
        { start with tokens := [] }) := by
  have colons : (mark? "::").outcome start =
      .ok (Token.operator "::", { start with tokens := [.word word] }) := by
    have starts : Token.startsWith "::" start.tokens := by
      rw [absolute]
      rfl
    rw [mark?_eq_ok_iff, if_pos starts]
    refine mark_eq_ok_iff.2 ⟨starts, rfl, ?_⟩
    rw [absolute]
    rfl
  unfold readPath
  rw [outcome_bind_of_ok colons, outcome_bind_of_ok (inner.outcome_readSegment identifier rfl)]
  rfl

/-- What is read to the end is all that a text holds. -/
theorem Path.whole?_eq_some {reader : Reader (List Token)} {text : String}
    {tokens found : List Token} (lexed : Token.lex text = some tokens)
    (read : reader.outcome { tokens } = .ok (found, { tokens := [] })) :
    whole? reader text = some found := by
  rw [whole?, lexed, Option.bind_some, run, result_eq, outcome_bind_of_ok read]
  rfl

/-- A word that is an identifier is one segment. -/
theorem Path.segmentOfText?_word (identifier : Token.IsIdentifier word) :
    segmentOfText? word = some [.word word] := by
  refine whole?_eq_some (Token.lex_word identifier) ?_
  unfold readSegment withPhrases
  rw [outcome_bind_of_ok (outcome_cursor _),
    outcome_bind_of_ok (Phrases.outcome_readSegment _ identifier rfl)]
  rfl

/-- A word that is an identifier is an absolute path if `::` stands before it. -/
theorem Path.ofText?_absolute (identifier : Token.IsIdentifier word) :
    ofText? ("::" ++ word) = some (Token.operator "::" ++ [.word word]) := by
  refine whole?_eq_some (Token.lex_absolute identifier) ?_
  unfold read withPhrases
  rw [outcome_bind_of_ok (outcome_cursor _),
    outcome_bind_of_ok (Phrases.outcome_readPath _ identifier rfl)]
  rfl

end Paths

end RecordSchema
