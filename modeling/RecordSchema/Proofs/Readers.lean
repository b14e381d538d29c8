import RecordSchema.Proofs.Results
import RecordSchema.Source.RecordOptions

/-!
# What readers do

A reader is described by its outcome: what it finds, and the state in which it stops.  Of two
readers one after the other the second goes on where the first one stopped, and the first error
counts.

A list with commas is described without a reader (`Reader.CommaList`), given what its items are.  A
reader that takes in items one after the other succeeds just on such lists, if each of its steps
succeeds just on an item (`Reader.takeIn_eq_ok_iff`), and otherwise fails after a part of a list
(`Reader.takeIn_eq_error_iff`).  That the number of steps is bounded does not matter then: before
each further item a comma is taken, so there are more tokens than items.
-/

namespace RecordSchema

namespace ReaderOf

variable {ε α β : Type} {reader : ReaderOf ε α} {next : α → ReaderOf ε β} {start stop : Cursor}

@[simp] theorem outcome_pure (a : α) (start : Cursor) :
    (pure a : ReaderOf ε α).outcome start = .ok (a, start) := rfl

@[simp] theorem outcome_cursor (start : Cursor) :
    (Reader.cursor : ReaderOf ε Cursor).outcome start = .ok (start, start) := rfl

theorem outcome_bind (reader : ReaderOf ε α) (next : α → ReaderOf ε β) (start : Cursor) :
    (reader >>= next).outcome start =
      (reader.outcome start).bind fun reading => (next reading.1).outcome reading.2 := by
  simp only [outcome, bind]
  cases reader start with
  | error error => rfl
  | ok reading =>
    obtain ⟨found, between, le⟩ := reading
    simp only [Except.map, Except.bind]
    cases next found between <;> rfl

theorem outcome_bind_of_ok {a : α} (h : reader.outcome start = .ok (a, stop)) :
    (reader >>= next).outcome start = (next a).outcome stop := by
  rw [outcome_bind, h]
  rfl

theorem outcome_bind_eq_ok_iff {b : β} : (reader >>= next).outcome start = .ok (b, stop) ↔
    ∃ a between, reader.outcome start = .ok (a, between) ∧
      (next a).outcome between = .ok (b, stop) := by
  rw [outcome_bind]
  change reader.outcome start >>= _ = _ ↔ _
  rw [Result.bind_eq_ok_iff]
  constructor
  · rintro ⟨⟨a, between⟩, first, last⟩
    exact ⟨a, between, first, last⟩
  · rintro ⟨a, between, first, last⟩
    exact ⟨(a, between), first, last⟩

theorem outcome_bind_eq_error_iff {error : ε} : (reader >>= next).outcome start = .error error ↔
    reader.outcome start = .error error ∨ ∃ a between, reader.outcome start = .ok (a, between) ∧
      (next a).outcome between = .error error := by
  rw [outcome_bind]
  change reader.outcome start >>= _ = _ ↔ _
  rw [Result.bind_eq_error_iff]
  refine or_congr_right ⟨?_, ?_⟩
  · rintro ⟨⟨a, between⟩, first, last⟩
    exact ⟨a, between, first, last⟩
  · rintro ⟨a, between, first, last⟩
    exact ⟨(a, between), first, last⟩

/-- A reader adds no tokens. -/
theorem length_le {a : α} (h : reader.outcome start = .ok (a, stop)) :
    stop.tokens.length ≤ start.tokens.length := by
  unfold outcome at h
  cases found : reader start with
  | error error =>
    rw [found] at h
    cases h
  | ok reading =>
    rw [found] at h
    cases h
    exact reading.le

theorem result_eq (reader : ReaderOf ε α) (start : Cursor) :
    reader.result start = (reader.outcome start).map Prod.fst := by
  unfold result outcome
  cases reader start <;> rfl

/-- An error of syntax is passed on as one of the larger task. -/
@[simp] theorem outcome_liftM (reader : Reader α) (start : Cursor) :
    (liftM reader : ReaderOf DeriveError α).outcome start =
      (reader.outcome start).mapError .malformed := by
  change Except.map _ (Except.mapError _ (reader start)) = _
  unfold outcome
  cases reader start <;> rfl

/-- A result that needs no reading is found where the reader stands. -/
@[simp] theorem outcome_lift (result : Except ε α) (start : Cursor) :
    (liftM result : ReaderOf ε α).outcome start = result.map fun a => (a, start) := by
  change Except.map _ (Except.map _ result) = _
  cases result <;> rfl

end ReaderOf

/-! ## Elementary readers -/

open ReaderOf

namespace Reader

section Elementary

variable {ε α : Type} {start stop : Cursor}

@[simp] theorem outcome_sees (test : List Token → Bool) (start : Cursor) :
    (sees test : ReaderOf ε Bool).outcome start = .ok (test start.tokens, start) := rfl

@[simp] theorem outcome_atEnd (start : Cursor) :
    (atEnd : ReaderOf ε Bool).outcome start = .ok (start.tokens.isEmpty, start) := rfl

@[simp] theorem outcome_take (count : Nat) (start : Cursor) :
    (take count).outcome start =
      .ok (start.tokens.take count, { start with tokens := start.tokens.drop count }) := rfl

theorem mark_eq_ok_iff {operator : String} {found : List Token} :
    (mark operator).outcome start = .ok (found, stop) ↔
      Token.startsWith operator start.tokens ∧ found = Token.operator operator ∧
        stop = { start with tokens := start.tokens.drop operator.length } := by
  unfold mark
  rw [outcome_bind_of_ok (outcome_sees _ start)]
  split
  · next here =>
    rw [outcome_bind_of_ok (outcome_take _ start)]
    constructor
    · rintro ⟨⟩
      exact ⟨here, rfl, rfl⟩
    · rintro ⟨-, rfl, rfl⟩
      rfl
  · next absent =>
    constructor
    · rintro ⟨⟩
    · rintro ⟨here, -⟩
      exact absurd here absent

theorem mark_eq_error_iff {operator : String} {error : SyntaxError} :
    (mark operator).outcome start = .error error ↔
      ¬ Token.startsWith operator start.tokens ∧ error = .expected [.mark operator] false := by
  unfold mark
  rw [outcome_bind_of_ok (outcome_sees _ start)]
  split
  · next here =>
    constructor
    · rintro ⟨⟩
    · rintro ⟨absent, -⟩
      exact absurd here absent
  · next absent =>
    constructor
    · rintro ⟨⟩
      exact ⟨absent, rfl⟩
    · rintro ⟨-, rfl⟩
      rfl

/-- An operator that may be left out is left out just where it does not stand. -/
theorem mark?_eq_ok_iff {operator : String} {found : List Token} :
    (mark? operator).outcome start = .ok (found, stop) ↔
      if Token.startsWith operator start.tokens then
        (mark operator).outcome start = .ok (found, stop)
      else found = [] ∧ stop = start := by
  unfold mark?
  rw [outcome_bind_of_ok (outcome_sees _ start)]
  split
  · rfl
  · constructor
    · rintro ⟨⟩
      exact ⟨rfl, rfl⟩
    · rintro ⟨rfl, rfl⟩
      rfl

theorem anyWord_eq_ok_iff {found : List Token} :
    anyWord.outcome start = .ok (found, stop) ↔
      ∃ word rest, start.tokens = .word word :: rest ∧ found = [.word word] ∧
        stop = { start with tokens := rest } := by
  obtain ⟨tokens, scope, leftOver⟩ := start
  unfold anyWord
  rw [outcome_bind_of_ok (outcome_sees _ _)]
  cases here : Token.startsAnyWord tokens with
  | true =>
    cases tokens with
    | nil => cases here
    | cons token rest =>
      cases token with
      | word text =>
        constructor
        · rintro ⟨⟩
          exact ⟨text, rest, rfl, rfl, rfl⟩
        · rintro ⟨_, _, ⟨⟩, rfl, rfl⟩
          rfl
      | lifetime | string | literal | mark | opening | closing => cases here
  | false =>
    constructor
    · rintro ⟨⟩
    · rintro ⟨word, rest, rfl, -⟩
      cases here

/-- The state in which the inside of a group is read. -/
def inGroup (start : Cursor) (delimiter : Delimiter) (rest : List Token) : Cursor :=
  { start with tokens := (Token.groupInside 0 rest).1, scope := some delimiter }

/-- The state after a group whose inside was read up to `inner`. -/
def afterGroup (start : Cursor) (delimiter : Delimiter) (rest : List Token) (inner : Cursor) :
    Cursor :=
  { start with
    tokens := (Token.groupInside 0 rest).2
    leftOver := inner.leftOver.or (if inner.tokens.isEmpty then none else some (some delimiter)) }

theorem outcome_enter_of_opening {delimiter : Delimiter} {rest : List Token}
    (opens : start.tokens = .opening delimiter :: rest) (inside : Reader α) :
    (enter delimiter inside).outcome start =
      (inside.outcome (inGroup start delimiter rest)).map fun reading =>
        (reading.1, afterGroup start delimiter rest reading.2) := by
  obtain ⟨tokens, scope, leftOver⟩ := start
  obtain rfl : tokens = _ := opens
  unfold outcome enter inGroup
  simp only [ne_eq, not_true_eq_false, if_false]
  cases inside _ <;> rfl

theorem outcome_enter_of_other {delimiter : Delimiter}
    (other : ∀ rest, start.tokens ≠ .opening delimiter :: rest) (inside : Reader α) :
    (enter delimiter inside).outcome start =
      .error (.expected [.group delimiter] start.tokens.isEmpty) := by
  obtain ⟨tokens, scope, leftOver⟩ := start
  unfold outcome enter
  split
  · next opened rest opens =>
    rw [if_pos]
    · rfl
    · rintro rfl
      exact other rest opens
  · rfl

/-- A group is read to its end, whatever its inside was read for. -/
theorem enter_eq_ok_iff {delimiter : Delimiter} {inside : Reader α} {a : α} :
    (enter delimiter inside).outcome start = .ok (a, stop) ↔
      ∃ rest inner, start.tokens = .opening delimiter :: rest ∧
        inside.outcome (inGroup start delimiter rest) = .ok (a, inner) ∧
        stop = afterGroup start delimiter rest inner := by
  by_cases opened : ∃ rest, start.tokens = .opening delimiter :: rest
  · obtain ⟨rest, opens⟩ := opened
    rw [outcome_enter_of_opening opens]
    rw [Result.map_eq_ok_iff]
    constructor
    · rintro ⟨⟨_, inner⟩, read, ⟨⟩⟩
      exact ⟨rest, inner, opens, read, rfl⟩
    · rintro ⟨rest', inner, opens', read, rfl⟩
      cases opens.symm.trans opens'
      exact ⟨(a, inner), read, rfl⟩
  · have other : ∀ rest, start.tokens ≠ .opening delimiter :: rest := fun rest opens =>
      opened ⟨rest, opens⟩
    rw [outcome_enter_of_other other]
    constructor
    · rintro ⟨⟩
    · rintro ⟨rest, inner, opens, -⟩
      exact absurd opens (other rest)

theorem finish_eq_ok_iff : finish.outcome start = .ok ((), stop) ↔
    start.leftOver = none ∧ start.tokens = [] ∧ stop = start := by
  unfold finish
  rw [outcome_bind_of_ok (outcome_cursor start)]
  cases stray : start.leftOver with
  | some scope =>
    constructor
    · rintro ⟨⟩
    · rintro ⟨⟨⟩, -⟩
  | none =>
    simp only [List.isEmpty_iff]
    split
    · next done =>
      constructor
      · rintro ⟨⟩
        exact ⟨trivial, done, rfl⟩
      · rintro ⟨-, -, rfl⟩
        rfl
    · next more =>
      constructor
      · rintro ⟨⟩
      · rintro ⟨-, done, -⟩
        exact absurd done more

theorem finish_eq_error_iff_of_ended {error : SyntaxError} (ended : start.tokens = []) :
    finish.outcome start = .error error ↔
      ∃ scope, start.leftOver = some scope ∧ error = .leftOver scope := by
  unfold finish
  rw [outcome_bind_of_ok (outcome_cursor start)]
  cases stray : start.leftOver with
  | some scope =>
    constructor
    · rintro ⟨⟩
      exact ⟨scope, rfl, rfl⟩
    · rintro ⟨_, ⟨⟩, rfl⟩
      rfl
  | none =>
    rw [ended]
    constructor
    · rintro ⟨⟩
    · rintro ⟨_, ⟨⟩, -⟩

end Elementary

/-! ## Items with commas -/

/-- A punctuation mark stands at the head, and what follows it is left. -/
def Sign (character : Char) (start stop : Cursor) : Prop :=
  ∃ joint rest, start.tokens = .mark character joint :: rest ∧ stop = { start with tokens := rest }

/-- `CommaList item start items stop`: items follow each other up to the end of the group, with a
comma between two and perhaps after the last. -/
inductive CommaList {α : Type} (item : Cursor → α → Cursor → Prop) :
    Cursor → List α → Cursor → Prop
  | nil {start} (done : start.tokens = []) : CommaList item start [] start
  | last {start a stop} (more : start.tokens ≠ []) (first : item start a stop)
      (done : stop.tokens = []) : CommaList item start [a] stop
  | cons {start a between next rest stop} (more : start.tokens ≠ []) (first : item start a between)
      (comma : Sign ',' between next) (others : CommaList item next rest stop) :
      CommaList item start (a :: rest) stop

/-- `CommaPrefix item start items here`: items follow each other, each with a comma after it, and
another one is to follow. -/
inductive CommaPrefix {α : Type} (item : Cursor → α → Cursor → Prop) :
    Cursor → List α → Cursor → Prop
  | nil {start} (more : start.tokens ≠ []) : CommaPrefix item start [] start
  | cons {start a between next rest here} (more : start.tokens ≠ []) (first : item start a between)
      (comma : Sign ',' between next) (others : CommaPrefix item next rest here) :
      CommaPrefix item start (a :: rest) here

variable {ε α σ : Type} {start stop : Cursor}

theorem Sign.length {character : Char} (taken : Sign character start stop) :
    start.tokens.length = stop.tokens.length + 1 := by
  obtain ⟨joint, rest, here, rfl⟩ := taken
  rw [here]
  rfl

/-- A list of items ends with its group. -/
theorem CommaList.done {item : Cursor → α → Cursor → Prop} {items : List α}
    (listed : CommaList item start items stop) : stop.tokens = [] := by
  induction listed with
  | nil done | last _ _ done => exact done
  | cons _ _ _ _ ih => exact ih

/-- A mark of one character is a sign. -/
theorem mark_iff_sign {operator : String} {character : Char}
    (single : operator.toList = [character]) :
    (∃ found, (mark operator).outcome start = .ok (found, stop)) ↔ Sign character start stop := by
  have one : operator.length = 1 := by rw [← String.length_toList, single]; rfl
  constructor
  · rintro ⟨found, taken⟩
    obtain ⟨here, -, rfl⟩ := mark_eq_ok_iff.1 taken
    obtain ⟨tokens, scope, leftOver⟩ := start
    rw [Token.startsWith, single] at here
    match tokens, here with
    | .mark other joint :: rest, here =>
      obtain rfl : character = other := by simpa [Token.startsMarks] using here
      exact ⟨joint, rest, rfl, by rw [one]; rfl⟩
  · rintro ⟨joint, rest, here, rfl⟩
    refine ⟨_, mark_eq_ok_iff.2 ⟨?_, rfl, ?_⟩⟩
    · simp [Token.startsWith, single, here, Token.startsMarks]
    · rw [one, here]
      rfl

/-- A mark of one character is missed just where no sign stands. -/
theorem mark_eq_error_iff_sign {operator : String} {character : Char} {error : SyntaxError}
    (single : operator.toList = [character]) :
    (mark operator).outcome start = .error error ↔
      (∀ stop, ¬ Sign character start stop) ∧ error = .expected [.mark operator] false := by
  refine mark_eq_error_iff.trans (and_congr_left fun _ => ?_)
  rw [← not_exists, not_iff_not]
  constructor
  · intro here
    exact ⟨_, (mark_iff_sign single).1 ⟨_, mark_eq_ok_iff.2 ⟨here, rfl, rfl⟩⟩⟩
  · rintro ⟨stop, sign⟩
    obtain ⟨found, taken⟩ := (mark_iff_sign single).2 sign
    exact (mark_eq_ok_iff.1 taken).1

section TakeIn

variable {item : σ → ReaderOf ε σ} {separator : ReaderOf ε (List Token)} {taken taken' : σ}

/-- At the end of the group nothing is taken in. -/
theorem outcome_takeInAtMost_of_done (bound : Nat) (done : start.tokens = []) :
    (takeInAtMost separator item bound taken).outcome start = .ok (taken, start) := by
  cases bound with
  | zero => rfl
  | succ bound =>
    unfold takeInAtMost
    rw [outcome_bind_of_ok (outcome_atEnd start), done]
    rfl

/-- Before the end an item is taken in, and another one after a separator. -/
theorem takeInAtMost_eq_ok_iff_of_more {bound : Nat} (more : start.tokens ≠ []) :
    (takeInAtMost separator item (bound + 1) taken).outcome start = .ok (taken', stop) ↔
      ∃ with' between, (item taken).outcome start = .ok (with', between) ∧
        ((between.tokens = [] ∧ taken' = with' ∧ stop = between) ∨
          (between.tokens ≠ [] ∧ ∃ found next,
            separator.outcome between = .ok (found, next) ∧
              (takeInAtMost separator item bound with').outcome next = .ok (taken', stop))) := by
  have goesOn : start.tokens.isEmpty = false := by simpa using more
  rw [takeInAtMost, outcome_bind_of_ok (outcome_atEnd start), goesOn, if_neg Bool.false_ne_true]
  rw [outcome_bind_eq_ok_iff]
  refine exists_congr fun with' => exists_congr fun between => and_congr_right fun _ => ?_
  rw [outcome_bind_of_ok (outcome_atEnd between)]
  by_cases done : between.tokens = []
  · simp only [done, List.isEmpty_nil, if_true, outcome_pure]
    constructor
    · rintro ⟨⟩
      exact .inl ⟨trivial, rfl, rfl⟩
    · rintro (⟨-, rfl, rfl⟩ | ⟨other, -⟩)
      · rfl
      · exact absurd rfl other
  · have goesOn : between.tokens.isEmpty = false := by simpa using done
    rw [goesOn, if_neg Bool.false_ne_true, outcome_bind_eq_ok_iff]
    constructor
    · exact fun later => .inr ⟨done, later⟩
    · rintro (⟨other, -⟩ | ⟨-, later⟩)
      · exact absurd other done
      · exact later

/-- If a reader takes in one item at a time, it takes in lists of items. -/
theorem takeIn_eq_ok_iff {grammar : Cursor → α → Cursor → Prop} {add : σ → α → Option σ}
    (separates : ∀ start stop, (∃ found, separator.outcome start = .ok (found, stop)) ↔
      Sign ',' start stop)
    (items : ∀ taken start taken' stop, (item taken).outcome start = .ok (taken', stop) ↔
      ∃ a, grammar start a stop ∧ add taken a = some taken') :
    (takeIn separator item taken).outcome start = .ok (taken', stop) ↔
      ∃ found, CommaList grammar start found stop ∧ found.foldlM add taken = some taken' := by
  -- The bound suffices, for each further item comes after a separator.
  have enough : ∀ bound start taken, start.tokens.length < bound →
      ((takeInAtMost separator item bound taken).outcome start = .ok (taken', stop) ↔
        ∃ found, CommaList grammar start found stop ∧ found.foldlM add taken = some taken') := by
    intro bound
    induction bound with
    | zero => exact fun _ _ short => absurd short (Nat.not_lt_zero _)
    | succ bound ih =>
      intro start taken short
      by_cases done : start.tokens = []
      · rw [outcome_takeInAtMost_of_done _ done]
        constructor
        · rintro ⟨⟩
          exact ⟨[], .nil done, rfl⟩
        · rintro ⟨found, listed, added⟩
          cases listed with
          | nil =>
            cases added
            rfl
          | last more | cons more => exact absurd done more
      · rw [takeInAtMost_eq_ok_iff_of_more done]
        constructor
        · rintro ⟨with', between, first, ⟨ended, rfl, rfl⟩ | ⟨-, mark, next, comma, others⟩⟩
          · obtain ⟨a, spelled, added⟩ := (items _ _ _ _).1 first
            exact ⟨[a], .last done spelled ended, by simp [added]⟩
          · obtain ⟨a, spelled, added⟩ := (items _ _ _ _).1 first
            have comma := (separates _ _).1 ⟨mark, comma⟩
            have shorter := comma.length
            have taken := length_le first
            obtain ⟨rest, listed, added'⟩ := (ih next with' (by omega)).1 others
            exact ⟨a :: rest, .cons done spelled comma listed, by simp [added, added']⟩
        · rintro ⟨found, listed, added⟩
          cases listed with
          | nil ended => exact absurd ended done
          | @last _ a _ _ spelled ended =>
            have added : add taken a = some taken' := by simpa using added
            exact ⟨taken', stop, (items _ _ _ _).2 ⟨a, spelled, added⟩, .inl ⟨ended, rfl, rfl⟩⟩
          | @cons _ a between next rest _ _ spelled comma listed =>
            rw [List.foldlM_cons] at added
            obtain ⟨with', first, others⟩ := Option.bind_eq_some_iff.1 added
            have read := (items _ _ _ _).2 ⟨a, spelled, first⟩
            have shorter := comma.length
            have taken := length_le read
            obtain ⟨mark, separated⟩ := (separates _ _).2 comma
            refine ⟨with', between, read, .inr ⟨?_, mark, next, separated, ?_⟩⟩
            · intro ended
              rw [ended] at shorter
              cases shorter
            · exact (ih next with' (by omega)).2 ⟨rest, listed, others⟩
  unfold takeIn
  rw [outcome_bind_of_ok (outcome_cursor start)]
  exact enough _ start taken (Nat.lt_succ_self _)

/-- Before the end an item fails, or the separator after it, or what follows that. -/
theorem takeInAtMost_eq_error_iff_of_more {bound : Nat} {error : ε} (more : start.tokens ≠ []) :
    (takeInAtMost separator item (bound + 1) taken).outcome start = .error error ↔
      (item taken).outcome start = .error error ∨
      ∃ with' between, (item taken).outcome start = .ok (with', between) ∧ between.tokens ≠ [] ∧
        (separator.outcome between = .error error ∨ ∃ found next,
          separator.outcome between = .ok (found, next) ∧
            (takeInAtMost separator item bound with').outcome next = .error error) := by
  have goesOn : start.tokens.isEmpty = false := by simpa using more
  rw [takeInAtMost, outcome_bind_of_ok (outcome_atEnd start), goesOn, if_neg Bool.false_ne_true]
  rw [outcome_bind_eq_error_iff]
  refine or_congr_right (exists_congr fun with' => exists_congr fun between =>
    and_congr_right fun _ => ?_)
  rw [outcome_bind_of_ok (outcome_atEnd between)]
  by_cases done : between.tokens = []
  · simp only [done, List.isEmpty_nil, if_true, outcome_pure]
    constructor
    · rintro ⟨⟩
    · rintro ⟨other, -⟩
      exact absurd rfl other
  · have goesOn : between.tokens.isEmpty = false := by simpa using done
    rw [goesOn, if_neg Bool.false_ne_true, outcome_bind_eq_error_iff]
    exact (and_iff_right done).symm

/-- If a reader takes in one item at a time, it goes wrong at an item after some others with commas,
or for want of a comma after one. -/
theorem takeIn_eq_error_iff {grammar : Cursor → α → Cursor → Prop} {add : σ → α → Option σ}
    {error : ε}
    (separates : ∀ start stop, (∃ found, separator.outcome start = .ok (found, stop)) ↔
      Sign ',' start stop)
    (items : ∀ taken start taken' stop, (item taken).outcome start = .ok (taken', stop) ↔
      ∃ a, grammar start a stop ∧ add taken a = some taken') :
    (takeIn separator item taken).outcome start = .error error ↔
      ∃ found here before, CommaPrefix grammar start found here ∧
        found.foldlM add taken = some before ∧
        ((item before).outcome here = .error error ∨
          ∃ a between after, grammar here a between ∧ add before a = some after ∧
            between.tokens ≠ [] ∧ separator.outcome between = .error error) := by
  have enough : ∀ bound start taken, start.tokens.length < bound →
      ((takeInAtMost separator item bound taken).outcome start = .error error ↔
        ∃ found here before, CommaPrefix grammar start found here ∧
          found.foldlM add taken = some before ∧
          ((item before).outcome here = .error error ∨
            ∃ a between after, grammar here a between ∧ add before a = some after ∧
              between.tokens ≠ [] ∧ separator.outcome between = .error error)) := by
    intro bound
    induction bound with
    | zero => exact fun _ _ short => absurd short (Nat.not_lt_zero _)
    | succ bound ih =>
      intro start taken short
      by_cases done : start.tokens = []
      · rw [outcome_takeInAtMost_of_done _ done]
        constructor
        · rintro ⟨⟩
        · rintro ⟨found, here, before, listed, -⟩
          cases listed with
          | nil more | cons more => exact absurd done more
      · rw [takeInAtMost_eq_error_iff_of_more done]
        constructor
        · rintro (failed | ⟨with', between, first, more, failed | ⟨mark, next, comma, others⟩⟩)
          · exact ⟨[], start, taken, .nil done, rfl, .inl failed⟩
          · obtain ⟨a, spelled, added⟩ := (items _ _ _ _).1 first
            exact ⟨[], start, taken, .nil done, rfl,
              .inr ⟨a, between, with', spelled, added, more, failed⟩⟩
          · obtain ⟨a, spelled, added⟩ := (items _ _ _ _).1 first
            have comma := (separates _ _).1 ⟨mark, comma⟩
            have shorter := comma.length
            have taken := length_le first
            obtain ⟨rest, here, before, listed, added', failed⟩ :=
              (ih next with' (by omega)).1 others
            exact ⟨a :: rest, here, before, .cons done spelled comma listed,
              by simp [added, added'], failed⟩
        · rintro ⟨found, here, before, listed, added, failed⟩
          cases listed with
          | nil =>
            cases added
            refine failed.imp id ?_
            rintro ⟨a, between, after, spelled, added, more, failed⟩
            exact ⟨after, between, (items _ _ _ _).2 ⟨a, spelled, added⟩, more, .inl failed⟩
          | @cons _ a between next rest _ _ spelled comma listed =>
            rw [List.foldlM_cons] at added
            obtain ⟨with', first, others⟩ := Option.bind_eq_some_iff.1 added
            have read := (items _ _ _ _).2 ⟨a, spelled, first⟩
            have shorter := comma.length
            have taken := length_le read
            obtain ⟨mark, separated⟩ := (separates _ _).2 comma
            refine .inr ⟨with', between, read, ?_, .inr ⟨mark, next, separated, ?_⟩⟩
            · intro ended
              rw [ended] at shorter
              cases shorter
            · exact (ih next with' (by omega)).2 ⟨rest, here, before, listed, others, failed⟩
  unfold takeIn
  rw [outcome_bind_of_ok (outcome_cursor start)]
  exact enough _ start taken (Nat.lt_succ_self _)

end TakeIn

/-- What a reader finds again and again is a list of what it finds once. -/
theorem commaSeparated_eq_ok_iff {reader : Reader α} {found : List α} :
    (commaSeparated reader).outcome start = .ok (found, stop) ↔
      CommaList (fun start a stop => reader.outcome start = .ok (a, stop)) start found stop := by
  have collected : ∀ (more found : List α),
      more.foldlM (fun found a => some (found ++ [a])) found = some (found ++ more) := by
    intro more
    induction more with
    | nil => simp
    | cons a rest ih => simp [ih]
  have step : ∀ (found : List α) start found' stop,
      (do return found ++ [← reader] : Reader (List α)).outcome start = .ok (found', stop) ↔
        ∃ a, reader.outcome start = .ok (a, stop) ∧ some (found ++ [a]) = some found' := by
    intro found start found' stop
    rw [outcome_bind_eq_ok_iff]
    constructor
    · rintro ⟨a, between, read, ⟨⟩⟩
      exact ⟨a, read, rfl⟩
    · rintro ⟨a, read, ⟨⟩⟩
      exact ⟨a, stop, read, rfl⟩
  unfold commaSeparated
  rw [takeIn_eq_ok_iff (fun _ _ => mark_iff_sign rfl) step]
  simp only [collected, List.nil_append, Option.some.injEq, exists_eq_right]

end Reader

end RecordSchema
