import RecordSchema.Proofs.Growth
import RecordSchema.Text.Identifier

/-!
# Each type has a path of its own

The path of a type is put together from words and from the paths of its parts: arguments stand in
angle brackets with commas between them, slices and arrays in square brackets, and a reference has a
mere prefix.  Native paths are texts of their own, some of which have brackets and blanks in them.

That the path tells the type is shown by reading it from the left.  A word goes as far as its
characters do, and the character after it says how the type goes on (`Spelling.lead`).  A path that
stands inside another one is followed by a comma, a semicolon or a closing bracket, and none of
these continues a path; so it is read the same way wherever it stands (`Universe.Spelled.reads`).

Under the policy of qualified keys it follows that a cache never takes one type for another.
-/

namespace RecordSchema

variable {n : Nat}

/-! ## Words -/

/-- A character of the words in paths. -/
def isPathChar (c : Char) : Bool := c == ':' || isIdentifierContinue c

/-- The characters that may follow the first word of a path. -/
def leadChars : List Char := ['<', ' ', '&', '[']

/-- The characters that may follow a path inside of another one. -/
def stopChars : List Char := [',', ';', '>', ']']

theorem isPathChar_eq_false {c : Char} (mark : c ∈ leadChars ++ stopChars) :
    isPathChar c = false := by
  have all : (leadChars ++ stopChars).all (fun c => !isPathChar c) := by decide +kernel
  simpa using List.all_eq_true.1 all c mark

/-- A text that does not continue a path: it is empty, or begins with what may follow one. -/
def Stopped (rest : List Char) : Prop := ∀ c ∈ rest.head?, c ∈ stopChars

/-- Two texts that begin with words of some characters and go on with other characters, are equal
only if the words are. -/
theorem word_append_inj {p : Char → Bool} {word word' rest rest' : List Char}
    (inside : ∀ c ∈ word, p c) (inside' : ∀ c ∈ word', p c)
    (outside : ∀ c ∈ rest.head?, p c = false) (outside' : ∀ c ∈ rest'.head?, p c = false)
    (same : word ++ rest = word' ++ rest') : word = word' ∧ rest = rest' := by
  have ends : ∀ rest : List Char, (∀ c ∈ rest.head?, p c = false) → rest.takeWhile p = [] := by
    intro rest outside
    cases rest with
    | nil => rfl
    | cons c rest => simp [outside c rfl]
  have first := congrArg (List.takeWhile p) same
  rw [List.takeWhile_append_of_pos inside, List.takeWhile_append_of_pos inside', ends rest outside,
    ends rest' outside', List.append_nil, List.append_nil] at first
  subst first
  exact ⟨rfl, List.append_cancel_left same⟩

/-! ## Native paths -/

/-- The word that a native path begins with. -/
def Native.word (type : Native) : List Char :=
  type.path.toList.takeWhile fun c => c != '<' && c != ' '

/-- What follows the first word of a native path. -/
def Native.tail (type : Native) : List Char :=
  type.path.toList.dropWhile fun c => c != '<' && c != ' '

/-- The native paths, and the word that the paths of points in time with a time zone begin with. -/
def nativePaths : List String := Native.all.map Native.path ++ ["chrono::DateTime"]

namespace Native

theorem word_append_tail (type : Native) : type.word ++ type.tail = type.path.toList :=
  List.takeWhile_append_dropWhile

theorem isPathChar_of_mem_word (type : Native) : ∀ c ∈ type.word, isPathChar c := by
  have words : ∀ type ∈ all, type.word.all isPathChar := by decide +kernel
  exact List.all_eq_true.1 (words type type.mem_all)

/-- A blank or an angle bracket may follow the first word of a native path. -/
theorem mem_head?_tail {type : Native} {c : Char} (head : c ∈ type.tail.head?) :
    c ∈ ['<', ' '] := by
  have failed := List.head?_dropWhile_not (fun c => c != '<' && c != ' ') type.path.toList
  rw [show (type.path.toList.dropWhile _).head? = some c from head] at failed
  simpa [or_iff_not_imp_left] using failed

/-- A native path is read the same way wherever it stands: where one is the beginning of another,
it is not followed as in a path. -/
theorem append_inj {type type' : Native} {rest rest' : List Char} (stopped : Stopped rest)
    (stopped' : Stopped rest') (same : type.path.toList ++ rest = type'.path.toList ++ rest') :
    type = type' ∧ rest = rest' := by
  have beginnings : ∀ a ∈ all, ∀ b ∈ all, a.path.toList <+: b.path.toList →
      a = b ∨ (b.path.toList.drop a.path.toList.length).head?.any (· ∉ stopChars) := by
    decide +kernel
  have begins : ∀ {a b : Native} {middle rest : List Char},
      b.path.toList = a.path.toList ++ middle → Stopped (middle ++ rest) → a = b := by
    intro a b middle rest longer stopped
    refine (beginnings a a.mem_all b b.mem_all ⟨middle, longer.symm⟩).resolve_right fun other => ?_
    rw [longer, List.drop_left, Option.any_eq_true] at other
    obtain ⟨c, head, continues⟩ := other
    refine of_decide_eq_true continues (stopped c ?_)
    rw [List.head?_append, head]
    rfl
  rcases List.append_eq_append_iff.1 same with ⟨middle, longer, rfl⟩ | ⟨middle, longer, rfl⟩
  · obtain rfl := begins longer stopped
    exact ⟨rfl, List.append_cancel_left same⟩
  · obtain rfl := begins longer stopped'
    exact ⟨rfl, List.append_cancel_left same⟩

/-- Without a blank after it, the first word is a native path or the one of points in time. -/
theorem word_mem (type : Native) (unblank : type.tail.head? ≠ some ' ') :
    String.ofList type.word ∈ nativePaths := by
  have words : ∀ type ∈ all, type.tail.head? ≠ some ' ' →
      String.ofList type.word ∈ nativePaths := by
    decide +kernel
  exact words type type.mem_all unblank

end Native

/-! ## How paths are put together -/

/-- The path of a declared type: its base path, with the paths of its arguments in angle brackets if
it has any. -/
def recordPath (base : String) (arguments : List String) : String :=
  if arguments.isEmpty then base else base ++ "<" ++ ", ".intercalate arguments ++ ">"

theorem recordPath_singleton (base argument : String) :
    recordPath base [argument] = base ++ "<" ++ argument ++ ">" := by
  simp [recordPath]

theorem recordPath_pair (base first second : String) :
    recordPath base [first, second] = base ++ "<" ++ first ++ ", " ++ second ++ ">" := by
  simp [recordPath, String.append_assoc]

/-- What the path of a type is put together from. -/
inductive Spelling (n : Nat) where
  /-- A text of its own. -/
  | native (type : Native)
  /-- A word with arguments in angle brackets, if there are any. -/
  | applied (head : String) (arguments : List (TypeExpr n))
  | reference (pointee : TypeExpr n)
  | slice (item : TypeExpr n)
  | array (item : TypeExpr n) (length : Nat)

/-- The built-in containers with one argument. -/
def unaryContainers : List (String × (TypeExpr n → TypeExpr n)) :=
  [("alloc::vec::Vec", .list .vec), ("alloc::collections::VecDeque", .list .deque),
   ("alloc::boxed::Box", .pointer .box), ("alloc::rc::Rc", .pointer .rc),
   ("alloc::sync::Arc", .pointer .arc), ("core::option::Option", .pointer .option)]

/-- The built-in containers with two arguments. -/
def binaryContainers : List (String × (TypeExpr n → TypeExpr n → TypeExpr n)) :=
  [("std::collections::HashMap", .map .hash), ("alloc::collections::BTreeMap", .map .btree)]

/-- The paths of the built-in containers, without arguments. -/
def containerPaths : List String :=
  ["alloc::vec::Vec", "alloc::collections::VecDeque", "alloc::boxed::Box", "alloc::rc::Rc",
   "alloc::sync::Arc", "core::option::Option", "std::collections::HashMap",
   "alloc::collections::BTreeMap"]

section Spellings

variable (base : Fin n → String) (arguments : Fin n → List (TypeExpr n))

/-- How the path of a type is put together, if declared types have these bases and arguments. -/
def TypeExpr.spelling : TypeExpr n → Spelling n
  | .native type => .native type
  | .declared index => .applied (base index) (arguments index)
  | .list .vec item => .applied "alloc::vec::Vec" [item]
  | .list .deque item => .applied "alloc::collections::VecDeque" [item]
  | .list .slice item => .slice item
  | .array item length => .array item length
  | .pointer .reference pointee => .reference pointee
  | .pointer .box pointee => .applied "alloc::boxed::Box" [pointee]
  | .pointer .rc pointee => .applied "alloc::rc::Rc" [pointee]
  | .pointer .arc pointee => .applied "alloc::sync::Arc" [pointee]
  | .pointer .option pointee => .applied "core::option::Option" [pointee]
  | .map .hash key value => .applied "std::collections::HashMap" [key, value]
  | .map .btree key value => .applied "alloc::collections::BTreeMap" [key, value]

end Spellings

namespace Spelling

/-- The type with a spelling, unless it is declared. -/
def builtIn? : Spelling n → Option (TypeExpr n)
  | .native type => some (.native type)
  | .applied head [argument] => (unaryContainers.lookup head).map fun make => make argument
  | .applied head [key, value] => (binaryContainers.lookup head).map fun make => make key value
  | .applied _ _ => none
  | .reference pointee => some (.pointer .reference pointee)
  | .slice item => some (.list .slice item)
  | .array item length => some (.array item length)

/-- The path that is put together, where `path` gives the paths of the parts. -/
def path (path : TypeExpr n → String) : Spelling n → String
  | .native type => type.path
  | .applied head parts => recordPath head (parts.map path)
  | .reference pointee => "&" ++ path pointee
  | .slice item => "[" ++ path item ++ "]"
  | .array item length => arrayText (path item) length

/-- The word that a path begins with. -/
def word : Spelling n → List Char
  | .native type => type.word
  | .applied head _ => head.toList
  | .reference _ | .slice _ | .array _ _ => []

/-- What follows an argument: the other arguments and the closing bracket. -/
def closing (path : TypeExpr n → String) : List (TypeExpr n) → List Char
  | [] => ['>']
  | next :: others => ',' :: ' ' :: ((path next).toList ++ closing path others)

/-- What follows the first word of a path. -/
def tail (path : TypeExpr n → String) : Spelling n → List Char
  | .native type => type.tail
  | .applied _ [] => []
  | .applied _ (first :: others) => '<' :: ((path first).toList ++ closing path others)
  | .reference pointee => '&' :: (path pointee).toList
  | .slice item => '[' :: ((path item).toList ++ [']'])
  | .array item length =>
    '[' :: ((path item).toList ++ (';' :: ' ' :: ((toString length).toList ++ [']'])))

/-- The parts whose paths are in a path. -/
def parts : Spelling n → List (TypeExpr n)
  | .native _ => []
  | .applied _ parts => parts
  | .reference part | .slice part | .array part _ => [part]

/-- A word with arguments is not the word of a native path. -/
def Apart : Spelling n → Prop
  | .applied head _ => head ∉ nativePaths
  | _ => True

/-- The character that shows how a path goes on after its first word. -/
def lead : Spelling n → Option Char
  | .native type => type.tail.head?
  | .applied _ [] => none
  | .applied _ (_ :: _) => some '<'
  | .reference _ => some '&'
  | .slice _ | .array _ _ => some '['

theorem intercalate_eq_closing (path : TypeExpr n → String) (first : TypeExpr n)
    (others : List (TypeExpr n)) :
    (", ".intercalate ((first :: others).map path)).toList ++ ['>'] =
      (path first).toList ++ closing path others := by
  induction others generalizing first with
  | nil => simp [closing]
  | cons next others ih =>
    have later := ih next
    simp only [String.toList_intercalate, List.map_cons] at later ⊢
    rw [List.intercalate_cons_cons, List.append_assoc, later, closing, List.append_assoc]
    rfl

theorem toList_path (path : TypeExpr n → String) (spelling : Spelling n) :
    (spelling.path path).toList = spelling.word ++ spelling.tail path := by
  cases spelling with
  | native type => exact type.word_append_tail.symm
  | applied head parts =>
    cases parts with
    | nil => simp [Spelling.path, recordPath, word, tail]
    | cons first others =>
      have closes := intercalate_eq_closing path first others
      simpa [Spelling.path, recordPath, word, tail] using closes
  | reference pointee => simp [Spelling.path, word, tail]
  | slice item => simp [Spelling.path, word, tail]
  | array item length => simp [Spelling.path, arrayText, word, tail]

theorem head?_tail (path : TypeExpr n → String) (spelling : Spelling n) :
    (spelling.tail path).head? = spelling.lead := by
  cases spelling with
  | applied head parts => cases parts <;> rfl
  | native | reference | slice | array => rfl

theorem lead_mem {spelling : Spelling n} {c : Char} (leads : spelling.lead = some c) :
    c ∈ leadChars := by
  cases spelling with
  | native type => exact List.mem_append_left ['&', '['] (Native.mem_head?_tail leads)
  | applied head parts =>
    cases parts <;> cases leads
    decide
  | reference | slice | array =>
    cases leads
    decide

/-- What leads a path on does not follow one. -/
theorem lead_not_stop {spelling : Spelling n} {c : Char} (leads : spelling.lead = some c) :
    c ∉ stopChars := by
  have apart : ∀ c ∈ leadChars, c ∉ stopChars := by simp [leadChars, stopChars]
  exact apart c (lead_mem leads)

/-- Only the paths of containers are read as built-in types with arguments. -/
theorem builtIn?_of_free {head : String} {parts : List (TypeExpr n)}
    (free : head ∉ containerPaths) : (applied head parts).builtIn? = none := by
  have absent : ∀ {α : Type} (table : List (String × α)), table.map Prod.fst ⊆ containerPaths →
      table.lookup head = none := by
    intro α table inside
    refine List.lookup_eq_none_iff.2 fun entry listed => ?_
    have path : entry.1 ∈ containerPaths := inside (List.mem_map_of_mem listed)
    simpa using fun same : head = entry.1 => free (same ▸ path)
  have unary := absent (unaryContainers (n := n)) (by simp [unaryContainers, containerPaths])
  have binary := absent (binaryContainers (n := n)) (by simp [binaryContainers, containerPaths])
  match parts with
  | [] | _ :: _ :: _ :: _ => rfl
  | [_] => rw [builtIn?, unary, Option.map_none]
  | [_, _] => rw [builtIn?, binary, Option.map_none]

/-- Texts that go on in the same way have the same character leading on. -/
theorem lead_eq {path : TypeExpr n → String} {spelling spelling' : Spelling n}
    {rest rest' : List Char} (stopped : Stopped rest) (stopped' : Stopped rest')
    (same : spelling.tail path ++ rest = spelling'.tail path ++ rest') :
    spelling.lead = spelling'.lead := by
  have heads := congrArg List.head? same
  rw [List.head?_append, List.head?_append, head?_tail, head?_tail] at heads
  cases leads : spelling.lead <;> cases leads' : spelling'.lead <;> rw [leads, leads'] at heads
  · exact absurd (stopped _ heads) (lead_not_stop leads')
  · exact absurd (stopped' _ heads.symm) (lead_not_stop leads)
  · exact heads

theorem stopped_closing (path : TypeExpr n → String) (others : List (TypeExpr n))
    (rest : List Char) : Stopped (closing path others ++ rest) := by
  cases others <;> simp [closing, Stopped, stopChars]

/-- A word with arguments is not read as a native path. -/
theorem not_native_of_applied {head : String} {parts : List (TypeExpr n)} {type : Native}
    (apart : (applied head parts).Apart)
    (words : (applied head parts).word = (native type : Spelling n).word)
    (leads : (applied head parts).lead = (native type : Spelling n).lead) : False := by
  have words' : head.toList = type.word := words
  have unblank : type.tail.head? ≠ some ' ' := by
    intro blank
    have lead : (native type : Spelling n).lead = some ' ' := blank
    rw [lead] at leads
    cases parts <;> cases leads
  refine apart ?_
  rw [← String.ofList_toList (s := head), words']
  exact type.word_mem unblank

/-- A word ends where its path goes on, and where the path ends. -/
theorem isPathChar_of_head?_tail {path : TypeExpr n → String} {spelling : Spelling n}
    {rest : List Char} (stopped : Stopped rest) :
    ∀ c ∈ (spelling.tail path ++ rest).head?, isPathChar c = false := by
  intro c head
  rw [List.head?_append, head?_tail] at head
  cases leads : spelling.lead with
  | none =>
    have stop : c ∈ stopChars := stopped c (by simpa [leads] using head)
    exact isPathChar_eq_false (List.mem_append_right _ stop)
  | some first =>
    obtain rfl : first = c := by simpa [leads] using head
    exact isPathChar_eq_false (List.mem_append_left _ (lead_mem leads))

theorem length_lt_closing (path : TypeExpr n → String) {part : TypeExpr n}
    {others : List (TypeExpr n)} (listed : part ∈ others) :
    (path part).toList.length < (closing path others).length := by
  induction others with
  | nil => cases listed
  | cons next others ih =>
    simp only [closing, List.length_cons, List.length_append]
    rcases List.mem_cons.1 listed with rfl | later
    · omega
    · have shorter := ih later
      omega

/-- The path of a part is shorter than the whole path. -/
theorem length_part_lt (path : TypeExpr n → String) {spelling : Spelling n} {part : TypeExpr n}
    (listed : part ∈ spelling.parts) :
    (path part).toList.length < (spelling.path path).toList.length := by
  rw [toList_path, List.length_append]
  cases spelling with
  | native type => cases listed
  | applied head parts =>
    cases parts with
    | nil => cases listed
    | cons first others =>
      simp only [tail, List.length_cons, List.length_append]
      rcases List.mem_cons.1 listed with rfl | later
      · omega
      · have shorter := length_lt_closing path later
        omega
  | reference | slice | array =>
    obtain rfl := List.mem_singleton.1 listed
    simp only [tail, List.length_cons, List.length_append]
    omega

/-- The path of a type is read the same way wherever it stands. -/
def Reads (path : TypeExpr n → String) (type : TypeExpr n) : Prop :=
  ∀ (other : TypeExpr n) (rest rest' : List Char), Stopped rest → Stopped rest' →
    (path type).toList ++ rest = (path other).toList ++ rest' → type = other ∧ rest = rest'

/-- A part is read where other text follows it that does not continue its path. -/
theorem Reads.part {path : TypeExpr n → String} {part part' : TypeExpr n}
    {after after' rest rest' : List Char} (reads : Reads path part)
    (stopped : Stopped (after ++ rest)) (stopped' : Stopped (after' ++ rest'))
    (same : (path part).toList ++ after ++ rest = (path part').toList ++ after' ++ rest') :
    part = part' ∧ after ++ rest = after' ++ rest' := by
  rw [List.append_assoc, List.append_assoc] at same
  exact reads part' _ _ stopped stopped' same

/-- What follows an argument is read up to the closing bracket. -/
theorem closing_append_inj {path : TypeExpr n → String} {others others' : List (TypeExpr n)}
    {rest rest' : List Char} (reads : ∀ part ∈ others, Reads path part)
    (same : closing path others ++ rest = closing path others' ++ rest') :
    others = others' ∧ rest = rest' := by
  induction others generalizing others' with
  | nil =>
    cases others' with
    | nil => exact ⟨rfl, (List.cons.inj same).2⟩
    | cons next' others' => exact absurd (List.cons.inj same).1 (by decide)
  | cons next others ih =>
    cases others' with
    | nil => exact absurd (List.cons.inj same).1 (by decide)
    | cons next' others' =>
      obtain ⟨rfl, later⟩ := (reads next List.mem_cons_self).part (stopped_closing path _ _)
        (stopped_closing path _ _) (List.cons.inj (List.cons.inj same).2).2
      obtain ⟨rfl, rfl⟩ := ih (fun part listed => reads part (List.mem_cons_of_mem _ listed)) later
      exact ⟨rfl, rfl⟩

/-- What follows the word of a type with arguments is read argument by argument. -/
theorem arguments_append_inj {path : TypeExpr n → String} {head head' : String}
    {parts parts' : List (TypeExpr n)} {rest rest' : List Char}
    (reads : ∀ part ∈ parts, Reads path part)
    (leads : (applied head parts).lead = (applied head' parts').lead)
    (same : (applied head parts).tail path ++ rest = (applied head' parts').tail path ++ rest') :
    parts = parts' ∧ rest = rest' := by
  cases parts with
  | nil =>
    cases parts' with
    | nil => exact ⟨rfl, same⟩
    | cons => cases leads
  | cons first others =>
    cases parts' with
    | nil => cases leads
    | cons first' others' =>
      obtain ⟨rfl, later⟩ := (reads first List.mem_cons_self).part (stopped_closing path _ _)
        (stopped_closing path _ _) (List.cons.inj same).2
      obtain ⟨rfl, rfl⟩ := closing_append_inj
        (fun part listed => reads part (List.mem_cons_of_mem _ listed)) later
      exact ⟨rfl, rfl⟩

/-- What follows an opening square bracket is read up to the end of the item. -/
theorem bracketed_append_inj {path : TypeExpr n → String} {item item' : TypeExpr n} {c c' : Char}
    {close close' rest rest' : List Char} (reads : Reads path item) (ends : c ∈ stopChars)
    (ends' : c' ∈ stopChars)
    (same : '[' :: ((path item).toList ++ c :: close) ++ rest =
      '[' :: ((path item').toList ++ c' :: close') ++ rest') :
    item = item' ∧ c :: close ++ rest = c' :: close' ++ rest' :=
  reads.part (by simpa [Stopped] using ends) (by simpa [Stopped] using ends') (List.cons.inj same).2

/-- The length of an array ends before the closing bracket. -/
theorem length_append_inj {length length' : Nat} {rest rest' : List Char}
    (same : (toString length).toList ++ ']' :: rest = (toString length').toList ++ ']' :: rest') :
    length = length' ∧ rest = rest' := by
  have isDigit : ∀ length : Nat, ∀ c ∈ (toString length).toList, c.isDigit := by
    intro length c inside
    refine Nat.isDigit_of_mem_toDigits (b := 10) (n := length) (by decide) (by decide) ?_
    simpa using inside
  obtain ⟨texts, ends⟩ := word_append_inj (isDigit length) (isDigit length') (by simp) (by simp)
    same
  have digits : Nat.toDigits 10 length = Nat.toDigits 10 length' := by simpa using texts
  refine ⟨?_, (List.cons.inj ends).2⟩
  rw [← Nat.ofDigitChars_ten_toDigits (n := length), digits, Nat.ofDigitChars_ten_toDigits]

/-- What is written in front of a path or around it, is not read as a native path. -/
theorem lead_native_ne {type : Native} {c : Char} (apart : c ∉ ['<', ' ']) :
    (native type : Spelling n).lead ≠ some c := fun leads =>
  apart (Native.mem_head?_tail leads)

/-- Two spellings with the same word and the same text after it are the same, if their parts are
read wherever they stand. -/
theorem tail_append_inj {path : TypeExpr n → String} {spelling spelling' : Spelling n}
    {rest rest' : List Char} (reads : ∀ part ∈ spelling.parts, Reads path part)
    (apart : spelling.Apart) (apart' : spelling'.Apart) (stopped : Stopped rest)
    (stopped' : Stopped rest') (words : spelling.word = spelling'.word)
    (tails : spelling.tail path ++ rest = spelling'.tail path ++ rest') :
    spelling = spelling' ∧ rest = rest' := by
  have leads := lead_eq stopped stopped' tails
  cases spelling with
  | native type =>
    cases spelling' with
    | native type' =>
      have whole : type.path.toList ++ rest = type'.path.toList ++ rest' := by
        rw [← type.word_append_tail, ← type'.word_append_tail, List.append_assoc,
          List.append_assoc, show type.word = type'.word from words]
        exact congrArg _ tails
      obtain ⟨rfl, rfl⟩ := Native.append_inj stopped stopped' whole
      exact ⟨rfl, rfl⟩
    | applied head parts => exact (not_native_of_applied apart' words.symm leads.symm).elim
    | reference | slice | array => exact (lead_native_ne (by decide) leads).elim
  | applied head parts =>
    cases spelling' with
    | native type => exact (not_native_of_applied apart words leads).elim
    | applied head' parts' =>
      obtain rfl := String.toList_injective words
      obtain ⟨rfl, rfl⟩ := arguments_append_inj reads leads tails
      exact ⟨rfl, rfl⟩
    | reference | slice | array => cases parts <;> cases leads
  | reference pointee =>
    cases spelling' with
    | native type => exact (lead_native_ne (by decide) leads.symm).elim
    | applied head parts => cases parts <;> cases leads
    | reference pointee' =>
      obtain ⟨rfl, rfl⟩ := reads pointee List.mem_cons_self pointee' _ _ stopped stopped'
        (List.cons.inj tails).2
      exact ⟨rfl, rfl⟩
    | slice | array => cases leads
  | slice item =>
    have item_reads := reads item List.mem_cons_self
    cases spelling' with
    | native type => exact (lead_native_ne (by decide) leads.symm).elim
    | applied head parts => cases parts <;> cases leads
    | reference => cases leads
    | slice item' =>
      obtain ⟨rfl, ends⟩ := bracketed_append_inj item_reads (by decide) (by decide) tails
      exact ⟨rfl, (List.cons.inj ends).2⟩
    | array item' length' =>
      obtain ⟨-, ends⟩ := bracketed_append_inj item_reads (by decide) (by decide) tails
      exact absurd (List.cons.inj ends).1 (by decide)
  | array item length =>
    have item_reads := reads item List.mem_cons_self
    cases spelling' with
    | native type => exact (lead_native_ne (by decide) leads.symm).elim
    | applied head parts => cases parts <;> cases leads
    | reference => cases leads
    | slice item' =>
      obtain ⟨-, ends⟩ := bracketed_append_inj item_reads (by decide) (by decide) tails
      exact absurd (List.cons.inj ends).1 (by decide)
    | array item' length' =>
      obtain ⟨rfl, ends⟩ := bracketed_append_inj item_reads (by decide) (by decide) tails
      have closes : (toString length).toList ++ ']' :: rest =
          (toString length').toList ++ ']' :: rest' := by
        simpa using ends
      obtain ⟨rfl, rfl⟩ := length_append_inj closes
      exact ⟨rfl, rfl⟩

end Spelling

/-- The declarations of a universe have paths that are put together from bases and arguments.  The
bases are words, none is reserved, and base and arguments together tell a declaration: the instances
of a generic type are declared types with one base and different arguments. -/
structure Universe.Spelled (U : Universe n) (base : Fin n → String)
    (arguments : Fin n → List (TypeExpr n)) : Prop where
  path : ∀ index, (U.declaration index).path =
    recordPath (base index) ((arguments index).map U.path)
  word : ∀ index, ∀ c ∈ (base index).toList, isPathChar c
  free : ∀ index, base index ∉ nativePaths ++ containerPaths
  distinct : ∀ index index', base index = base index' → arguments index = arguments index' →
    index = index'

namespace Universe.Spelled

variable {U : Universe n} {base : Fin n → String} {arguments : Fin n → List (TypeExpr n)}

theorem path_eq (spelled : U.Spelled base arguments) (type : TypeExpr n) :
    U.path type = (type.spelling base arguments).path U.path := by
  cases type with
  | native | array => rfl
  | declared index => exact spelled.path index
  | list shape item =>
    cases shape with
    | slice => rfl
    | vec | deque =>
      change _ = recordPath _ [U.path item]
      rw [recordPath_singleton]
      rfl
  | pointer shape pointee =>
    cases shape with
    | reference => rfl
    | box | rc | arc | option =>
      change _ = recordPath _ [U.path pointee]
      rw [recordPath_singleton]
      rfl
  | map shape key value =>
    cases shape with
    | hash | btree =>
      change _ = recordPath _ [U.path key, U.path value]
      rw [recordPath_pair]
      rfl

/-- A word with arguments is the base of a declared type or the path of a container. -/
theorem head_of_applied (base : Fin n → String) (arguments : Fin n → List (TypeExpr n))
    {type : TypeExpr n} {head : String} {parts : List (TypeExpr n)}
    (applied : type.spelling base arguments = .applied head parts) :
    (∃ index, base index = head) ∨ head ∈ containerPaths := by
  cases type with
  | native | array => cases applied
  | declared index => exact .inl ⟨index, (Spelling.applied.inj applied).1⟩
  | list shape _ | pointer shape _ | map shape _ _ =>
    cases shape <;> cases applied <;> exact .inr (by decide)

/-- The word has characters of words only. -/
theorem isPathChar_of_mem_word (spelled : U.Spelled base arguments) (type : TypeExpr n) :
    ∀ c ∈ (type.spelling base arguments).word, isPathChar c := by
  have containers : ∀ head ∈ containerPaths, head.toList.all isPathChar := by decide +kernel
  cases spelling : type.spelling base arguments with
  | native type => exact type.isPathChar_of_mem_word
  | applied head parts =>
    rcases head_of_applied base arguments spelling with ⟨index, rfl⟩ | container
    · exact spelled.word index
    · exact List.all_eq_true.1 (containers head container)
  | reference | slice | array => exact fun c inside => nomatch inside

/-- No word with arguments is the word of a native path. -/
theorem apart (spelled : U.Spelled base arguments) (type : TypeExpr n) :
    (type.spelling base arguments).Apart := by
  have containers : ∀ head ∈ containerPaths, head ∉ nativePaths := by decide +kernel
  cases spelling : type.spelling base arguments with
  | applied head parts =>
    rcases head_of_applied base arguments spelling with ⟨index, rfl⟩ | container
    · exact fun taken => spelled.free index (List.mem_append_left _ taken)
    · exact containers head container
  | native | reference | slice | array => trivial

/-- The spelling tells the type. -/
theorem spelling_inj (spelled : U.Spelled base arguments) {a b : TypeExpr n}
    (same : a.spelling base arguments = b.spelling base arguments) : a = b := by
  have builtIn : ∀ type : TypeExpr n, (∃ index, type = .declared index) ∨
      (type.spelling base arguments).builtIn? = some type := by
    intro type
    cases type with
    | declared index => exact .inl ⟨index, rfl⟩
    | native | array => exact .inr rfl
    | list shape _ | pointer shape _ | map shape _ _ => cases shape <;> exact .inr rfl
  have declared : ∀ index, (Spelling.applied (base index) (arguments index)).builtIn? = none :=
    fun index => Spelling.builtIn?_of_free fun taken =>
      spelled.free index (List.mem_append_right _ taken)
  rcases builtIn a with ⟨i, rfl⟩ | first <;> rcases builtIn b with ⟨j, rfl⟩ | second
  · obtain ⟨bases, parts⟩ := Spelling.applied.inj same
    rw [spelled.distinct i j bases parts]
  · rw [← same, TypeExpr.spelling, declared i] at second
    cases second
  · rw [same, TypeExpr.spelling, declared j] at first
    cases first
  · rw [same, second] at first
    exact (Option.some.inj first).symm

/-- The path of a type is read the same way wherever it stands.  The induction is on the length of
the path, since the arguments of a declared type are no parts of its expression. -/
theorem reads (spelled : U.Spelled base arguments) (type : TypeExpr n) :
    Spelling.Reads U.path type := by
  induction size : (U.path type).toList.length using Nat.strong_induction_on generalizing type with
  | h length shorter =>
    intro other rest rest' stopped stopped' same
    rw [spelled.path_eq type, spelled.path_eq other, Spelling.toList_path, Spelling.toList_path,
      List.append_assoc, List.append_assoc] at same
    obtain ⟨words, tails⟩ := word_append_inj (spelled.isPathChar_of_mem_word type)
      (spelled.isPathChar_of_mem_word other) (Spelling.isPathChar_of_head?_tail stopped)
      (Spelling.isPathChar_of_head?_tail stopped') same
    have parts : ∀ part ∈ (type.spelling base arguments).parts, Spelling.Reads U.path part := by
      intro part listed
      refine shorter _ ?_ part rfl
      rw [← size, spelled.path_eq type]
      exact Spelling.length_part_lt U.path listed
    obtain ⟨spellings, rests⟩ := Spelling.tail_append_inj parts (spelled.apart type)
      (spelled.apart other) stopped stopped' words tails
    exact ⟨spelled.spelling_inj spellings, rests⟩

end Universe.Spelled

/-- Types of one path are the same, when the declared types have words of their own for their bases.
So keys by path are shared by types only that are the same up to the pointers around them. -/
theorem Universe.paths_are_unique {U : Universe n} {base : Fin n → String}
    {arguments : Fin n → List (TypeExpr n)} (spelled : U.Spelled base arguments) :
    (∀ a b : TypeExpr n, U.path a = U.path b → a = b) ∧
      ∀ cache : TypeCache, cache.policy = .qualified → ∀ a b : TypeExpr n,
        cache.key U a = cache.key U b → a.withoutPointers = b.withoutPointers ∧
          (a.isPointer = false → b.isPointer = false → a = b) := by
  have unique : ∀ a b : TypeExpr n, U.path a = U.path b → a = b := by
    intro a b same
    have ends : Stopped [] := fun c head => nomatch head
    exact (spelled.reads a b [] [] ends ends (by rw [same])).1
  refine ⟨unique, fun cache qualified a b same => ?_⟩
  rw [TypeCache.key_eq, TypeCache.key_eq, qualified] at same
  have stripped := unique _ _ same
  refine ⟨stripped, fun first second => ?_⟩
  rwa [TypeExpr.withoutPointers_eq_self first,
    TypeExpr.withoutPointers_eq_self second] at stripped

/-! ## Pages -/

namespace Sample

/-- What the declared types of `pages` are applied to. -/
def pageArguments : Fin 4 → List (TypeExpr 4)
  | 0 => []
  | 1 => [.declared 0]
  | 2 => [.declared 1]
  | 3 => [.list .vec (.declared 1), .pointer .reference (.declared 0)]

def pageBase : Fin 4 → String
  | 0 => "app::User"
  | 1 | 2 => "app::Page"
  | 3 => "app::Pair"

/-- Users, pages of users, pages of such pages, and a pair of types with a comma of its own. -/
def pages : Universe 4 where
  declaration
    | 0 => { path := "app::User", name := "User", body := .struct [] }
    | 1 => { path := "app::Page<app::User>", name := "Page<User>", body := .struct [] }
    | 2 =>
      { path := "app::Page<app::Page<app::User>>", name := "Page<Page<User>>", body := .struct [] }
    | 3 =>
      { path := "app::Pair<alloc::vec::Vec<app::Page<app::User>>, &app::User>"
        name := "Pair<Vec<Page<User>>, &User>", body := .struct [] }

end Sample

/-- Pages of pages have another key than pages, also behind a pointer. -/
theorem Sample.paths_of_pages_are_unique :
    pages.Spelled pageBase pageArguments ∧
      pages.path (.array (.pointer .reference (.declared 2)) 10) =
        "[&app::Page<app::Page<app::User>>; 10]" ∧
      (Encoder.new pages .qualified).cache.key pages (.pointer .rc (.declared 2)) ≠
        (Encoder.new pages .qualified).cache.key pages (.pointer .rc (.declared 1)) := by
  have words : ∀ index, (pageBase index).toList.all isPathChar := by decide +kernel
  have spelled : pages.Spelled pageBase pageArguments :=
    { path := by decide +kernel
      word index := List.all_eq_true.1 (words index)
      free := by decide +kernel
      distinct := by decide +kernel }
  refine ⟨spelled, by decide +kernel, fun same => ?_⟩
  have stripped := ((Universe.paths_are_unique spelled).2 _ rfl _ _ same).1
  exact absurd stripped (by decide +kernel)

end RecordSchema
