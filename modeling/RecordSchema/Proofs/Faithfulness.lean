import RecordSchema.Proofs.Mirror
import RecordSchema.Proofs.Soundness

/-!
# The encoder computes the reference schema

An encoder that has cached nothing builds the object of a struct, and with it the objects of all
structs that are reached from it.  The types that are reached are a region in which it mirrors the
meanings of types (`Faithful`).  From this follows what the whole build does
(`structOf_computes_reference`): it fails only on a type that is not recognized, and otherwise
leaves exactly the objects of the reference schema behind.  Keys of the cache have to be different
for this, but only those of the types that are reached.
-/

namespace RecordSchema

variable {n : Nat}

open Encoder Reference

/-- The types that are reached from a struct have different keys. -/
def Reference.Distinct (U : Universe n) (hooks : TypeExpr n → Hooks) (policy : KeyPolicy)
    (root : TypeExpr n) : Prop :=
  ∀ a b, Reached U hooks root a → Reached U hooks root b → policy.text U a = policy.text U b → a = b

section Root

variable {U : Universe n} {hooks : TypeExpr n → Hooks} {policy : KeyPolicy} {root : TypeExpr n}

/-- What is reached from a struct is a region of its own. -/
theorem Reference.Distinct.regular (distinct : Distinct U hooks policy root)
    (plain : root.isPointer = false) : Regular U hooks policy (Reached U hooks root) where
  plain _ reached := reached.plain plain
  closed _ _ reached leads := .tail reached leads
  distinct := distinct

/-- What holds while the schema of a struct is built. -/
abbrev Encoder.Faithful (U : Universe n) (hooks : TypeExpr n → Hooks) (policy : KeyPolicy)
    (root : TypeExpr n) (order : List (TypeExpr n)) (e : Encoder n) : Prop :=
  Mirrors U hooks policy (Reached U hooks root) order e

/-- Whatever the encoder does on the way is what the reference schema says. -/
theorem Course.computes {call : Call n} {e e' : Encoder n} {result : Except EncodeError SchemaType}
    (course : Course U call e result e') (plain : root.isPointer = false)
    (distinct : Distinct U hooks policy root) (order : List (TypeExpr n))
    (fits : call.Fits U hooks (Reached U hooks root) e)
    (faithful : Faithful U hooks policy root order e) :
    call.Computes U hooks policy (Reached U hooks root) order e result e' :=
  course.mirrors (distinct.regular plain) order fits faithful

end Root

/-! ## The whole schema -/

theorem Encoder.faithful_start {U : Universe n} {policy : KeyPolicy} {e : Encoder n}
    (root : TypeExpr n) (cache : e.cache = .empty policy) (arena : e.arena = .empty) :
    Faithful U (e.hooksOf U) policy root [] e :=
  mirrors_start _ cache arena

/-- **Object mode computes the reference schema.**  An encoder with neither cached types nor
objects, but with any registry, is asked for the object of a struct without provider.  It ends, and
fails if and only if a type that is not recognized is reached from the struct.  Otherwise its arena
holds the reference schema, and the answer is the first object. -/
theorem structOf_computes_reference (U : Universe n) (policy : KeyPolicy) (e : Encoder n)
    (root : TypeExpr n) (struct : U.isStruct root) (free : (e.hooksOf U root).typeProvider = none)
    (cache : e.cache = .empty policy) (arena : e.arena = .empty)
    (distinct : Distinct U (e.hooksOf U) policy root) :
    ∃ result e', (structOf U root []).outcome e = some (result, e') ∧
      ((∃ id, result = .ok id) ↔
        ∀ type, Reached U (e.hooksOf U) root type → ¬ Unrecognized U (e.hooksOf U) type) ∧
      ∀ id, result = .ok id → id = ⟨1⟩ ∧ ∃ order, Schema U (e.hooksOf U) root order e'.arena := by
  have plain := isPointer_eq_false_of_struct struct
  obtain ⟨registry, registered, grown, -⟩ := Build.outcome_register U root e
  obtain ⟨result, e', run⟩ := structOfInfo_ends U root [] (e.know registry)
  have course := course_structOfInfo struct run
  have start : Faithful U (e.hooksOf U) policy root [] (e.know registry) :=
    (faithful_start root cache arena).congr rfl rfl (hooksOf_know grown)
  have computes := course.computes plain distinct [] ⟨.refl, struct, free, rfl⟩ start
  refine ⟨result, e', (Build.outcome_bind_ok registered _).trans run, ?_⟩
  cases result with
  | error error =>
    obtain ⟨type, reached, unrecognized⟩ := computes
    refine ⟨⟨fun ok => ?_, fun all => absurd unrecognized (all type reached)⟩,
      fun id ok => nomatch ok⟩
    obtain ⟨id, ok⟩ := ok
    cases ok
  | ok id =>
    obtain ⟨order, adds⟩ := computes
    have known : meaning U (e.hooksOf U) order root = some (.object id) := adds.means root rfl
    have finished : ∀ position struct, order[position]? = some struct →
        Finished U (e.hooksOf U) order e'.arena position struct := fun position struct =>
      adds.finished position struct (Nat.zero_le _)
    have recognized : ∀ type, Reached U (e.hooksOf U) root type →
        ∃ resolved, meaning U (e.hooksOf U) order type = some resolved := fun type reached =>
      reached.means known finished
    have schema : Schema U (e.hooksOf U) root order e'.arena := by
      refine ⟨adds.walk, fun other walk => adds.walk.unique walk, adds.faithful.nodup, ?_,
        adds.faithful.size, finished⟩
      intro type
      constructor
      · exact fun listed => ⟨adds.faithful.reached type listed, adds.faithful.structs type listed⟩
      · rintro ⟨reached, isStruct, given⟩
        obtain ⟨resolved, means⟩ := recognized type reached
        exact mem_of_meaning isStruct given means
    refine ⟨⟨fun _ type reached unrecognized => ?_, fun _ => ⟨id, rfl⟩⟩, ?_⟩
    · obtain ⟨resolved, means⟩ := recognized type reached
      rw [unrecognized.meaning] at means
      cases means
    · rintro _ ⟨⟩
      refine ⟨?_, order, schema⟩
      have first : handle? order root = some ⟨1⟩ := by
        obtain ⟨rest, rfl⟩ := schema.walk.first
        simp [handle?]
      rw [meaning_of_struct (leaf?_of_struct struct free) struct, first] at known
      cases known
      rfl

/-! ## A shelf of books -/

namespace Sample

/-- Books and authors that refer to each other through lists, with scalars of each sort, a price
whose scalar and resolver hooks provide, and two fields that are exposed under one name.  The type
of the authors is an instance of a generic struct. -/
def shelf : Universe 3 where
  declaration
    | 0 =>
      { path := "app::Book", name := "Book"
        body := .struct
          [⟨"title", .tagged "!title" (.primitive .string)⟩,
           ⟨"pages", .tagged "pages" (.primitive .u16)⟩,
           ⟨"rating", .tagged "rating" (.pointer .option (.primitive .f32))⟩,
           ⟨"lent", .tagged "!lent" (.primitive .bool)⟩,
           ⟨"related", .tagged "related" (.list .vec (.declared 0))⟩,
           ⟨"authors", .tagged "!authors" (.list .vec (.declared 1))⟩,
           ⟨"price", .tagged "price" (.pointer .option (.declared 2))⟩,
           ⟨"sequel", .tagged "related" (.pointer .option (.pointer .box (.declared 0)))⟩,
           ⟨"notes", .untagged (.map .hash (.primitive .string) (.primitive .string))⟩] }
    | 1 =>
      { path := "app::Author<app::Pen_Name>", name := "Author<Pen_Name>"
        body := .struct
          [⟨"born", .tagged "born" (.native .dateTimeUtc)⟩,
           ⟨"peers", .tagged "peers" (.list .vec (.declared 1))⟩,
           ⟨"best", .tagged "best" (.array (.declared 0) 3)⟩] }
    | 2 =>
      { path := "app::Price", name := "Price", body := .closed
        hooks := .of [.typeProvider (.scalar (.custom "Money")), .resolverProvider .fieldName] }

/-- The two objects by name, each with its fields. -/
def shelfObjects : List (String × List Field) :=
  [("Book",
    [{ name := "title", type := .nonNull (.scalar .string) },
     { name := "pages", type := .scalar .int },
     { name := "rating", type := .scalar .float },
     { name := "lent", type := .nonNull (.scalar .boolean) },
     { name := "related", type := .object ⟨1⟩ },
     { name := "authors", type := .nonNull (.list (.object ⟨2⟩)) },
     { name := "price", type := .scalar (.custom "Money"), resolver := some .fieldName }]),
   ("AuthorPen_Name",
    [{ name := "born", type := .scalar .dateTime },
     { name := "peers", type := .list (.object ⟨2⟩) },
     { name := "best", type := .list (.object ⟨1⟩) }])]

/-- The types that a book leads to. -/
def shelved : List (TypeExpr 3) :=
  [.declared 0, .primitive .string, .primitive .u16, .primitive .f32, .primitive .bool,
   .list .vec (.declared 0), .list .vec (.declared 1), .declared 2, .declared 1,
   .native .dateTimeUtc, .array (.declared 0) 3]

theorem mem_shelved {hooks : TypeExpr 3 → Hooks} {root type : TypeExpr 3} (inside : root ∈ shelved)
    (reached : Reached shelf hooks root type) : type ∈ shelved := by
  induction reached with
  | refl => exact inside
  | @tail holder next first last ih =>
    have closed : ∀ type ∈ shelved, ∀ next ∈ shelf.dependencies type,
        next.withoutPointers ∈ shelved := by
      decide
    obtain ⟨next, listed, rfl⟩ := last.dependency
    exact closed holder ih next listed

theorem apart_shelved : ∀ a ∈ shelved, ∀ b ∈ shelved,
    KeyPolicy.text .bareName shelf a = KeyPolicy.text .bareName shelf b → a = b := by
  decide +kernel

theorem distinct_shelf (hooks : TypeExpr 3 → Hooks) :
    Distinct shelf hooks .bareName (.declared 0) := fun a b reachedA reachedB =>
  apart_shelved a (mem_shelved List.mem_cons_self reachedA) b
    (mem_shelved List.mem_cons_self reachedB)

end Sample

/-- The book comes first, and then its author, whose list is cached before that of the book.  The
name of the author's object has no angle brackets. -/
theorem Sample.shelf_is_reference :
    ∃ e', (structOf shelf (.declared 0) []).outcome (.new shelf .bareName) =
        some (.ok ⟨1⟩, e') ∧
      Schema shelf ((Encoder.new shelf .bareName).hooksOf shelf) (.declared 0)
        [.declared 0, .declared 1] e'.arena ∧
      e'.arena.objects.map (fun object => (object.name, object.fields.values)) = shelfObjects := by
  have free : ((Encoder.new shelf .bareName).hooksOf shelf (.declared 0)).typeProvider = none := by
    decide +kernel
  obtain ⟨result, e', run, -, built⟩ := structOf_computes_reference shelf .bareName
    (.new shelf .bareName) (.declared 0) rfl free rfl rfl (distinct_shelf _)
  have shown : ((structOf shelf (.declared 0) []).outcome (.new shelf .bareName)).map (fun r =>
      (r.1, r.2.arena.objects.map fun object => (object.name, object.fields.values))) =
        some (.ok ⟨1⟩, shelfObjects) := by
    decide +kernel
  rw [run, Option.map_some, Option.some.injEq, Prod.mk.injEq] at shown
  obtain ⟨success, objects⟩ := shown
  obtain ⟨-, order, schema⟩ := built ⟨1⟩ success
  have book : nested shelf ((Encoder.new shelf .bareName).hooksOf shelf) (.declared 0) =
      [.declared 0, .declared 1, .declared 0] := by
    decide +kernel
  have author : nested shelf ((Encoder.new shelf .bareName).hooksOf shelf) (.declared 1) =
      [.declared 1, .declared 0] := by
    decide +kernel
  have walk : DepthFirst (nested shelf ((Encoder.new shelf .bareName).hooksOf shelf)) []
      [.declared 0] [.declared 0, .declared 1] := by
    refine .new (by decide) ?_ .done
    rw [book]
    refine .known (by decide) (.new (by decide) ?_ (.known (by decide) .done))
    rw [author]
    exact .known (by decide) (.known (by decide) .done)
  rw [← schema.only _ walk] at schema
  subst success
  exact ⟨e', run, schema, objects⟩

end RecordSchema
