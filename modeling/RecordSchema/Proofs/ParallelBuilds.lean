import RecordSchema.Proofs.Course.Inner
import RecordSchema.Proofs.PointerLayers

/-!
# Builds side by side

Encoders over universes that differ in pointer layers stay parallel while they resolve types of one
core (`Course.beside`).  The two builds need not take the same steps.  One side may find a list in
its cache where the other does not, since it met the list with other pointers before.  But then the
other side has all that it needs: what is cached for the innermost item of a list is the same on
both sides, so the side that misses the list builds it without meeting anything new
(`Encoder.Parallel.reply`).  Builds have one result, so it does not matter which of the two sides
misses.
-/

namespace RecordSchema

variable {n : Nat}

open Encoder

/-! ## Options and calls up to pointers -/

/-- Two options that are the same up to the pointers around the type whose fields they name. -/
inductive SchemaOption.SameUpToPointers : SchemaOption n → SchemaOption n → Prop
  | same (option) : SameUpToPointers option option
  | arguments {source source'} (same : source'.withoutPointers = source.withoutPointers) :
      SameUpToPointers (.arguments source) (.arguments source')

theorem SchemaOption.applyAllToObject_congr {options options' : List (SchemaOption n)}
    (same : List.Forall₂ SameUpToPointers options options') (object : ObjectType) :
    applyAllToObject options' object = applyAllToObject options object := by
  induction same generalizing object with
  | nil => rfl
  | @cons option option' rest rest' first others ih =>
    unfold applyAllToObject
    have applied : option'.applyToObject object = option.applyToObject object := by
      cases first <;> rfl
    rw [List.foldlM_cons, List.foldlM_cons, applied]
    exact congrArg _ (funext ih)

/-- Two calls that are the same up to pointer layers. -/
inductive Call.Beside : Call n → Call n → Prop
  | resolve {a b} (core : b.core = a.core) : Beside (.resolve a) (.resolve b)
  | build {a b} (plain : a.isPointer = false) (plain' : b.isPointer = false)
      (core : b.core = a.core) : Beside (.build a) (.build b)
  | object {type options options'} (named : type.isNamed)
      (same : List.Forall₂ SchemaOption.SameUpToPointers options options') :
      Beside (.object type options) (.object type options')
  | walk {id path fields fields'}
      (same : List.Forall₂ RecordField.SameUpToPointers fields fields') :
      Beside (.walk id path fields) (.walk id path fields')

/-! ## Recalling what is cached -/

/-- What becomes of a cached schema type: the error recorded for it, or the type itself. -/
def TypeCache.reply (cache : TypeCache) (found : SchemaType) : Except EncodeError SchemaType :=
  match cache.failure? found with
  | some error => .error error
  | none => .ok found

theorem TypeCache.reply_of_failed {cache : TypeCache} {found : SchemaType} {error : EncodeError}
    (failed : cache.failure? found = some error) : cache.reply found = .error error := by
  unfold reply
  rw [failed]

theorem TypeCache.reply_of_sound {cache : TypeCache} {found : SchemaType}
    (sound : cache.failure? found = none) : cache.reply found = .ok found := by
  unfold reply
  rw [sound]

/-- A list is recalled as its item is. -/
theorem TypeCache.reply_list (cache : TypeCache) (inner : SchemaType) :
    cache.reply (.list inner) = (cache.reply inner).map .list := by
  have same : cache.failure? (.list inner) = cache.failure? inner := rfl
  unfold reply
  rw [same]
  cases cache.failure? inner <;> rfl

section Builds

variable {U V : Universe n} {policy : KeyPolicy} {scope scope' : Scope n} {e f e' f' : Encoder n}
  {a b : TypeExpr n}

theorem Course.of_withoutPointers {type : TypeExpr n} {result : Except EncodeError SchemaType}
    (course : Course U (.resolve type.withoutPointers) e result e') :
    Course U (.resolve type) e result e' := by
  induction type with
  | pointer shape pointee ih => exact .pointer (ih course)
  | native | declared | list | array | map => exact course

/-- A cached type is recalled, and all that happens is a note. -/
theorem Course.of_hit {type : TypeExpr n} (plain : type.isPointer = false) {found : SchemaType}
    (hit : e.cache.lookup U type = some found) :
    ∃ e', Course U (.resolve type) e (e.cache.reply found) e' ∧
      (e' = e ∨ ∃ event, e' = e.note event) := by
  cases failure : e.cache.failure? found with
  | some error =>
    rw [TypeCache.reply_of_failed failure]
    exact ⟨e, .recorded plain hit failure, .inl rfl⟩
  | none =>
    rw [TypeCache.reply_of_sound failure]
    exact ⟨_, .recalled plain hit failure, .inr ⟨_, rfl⟩⟩

namespace Encoder.Parallel

theorem reply_eq (parallel : Parallel U V policy scope scope' e f) (found : SchemaType) :
    f.cache.reply found = e.cache.reply found := by
  unfold TypeCache.reply
  rw [parallel.failure?]

/-- What is cached for a list holds what is cached for its item. -/
theorem item (parallel : Parallel U V policy scope scope' e f) {type item : TypeExpr n}
    {found : SchemaType} (inside : scope.type type) (listed : type.item? = some item)
    (hit : e.cache.lookup U type = some found) :
    ∃ inner, found = .list inner ∧ e.cache.lookup U item = some inner :=
  parallel.listed type item found inside listed (by rw [parallel.bare type item listed]; rfl) hit

/-- Both sides have the same entry for a type that is no list, whatever pointers are around it. -/
theorem lookup_of_named (variants : PointerVariants U V policy scope scope')
    (parallel : Parallel U V policy scope scope' e f) (named : a.isNamed) (core : b.core = a.core)
    (inside : scope.type a) (inside' : scope'.type b) :
    f.cache.lookup V b = e.cache.lookup U a := by
  have below := TypeExpr.withoutPointers_eq_of_named named core
  rw [← TypeCache.lookup_withoutPointers V, below]
  exact parallel.entries a named inside (below ▸ variants.closed'.withoutPointers inside')

/-- Where both sides know types of one core, they know the same. -/
theorem entry (variants : PointerVariants U V policy scope scope')
    (parallel : Parallel U V policy scope scope' e f) (core : b.core = a.core)
    (inside : scope.type a) (inside' : scope'.type b) {found found' : SchemaType}
    (hit : e.cache.lookup U a = some found) (hit' : f.cache.lookup V b = some found') :
    found' = found := by
  induction a using TypeExpr.layer_induction generalizing b found found' with
  | pointer shape pointee ih =>
    rw [← TypeCache.lookup_withoutPointers, TypeExpr.withoutPointers_pointer,
      TypeCache.lookup_withoutPointers] at hit
    exact ih core (variants.closed.pointee shape pointee inside) inside' hit hit'
  | named a named =>
    rw [parallel.lookup_of_named variants named core inside inside', hit] at hit'
    exact (Option.some.inj hit').symm
  | listed a x listed ih =>
    obtain ⟨y, listed', same⟩ := TypeExpr.item?_of_core listed core
    have inside' := variants.closed'.withoutPointers inside'
    rw [← TypeCache.lookup_withoutPointers] at hit'
    obtain ⟨inner, rfl, known⟩ := parallel.item inside listed hit
    obtain ⟨inner', rfl, known'⟩ := parallel.symm.item inside' listed' hit'
    rw [ih same (variants.closed.item a x listed inside) (variants.closed'.item _ y listed' inside')
      known known']

theorem of_hit (parallel : Parallel U V policy scope scope' e f) {type : TypeExpr n}
    (plain : type.isPointer = false) {found : SchemaType}
    (hit : f.cache.lookup V type = some found) :
    ∃ f', Course V (.resolve type) f (e.cache.reply found) f' ∧
      Parallel U V policy scope scope' e f' := by
  obtain ⟨f', course, rfl | ⟨event, rfl⟩⟩ := Course.of_hit plain hit
  · exact ⟨f', parallel.reply_eq found ▸ course, parallel⟩
  · exact ⟨_, parallel.reply_eq found ▸ course, parallel.noteRight event⟩

/-- What one side knows, the other side can resolve, and nothing happens to what they share. -/
theorem reply (variants : PointerVariants U V policy scope scope')
    (parallel : Parallel U V policy scope scope' e f) (core : b.core = a.core)
    (inside : scope.type a) (inside' : scope'.type b) {found : SchemaType}
    (hit : e.cache.lookup U a = some found) :
    ∃ f', Course V (.resolve b) f (e.cache.reply found) f' ∧
      Parallel U V policy scope scope' e f' := by
  induction b using TypeExpr.layer_induction generalizing a found f with
  | pointer shape pointee ih =>
    obtain ⟨f', course, after⟩ :=
      ih parallel core inside (variants.closed'.pointee shape pointee inside') hit
    exact ⟨f', .pointer course, after⟩
  | named b named =>
    refine parallel.of_hit (TypeExpr.isPointer_eq_false_of_named named) ?_
    rw [← hit]
    exact (parallel.symm.lookup_of_named variants.symm named core.symm inside' inside).symm
  | listed b y listed' ih =>
    have plain := isPointer_eq_false_of_item listed'
    cases hit' : f.cache.lookup V b with
    | some found' =>
      obtain rfl := parallel.entry variants core inside inside' hit hit'
      exact parallel.of_hit plain hit'
    | none =>
      -- The list is new to this side, but what it holds is known to the other.
      obtain ⟨x, listed, same⟩ := TypeExpr.item?_of_core listed' core.symm
      have below := variants.closed.withoutPointers inside
      rw [← TypeCache.lookup_withoutPointers] at hit
      obtain ⟨inner, rfl, known⟩ := parallel.item below listed hit
      have free : (f.hooksOf V b).typeProvider = none := by rw [parallel.bare' b y listed']; rfl
      obtain ⟨f₁, course, after⟩ := ih (parallel.metRight b) same.symm
        (variants.closed.item _ x listed below) (variants.closed'.item b y listed' inside') known
      have built := Course.list free (scalar?_eq_none_of_item listed') listed' course
      rw [← TypeCache.reply_list] at built
      cases outcome : e.cache.reply (.list inner) with
      | error error =>
        rw [outcome] at built
        exact ⟨f₁, .refused plain hit' built, after⟩
      | ok resolved =>
        rw [outcome] at built
        have course := Course.resolved plain hit' built
        have stored := after.toInStep.symm.storeListed variants.symm inside' listed' resolved
        exact ⟨_, course, stored.symm, after.listed, course.listed variants.closed'
          (variants.apart'.listsAlike f) parallel.uses' inside' parallel.listed'⟩

/-- A side that built a type stays in step with a side that knows it: it could have recalled what it
built. -/
theorem of_known (variants : PointerVariants U V policy scope scope')
    (parallel : Parallel U V policy scope scope' e f) (core : b.core = a.core)
    (inside : scope.type a) (inside' : scope'.type b) {result : Except EncodeError SchemaType}
    (course : Course U (.resolve a) e result e') {found : SchemaType}
    (plain : b.isPointer = false) (hit : f.cache.lookup V b = some found) :
    ∃ f', Course V (.resolve b) f result f' ∧ InStep U V policy scope scope' e' f' := by
  obtain ⟨e₁, course₁, after⟩ :=
    parallel.symm.reply variants.symm core.symm inside' inside hit
  obtain ⟨rfl, rfl⟩ := course.deterministic course₁
  obtain ⟨f', course', after'⟩ := after.symm.of_hit plain hit
  rw [← after.symm.reply_eq found] at course'
  exact ⟨f', course', after'.toInStep⟩

end Encoder.Parallel

/-! ## Builds -/

/-- Two calls that are the same up to pointer layers end with the same result, and leave encoders
that are in step. -/
theorem Course.beside (variants : PointerVariants U V policy scope scope') {call call' : Call n}
    {result : Except EncodeError SchemaType} (course : Course U call e result e')
    (beside : call.Beside call') (within : call.Within scope) (within' : call'.Within scope')
    (parallel : Parallel U V policy scope scope' e f) :
    ∃ f', Course V call' f result f' ∧ InStep U V policy scope scope' e' f' := by
  have same := variants.same
  induction course generalizing call' f with
  | @pointer shape pointee e result e' inner ih =>
    cases beside with
    | resolve core =>
      exact ih (.resolve core) (variants.closed.pointee shape pointee within) within' parallel
  | recorded plain hit failed =>
    cases beside with
    | resolve core =>
      obtain ⟨f', course', after⟩ := parallel.reply variants core within within' hit
      rw [TypeCache.reply_of_failed failed] at course'
      exact ⟨f', course', after.toInStep⟩
  | recalled plain hit sound =>
    cases beside with
    | resolve core =>
      obtain ⟨f', course', after⟩ := parallel.reply variants core within within' hit
      rw [TypeCache.reply_of_sound sound] at course'
      exact ⟨f', course', (after.noteLeft _).toInStep⟩
  | @resolved a e built e' plain miss inner ih =>
    cases beside with
    | @resolve _ b core =>
      have core : b.withoutPointers.core = a.core := by rw [TypeExpr.core_withoutPointers, core]
      have within' : scope'.type b.withoutPointers := variants.closed'.withoutPointers within'
      have plain' := b.isPointer_withoutPointers
      cases hit : f.cache.lookup V b.withoutPointers with
      | some found =>
        obtain ⟨f', course', after⟩ := parallel.of_known variants core within within'
          (.resolved plain miss inner) plain' hit
        exact ⟨f', course'.of_withoutPointers, after⟩
      | none =>
        obtain ⟨f', course', after⟩ := ih (.build plain plain' core) within within' parallel
        exact ⟨_, (Course.resolved plain' hit course').of_withoutPointers,
          after.store variants plain plain' core within within' built⟩
  | @refused a e error e' plain miss inner ih =>
    cases beside with
    | @resolve _ b core =>
      have core : b.withoutPointers.core = a.core := by rw [TypeExpr.core_withoutPointers, core]
      have within' : scope'.type b.withoutPointers := variants.closed'.withoutPointers within'
      have plain' := b.isPointer_withoutPointers
      cases hit : f.cache.lookup V b.withoutPointers with
      | some found =>
        obtain ⟨f', course', after⟩ := parallel.of_known variants core within within'
          (.refused plain miss inner) plain' hit
        exact ⟨f', course'.of_withoutPointers, after⟩
      | none =>
        obtain ⟨f', course', after⟩ := ih (.build plain plain' core) within within' parallel
        exact ⟨f', (Course.refused plain' hit course').of_withoutPointers, after⟩
  | @provided a e given hook =>
    cases beside with
    | @build _ b plain plain' core =>
      rcases TypeExpr.named_or_listed plain with named | ⟨item, listed⟩
      · obtain rfl := TypeExpr.eq_of_named named plain' core
        have hook' : (f.hooksOf V b).typeProvider = some given := by rwa [parallel.hooks b named]
        exact ⟨_, .provided hook', ((parallel.metLeft b).metRight b).toInStep⟩
      · rw [parallel.bare a item listed] at hook
        cases hook
  | @scalar a e leaf free native =>
    cases beside with
    | @build _ b plain plain' core =>
      rcases TypeExpr.named_or_listed plain with named | ⟨item, listed⟩
      · obtain rfl := TypeExpr.eq_of_named named plain' core
        have free' : (f.hooksOf V b).typeProvider = none := by rwa [parallel.hooks b named]
        exact ⟨_, .scalar free' ((same.scalar? b).trans native),
          ((parallel.metLeft b).metRight b).toInStep⟩
      · rw [scalar?_eq_none_of_item listed] at native
        cases native
  | @list a x e result e' free other listed inner ih =>
    cases beside with
    | @build _ b plain plain' core =>
      obtain ⟨y, listed', items⟩ := TypeExpr.item?_of_core listed core
      rw [TypeExpr.withoutPointers_eq_self plain'] at listed'
      have free' : (f.hooksOf V b).typeProvider = none := by rw [parallel.bare' b y listed']; rfl
      obtain ⟨f', course', after⟩ := ih (.resolve items) (variants.closed.item a x listed within)
        (variants.closed'.item b y listed' within') ((parallel.metLeft a).metRight b)
      exact ⟨f', .list free' (scalar?_eq_none_of_item listed') listed' course', after⟩
  | @struct a e result e' free other struct inner ih =>
    cases beside with
    | @build _ b plain plain' core =>
      rcases TypeExpr.named_or_listed plain with named | ⟨item, listed⟩
      · obtain rfl := TypeExpr.eq_of_named named plain' core
        have free' : (f.hooksOf V b).typeProvider = none := by rwa [parallel.hooks b named]
        obtain ⟨f', course', after⟩ := ih (.object named .nil) within within'
          ((parallel.metLeft b).metRight b)
        exact ⟨f', .struct free' ((same.scalar? b).trans other) ((same.isStruct b).trans struct)
          course', after⟩
      · rw [item?_eq_none_of_struct struct] at listed
        cases listed
  | @unrecognized a e free other unlisted noStruct =>
    cases beside with
    | @build _ b plain plain' core =>
      rcases TypeExpr.named_or_listed plain with named | ⟨item, listed⟩
      · obtain rfl := TypeExpr.eq_of_named named plain' core
        have free' : (f.hooksOf V b).typeProvider = none := by rwa [parallel.hooks b named]
        refine ⟨_, ?_, ((parallel.metLeft b).metRight b).toInStep⟩
        rw [← same.path]
        exact .unrecognized free' ((same.scalar? b).trans other) unlisted
          ((same.isStruct b).trans noStruct)
      · rw [unlisted] at listed
        cases listed
  | @objectRecorded type options e found error hit failed =>
    cases beside with
    | object named accepted =>
      have hit' := (parallel.entries type named within within').trans hit
      exact ⟨f, .objectRecorded hit' ((parallel.failure? _).trans failed), parallel.toInStep⟩
  | @objectRecalled type options e id hit sound =>
    cases beside with
    | object named accepted =>
      have hit' := (parallel.entries type named within within').trans hit
      exact ⟨_, .objectRecalled hit' ((parallel.failure? _).trans sound),
        ((parallel.noteLeft _).noteRight _).toInStep⟩
  | @notAnObject type options e found hit sound other =>
    cases beside with
    | @object _ _ options' named accepted =>
      have hit' := (parallel.entries type named within within').trans hit
      have course' := @Course.notAnObject n V type options' f found hit'
        ((parallel.failure? _).trans sound) other
      rw [same.path] at course'
      exact ⟨_, course', ((parallel.noteLeft _).noteRight _).toInStep⟩
  | @notStruct type options e miss noStruct =>
    cases beside with
    | @object _ _ options' named accepted =>
      have miss' := (parallel.entries type named within within').trans miss
      have course' := @Course.notStruct n V type options' f miss'
        ((same.isStruct type).trans noStruct)
      rw [same.path] at course'
      exact ⟨f, course', parallel.toInStep⟩
  | @notSupported type options e error miss struct refusal =>
    cases beside with
    | object named accepted =>
      have miss' := (parallel.entries type named within within').trans miss
      rw [← same.name, ← SchemaOption.applyAllToObject_congr accepted] at refusal
      exact ⟨f, .notSupported miss' ((same.isStruct type).trans struct) refusal, parallel.toInStep⟩
  | @begun type options e object fields result e' miss struct made inner ih =>
    cases beside with
    | object named accepted =>
      have miss' := (parallel.entries type named within within').trans miss
      obtain ⟨fields', struct', sameFields⟩ := same.struct struct
      have begins := parallel.begin variants within within' struct struct' miss miss' object
      obtain ⟨f', inner', after⟩ := ih (.walk sameFields)
        (fun field listed text content tagged =>
          variants.closed.field type fields field text content struct listed tagged within)
        (fun field listed text content tagged =>
          variants.closed'.field type fields' field text content struct' listed tagged within')
        begins
      rw [← same.name, ← SchemaOption.applyAllToObject_congr accepted] at made
      rw [← parallel.arena, ← same.path] at inner'
      have course' := Course.begun miss' struct' made inner'
      rw [parallel.building, same.path] at course'
      exact ⟨_, course', after.close _ _ result⟩
  | @done id path e =>
    cases beside with
    | walk sameFields =>
      cases sameFields
      exact ⟨f, .done, parallel.toInStep⟩
  | @untagged id path field rest e result e' untagged inner ih =>
    cases beside with
    | walk sameFields =>
      cases sameFields with
      | cons first others =>
        obtain ⟨f', course', after⟩ := ih (.walk others)
          (fun other listed => within other (List.mem_cons_of_mem _ listed))
          (fun other listed => within' other (List.mem_cons_of_mem _ listed)) parallel
        exact ⟨f', .untagged (first.untagged untagged) course', after⟩
  | @tagged id path field text type rest e resolved e₁ result e' content first live inner ih₁ ih₂ =>
    cases beside with
    | walk sameFields =>
      cases sameFields with
      | cons sameField others =>
        obtain ⟨type', content', core⟩ := sameField.tagged content
        have inside := within field List.mem_cons_self text type content
        have inside' := within' _ List.mem_cons_self text type' content'
        obtain ⟨f₁, first', inStep⟩ := ih₁ (.resolve core) inside inside' parallel
        have between := parallel.of_courses variants first first' inside inside' inStep
        obtain ⟨f', inner', after⟩ := ih₂ (.walk others)
          (fun other listed => within other (List.mem_cons_of_mem _ listed))
          (fun other listed => within' other (List.mem_cons_of_mem _ listed))
          (between.expose id path field.name (.parse text) core resolved)
        rw [← sameField.name] at inner'
        rw [← inStep.arena] at live
        exact ⟨f', .tagged content' first' live inner', after⟩
  | @stopped id path field text type rest e error e' content first ih =>
    cases beside with
    | walk sameFields =>
      cases sameFields with
      | cons sameField others =>
        obtain ⟨type', content', core⟩ := sameField.tagged content
        obtain ⟨f', first', after⟩ := ih (.resolve core)
          (within field List.mem_cons_self text type content)
          (within' _ List.mem_cons_self text type' content') parallel
        rw [← sameField.name]
        exact ⟨f', .stopped content' first', after⟩
  | @dangling id path field text type rest e resolved e₁ content first dead ih =>
    cases beside with
    | walk sameFields =>
      cases sameFields with
      | cons sameField others =>
        obtain ⟨type', content', core⟩ := sameField.tagged content
        obtain ⟨f₁, first', inStep⟩ := ih (.resolve core)
          (within field List.mem_cons_self text type content)
          (within' _ List.mem_cons_self text type' content') parallel
        rw [← inStep.arena] at dead
        have left := inStep.warnedLeft type (.parse text) resolved
        exact ⟨_, .dangling content' first' dead, (left.symm.warnedLeft type' _ resolved).symm⟩

end Builds

end RecordSchema
