import RecordSchema.Dictionary
import RecordSchema.Schema.Resolver
import RecordSchema.Schema.SchemaType

/-!
# Hooks

A hook is data attached to a type, and a type holds at most one hook of each kind.  There are as
many kinds as anyone cares to invent.  Two of them change what is made of a type: the schema type
that it is exposed as, and the resolver of the fields that hold it.  The data of any other kind is
kept for whoever asks for it.

The hooks of a type are a dictionary by kind in which every hook stands under its own kind.
`Hooks.get?_attach` says what attaching a hook does: it replaces the hook of its own kind and leaves
all others alone.
-/

namespace RecordSchema

/-- The kinds of hooks. -/
inductive HookKind where
  | typeProvider
  | resolverProvider
  /-- Any other kind, told apart by its name. -/
  | custom (name : String)
  deriving DecidableEq, Repr

/-- A piece of data attached to a type. -/
inductive Hook where
  /-- The schema type that the type is exposed as. -/
  | typeProvider (type : SchemaType)
  /-- The resolver of every field that holds the type. -/
  | resolverProvider (resolver : Resolver)
  /-- Data of any other kind, written as a value. -/
  | custom (kind : String) (data : Value)
  deriving DecidableEq, Repr

namespace Hook

def kind : Hook → HookKind
  | .typeProvider _ => .typeProvider
  | .resolverProvider _ => .resolverProvider
  | .custom kind _ => .custom kind

/-- The schema type that a hook provides. -/
def typeProvider? : Hook → Option SchemaType
  | .typeProvider type => some type
  | _ => none

/-- The resolver that a hook provides. -/
def resolverProvider? : Hook → Option Resolver
  | .resolverProvider resolver => some resolver
  | _ => none

end Hook

/-- The hooks of one type, at most one of each kind. -/
structure Hooks where
  /-- The hooks by kind, in the order in which the kinds came. -/
  table : Dictionary HookKind Hook
  placed : ∀ kind hook, table.get? kind = some hook → hook.kind = kind
  deriving DecidableEq, Repr

namespace Hooks

def empty : Hooks := ⟨.empty, fun _ _ found => nomatch found⟩

instance : Inhabited Hooks := ⟨empty⟩

/-- The hook of a kind. -/
def get? (hooks : Hooks) (kind : HookKind) : Option Hook := hooks.table.get? kind

def contains (hooks : Hooks) (kind : HookKind) : Bool := hooks.table.contains kind

/-- The number of hooks. -/
def size (hooks : Hooks) : Nat := hooks.table.size

/-- Attach a hook in place of any other of its kind. -/
def attach (hooks : Hooks) (hook : Hook) : Hooks where
  table := hooks.table.insert hook.kind hook
  placed kind other found := by
    rw [Dictionary.get?_insert] at found
    split at found
    · next same =>
      cases found
      exact same
    · exact hooks.placed kind other found

/-- The hooks of a list, of which the last of each kind counts. -/
def of (hooks : List Hook) : Hooks := hooks.foldl attach empty

/-- The schema type that a type is exposed as by its hooks. -/
def typeProvider (hooks : Hooks) : Option SchemaType :=
  (hooks.get? .typeProvider).bind Hook.typeProvider?

/-- The resolver that the hooks of a type give to the fields that hold it. -/
def resolverProvider (hooks : Hooks) : Option Resolver :=
  (hooks.get? .resolverProvider).bind Hook.resolverProvider?

/-! ## Attached hooks -/

theorem get?_attach (hooks : Hooks) (hook : Hook) (kind : HookKind) :
    (hooks.attach hook).get? kind = if hook.kind = kind then some hook else hooks.get? kind :=
  hooks.table.get?_insert hook.kind kind hook

/-- An attached provider counts from then on, and no other hook matters to the one that was there.
-/
theorem typeProvider_attach (hooks : Hooks) (hook : Hook) :
    (hooks.attach hook).typeProvider = hook.typeProvider?.or hooks.typeProvider := by
  unfold typeProvider
  rw [get?_attach]
  cases hook <;> rfl

end Hooks

end RecordSchema
