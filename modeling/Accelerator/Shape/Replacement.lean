import Accelerator.Decimal.Value
import Accelerator.Shape

/-!
# Replacing a part of a record

A `Tree` is a value without a type. `Shape.ofTree?` takes it for a value of a shape, and
`Shape.replace?` puts it in the place of the part of a record that a path names.
-/

namespace Accelerator

/-- A value without a type. -/
inductive Tree where
  | null
  | flag (b : Bool)
  | integer (n : Int)
  | real (x : Float)
  | text (s : String)
  | list (items : List Tree)
  | object (members : List (String × Tree))

/-- A step from a value to one of its parts. -/
inductive Step where
  | key (k : String)
  | index (i : Nat)
deriving DecidableEq, Repr

mutual

/-- A tree as a value of a shape. A record is the object or the list of its fields, and an optional
field may be left out. -/
def Shape.ofTree? : {α : Type} → Shape α → Tree → Option α
  | _, .real, .integer n => some (realOfInt n)
  | _, .real, .real x => some x
  | _, .integer, .integer n =>
    if -2147483648 ≤ n ∧ n ≤ 2147483647 then some (Int32.ofInt n) else none
  | _, .flag, .flag b => some b
  | _, .text, .text s => some s
  | _, .choice c, .text s => c.ofKey? s
  | _, .array n entry, .list items => do
    let as ← items.mapM entry.ofTree?
    if h : as.length = n then some ⟨as.toArray, h⟩ else none
  | _, .list entry, .list items => items.mapM entry.ofTree?
  | _, .optional _, .null => some none
  | _, .optional value, t => some <$> value.ofTree? t
  | _, .record _ fields view, .object members =>
    view.ofParts <$> fields.ofMembers? members
  | _, .record _ fields view, .list items => view.ofParts <$> fields.ofItems? items
  | _, _, _ => none

/-- The values of fields from members with their keys. -/
def Fields.ofMembers? : {β : Type} → Fields β → List (String × Tree) → Option β
  | _, .nil, _ => some ()
  | _, .cons f value rest, members => do
    let a ← value.ofTree? ((members.lookup f.key).getD .null)
    let as ← rest.ofMembers? members
    some (a, as)

/-- The values of fields in order. -/
def Fields.ofItems? : {β : Type} → Fields β → List Tree → Option β
  | _, .nil, [] => some ()
  | _, .cons _ value rest, t :: ts => do
    let a ← value.ofTree? t
    let as ← rest.ofItems? ts
    some (a, as)
  | _, _, _ => none

end

mutual

/-- The value with another part in the place that a path names; the place after the last entry of a
list makes the list longer. -/
def Shape.replace? : {α : Type} → Shape α → List Step → Tree → α → Option α
  | _, s, [], t, _ => s.ofTree? t
  | _, .array n entry, .index i :: path, t, v =>
    if h : i < n then do
      let a ← entry.replace? path t v[i]
      some (v.set i a)
    else none
  | _, .list entry, .index i :: path, t, l =>
    match l[i]? with
    | some a => do
      let a ← entry.replace? path t a
      some (l.set i a)
    | none =>
      if i = l.length ∧ path.isEmpty then do
        let a ← entry.ofTree? t
        some (l ++ [a])
      else none
  | _, .optional value, path, t, some a => some <$> value.replace? path t a
  | _, .record _ fields view, .key k :: path, t, a =>
    view.ofParts <$> fields.replace? k path t (view.parts a)
  | _, _, _, _, _ => none

/-- The fields with another part in the field of a key. -/
def Fields.replace? : {β : Type} → Fields β → String → List Step → Tree → β → Option β
  | _, .nil, _, _, _, _ => none
  | _, .cons f value rest, k, path, t, (a, as) =>
    if f.key = k then do
      let a ← value.replace? path t a
      some (a, as)
    else do
      let as ← rest.replace? k path t as
      some (a, as)

end

end Accelerator
