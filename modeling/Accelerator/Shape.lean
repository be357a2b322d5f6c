/-!
# Shapes of records

A `Shape α` describes the values of the type `α` by the way they are built: from floats, 32-bit
integers, flags, text and choices, by arrays, lists, optional parts and records of named fields.
What holds of every record alike (when two are equal, how one is written and read, which pattern
has a given index) is defined once, by recursion on the shape.
-/

namespace Accelerator

/-- A type of finitely many named alternatives, in their order; the first one is the default. -/
structure Choice (α : Type) where
  typeName : String
  first : α
  others : List α
  /-- The name in documents. -/
  key : α → String
  /-- The name for people. -/
  label : α → String
  eq : DecidableEq α
  mem_all : ∀ a, a ∈ first :: others
  nodup : ((first :: others).map key).Nodup

namespace Choice

variable {α : Type}

/-- The alternatives, in order. -/
def all (c : Choice α) : List α :=
  c.first :: c.others

/-- The alternative of a name in documents. -/
def ofKey? (c : Choice α) (key : String) : Option α :=
  c.all.find? fun a => c.key a = key

/-- The position of an alternative. -/
def position (c : Choice α) (a : α) : Nat :=
  have := c.eq
  c.all.idxOf a

/-- The alternative at a position, which is taken modulo their number. -/
def cyclic (c : Choice α) (n : Nat) : α :=
  c.all.get ⟨n % c.all.length, Nat.mod_lt _ (by simp [all])⟩

/-- The alternative after this one; the first one comes after the last one. -/
def next (c : Choice α) (a : α) : α :=
  c.cyclic (c.position a + 1)

end Choice

/-- The name of a field, and its place in the patterns. -/
structure Field where
  /-- The name in documents. -/
  key : String
  /-- The name for people. -/
  label : String
  /-- What the field adds to the index of a pattern. -/
  number : Int32
  /-- How many entries a pattern gives to each list in the field. -/
  size : Nat

namespace Field

/-- A field of one name; lists in it have three entries in patterns. -/
def named (key : String) (number : Int32) : Field :=
  ⟨key, key, number, 3⟩

/-- The field with another name for people. -/
def labelled (f : Field) (label : String) : Field :=
  { f with label }

/-- The field with lists of another length in patterns. -/
def sized (f : Field) (size : Nat) : Field :=
  { f with size }

end Field

/-- Values of `α` seen as values of `β`, without loss. -/
structure View (α β : Type) where
  parts : α → β
  ofParts : β → α
  ofParts_parts : ∀ a, ofParts (parts a) = a
  parts_ofParts : ∀ b, parts (ofParts b) = b

mutual

/-- How values of a type are built. -/
inductive Shape : Type → Type 1 where
  | real : Shape Float
  | integer : Shape Int32
  | flag : Shape Bool
  | text : Shape String
  | choice {α : Type} (c : Choice α) : Shape α
  | array {α : Type} (n : Nat) (entry : Shape α) : Shape (Vector α n)
  | list {α : Type} (entry : Shape α) : Shape (List α)
  | optional {α : Type} (value : Shape α) : Shape (Option α)
  | record {α β : Type} (name : String) (fields : Fields β) (view : View α β) : Shape α

/-- The fields of a record, in order; their values are nested pairs. -/
inductive Fields : Type → Type 1 where
  | nil : Fields Unit
  | cons {α β : Type} (f : Field) (value : Shape α) (rest : Fields β) : Fields (α × β)

end

namespace Fields

/-- How many fields there are. -/
def count : {β : Type} → Fields β → Nat
  | _, .nil => 0
  | _, .cons _ _ rest => rest.count + 1

/-- The names of the fields in documents, in order. -/
def keys : {β : Type} → Fields β → List String
  | _, .nil => []
  | _, .cons f _ rest => f.key :: rest.keys

end Fields

end Accelerator
