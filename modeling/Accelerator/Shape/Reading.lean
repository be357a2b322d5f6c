import Accelerator.Json.Fault
import Accelerator.Shape

/-!
# Reading records

`Shape.decode` reads a value of a shape from a document and `Shape.read` from a text; the first
fault in reading order decides the error. A record is read from an object or from an array of its
fields in order. In an object the members may come in any order; unknown members are passed over, a
member that was read before is refused, and every field has to be there, except that an optional
part may be absent.
-/

namespace Accelerator

open Json

/-- A 32-bit integer: an integer literal in range. -/
def decodeInteger (d : Document) : Except ReadError Int32 :=
  match d with
  | .number n =>
    match numberOf n with
    | .ok (.integer i) =>
      if -2147483648 ≤ i ∧ i ≤ 2147483647 then .ok (Int32.ofInt i) else .error (.outsideInteger i)
    | .ok (.real x) => .error (.wrongType (.real x) .integer)
    | .error e => .error e
  | d => .error (d.mismatch .integer)

/-- A float: any number. -/
def decodeReal (d : Document) : Except ReadError Float :=
  match d with
  | .number n =>
    match numberOf n with
    | .ok (.integer i) => .ok (realOfInt i)
    | .ok (.real x) => .ok x
    | .error e => .error e
  | d => .error (d.mismatch .real)

/-- A flag. -/
def decodeFlag (d : Document) : Except ReadError Bool :=
  match d with
  | .word (.flag b) => .ok b
  | d => .error (d.mismatch .flag)

/-- A string. -/
def decodeText (d : Document) : Except ReadError String :=
  match d with
  | .string q => q.decode
  | d => .error (d.mismatch .string)

/-- The absent value. -/
def decodeUnit (d : Document) : Except ReadError Unit :=
  match d with
  | .word .null => .ok ()
  | d => .error (d.mismatch .unit)

/-- The alternative of a name. -/
def chosen {α : Type} (c : Choice α) (name : String) : Except ReadError α :=
  match c.ofKey? name with
  | some a => .ok a
  | none => .error (.unknownChoice name (c.all.map c.key))

/-- The alternative that the only key of an object names; its value is `null`. The object is begun
like any other: a text that ends after the brace ends in the object, and only a string can be its
key. -/
def decodeMember {α : Type} (c : Choice α) (members : Members) : Except ReadError α :=
  let name (key : Quoted) : Except ReadError α := key.decode >>= chosen c
  match members with
  | .closed | .stray | .dangling => .error .valueDue
  | .ended => .error (.ended .object)
  | .commaEnded => .error (.ended .value)
  | .noKey => .error .keyDue
  | .brokenKey key => do
    discard (name key)
    .error (.ended .string)
  | .keyEnded key => do
    discard (name key)
    .error (.ended .object)
  | .noColon key => do
    discard (name key)
    .error .colonDue
  | .member key d rest => do
    let a ← name key
    decodeUnit d
    match rest with
    | .closed => .ok a
    | .ended => .error (.ended .object)
    | _ => .error .valueDue

/-- One of several alternatives: its name as a string, or as the key of an object. -/
def decodeChoice {α : Type} (c : Choice α) (d : Document) : Except ReadError α :=
  match d with
  | .missing => .error (.ended .value)
  | .string q => q.decode >>= chosen c
  | .object members => decodeMember c members
  | _ => .error .valueDue

/-- The items of a list, all read alike. -/
def decodeItems {α : Type} (entry : Document → Except ReadError α) :
    Items → Except ReadError (List α)
  | .closed => .ok []
  | .ended => .error (.ended .list)
  | .stray => .error .listEndDue
  | .dangling => .error .trailingComma
  | .item d rest => do
    let a ← entry d
    let as ← decodeItems entry rest
    .ok (a :: as)

/-- The end of a list that has all the items that are due. -/
def decodeEnd : Items → Except ReadError Unit
  | .closed => .ok ()
  | .ended => .error (.ended .list)
  | .stray => .error .trailingText
  | .dangling => .error .trailingComma
  | .item .. => .error .trailingText

/-- The next item of a list that has to have more items. -/
def nextItem (tooFew : ReadError) : Items → Except ReadError (Document × Items)
  | .closed => .error tooFew
  | .ended => .error (.ended .list)
  | .stray => .error .listEndDue
  | .dangling => .error .trailingComma
  | .item d rest => .ok (d, rest)

/-- The first `n` items of a list, all read alike; `seen` are there before. -/
def decodeArray {α : Type} (entry : Document → Except ReadError α) (length seen : Nat) :
    (n : Nat) → Items → Except ReadError (Vector α n)
  | 0, items => do
    decodeEnd items
    .ok #v[]
  | n + 1, items => do
    let (d, rest) ← nextItem (.tooShort seen (.array length)) items
    let a ← entry d
    let as ← decodeArray entry length (seen + 1) n rest
    .ok ((#v[a] ++ as).cast (Nat.add_comm 1 n))

/-- Values for some of the fields. -/
def Fields.Slots : {β : Type} → Fields β → Type
  | _, .nil => Unit
  | _, .cons (α := α) _ _ rest => Option α × rest.Slots

/-- No values yet. -/
def Fields.noValues : {β : Type} → (fields : Fields β) → fields.Slots
  | _, .nil => ()
  | _, .cons _ _ rest => (none, rest.noValues)

/-- The field with a key has a value. -/
def Fields.isFilled : {β : Type} → (fields : Fields β) → fields.Slots → String → Bool
  | _, .nil, _, _ => false
  | _, .cons (α := α) f _ rest, slots, key =>
    let (slot, others) : Option α × rest.Slots := slots
    if f.key = key then slot.isSome else rest.isFilled others key

/-- The value of an absent member, if it may be absent. -/
def Shape.absent? : {α : Type} → Shape α → Option α
  | _, .optional _ => some none
  | _, _ => none

/-- The values of all fields; the first field in order that has none is missing. -/
def Fields.collect : {β : Type} → (fields : Fields β) → fields.Slots → Except ReadError β
  | _, .nil, _ => .ok ()
  | _, .cons (α := α) f value rest, slots =>
    let (slot, others) : Option α × rest.Slots := slots
    match slot.or value.absent? with
    | some a => do
      let as ← rest.collect others
      .ok (a, as)
    | none => .error (.missing f.key)

/-- The members of an object. `isFilled` tells the members that were read before, `fill` reads the
value of a member. -/
def decodeMembers {σ : Type} (isFilled : σ → String → Bool)
    (fill : σ → String → Document → Except ReadError σ) : σ → Members → Except ReadError σ
  | slots, .closed => .ok slots
  | _, .ended => .error (.ended .object)
  | _, .stray => .error .objectEndDue
  | _, .dangling => .error .trailingComma
  | _, .commaEnded => .error (.ended .value)
  | _, .noKey => .error .keyDue
  | _, .brokenKey key => do
    discard key.decode
    .error (.ended .string)
  | slots, .keyEnded key => do
    refuse slots key
    .error (.ended .object)
  | slots, .noColon key => do
    refuse slots key
    .error .colonDue
  | slots, .member key d rest => do
    refuse slots key
    let name ← key.decode
    let slots ← fill slots name d
    decodeMembers isFilled fill slots rest
where
  /-- Refuses a key that does not read, or that was read before. -/
  refuse (slots : σ) (key : Quoted) : Except ReadError Unit := do
    let name ← key.decode
    if isFilled slots name then .error (.duplicate name) else .ok ()

mutual

/-- Reads a value of a shape. -/
def Shape.decode : {α : Type} → Shape α → Document → Except ReadError α
  | _, .real, d => decodeReal d
  | _, .integer, d => decodeInteger d
  | _, .flag, d => decodeFlag d
  | _, .text, d => decodeText d
  | _, .choice c, d => decodeChoice c d
  | _, .array n entry, d =>
    match d with
    | .list items => decodeArray entry.decode n 0 n items
    | d => .error (d.mismatch (.array n))
  | _, .list entry, d =>
    match d with
    | .list items => decodeItems entry.decode items
    | d => .error (d.mismatch .list)
  | _, .optional value, d =>
    match d with
    | .word .null => .ok none
    | d => some <$> value.decode d
  | _, .record name fields view, d =>
    match d with
    | .list items => view.ofParts <$> fields.decodeItems name fields.count 0 items
    | .object members => do
      let slots ← decodeMembers fields.isFilled fields.decodeField fields.noValues members
      let parts ← fields.collect slots
      .ok (view.ofParts parts)
    | d => .error (d.mismatch (.record name))

/-- Reads the fields of a record from the items of a list, in order. -/
def Fields.decodeItems : {β : Type} → (fields : Fields β) → (name : String) →
    (count seen : Nat) → Items → Except ReadError β
  | _, .nil, _, _, _, items => decodeEnd items
  | _, .cons _ value rest, name, count, seen, items => do
    let (d, others) ← nextItem (.tooShort seen (.record name count)) items
    let a ← value.decode d
    let as ← rest.decodeItems name count (seen + 1) others
    .ok (a, as)

/-- Reads the value of a member into the field of its key, or passes over it. -/
def Fields.decodeField : {β : Type} → (fields : Fields β) → fields.Slots → String → Document →
    Except ReadError fields.Slots
  | _, .nil, slots, _, d => do
    d.pass
    .ok slots
  | _, .cons (α := α) f value rest, slots, key, d =>
    let (slot, others) : Option α × rest.Slots := slots
    if f.key = key then do
      let a ← value.decode d
      .ok (some a, others)
    else do
      let others ← rest.decodeField others key d
      .ok (slot, others)

end

/-- Reads a value of a shape from a text, which has to hold nothing else. -/
def Shape.readChars {α : Type} (s : Shape α) (text : List Char) : Except ReadError α :=
  match Document.scan text with
  | (d, rest) => do
    let a ← s.decode d
    match rest with
    | some ⟨r, _⟩ => if (skipBlanks r).isEmpty then .ok a else .error .trailingText
    | none => .error (.ended .value)

/-- Reads a value of a shape from a text. -/
def Shape.read {α : Type} (s : Shape α) (text : String) : Except ReadError α :=
  s.readChars text.toList

end Accelerator
