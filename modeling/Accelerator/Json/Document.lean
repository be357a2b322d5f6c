import Accelerator.Decimal.Value
import Accelerator.Json.Quoted

/-!
# JSON documents

A text as the tree of its values, up to its first fault. `Document.scan` never fails: where the
text breaks off or goes astray the tree says so, and nothing follows. What a fault means depends on
who meets it: a reader that has all the entries it wants words it differently from one that wants
more, and a value that is passed over is judged by its syntax alone (`Document.pass`).
-/

namespace Accelerator.Json

/-- A word that is a value. -/
inductive Word where
  | null
  | flag (b : Bool)
deriving Repr, DecidableEq

mutual

/-- What is found where a value is due. -/
inductive Document where
  /-- The text ends. -/
  | missing
  /-- A character that starts no value. -/
  | stray
  | word (w : Word)
  /-- A word that is none, or that the end of the text cuts off. -/
  | brokenWord (ended : Bool)
  | number (n : Numeral)
  /-- A number that is none, or that the end of the text cuts off. -/
  | brokenNumber (ended : Bool)
  | string (q : Quoted)
  | list (items : Items)
  | object (members : Members)

/-- What is found after the opening bracket of a list or after one of its items. -/
inductive Items where
  | closed
  /-- The text ends. -/
  | ended
  /-- Neither a comma nor the closing bracket. -/
  | stray
  /-- A comma, then the closing bracket. -/
  | dangling
  /-- The next item, after a comma unless it is the first one. -/
  | item (d : Document) (rest : Items)

/-- What is found after the opening brace of an object or after one of its members. -/
inductive Members where
  | closed
  /-- The text ends. -/
  | ended
  /-- Neither a comma nor the closing brace. -/
  | stray
  /-- A comma, then the closing brace. -/
  | dangling
  /-- A comma, then the end of the text. -/
  | commaEnded
  /-- A key is due, but there is no quotation mark. -/
  | noKey
  /-- A key that does not end. -/
  | brokenKey (key : Quoted)
  /-- A key, then the end of the text. -/
  | keyEnded (key : Quoted)
  /-- A key without a colon. -/
  | noColon (key : Quoted)
  | member (key : Quoted) (d : Document) (rest : Members)

end

/-- A character that may stand between two tokens. -/
def isSeparator (c : Char) : Bool :=
  c = ' ' || c = '\n' || c = '\t' || c = '\r'

/-- Text after blanks. -/
def skipBlanks (s : List Char) : List Char :=
  s.dropWhile isSeparator

theorem length_skipBlanks (s : List Char) : (skipBlanks s).length ≤ s.length :=
  (List.dropWhile_suffix isSeparator).length_le

theorem length_of_skipBlanks {s r : List Char} {c : Char} (h : skipBlanks s = c :: r) :
    r.length < s.length := by
  have := length_skipBlanks s
  rw [h] at this
  exact this

/-- What follows something at the front of a text: nothing if that is broken, else fewer
characters. -/
abbrev Rest (s : List Char) := Option { r : List Char // r.length < s.length }

/-- What follows in a longer text. -/
def Rest.within {s t : List Char} (h : s.length ≤ t.length) (r : Rest s) : Rest t :=
  r.map fun x => ⟨x.1, Nat.lt_of_lt_of_le x.2 h⟩

namespace Document

/-- Takes the letters of a word off the front of a text. A word that is broken ends with the text,
or goes on with another character. -/
def scanLetters : (letters s : List Char) → Except Bool (List Char)
  | [], s => .ok s
  | _ :: _, [] => .error true
  | l :: ls, c :: r => if c = l then scanLetters ls r else .error false

theorem length_scanLetters {letters s r : List Char} (h : scanLetters letters s = .ok r) :
    r.length ≤ s.length := by
  induction letters generalizing s with
  | nil => cases h; exact Nat.le_refl _
  | cons l ls ih =>
    cases s with
    | nil => cases h
    | cons c s =>
      simp only [scanLetters] at h
      split at h
      · exact Nat.le_succ_of_le (ih h)
      · cases h

/-- A word whose first letter is read, and what follows it. -/
def wordAt (w : Word) (letters s : List Char) {t : List Char} (h : s.length < t.length) :
    Document × Rest t :=
  match e : scanLetters letters s with
  | .ok r => (.word w, some ⟨r, Nat.lt_of_le_of_lt (length_scanLetters e) h⟩)
  | .error ended => (.brokenWord ended, none)

/-- A number whose sign is read, and what follows it. -/
def numberAt (negative : Bool) (s : List Char) {t : List Char} (h : s.length ≤ t.length) :
    Document × Rest t :=
  match e : Numeral.scan negative s with
  | .complete n r => (.number n, some ⟨r, Nat.lt_of_lt_of_le (Numeral.length_scan e) h⟩)
  | .broken ended => (.brokenNumber ended, none)

/-- A quoted text whose opening mark is read, and what follows it. -/
def quotedAt (s : List Char) {t : List Char} (h : s.length < t.length) : Quoted × Rest t :=
  (((Quoted.scan s).1, if (Quoted.scan s).1.ending = .closed then
      some ⟨(Quoted.scan s).2, Nat.lt_of_le_of_lt (Quoted.length_scan s) h⟩ else none))

mutual

/-- The value at the front of a text, and what follows it. -/
def scan (s : List Char) : Document × Rest s :=
  match h : skipBlanks s with
  | [] => (.missing, none)
  | 'n' :: r => wordAt .null ['u', 'l', 'l'] r (length_of_skipBlanks h)
  | 't' :: r => wordAt (.flag true) ['r', 'u', 'e'] r (length_of_skipBlanks h)
  | 'f' :: r => wordAt (.flag false) ['a', 'l', 's', 'e'] r (length_of_skipBlanks h)
  | '"' :: r =>
    let q := quotedAt r (length_of_skipBlanks h)
    (.string q.1, q.2)
  | '[' :: r =>
    have shorter := length_of_skipBlanks h
    match h' : skipBlanks r with
    | [] => (.list .ended, none)
    | ']' :: t =>
      have := length_of_skipBlanks h'
      (.list .closed, some ⟨t, by omega⟩)
    | _ =>
      match scan r with
      | (d, none) => (.list (.item d .ended), none)
      | (d, some ⟨t, _⟩) =>
        let items := scanItems t
        (.list (.item d items.1), items.2.within (by omega))
  | '{' :: r =>
    have shorter := length_of_skipBlanks h
    match h' : skipBlanks r with
    | [] => (.object .ended, none)
    | '}' :: t =>
      have := length_of_skipBlanks h'
      (.object .closed, some ⟨t, by omega⟩)
    | '"' :: t =>
      have := length_of_skipBlanks h'
      let members := scanMember t
      (.object members.1, members.2.within (by omega))
    | _ => (.object .noKey, none)
  | '-' :: r => numberAt true r (Nat.le_of_lt (length_of_skipBlanks h))
  | c :: r =>
    if (Digit.ofChar? c).isSome then
      numberAt false (c :: r) (by rw [← h]; exact length_skipBlanks s)
    else (.stray, none)
termination_by s.length

/-- What follows an item of a list. -/
def scanItems (s : List Char) : Items × Rest s :=
  match h : skipBlanks s with
  | [] => (.ended, none)
  | ']' :: r => (.closed, some ⟨r, length_of_skipBlanks h⟩)
  | ',' :: r =>
    have shorter := length_of_skipBlanks h
    match skipBlanks r with
    | ']' :: _ => (.dangling, none)
    | _ =>
      match scan r with
      | (d, none) => (.item d .ended, none)
      | (d, some ⟨t, _⟩) =>
        let items := scanItems t
        (.item d items.1, items.2.within (by omega))
  | _ => (.stray, none)
termination_by s.length

/-- A member of an object whose key is open, and what follows it. -/
def scanMember (s : List Char) : Members × Rest s :=
  let key := (Quoted.scan s).1
  have keyShorter := Quoted.length_scan s
  if key.ending = .closed then
    match h : skipBlanks (Quoted.scan s).2 with
    | [] => (.keyEnded key, none)
    | ':' :: r =>
      have shorter := length_of_skipBlanks h
      match scan r with
      | (d, none) => (.member key d .ended, none)
      | (d, some ⟨t, _⟩) =>
        let members := scanMembers t
        (.member key d members.1, members.2.within (by omega))
    | _ => (.noColon key, none)
  else (.brokenKey key, none)
termination_by s.length

/-- What follows a member of an object. -/
def scanMembers (s : List Char) : Members × Rest s :=
  match h : skipBlanks s with
  | [] => (.ended, none)
  | '}' :: r => (.closed, some ⟨r, length_of_skipBlanks h⟩)
  | ',' :: r =>
    have shorter := length_of_skipBlanks h
    match h' : skipBlanks r with
    | [] => (.commaEnded, none)
    | '}' :: _ => (.dangling, none)
    | '"' :: t =>
      have := length_of_skipBlanks h'
      let members := scanMember t
      (members.1, members.2.within (by omega))
    | _ => (.noKey, none)
  | _ => (.stray, none)
termination_by s.length

end

end Document

end Accelerator.Json
