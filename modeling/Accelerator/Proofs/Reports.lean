import Accelerator.Sink
import Mathlib.Data.List.TakeDrop
import Mathlib.Tactic.SplitIfs

/-!
# What a sink takes, and the lines of it

A sink takes the first bytes of a report for which it has room, wherever the texts of the report
begin and end (`Sink.putAll_eq_putBytes`); one without a limit takes every text in full
(`Sink.putAll_unlimited`).  `byteLines` splits the bytes of a report into its lines; the last line
of a report that ends with a line feed is what stands between the last two of them
(`getLast?_byteLines`).
-/

namespace Accelerator

/-! ## Bytes of texts -/

theorem textBytes_append (s t : String) : textBytes (s ++ t) = textBytes s ++ textBytes t := by
  simp [textBytes]

theorem textBytes_inj {s t : String} : textBytes s = textBytes t ↔ s = t := by
  rw [textBytes, textBytes, Array.toList_inj, ← String.toByteArray_inj]
  exact ByteArray.ext_iff.symm

theorem textBytes_eq_flatMap (s : String) :
    textBytes s = s.toList.flatMap String.utf8EncodeChar := by
  conv_lhs => rw [← String.ofList_toList (s := s)]
  rw [textBytes, String.toUTF8_eq_toByteArray]
  exact congrArg Array.toList List.data_toByteArray

/-- A byte below 128 in the encoding of a character is the whole of it. -/
theorem toNat_of_mem_utf8EncodeChar {b : UInt8} {c : Char} (h : b ∈ String.utf8EncodeChar c)
    (hb : b.toNat < 128) : b.toNat = c.toNat := by
  change _ = c.val.toNat
  unfold String.utf8EncodeChar at h
  simp only at h
  split_ifs at h <;> simp only [List.mem_cons, List.not_mem_nil, or_false] at h
  · rw [h, UInt8.toNat_ofNat']
    omega
  -- The bytes of a longer encoding are 128 and more.
  all_goals
    rcases h with rfl | rfl | rfl | rfl
    all_goals
      simp only [UInt8.toNat_ofNat'] at hb
      omega

/-- The bytes of a text have a line feed iff the text has one. -/
theorem lineFeed_mem_textBytes_iff (s : String) : 10 ∈ textBytes s ↔ '\n' ∈ s.toList := by
  rw [textBytes_eq_flatMap, List.mem_flatMap]
  constructor
  · rintro ⟨c, hc, h⟩
    have hcode : '\n'.toNat = c.toNat := toNat_of_mem_utf8EncodeChar h (by decide)
    rwa [Char.toNat_inj.1 hcode]
  · intro h
    exact ⟨_, h, by decide⟩

/-- The bytes of texts one after the other. -/
def bytesOf (texts : List String) : List UInt8 :=
  texts.flatMap textBytes

@[simp]
theorem bytesOf_nil : bytesOf [] = [] := rfl

@[simp]
theorem bytesOf_cons (t : String) (ts : List String) :
    bytesOf (t :: ts) = textBytes t ++ bytesOf ts := rfl

@[simp]
theorem bytesOf_append (ts us : List String) : bytesOf (ts ++ us) = bytesOf ts ++ bytesOf us :=
  List.flatMap_append

/-! ## What a sink takes -/

namespace Sink

/-- What a sink takes of some bytes: as many of the first ones as it has room for. -/
def accepted (s : Sink) (bytes : List UInt8) : List UInt8 :=
  match s.limit with
  | none => bytes
  | some l => bytes.take l.room

theorem accepted_isPrefix (s : Sink) (bytes : List UInt8) : s.accepted bytes <+: bytes := by
  rw [accepted]
  split
  · exact List.prefix_refl bytes
  · exact List.take_prefix _ bytes

theorem accepted_eq_iff {s : Sink} {l : Limit} (hl : s.limit = some l) (bytes : List UInt8) :
    s.accepted bytes = bytes ↔ bytes.length ≤ l.room := by
  simp only [accepted, hl, List.take_eq_self_iff]

/-- The sink that has taken what it accepts of some bytes. -/
def after (s : Sink) (bytes : List UInt8) : Sink where
  limit := s.limit.map fun l => ⟨l.room - bytes.length, l.refusal⟩
  taken := s.taken ++ s.accepted bytes

/-- What writing some bytes comes to: a value if the sink accepts all of them, or else a failure
that tells why the sink refuses the rest. -/
def answer {ε α : Type} (s : Sink) (bytes : List UInt8) (value : α) (failure : SinkError → ε) :
    Except ε α :=
  match s.limit with
  | none => .ok value
  | some l => if bytes.length ≤ l.room then .ok value else .error (failure l.refusal)

section Answer

variable {ε α : Type} {s : Sink} {bytes : List UInt8} {value v : α} {failure : SinkError → ε}

theorem answer_eq_ok_iff :
    s.answer bytes value failure = .ok v ↔ v = value ∧ s.accepted bytes = bytes := by
  rw [answer]
  split
  · next hl => simp only [accepted, hl, and_true, Except.ok.injEq, eq_comm]
  · next l hl =>
    rw [accepted_eq_iff hl]
    split_ifs with hfits <;> simp only [hfits, and_true, and_false, Except.ok.injEq, eq_comm]

theorem answer_eq_error_iff {e : ε} : s.answer bytes value failure = .error e ↔
    s.accepted bytes ≠ bytes ∧ ∃ l, s.limit = some l ∧ e = failure l.refusal := by
  rw [answer]
  split
  · next hl => simp [hl]
  · next l hl =>
    rw [ne_eq, accepted_eq_iff hl]
    split_ifs with hfits <;> simp [hl, hfits, eq_comm]

end Answer

/-- The value and the failure may be put in later. -/
theorem answer_eq_match {ε α : Type} (s : Sink) (bytes : List UInt8) (value : α)
    (failure : SinkError → ε) : s.answer bytes value failure =
      match s.answer bytes () id with
      | .ok () => .ok value
      | .error e => .error (failure e) := by
  simp only [answer]
  split
  · rfl
  · split_ifs <;> rfl

/-- A sink takes what it accepts, and refuses the bytes iff that is not all of them. -/
theorem putBytes_eq (bytes : List UInt8) (s : Sink) :
    s.putBytes bytes = (s.after bytes, s.answer bytes () id) := by
  obtain ⟨_ | l, taken⟩ := s
  · rfl
  · simp only [putBytes, after, answer, Option.map_some]
    split_ifs with hfits
    · rw [(accepted_eq_iff rfl bytes).2 hfits]
    · rw [Nat.sub_eq_zero_of_le (Nat.le_of_not_ge hfits)]
      rfl

/-- What comes second is written iff what comes first is taken in full. -/
theorem putBytes_append (first second : List UInt8) (s : Sink) :
    s.putBytes (first ++ second) =
      match s.putBytes first with
      | (s, .ok ()) => s.putBytes second
      | (s, .error e) => (s, .error e) := by
  obtain ⟨_ | ⟨n, refusal⟩, taken⟩ := s
  · simp only [putBytes, List.append_assoc]
  · by_cases hfirst : first.length ≤ n
    · have hboth : first.length + second.length ≤ n ↔ second.length ≤ n - first.length := by
        omega
      simp only [putBytes, if_pos hfirst, hboth, List.length_append, Nat.sub_sub, List.take_append,
        List.take_of_length_le hfirst, List.append_assoc]
    · have hboth : ¬first.length + second.length ≤ n := by omega
      simp only [putBytes, if_neg hfirst, List.length_append, if_neg hboth,
        List.take_append_of_le_length (Nat.le_of_not_ge hfirst)]

/-- Texts that are written one by one are written like all of them at once. -/
theorem putAll_eq_putBytes (texts : List String) (s : Sink) :
    putAll texts s = s.putBytes (bytesOf texts) := by
  induction texts generalizing s with
  | nil => obtain ⟨_ | l, taken⟩ := s <;> simp [putAll, putBytes]
  | cons t ts ih =>
    rw [putAll, bytesOf_cons, putBytes_append]
    obtain ⟨after, ⟨⟩ | ⟨⟩⟩ := s.putBytes (textBytes t)
    · rfl
    · exact ih after

theorem putAll_unlimited (texts : List String) (taken : List UInt8) :
    putAll texts ⟨none, taken⟩ = (⟨none, taken ++ bytesOf texts⟩, .ok ()) :=
  putAll_eq_putBytes texts _

end Sink

/-! ## Lines -/

/-- The lines of a text in bytes. A line feed ends a line; what follows the last one is a line of
its own unless there is nothing. -/
def byteLines : List UInt8 → List (List UInt8)
  | [] => []
  | b :: bs =>
    if b = 10 then [] :: byteLines bs
    else
      match byteLines bs with
      | [] => [[b]]
      | l :: ls => (b :: l) :: ls

theorem byteLines_ne_nil (s : List UInt8) (b : UInt8) : byteLines (b :: s) ≠ [] := by
  rw [byteLines]
  split_ifs
  · simp
  · split <;> simp

/-- A line feed separates the lines before it from those after it. -/
theorem byteLines_append (s t : List UInt8) :
    byteLines (s ++ 10 :: t) = byteLines (s ++ [10]) ++ byteLines t := by
  induction s with
  | nil => rfl
  | cons b s ih =>
    rw [List.cons_append, List.cons_append, byteLines, byteLines, ih]
    split_ifs
    · rfl
    · rcases h : byteLines (s ++ [10]) with _ | ⟨l, ls⟩
      · cases s <;> exact absurd h (byteLines_ne_nil _ _)
      · rfl

theorem byteLines_line {l : List UInt8} (h : 10 ∉ l) : byteLines (l ++ [10]) = [l] := by
  induction l with
  | nil => rfl
  | cons b l ih =>
    rw [List.mem_cons, not_or] at h
    rw [List.cons_append, byteLines, if_neg (Ne.symm h.1), ih h.2]

/-- Lines that each end with a line feed, and have no other, are the lines of the whole. -/
theorem byteLines_flatMap {ls : List (List UInt8)} (h : ∀ l ∈ ls, 10 ∉ l) :
    byteLines (ls.flatMap (· ++ [10])) = ls := by
  induction ls with
  | nil => rfl
  | cons l ls ih =>
    obtain ⟨hl, h⟩ := List.forall_mem_cons.1 h
    rw [List.flatMap_cons, List.append_assoc, List.singleton_append, byteLines_append,
      byteLines_line hl, ih h, List.singleton_append]

theorem getLast?_byteLines (s : List UInt8) {l : List UInt8} (h : 10 ∉ l) :
    (byteLines (s ++ 10 :: (l ++ [10]))).getLast? = some l := by
  rw [byteLines_append, byteLines_line h, List.getLast?_concat]

end Accelerator
