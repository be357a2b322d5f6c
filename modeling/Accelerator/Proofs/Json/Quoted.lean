import Accelerator.Json.Quoted
import Accelerator.Json.Writing
import Mathlib.Tactic.Common

/-!
# Strings that are written and read

A string is written with escapes, and read back without loss: the quoted text of a string
(`Quoted.ofText`) is what its text scans as (`Quoted.scan_flatMap_charText_append`), and it decodes
to the string (`Quoted.decode_ofText`).
-/

namespace Accelerator.Json

/-- The piece that a character scans as once it is written: a control without a letter of its own is
written as its code. -/
def pieceOf (c : Char) : Piece :=
  if c.toNat < 32 ∧ c ∉ ['\x08', '\t', '\n', '\x0c', '\r'] then .unit c.toNat else .char c

/-- The quoted text of a string. -/
def Quoted.ofText (s : String) : Quoted :=
  ⟨s.toList.map pieceOf, .closed⟩

theorem unitOf?_hexDigit : ∀ n : Fin 32,
    unitOf? '0' '0' (hexDigit ⟨n.val / 16 % 16, by omega⟩) (hexDigit ⟨n.val % 16, by omega⟩) =
      some n.val := by
  decide

namespace Quoted

theorem scan_controlEscape_append {n : Nat} (h : n < 32) (r : List Char) :
    scan (controlEscape n ++ r) = push (.unit n) (scan r) := by
  have hu := unitOf?_hexDigit ⟨n, h⟩
  simp only [controlEscape, List.cons_append, List.nil_append, scan, hu]

theorem scan_charText_append (c : Char) (r : List Char) :
    scan (charText c ++ r) = push (pieceOf c) (scan r) := by
  unfold charText
  split_ifs with h1 h2 h3 h4 h5 h6 h7 h8
  · subst h1; simp [scan, escaped?, pieceOf]
  · subst h2; simp [scan, escaped?, pieceOf]
  · subst h3; simp [scan, escaped?, pieceOf]
  · subst h4; simp [scan, escaped?, pieceOf]
  · subst h5; simp [scan, escaped?, pieceOf]
  · subst h6; simp [scan, escaped?, pieceOf]
  · subst h7; simp [scan, escaped?, pieceOf]
  · rw [scan_controlEscape_append h8, pieceOf, if_pos]
    simp only [List.mem_cons, List.not_mem_nil, or_false, not_or]
    exact ⟨h8, h3, h4, h5, h6, h7⟩
  · rw [pieceOf, if_neg fun h => h8 h.1]
    simp [scan, h2, h8]

theorem scan_flatMap_charText_append (cs r : List Char) :
    scan (cs.flatMap charText ++ '"' :: r) = (⟨cs.map pieceOf, .closed⟩, r) := by
  induction cs with
  | nil => simp [scan, stop]
  | cons c cs ih =>
    rw [List.flatMap_cons, List.append_assoc, scan_charText_append, ih]
    rfl

theorem decodePieces_map_pieceOf (cs : List Char) :
    decodePieces .closed (cs.map pieceOf) = .ok cs := by
  induction cs with
  | nil => rfl
  | cons c cs ih =>
    rw [List.map_cons, pieceOf]
    split_ifs with h
    · unfold decodePieces
      rw [if_pos (.inl (by omega)), ih, Char.ofNat_toNat]
      rfl
    · rw [decodePieces, ih]
      rfl

/-- A string is read as it was written. -/
theorem decode_ofText (s : String) : (ofText s).decode = .ok s := by
  rw [decode, ofText, decodePieces_map_pieceOf]
  exact congrArg Except.ok (String.ofList_toList)

theorem ofText_injective : Function.Injective ofText := by
  intro s t h
  have := decode_ofText s
  rw [h, decode_ofText] at this
  exact (Except.ok.inj this).symm

end Quoted

end Accelerator.Json
