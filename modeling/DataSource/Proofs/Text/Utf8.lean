import DataSource.Text.Utf8
import Mathlib.Data.List.Basic

/-!
# Characters inside UTF-8

A character's bytes begin with a byte of a kind that stands nowhere else in them, and no character's
bytes begin with those of another. So where the bytes of a character occur in the bytes of a text, the
text has that character there (`exists_of_utf8_eq_append`): nothing in front of it and nothing behind it
can make the bytes part of other characters. Bytes around a character therefore have a text exactly when
both sides have one (`ofUtf8?_append_char`).
-/

namespace DataSource.Text

theorem utf8_singleton (c : Char) : utf8 [c] = String.utf8EncodeChar c := by simp [utf8]

theorem utf8_cons (c : Char) (rest : List Char) : utf8 (c :: rest) = utf8 [c] ++ utf8 rest := by
  rw [← utf8_append, List.singleton_append]

theorem length_utf8_pos (c : Char) : 0 < (utf8 [c]).length := by
  rw [utf8_singleton, String.length_utf8EncodeChar]
  exact c.utf8Size_pos

/-- The first byte of a character tells itself from its other bytes. -/
theorem isUTF8FirstByte_iff {c : Char} {front rest : List UInt8} {byte : UInt8}
    (h : utf8 [c] = front ++ byte :: rest) : byte.IsUTF8FirstByte ↔ front = [] := by
  rw [utf8_singleton] at h
  have hlength : front.length < (String.utf8EncodeChar c).length := by simp [h]
  have hbyte : (String.utf8EncodeChar c)[front.length] = byte := by simp [h]
  rw [← hbyte, UInt8.isUTF8FirstByte_getElem_utf8EncodeChar, List.length_eq_zero_iff]

theorem utf8_append_inj {c d : Char} {a b : List UInt8} (h : utf8 [c] ++ a = utf8 [d] ++ b) :
    c = d ∧ a = b := by
  have hread (e : Char) (rest : List UInt8) :
      (utf8 [e] ++ rest).toByteArray.utf8DecodeChar? 0 = some e := by
    rw [List.toByteArray_append, utf8_singleton, ByteArray.utf8DecodeChar?_utf8EncodeChar_append]
  have hchar : c = d := by
    have hc := hread c a
    rw [h, hread d b] at hc
    exact (Option.some.inj hc).symm
  subst hchar
  exact ⟨rfl, List.append_cancel_left h⟩

/-- Where the bytes of a character occur in those of a text, the text has the character. -/
theorem exists_of_utf8_eq_append {text : List Char} {a b : List UInt8} {c : Char}
    (h : utf8 text = a ++ (utf8 [c] ++ b)) :
    ∃ before after, text = before ++ c :: after ∧ utf8 before = a ∧ utf8 after = b := by
  induction text generalizing a with
  | nil =>
    have hlength := congrArg List.length h
    have hpos := length_utf8_pos c
    simp [utf8] at hlength hpos
    omega
  | cons d rest ih =>
    rw [utf8_cons] at h
    rcases List.append_eq_append_iff.1 h with ⟨a', rfl, hrest⟩ | ⟨inside, hd, hc⟩
    · obtain ⟨before, after, rfl, rfl, rfl⟩ := ih hrest
      exact ⟨d :: before, after, rfl, utf8_cons d before, rfl⟩
    · rcases a with _ | ⟨x, a⟩
      · rw [List.nil_append] at hd
        rw [← hd] at hc
        obtain ⟨rfl, rfl⟩ := utf8_append_inj hc
        exact ⟨[], rest, rfl, rfl, rfl⟩
      · -- the character would begin inside the bytes of `d`, or right behind them
        obtain ⟨y, bytes, hy⟩ := List.exists_cons_of_length_pos (length_utf8_pos c)
        have hyFirst : utf8 [c] = [] ++ y :: bytes := hy
        rcases inside with _ | ⟨z, inside⟩
        · rw [List.append_nil] at hd
          obtain ⟨before, after, rfl, hbefore, hafter⟩ := ih (a := []) hc.symm
          refine ⟨d :: before, after, rfl, ?_, hafter⟩
          rw [utf8_cons, hbefore, hd, List.append_nil]
        · have hfirst : y.IsUTF8FirstByte := (isUTF8FirstByte_iff hyFirst).2 rfl
          rw [hy, List.cons_append, List.cons_append, List.cons.injEq] at hc
          rw [hc.1, isUTF8FirstByte_iff hd] at hfirst
          cases hfirst

theorem ofUtf8?_append_char (a b : List UInt8) (c : Char) :
    ofUtf8? (a ++ (utf8 [c] ++ b)) =
      (ofUtf8? a).bind fun before => (ofUtf8? b).map fun after => before ++ c :: after := by
  refine Option.ext fun text => ?_
  simp only [ofUtf8?_eq_some_iff, Option.bind_eq_some_iff, Option.map_eq_some_iff]
  constructor
  · intro h
    obtain ⟨before, after, rfl, rfl, rfl⟩ := exists_of_utf8_eq_append h.symm
    exact ⟨before, rfl, after, rfl, rfl⟩
  · rintro ⟨before, rfl, after, rfl, rfl⟩
    rw [utf8_append, utf8_cons c after]

end DataSource.Text
