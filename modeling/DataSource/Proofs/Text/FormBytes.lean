import DataSource.Proofs.Text.FormEscape

/-!
# The bytes of a spelling

The plain way to read a spelling is to write down the bytes that it stands for, from its beginning to its
end, and to take their text. `unescape` reads in that way (`unescape_iff_formBytes`), though it decodes
parts of the spelling by themselves: it accepts a text if two hexadecimal digits follow every percent
sign and the bytes of the whole are UTF-8.
-/

namespace DataSource.FormEscape

open Text

/-! ## Percent signs -/

/-- Whether a text begins with two hexadecimal digits. -/
def hexPair : List Char → Bool
  | high :: low :: _ => isHex high && isHex low
  | _ => false

/-- Whether two hexadecimal digits follow every percent sign. -/
def WellEscaped (text : List Char) : Prop :=
  ∀ before after, text = before ++ '%' :: after → hexPair after = true

theorem isSome_byteOf? (high low : Char) (rest : List Char) :
    (byteOf? high low).isSome = hexPair (high :: low :: rest) := by
  rw [hexPair, isHex, isHex]
  cases hhigh : hexValue? high <;> cases hlow : hexValue? low <;> simp [byteOf?, hhigh, hlow]

theorem hexPair_of_byteOf? {high low : Char} {byte : UInt8} (h : byteOf? high low = some byte)
    (rest : List Char) : hexPair (high :: low :: rest) = true := by
  rw [← isSome_byteOf?, h]
  rfl

theorem hexPair_of_short {text : List Char} (h : ∀ high low rest, text ≠ high :: low :: rest) :
    hexPair text = false := by
  unfold hexPair
  split
  · exact absurd rfl (h _ _ _)
  · rfl

theorem ne_percent_of_isHex {c : Char} (h : isHex c = true) : c ≠ '%' := by
  rintro rfl
  revert h
  decide

theorem wellEscaped_nil : WellEscaped [] := fun before after h => by simp at h

theorem wellEscaped_cons_iff {c : Char} {rest : List Char} :
    WellEscaped (c :: rest) ↔ (c = '%' → hexPair rest = true) ∧ WellEscaped rest := by
  constructor
  · intro h
    refine ⟨?_, fun before after hrest => ?_⟩
    · rintro rfl
      exact h [] rest rfl
    · exact h (c :: before) after (by rw [hrest, List.cons_append])
  · rintro ⟨hc, hrest⟩ before after htext
    rcases before with _ | ⟨d, before⟩
    · obtain ⟨rfl, rfl⟩ := List.cons.inj htext
      exact hc rfl
    · exact hrest before after (List.cons.inj htext).2

theorem wellEscaped_escape_iff {high low : Char} {rest : List Char}
    (h : hexPair (high :: low :: rest) = true) :
    WellEscaped ('%' :: high :: low :: rest) ↔ WellEscaped rest := by
  obtain ⟨hhigh, hlow⟩ := Bool.and_eq_true_iff.1 h
  simp [wellEscaped_cons_iff, h, ne_percent_of_isHex hhigh, ne_percent_of_isHex hlow]

/-- A text has pieces exactly when two hexadecimal digits follow every percent sign. -/
theorem exists_pieces_iff {text : List Char} :
    (∃ ps, pieces text = .ok ps) ↔ WellEscaped text := by
  fun_induction pieces text with
  | case1 => exact ⟨fun _ => wellEscaped_nil, fun _ => ⟨[], rfl⟩⟩
  | case2 high low after byte hbyte ih =>
    rw [wellEscaped_escape_iff (hexPair_of_byteOf? hbyte after), ← ih]
    cases pieces after <;> simp [Except.map]
  | case3 high low after hbyte =>
    have hpair : hexPair (high :: low :: after) = false := by rw [← isSome_byteOf?, hbyte]; rfl
    simp [wellEscaped_cons_iff, hpair]
  | case4 rest hshort =>
    simp [wellEscaped_cons_iff, hexPair_of_short hshort]
  | case5 c rest hc ih =>
    have hne : c ≠ '%' := hc
    simp only [wellEscaped_cons_iff, hne, false_implies, true_and, ← ih]
    cases pieces rest <;> simp [Except.map]

/-! ## Bytes -/

/-- The bytes that a text stands for: a space for a plus sign, its byte for an escape, and its UTF-8
bytes for every other character. -/
def formBytes : List Char → List UInt8
  | [] => []
  | '%' :: high :: low :: rest =>
    match byteOf? high low with
    | some byte => byte :: formBytes rest
    | none => utf8 ['%'] ++ formBytes (high :: low :: rest)
  | c :: rest => utf8 [if c = '+' then ' ' else c] ++ formBytes rest

theorem formBytes_escape {high low : Char} {byte : UInt8} (h : byteOf? high low = some byte)
    (rest : List Char) : formBytes ('%' :: high :: low :: rest) = byte :: formBytes rest := by
  rw [formBytes, h]

theorem formBytes_cons {c : Char} (h : c ≠ '%') (rest : List Char) :
    formBytes (c :: rest) = utf8 [if c = '+' then ' ' else c] ++ formBytes rest := by
  rw [formBytes]
  exact fun _ _ _ hc => absurd hc h

theorem formBytes_of_pieces {text : List Char} {ps : List Piece} (h : pieces text = .ok ps) :
    formBytes text = ps.flatMap Piece.bytes := by
  obtain ⟨rfl, hlawful⟩ := pieces_eq_ok_iff.1 h
  clear h
  induction ps with
  | nil => rfl
  | cons p ps ih =>
    rw [List.forall_mem_cons] at hlawful
    rw [List.flatMap_cons, List.flatMap_cons, ← ih hlawful.2]
    cases p with
    | escape high low byte => exact formBytes_escape hlawful.1 _
    | literal c => exact formBytes_cons hlawful.1 _

theorem decode?_of_pieces {text : List Char} {ps : List Piece} (h : pieces text = .ok ps) :
    decode? ps = ofUtf8? (formBytes text) := by
  rw [decode?, formBytes_of_pieces h]

/-- A text is read if two hexadecimal digits follow every percent sign and its bytes are UTF-8, and then
what is read is the text of these bytes. -/
theorem unescape_iff_formBytes {text decoded : List Char} :
    unescape text = .ok decoded ↔ WellEscaped text ∧ ofUtf8? (formBytes text) = some decoded := by
  rw [unescape_eq_ok_iff_decode?, ← exists_pieces_iff]
  constructor
  · rintro ⟨ps, hps, hdecode⟩
    exact ⟨⟨ps, hps⟩, decode?_of_pieces hps ▸ hdecode⟩
  · rintro ⟨⟨ps, hps⟩, hdecode⟩
    exact ⟨ps, hps, decode?_of_pieces hps ▸ hdecode⟩

end DataSource.FormEscape
