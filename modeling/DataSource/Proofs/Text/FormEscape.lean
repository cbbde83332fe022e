import DataSource.Proofs.Text.FormRuns

/-!
# What escaping writes and what unescaping reads

A text that was escaped is read back as it was (`unescape_escape`). Escaping writes plain characters,
plus signs and escapes only (`escaped_escape`), so that no separator of a name is among them. A plain
text is left as it is (`escape_of_isPlain`); any other one still is not plain when it is escaped, and
grows unless only spaces are changed (`exists_mem_escape_not_isPlain`, `length_lt_length_escape`).

A text that `unescape` accepts stands for the bytes of its pieces (`unescape_eq_ok_iff_decode?`). An
escape is three bytes that stand for one, so the only texts that unescaping leaves as they are have no
percent sign, and no plus sign either (`unescape_eq_self_iff`).
-/

namespace DataSource.FormEscape

open Text

/-! ## The characters of an escaped text -/

theorem ne_of_isPlain {c : Char} (h : isPlain c = true) : c ≠ '%' ∧ c ≠ '+' ∧ c ≠ ' ' := by
  refine ⟨?_, ?_, ?_⟩ <;> rintro rfl <;> revert h <;> decide

theorem isPlain_hexDigit : ∀ n < 16, isPlain (hexDigit n) = true := by decide

theorem mem_escapeByte {c : Char} {b : UInt8} (h : c ∈ escapeByte b) :
    isPlain c = true ∨ c = '%' := by
  have hb : b.toNat < 256 := b.toNat_lt
  simp only [escapeByte, List.mem_cons, List.not_mem_nil, or_false] at h
  rcases h with rfl | rfl | rfl
  · exact Or.inr rfl
  · exact Or.inl (isPlain_hexDigit _ (by omega))
  · exact Or.inl (isPlain_hexDigit _ (by omega))

theorem mem_escape {c : Char} {text : List Char} (h : c ∈ escape text) :
    isPlain c = true ∨ c = '%' ∨ c = '+' := by
  obtain ⟨d, -, hc⟩ := List.mem_flatMap.1 h
  unfold escapeChar at hc
  split at hc
  · rename_i hd
    rw [List.mem_singleton] at hc
    exact Or.inl (hc ▸ hd)
  · split at hc
    · exact Or.inr (Or.inr (List.mem_singleton.1 hc))
    · obtain ⟨b, -, hb⟩ := List.mem_flatMap.1 hc
      rcases mem_escapeByte hb with hplain | hpercent
      · exact Or.inl hplain
      · exact Or.inr (Or.inl hpercent)

theorem not_mem_escape {c : Char} (text : List Char) (hc : c ∈ ['/', '@', ':', '?', '&', '=']) :
    c ∉ escape text := by
  intro h
  have hnone : (['/', '@', ':', '?', '&', '='].all fun d =>
      !isPlain d && d != '%' && d != '+') = true := by decide
  have hother := List.all_eq_true.1 hnone c hc
  simp only [Bool.and_eq_true, Bool.not_eq_true', bne_iff_ne] at hother
  obtain ⟨⟨hplain, hpercent⟩, hplus⟩ := hother
  rcases mem_escape h with hmem | hmem | hmem
  · rw [hmem] at hplain
    cases hplain
  · exact hpercent hmem
  · exact hplus hmem

/-! ## The shape of an escaped text -/

def isHex (c : Char) : Bool := (hexValue? c).isSome

/-- A text of plain characters, plus signs, and percent signs with two hexadecimal digits behind them. -/
inductive Escaped : List Char → Prop
  | nil : Escaped []
  | plain {c : Char} {rest : List Char} (hc : isPlain c = true) (hrest : Escaped rest) :
      Escaped (c :: rest)
  | plus {rest : List Char} (hrest : Escaped rest) : Escaped ('+' :: rest)
  | escape {high low : Char} {rest : List Char} (hhigh : isHex high = true) (hlow : isHex low = true)
      (hrest : Escaped rest) : Escaped ('%' :: high :: low :: rest)

theorem Escaped.append {a b : List Char} (ha : Escaped a) (hb : Escaped b) : Escaped (a ++ b) := by
  induction ha with
  | nil => exact hb
  | plain hc _ ih => exact .plain hc ih
  | plus _ ih => exact .plus ih
  | escape hhigh hlow _ ih => exact .escape hhigh hlow ih

theorem Escaped.flatMap {α : Type} {f : α → List Char} (h : ∀ x, Escaped (f x)) (l : List α) :
    Escaped (l.flatMap f) := by
  induction l with
  | nil => exact .nil
  | cons x l ih => exact (h x).append ih

theorem isHex_hexDigit {n : Nat} (h : n < 16) : isHex (hexDigit n) = true := by
  rw [isHex, hexValue?_hexDigit n h]
  rfl

theorem escaped_escapeByte (b : UInt8) : Escaped (escapeByte b) := by
  have hb : b.toNat < 256 := b.toNat_lt
  exact .escape (isHex_hexDigit (by omega)) (isHex_hexDigit (by omega)) .nil

theorem escaped_escapeChar (c : Char) : Escaped (escapeChar c) := by
  unfold escapeChar
  split
  · rename_i hplain
    exact .plain hplain .nil
  · split
    · exact .plus .nil
    · exact Escaped.flatMap escaped_escapeByte _

theorem escaped_escape (text : List Char) : Escaped (escape text) :=
  Escaped.flatMap escaped_escapeChar text

/-! ## Pieces -/

/-- Whether a piece can be read off a text: an escape has the byte of its digits, and a percent sign
is no character of its own. -/
def Piece.Lawful : Piece → Prop
  | escape high low byte => byteOf? high low = some byte
  | literal c => c ≠ '%'

theorem pieces_cons {c : Char} (h : c ≠ '%') (rest : List Char) :
    pieces (c :: rest) = (pieces rest).map (.literal c :: ·) := by
  rw [pieces]
  exact h

theorem text_lawful_of_pieces {text : List Char} {ps : List Piece} (h : pieces text = .ok ps) :
    ps.flatMap Piece.text = text ∧ ∀ p ∈ ps, p.Lawful := by
  fun_induction pieces text generalizing ps with
  | case1 => cases h; exact ⟨rfl, nofun⟩
  | case2 high low after byte hbyte ih =>
    cases hafter : pieces after with
    | error part => rw [hafter] at h; cases h
    | ok qs =>
      rw [hafter] at h
      cases h
      obtain ⟨htext, hlawful⟩ := ih hafter
      exact ⟨by rw [List.flatMap_cons, htext]; rfl, List.forall_mem_cons.2 ⟨hbyte, hlawful⟩⟩
  | case3 => cases h
  | case4 => cases h
  | case5 c rest hc ih =>
    cases hrest : pieces rest with
    | error part => rw [hrest] at h; cases h
    | ok qs =>
      rw [hrest] at h
      cases h
      obtain ⟨htext, hlawful⟩ := ih hrest
      exact ⟨by rw [List.flatMap_cons, htext]; rfl, List.forall_mem_cons.2 ⟨hc, hlawful⟩⟩

theorem pieces_flatMap_text {ps : List Piece} (h : ∀ p ∈ ps, p.Lawful) :
    pieces (ps.flatMap Piece.text) = .ok ps := by
  induction ps with
  | nil => rfl
  | cons p ps ih =>
    rw [List.forall_mem_cons] at h
    rw [List.flatMap_cons]
    cases p with
    | escape high low byte =>
      show pieces ('%' :: high :: low :: ps.flatMap Piece.text) = _
      rw [pieces]
      simp only [show byteOf? high low = some byte from h.1, ih h.2]
      rfl
    | literal c =>
      show pieces (c :: ps.flatMap Piece.text) = _
      rw [pieces_cons h.1, ih h.2]
      rfl

/-- The pieces of a text are the lawful pieces that spell it. -/
theorem pieces_eq_ok_iff {text : List Char} {ps : List Piece} :
    pieces text = .ok ps ↔ ps.flatMap Piece.text = text ∧ ∀ p ∈ ps, p.Lawful :=
  ⟨text_lawful_of_pieces, fun h => h.1 ▸ pieces_flatMap_text h.2⟩

theorem unescape_of_pieces {text : List Char} {ps : List Piece} (h : pieces text = .ok ps) :
    unescape text = match decode? ps with
      | some decoded => .ok decoded
      | none => .error (((undecodable? ps).map (·.flatMap Piece.text)).getD text) := by
  rw [unescape, h, ← decodeRuns?_eq_decode?]
  rfl

theorem unescape_eq_ok_iff_decode? {text decoded : List Char} :
    unescape text = .ok decoded ↔ ∃ ps, pieces text = .ok ps ∧ decode? ps = some decoded := by
  cases hps : pieces text with
  | error part =>
    have hread : unescape text = .error part := by rw [unescape, hps]; rfl
    simp [hread]
  | ok ps =>
    rw [unescape_of_pieces hps]
    cases hdecode : decode? ps <;> simp [hdecode]

/-! ## Reading what was written -/

/-- The pieces that one character is written in. -/
def charPieces (c : Char) : List Piece :=
  if isPlain c then [.literal c]
  else if c = ' ' then [.literal '+']
  else (utf8 [c]).map fun b => .escape (hexDigit (b.toNat / 16)) (hexDigit (b.toNat % 16)) b

theorem text_charPieces (c : Char) : (charPieces c).flatMap Piece.text = escapeChar c := by
  unfold charPieces escapeChar
  split
  · rfl
  · split
    · rfl
    · rw [List.flatMap_map]
      rfl

theorem bytes_charPieces (c : Char) : (charPieces c).flatMap Piece.bytes = utf8 [c] := by
  unfold charPieces
  split
  · rename_i hplain
    simp [Piece.bytes, (ne_of_isPlain hplain).2.1]
  · split
    · rename_i hspace
      subst hspace
      rfl
    · rw [List.flatMap_map]
      simp [Piece.bytes]

theorem lawful_of_mem_charPieces {c : Char} {p : Piece} (h : p ∈ charPieces c) : p.Lawful := by
  unfold charPieces at h
  split at h
  · rename_i hplain
    cases List.mem_singleton.1 h
    exact (ne_of_isPlain hplain).1
  · split at h
    · cases List.mem_singleton.1 h
      exact show '+' ≠ '%' by decide
    · obtain ⟨b, -, rfl⟩ := List.mem_map.1 h
      exact byteOf?_hexDigit b

theorem unescape_escape (text : List Char) : unescape (escape text) = .ok text := by
  have hlawful : ∀ p ∈ text.flatMap charPieces, p.Lawful := by
    intro p hp
    obtain ⟨c, -, hc⟩ := List.mem_flatMap.1 hp
    exact lawful_of_mem_charPieces hc
  have htext : (text.flatMap charPieces).flatMap Piece.text = escape text := by
    rw [List.flatMap_assoc]
    exact congrArg (text.flatMap ·) (funext text_charPieces)
  have hbytes : (text.flatMap charPieces).flatMap Piece.bytes = utf8 text := by
    rw [List.flatMap_assoc, funext bytes_charPieces]
    simp [utf8]
  exact unescape_eq_ok_iff_decode?.2
    ⟨_, pieces_eq_ok_iff.2 ⟨htext, hlawful⟩, ofUtf8?_eq_some_iff.2 hbytes⟩

theorem escape_injective {a b : List Char} (h : escape a = escape b) : a = b := by
  have ha := unescape_escape a
  rw [h, unescape_escape] at ha
  exact (Except.ok.inj ha).symm

/-- Escaping loses nothing, and writes none of the characters that separate the parts of a name. -/
theorem escape_faithful :
    (∀ text, unescape (escape text) = .ok text ∧ Escaped (escape text) ∧
        ∀ c ∈ ['/', '@', ':', '?', '&', '='], c ∉ escape text) ∧
      Function.Injective escape := by
  constructor
  · intro text
    exact ⟨unescape_escape text, escaped_escape text, fun c hc => not_mem_escape text hc⟩
  · intro a b h
    exact escape_injective h

/-! ## Plain texts -/

/-- Only a plain character and a space take no more room when they are escaped. -/
theorem length_escapeChar (c : Char) :
    1 ≤ (escapeChar c).length ∧ (isPlain c = false → c ≠ ' ' → 3 ≤ (escapeChar c).length) := by
  unfold escapeChar
  split
  · rename_i hplain
    exact ⟨by simp, fun h => by rw [hplain] at h; cases h⟩
  · split
    · rename_i hspace
      exact ⟨by simp, fun _ h => absurd hspace h⟩
    · have hlength : ((utf8 [c]).flatMap escapeByte).length = (utf8 [c]).length * 3 := by
        simp [List.length_flatMap, escapeByte]
      have hpos := length_utf8_pos c
      exact ⟨by omega, fun _ _ => by omega⟩

theorem length_le_length_escape (text : List Char) : text.length ≤ (escape text).length := by
  induction text with
  | nil => simp
  | cons c rest ih =>
    have hc := (length_escapeChar c).1
    rw [escape, List.flatMap_cons, List.length_append, List.length_cons]
    rw [escape] at ih
    omega

theorem length_lt_length_escape {c : Char} {text : List Char} (hmem : c ∈ text)
    (hplain : isPlain c = false) (hspace : c ≠ ' ') : text.length < (escape text).length := by
  obtain ⟨before, after, rfl⟩ := List.append_of_mem hmem
  have hc := (length_escapeChar c).2 hplain hspace
  have hbefore := length_le_length_escape before
  have hafter := length_le_length_escape after
  rw [escape, List.flatMap_append, List.flatMap_cons]
  rw [escape] at hbefore hafter
  simp only [List.length_append, List.length_cons]
  omega

theorem exists_mem_escape_not_isPlain {text : List Char} (h : ∃ c ∈ text, isPlain c = false) :
    ∃ c ∈ escape text, isPlain c = false ∧ c ≠ ' ' := by
  obtain ⟨c, hc, hplain⟩ := h
  by_cases hspace : c = ' '
  · exact ⟨'+', List.mem_flatMap.2 ⟨c, hc, by subst hspace; decide⟩, by decide, by decide⟩
  · refine ⟨'%', List.mem_flatMap.2 ⟨c, hc, ?_⟩, by decide, by decide⟩
    obtain ⟨b, hb⟩ := List.exists_mem_of_length_pos (length_utf8_pos c)
    rw [escapeChar, hplain, if_neg (by decide), if_neg hspace]
    exact List.mem_flatMap.2 ⟨b, hb, by simp [escapeByte]⟩

theorem escape_of_isPlain {text : List Char} (h : ∀ c ∈ text, isPlain c = true) :
    escape text = text := by
  induction text with
  | nil => rfl
  | cons c rest ih =>
    rw [List.forall_mem_cons] at h
    rw [escape, List.flatMap_cons, escapeChar, if_pos h.1]
    exact congrArg (c :: ·) (ih h.2)

/-! ## Texts that unescaping leaves as they are -/

theorem decode?_of_literal {run : List Piece} (h : ∀ p ∈ run, ∃ c, p = .literal c ∧ c ≠ '+') :
    decode? run = some (run.flatMap Piece.text) := by
  refine ofUtf8?_eq_some_iff.2 ?_
  induction run with
  | nil => rfl
  | cons p run ih =>
    rw [List.forall_mem_cons] at h
    obtain ⟨⟨c, rfl, hc⟩, hrest⟩ := h
    rw [List.flatMap_cons, List.flatMap_cons, utf8_append, ih hrest]
    simp [Piece.bytes, Piece.text, hc]

theorem length_bytes_le (p : Piece) :
    p.bytes.length ≤ (utf8 p.text).length ∧
      (p.isEscape = true → p.bytes.length < (utf8 p.text).length) := by
  cases p with
  | escape high low byte =>
    have hpercent := length_utf8_pos '%'
    have hhigh := length_utf8_pos high
    have hlow := length_utf8_pos low
    have htext : utf8 ['%', high, low] = utf8 ['%'] ++ utf8 [high] ++ utf8 [low] := by simp [utf8]
    simp only [Piece.bytes, Piece.text, htext, List.length_append, List.length_singleton]
    omega
  | literal c =>
    refine ⟨?_, fun hescape => absurd hescape Bool.false_ne_true⟩
    simp only [Piece.bytes, Piece.text]
    split
    · rename_i hc
      subst hc
      decide
    · exact Nat.le_refl _

theorem length_flatMap_bytes_le (ps : List Piece) :
    (ps.flatMap Piece.bytes).length ≤ (utf8 (ps.flatMap Piece.text)).length := by
  induction ps with
  | nil => simp
  | cons p ps ih =>
    have hp := (length_bytes_le p).1
    rw [List.flatMap_cons, List.flatMap_cons, utf8_append, List.length_append, List.length_append]
    omega

/-- Pieces that stand for the bytes of their own text are literal, and no plus signs. -/
theorem literal_of_bytes_eq {ps : List Piece}
    (h : ps.flatMap Piece.bytes = utf8 (ps.flatMap Piece.text)) :
    ∀ p ∈ ps, ∃ c, p = .literal c ∧ c ≠ '+' := by
  induction ps with
  | nil => nofun
  | cons p ps ih =>
    rw [List.flatMap_cons, List.flatMap_cons, utf8_append] at h
    have hlength := congrArg List.length h
    have hle := length_flatMap_bytes_le ps
    have hp := length_bytes_le p
    rw [List.length_append, List.length_append] at hlength
    have hnot : ¬ p.isEscape = true := fun hescape => by
      have := hp.2 hescape
      omega
    obtain ⟨hbytes, hrest⟩ := List.append_inj h (by omega)
    refine List.forall_mem_cons.2 ⟨?_, ih hrest⟩
    cases p with
    | escape high low byte => exact absurd rfl hnot
    | literal c =>
      refine ⟨c, rfl, ?_⟩
      rintro rfl
      revert hbytes
      decide

/-- Unescaping leaves the texts without percent and plus signs as they are, and no others. -/
theorem unescape_eq_self_iff {text : List Char} :
    unescape text = .ok text ↔ '%' ∉ text ∧ '+' ∉ text := by
  constructor
  · intro h
    obtain ⟨ps, hps, hdecode⟩ := unescape_eq_ok_iff_decode?.1 h
    obtain ⟨rfl, hlawful⟩ := pieces_eq_ok_iff.1 hps
    have hliteral := literal_of_bytes_eq (ofUtf8?_eq_some_iff.1 hdecode)
    have hmem : ∀ c ∈ ps.flatMap Piece.text, c ≠ '%' ∧ c ≠ '+' := by
      intro c hc
      obtain ⟨p, hp, hcp⟩ := List.mem_flatMap.1 hc
      obtain ⟨d, rfl, hd⟩ := hliteral p hp
      cases List.mem_singleton.1 hcp
      exact ⟨hlawful _ hp, hd⟩
    exact ⟨fun hc => (hmem _ hc).1 rfl, fun hc => (hmem _ hc).2 rfl⟩
  · rintro ⟨hpercent, hplus⟩
    have htext : (text.map Piece.literal).flatMap Piece.text = text := by
      rw [List.flatMap_map]
      exact List.flatMap_singleton' text
    have hps : pieces text = .ok (text.map .literal) := by
      refine pieces_eq_ok_iff.2 ⟨htext, fun p hp => ?_⟩
      obtain ⟨c, hc, rfl⟩ := List.mem_map.1 hp
      exact ne_of_mem_of_not_mem hc hpercent
    have hdecode : decode? (text.map .literal) = some text := by
      rw [decode?_of_literal, htext]
      intro p hp
      obtain ⟨c, hc, rfl⟩ := List.mem_map.1 hp
      exact ⟨c, rfl, ne_of_mem_of_not_mem hc hplus⟩
    exact unescape_eq_ok_iff_decode?.2 ⟨_, hps, hdecode⟩

end DataSource.FormEscape
