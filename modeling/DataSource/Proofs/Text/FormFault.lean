import DataSource.Proofs.Text.FormBytes

/-!
# What is at fault in a spelling

`unescape` answers a spelling that it refuses with a part of it (`unescape_eq_error_iff_fault`): the first
percent sign that two hexadecimal digits do not follow (`Malformed`), or where there is none the first run
of escapes whose bytes are not UTF-8 (`Undecodable`). The runs that the bytes are decoded in are not the
runs that the fault is looked for in; but a fault in the ones is a fault in the others, so that there is
always a part to answer with.
-/

namespace DataSource.FormEscape

open Text

/-! ## Faults -/

/-- The first percent sign that two hexadecimal digits do not follow, with up to two characters behind
it. -/
def Malformed (text part : List Char) : Prop :=
  ∃ before after, text = before ++ '%' :: after ∧ hexPair after = false ∧ part = ('%' :: after).take 3 ∧
    ∀ b a, text = b ++ '%' :: a → b.length < before.length → hexPair a = true

/-- A text of escapes only. -/
inductive Escapes : List Char → Prop
  | nil : Escapes []
  | cons {high low : Char} {rest : List Char} (hhigh : isHex high = true) (hlow : isHex low = true)
      (hrest : Escapes rest) : Escapes ('%' :: high :: low :: rest)

def BeginsWithEscape (text : List Char) : Prop :=
  ∃ high low rest, text = '%' :: high :: low :: rest ∧ isHex high = true ∧ isHex low = true

def EndsInEscape (text : List Char) : Prop :=
  ∃ front high low, text = front ++ ['%', high, low] ∧ isHex high = true ∧ isHex low = true

/-- A run of escapes with no escape in front of it and none behind it. -/
structure MaximalRun (before run after : List Char) : Prop where
  ne_nil : run ≠ []
  escapes : Escapes run
  alone_before : ¬EndsInEscape before
  alone_after : ¬BeginsWithEscape after

/-- The first maximal run of escapes whose bytes are not UTF-8. -/
def Undecodable (text part : List Char) : Prop :=
  ∃ before after, text = before ++ part ++ after ∧ MaximalRun before part after ∧
    ofUtf8? (formBytes part) = none ∧
    ∀ b r a, text = b ++ r ++ a → MaximalRun b r a → b.length < before.length →
      (ofUtf8? (formBytes r)).isSome

/-! ## The first percent sign at fault -/

theorem malformed_here {rest part : List Char} (h : hexPair rest = false) :
    Malformed ('%' :: rest) part ↔ part = ('%' :: rest).take 3 := by
  constructor
  · rintro ⟨before, after, htext, -, rfl, hfirst⟩
    rcases before with _ | ⟨c, before⟩
    · rw [← (List.cons.inj htext).2]
    · have hpair := hfirst [] rest rfl (Nat.zero_lt_succ _)
      rw [h] at hpair
      cases hpair
  · rintro rfl
    exact ⟨[], rest, rfl, h, rfl, fun b a _ hlt => absurd hlt (Nat.not_lt_zero _)⟩

theorem malformed_later {c : Char} {rest part : List Char} (h : c = '%' → hexPair rest = true) :
    Malformed (c :: rest) part ↔ Malformed rest part := by
  constructor
  · rintro ⟨before, after, htext, hbad, hpart, hfirst⟩
    rcases before with _ | ⟨d, before⟩
    · obtain ⟨rfl, rfl⟩ := List.cons.inj htext
      rw [h rfl] at hbad
      cases hbad
    · refine ⟨before, after, (List.cons.inj htext).2, hbad, hpart, fun b a hrest hlt => ?_⟩
      exact hfirst (c :: b) a (by rw [hrest, List.cons_append]) (Nat.succ_lt_succ hlt)
  · rintro ⟨before, after, rfl, hbad, hpart, hfirst⟩
    refine ⟨c :: before, after, rfl, hbad, hpart, fun b a htext hlt => ?_⟩
    rcases b with _ | ⟨d, b⟩
    · obtain ⟨rfl, rfl⟩ := List.cons.inj htext
      exact h rfl
    · exact hfirst b a (List.cons.inj htext).2 (Nat.lt_of_succ_lt_succ hlt)

theorem not_malformed_nil (part : List Char) : ¬Malformed [] part := by
  rintro ⟨before, after, htext, -⟩
  simp at htext

theorem map_eq_error_iff {ε α β : Type} {f : α → β} {x : Except ε α} {e : ε} :
    x.map f = .error e ↔ x = .error e := by
  cases x <;> simp [Except.map]

theorem pieces_eq_error_iff {text part : List Char} :
    pieces text = .error part ↔ Malformed text part := by
  fun_induction pieces text with
  | case1 =>
    constructor
    · rintro ⟨⟩
    · exact fun h => absurd h (not_malformed_nil part)
  | case2 high low after byte hbyte ih =>
    have hpair := hexPair_of_byteOf? hbyte after
    obtain ⟨hhigh, hlow⟩ := Bool.and_eq_true_iff.1 hpair
    rw [map_eq_error_iff, ih, malformed_later fun _ => hpair,
      malformed_later fun h => absurd h (ne_percent_of_isHex hhigh),
      malformed_later fun h => absurd h (ne_percent_of_isHex hlow)]
  | case3 high low after hbyte =>
    have hpair : hexPair (high :: low :: after) = false := by rw [← isSome_byteOf?, hbyte]; rfl
    rw [malformed_here hpair, Except.error.injEq, eq_comm]
    rfl
  | case4 rest hshort =>
    rw [malformed_here (hexPair_of_short hshort), Except.error.injEq, eq_comm]
    rcases rest with _ | ⟨a, _ | ⟨b, rest⟩⟩
    · rfl
    · rfl
    · exact absurd rfl (hshort _ _ _)
  | case5 c rest hc ih =>
    have hne : c ≠ '%' := hc
    rw [map_eq_error_iff, ih, malformed_later fun h => absurd h hne]

/-! ## The ends of a text and of its pieces -/

/-- Texts beside a percent sign stand by themselves: an escape does not reach across it. -/
theorem WellEscaped.front {front rest : List Char} (h : WellEscaped (front ++ '%' :: rest)) :
    WellEscaped front := by
  rintro before after rfl
  have hpair := h before (after ++ '%' :: rest) (by simp)
  rcases after with _ | ⟨a, _ | ⟨b, after⟩⟩
  · cases rest <;> cases hpair
  · rw [List.singleton_append, hexPair, Bool.and_eq_true] at hpair
    exact absurd rfl (ne_percent_of_isHex hpair.2)
  · exact hpair

theorem WellEscaped.back {front back : List Char} (h : WellEscaped (front ++ back)) :
    WellEscaped back := by
  rintro before after rfl
  exact h (front ++ before) after (by simp)

theorem pieces_append {a b : List Char} {ps qs : List Piece} (ha : pieces a = .ok ps)
    (hb : pieces b = .ok qs) : pieces (a ++ b) = .ok (ps ++ qs) := by
  rw [pieces_eq_ok_iff] at ha hb ⊢
  rw [List.flatMap_append, ha.1, hb.1]
  exact ⟨rfl, List.forall_mem_append.2 ⟨ha.2, hb.2⟩⟩

theorem pieces_escape {high low : Char} (hhigh : isHex high = true) (hlow : isHex low = true) :
    ∃ byte, pieces ['%', high, low] = .ok [.escape high low byte] := by
  have hsome : (byteOf? high low).isSome = true := by
    rw [isSome_byteOf? high low [], hexPair, hhigh, hlow]
    rfl
  obtain ⟨byte, hbyte⟩ := Option.isSome_iff_exists.1 hsome
  exact ⟨byte, pieces_eq_ok_iff.2 ⟨rfl, by simpa [Piece.Lawful] using hbyte⟩⟩

theorem isHex_of_lawful {high low : Char} {byte : UInt8} (h : (Piece.escape high low byte).Lawful) :
    isHex high = true ∧ isHex low = true :=
  Bool.and_eq_true_iff.1 (hexPair_of_byteOf? h [])

section

variable {text : List Char} {ps : List Piece} (hps : pieces text = .ok ps)

include hps

theorem beginsWithEscape_iff : BeginsWithEscape text ↔ ∃ p ∈ ps.head?, p.isEscape = true := by
  obtain ⟨rfl, hlawful⟩ := pieces_eq_ok_iff.1 hps
  rcases ps with _ | ⟨p, ps⟩
  · simp [BeginsWithEscape]
  · have hp := hlawful p List.mem_cons_self
    cases p with
    | escape high low byte =>
      obtain ⟨hhigh, hlow⟩ := isHex_of_lawful hp
      exact ⟨fun _ => ⟨_, rfl, rfl⟩, fun _ => ⟨high, low, ps.flatMap Piece.text, rfl, hhigh, hlow⟩⟩
    | literal c =>
      refine ⟨fun ⟨high, low, rest, htext, _⟩ => ?_, fun ⟨q, hq, hescape⟩ => ?_⟩
      · exact absurd (List.cons.inj htext).1 hp
      · cases hq
        cases hescape

theorem endsInEscape_iff : EndsInEscape text ↔ ∃ p ∈ ps.getLast?, p.isEscape = true := by
  constructor
  · rintro ⟨front, high, low, rfl, hhigh, hlow⟩
    have hwell := exists_pieces_iff.1 ⟨ps, hps⟩
    obtain ⟨qs, hqs⟩ := exists_pieces_iff.2 hwell.front
    obtain ⟨byte, hbyte⟩ := pieces_escape hhigh hlow
    have hboth := pieces_append hqs hbyte
    rw [hps, Except.ok.injEq] at hboth
    exact ⟨.escape high low byte, by simp [hboth], rfl⟩
  · rintro ⟨p, hp, hescape⟩
    obtain ⟨qs, rfl⟩ := List.getLast?_eq_some_iff.1 hp
    obtain ⟨rfl, hlawful⟩ := pieces_eq_ok_iff.1 hps
    cases p with
    | literal => cases hescape
    | escape high low byte =>
      obtain ⟨hhigh, hlow⟩ := isHex_of_lawful (hlawful (.escape high low byte) (by simp))
      exact ⟨qs.flatMap Piece.text, high, low, by simp [Piece.text], hhigh, hlow⟩

theorem escapes_iff : Escapes text ↔ ∀ p ∈ ps, p.isEscape = true := by
  constructor
  · intro h
    induction h generalizing ps with
    | nil => cases hps; exact nofun
    | @cons high low rest hhigh hlow hrest ih =>
      have hwell : WellEscaped (['%', high, low] ++ rest) := exists_pieces_iff.1 ⟨ps, hps⟩
      obtain ⟨qs, hqs⟩ := exists_pieces_iff.2 hwell.back
      obtain ⟨byte, hbyte⟩ := pieces_escape hhigh hlow
      have hboth := pieces_append hbyte hqs
      rw [List.cons_append, List.cons_append, List.singleton_append, hps, Except.ok.injEq] at hboth
      rw [hboth]
      exact List.forall_mem_cons.2 ⟨rfl, ih hqs⟩
  · intro h
    obtain ⟨rfl, hlawful⟩ := pieces_eq_ok_iff.1 hps
    clear hps
    induction ps with
    | nil => exact .nil
    | cons p ps ih =>
      rw [List.forall_mem_cons] at h hlawful
      cases p with
      | literal => cases h.1
      | escape high low byte =>
        obtain ⟨hhigh, hlow⟩ := isHex_of_lawful hlawful.1
        exact .cons hhigh hlow (ih h.2 hlawful.2)

end

/-! ## Maximal runs -/

theorem Escapes.exists_pieces {run : List Char} (h : Escapes run) : ∃ ps, pieces run = .ok ps := by
  induction h with
  | nil => exact ⟨[], rfl⟩
  | cons hhigh hlow _ ih =>
    obtain ⟨byte, hbyte⟩ := pieces_escape hhigh hlow
    obtain ⟨ps, hps⟩ := ih
    exact ⟨_, pieces_append hbyte hps⟩

theorem pieces_of_subset {text : List Char} {ps qs : List Piece} (hps : pieces text = .ok ps)
    (h : ∀ p ∈ qs, p ∈ ps) : pieces (qs.flatMap Piece.text) = .ok qs :=
  pieces_eq_ok_iff.2 ⟨rfl, fun p hp => (pieces_eq_ok_iff.1 hps).2 p (h p hp)⟩

/-- The maximal runs of escapes in a text are the runs of escapes among its pieces. -/
theorem maximalRun_iff {text before run after : List Char} {ps : List Piece}
    (hps : pieces text = .ok ps) :
    text = before ++ run ++ after ∧ MaximalRun before run after ↔
      ∃ front escapes back, ps.splitBy sameKind = front ++ escapes :: back ∧
        (∀ p ∈ escapes, p.isEscape = true) ∧ before = front.flatten.flatMap Piece.text ∧
        run = escapes.flatMap Piece.text ∧ after = back.flatten.flatMap Piece.text := by
  constructor
  · rintro ⟨rfl, hrun⟩
    have hwell := exists_pieces_iff.1 ⟨ps, hps⟩
    have hbefore : WellEscaped before := by
      cases hrun.escapes with
      | nil => exact absurd rfl hrun.ne_nil
      | cons => exact (List.append_assoc before _ after ▸ hwell).front
    obtain ⟨front, hfront⟩ := exists_pieces_iff.2 hbefore
    obtain ⟨escapes, hescapes⟩ := hrun.escapes.exists_pieces
    obtain ⟨back, hback⟩ := exists_pieces_iff.2 hwell.back
    have hboth := pieces_append hfront (pieces_append hescapes hback)
    rw [← List.append_assoc, hps, Except.ok.injEq] at hboth
    have hne : escapes ≠ [] := by
      rintro rfl
      exact hrun.ne_nil (pieces_eq_ok_iff.1 hescapes).1.symm
    have hall := (escapes_iff hescapes).1 hrun.escapes
    have hends : ∀ p ∈ front.getLast?, p.isEscape = false := fun p hp =>
      Bool.eq_false_iff.2 fun hp' => hrun.alone_before ((endsInEscape_iff hfront).2 ⟨p, hp, hp'⟩)
    have hbegins : ∀ p ∈ back.head?, p.isEscape = false := fun p hp =>
      Bool.eq_false_iff.2 fun hp' => hrun.alone_after ((beginsWithEscape_iff hback).2 ⟨p, hp, hp'⟩)
    refine ⟨_, escapes, _, hboth ▸ splitBy_around hne hall hends hbegins, hall, ?_, ?_, ?_⟩
    · rw [List.flatten_splitBy, (pieces_eq_ok_iff.1 hfront).1]
    · exact (pieces_eq_ok_iff.1 hescapes).1.symm
    · rw [List.flatten_splitBy, (pieces_eq_ok_iff.1 hback).1]
  · rintro ⟨front, escapes, back, hsplit, hall, rfl, rfl, rfl⟩
    obtain ⟨hne, rfl, hends, hbegins⟩ := around_of_splitBy hsplit hall
    have hfront : pieces (front.flatten.flatMap Piece.text) = .ok front.flatten :=
      pieces_of_subset hps (by simp +contextual)
    have hescapes : pieces (escapes.flatMap Piece.text) = .ok escapes :=
      pieces_of_subset hps (by simp +contextual)
    have hback : pieces (back.flatten.flatMap Piece.text) = .ok back.flatten :=
      pieces_of_subset hps (by simp +contextual)
    refine ⟨?_, ?_, (escapes_iff hescapes).2 hall, fun h => ?_, fun h => ?_⟩
    · rw [← (pieces_eq_ok_iff.1 hps).1]
      simp
    · intro hnil
      rw [hnil] at hescapes
      exact hne (Except.ok.inj hescapes).symm
    · obtain ⟨p, hp, hescape⟩ := (endsInEscape_iff hfront).1 h
      rw [hends p hp] at hescape
      cases hescape
    · obtain ⟨p, hp, hescape⟩ := (beginsWithEscape_iff hback).1 h
      rw [hbegins p hp] at hescape
      cases hescape

/-! ## The first run at fault -/

theorem decode?_of_mem_splitBy {text : List Char} {ps run : List Piece} (hps : pieces text = .ok ps)
    (hrun : run ∈ ps.splitBy sameKind) :
    decode? run = ofUtf8? (formBytes (run.flatMap Piece.text)) := by
  refine decode?_of_pieces (pieces_of_subset hps fun p hp => ?_)
  rw [← List.flatten_splitBy sameKind ps]
  exact List.mem_flatten_of_mem hrun hp

theorem length_append_flatten (front back : List (List Piece)) :
    ((front ++ back).flatten.flatMap Piece.text).length =
      (front.flatten.flatMap Piece.text).length + (back.flatten.flatMap Piece.text).length := by
  rw [List.flatten_append, List.flatMap_append, List.length_append]

/-- Where runs are taken apart in two ways, the run with less text in front of it stands in front of the
other. -/
theorem mem_front_of_length_lt {front front' back back' : List (List Piece)} {run run' : List Piece}
    (h : front ++ run :: back = front' ++ run' :: back')
    (hlt : (front'.flatten.flatMap Piece.text).length < (front.flatten.flatMap Piece.text).length) :
    run' ∈ front := by
  rcases List.append_eq_append_iff.1 h with ⟨more, rfl, -⟩ | ⟨more, rfl, hmore⟩
  · rw [length_append_flatten] at hlt
    omega
  · rcases more with _ | ⟨next, more⟩
    · rw [List.append_nil] at hlt
      exact absurd hlt (Nat.lt_irrefl _)
    · rw [(List.cons.inj hmore).1]
      simp

/-- The run that is found to be at fault is the first maximal run of escapes at fault. -/
theorem undecodable?_iff {text part : List Char} {ps : List Piece} (hps : pieces text = .ok ps) :
    (∃ run, undecodable? ps = some run ∧ run.flatMap Piece.text = part) ↔ Undecodable text part := by
  constructor
  · rintro ⟨run, hfind, rfl⟩
    obtain ⟨hfault, front, back, hsplit, hearlier⟩ := List.find?_eq_some_iff_append.1 hfind
    have hruns : ps.splitBy sameKind = front ++ run :: back := hsplit
    rw [Bool.and_eq_true, List.all_eq_true, Option.isNone_iff_eq_none] at hfault
    obtain ⟨htext, hmax⟩ := (maximalRun_iff hps).2 ⟨front, run, back, hruns, hfault.1, rfl, rfl, rfl⟩
    refine ⟨_, _, htext, hmax, ?_, fun b r a hbra hr hlt => ?_⟩
    · rw [← decode?_of_mem_splitBy hps (by simp [hruns]), hfault.2]
    · obtain ⟨front', run', back', hruns', -, rfl, rfl, rfl⟩ := (maximalRun_iff hps).1 ⟨hbra, hr⟩
      have hfront : run' ∈ front := mem_front_of_length_lt (hruns.symm.trans hruns') hlt
      have hmem : run' ∈ ps.splitBy sameKind := by simp [hruns']
      have hsound := hearlier run' hfront
      rw [Bool.not_eq_true'] at hsound
      rw [← decode?_of_mem_splitBy hps hmem]
      exact isSome_decode?_of_mem_splitBy hmem hsound
  · rintro ⟨before, after, htext, hmax, hfault, hfirst⟩
    obtain ⟨front, run, back, hruns, hall, rfl, rfl, rfl⟩ := (maximalRun_iff hps).1 ⟨htext, hmax⟩
    refine ⟨run, List.find?_eq_some_iff_append.2 ⟨?_, front, back, hruns, fun run' hrun' => ?_⟩, rfl⟩
    · rw [decode?_of_mem_splitBy hps (by simp [hruns]), hfault, List.all_eq_true.2 hall]
      rfl
    · rw [Bool.not_eq_true', Bool.eq_false_iff, ne_eq, Bool.and_eq_true, List.all_eq_true,
        Option.isNone_iff_eq_none]
      rintro ⟨hall', hfault'⟩
      obtain ⟨front', middle, rfl⟩ := List.append_of_mem hrun'
      have hruns' : ps.splitBy sameKind = front' ++ run' :: (middle ++ run :: back) := by
        rw [hruns, List.append_assoc, List.cons_append]
      obtain ⟨htext', hmax'⟩ :=
        (maximalRun_iff hps).2 ⟨front', run', _, hruns', hall', rfl, rfl, rfl⟩
      have hpos := List.length_pos_iff.2 hmax'.ne_nil
      have hsome := hfirst _ _ _ htext' hmax' (by
        rw [length_append_flatten, List.flatten_cons, List.flatMap_append, List.length_append]
        omega)
      rw [← decode?_of_mem_splitBy hps (by simp [hruns']), hfault'] at hsome
      cases hsome

theorem unescape_eq_error_iff_of_pieces {text part : List Char} {ps : List Piece}
    (hps : pieces text = .ok ps) : unescape text = .error part ↔ Undecodable text part := by
  rw [unescape_of_pieces hps, ← undecodable?_iff hps]
  cases hfind : undecodable? ps with
  | none =>
    obtain ⟨decoded, hdecode⟩ := Option.isSome_iff_exists.1 ((undecodable?_eq_none_iff ps).1 hfind)
    simp [hdecode]
  | some run =>
    have hdecode : decode? ps = none := by
      rw [← Option.not_isSome_iff_eq_none, ← undecodable?_eq_none_iff, hfind]
      exact Option.some_ne_none run
    simp [hdecode]

/-- A spelling is refused for its first percent sign that two hexadecimal digits do not follow, whatever
stands in front of it, or where there is none for its first maximal run of escapes whose bytes are not
UTF-8. There is such a run whenever the spelling cannot be decoded. -/
theorem unescape_eq_error_iff_fault (text : List Char) :
    (∀ part, unescape text = .error part ↔
        Malformed text part ∨ WellEscaped text ∧ Undecodable text part) ∧
      ∀ ps, pieces text = .ok ps →
        (decodeRuns? ps = none ↔ ∃ run, undecodable? ps = some run) := by
  constructor
  · intro part
    cases hps : pieces text with
    | error part' =>
      have hwell : ¬WellEscaped text := by
        rw [← exists_pieces_iff, hps]
        rintro ⟨ps, ⟨⟩⟩
      rw [← pieces_eq_error_iff, hps, unescape, hps]
      simp [hwell, bind, Except.bind]
    | ok ps =>
      have hformed : ¬Malformed text part := by
        rw [← pieces_eq_error_iff, hps]
        rintro ⟨⟩
      have hwell : WellEscaped text := exists_pieces_iff.1 ⟨ps, hps⟩
      rw [unescape_eq_error_iff_of_pieces hps]
      simp [hformed, hwell]
  · intro ps _
    rw [decodeRuns?_eq_decode?, ← Option.not_isSome_iff_eq_none, ← undecodable?_eq_none_iff]
    exact Option.ne_none_iff_exists'

end DataSource.FormEscape
