import DataSource.Proofs.Text.Utf8
import DataSource.Text.FormEscape
import Mathlib.Data.List.SplitBy

/-!
# Runs of a spelling

Unescaping decodes run by run, and looks for the fault among the runs of escapes. Both come to the same
as decoding the pieces as a whole, because a literal character is whole by itself: the bytes in front of
it and the bytes behind it have a text each, or there is none (`decode?_append`). So the runs may end
wherever a literal character stands (`decode?_splitBy`): unescaping decodes the whole
(`decodeRuns?_eq_decode?`), and there is a run of escapes at fault exactly when that fails
(`undecodable?_eq_none_iff`).
-/

namespace DataSource.FormEscape

open Text

/-! ## Pieces around a literal character -/

theorem decode?_nil : decode? [] = some [] := ofUtf8?_utf8 []

theorem decode?_append_literal (front back : List Piece) (c : Char) :
    decode? (front ++ .literal c :: back) =
      (decode? front).bind fun before =>
        (decode? back).map fun after => before ++ (if c = '+' then ' ' else c) :: after := by
  rw [decode?, List.flatMap_append, List.flatMap_cons]
  exact ofUtf8?_append_char _ _ _

/-- Whether a literal character stands on one side of the place where two lists of pieces meet. -/
def Meet (front back : List Piece) : Prop :=
  ∀ p ∈ front.getLast?, ∀ q ∈ back.head?, p.isEscape = true → q.isEscape = false

theorem decode?_append {front back : List Piece} (h : Meet front back) :
    decode? (front ++ back) =
      (decode? front).bind fun before => (decode? back).map (before ++ ·) := by
  rcases List.eq_nil_or_concat front with rfl | ⟨front, p, rfl⟩
  · simp [decode?_nil]
  rcases back with _ | ⟨q, back⟩
  · simp [decode?_nil]
  cases p with
  | literal c =>
    have hfront := decode?_append_literal front [] c
    simp only [decode?_nil, Option.map_some] at hfront
    rw [List.concat_eq_append, List.append_assoc, List.singleton_append, decode?_append_literal, hfront,
      Option.bind_assoc]
    simp
  | escape high low byte =>
    have hq : q.isEscape = false := h (.escape high low byte) (by simp) q (by simp) rfl
    cases q with
    | escape => cases hq
    | literal c =>
      have hback := decode?_append_literal [] back c
      simp only [decode?_nil, Option.bind_some, List.nil_append] at hback
      simp only [decode?_append_literal, hback, Option.map_map]
      rfl

/-! ## Runs that meet at literal characters -/

theorem decode?_flatten {runs : List (List Piece)} (hne : [] ∉ runs) (hmeet : runs.IsChain Meet) :
    decode? runs.flatten = (runs.mapM decode?).map List.flatten := by
  induction runs with
  | nil => exact decode?_nil
  | cons run runs ih =>
    rw [List.mem_cons, not_or] at hne
    rw [List.isChain_cons] at hmeet
    have hhead : Meet run runs.flatten := by
      rcases runs with _ | ⟨next, runs⟩
      · exact fun p _ q hq => by simp at hq
      · have hnext : next ≠ [] := fun h => hne.2 (h ▸ List.mem_cons_self)
        have hmeets := hmeet.1 next rfl
        rw [Meet, ← List.head?_append_of_ne_nil next hnext] at hmeets
        exact hmeets
    rw [List.flatten_cons, decode?_append hhead, ih hne.2 hmeet.2, List.mapM_cons]
    cases decode? run <;> cases runs.mapM decode? <;> rfl

theorem isSome_mapM_decode? (runs : List (List Piece)) :
    (runs.mapM decode?).isSome ↔ ∀ run ∈ runs, (decode? run).isSome := by
  induction runs with
  | nil => simp
  | cons run runs ih =>
    rw [List.forall_mem_cons, ← ih, List.mapM_cons]
    cases decode? run <;> cases runs.mapM decode? <;> simp

section

variable {r : Piece → Piece → Bool}
  (hr : ∀ p q, r p q = false → p.isEscape = true → q.isEscape = false) (ps : List Piece)

include hr

theorem meet_splitBy : (ps.splitBy r).IsChain Meet := by
  refine (List.isChain_getLast_head_splitBy r ps).imp fun front back hends => ?_
  obtain ⟨hfront, hback, hends⟩ := hends
  intro p hp q hq
  rw [List.getLast?_eq_some_getLast hfront, Option.mem_some_iff] at hp
  rw [List.head?_eq_some_head hback, Option.mem_some_iff] at hq
  exact hp ▸ hq ▸ hr _ _ hends

/-- The runs may end wherever a literal character stands. -/
theorem decode?_splitBy : decode? ps = ((ps.splitBy r).mapM decode?).map List.flatten := by
  rw [← decode?_flatten (List.nil_notMem_splitBy r ps) (meet_splitBy hr ps), List.flatten_splitBy]

theorem isSome_decode?_iff : (decode? ps).isSome ↔ ∀ run ∈ ps.splitBy r, (decode? run).isSome := by
  rw [decode?_splitBy hr, Option.isSome_map, isSome_mapM_decode?]

end

/-- Unescaping decodes the pieces as a whole. -/
theorem decodeRuns?_eq_decode? (ps : List Piece) : decodeRuns? ps = decode? ps := by
  refine (decode?_splitBy (fun p q hpq hp => ?_) ps).symm
  cases p with
  | literal => cases hp
  | escape => cases q with
    | literal => rfl
    | escape => cases hpq

/-! ## Runs of escapes -/

/-- Whether two pieces are both escapes, or both literal characters. -/
def sameKind (p q : Piece) : Bool := p.isEscape == q.isEscape

theorem isEscape_of_sameKind {p q : Piece} (h : sameKind p q = false) (hp : p.isEscape = true) :
    q.isEscape = false := by
  rw [sameKind, hp] at h
  cases hq : q.isEscape with
  | true => rw [hq] at h; cases h
  | false => rfl

theorem isSome_decode?_of_literal {run : List Piece} (h : ∀ p ∈ run, p.isEscape = false) :
    (decode? run).isSome := by
  induction run with
  | nil => rw [decode?_nil]; rfl
  | cons p run ih =>
    rw [List.forall_mem_cons] at h
    cases p with
    | escape => exact absurd h.1.symm Bool.false_ne_true
    | literal c =>
      have hrun := decode?_append_literal [] run c
      rw [List.nil_append] at hrun
      rw [hrun, decode?_nil, Option.bind_some, Option.isSome_map]
      exact ih h.2

theorem kind_of_mem_splitBy {ps run : List Piece} (h : run ∈ ps.splitBy sameKind) :
    (∀ p ∈ run, p.isEscape = true) ∨ ∀ p ∈ run, p.isEscape = false := by
  have hchain := List.isChain_of_mem_splitBy h
  clear h
  induction run with
  | nil => exact .inl nofun
  | cons p run ih =>
    rw [List.isChain_cons] at hchain
    rcases run with _ | ⟨q, run⟩
    · cases hp : p.isEscape
      · exact .inr (by simp [hp])
      · exact .inl (by simp [hp])
    · have hpq : p.isEscape = q.isEscape := by simpa [sameKind] using hchain.1 q rfl
      refine (ih hchain.2).imp (fun hall => ?_) fun hall => ?_
      · exact List.forall_mem_cons.2 ⟨hpq.trans (hall q List.mem_cons_self), hall⟩
      · exact List.forall_mem_cons.2 ⟨hpq.trans (hall q List.mem_cons_self), hall⟩

theorem isSome_decode?_of_mem_splitBy {ps run : List Piece} (h : run ∈ ps.splitBy sameKind)
    (hrun : (run.all Piece.isEscape && (decode? run).isNone) = false) : (decode? run).isSome := by
  rcases kind_of_mem_splitBy h with hescape | hliteral
  · rw [List.all_eq_true.2 hescape, Bool.true_and] at hrun
    cases hdecode : decode? run with
    | none => rw [hdecode] at hrun; cases hrun
    | some text => rfl
  · exact isSome_decode?_of_literal hliteral

/-- A run of escapes between literal characters is one of the runs of its kind. -/
theorem splitBy_around {front run back : List Piece} (hne : run ≠ [])
    (hrun : ∀ p ∈ run, p.isEscape = true) (hfront : ∀ p ∈ front.getLast?, p.isEscape = false)
    (hback : ∀ p ∈ back.head?, p.isEscape = false) :
    (front ++ (run ++ back)).splitBy sameKind =
      front.splitBy sameKind ++ run :: back.splitBy sameKind := by
  have hchain : run.IsChain fun p q => sameKind p q = true := by
    refine List.Pairwise.isChain (List.pairwise_of_forall_mem_list fun p hp q hq => ?_)
    simp [sameKind, hrun p hp, hrun q hq]
  have hleft : ∀ p ∈ front.getLast?, ∀ q ∈ (run ++ back).head?, sameKind p q = false := by
    intro p hp q hq
    rw [List.head?_append_of_ne_nil run hne] at hq
    simp [sameKind, hfront p hp, hrun q (List.mem_of_mem_head? hq)]
  have hright : ∀ p ∈ run.getLast?, ∀ q ∈ back.head?, sameKind p q = false := by
    intro p hp q hq
    simp [sameKind, hback q hq, hrun p (List.mem_of_mem_getLast? hp)]
  rw [List.splitBy_append hleft, List.splitBy_append hright, List.splitBy_of_isChain hne hchain]
  rfl

theorem around_of_splitBy {ps run : List Piece} {front back : List (List Piece)}
    (h : ps.splitBy sameKind = front ++ run :: back) (hrun : ∀ p ∈ run, p.isEscape = true) :
    run ≠ [] ∧ ps = front.flatten ++ (run ++ back.flatten) ∧
      (∀ p ∈ front.flatten.getLast?, p.isEscape = false) ∧
      ∀ p ∈ back.flatten.head?, p.isEscape = false := by
  have hne : ∀ part ∈ front ++ run :: back, part ≠ [] := by
    intro part hpart
    rw [← h] at hpart
    exact List.ne_nil_of_mem_splitBy hpart
  have hchain := List.isChain_getLast_head_splitBy sameKind ps
  rw [h, List.isChain_append, List.isChain_cons] at hchain
  obtain ⟨-, ⟨hback, -⟩, hfront⟩ := hchain
  refine ⟨hne run (by simp), ?_, ?_, ?_⟩
  · rw [← List.flatten_splitBy sameKind ps, h, List.flatten_append, List.flatten_cons]
  · rcases List.eq_nil_or_concat front with rfl | ⟨front, last, rfl⟩
    · simp
    · obtain ⟨hlast, hrunne, hkind⟩ := hfront last (by simp) run rfl
      have hescape := hrun _ (List.head_mem hrunne)
      intro p hp
      rw [List.concat_eq_append, List.flatten_append, List.flatten_singleton,
        List.getLast?_append_of_ne_nil _ hlast, List.getLast?_eq_some_getLast hlast,
        Option.mem_some_iff] at hp
      rw [sameKind, hescape, hp] at hkind
      simpa using hkind
  · rcases back with _ | ⟨next, back⟩
    · simp
    · obtain ⟨hrunne, hnext, hkind⟩ := hback next rfl
      have hescape := hrun _ (List.getLast_mem hrunne)
      intro p hp
      rw [List.flatten_cons, List.head?_append_of_ne_nil next hnext, List.head?_eq_some_head hnext,
        Option.mem_some_iff] at hp
      exact hp ▸ isEscape_of_sameKind hkind hescape

theorem undecodable?_eq_none_iff (ps : List Piece) :
    undecodable? ps = none ↔ (decode? ps).isSome := by
  rw [isSome_decode?_iff (fun _ _ => isEscape_of_sameKind) ps]
  refine List.find?_eq_none.trans ⟨fun h run hrun => ?_, fun h run hrun hfault => ?_⟩
  · exact isSome_decode?_of_mem_splitBy hrun (Bool.eq_false_iff.2 (h run hrun))
  · have hsome := h run hrun
    rw [Bool.and_eq_true, Option.isNone_iff_eq_none] at hfault
    rw [hfault.2] at hsome
    cases hsome

end DataSource.FormEscape
