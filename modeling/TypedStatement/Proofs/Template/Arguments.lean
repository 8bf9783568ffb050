import TypedStatement.Proofs.Result
import TypedStatement.Proofs.Template.Grammar
import TypedStatement.Proofs.Text.AsciiName

/-!
# Reading the arguments of a hole

A piece is read as the argument that it holds (`argument?_eq_ok_some_iff`), and it holds one unless it is a label
without a value (`exists_holdsArgument_iff`).  A list of pieces is read if none is blank except perhaps the last of
several, as the arguments of those that are not blank (`readArguments_eq_ok_iff`).
-/

namespace TypedStatement.Template
set_option autoImplicit false

open Text

/-! ## Labels -/

/-- After a name and white space no word goes on. -/
theorem not_isAsciiWord_head (gap rest : List Char) (hgap : isBlank gap = true) (c : Char)
    (h : (gap ++ ':' :: rest).head? = some c) : isAsciiWord c = false := by
  cases gap with
  | nil =>
    have hc : ':' = c := by simpa using h
    rw [← hc]
    decide
  | cons d gap =>
    have hc : d = c := by simpa using h
    rw [← hc]
    unfold isBlank at hgap
    rw [List.all_eq_true] at hgap
    exact isAsciiWord_of_isWhiteSpace d (hgap d List.mem_cons_self)

theorem splitLabel_eq_some_iff (text label value : List Char) :
    splitLabel text = some (label, value) ↔ IsLabelled text label value := by
  constructor
  · intro h
    unfold splitLabel at h
    dsimp only at h
    split at h
    · rename_i hname
      split at h
      · rename_i rest hrest
        split at h
        · exact absurd h (by simp)
        · rename_i hcolon
          obtain ⟨rfl, rfl⟩ := Prod.mk.inj (Option.some.inj h)
          obtain ⟨gap, hgap, hsplit⟩ := exists_trimStart (text.dropWhile isAsciiWord)
          refine ⟨gap, rest, ?_, hname, hgap, hcolon, rfl⟩
          rw [List.append_assoc, ← hrest, ← hsplit, List.takeWhile_append_dropWhile]
      · exact absurd h (by simp)
    · exact absurd h (by simp)
  · rintro ⟨gap, rest, rfl, hname, hgap, hcolon, rfl⟩
    have hword := isAsciiWord_of_isAsciiName label hname
    have hstop := not_isAsciiWord_head gap rest hgap
    have htake : (label ++ (gap ++ ':' :: rest)).takeWhile isAsciiWord = label := by
      rw [List.takeWhile_append_of_pos hword]
      cases hafter : gap ++ ':' :: rest with
      | nil => simp
      | cons c after => simp [hstop c (by rw [hafter]; rfl)]
    have hdrop : (label ++ (gap ++ ':' :: rest)).dropWhile isAsciiWord = gap ++ ':' :: rest := by
      rw [List.dropWhile_append_of_pos hword]
      cases hafter : gap ++ ':' :: rest with
      | nil => simp
      | cons c after => simp [hstop c (by rw [hafter]; rfl)]
    have hskip : trimStart (gap ++ ':' :: rest) = ':' :: rest := by
      apply trimStart_blank gap (':' :: rest) hgap
      intro c hc
      have hcolon : ':' = c := by simpa using hc
      rw [← hcolon]
      decide
    unfold splitLabel
    rw [List.append_assoc, htake, hdrop, hskip]
    dsimp only
    rw [if_pos hname]
    exact if_neg hcolon

/-! ## One piece -/

theorem trim_slice (start : Nat) (before core after : List Char) (hbefore : isBlank before = true)
    (hafter : isBlank after = true) (hcore : IsTrimmed core) (hne : core ≠ []) :
    Slice.trim ⟨start, before ++ core ++ after⟩ = ⟨start + utf8Length before, core⟩ := by
  unfold Slice.trim
  rw [takeWhile_core before core after hbefore hcore hne, trim_core before core after hbefore hafter hcore hne]

theorem argument?_of_isBlank (piece : Slice) (h : isBlank piece.text = true) : piece.argument? = .ok none := by
  unfold Slice.argument? Slice.trim
  dsimp only
  rw [isEmpty_trim, if_pos h]

theorem splitLabel_eq_none_iff (text : List Char) :
    splitLabel text = none ↔ ∀ label value, ¬ IsLabelled text label value := by
  constructor
  · intro h label value hlabelled
    rw [(splitLabel_eq_some_iff text label value).2 hlabelled] at h
    exact absurd h (by simp)
  · intro h
    cases hsplit : splitLabel text with
    | none => rfl
    | some parts => exact absurd ((splitLabel_eq_some_iff text parts.1 parts.2).1 hsplit) (h parts.1 parts.2)

theorem saysArgument_iff (start : Nat) (core : List Char) (argument : Argument) :
    SaysArgument start core argument ↔
      (splitLabel core = none ∧ argument = ⟨none, String.ofList core, ⟨start, start + utf8Length core⟩⟩) ∨
      ∃ label value, splitLabel core = some (label, value) ∧ value ≠ [] ∧
        argument = ⟨some (String.ofList label), String.ofList value, ⟨start, start + utf8Length core⟩⟩ := by
  constructor
  · intro h
    cases h with
    | bare hbare => exact .inl ⟨(splitLabel_eq_none_iff core).2 hbare, rfl⟩
    | labelled label value hlabelled hvalue =>
      exact .inr ⟨label, value, (splitLabel_eq_some_iff core label value).2 hlabelled, hvalue, rfl⟩
  · rintro (⟨hnone, rfl⟩ | ⟨label, value, hsome, hvalue, rfl⟩)
    · exact .bare ((splitLabel_eq_none_iff core).1 hnone)
    · exact .labelled label value ((splitLabel_eq_some_iff core label value).1 hsome) hvalue

/-- What the core of a piece is read as. -/
theorem argument?_core (start : Nat) (before core after : List Char) (hbefore : isBlank before = true)
    (hafter : isBlank after = true) (hcore : IsTrimmed core) (hne : core ≠ []) (argument : Argument) :
    Slice.argument? ⟨start, before ++ core ++ after⟩ = .ok (some argument) ↔
      SaysArgument (start + utf8Length before) core argument := by
  have hempty : ¬ core.isEmpty = true := by simpa using hne
  unfold Slice.argument?
  rw [trim_slice start before core after hbefore hafter hcore hne, saysArgument_iff]
  dsimp only
  rw [if_neg hempty]
  cases splitLabel core with
  | none => simp [Slice.range, eq_comm]
  | some parts =>
    obtain ⟨label, value⟩ := parts
    dsimp only
    by_cases hvalue : value = []
    · rw [if_pos (by simpa using hvalue)]
      constructor
      · intro h
        exact absurd h (by simp)
      · rintro (⟨h, -⟩ | ⟨_, _, h, hne, -⟩)
        · exact absurd h (by simp)
        · exact absurd ((Prod.mk.inj (Option.some.inj h)).2.symm.trans hvalue) hne
    · rw [if_neg (by simpa using hvalue)]
      constructor
      · intro h
        exact .inr ⟨label, value, rfl, hvalue, (Option.some.inj (Except.ok.inj h)).symm⟩
      · rintro (⟨h, -⟩ | ⟨_, _, h, -, rfl⟩)
        · exact absurd h (by simp)
        · obtain ⟨rfl, rfl⟩ := Prod.mk.inj (Option.some.inj h)
          rfl

/-- A piece is read as the argument that it holds. -/
theorem argument?_eq_ok_some_iff (piece : Slice) (argument : Argument) :
    piece.argument? = .ok (some argument) ↔ HoldsArgument piece argument := by
  obtain ⟨start, text⟩ := piece
  constructor
  · intro h
    cases hblank : isBlank text with
    | true =>
      rw [argument?_of_isBlank _ hblank] at h
      exact absurd h (by simp)
    | false =>
      obtain ⟨before, core, after, rfl, hbefore, hafter, hcore, hne⟩ := exists_core text hblank
      have hsays := (argument?_core start before core after hbefore hafter hcore hne argument).1 h
      exact ⟨before, core, after, rfl, hbefore, hafter, hcore, hne, hsays⟩
  · rintro ⟨before, core, after, htext, hbefore, hafter, hcore, hne, hsays⟩
    have htext' : text = before ++ core ++ after := htext
    rw [htext']
    exact (argument?_core start before core after hbefore hafter hcore hne argument).2 hsays

theorem lacksValue_core (before core after : List Char) (hbefore : isBlank before = true)
    (hafter : isBlank after = true) (hcore : IsTrimmed core) (hne : core ≠ []) :
    LacksValue (before ++ core ++ after) ↔ ∃ label, IsLabelled core label [] := by
  constructor
  · rintro ⟨before', label, gap, after', htext, hbefore', hname, hgap, hafter'⟩
    -- the label and its colon are the core, which can be found in one way only
    obtain ⟨first, rest, rfl⟩ := List.exists_cons_of_ne_nil (ne_nil_of_isAsciiName label hname)
    have hfirst := isWhiteSpace_head_of_isAsciiName _ hname first rfl
    have hcore' : IsTrimmed (first :: rest ++ gap ++ [':']) := by
      refine ⟨?_, ?_⟩
      · intro c hc
        have hsame : first = c := by simpa using hc
        rw [← hsame]
        exact hfirst
      · intro c hc
        rw [List.getLast?_concat] at hc
        rw [← Option.some.inj hc]
        decide
    have htrim := trim_core before core after hbefore hafter hcore hne
    have hsplit : before' ++ (first :: rest) ++ gap ++ ':' :: after' =
        before' ++ (first :: rest ++ gap ++ [':']) ++ after' := by
      simp only [List.append_assoc, List.cons_append, List.nil_append]
    rw [htext, hsplit, trim_core before' _ after' hbefore' hafter' hcore' (by simp)] at htrim
    exact ⟨first :: rest, gap, [], htrim.symm, hname, hgap, by simp, rfl⟩
  · rintro ⟨label, gap, rest, rfl, hname, hgap, -, hrest⟩
    obtain ⟨blank, hblank, hsplit⟩ := exists_trimStart rest
    rw [← hrest, List.append_nil] at hsplit
    refine ⟨before, label, gap, rest ++ after, ?_, hbefore, hname, hgap, ?_⟩
    · simp only [List.append_assoc, List.cons_append]
    · rw [isBlank_append, hsplit, hblank, hafter]
      rfl

/-- A piece that is not blank holds an argument unless it is a label without a value. -/
theorem exists_holdsArgument_iff (piece : Slice) (h : isBlank piece.text = false) :
    (∃ argument, HoldsArgument piece argument) ↔ ¬ LacksValue piece.text := by
  obtain ⟨start, text⟩ := piece
  obtain ⟨before, core, after, rfl, hbefore, hafter, hcore, hne⟩ := exists_core text h
  rw [lacksValue_core before core after hbefore hafter hcore hne]
  constructor
  · rintro ⟨argument, hholds⟩ ⟨label, hlabelled⟩
    rw [← argument?_eq_ok_some_iff, argument?_core start before core after hbefore hafter hcore hne,
      saysArgument_iff, (splitLabel_eq_some_iff core label []).2 hlabelled] at hholds
    rcases hholds with ⟨hnone, -⟩ | ⟨other, value, hsome, hvalue, -⟩
    · exact absurd hnone (by simp)
    · exact hvalue (Prod.mk.inj (Option.some.inj hsome)).2.symm
  · intro hlacks
    cases hsplit : splitLabel core with
    | none =>
      exact ⟨_, before, core, after, rfl, hbefore, hafter, hcore, hne, .bare ((splitLabel_eq_none_iff core).1 hsplit)⟩
    | some parts =>
      have hlabelled := (splitLabel_eq_some_iff core parts.1 parts.2).1 hsplit
      have hvalue : parts.2 ≠ [] := by
        intro hnil
        rw [hnil] at hlabelled
        exact hlacks ⟨parts.1, hlabelled⟩
      exact ⟨_, before, core, after, rfl, hbefore, hafter, hcore, hne, .labelled parts.1 parts.2 hlabelled hvalue⟩

theorem isBlank_of_holdsArgument (piece : Slice) (argument : Argument) (h : HoldsArgument piece argument) :
    isBlank piece.text = false := by
  rw [← argument?_eq_ok_some_iff] at h
  rw [← Bool.not_eq_true]
  intro hblank
  rw [argument?_of_isBlank piece hblank] at h
  exact absurd h (by simp)

theorem isBlank_of_argument? (piece : Slice) (h : piece.argument? = .ok none) : isBlank piece.text = true := by
  rw [← isEmpty_trim]
  unfold Slice.argument? at h
  dsimp only at h
  split at h
  · assumption
  · split at h
    · exact absurd h (by simp)
    · split at h <;> exact absurd h (by simp)

/-! ## All pieces -/

/-- No piece is blank, except perhaps the last; `first` says that the list begins with the first piece of a hole, and if
there is no other it may not be blank either. -/
def AllFilled (first : Bool) (pieces : List Slice) : Prop :=
  (∀ piece ∈ pieces.dropLast, isBlank piece.text = false) ∧
    (first = true → ∀ piece, pieces = [piece] → isBlank piece.text = false)

theorem allFilled_cons_cons (first : Bool) (piece next : Slice) (rest : List Slice) :
    AllFilled first (piece :: next :: rest) ↔ isBlank piece.text = false ∧ AllFilled false (next :: rest) := by
  unfold AllFilled
  rw [List.dropLast_cons_of_ne_nil (by simp), List.forall_mem_cons]
  simp

theorem ok_nil_iff (arguments : List Argument) :
    (Except.ok [] : Except Malformed (List Argument)) = .ok arguments ↔ List.Forall₂ HoldsArgument [] arguments := by
  rw [List.forall₂_nil_left_iff, Except.ok.injEq]
  exact ⟨Eq.symm, Eq.symm⟩

/-- The arguments of a hole are those of the pieces that are not blank. -/
theorem readArguments_eq_ok_iff (hole : ByteRange) (first : Bool) (pieces : List Slice) (arguments : List Argument) :
    readArguments hole first pieces = .ok arguments ↔ AllFilled first pieces ∧
      List.Forall₂ HoldsArgument (pieces.filter fun piece => !isBlank piece.text) arguments := by
  induction pieces generalizing first arguments with
  | nil =>
    rw [readArguments, List.filter_nil, ok_nil_iff]
    simp [AllFilled]
  | cons piece later ih =>
    unfold readArguments
    cases hblank : isBlank piece.text with
    | true =>
      rw [argument?_of_isBlank piece hblank, List.filter_cons_of_neg (by simp [hblank])]
      dsimp only
      cases later with
      | nil =>
        rw [List.filter_nil, ← ok_nil_iff]
        cases first <;> simp [AllFilled, hblank]
      | cons next rest => simp [allFilled_cons_cons, hblank]
    | false =>
      have hfilled : AllFilled first (piece :: later) ↔ AllFilled false later := by
        cases later with
        | nil => simp [AllFilled, hblank]
        | cons next rest => rw [allFilled_cons_cons, hblank, eq_self_iff_true, true_and]
      rw [hfilled, List.filter_cons_of_pos (by simp [hblank])]
      constructor
      · intro h
        split at h
        · exact absurd h (by simp)
        · rename_i argument hargument
          split at h
          · exact absurd h (by simp)
          · rename_i rest hrest
            obtain rfl := Except.ok.inj h
            obtain ⟨hlater, hholds⟩ := (ih false rest).1 hrest
            exact ⟨hlater, .cons ((argument?_eq_ok_some_iff piece argument).1 hargument) hholds⟩
        · rename_i hnone
          have hfound := isBlank_of_argument? piece hnone
          rw [hblank] at hfound
          exact absurd hfound (by decide)
      · rintro ⟨hlater, hholds⟩
        cases hholds with
        | cons hargument hrest =>
          rw [(argument?_eq_ok_some_iff piece _).2 hargument]
          dsimp only
          rw [(ih false _).2 ⟨hlater, hrest⟩]

end TypedStatement.Template
