import TypedStatement.Proofs.Source.Readers

/-!
# Readers that look ahead

A rule of the grammar looks at what comes next and then takes one of several ways.  A run that has ended well is a run of the
way that was taken (`Looks.run_bind`, `run_ite`), whichever it was; a property that every way has is one of the rule
(`Answers`).  What a repeated reader has taken is known for as many values as it answered (`run_many_nil`,
`run_many_singleton`).
-/

namespace TypedStatement.Source.Reader
set_option autoImplicit false

variable {α β : Type}

/-! ## Looking -/

/-- The reader answers something and takes nothing. -/
def Looks (reader : Reader α) : Prop :=
  ∀ tokens, ∃ value, reader.run tokens = .ok (value, tokens)

theorem looks_next (test : Token → Bool) : Looks (next test) :=
  fun _ => ⟨_, rfl⟩

theorem looks_third (test : Token → Bool) : Looks (third test) :=
  fun _ => ⟨_, rfl⟩

theorem looks_sees (operator : String) : Looks (sees operator) :=
  fun _ => ⟨_, rfl⟩

theorem looks_seesParenthesized : Looks Grammar.seesParenthesized :=
  fun _ => ⟨_, rfl⟩

theorem Looks.run_bind {reader : Reader α} (hlooks : Looks reader) {next : α → Reader β} {tokens rest : List Token}
    {value : β} (h : (reader >>= next).run tokens = .ok (value, rest)) :
    ∃ seen, (next seen).run tokens = .ok (value, rest) := by
  obtain ⟨seen, hseen⟩ := hlooks tokens
  rw [run_bind_of_ok hseen] at h
  exact ⟨seen, h⟩

theorem run_sees_bind (operator : String) (next : Bool → Reader β) (tokens : List Token) :
    (sees operator >>= next).run tokens = (next (startsWith operator.toList tokens)).run tokens := rfl

theorem run_next_cons (test : Token → Bool) (token : Token) (rest : List Token) :
    (next test).run (token :: rest) = .ok (test token, token :: rest) := rfl

theorem run_third_bind (test : Token → Bool) (next : Bool → Reader β) (tokens : List Token) :
    (third test >>= next).run tokens = (next ((tokens.drop 2).head?.any test)).run tokens := rfl

/-! ## Choices -/

/-- A run of a choice is a run of the one that was made. -/
theorem run_ite {condition : Prop} [Decidable condition] {reader other : Reader α} {tokens : List Token}
    {result : Except FragmentError (α × List Token)}
    (h : (if condition then reader else other).run tokens = result) :
    condition ∧ reader.run tokens = result ∨ ¬ condition ∧ other.run tokens = result := by
  split at h
  · exact .inl ⟨‹_›, h⟩
  · exact .inr ⟨‹_›, h⟩

theorem run_unless {look : Reader Bool} {tokens : List Token} (way other : Reader α)
    (h : look.run tokens = .ok (false, tokens)) :
    (do if ← look then way else other : Reader α).run tokens = other.run tokens :=
  run_bind_of_ok h

/-! ## What is always answered -/

/-- Everything that the reader answers has the property. -/
def Answers (reader : Reader α) (holds : α → Prop) : Prop :=
  ∀ tokens value rest, reader.run tokens = .ok (value, rest) → holds value

section
variable {holds : α → Prop}

theorem answers_pure (value : α) (h : holds value) : Answers (pure value) holds := by
  intro tokens found rest hrun
  obtain ⟨rfl, -⟩ := Prod.mk.inj (Except.ok.inj hrun)
  exact h

theorem answers_bind (reader : Reader β) (next : β → Reader α) (h : ∀ value, Answers (next value) holds) :
    Answers (reader >>= next) holds := by
  intro tokens found rest hrun
  obtain ⟨value, later, -, hnext⟩ := (run_bind_eq_ok_iff _ _ _ _ _).1 hrun
  exact h value later found rest hnext

theorem answers_ite (condition : Prop) [Decidable condition] (reader other : Reader α) (h : Answers reader holds)
    (hother : Answers other holds) : Answers (if condition then reader else other) holds := by
  split
  · exact h
  · exact hother

theorem answers_expected (alternatives : List String) : Answers (expected alternatives : Reader α) holds := by
  intro tokens found rest hrun
  cases hrun

end

/-! ## Tokens that are taken -/

theorem exists_punct_of_startsWith (c : Char) (tokens : List Token) (h : startsWith [c] tokens = true) :
    ∃ spacing rest, tokens = .punct c spacing :: rest := by
  cases tokens with
  | nil => cases h
  | cons token rest =>
    cases token with
    | punct p spacing =>
      obtain rfl : p = c := by simpa [startsWith] using h
      exact ⟨spacing, rest, rfl⟩
    | ident name => cases h
    | literal text => cases h
    | group delimiter content => cases h

theorem run_operator (text : String) (tokens : List Token) (h : startsWith text.toList tokens = true) :
    (operator text).run tokens = .ok (Token.operator text.toList, tokens.drop text.length) := by
  unfold operator
  rw [run_get_bind, if_pos h]
  rfl

theorem startsWith_of_run_operator {text : String} {tokens rest found : List Token}
    (h : (operator text).run tokens = .ok (found, rest)) :
    startsWith text.toList tokens = true ∧ rest = tokens.drop text.length := by
  unfold operator at h
  rw [run_get_bind] at h
  rcases run_ite h with ⟨hstarts, h⟩ | ⟨-, h⟩
  · exact ⟨hstarts, (congrArg Prod.snd (Except.ok.inj h)).symm⟩
  · cases h

/-- One punctuation character is taken. -/
theorem exists_punct_of_run_operator {text : String} (c : Char) (htext : text.toList = [c])
    {tokens rest found : List Token} (h : (operator text).run tokens = .ok (found, rest)) :
    ∃ spacing, tokens = .punct c spacing :: rest := by
  obtain ⟨hstarts, rfl⟩ := startsWith_of_run_operator h
  rw [htext] at hstarts
  obtain ⟨spacing, rest, rfl⟩ := exists_punct_of_startsWith c tokens hstarts
  refine ⟨spacing, ?_⟩
  rw [← String.length_toList, htext]
  rfl

theorem eq_cons_of_run_ident (tokens rest : List Token) (name : Ident) (h : ident.run tokens = .ok (name, rest)) :
    tokens = .ident name :: rest := by
  by_cases hword : ∃ found later, tokens = .ident found :: later
  · obtain ⟨found, later, rfl⟩ := hword
    rw [run_ident_cons] at h
    split at h
    · obtain ⟨rfl, rfl⟩ := Prod.mk.inj (Except.ok.inj h)
      rfl
    · cases h
  · rw [run_ident_of_ne tokens fun found later htokens => hword ⟨found, later, htokens⟩] at h
    cases h

/-! ## Repetition -/

section
variable {one : Reader (Option α)} (hnone : ∀ tokens rest, one.run tokens = .ok (none, rest) → rest = tokens)
include hnone

theorem run_chainUpTo_nil {limit : Nat} {tokens rest : List Token}
    (h : (chainUpTo limit do return (← one).map (·, true)).run tokens = .ok (([] : List α), rest)) : rest = tokens := by
  cases limit with
  | zero => exact (congrArg Prod.snd (Except.ok.inj h)).symm
  | succ limit =>
    rw [chainUpTo, run_bind_eq_ok_iff] at h
    obtain ⟨answer, later, hanswer, h⟩ := h
    obtain ⟨found, between, hfound, hsame⟩ := (run_bind_eq_ok_iff _ _ _ _ _).1 hanswer
    obtain ⟨rfl, rfl⟩ := Prod.mk.inj (Except.ok.inj hsame)
    cases found with
    | none =>
      obtain ⟨-, rfl⟩ := Prod.mk.inj (Except.ok.inj h)
      exact hnone _ _ hfound
    | some value =>
      obtain ⟨others, final, -, hcons⟩ := (run_bind_eq_ok_iff _ _ _ _ _).1 h
      exact absurd (congrArg Prod.fst (Except.ok.inj hcons)) (by simp)

/-- A repeated reader that has answered nothing has taken nothing. -/
theorem run_many_nil {tokens rest : List Token} (h : (many one).run tokens = .ok (([] : List α), rest)) :
    rest = tokens :=
  run_chainUpTo_nil hnone h

/-- A repeated reader that has answered one value has run once. -/
theorem run_many_singleton {tokens rest : List Token} {value : α} (h : (many one).run tokens = .ok ([value], rest)) :
    one.run tokens = .ok (some value, rest) := by
  change (chainUpTo (tokens.length + 1) do return (← one).map (·, true)).run tokens = _ at h
  rw [chainUpTo, run_bind_eq_ok_iff] at h
  obtain ⟨answer, later, hanswer, h⟩ := h
  obtain ⟨found, between, hfound, hsame⟩ := (run_bind_eq_ok_iff _ _ _ _ _).1 hanswer
  obtain ⟨rfl, rfl⟩ := Prod.mk.inj (Except.ok.inj hsame)
  cases found with
  | none => exact absurd (congrArg Prod.fst (Except.ok.inj h)) (by simp)
  | some first =>
    obtain ⟨others, final, hothers, hcons⟩ := (run_bind_eq_ok_iff _ _ _ _ _).1 h
    obtain ⟨hvalues, rfl⟩ := Prod.mk.inj (Except.ok.inj hcons)
    obtain ⟨rfl, rfl⟩ := List.cons.inj hvalues
    -- nothing more was answered, so nothing more was taken
    rw [run_chainUpTo_nil hnone hothers]
    exact hfound

end

end TypedStatement.Source.Reader
