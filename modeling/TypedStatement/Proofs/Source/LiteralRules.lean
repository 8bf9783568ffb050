import TypedStatement.Proofs.Source.FirstToken
import TypedStatement.Proofs.Source.StringLiteral
import Mathlib.Data.List.Forall2

/-!
# The rules of string literals

What may stand between the quotes of a literal and which text it gives, said without the machine that reads it (`Spells`):
characters, line ends, escapes, and continuations.  The machine finds a literal exactly if it is written by these rules, and
then the text that they give (`read_eq_some_iff`).  Such a literal is one token, without a suffix, up to its closing quote
(`Spells.tokens?`).
-/

namespace TypedStatement.Source.StringLiteral
set_option autoImplicit false

open Text (isIdentifierStart)

/-! ## Rules -/

/-- The letters of the escapes for one character. -/
def escapes : List (Char × Char) :=
  [('n', '\n'), ('r', '\r'), ('t', '\t'), ('0', '\x00'), ('\\', '\\'), ('\'', '\''), ('"', '"')]

/-- The number that is written by more hexadecimal digits after those of `value`. -/
def numberFrom (value : Nat) (digits : List Nat) : Nat :=
  digits.foldl (fun n digit => n * 16 + digit) value

/-- The digits of a code point when `before` of them stand in front of the text; underscores may stand anywhere but before
all digits. -/
structure IsCode (before : Nat) (code : List Char) (digits : List Nat) : Prop where
  front : before = 0 → code.head? ≠ some '_'
  values : List.Forall₂ (fun c digit => hexValue? c = some digit) (code.filter (· != '_')) digits
  positive : 0 < before + digits.length
  short : before + digits.length ≤ 6

/-- Blanks and line ends. -/
inductive IsLayout : List Char → Prop
  | nil : IsLayout []
  | blank (c : Char) (rest : List Char) : c ∈ [' ', '\t', '\n'] → IsLayout rest → IsLayout (c :: rest)
  | lineEnd (rest : List Char) : IsLayout rest → IsLayout ('\r' :: '\n' :: rest)

/-- No layout begins here. -/
def NoLayout (text : List Char) : Prop :=
  ∀ c, text.head? = some c → c ∉ [' ', '\t', '\n', '\r']

/-- What may stand between quotes, and what it adds to the text. -/
inductive Element : List Char → List Char → Prop
  | char (c : Char) : c ≠ '"' → c ≠ '\r' → c ≠ '\\' → Element [c] [c]
  | lineEnd : Element ['\r', '\n'] ['\n']
  | escape (letter c : Char) : (letter, c) ∈ escapes → Element ['\\', letter] [c]
  | ascii (high low : Char) (h l : Nat) : hexValue? high = some h → hexValue? low = some l → h < 8 →
    Element ['\\', 'x', high, low] [Char.ofNat (h * 16 + l)]
  | codePoint (code : List Char) (digits : List Nat) (c : Char) : IsCode 0 code digits →
    scalar? (numberFrom 0 digits) = some c → Element ('\\' :: 'u' :: '{' :: (code ++ ['}'])) [c]
  | continuation (layout : List Char) : IsLayout layout → layout.head? = some '\n' ∨ layout.head? = some '\r' →
    Element ('\\' :: layout) []

/-- What stands between the quotes, and the text that it gives.  A continuation takes all the layout along. -/
inductive Spells : List Char → List Char → Prop
  | nil : Spells [] []
  | cons (element added inside value : List Char) : Element element added → (added = [] → NoLayout inside) →
    Spells inside value → Spells (element ++ inside) (added ++ value)

/-! ## Elements are read -/

theorem passes_layout (layout : List Char) (h : IsLayout layout) : Passes .skip layout [] .skip := by
  induction h with
  | nil => exact passes_nil .skip
  | blank c rest hc _ ih =>
    have hstep : step .characters .skip c = .next .skip none := by
      simp only [List.mem_cons, List.not_mem_nil, or_false] at hc
      simp [step, hc]
    exact (passes_step .skip .skip c none hstep).append ih
  | lineEnd rest _ ih =>
    have hreturn : Passes .skip ['\r', '\n'] [] .skip :=
      (passes_step .skip .skipReturn '\r' none rfl).append (passes_step .skipReturn .skip '\n' none rfl)
    exact hreturn.append ih

theorem read_skip (text : List Char) (h : NoLayout text) :
    read .characters .skip text = read .characters .plain text := by
  cases text with
  | nil => rfl
  | cons c text =>
    have hc := h c rfl
    simp only [List.mem_cons, List.not_mem_nil, or_false, not_or] at hc
    have hstep : step .characters .skip c = step .characters .plain c := by simp [step, hc]
    rw [read, read, hstep]

/-- A backslash and layout that begins with a line end. -/
theorem passes_continuation (layout : List Char) (h : IsLayout layout)
    (hfirst : layout.head? = some '\n' ∨ layout.head? = some '\r') : Passes .plain ('\\' :: layout) [] .skip := by
  have hescape := passes_step .plain .escape '\\' none rfl
  cases h with
  | nil => simp at hfirst
  | blank c rest hc hrest =>
    have hline : c = '\n' := by
      simp only [List.head?_cons, Option.some.injEq] at hfirst
      rcases hfirst with rfl | rfl
      · rfl
      · exact absurd hc (by decide)
    rw [hline]
    exact (hescape.append (passes_step .escape .skip '\n' none rfl)).append (passes_layout rest hrest)
  | lineEnd rest hrest =>
    have hreturn := (hescape.append (passes_step .escape .skipReturn '\r' none rfl)).append
      (passes_step .skipReturn .skip '\n' none rfl)
    exact hreturn.append (passes_layout rest hrest)

theorem IsCode.line {before : Nat} {code : List Char} {digits : List Nat} (h : IsCode before code digits)
    (hbefore : 0 < before) : IsCode before ('_' :: code) digits := by
  refine ⟨by omega, ?_, h.positive, h.short⟩
  rw [List.filter_cons_of_neg (by decide)]
  exact h.values

theorem IsCode.digit {before : Nat} {code : List Char} {digits : List Nat} (h : IsCode (before + 1) code digits)
    (c : Char) (digit : Nat) (hdigit : hexValue? c = some digit) : IsCode before (c :: code) (digit :: digits) := by
  have hline : c ≠ '_' := by
    rintro rfl
    have hnone : hexValue? '_' = none := by decide
    exact absurd (hnone.symm.trans hdigit) (by simp)
  have hshort := h.short
  refine ⟨fun _ => by simpa using hline, ?_, ?_, ?_⟩
  · rw [List.filter_cons_of_pos (by simpa using hline)]
    exact .cons hdigit h.values
  · rw [List.length_cons]
    omega
  · rw [List.length_cons]
    omega

theorem passes_code (before value : Nat) (code : List Char) (digits : List Nat) (h : IsCode before code digits) :
    Passes (.code before value) code [] (.code (before + digits.length) (numberFrom value digits)) := by
  induction code generalizing digits before value with
  | nil =>
    obtain rfl := List.forall₂_nil_left_iff.1 h.values
    exact passes_nil _
  | cons c code ih =>
    have hvalues := h.values
    have hshort := h.short
    by_cases hline : c = '_'
    · have hbefore : 0 < before := by
        by_contra hnone
        exact h.front (by omega) (by rw [hline]; rfl)
      rw [hline, List.filter_cons_of_neg (by decide)] at hvalues
      have hstep : step .characters (.code before value) c = .next (.code before value) none := by
        simp [step, codeStep, hline, hbefore]
      have hlater := ih before value digits ⟨by omega, hvalues, h.positive, hshort⟩
      exact (passes_step _ _ c none hstep).append hlater
    · rw [List.filter_cons_of_pos (by simpa using hline)] at hvalues
      obtain ⟨digit, later, hdigit, hlater, rfl⟩ := List.forall₂_cons_left_iff.1 hvalues
      rw [List.length_cons] at hshort ⊢
      have hbrace : c ≠ '}' := by
        rintro rfl
        have hnone : hexValue? '}' = none := by decide
        exact absurd (hnone.symm.trans hdigit) (by simp)
      have hroom : before ≠ 6 := by omega
      have hstep : step .characters (.code before value) c = .next (.code (before + 1) (value * 16 + digit)) none := by
        simp [step, codeStep, hline, hbrace, hdigit, hroom]
      have hrest := ih (before + 1) (value * 16 + digit) later ⟨by omega, hlater, by omega, by omega⟩
      rw [Nat.add_assoc, Nat.add_comm 1] at hrest
      exact (passes_step _ _ c none hstep).append hrest

/-- An element of a literal is read as what it adds. -/
theorem read_element (element added rest : List Char) (h : Element element added) (hrest : added = [] → NoLayout rest) :
    read .characters .plain (element ++ rest) = (read .characters .plain rest).map (prepend added) := by
  have hescape := passes_step .plain .escape '\\' none rfl
  cases h with
  | char c hquote hreturn hbackslash => exact passes_plain c hquote hreturn hbackslash rest
  | lineEnd =>
    exact ((passes_step .plain .carriageReturn '\r' none rfl).append
      (passes_step .carriageReturn .plain '\n' (some '\n') rfl)) rest
  | escape letter c hletter =>
    simp only [escapes, List.mem_cons, Prod.mk.injEq, List.not_mem_nil, or_false] at hletter
    rcases hletter with ⟨rfl, rfl⟩ | ⟨rfl, rfl⟩ | ⟨rfl, rfl⟩ | ⟨rfl, rfl⟩ | ⟨rfl, rfl⟩ | ⟨rfl, rfl⟩ | ⟨rfl, rfl⟩ <;>
      exact passes_letter _ _ rfl rest
  | ascii high low h l hhigh hlow hsmall =>
    have hfirst : step .characters .hexHigh high = .next (.hexLow h) none := by
      have hnot : ¬ 8 ≤ h := by omega
      simp [step, hhigh, hnot]
    have hsecond : step .characters (.hexLow h) low = .next .plain (some (Char.ofNat (h * 16 + l))) := by
      simp [step, hlow]
    exact (((hescape.append (passes_step .escape .hexHigh 'x' none rfl)).append
      (passes_step .hexHigh (.hexLow h) high none hfirst)).append (passes_step (.hexLow h) .plain low _ hsecond)) rest
  | codePoint code digits c hcode hscalar =>
    have hopen := (hescape.append (passes_step .escape .codeOpen 'u' none rfl)).append
      (passes_step .codeOpen (.code 0 0) '{' none rfl)
    have hdigits := passes_code 0 0 code digits hcode
    have hclose := passes_close (0 + digits.length) (numberFrom 0 digits) c hcode.positive hscalar
    exact ((hopen.append hdigits).append hclose) rest
  | continuation layout hlayout hfirst =>
    rw [passes_continuation layout hlayout hfirst, read_skip rest (hrest rfl)]

/-! ## What is read is an element -/

theorem simpleEscape?_eq_some_iff (letter c : Char) :
    simpleEscape? .characters letter = some c ↔ (letter, c) ∈ escapes := by
  unfold simpleEscape? escapes
  simp only [List.mem_cons, Prod.mk.injEq, List.not_mem_nil, or_false]
  by_cases hline : letter = 'n'
  · simp [hline, eq_comm]
  by_cases hreturn : letter = 'r'
  · simp [hreturn, eq_comm]
  by_cases htab : letter = 't'
  · simp [htab, eq_comm]
  by_cases hnul : letter = '0'
  · simp [hnul, eq_comm]
  by_cases hsame : letter = '\\' ∨ letter = '\'' ∨ letter = '"'
  · rcases hsame with rfl | rfl | rfl <;> simp [eq_comm]
  · rw [not_or, not_or] at hsame
    simp [hline, hreturn, htab, hnul, hsame]

theorem exists_step_of_read (state : State) (text value after : List Char)
    (h : read .characters state text = some (value, after)) : ∃ c rest, text = c :: rest ∧
      ((step .characters state c = .done ∧ value = [] ∧ after = rest) ∨
        ∃ state' added tail, step .characters state c = .next state' added ∧
          read .characters state' rest = some (tail, after) ∧ value = added.toList ++ tail) := by
  cases text with
  | nil => exact absurd h (by simp [read])
  | cons c rest =>
    refine ⟨c, rest, rfl, ?_⟩
    rw [read] at h
    cases hstep : step .characters state c with
    | done =>
      rw [hstep] at h
      obtain ⟨hvalue, hafter⟩ := Prod.mk.inj (Option.some.inj h)
      exact .inl ⟨rfl, hvalue.symm, hafter.symm⟩
    | reject =>
      rw [hstep] at h
      exact absurd h (by simp)
    | next state' added =>
      rw [hstep] at h
      dsimp only at h
      cases hread : read .characters state' rest with
      | none =>
        rw [hread] at h
        exact absurd h (by simp)
      | some result =>
        rw [hread] at h
        obtain ⟨hvalue, hafter⟩ := Prod.mk.inj (Option.some.inj h)
        refine .inr ⟨state', added, result.1, rfl, ?_, hvalue.symm⟩
        rw [hread, ← hafter]

theorem step_ne_done (state : State) (c : Char) (hplain : state ≠ .plain) (hskip : state ≠ .skip) :
    step .characters state c ≠ .done := by
  cases state with
  | plain => exact absurd rfl hplain
  | skip => exact absurd rfl hskip
  | carriageReturn | skipReturn | codeOpen =>
    simp only [step]
    split <;> simp
  | escape =>
    simp only [step, escapeStep]
    repeat' split
    all_goals simp
  | hexHigh | hexLow =>
    simp only [step]
    repeat' split
    all_goals simp
  | code =>
    simp only [step, codeStep]
    repeat' split
    all_goals simp

theorem exists_next_of_read (state : State) (text value after : List Char) (hplain : state ≠ .plain)
    (hskip : state ≠ .skip) (h : read .characters state text = some (value, after)) :
    ∃ c rest state' added tail, text = c :: rest ∧ step .characters state c = .next state' added ∧
      read .characters state' rest = some (tail, after) ∧ value = added.toList ++ tail := by
  obtain ⟨c, rest, htext, ⟨hdone, -⟩ | ⟨state', added, tail, hstep⟩⟩ := exists_step_of_read state text value after h
  · exact absurd hdone (step_ne_done state c hplain hskip)
  · exact ⟨c, rest, state', added, tail, htext, hstep⟩

theorem read_silent (state state' : State) (c : Char) (rest : List Char)
    (h : step .characters state c = .next state' none) :
    read .characters state (c :: rest) = read .characters state' rest := by
  rw [read, h]
  dsimp only
  cases read .characters state' rest <;> rfl

/-- In some states only one character is expected. -/
theorem exists_expected_of_read (state next : State) (expected : Char) (added : Option Char) (text value after : List Char)
    (hstep : ∀ c, step .characters state c = if c = expected then .next next added else .reject)
    (h : read .characters state text = some (value, after)) :
    ∃ rest tail, text = expected :: rest ∧ read .characters next rest = some (tail, after) ∧
      value = added.toList ++ tail := by
  obtain ⟨c, rest, rfl, hdone | ⟨state', found, tail, hnext, hread, rfl⟩⟩ := exists_step_of_read state text value after h
  · have hc := hdone.1
    rw [hstep] at hc
    split at hc <;> exact absurd hc (by simp)
  · rw [hstep] at hnext
    split at hnext
    · rename_i hexpected
      obtain ⟨rfl, rfl⟩ := Step.next.inj hnext
      exact ⟨rest, tail, by rw [hexpected], hread, rfl⟩
    · exact absurd hnext (by simp)

theorem exists_layout_of_read (text value after : List Char) (h : read .characters .skip text = some (value, after)) :
    ∃ layout rest, text = layout ++ rest ∧ IsLayout layout ∧ NoLayout rest ∧
      read .characters .plain rest = some (value, after) := by
  induction hn : text.length using Nat.strong_induction_on generalizing text with
  | _ n ih =>
    by_cases hnone : NoLayout text
    · exact ⟨[], text, rfl, .nil, hnone, by rwa [← read_skip text hnone]⟩
    · obtain ⟨c, hc, hmem⟩ : ∃ c, text.head? = some c ∧ c ∈ [' ', '\t', '\n', '\r'] := by
        simpa only [NoLayout, not_forall, not_not, exists_prop] using hnone
      obtain ⟨rest, rfl⟩ := List.head?_eq_some_iff.1 hc
      by_cases hreturn : c = '\r'
      · rw [hreturn, read_silent .skip .skipReturn '\r' rest rfl] at h
        obtain ⟨later, tail, rfl, hread, rfl⟩ := exists_expected_of_read .skipReturn .skip '\n' none rest value
          after (fun _ => rfl) h
        have hshort : later.length < n := by
          rw [← hn, List.length_cons, List.length_cons]
          omega
        obtain ⟨layout, rest, rfl, hlayout, hrest⟩ := ih later.length hshort later hread rfl
        exact ⟨'\r' :: '\n' :: layout, rest, by rw [hreturn]; rfl, .lineEnd layout hlayout, hrest⟩
      · have hblank : c = ' ' ∨ c = '\t' ∨ c = '\n' := by
          simp only [List.mem_cons, List.not_mem_nil, or_false] at hmem
          tauto
        rw [read_silent .skip .skip c rest (by simp [step, hblank])] at h
        have hshort : rest.length < n := by
          rw [← hn, List.length_cons]
          omega
        obtain ⟨layout, rest, rfl, hlayout, hrest⟩ := ih rest.length hshort rest h rfl
        exact ⟨c :: layout, rest, rfl, .blank c layout (by simpa using hblank) hlayout, hrest⟩

theorem codeStep_eq_next (before value : Nat) (c : Char) (state : State) (added : Option Char)
    (h : codeStep .characters before value c = .next state added) :
    (c = '_' ∧ 0 < before ∧ state = .code before value ∧ added = none) ∨
      (c = '}' ∧ 0 < before ∧ state = .plain ∧ ∃ found, scalar? value = some found ∧ added = some found) ∨
      ∃ digit, hexValue? c = some digit ∧ before ≠ 6 ∧ state = .code (before + 1) (value * 16 + digit) ∧
        added = none := by
  unfold codeStep at h
  split at h
  · rename_i hline
    obtain ⟨rfl, rfl⟩ := Step.next.inj h
    exact .inl ⟨hline.1, hline.2, rfl, rfl⟩
  split at h
  · rename_i hclose
    split at h
    · rename_i found hfound
      rw [if_neg (by simp)] at h
      obtain ⟨rfl, rfl⟩ := Step.next.inj h
      exact .inr (.inl ⟨hclose.1, hclose.2, rfl, found, hfound, rfl⟩)
    · exact absurd h (by simp)
  · split at h
    · rename_i digit hdigit
      split at h
      · exact absurd h (by simp)
      · rename_i hroom
        obtain ⟨rfl, rfl⟩ := Step.next.inj h
        exact .inr (.inr ⟨digit, hdigit, hroom, rfl, rfl⟩)
    · exact absurd h (by simp)

theorem exists_code_of_read (before value : Nat) (text result after : List Char) (hbefore : before ≤ 6)
    (h : read .characters (.code before value) text = some (result, after)) :
    ∃ code digits c rest tail, text = code ++ '}' :: rest ∧ IsCode before code digits ∧
      scalar? (numberFrom value digits) = some c ∧ read .characters .plain rest = some (tail, after) ∧
      result = c :: tail := by
  induction text generalizing before value result with
  | nil => exact absurd h (by simp [read])
  | cons c text ih =>
    obtain ⟨d, rest, state, added, tail, hcons, hstep, hread, rfl⟩ :=
      exists_next_of_read _ _ result after (by simp) (by simp) h
    obtain ⟨rfl, rfl⟩ := List.cons.inj hcons
    rcases codeStep_eq_next before value c state added hstep with
      ⟨rfl, hpositive, rfl, rfl⟩ | ⟨rfl, hpositive, rfl, found, hfound, rfl⟩ | ⟨digit, hdigit, hroom, rfl, rfl⟩
    · obtain ⟨code, digits, found, rest, tail, rfl, hcode, hplain⟩ := ih before value tail hbefore hread
      exact ⟨'_' :: code, digits, found, rest, tail, rfl, hcode.line hpositive, hplain⟩
    · exact ⟨[], [], found, text, tail, rfl, ⟨by simp, .nil, hpositive, hbefore⟩, hfound, hread, rfl⟩
    · obtain ⟨code, digits, found, rest, tail, rfl, hcode, hplain⟩ :=
        ih (before + 1) (value * 16 + digit) tail (by omega) hread
      exact ⟨c :: code, digit :: digits, found, rest, tail, rfl, hcode.digit c digit hdigit, hplain⟩

theorem escapeStep_eq_next (c : Char) (state : State) (added : Option Char)
    (h : escapeStep .characters c = .next state added) :
    (c = 'x' ∧ state = .hexHigh ∧ added = none) ∨ (c = 'u' ∧ state = .codeOpen ∧ added = none) ∨
      (c = '\n' ∧ state = .skip ∧ added = none) ∨ (c = '\r' ∧ state = .skipReturn ∧ added = none) ∨
      ∃ found, (c, found) ∈ escapes ∧ state = .plain ∧ added = some found := by
  unfold escapeStep at h
  split at h
  · obtain ⟨rfl, rfl⟩ := Step.next.inj h
    exact .inl ⟨‹_›, rfl, rfl⟩
  split at h
  · obtain ⟨rfl, rfl⟩ := Step.next.inj h
    exact .inr (.inl ⟨‹_ ∧ _›.1, rfl, rfl⟩)
  split at h
  · obtain ⟨rfl, rfl⟩ := Step.next.inj h
    exact .inr (.inr (.inl ⟨‹_›, rfl, rfl⟩))
  split at h
  · obtain ⟨rfl, rfl⟩ := Step.next.inj h
    exact .inr (.inr (.inr (.inl ⟨‹_›, rfl, rfl⟩)))
  split at h
  · rename_i found hfound
    obtain ⟨rfl, rfl⟩ := Step.next.inj h
    exact .inr (.inr (.inr (.inr ⟨found, (simpleEscape?_eq_some_iff c found).1 hfound, rfl, rfl⟩)))
  · exact absurd h (by simp)

theorem exists_ascii_of_read (text value after : List Char) (h : read .characters .hexHigh text = some (value, after)) :
    ∃ high low first second rest tail, text = high :: low :: rest ∧ hexValue? high = some first ∧
      hexValue? low = some second ∧ first < 8 ∧ read .characters .plain rest = some (tail, after) ∧
      value = Char.ofNat (first * 16 + second) :: tail := by
  obtain ⟨high, rest, state, added, tail, rfl, hstep, hread, rfl⟩ :=
    exists_next_of_read .hexHigh text value after (by simp) (by simp) h
  simp only [step] at hstep
  cases hhigh : hexValue? high with
  | none =>
    rw [hhigh] at hstep
    exact absurd hstep (by simp)
  | some first =>
    rw [hhigh] at hstep
    dsimp only at hstep
    split at hstep
    · exact absurd hstep (by simp)
    · rename_i hsmall
      obtain ⟨rfl, rfl⟩ := Step.next.inj hstep
      obtain ⟨low, rest, state, added, tail, rfl, hstep, hplain, rfl⟩ :=
        exists_next_of_read (.hexLow first) rest tail after (by simp) (by simp) hread
      simp only [step] at hstep
      cases hlow : hexValue? low with
      | none =>
        rw [hlow] at hstep
        exact absurd hstep (by simp)
      | some second =>
        rw [hlow] at hstep
        dsimp only at hstep
        rw [if_neg (by simp)] at hstep
        obtain ⟨rfl, rfl⟩ := Step.next.inj hstep
        exact ⟨high, low, first, second, rest, tail, rfl, hhigh, hlow, by simpa using hsmall, hplain, rfl⟩

theorem exists_escape_of_read (text value after : List Char) (h : read .characters .escape text = some (value, after)) :
    ∃ body added rest tail, text = body ++ rest ∧ Element ('\\' :: body) added ∧ (added = [] → NoLayout rest) ∧
      read .characters .plain rest = some (tail, after) ∧ value = added ++ tail := by
  obtain ⟨c, rest, state, added, tail, rfl, hstep, hread, rfl⟩ :=
    exists_next_of_read .escape text value after (by simp) (by simp) h
  rcases escapeStep_eq_next c state added hstep with
    ⟨rfl, rfl, rfl⟩ | ⟨rfl, rfl, rfl⟩ | ⟨rfl, rfl, rfl⟩ | ⟨rfl, rfl, rfl⟩ | ⟨found, hfound, rfl, rfl⟩
  · obtain ⟨high, low, first, second, rest, tail, rfl, hhigh, hlow, hsmall, hplain, rfl⟩ :=
      exists_ascii_of_read rest tail after hread
    exact ⟨['x', high, low], _, rest, tail, rfl, .ascii high low first second hhigh hlow hsmall, by simp, hplain, rfl⟩
  · obtain ⟨rest, tail, rfl, hread, rfl⟩ :=
      exists_expected_of_read .codeOpen (.code 0 0) '{' none rest tail after (fun _ => rfl) hread
    obtain ⟨code, digits, c, rest, tail, rfl, hcode, hscalar, hplain, rfl⟩ :=
      exists_code_of_read 0 0 rest tail after (by decide) hread
    exact ⟨'u' :: '{' :: (code ++ ['}']), [c], rest, tail, by simp, .codePoint code digits c hcode hscalar, by simp,
      hplain, rfl⟩
  · obtain ⟨layout, rest, rfl, hlayout, hnone, hplain⟩ := exists_layout_of_read rest tail after hread
    exact ⟨'\n' :: layout, [], rest, tail, rfl, .continuation _ (.blank '\n' layout (by simp) hlayout) (.inl rfl),
      fun _ => hnone, hplain, rfl⟩
  · obtain ⟨later, tail, rfl, hskip, rfl⟩ :=
      exists_expected_of_read .skipReturn .skip '\n' none rest tail after (fun _ => rfl) hread
    obtain ⟨layout, rest, rfl, hlayout, hnone, hplain⟩ := exists_layout_of_read later tail after hskip
    exact ⟨'\r' :: '\n' :: layout, [], rest, tail, rfl, .continuation _ (.lineEnd layout hlayout) (.inr rfl),
      fun _ => hnone, hplain, rfl⟩
  · exact ⟨[c], [found], rest, tail, rfl, .escape c found hfound, by simp, hread, rfl⟩

/-- The literal is closed here, or goes on with an element. -/
theorem exists_element_of_read (text value after : List Char) (h : read .characters .plain text = some (value, after)) :
    (text = '"' :: after ∧ value = []) ∨ ∃ element added rest tail, text = element ++ rest ∧ Element element added ∧
      (added = [] → NoLayout rest) ∧ read .characters .plain rest = some (tail, after) ∧ value = added ++ tail := by
  obtain ⟨c, rest, rfl, hstep⟩ := exists_step_of_read .plain text value after h
  by_cases hquote : c = '"'
  · rw [hquote] at hstep ⊢
    rcases hstep with ⟨-, rfl, rfl⟩ | ⟨state, added, tail, hnext, -⟩
    · exact .inl ⟨rfl, rfl⟩
    · exact absurd hnext (by simp [step, plainStep])
  by_cases hreturn : c = '\r'
  · rw [hreturn, read_silent .plain .carriageReturn '\r' rest rfl] at h
    obtain ⟨rest, tail, rfl, hplain, rfl⟩ :=
      exists_expected_of_read .carriageReturn .plain '\n' (some '\n') rest value after (fun _ => rfl) h
    exact .inr ⟨['\r', '\n'], ['\n'], rest, tail, by rw [hreturn]; rfl, .lineEnd, by simp, hplain, rfl⟩
  by_cases hescape : c = '\\'
  · rw [hescape, read_silent .plain .escape '\\' rest rfl] at h
    obtain ⟨body, added, rest, tail, rfl, helement, hnone, hplain, rfl⟩ := exists_escape_of_read rest value after h
    exact .inr ⟨'\\' :: body, added, rest, tail, by rw [hescape]; rfl, helement, hnone, hplain, rfl⟩
  · rw [step_plain_of_ne c hquote hreturn hescape] at hstep
    rcases hstep with ⟨hdone, -⟩ | ⟨state, added, tail, hnext, hread, rfl⟩
    · exact absurd hdone (by simp)
    · obtain ⟨rfl, rfl⟩ := Step.next.inj hnext
      exact .inr ⟨[c], [c], rest, tail, rfl, .char c hquote hreturn hescape, by simp, hread, rfl⟩

/-! ## The whole literal -/

theorem NoLayout.append_quote {inside : List Char} (h : NoLayout inside) (after : List Char) :
    NoLayout (inside ++ '"' :: after) := by
  intro c hc
  cases inside with
  | nil =>
    rw [← Option.some.inj hc]
    decide
  | cons first inside => exact h c hc

theorem NoLayout.of_append {inside after : List Char} (h : NoLayout (inside ++ after)) : NoLayout inside := by
  intro c hc
  apply h c
  rw [List.head?_append, hc, Option.some_or]

theorem Element.ne_nil {element added : List Char} (h : Element element added) : element ≠ [] := by
  cases h <;> simp

/-- A literal is read to its closing quote exactly if it is spelled by the rules, and as what it spells. -/
theorem read_eq_some_iff (text value after : List Char) :
    read .characters .plain text = some (value, after) ↔ ∃ inside, text = inside ++ '"' :: after ∧ Spells inside value := by
  constructor
  · intro h
    induction hn : text.length using Nat.strong_induction_on generalizing text value with
    | _ n ih =>
      rcases exists_element_of_read text value after h with
        ⟨rfl, rfl⟩ | ⟨element, added, rest, tail, rfl, helement, hnone, hplain, rfl⟩
      · exact ⟨[], rfl, .nil⟩
      · have hpositive := List.length_pos_of_ne_nil helement.ne_nil
        have hshort : rest.length < n := by
          rw [← hn, List.length_append]
          omega
        obtain ⟨inside, rfl, hspells⟩ := ih rest.length hshort rest tail hplain rfl
        exact ⟨element ++ inside, (List.append_assoc _ _ _).symm,
          .cons element added inside tail helement (fun hnil => (hnone hnil).of_append) hspells⟩
  · rintro ⟨inside, rfl, hspells⟩
    induction hspells with
    | nil => rfl
    | cons element added inside value helement hnone _ ih =>
      rw [List.append_assoc, read_element element added _ helement (fun hnil => (hnone hnil).append_quote after), ih,
        Option.map_some]
      rfl

theorem Passes.spells {inside value : List Char} (h : Passes .plain inside value .plain) : Spells inside value := by
  obtain ⟨found, hfound, hspells⟩ := (read_eq_some_iff (inside ++ ['"']) value []).1 (h.read_quote [])
  rwa [List.append_cancel_right hfound]

theorem Spells.read_quote {inside value : List Char} (h : Spells inside value) (after : List Char) :
    read .characters .plain (inside ++ '"' :: after) = some (value, after) :=
  (read_eq_some_iff _ value after).2 ⟨inside, rfl, h⟩

/-! ## Literals as tokens -/

/-- A text between double quotes. -/
def between (inside : List Char) : List Char :=
  '"' :: (inside ++ ['"'])

theorem encode_eq_between (text : String) : encode text = String.ofList (between (encodeBody text.toList)) := rfl

theorem Spells.value? {inside value : List Char} (h : Spells inside value) :
    StringLiteral.value? (String.ofList (between inside)) = some (String.ofList value) := by
  unfold StringLiteral.value? between
  rw [String.toList_ofList]
  change (read .characters .plain (inside ++ ['"'])).map (fun result => String.ofList result.1) = _
  rw [h.read_quote [], Option.map_some]

theorem value?_encode (text : String) : StringLiteral.value? (encode text) = some text := by
  rw [encode_eq_between, (passes_encodeBody text.toList).spells.value?, String.ofList_toList]

/-- The literal ends with its closing quote, or with the word that follows at once. -/
theorem Spells.afterLiteral_eq {inside value : List Char} (h : Spells inside value) (rest : List Char) :
    Source.afterLiteral (between inside ++ rest) = some (Numeral.skipWord rest) := by
  have hread := h.read_quote rest
  unfold Source.afterLiteral between
  simp only [List.cons_append, List.append_assoc, List.nil_append, afterQuoted, hread, Option.map_some]
  rfl

theorem Spells.afterLiteral {inside value : List Char} (h : Spells inside value) (rest : List Char)
    (hrest : ∀ c, rest.head? = some c → isIdentifierStart c = false) :
    Source.afterLiteral (between inside ++ rest) = some rest := by
  have hskip : Numeral.skipWord rest = rest := by
    cases rest with
    | nil => rfl
    | cons c rest => rw [Numeral.skipWord, hrest c rfl, if_neg (by decide)]
  rw [h.afterLiteral_eq rest, hskip]

theorem Spells.leafAt {inside value : List Char} (h : Spells inside value) (rest : List Char)
    (hrest : ∀ c, rest.head? = some c → isIdentifierStart c = false) :
    Source.leafAt (between inside ++ rest) = some (.tokens [.literal (String.ofList (between inside))], rest) := by
  unfold Source.leafAt
  rw [h.afterLiteral rest hrest]
  simp

theorem Spells.tokens? {inside value : List Char} (h : Spells inside value) :
    Source.tokens? (String.ofList (between inside)) = some [.literal (String.ofList (between inside))] := by
  have hleaf := h.leafAt [] (by simp)
  rw [List.append_nil] at hleaf
  exact tokens?_of_lexemeAt _ '"' (inside ++ ['"']) _ String.toList_ofList (by decide) hleaf

theorem exists_skipWord (text : List Char) : ∃ word, text = word ++ Numeral.skipWord text := by
  cases text with
  | nil => exact ⟨[], rfl⟩
  | cons c rest =>
    rw [Numeral.skipWord]
    by_cases hstart : isIdentifierStart c = true
    · rw [if_pos hstart]
      exact ⟨c :: rest.takeWhile Text.isIdentifierPart, congrArg (c :: ·) List.takeWhile_append_dropWhile.symm⟩
    · rw [if_neg hstart]
      exact ⟨[], rfl⟩

/-- The first token of a text that begins with a literal is this literal, perhaps with a word at its end. -/
theorem Spells.exists_lexemeAt {inside value : List Char} (h : Spells inside value) (rest : List Char) : ∃ word after,
    lexemeAt (between inside ++ rest) = some (.tokens [.literal (String.ofList (between inside ++ word))], after) := by
  obtain ⟨word, hword⟩ := exists_skipWord rest
  refine ⟨word, Numeral.skipWord rest, ?_⟩
  have hlength : (between inside ++ rest).length - (Numeral.skipWord rest).length = (between inside ++ word).length := by
    have hparts := congrArg List.length hword
    rw [List.length_append] at hparts
    rw [List.length_append, List.length_append]
    omega
  have htake : (between inside ++ rest).take (between inside ++ word).length = between inside ++ word := by
    conv_lhs => rw [hword, ← List.append_assoc]
    exact List.take_left
  change Source.leafAt (between inside ++ rest) = _
  unfold Source.leafAt
  rw [h.afterLiteral_eq rest]
  dsimp only
  rw [hlength, htake]

/-- A text that begins with a literal and is one token has the value of this literal. -/
theorem Spells.value?_of_tokens? {inside value rest : List Char} (h : Spells inside value) {text literal : String}
    (htext : text.toList = between inside ++ rest) (htokens : Source.tokens? text = some [.literal literal]) :
    StringLiteral.value? literal = some (String.ofList value) := by
  rw [tokens?_of_cons text '"' (inside ++ ['"'] ++ rest) htext (by decide)] at htokens
  obtain ⟨all, hall, hnest⟩ := Option.bind_eq_some_iff.1 htokens
  obtain ⟨lexeme, after, later, hfirst, rfl⟩ := lexemes_cons_eq_some '"' _ all hall
  obtain ⟨word, behind, hlexeme⟩ := h.exists_lexemeAt rest
  obtain ⟨rfl, -⟩ := Prod.mk.inj (Option.some.inj (hfirst.symm.trans hlexeme))
  have hfront : [Token.literal (String.ofList (between inside ++ word))] <+: [Token.literal literal] :=
    nest_prefix later [] [_] _ hnest
  have hliteral : String.ofList (between inside ++ word) = literal :=
    Token.literal.inj (List.cons.inj (List.prefix_iff_eq_take.1 hfront)).1
  rw [← hliteral]
  unfold StringLiteral.value? between
  rw [String.toList_ofList]
  simp only [List.cons_append, List.append_assoc, List.nil_append, h.read_quote word, Option.map_some]

/-- A fragment that begins with a quote has tokens only if there is a literal. -/
theorem exists_read_of_tokens? (rest : List Char) (tokens : List Token)
    (h : tokens? (String.ofList ('"' :: rest)) = some tokens) :
    ∃ value after, read .characters .plain rest = some (value, after) := by
  rw [tokens?_of_cons _ '"' rest String.toList_ofList (by decide)] at h
  obtain ⟨all, hall, -⟩ := Option.bind_eq_some_iff.1 h
  obtain ⟨lexeme, after, later, hfirst, -⟩ := lexemes_cons_eq_some '"' rest all hall
  cases hread : read .characters .plain rest with
  | some result => exact ⟨result.1, result.2, rfl⟩
  | none =>
    have hliteral : Source.afterLiteral ('"' :: rest) = none := by
      simp only [Source.afterLiteral, afterQuoted, hread, Option.map_none]
      rfl
    have hleaf : lexemeAt ('"' :: rest) = none := by
      change leafAt ('"' :: rest) = none
      rw [leafAt, hliteral]
      rfl
    rw [hleaf] at hfirst
    exact absurd hfirst (by simp)

end TypedStatement.Source.StringLiteral
