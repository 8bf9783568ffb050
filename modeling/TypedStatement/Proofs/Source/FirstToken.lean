import TypedStatement.Source.Grammar
import Mathlib.Data.List.Infix

/-!
# The token that a text begins with

When brackets are matched, tokens already written at the outermost level are never taken back (`nest_prefix`).  So the
first lexeme decides how the tokens of a text begin, and a text that begins with a character that can only open a literal
or a plain identifier is never read as a raw identifier (`raw_eq_false_of_parse`).
-/

namespace TypedStatement.Source
set_option autoImplicit false

open Text (CharRanges)

/-! ## Matching brackets -/

/-- The tokens written at the outermost level, latest first. -/
def bottom : List (Delimiter × List Token) → List Token → List Token
  | [], current => current
  | (_, before) :: outer, _ => bottom outer before

theorem bottom_append (outer : List (Delimiter × List Token)) (tokens current : List Token) :
    (bottom outer current).reverse <+: (bottom outer (tokens ++ current)).reverse := by
  cases outer with
  | nil =>
    rw [bottom, bottom, List.reverse_append]
    exact List.prefix_append _ _
  | cons group outer => exact List.prefix_refl _

/-- The tokens of the outermost level stay at the front, whatever lexemes come after them. -/
theorem nest_prefix (lexemes : List Lexeme) (outer : List (Delimiter × List Token)) (current tokens : List Token)
    (h : nest outer current lexemes = some tokens) : (bottom outer current).reverse <+: tokens := by
  -- Closing a group puts it behind what stood before it, so `bottom` only ever grows at its latest end.
  induction lexemes generalizing outer current with
  | nil =>
    cases outer with
    | nil =>
      rw [nest, List.isEmpty_nil, if_pos rfl] at h
      rw [← Option.some.inj h]
      exact List.prefix_refl _
    | cons group outer => simp [nest] at h
  | cons lexeme lexemes ih =>
    cases lexeme with
    | blank => exact ih outer current h
    | tokens added => exact (bottom_append outer added.reverse current).trans (ih outer _ h)
    | opening delimiter => exact ih ((delimiter, current) :: outer) [] h
    | closing delimiter =>
      cases outer with
      | nil => simp [nest] at h
      | cons group outer =>
        obtain ⟨opened, before⟩ := group
        rw [nest] at h
        split at h
        · exact (bottom_append outer [_] before).trans (ih outer _ h)
        · exact absurd h (by simp)

/-! ## Identifiers -/

theorem run_ident_cons (found : Ident) (rest : List Token) :
    Reader.ident.run (.ident found :: rest) =
      if found.isUsable = true then .ok (found, rest) else .error (.keyword found.text) := by
  change StateT.run (if found.isUsable = true then (do set rest; pure found : Reader Ident)
    else throw (.keyword found.text)) (.ident found :: rest) = _
  split
  · rfl
  · rfl

theorem run_ident_of_ne (tokens : List Token) (h : ∀ found rest, tokens ≠ .ident found :: rest) :
    Reader.ident.run tokens = .error (.expected tokens.isEmpty ["identifier"]) := by
  cases tokens with
  | nil => rfl
  | cons token rest =>
    cases token with
    | ident found => exact absurd rfl (h found rest)
    | punct c spacing => rfl
    | literal text => rfl
    | group delimiter content => rfl

/-- An identifier is read from nothing but itself. -/
theorem all_ident_eq_ok_iff (tokens : List Token) (ident : Ident) :
    Reader.ident.all tokens = .ok ident ↔ tokens = [.ident ident] ∧ ident.isUsable = true := by
  rw [Reader.all]
  by_cases hword : ∃ found rest, tokens = .ident found :: rest
  · obtain ⟨found, rest, rfl⟩ := hword
    rw [run_ident_cons, List.cons.injEq, Token.ident.injEq]
    by_cases husable : found.isUsable = true
    · rw [if_pos husable]
      cases rest with
      | nil =>
        simp only [Except.ok.injEq, and_true]
        exact ⟨fun h => ⟨h, h ▸ husable⟩, And.left⟩
      | cons next rest => simp
    · rw [if_neg husable]
      constructor
      · exact fun h => absurd h (by simp)
      · rintro ⟨⟨rfl, -⟩, hident⟩
        exact absurd hident husable
  · rw [run_ident_of_ne tokens fun found rest htokens => hword ⟨found, rest, htokens⟩]
    constructor
    · exact fun h => absurd h (by simp)
    · rintro ⟨rfl, -⟩
      exact absurd ⟨ident, [], rfl⟩ hword

theorem parse_ident_eq_ok_iff (text : String) (ident : Ident) :
    Ident.parse text = .ok ident ↔ tokens? text = some [.ident ident] ∧ ident.isUsable = true := by
  unfold Ident.parse Reader.parse
  cases tokens? text with
  | none => simp
  | some tokens => simp [all_ident_eq_ok_iff]

/-! ## Characters that open a word -/

/-- Ranges with all the characters that open something else than a plain identifier, a literal or punctuation, and more:
white space, brackets, the slash of a comment, the `r` of a raw identifier and a byte order mark are among them. -/
def otherOpenings : CharRanges :=
  [(0x9, 0x2f), (0x5b, 0x5e), (0x72, 0x72), (0x7b, 0xa0), (0x1680, 0x1680), (0x2000, 0x206f), (0x3000, 0x3000),
   (0xfeff, 0xfeff)]

section
variable {c : Char} (h : otherOpenings.contains c = false)
include h

theorem isBlank_of_otherOpenings : isBlank c = false := by
  simp only [otherOpenings, CharRanges.contains, List.any_cons, List.any_nil, Bool.or_eq_false_iff,
    Bool.and_eq_false_iff, decide_eq_false_iff_not] at h
  simp only [isBlank, Text.isWhiteSpace, Bool.or_eq_false_iff, Bool.and_eq_false_iff, decide_eq_false_iff_not,
    beq_eq_false_iff_ne]
  omega

theorem ne_of_otherOpenings (other : Char) (hother : otherOpenings.contains other = true) : c ≠ other := by
  rintro rfl
  rw [h] at hother
  exact absurd hother (by simp)

theorem gap_of_otherOpenings (rest : List Char) : gap (c :: rest) = .none := by
  have hslash := ne_of_otherOpenings h '/' (by decide)
  unfold gap
  split
  · rfl
  · exact absurd (List.cons.inj ‹_›).1 hslash
  · exact absurd (List.cons.inj ‹_›).1 hslash
  · exact absurd (List.cons.inj ‹_›).1 hslash
  · rename_i heq
    obtain ⟨rfl, -⟩ := List.cons.inj heq
    rw [if_neg (by simp [isBlank_of_otherOpenings h])]

theorem lexemeAt_of_otherOpenings (rest : List Char) : lexemeAt (c :: rest) = leafAt (c :: rest) := by
  have hne := ne_of_otherOpenings h
  unfold lexemeAt
  rw [gap_of_otherOpenings h]
  simp only
  split
  · exact absurd (List.cons.inj ‹_›).1 (hne '(' (by decide))
  · exact absurd (List.cons.inj ‹_›).1 (hne '[' (by decide))
  · exact absurd (List.cons.inj ‹_›).1 (hne '{' (by decide))
  · exact absurd (List.cons.inj ‹_›).1 (hne ')' (by decide))
  · exact absurd (List.cons.inj ‹_›).1 (hne ']' (by decide))
  · exact absurd (List.cons.inj ‹_›).1 (hne '}' (by decide))
  · rfl

theorem wordAt_of_otherOpenings (rest after : List Char) (ident : Ident)
    (hword : wordAt (c :: rest) = some (ident, after)) : ident.raw = false := by
  have hr := ne_of_otherOpenings h 'r' (by decide)
  unfold wordAt at hword
  split at hword
  · exact absurd (List.cons.inj ‹_›).1 hr
  · exact absurd (List.cons.inj ‹_›).1 hr
  · split at hword
    · rw [← (Prod.mk.inj (Option.some.inj hword)).1]
    · exact absurd hword (by simp)
  · exact absurd hword (by simp)

end

theorem punctuationAt_eq_punct (text after : List Char) (token : Token)
    (h : punctuationAt text = some (token, after)) : ∃ c spacing, token = .punct c spacing := by
  unfold punctuationAt at h
  split at h
  · exact absurd h (by simp)
  · split at h
    · exact absurd h (by simp)
    · split at h
      · exact absurd h (by simp)
      · exact ⟨_, _, (Prod.mk.inj (Option.some.inj h)).1.symm⟩
  · exact ⟨_, _, (Prod.mk.inj (Option.some.inj h)).1.symm⟩

/-- A text that begins with none of these has a literal, a punctuation character or a plain identifier at its front. -/
theorem leafAt_of_otherOpenings {c : Char} (hc : otherOpenings.contains c = false) (rest after : List Char)
    (lexeme : Lexeme) (h : leafAt (c :: rest) = some (lexeme, after)) :
    ∃ token, lexeme = .tokens [token] ∧ ∀ ident, token = .ident ident → ident.raw = false := by
  unfold leafAt at h
  split at h
  · exact ⟨_, (Prod.mk.inj (Option.some.inj h)).1.symm, by simp⟩
  · split at h
    · rename_i token _ hpunct
      obtain ⟨p, spacing, rfl⟩ := punctuationAt_eq_punct _ _ _ hpunct
      exact ⟨_, (Prod.mk.inj (Option.some.inj h)).1.symm, by simp⟩
    · obtain ⟨⟨found, behind⟩, hident, hlexeme⟩ := Option.map_eq_some_iff.1 h
      refine ⟨.ident found, (Prod.mk.inj hlexeme).1.symm, ?_⟩
      rintro ident hsame
      unfold identAt at hident
      split at hident
      · exact absurd hident (by simp)
      · rw [← Token.ident.inj hsame]
        exact wordAt_of_otherOpenings hc rest behind found hident

theorem lexemes_nil : lexemes [] = some [] := by
  rw [lexemes, List.isEmpty_nil, if_pos rfl]

theorem lexemes_cons (c : Char) (rest : List Char) :
    lexemes (c :: rest) = (lexemeAt (c :: rest)).bind fun (lexeme, after) =>
      if after.length ≤ rest.length then (lexemes after).map (lexeme :: ·) else none := by
  rw [lexemes, List.isEmpty_cons, if_neg Bool.false_ne_true]
  cases lexemeAt (c :: rest) with
  | none => rfl
  | some found => simp only [Option.bind_some, List.length_cons, Nat.lt_succ_iff]

theorem lexemes_cons_eq_some (c : Char) (rest : List Char) (all : List Lexeme) (h : lexemes (c :: rest) = some all) :
    ∃ lexeme after later, lexemeAt (c :: rest) = some (lexeme, after) ∧ all = lexeme :: later := by
  rw [lexemes_cons] at h
  obtain ⟨⟨lexeme, after⟩, hfirst, h⟩ := Option.bind_eq_some_iff.1 h
  dsimp only at h
  split at h
  · obtain ⟨later, -, hall⟩ := Option.map_eq_some_iff.1 h
    exact ⟨lexeme, after, later, hfirst, hall.symm⟩
  · exact absurd h (by simp)

theorem lexemes_of_lexemeAt (c : Char) (rest after : List Char) (lexeme : Lexeme)
    (h : lexemeAt (c :: rest) = some (lexeme, after)) (hlength : after.length ≤ rest.length) :
    lexemes (c :: rest) = (lexemes after).map (lexeme :: ·) := by
  rw [lexemes_cons, h]
  exact if_pos hlength

theorem tokens?_empty (text : String) (h : text.toList = []) : tokens? text = some [] := by
  unfold tokens?
  rw [h]
  dsimp only
  rw [lexemes_nil]
  rfl

theorem tokens?_of_cons (text : String) (c : Char) (rest : List Char) (htext : text.toList = c :: rest)
    (hmark : c.toNat ≠ 0xfeff) : tokens? text = (lexemes (c :: rest)).bind (nest [] []) := by
  unfold tokens?
  rw [htext]
  simp only [if_neg hmark]

/-- A text that is one lexeme has one token. -/
theorem tokens?_of_lexemeAt (text : String) (c : Char) (rest : List Char) (token : Token) (htext : text.toList = c :: rest)
    (hmark : c.toNat ≠ 0xfeff) (h : lexemeAt (c :: rest) = some (.tokens [token], [])) : tokens? text = some [token] := by
  rw [tokens?_of_cons text c rest htext hmark, lexemes_of_lexemeAt c rest [] _ h (Nat.zero_le _), lexemes_nil]
  rfl

/-- A text that begins with a literal, a punctuation character or a plain identifier is no raw identifier. -/
theorem raw_eq_false_of_parse (text : String) (ident : Ident) (h : Ident.parse text = .ok ident)
    (hhead : ∀ c, text.toList.head? = some c → otherOpenings.contains c = false) : ident.raw = false := by
  have htokens := ((parse_ident_eq_ok_iff text ident).1 h).1
  cases htext : text.toList with
  | nil =>
    rw [tokens?_empty text htext] at htokens
    exact absurd htokens (by simp)
  | cons c rest =>
    have hc := hhead c (by rw [htext, List.head?_cons])
    have hmark : c.toNat ≠ 0xfeff := by
      rintro hmark
      simp [otherOpenings, CharRanges.contains, hmark] at hc
    rw [tokens?_of_cons text c rest htext hmark] at htokens
    obtain ⟨all, hall, hnest⟩ := Option.bind_eq_some_iff.1 htokens
    obtain ⟨lexeme, after, later, hfirst, rfl⟩ := lexemes_cons_eq_some c rest all hall
    rw [lexemeAt_of_otherOpenings hc] at hfirst
    obtain ⟨token, rfl, htoken⟩ := leafAt_of_otherOpenings hc rest after lexeme hfirst
    have hfront : [token] <+: [Token.ident ident] := nest_prefix later [] [token] _ hnest
    exact htoken ident (List.cons.inj (List.prefix_iff_eq_take.1 hfront)).1

end TypedStatement.Source
