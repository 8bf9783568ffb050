import TypedStatement.Proofs.Source.FirstToken
import TypedStatement.Proofs.Text.AsciiName
import Mathlib.Data.List.TakeWhile

/-!
# The tokens of names

A name in ASCII is one identifier for the lexer, and so is one with `r#` in front, unless it is a word that is never raw
(`tokens?_name`, `tokens?_raw`).  Nothing else of the lexer can begin there: no literal, since there are no quotes and no digit
in front, and no punctuation.
-/

namespace TypedStatement.Source
set_option autoImplicit false

open Text

/-! ## What does not begin like a name -/

theorem afterRaw_eq_none (alphabet : StringLiteral.Alphabet) (text : List Char) (h : '"' ∉ text) :
    afterRaw alphabet text = none := by
  have hopening : StringLiteral.rawOpening text = none := by
    unfold StringLiteral.rawOpening
    split
    · rename_i rest heq
      have hmem : '"' ∈ text.dropWhile (· == '#') := by rw [heq]; exact List.mem_cons_self
      exact absurd ((List.dropWhile_sublist _).mem hmem) h
    · rfl
  rw [afterRaw, hopening]

section
variable {first : Char} (hfirst : IsLetterOrLine first) (rest : List Char)
include hfirst

theorem isIdentifierStart_of_isLetterOrLine : isIdentifierStart first = true := by
  have hrange := toNat_of_isLetterOrLine first hfirst
  have hascii : first.toNat < 0x80 := by omega
  rw [isIdentifierStart, if_pos hascii]
  exact (isLetterOrLine_iff first).1 hfirst

theorem isDigit_eq_false_of_isLetterOrLine : first.isDigit = false := by
  have hrange := toNat_of_isLetterOrLine first hfirst
  rw [Bool.eq_false_iff]
  intro hdigit
  simp only [Char.isDigit, Bool.and_eq_true, decide_eq_true_eq] at hdigit
  have hlast : first.toNat ≤ 57 := hdigit.2
  omega

theorem ne_of_not_isLetterOrLine {other : Char} (h : ¬ IsLetterOrLine other) : first ≠ other := by
  rintro rfl
  exact h hfirst

theorem lexemeAt_of_isLetterOrLine : lexemeAt (first :: rest) = leafAt (first :: rest) := by
  by_cases hr : first = 'r'
  · rw [hr]
    rfl
  · apply lexemeAt_of_otherOpenings
    have hrange := toNat_of_isLetterOrLine first hfirst
    have hne : first.toNat ≠ 0x72 := fun h => hr (Char.toNat_inj.1 h)
    simp only [otherOpenings, CharRanges.contains, List.any_cons, List.any_nil, Bool.or_eq_false_iff,
      Bool.and_eq_false_iff, decide_eq_false_iff_not, and_true]
    omega

theorem float_eq_none : Numeral.float (first :: rest) = none := by
  rw [Numeral.float, Numeral.floatDigits, if_neg]
  · rfl
  · rw [isDigit_eq_false_of_isLetterOrLine hfirst]
    exact Bool.false_ne_true

theorem integer_eq_none : Numeral.integer (first :: rest) = none := by
  have hzero : first ≠ '0' := ne_of_not_isLetterOrLine hfirst (by decide)
  have hdigits : Numeral.integerDigits (first :: rest) = none := by
    unfold Numeral.integerDigits
    split
    · exact absurd (List.cons.inj ‹_›).1 hzero
    · exact absurd (List.cons.inj ‹_›).1 hzero
    · exact absurd (List.cons.inj ‹_›).1 hzero
    · rw [Numeral.digitsIn, isDigit_eq_false_of_isLetterOrLine hfirst]
      simp
  rw [Numeral.integer, hdigits]
  rfl

theorem punctAt_eq_none : punctAt (first :: rest) = none := by
  have hall : "~!@#$%^&*-=+|;:,<.>/?'".toList.all (fun c => !decide (IsLetterOrLine c)) = true := by decide
  unfold punctAt
  split
  · rfl
  · rfl
  · rename_i heq
    obtain ⟨rfl, rfl⟩ := List.cons.inj heq
    rw [if_neg]
    intro hcontains
    have hnot := List.all_eq_true.1 hall first (List.contains_iff_mem.1 hcontains)
    rw [decide_eq_true hfirst] at hnot
    exact Bool.false_ne_true hnot
  · rfl

theorem punctuationAt_eq_none : punctuationAt (first :: rest) = none := by
  rw [punctuationAt, punctAt_eq_none hfirst]

theorem afterLiteral_eq_none (hdouble : '"' ∉ rest) (hsingle : '\'' ∉ rest) : afterLiteral (first :: rest) = none := by
  have hquote : first ≠ '"' := ne_of_not_isLetterOrLine hfirst (by decide)
  have hapostrophe : first ≠ '\'' := ne_of_not_isLetterOrLine hfirst (by decide)
  have hsecond : ∀ {c d : Char} {later : List Char}, first :: rest = c :: d :: later → d ∈ rest := by
    intro c d later h
    rw [(List.cons.inj h).2]
    exact List.mem_cons_self
  unfold afterLiteral
  rw [float_eq_none hfirst, integer_eq_none hfirst]
  dsimp only
  split
  · exact absurd (List.cons.inj ‹_›).1 hquote
  · rename_i heq
    obtain ⟨rfl, rfl⟩ := List.cons.inj heq
    rw [afterRaw_eq_none _ _ hdouble]
    rfl
  · exact absurd (hsecond ‹_›) hdouble
  · rename_i heq
    obtain ⟨rfl, rfl⟩ := List.cons.inj heq
    rw [afterRaw_eq_none _ _ fun h => hdouble (List.mem_cons_of_mem _ h)]
    rfl
  · exact absurd (hsecond ‹_›) hsingle
  · exact absurd (hsecond ‹_›) hdouble
  · rename_i heq
    obtain ⟨rfl, rfl⟩ := List.cons.inj heq
    rw [afterRaw_eq_none _ _ fun h => hdouble (List.mem_cons_of_mem _ h)]
    rfl
  · exact absurd (List.cons.inj ‹_›).1 hapostrophe
  · rfl

/-- Where a name begins, only an identifier can be read. -/
theorem lexemeAt_eq_of_identAt (hdouble : '"' ∉ rest) (hsingle : '\'' ∉ rest) {ident : Ident} {after : List Char}
    (h : identAt (first :: rest) = some (ident, after)) :
    lexemeAt (first :: rest) = some (.tokens [.ident ident], after) := by
  rw [lexemeAt_of_isLetterOrLine hfirst, leafAt, afterLiteral_eq_none hfirst rest hdouble hsingle,
    punctuationAt_eq_none hfirst, h]
  rfl

end

/-! ## Words -/

/-- What may stand after a name: it does not go on with it, and has nothing in it with which a literal begins or a raw name. -/
structure EndsName (after : List Char) : Prop where
  head : ∀ c ∈ after.head?, isIdentifierPart c = false
  unquoted : ∀ c ∈ after, c ∉ ['"', '\'', '#']

theorem endsName_nil : EndsName [] :=
  ⟨by simp, by simp⟩

theorem EndsName.takeWhile_eq {after : List Char} (h : EndsName after) : after.takeWhile isIdentifierPart = [] := by
  cases after with
  | nil => rfl
  | cons c rest => rw [List.takeWhile_cons, h.head c rfl, if_neg Bool.false_ne_true]

theorem EndsName.dropWhile_eq {after : List Char} (h : EndsName after) : after.dropWhile isIdentifierPart = after := by
  cases after with
  | nil => rfl
  | cons c rest => rw [List.dropWhile_cons, h.head c rfl, if_neg Bool.false_ne_true]

theorem isIdentifierPart_of_isAsciiWord (c : Char) (h : isAsciiWord c = true) : isIdentifierPart c = true := by
  have hrange := toNat_of_isAsciiWord c h
  have hascii : c.toNat < 0x80 := by omega
  rw [isIdentifierPart, if_pos hascii, h]

section
variable {first : Char} {rest : List Char} (hname : isAsciiName (first :: rest) = true)
include hname

theorem isLetterOrLine_of_isAsciiName : IsLetterOrLine first :=
  (isLetterOrLine_iff first).2 (Bool.and_eq_true_iff.1 hname).1

theorem not_mem_of_isAsciiName {c : Char} (hc : isAsciiWord c = false) : c ∉ first :: rest := by
  intro hmem
  rw [isAsciiWord_of_isAsciiName _ hname c hmem] at hc
  exact absurd hc (by simp)

theorem isIdentifierPart_of_isAsciiName (c : Char) (hc : c ∈ rest) : isIdentifierPart c = true :=
  isIdentifierPart_of_isAsciiWord c (isAsciiWord_of_isAsciiName _ hname c (List.mem_cons_of_mem _ hc))

section
variable {after : List Char} (hafter : EndsName after)
include hafter

theorem takeWhile_of_isAsciiName : (rest ++ after).takeWhile isIdentifierPart = rest := by
  rw [List.takeWhile_append_of_pos (isIdentifierPart_of_isAsciiName hname), hafter.takeWhile_eq, List.append_nil]

theorem dropWhile_of_isAsciiName : (rest ++ after).dropWhile isIdentifierPart = after := by
  rw [List.dropWhile_append_of_pos (isIdentifierPart_of_isAsciiName hname), hafter.dropWhile_eq]

theorem not_mem_name_append {c : Char} (hc : c ∈ ['"', '\'', '#']) : c ∉ first :: (rest ++ after) := by
  have hword : ['"', '\'', '#'].all (!isAsciiWord ·) = true := by decide
  rw [← List.cons_append, List.mem_append, not_or]
  exact ⟨not_mem_of_isAsciiName hname (by simpa using List.all_eq_true.1 hword c hc), fun hmem => hafter.unquoted c hmem hc⟩

theorem identAt_name : identAt (first :: (rest ++ after)) = some (.plain (String.ofList (first :: rest)), after) := by
  have hopening : literalOpenings.any (·.isPrefixOf (first :: (rest ++ after))) = false := by
    rw [List.any_eq_false]
    intro opening hopening hprefix
    have hall : literalOpenings.all (·.any (['"', '\'', '#'].contains ·)) = true := by decide
    obtain ⟨c, hc, hquote⟩ := List.any_eq_true.1 (List.all_eq_true.1 hall opening hopening)
    exact not_mem_name_append hname hafter (List.contains_iff_mem.1 hquote)
      ((List.isPrefixOf_iff_prefix.1 hprefix).subset hc)
  have hraw : '#' ∉ first :: (rest ++ after) := not_mem_name_append hname hafter (by simp)
  rw [identAt, hopening, if_neg Bool.false_ne_true]
  unfold wordAt
  split
  · rename_i heq
    rw [heq] at hraw
    simp at hraw
  · rename_i heq
    rw [heq] at hraw
    simp at hraw
  · rename_i c later _ _ heq
    obtain ⟨rfl, rfl⟩ := List.cons.inj heq
    rw [if_pos (isIdentifierStart_of_isLetterOrLine (isLetterOrLine_of_isAsciiName hname)),
      takeWhile_of_isAsciiName hname hafter, dropWhile_of_isAsciiName hname hafter]
    rfl
  · exact absurd ‹_› (by simp)

theorem lexemes_name : lexemes (first :: (rest ++ after)) =
    (lexemes after).map (.tokens [.ident (.plain (String.ofList (first :: rest)))] :: ·) := by
  have hquote := fun {c : Char} (hc : c ∈ ['"', '\'', '#']) (hmem : c ∈ rest ++ after) =>
    not_mem_name_append hname hafter hc (List.mem_cons_of_mem _ hmem)
  refine lexemes_of_lexemeAt first (rest ++ after) after _ ?_ (by simp)
  exact lexemeAt_eq_of_identAt (isLetterOrLine_of_isAsciiName hname) _ (hquote (by simp)) (hquote (by simp))
    (identAt_name hname hafter)

end

theorem identAt_raw (hraw : neverRaw (first :: rest) = false) :
    identAt ('r' :: '#' :: first :: rest) = some (⟨String.ofList (first :: rest), true⟩, []) := by
  have hfirst := isLetterOrLine_of_isAsciiName hname
  have hquote : '"' ≠ first := (ne_of_not_isLetterOrLine hfirst (by decide)).symm
  have hhash : '#' ≠ first := (ne_of_not_isLetterOrLine hfirst (by decide)).symm
  have hopening : literalOpenings.any (·.isPrefixOf ('r' :: '#' :: first :: rest)) = false := by
    simp [literalOpenings, List.isPrefixOf, hquote, hhash]
  rw [identAt, hopening, if_neg Bool.false_ne_true, wordAt, if_pos (isIdentifierStart_of_isLetterOrLine hfirst)]
  have htake := takeWhile_of_isAsciiName hname endsName_nil
  have hdrop := dropWhile_of_isAsciiName hname endsName_nil
  rw [List.append_nil] at htake hdrop
  dsimp only
  rw [htake, hdrop, hraw, if_neg Bool.false_ne_true]

end

/-! ## Whole names -/

section
variable {name : String} (hname : isAsciiName name.toList = true)
include hname

theorem exists_cons_of_isAsciiName : ∃ first rest, name.toList = first :: rest ∧ isAsciiName (first :: rest) = true := by
  obtain ⟨first, rest, hcons⟩ := List.exists_cons_of_ne_nil (ne_nil_of_isAsciiName _ hname)
  exact ⟨first, rest, hcons, hcons ▸ hname⟩

/-- A text that begins with a name has that as its first token. -/
theorem tokens?_name_append {text : String} {after : List Char} (htext : text.toList = name.toList ++ after)
    (hafter : EndsName after) :
    tokens? text = (lexemes after).bind fun later => nest [] [] (.tokens [.ident (.plain name)] :: later) := by
  obtain ⟨first, rest, hcons, hword⟩ := exists_cons_of_isAsciiName hname
  have hrange := toNat_of_isLetterOrLine first (isLetterOrLine_of_isAsciiName hword)
  rw [hcons, List.cons_append] at htext
  rw [tokens?_of_cons text first _ htext (by omega), lexemes_name hword hafter, ← hcons, String.ofList_toList,
    Option.bind_map]
  rfl

theorem tokens?_name : tokens? name = some [.ident (.plain name)] := by
  rw [tokens?_name_append hname (List.append_nil _).symm endsName_nil, lexemes_nil]
  rfl

theorem tokens?_raw (hraw : neverRaw name.toList = false) : tokens? ("r#" ++ name) = some [.ident ⟨name, true⟩] := by
  obtain ⟨first, rest, hcons, hword⟩ := exists_cons_of_isAsciiName hname
  rw [hcons] at hraw
  have hident := identAt_raw hword hraw
  rw [← hcons, String.ofList_toList, hcons] at hident
  have hquote : ∀ c, isAsciiWord c = false → c ≠ '#' → c ∉ '#' :: first :: rest := fun c hc hne hmem =>
    (List.mem_cons.1 hmem).elim hne (not_mem_of_isAsciiName hword hc)
  apply tokens?_of_lexemeAt _ 'r' ('#' :: first :: rest) _ (by rw [String.toList_append, hcons]; rfl) (by decide)
  exact lexemeAt_eq_of_identAt (by decide) _ (hquote _ (by decide) (by decide))
    (hquote _ (by decide) (by decide)) hident

end

/-! ## Identifiers -/

theorem parse_ident_name {name : String} (hname : isAsciiName name.toList = true)
    (husable : (Ident.plain name).isUsable = true) : Ident.parse name = .ok (.plain name) :=
  (parse_ident_eq_ok_iff _ _).2 ⟨tokens?_name hname, husable⟩

theorem parse_ident_raw (name : String) (hname : isAsciiName name.toList = true) (hraw : neverRaw name.toList = false) :
    Ident.parse ("r#" ++ name) = .ok ⟨name, true⟩ :=
  (parse_ident_eq_ok_iff _ _).2 ⟨tokens?_raw hname hraw, rfl⟩

/-! ## Names in angle brackets -/

theorem lexemes_angle {c : Char} (hc : c = '<' ∨ c = '>') {rest : List Char} (hrest : punctAt rest = none) :
    lexemes (c :: rest) = (lexemes rest).map (.tokens [.punct c .alone] :: ·) := by
  refine lexemes_of_lexemeAt c rest rest _ ?_ le_rfl
  have halone : Spacing.alone = if (punctAt rest).isSome then .joint else .alone := by rw [hrest]; rfl
  rw [halone]
  rcases hc with rfl | rfl <;> rfl

theorem endsName_angle {c : Char} (hc : c = '<' ∨ c = '>') {rest : List Char}
    (hrest : ∀ c ∈ rest, c ∉ ['"', '\'', '#']) : EndsName (c :: rest) where
  head := by rcases hc with rfl | rfl <;> simp <;> decide
  unquoted := List.forall_mem_cons.2 ⟨by rcases hc with rfl | rfl <;> decide, hrest⟩

/-- A name with another one in angle brackets after it. -/
theorem tokens?_applied {name argument text : String} (hname : isAsciiName name.toList = true)
    (hargument : isAsciiName argument.toList = true) (htext : text.toList = name.toList ++ '<' :: (argument.toList ++ ['>'])) :
    tokens? text = some [.ident (.plain name), .punct '<' .alone, .ident (.plain argument), .punct '>' .alone] := by
  obtain ⟨first, rest, hcons, hword⟩ := exists_cons_of_isAsciiName hargument
  have hclosing : EndsName ['>'] := endsName_angle (.inr rfl) (by simp)
  have hunquoted : ∀ c ∈ first :: (rest ++ ['>']), c ∉ ['"', '\'', '#'] := fun c hmem hc =>
    not_mem_name_append hword hclosing hc hmem
  rw [hcons, List.cons_append] at htext
  rw [tokens?_name_append hname htext (endsName_angle (.inl rfl) hunquoted),
    lexemes_angle (.inl rfl) (punctAt_eq_none (isLetterOrLine_of_isAsciiName hword) _), lexemes_name hword hclosing,
    lexemes_angle (.inr rfl) rfl, lexemes_nil, ← hcons, String.ofList_toList]
  rfl

end TypedStatement.Source
