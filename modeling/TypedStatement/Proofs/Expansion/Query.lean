import TypedStatement.Generator.Statement
import TypedStatement.Proofs.Expansion.Host
import TypedStatement.Proofs.Source.LiteralRules

/-!
# The query in what is emitted

The query of a statement is emitted as a string literal, and a statement of a manifest is handed to the expansion as one.  Both
lose nothing: every text is written as a literal that is read back as that text (`literals_read_back`).
-/

namespace TypedStatement
set_option autoImplicit false

open Source (Token)
open Source.StringLiteral (Spells between encode encodeBody passes_encodeBody)

/-! ## Texts of tokens -/

namespace Source.Token

theorem writtenAll_cons (token : Token) (rest : List Token) :
    ∃ gap, writtenAll (token :: rest) = token.written ++ gap ++ writtenAll rest := by
  cases rest with
  | nil => exact ⟨[], by simp [writtenAll]⟩
  | cons next rest => exact ⟨_, by rw [writtenAll]⟩

theorem exists_writtenAll_append (front tokens : List Token) :
    ∃ before, writtenAll (front ++ tokens) = before ++ writtenAll tokens := by
  induction front with
  | nil => exact ⟨[], rfl⟩
  | cons token front ih =>
    obtain ⟨before, hbefore⟩ := ih
    obtain ⟨gap, hgap⟩ := writtenAll_cons token (front ++ tokens)
    refine ⟨token.written ++ gap ++ before, ?_⟩
    rw [List.cons_append, hgap, hbefore, ← List.append_assoc]

/-- What stands in the braces at the end of tokens is written there. -/
theorem exists_writtenAll_braces (front inside : List Token) (hne : inside ≠ []) :
    ∃ before, writtenAll (front ++ [braces inside]) = before ++ writtenAll inside ++ [' ', '}'] := by
  obtain ⟨before, hbefore⟩ := exists_writtenAll_append front [braces inside]
  obtain ⟨first, rest, rfl⟩ := List.exists_cons_of_ne_nil hne
  refine ⟨before ++ ['{', ' '], ?_⟩
  rw [hbefore, writtenAll, braces, written]
  simp only [List.append_assoc, List.cons_append, List.nil_append]

end Source.Token

/-! ## The query -/

/-- The declaration of the query, up to the literal. -/
def queryFront : List Token :=
  [Token.word "const", Token.word "SQL", Token.mark ':', Token.mark '&'] ++ Token.lifetime "static" ++
    [Token.word "str", Token.mark '=']

/-- The tokens end with an implementation that declares the query with a literal, and where this literal stands in their text
it is read as one token. -/
structure ShowsQuery (literal : String) (tokens : List Token) : Prop where
  declared : ∃ front inside later, tokens = front ++ [Token.braces (inside ++ queryFront ++
    .literal literal :: Token.mark ';' :: later)]
  read : ∃ before after, (Token.text tokens).toList =
      before ++ "const SQL : & 'static str = ".toList ++ literal.toList ++ after ∧
    Source.leafAt (literal.toList ++ after) = some (.tokens [.literal literal], after)

theorem writtenAll_queryFront (literal : String) (later : List Token) :
    ∃ after, Token.writtenAll (queryFront ++ .literal literal :: Token.mark ';' :: later) =
      "const SQL : & 'static str = ".toList ++ literal.toList ++ ' ' :: after := by
  obtain ⟨gap, hgap⟩ := Token.writtenAll_cons (Token.mark ';') later
  refine ⟨';' :: (gap ++ Token.writtenAll later), ?_⟩
  have hliteral : Token.writtenAll (.literal literal :: Token.mark ';' :: later) =
      literal.toList ++ ' ' :: ';' :: (gap ++ Token.writtenAll later) := by
    rw [Token.writtenAll, hgap]
    simp [Token.written, Token.isJoint, Token.mark]
  change "const SQL : & 'static str = ".toList ++ Token.writtenAll (.literal literal :: Token.mark ';' :: later) = _
  rw [hliteral, List.append_assoc]

theorem showsQuery_of_declared (sql : String) (front inside later : List Token) :
    ShowsQuery (encode sql) (front ++ [Token.braces (inside ++ queryFront ++
      .literal (encode sql) :: Token.mark ';' :: later)]) := by
  refine ⟨⟨front, inside, later, rfl⟩, ?_⟩
  obtain ⟨before, hbefore⟩ := Token.exists_writtenAll_braces front
    (inside ++ queryFront ++ .literal (encode sql) :: Token.mark ';' :: later) (by simp)
  obtain ⟨middle, hmiddle⟩ := Token.exists_writtenAll_append inside
    (queryFront ++ .literal (encode sql) :: Token.mark ';' :: later)
  obtain ⟨after, hafter⟩ := writtenAll_queryFront (encode sql) later
  refine ⟨before ++ middle, ' ' :: after ++ [' ', '}'], ?_, ?_⟩
  · rw [Token.text, String.toList_ofList, hbefore, List.append_assoc inside, hmiddle, hafter]
    simp only [List.append_assoc]
  · have hblank : ∀ c, (' ' :: after ++ [' ', '}']).head? = some c → Text.isIdentifierStart c = false := by
      intro c hc
      rw [List.cons_append, List.head?_cons] at hc
      rw [← Option.some.inj hc]
      decide
    have hleaf := (passes_encodeBody sql.toList).spells.leafAt (' ' :: after ++ [' ', '}']) hblank
    rwa [Source.StringLiteral.encode_eq_between, String.toList_ofList]

theorem exists_conformance (declarations : Declarations) : ∃ front inside later, declarations.conformance =
    front ++ [Token.braces (inside ++ queryFront ++ .literal (encode declarations.sql) :: Token.mark ';' :: later)] := by
  refine ⟨Token.hashBrackets [Token.word "automatically_derived"] ++ Token.word "impl" ::
      ((declarations.target.library.join ["PreparedStatement"]).tokens ++
        [Token.word "for", .ident declarations.target.host]),
    [Token.word "type", Token.word "Row", Token.mark '=', .ident declarations.target.row, Token.mark ';'],
    declarations.bindingsTokens ++ declarations.decodeTokens, ?_⟩
  simp only [Declarations.conformance, Declarations.sqlLiteral, queryFront, List.append_assoc, List.cons_append,
    List.nil_append]

/-! ## Literals are read back -/

/-- The literal is one token, its value is the text, and it is quotes around what spells the text, without a suffix. -/
structure IsLiteralOf (literal text : String) : Prop where
  token : Source.tokens? literal = some [.literal literal]
  value : Source.StringLiteral.value? literal = some text
  spelled : ∃ inside, literal.toList = between inside ∧ Spells inside text.toList

theorem encode_isLiteralOf (text : String) : IsLiteralOf (encode text) text := by
  have hspells := (passes_encodeBody text.toList).spells
  exact ⟨hspells.tokens?, Source.StringLiteral.value?_encode text, encodeBody text.toList, String.toList_ofList, hspells⟩

/-- A text is written as a literal that is read back as the text.  So the query that is emitted is that of the template, and
the template that is expanded for a statement of a manifest is the one that the manifest has. -/
theorem literals_read_back :
    (∀ text : String, IsLiteralOf (encode text) text) ∧
    (∀ item template options tokens, expand item template options = .ok tokens →
      ∃ model literal, compile template = .ok model ∧ ShowsQuery literal tokens ∧ IsLiteralOf literal model.sql) ∧
    ∀ (generator : Generator) (named : NamedStatement), ∃ template,
      Source.StringLiteral.value? (encode named.statement.sql) = some template ∧ template = named.statement.sql ∧
      generator.expandStatement named =
        expandItem (.struct (generator.host named)) template (generator.options named) := by
  refine ⟨encode_isLiteralOf, ?_, ?_⟩
  · intro item template options tokens h
    obtain ⟨host, expansion, -, hexpand, rfl⟩ := exists_expansion_of_expand item template options tokens h
    obtain ⟨model, hcompile, -, -, -, hdeclarations, -⟩ := (expandHost_eq_ok_iff host template options expansion).1 hexpand
    obtain ⟨front, inside, later, hconformance⟩ := exists_conformance expansion.declarations
    have hsql : expansion.declarations.sql = model.sql := by rw [hdeclarations, declarationsOf]
    refine ⟨model, encode model.sql, hcompile, ?_, encode_isLiteralOf model.sql⟩
    rw [Expansion.tokens, hconformance, hsql, ← List.append_assoc]
    exact showsQuery_of_declared model.sql _ inside later
  · intro generator named
    exact ⟨named.statement.sql, (encode_isLiteralOf _).value, rfl, rfl⟩

/-- A text with a NUL that comes before a digit, a quote, a backslash, a soft hyphen and a return. -/
def awkwardText : String := "'\x00\x37 \"\\ \u00ad' = {bind: id, i32}\r\n"

theorem literals_read_back_awkward :
    ∃ tokens, expand (.struct constrained) awkwardText ⟨usualLibrary, none⟩ = .ok tokens ∧
      ∃ literal, ShowsQuery literal tokens ∧ IsLiteralOf literal "'\x00\x37 \"\\ \u00ad' = $1\r\n" := by
  have hmodel : compile awkwardText =
      .ok ⟨"'\x00\x37 \"\\ \u00ad' = $1\r\n", [], [⟨"id", ⟨"i32", .int32, false⟩, ⟨13, 28⟩⟩]⟩ :=
    (compile_ofList _).trans (by decide +kernel)
  obtain ⟨tokens, htokens⟩ : ∃ tokens, expand (.struct constrained) awkwardText ⟨usualLibrary, none⟩ = .ok tokens :=
    ⟨_, (expand_of_compile rfl hmodel _).trans rfl⟩
  obtain ⟨-, hexpand, -⟩ := literals_read_back
  obtain ⟨model, literal, hcompile, hshows, hliteral⟩ := hexpand _ _ _ tokens htokens
  rw [hmodel] at hcompile
  obtain rfl := Except.ok.inj hcompile
  exact ⟨tokens, htokens, literal, hshows, hliteral⟩

end TypedStatement
