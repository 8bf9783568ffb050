import TypedStatement.TypeRef
import TypedStatement.Proofs.Source.NamedType
import TypedStatement.Proofs.Source.Names
import Mathlib.Data.List.Infix

/-!
# The types that templates accept

A text spells a type in one of two ways (`SpellsType`), whatever its spacing: as a registered spelling, or as `Option` around
one.  The grammar knows many more types, and all of them are refused (`parse_eq_some_iff`).
-/

namespace TypedStatement
set_option autoImplicit false

open Source

/-! ## Registered spellings -/

namespace Scalar

theorem mem_registry_of_lookup {spelling : String} {scalar : Scalar} (h : lookup spelling = some scalar) :
    (spelling, scalar) ∈ registry := by
  obtain ⟨⟨found, value⟩, hfound, rfl⟩ := Option.map_eq_some_iff.1 h
  have hsame := List.find?_some hfound
  dsimp only at hsame ⊢
  rw [← beq_iff_eq.1 hsame]
  exact List.mem_of_find?_eq_some hfound

theorem lookup_of_mem_registry {spelling : String} {scalar : Scalar} (h : (spelling, scalar) ∈ registry) :
    lookup spelling = some scalar := by
  have hall : ∀ entry ∈ registry, lookup entry.1 = some entry.2 := by decide
  exact hall _ h

/-- No spelling begins like a raw identifier. -/
theorem head?_of_lookup {spelling : String} {scalar : Scalar} (h : lookup spelling = some scalar) :
    spelling.toList.head? ≠ some 'r' := by
  have hall : ∀ entry ∈ registry, entry.1.toList.head? ≠ some 'r' := by decide
  exact hall _ (mem_registry_of_lookup h)

theorem isAsciiName_of_lookup {spelling : String} {scalar : Scalar} (h : lookup spelling = some scalar) :
    Text.isAsciiName spelling.toList = true := by
  have hall : ∀ entry ∈ registry, Text.isAsciiName entry.1.toList = true := by decide
  exact hall _ (mem_registry_of_lookup h)

theorem isUsable_of_lookup {spelling : String} {scalar : Scalar} (h : lookup spelling = some scalar) :
    (Ident.plain spelling).isUsable = true := by
  have hall : ∀ entry ∈ registry, (Ident.plain entry.1).isUsable = true := by decide
  exact hall _ (mem_registry_of_lookup h)

end Scalar

theorem Source.Ident.eq_plain_of_head? (name : Ident) (h : name.text.toList.head? ≠ some 'r') :
    name = .plain name.text := by
  obtain ⟨name, raw⟩ := name
  cases raw with
  | false => rfl
  | true =>
    refine absurd ?_ h
    rw [Ident.text, if_pos rfl, String.toList_append]
    rfl

namespace TypeRef

/-! ## Spelled types -/

/-- The symbols of a type and the type: a registered spelling, or `Option` around one.  Path separators may stand in front of
`Option` and after it, and a comma after the spelling. -/
inductive SpellsType : List Symbol → TypeRef → Prop
  | plain {name : String} {scalar : Scalar} : Scalar.lookup name = some scalar →
    SpellsType [.word (.plain name)] ⟨name, scalar, false⟩
  | option {name : String} {scalar : Scalar} (leading turbofish trailing : Bool) : Scalar.lookup name = some scalar →
    SpellsType (Symbol.separator.when leading ++ .word (.plain "Option") ::
      (Symbol.separator.when turbofish ++ .mark '<' :: .word (.plain name) ::
        ((Symbol.mark ',').when trailing ++ [.mark '>']))) ⟨name, scalar, true⟩

theorem ofSpelling?_eq_some_iff (optional : Bool) (spelling : String) (type : TypeRef) :
    ofSpelling? optional spelling = some type ↔
      ∃ scalar, Scalar.lookup spelling = some scalar ∧ type = ⟨spelling, scalar, optional⟩ := by
  rw [ofSpelling?, Option.map_eq_some_iff]
  simp only [eq_comm]

theorem ofType_eq_ok_iff (text : String) (shape : Shape) :
    Shape.ofType text = .ok shape ↔ ∃ tokens, tokens? text = some tokens ∧ ∃ reading,
      (Grammar.rules (8 * Token.countAll tokens + 16) (.type true)).run tokens = .ok (reading, []) ∧
        reading.shape = shape := by
  unfold Shape.ofType Reader.parse
  cases htokens : tokens? text with
  | none => simp
  | some tokens =>
    simp only [Option.some.injEq, exists_eq_left']
    rw [Reader.all_eq_ok_iff, Reader.run_withRules, Reader.run_bind_eq_ok_iff]
    constructor
    · rintro ⟨reading, later, hrun, hshape⟩
      obtain ⟨rfl, rfl⟩ := Prod.mk.inj (Except.ok.inj hshape)
      exact ⟨reading, hrun, rfl⟩
    · rintro ⟨reading, hrun, rfl⟩
      exact ⟨reading, [], hrun, rfl⟩

/-- The shape of `Option` around a name. -/
theorem optionArgument?_eq_some (shape : Shape) (argument : Ident) (h : optionArgument? shape = some argument) :
    ∃ leading arguments, shape = .path ⟨leading, [⟨.plain "Option", some arguments⟩]⟩ ∧
      arguments.soleName = some argument := by
  unfold optionArgument? at h
  split at h
  · rename_i leading name arguments
    split at h
    · rename_i hname
      have hplain := name.eq_plain_of_head? (by rw [hname]; decide)
      rw [hname] at hplain
      exact ⟨leading, arguments, by rw [hplain], h⟩
    · exact absurd h (by simp)
  · exact absurd h (by simp)

/-- What was read as a type that is resolved spells this type. -/
theorem spellsType_of_run {depth : Nat} {tokens : List Token} {reading : Reading} {type : TypeRef}
    (hrun : (Grammar.rules (depth + 1) (.type true)).run tokens = .ok (reading, []))
    (h : ofShape? reading.shape = some type) : SpellsType (symbols tokens) type := by
  unfold ofShape? at h
  split at h
  · rename_i argument hargument
    obtain ⟨scalar, hscalar, rfl⟩ := (ofSpelling?_eq_some_iff _ _ _).1 h
    obtain ⟨leading, arguments, happlied, hsole⟩ := optionArgument?_eq_some reading.shape argument hargument
    obtain ⟨turbofish, trailing, hsymbols⟩ := Grammar.symbols_of_run_applied hrun happlied hsole
    -- names are looked up as they are written, so a raw one would begin with `r`
    rw [hsymbols, argument.eq_plain_of_head? (Scalar.head?_of_lookup hscalar)]
    exact .option leading turbofish trailing hscalar
  · obtain ⟨name, hname, hspelling⟩ := Option.bind_eq_some_iff.1 h
    obtain ⟨scalar, hscalar, rfl⟩ := (ofSpelling?_eq_some_iff _ _ _).1 hspelling
    rw [Grammar.eq_cons_of_run_rules hrun hname, name.eq_plain_of_head? (Scalar.head?_of_lookup hscalar)]
    exact .plain hscalar

/-- What spells a type is read, up to its end, and resolved as this type. -/
theorem SpellsType.exists_run {tokens : List Token} {type : TypeRef} (h : SpellsType (symbols tokens) type) (depth : Nat) :
    ∃ reading, (Grammar.rules (depth + 2) (.type true)).run tokens = .ok (reading, []) ∧
      ofShape? reading.shape = some type := by
  generalize hsymbols : symbols tokens = spelled at h
  cases h with
  | @plain name scalar hscalar =>
    obtain ⟨rest, rfl, hrest⟩ := eq_cons_of_symbols_word tokens _ _ hsymbols
    obtain rfl := eq_nil_of_symbols rest hrest
    exact ⟨_, Grammar.run_name _ (Scalar.isUsable_of_lookup hscalar) (.inl rfl),
      (ofSpelling?_eq_some_iff _ _ _).2 ⟨scalar, hscalar, rfl⟩⟩
  | @option name scalar leading turbofish trailing hscalar =>
    obtain ⟨reading, arguments, hrun, hreading, hsole⟩ := Grammar.exists_run_applied (by decide)
      (Scalar.isUsable_of_lookup hscalar) depth hsymbols
    refine ⟨reading, hrun, ?_⟩
    rw [hreading, ofShape?, optionArgument?, if_pos (by decide), hsole]
    exact (ofSpelling?_eq_some_iff _ _ _).2 ⟨scalar, hscalar, rfl⟩

/-- A text is a type exactly if its tokens spell one. -/
theorem parse_eq_some_iff (text : String) (type : TypeRef) :
    parse text = some type ↔ ∃ tokens, tokens? text = some tokens ∧ SpellsType (symbols tokens) type := by
  constructor
  · intro h
    unfold parse at h
    split at h
    · rename_i shape hshape
      obtain ⟨tokens, htokens, reading, hrun, rfl⟩ := (ofType_eq_ok_iff text shape).1 hshape
      exact ⟨tokens, htokens, spellsType_of_run hrun h⟩
    · exact absurd h (by simp)
  · rintro ⟨tokens, htokens, h⟩
    obtain ⟨reading, hrun, hshape⟩ := h.exists_run (8 * Token.countAll tokens + 14)
    rw [parse, (ofType_eq_ok_iff text _).2 ⟨tokens, htokens, reading, hrun, rfl⟩]
    exact hshape

/-- Symbols that no accepted type has: a literal, a bracket, another mark than those of `Option`, and a word that is raw or not
registered. -/
inductive IsForeign : Symbol → Prop
  | literal (text : String) : IsForeign (.literal text)
  | group (delimiter : Delimiter) : IsForeign (.group delimiter)
  | mark (c : Char) : c ∉ ['<', ',', '>'] → IsForeign (.mark c)
  | raw (name : String) : IsForeign (.word ⟨name, true⟩)
  | unregistered (name : String) : name ≠ "Option" → Scalar.lookup name = none → IsForeign (.word (.plain name))

/-- Symbols of a type that is refused: one of them is foreign, `Option` is named again, or a separator has a name in front of
it or another name than `Option` behind it. -/
inductive IsRefused (spelled : List Symbol) : Prop
  | foreign (symbol : Symbol) : symbol ∈ spelled → IsForeign symbol → IsRefused spelled
  | nested : 1 < spelled.count (.word (.plain "Option")) → IsRefused spelled
  | qualified (name other : Ident) : [.word name, .separator, .word other] <:+: spelled → IsRefused spelled
  | rooted (name : Ident) : name ≠ .plain "Option" → [.separator, .word name] <:+: spelled → IsRefused spelled

/-- The symbols of a registered spelling, alone and as the argument of `Option`. -/
theorem symbols_display {name : String} {scalar : Scalar} (h : Scalar.lookup name = some scalar) :
    (∃ tokens, tokens? (display ⟨name, scalar, false⟩) = some tokens ∧ symbols tokens = [.word (.plain name)]) ∧
    ∃ tokens, tokens? (display ⟨name, scalar, true⟩) = some tokens ∧
      symbols tokens = [.word (.plain "Option"), .mark '<', .word (.plain name), .mark '>'] := by
  have hname := Scalar.isAsciiName_of_lookup h
  have htext : (display ⟨name, scalar, true⟩).toList = "Option".toList ++ '<' :: (name.toList ++ ['>']) := by
    rw [display, if_pos rfl, String.toList_append, String.toList_append, List.append_assoc]
    rfl
  exact ⟨⟨_, tokens?_name hname, rfl⟩, _, tokens?_applied (by decide) hname htext, rfl⟩

/-- A type is parsed again from how it is shown. -/
theorem parse_display {name : String} {scalar : Scalar} (h : Scalar.lookup name = some scalar) (optional : Bool) :
    parse (display ⟨name, scalar, optional⟩) = some ⟨name, scalar, optional⟩ := by
  obtain ⟨⟨plain, hplain, hname⟩, shown, hshown, hoption⟩ := symbols_display h
  rw [parse_eq_some_iff]
  cases optional with
  | false => exact ⟨plain, hplain, hname ▸ .plain h⟩
  | true => exact ⟨shown, hshown, hoption ▸ .option false false false h⟩

end TypeRef
end TypedStatement
