import TypedStatement.Proofs.Source.Readers

/-!
# Unit structs

The tokens of a struct without fields are read as that struct, if its attributes can be read, its visibility can be
written, and its name is no keyword (`ofTokens?_unitStruct`).
-/

namespace TypedStatement.Source
set_option autoImplicit false

open Reader Grammar

/-! ## Attributes -/

/-- The inside of an attribute is read from its own tokens, at any depth at which there are rules. -/
def IsAttribute (inside : List Token) : Prop :=
  ∀ depth, (attributeContent (rules (depth + 1))).run inside = .ok (inside, [])

theorem isAttribute_doc (literal : String) : IsAttribute [Token.word "doc", Token.mark '=', .literal literal] :=
  fun _ => rfl

theorem isAttribute_derive (content : List Token) : IsAttribute [Token.word "derive", Token.parens content] :=
  fun _ => rfl

/-- What reads one attribute in front of an item. -/
def oneAttribute (table : Table) : Reader (Option (List Token)) := do
  if ← sees "#" then
    let sign ← operator "#"
    return some (sign ++ [Token.brackets (← group .bracket (attributeContent table))])
  else return none

theorem run_oneAttribute {inside : List Token} (h : IsAttribute inside) (depth : Nat) (rest : List Token) :
    (oneAttribute (rules (depth + 1))).run (Token.hashBrackets inside ++ rest) =
      .ok (some (Token.hashBrackets inside), rest) := by
  have hgroup := run_group .bracket (h depth) rest
  change (do return some (Token.operator ['#'] ++ [Token.brackets (← group .bracket _)]) : Reader _).run
    (Token.brackets inside :: rest) = _
  exact run_bind_of_ok hgroup

theorem run_oneAttribute_none (table : Table) (tokens : List Token) (h : startsWith ['#'] tokens = false) :
    (oneAttribute table).run tokens = .ok (none, tokens) := by
  have hsees : (sees "#").run tokens = .ok (false, tokens) := by
    rw [← h]
    rfl
  exact run_bind_of_ok hsees

/-- Attributes are read from their own tokens. -/
theorem run_outerAttributes (insides : List (List Token)) (h : ∀ inside ∈ insides, IsAttribute inside) (depth : Nat)
    (rest : List Token) (hrest : startsWith ['#'] rest = false) :
    (outerAttributes (rules (depth + 1))).run (insides.flatMap Token.hashBrackets ++ rest) =
      .ok (insides.flatMap Token.hashBrackets, rest) := by
  have hrepeats : Repeats (oneAttribute (rules (depth + 1))) (insides.flatMap Token.hashBrackets ++ rest)
      (insides.map Token.hashBrackets) rest := by
    induction insides with
    | nil => exact .stop (run_oneAttribute_none _ rest hrest)
    | cons inside insides ih =>
      have hfirst := run_oneAttribute (h inside List.mem_cons_self) depth (insides.flatMap Token.hashBrackets ++ rest)
      refine .step hfirst ?_ (ih fun other hother => h other (List.mem_cons_of_mem _ hother))
      simp only [List.flatMap_cons, List.length_append, Token.hashBrackets, List.length_cons]
      omega
  rw [List.flatMap_def] at hrepeats ⊢
  exact run_bind_of_ok (run_many hrepeats)

/-! ## Structs -/

theorem run_structItem (table : Table) (attributes : List Token) (visible : Visibility) (name : Ident)
    (h : name.isUsable = true) :
    (structItem table attributes visible).run [Token.word "struct", .ident name, Token.mark ';'] =
      .ok (.struct ⟨attributes, visible, name, [], [], .unit⟩, []) := by
  have hname : ident.run [.ident name, Token.mark ';'] = .ok (name, [Token.mark ';']) := by
    rw [run_ident_cons, if_pos h]
  have hkeyword : (keyword "struct").run [Token.word "struct", .ident name, Token.mark ';'] =
      .ok ([Token.word "struct"], [.ident name, Token.mark ';']) := rfl
  exact (run_bind_of_ok hkeyword).trans (run_bind_of_ok hname)

/-- After attributes and a visibility that are read, the rest of a unit struct is read as the struct. -/
theorem run_item {table : Table} {tokens attributes between : List Token} {visible : Visibility} {name : Ident}
    (hattributes : (outerAttributes table).run tokens = .ok (attributes, between))
    (hvisible : visibility.run between = .ok (visible, [Token.word "struct", .ident name, Token.mark ';']))
    (hname : name.isUsable = true) :
    (item table).run tokens = .ok (.struct ⟨attributes, visible, name, [], [], .unit⟩, []) := by
  unfold item
  rw [run_get_bind, run_bind_of_ok hattributes, run_get_bind, run_bind_of_ok hvisible]
  exact run_structItem table attributes visible name hname

theorem startsWith_hash_visibility (visible : Visibility) (rest : List Token) :
    startsWith ['#'] (visible.tokens ++ Token.word "struct" :: rest) = false := by
  cases visible <;> rfl

/-- The unit struct with these attributes. -/
def unitStruct (insides : List (List Token)) (visible : Visibility) (name : Ident) : Host :=
  ⟨insides.flatMap Token.hashBrackets, visible, name, [], [], .unit⟩

theorem unitStruct_tokens (insides : List (List Token)) (visible : Visibility) (name : Ident) :
    (unitStruct insides visible name).tokens = insides.flatMap Token.hashBrackets ++
      (visible.tokens ++ [Token.word "struct", .ident name, Token.mark ';']) :=
  List.append_assoc _ _ _

/-- A unit struct is read from its own tokens. -/
theorem ofTokens?_unitStruct (insides : List (List Token)) (visible : Visibility) (name : Ident)
    (hattributes : ∀ inside ∈ insides, IsAttribute inside) (hvisible : visible.IsWritable) (hname : name.isUsable = true) :
    Item.ofTokens? (unitStruct insides visible name).tokens = .ok (.struct (unitStruct insides visible name)) := by
  -- the depth of the rules is computed from the tokens, which must not be unfolded for it
  generalize hhost : unitStruct insides visible name = host
  have htokens := unitStruct_tokens insides visible name
  rw [hhost] at htokens
  have hfirst := run_outerAttributes insides hattributes (8 * Token.countAll host.tokens + 15) _
    (startsWith_hash_visibility visible [.ident name, Token.mark ';'])
  rw [← htokens] at hfirst
  have hitem : (item (rules (8 * Token.countAll host.tokens + 16))).run host.tokens =
      .ok (.struct (unitStruct insides visible name), []) :=
    run_item hfirst (run_visibility visible hvisible _) hname
  rw [hhost] at hitem
  exact (all_eq_ok_iff _ _ _).2 ((run_withRules _ _).trans hitem)

end TypedStatement.Source
