import Mathlib.Data.List.Nodup
import TypedStatement.Proofs.Declarations.Fields
import TypedStatement.Proofs.Expansion.FirstProblem

/-!
# The host of an expansion

When an item is expanded, it is a struct, and what is emitted begins with it: nothing about it is changed but that it gets a
field for each parameter of the template, in order, after those that it has (`AttachesTo`).

That the names of all fields are different rests on three facts: the parameters have different names, their identifiers are
those of their names, and no name is that of a field the host has.
-/

namespace TypedStatement
set_option autoImplicit false

open Source (Host HostField Ident Item Path Token)

/-! ## Expansions -/

theorem find?_clash_eq_none_iff (names : List String) (binds : List Bind) :
    clash? names binds = none ↔ ∀ bind ∈ binds, bind.name ∉ names := by
  simp [clash?, List.find?_eq_none, List.contains_eq_mem]

/-- A template is attached to a host exactly if it is compiled, its columns and parameters can have fields, and no parameter
has the name of a field of the host. -/
theorem expandHost_eq_ok_iff (host : Host) (template : String) (options : ExpandOptions) (expansion : Expansion) :
    expandHost host template options = .ok expansion ↔ ∃ model, compile template = .ok model ∧
      Grantable [] (model.columns.map Column.fieldRequest) ∧ Grantable [] (model.binds.map Bind.fieldRequest) ∧
      (∀ bind ∈ model.binds, bind.name ∉ host.fieldNames) ∧
      expansion.declarations =
        declarationsOf (.ofHost host.name host.visibility options.library options.row) model ∧
      expansion.host = host.attach expansion.declarations.hostFields := by
  constructor
  · intro h
    unfold expandHost at h
    split at h
    · exact absurd h (by simp)
    · rename_i model hcompile
      split at h
      · exact absurd h (by simp)
      · rename_i declarations hemit
        obtain ⟨hcolumns, hbinds, rfl⟩ := (emit_eq_ok_iff model _ declarations).1 hemit
        split at h
        · exact absurd h (by simp)
        · rename_i hclash
          rw [find?_clash_eq_none_iff] at hclash
          rw [← Except.ok.inj h]
          exact ⟨model, hcompile, hcolumns, hbinds, hclash, rfl, rfl⟩
  · rintro ⟨model, hcompile, hcolumns, hbinds, hfree, hdeclarations, hhost⟩
    obtain ⟨attached, declarations⟩ := expansion
    dsimp only at hdeclarations hhost
    rw [hhost, hdeclarations]
    simp only [expandHost_of_compile hcompile, expandModel, (emit_eq_ok_iff model _ _).2 ⟨hcolumns, hbinds, rfl⟩,
      (find?_clash_eq_none_iff _ _).2 hfree]

theorem exists_expansion_of_expand (item : Item) (template : String) (options : ExpandOptions) (tokens : List Token)
    (h : expand item template options = .ok tokens) : ∃ host expansion, acceptableHost item = .ok host ∧
      expandHost host template options = .ok expansion ∧ tokens = expansion.tokens := by
  unfold expand expandItem at h
  cases haccept : acceptableHost item with
  | error error =>
    rw [haccept] at h
    exact absurd h (by simp)
  | ok host =>
    rw [haccept] at h
    dsimp only at h
    cases hexpand : expandHost host template options with
    | error error =>
      rw [hexpand] at h
      exact absurd h (by simp)
    | ok expansion =>
      rw [hexpand] at h
      exact ⟨host, expansion, rfl, hexpand, (Except.ok.inj h).symm⟩

/-! ## Attaching fields -/

section
variable (host : Host)

theorem attach_nil : host.attach [] = host := rfl

/-- Only the fields of the host change. -/
theorem attach_eq (fields : List HostField) :
    host.attach fields = { host with fields := (host.attach fields).fields } := by
  obtain ⟨attributes, visibility, name, parameters, constraints, present⟩ := host
  cases fields with
  | nil => rfl
  | cons first rest => cases present <;> rfl

end

/-! ## Fields for parameters -/

/-- A unit struct with an attribute and a `where` clause. -/
def constrained : Host :=
  ⟨Token.hashBrackets [Token.word "must_use"], .pub, .plain "Users", [],
    [Token.word "where", Token.word "u8", Token.mark ':', Token.word "Copy"], .unit⟩

end TypedStatement
