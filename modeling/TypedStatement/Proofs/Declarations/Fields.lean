import TypedStatement.Declarations
import TypedStatement.Proofs.FirstFault
import TypedStatement.Proofs.Result

/-!
# The fields of declarations

Fields are had for a list of requests exactly if every name can be that of a field and no two fields, nor a field and
one that is taken, are the same.  They are then the fields that the names and types of the requests say, in order
(`ofRequests_eq_ok_iff`).  A compiled statement is declared exactly if its columns can have fields in the row and its
parameters can have fields in the host (`emit_eq_ok_iff`).
-/

namespace TypedStatement
set_option autoImplicit false

open Source (Ident)

/-! ## What is free -/

section
variable {α : Type}

/-- The names are all different, and none is taken. -/
structure AreFree (taken names : List α) : Prop where
  distinct : names.Nodup
  free : ∀ name ∈ names, name ∉ taken

theorem areFree_nil (taken : List α) : AreFree taken [] :=
  ⟨List.nodup_nil, by simp⟩

theorem areFree_cons_iff (taken : List α) (name : α) (names : List α) :
    AreFree taken (name :: names) ↔ name ∉ taken ∧ AreFree (name :: taken) names := by
  constructor
  · intro h
    obtain ⟨hname, hdistinct⟩ := List.nodup_cons.1 h.distinct
    obtain ⟨htaken, hfree⟩ := List.forall_mem_cons.1 h.free
    refine ⟨htaken, hdistinct, ?_⟩
    intro other hother hmem
    rcases List.mem_cons.1 hmem with rfl | hmem
    · exact hname hother
    · exact hfree other hother hmem
  · rintro ⟨htaken, h⟩
    refine ⟨List.nodup_cons.2 ⟨?_, h.distinct⟩, List.forall_mem_cons.2 ⟨htaken, ?_⟩⟩
    · exact fun hname => h.free name hname List.mem_cons_self
    · exact fun other hother hmem => h.free other hother (List.mem_cons_of_mem _ hmem)

theorem areFree_append_iff (taken names later : List α) :
    AreFree taken (names ++ later) ↔ AreFree taken names ∧ AreFree (names.reverse ++ taken) later := by
  induction names generalizing taken with
  | nil => simp [areFree_nil]
  | cons name names ih => simp [areFree_cons_iff, ih, and_assoc]

end

/-! ## Fields -/

/-- The identifier of the field with a name that can be one. -/
def fieldIdent (name : String) : Ident :=
  ⟨name, !(Ident.plain name).isUsable⟩

theorem fieldIdent?_of_isFieldName (name : String) (h : isFieldName name = true) :
    fieldIdent? name = some (fieldIdent name) := by
  rw [fieldIdent?, if_pos h, fieldIdent]

theorem fieldIdent?_eq_none (name : String) (h : ¬ isFieldName name = true) : fieldIdent? name = none := by
  rw [fieldIdent?, if_neg h]

namespace FieldRequest

def ident (request : FieldRequest) : Ident :=
  fieldIdent request.name

def field (request : FieldRequest) : Field :=
  ⟨request.ident, request.type⟩

end FieldRequest

/-- What a list of requests needs in order to get its fields. -/
structure Grantable (taken : List Ident) (requests : List FieldRequest) : Prop where
  named : ∀ request ∈ requests, isFieldName request.name = true
  distinct : (requests.map FieldRequest.ident).Nodup
  free : ∀ request ∈ requests, request.ident ∉ taken

theorem grantable_iff (taken : List Ident) (requests : List FieldRequest) :
    Grantable taken requests ↔
      (∀ request ∈ requests, isFieldName request.name = true) ∧ AreFree taken (requests.map FieldRequest.ident) := by
  constructor
  · rintro ⟨hnamed, hdistinct, hfree⟩
    exact ⟨hnamed, hdistinct, List.forall_mem_map.2 hfree⟩
  · rintro ⟨hnamed, hdistinct, hfree⟩
    exact ⟨hnamed, hdistinct, fun request hrequest => hfree _ (List.mem_map_of_mem hrequest)⟩

theorem grantable_nil (taken : List Ident) : Grantable taken [] :=
  ⟨by simp, by simp, by simp⟩

theorem grantable_cons_iff (taken : List Ident) (request : FieldRequest) (requests : List FieldRequest) :
    Grantable taken (request :: requests) ↔
      isFieldName request.name = true ∧ request.ident ∉ taken ∧ Grantable (request.ident :: taken) requests := by
  rw [grantable_iff, grantable_iff, List.forall_mem_cons, List.map_cons, areFree_cons_iff]
  constructor
  · rintro ⟨⟨hname, hnamed⟩, hfree, hrest⟩
    exact ⟨hname, hfree, hnamed, hrest⟩
  · rintro ⟨hname, hfree, hnamed, hrest⟩
    exact ⟨⟨hname, hnamed⟩, hfree, hrest⟩

/-- Requests get their fields exactly if they can have them, and then each gets the one it asks for. -/
theorem ofRequests_eq_ok_iff (kind : HoleKind) (taken : List Ident) (requests : List FieldRequest)
    (fields : List Field) :
    Field.ofRequests kind taken requests = .ok fields ↔
      Grantable taken requests ∧ fields = requests.map FieldRequest.field := by
  induction requests generalizing taken fields with
  | nil =>
    rw [Field.ofRequests, Except.ok.injEq, List.map_nil]
    exact ⟨fun h => ⟨grantable_nil taken, h.symm⟩, fun h => h.2.symm⟩
  | cons request requests ih =>
    rw [grantable_cons_iff, Field.ofRequests]
    by_cases hname : isFieldName request.name = true
    · rw [fieldIdent?_of_isFieldName _ hname]
      change (if request.ident ∈ taken then _ else
        (Field.ofRequests kind (request.ident :: taken) requests).map (request.field :: ·)) = _ ↔ _
      by_cases htaken : request.ident ∈ taken
      · simp [htaken]
      · rw [if_neg htaken, map_eq_ok_iff]
        constructor
        · rintro ⟨rest, hrest, rfl⟩
          obtain ⟨hgrant, rfl⟩ := (ih (request.ident :: taken) rest).1 hrest
          exact ⟨⟨hname, htaken, hgrant⟩, rfl⟩
        · rintro ⟨⟨-, -, hgrant⟩, rfl⟩
          exact ⟨_, (ih (request.ident :: taken) _).2 ⟨hgrant, rfl⟩, rfl⟩
    · rw [fieldIdent?_eq_none _ hname]
      simp [hname]

/-! ## Requests that are refused -/

theorem fieldIdent_inj (a b : String) : fieldIdent a = fieldIdent b ↔ a = b :=
  ⟨fun h => congrArg Ident.name h, fun h => congrArg fieldIdent h⟩

theorem ident_mem_map_iff (request : FieldRequest) (requests : List FieldRequest) :
    request.ident ∈ requests.map FieldRequest.ident ↔ request.name ∈ requests.map FieldRequest.name := by
  simp only [List.mem_map, FieldRequest.ident, fieldIdent_inj]

/-- What is wrong with a request after others: its name cannot be that of a field, or it repeats one of theirs. -/
inductive RequestFault (kind : HoleKind) (before : List FieldRequest) (request : FieldRequest) :
    StatementError → Prop
  | invalid : ¬ isFieldName request.name = true →
    RequestFault kind before request (.invalidFieldName request.name kind request.range)
  | repeated : isFieldName request.name = true → request.name ∈ before.map FieldRequest.name →
    RequestFault kind before request (.duplicateField request.name kind (some request.range))

section
variable (kind : HoleKind) (before : List FieldRequest) (request : FieldRequest)

theorem requestFault_of_invalid (h : ¬ isFieldName request.name = true) (error : StatementError) :
    RequestFault kind before request error ↔ error = .invalidFieldName request.name kind request.range := by
  constructor
  · rintro (_ | ⟨hvalid, _⟩)
    · rfl
    · exact absurd hvalid h
  · rintro rfl
    exact .invalid h

theorem requestFault_of_repeated (hname : isFieldName request.name = true)
    (h : request.name ∈ before.map FieldRequest.name) (error : StatementError) :
    RequestFault kind before request error ↔ error = .duplicateField request.name kind (some request.range) := by
  constructor
  · rintro (hinvalid | _)
    · exact absurd hname hinvalid
    · rfl
  · rintro rfl
    exact .repeated hname h

theorem not_requestFault (hname : isFieldName request.name = true)
    (h : request.name ∉ before.map FieldRequest.name) (error : StatementError) :
    ¬ RequestFault kind before request error := by
  rintro (hinvalid | ⟨_, hrepeated⟩)
  · exact hinvalid hname
  · exact h hrepeated

end

/-- The first request with a fault is reported. -/
theorem ofRequests_eq_error_iff (kind : HoleKind) (before requests : List FieldRequest) (error : StatementError) :
    Field.ofRequests kind (before.map FieldRequest.ident).reverse requests = .error error ↔
      FirstFault (fun front => RequestFault kind (before ++ front)) requests error := by
  induction requests generalizing before with
  | nil => simp [Field.ofRequests, firstFault_nil]
  | cons request requests ih =>
    have hfront : RequestFault kind (before ++ []) request = RequestFault kind before request := by
      rw [List.append_nil]
    have htaken : request.ident ∈ (before.map FieldRequest.ident).reverse ↔
        request.name ∈ before.map FieldRequest.name := by
      rw [List.mem_reverse, ident_mem_map_iff]
    rw [Field.ofRequests]
    by_cases hname : isFieldName request.name = true
    · rw [fieldIdent?_of_isFieldName _ hname]
      change (if request.ident ∈ (before.map FieldRequest.ident).reverse then _ else
        (Field.ofRequests kind (request.ident :: (before.map FieldRequest.ident).reverse) requests).map
          (request.field :: ·)) = _ ↔ _
      by_cases hrepeated : request.name ∈ before.map FieldRequest.name
      · have hunique := requestFault_of_repeated kind before request hname hrepeated
        rw [← hfront] at hunique
        rw [if_pos (htaken.2 hrepeated), firstFault_cons_of_eq _ _ _ _ error hunique]
        exact error_eq_error_iff _ error
      · have hnone := not_requestFault kind before request hname hrepeated
        rw [← hfront] at hnone
        have hnext : request.ident :: (before.map FieldRequest.ident).reverse =
            ((before ++ [request]).map FieldRequest.ident).reverse := by
          simp
        have hrest := ih (before ++ [request])
        simp only [List.append_assoc, List.singleton_append] at hrest
        rw [if_neg (fun h => hrepeated (htaken.1 h)), firstFault_cons_of_not _ _ _ _ hnone, ← hrest, hnext,
          map_eq_error_iff]
    · have hunique := requestFault_of_invalid kind before request hname
      rw [← hfront] at hunique
      rw [fieldIdent?_eq_none _ hname, firstFault_cons_of_eq _ _ _ _ error hunique]
      exact error_eq_error_iff _ error

theorem ofRequests_nil_eq_error_iff (kind : HoleKind) (requests : List FieldRequest) (error : StatementError) :
    Field.ofRequests kind [] requests = .error error ↔ FirstFault (RequestFault kind) requests error :=
  ofRequests_eq_error_iff kind [] requests error

/-! ## The fields of a compiled statement -/

def Column.ident (column : Column) : Ident :=
  fieldIdent column.fieldName

def Bind.ident (bind : Bind) : Ident :=
  fieldIdent bind.name

/-- The declarations whose fields are those of the columns and the parameters. -/
def declarationsOf (target : Target) (model : Model) : Declarations where
  target := target
  sql := model.sql
  rowFields := model.columns.map fun column => ⟨column.ident, column.type⟩
  boundFields := model.binds.map fun bind => ⟨bind.ident, bind.type⟩

theorem emit_eq_ok_iff (model : Model) (target : Target) (declarations : Declarations) :
    Declarations.emit model target = .ok declarations ↔
      Grantable [] (model.columns.map Column.fieldRequest) ∧ Grantable [] (model.binds.map Bind.fieldRequest) ∧
      declarations = declarationsOf target model := by
  unfold Declarations.emit
  constructor
  · intro h
    cases hrow : Field.ofRequests .column [] (model.columns.map Column.fieldRequest) with
    | error error =>
      rw [hrow] at h
      exact absurd h (by simp)
    | ok rowFields =>
      cases hbound : Field.ofRequests .bind [] (model.binds.map Bind.fieldRequest) with
      | error error =>
        rw [hrow, hbound] at h
        exact absurd h (by simp)
      | ok boundFields =>
        rw [hrow, hbound] at h
        obtain ⟨hcolumns, rfl⟩ := (ofRequests_eq_ok_iff _ _ _ _).1 hrow
        obtain ⟨hbinds, rfl⟩ := (ofRequests_eq_ok_iff _ _ _ _).1 hbound
        refine ⟨hcolumns, hbinds, ?_⟩
        rw [← Except.ok.inj h, List.map_map, List.map_map]
        rfl
  · rintro ⟨hcolumns, hbinds, rfl⟩
    rw [(ofRequests_eq_ok_iff _ _ _ _).2 ⟨hcolumns, rfl⟩, (ofRequests_eq_ok_iff _ _ _ _).2 ⟨hbinds, rfl⟩,
      List.map_map, List.map_map]
    rfl

end TypedStatement
