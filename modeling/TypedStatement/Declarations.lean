import TypedStatement.FieldName
import TypedStatement.Model
import TypedStatement.Source.Item

/-!
# Declarations for a statement

A compiled statement is declared as a row type with a field for each column, and a host with a field for each
parameter.  The host makes the bindings of the parameters and decodes a row into the row type.

What is declared is said here as data: `rowType`, `bindingSteps`, `columnReads` and `hostFields`.  The tokens are in
`TypedStatement.Declarations.Tokens`.
-/

namespace TypedStatement
set_option autoImplicit false

open Text (ByteRange)
open Source (HostField Ident Path Token TypeExpr Visibility)

/-- What is declared, and where it belongs. -/
structure Target where
  /-- The struct that carries the statement. -/
  host : Ident
  visibility : Visibility
  /-- The name of the row type. -/
  row : Ident
  /-- The path of the crate that the declarations use at run time. -/
  library : Path

/-- The name of the row type of a host, unless another is given. -/
def usualRowName (host : Ident) : Ident :=
  .plain (host.name ++ "Row")

/-- The declarations for a host; the row type has the given name, or else the usual one. -/
def Target.ofHost (host : Ident) (visibility : Visibility) (library : Path) (row : Option Ident) : Target :=
  ⟨host, visibility, row.getD (usualRowName host), library⟩

/-! ## Fields -/

structure Field where
  ident : Ident
  type : TypeRef

/-- What is to become a field. -/
structure FieldRequest where
  name : String
  type : TypeRef
  range : ByteRange

def Column.fieldRequest (column : Column) : FieldRequest :=
  ⟨column.fieldName, column.type, column.range⟩

/-- The field that a parameter asks for. -/
def Bind.fieldRequest (bind : Bind) : FieldRequest :=
  ⟨bind.name, bind.type, bind.range⟩

/-- The fields asked for, in order, none of which may repeat another or one that is `taken`.  The first that cannot be
had is reported. -/
def Field.ofRequests (kind : HoleKind) (taken : List Ident) : List FieldRequest → Except StatementError (List Field)
  | [] => .ok []
  | request :: rest =>
    match fieldIdent? request.name with
    | none => .error (.invalidFieldName request.name kind request.range)
    | some ident =>
      if ident ∈ taken then .error (.duplicateField request.name kind (some request.range))
      else (Field.ofRequests kind (ident :: taken) rest).map (⟨ident, request.type⟩ :: ·)

/-! ## Declarations -/

structure Declarations where
  target : Target
  sql : String
  /-- A field for each column. -/
  rowFields : List Field
  /-- A field for each parameter. -/
  boundFields : List Field

/-- The type of the rows. -/
inductive RowType where
  /-- A struct with these fields. -/
  | record (fields : List (Ident × TypeExpr))
  /-- Another name for the unit type. -/
  | unit

/-- A step of making the bindings. -/
inductive BindingStep where
  /-- Makes room for a number of values. -/
  | reserve (count : Nat)
  /-- Adds the value of a field of the host. -/
  | add (field : Ident)

/-- How one field of a row is decoded. -/
structure ColumnRead where
  field : Ident
  type : TypeExpr
  index : Nat

namespace Declarations

/-- The declarations for a compiled statement, if every column and parameter can have a field of its own. -/
def emit (model : Model) (target : Target) : Except StatementError Declarations :=
  match Field.ofRequests .column [] (model.columns.map Column.fieldRequest) with
  | .error error => .error error
  | .ok rowFields =>
    match Field.ofRequests .bind [] (model.binds.map Bind.fieldRequest) with
    | .error error => .error error
    | .ok boundFields => .ok ⟨target, model.sql, rowFields, boundFields⟩

variable (declarations : Declarations)

def fieldType (field : Field) : TypeExpr :=
  field.type.typeExpr declarations.target.library

def rowType : RowType :=
  match declarations.rowFields with
  | [] => .unit
  | first :: rest => .record ((first :: rest).map fun field => (field.ident, declarations.fieldType field))

/-- The steps that make the bindings; without parameters there are none. -/
def bindingSteps : List BindingStep :=
  match declarations.boundFields with
  | [] => []
  | first :: rest => .reserve (rest.length + 1) :: (first :: rest).map fun field => .add field.ident

/-- How the fields of a row are decoded, in order. -/
def columnReads : List ColumnRead :=
  declarations.rowFields.zipIdx.map fun (field, index) => ⟨field.ident, declarations.fieldType field, index⟩

/-- Whether the name would be reported as not in lower case. -/
def hasCapital (ident : Ident) : Bool :=
  ident.name.toList.any Char.isUpper

/-- The attribute that allows such a name. -/
def allowCapitals : List Token :=
  Token.hashBrackets [Token.word "allow", Token.parens [Token.word "non_snake_case"]]

/-- The fields that the host gets, one for each parameter. -/
def hostFields : List HostField :=
  declarations.boundFields.map fun field =>
    ⟨if hasCapital field.ident then allowCapitals else [], declarations.target.visibility, field.ident,
      (declarations.fieldType field).tokens⟩

end Declarations
end TypedStatement
