import TypedStatement.Source.Path

/-!
# Scalar types

The types that columns and parameters can have: each has one or more registered spellings in templates, and one
type in emitted declarations.
-/

namespace TypedStatement
set_option autoImplicit false

open Source (Path TypeExpr)

inductive Scalar where
  | bool
  | int16
  | int32
  | int64
  | float32
  | float64
  | text
  | bytes
  | uuid
  | json
  | date
  | time
  | timestamp
  | timestampTz
  deriving DecidableEq

namespace Scalar

/-- The registered spellings.  The first one of a scalar is its own name. -/
def registry : List (String × Scalar) :=
  [("bool", .bool), ("Bool", .bool),
   ("i16", .int16), ("Int16", .int16),
   ("i32", .int32), ("Int32", .int32),
   ("i64", .int64), ("Int64", .int64), ("Int", .int64),
   ("f32", .float32), ("Float", .float32),
   ("f64", .float64), ("Double", .float64),
   ("String", .text),
   ("Bytes", .bytes),
   ("Uuid", .uuid), ("UUID", .uuid),
   ("Json", .json), ("JsonValue", .json),
   ("Date", .date), ("NaiveDate", .date),
   ("Time", .time), ("NaiveTime", .time),
   ("Timestamp", .timestamp), ("NaiveDateTime", .timestamp),
   ("TimestampTz", .timestampTz), ("DateTime", .timestampTz)]

def lookup (spelling : String) : Option Scalar :=
  (registry.find? (·.1 == spelling)).map (·.2)

/-- The spellings registered for a scalar, the first one first. -/
def spellings (scalar : Scalar) : List String :=
  (registry.filter (·.2 == scalar)).map (·.1)

/-- The name of the scalar in traces. -/
def label : Scalar → String
  | .bool => "Bool"
  | .int16 => "Int16"
  | .int32 => "Int32"
  | .int64 => "Int64"
  | .float32 => "Float32"
  | .float64 => "Float64"
  | .text => "Text"
  | .bytes => "Bytes"
  | .uuid => "Uuid"
  | .json => "Json"
  | .date => "Date"
  | .time => "Time"
  | .timestamp => "Timestamp"
  | .timestampTz => "TimestampTz"

/-- The type in emitted declarations; `library` is the path of the crate that the declarations use at run time. -/
def typeExpr (library : Path) : Scalar → TypeExpr
  | .bool => .named (.ofNames false ["bool"])
  | .int16 => .named (.ofNames false ["i16"])
  | .int32 => .named (.ofNames false ["i32"])
  | .int64 => .named (.ofNames false ["i64"])
  | .float32 => .named (.ofNames false ["f32"])
  | .float64 => .named (.ofNames false ["f64"])
  | .text => .named (.ofNames true ["std", "string", "String"])
  | .bytes => .apply (.ofNames true ["std", "vec", "Vec"]) [.named (.ofNames false ["u8"])]
  | .uuid => .named (library.join ["sqlx", "types", "Uuid"])
  | .json => .named (library.join ["sqlx", "types", "JsonValue"])
  | .date => .named (library.join ["sqlx", "types", "chrono", "NaiveDate"])
  | .time => .named (library.join ["sqlx", "types", "chrono", "NaiveTime"])
  | .timestamp => .named (library.join ["sqlx", "types", "chrono", "NaiveDateTime"])
  | .timestampTz =>
    .apply (library.join ["sqlx", "types", "chrono", "DateTime"])
      [.named (library.join ["sqlx", "types", "chrono", "Utc"])]

end Scalar
end TypedStatement
