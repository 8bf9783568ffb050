import Mathlib.Data.List.Basic
import Mathlib.Data.List.Forall2
import TypedStatement.Proofs.Json.Reading
import TypedStatement.Report

/-!
# Lines of a report

A report for programs has one line for each failure, and what is read from a line is the failure, whatever its texts are
(`json_says_failures`).  The lines are read by a reader that passes over nothing: it keeps an entry each time its key is
written, and whole numbers of any size.
-/

namespace TypedStatement
set_option autoImplicit false

open Json (Reading)

/-- Whole numbers of any size are integers, and every entry that is written is kept. -/
def Json.Reading.exact : Reading := ⟨fun _ => true, id⟩

namespace Report

/-! ## Failures as they are said -/

/-- What stands for a value that may be missing. -/
def orNull (value : Option Datum) : Datum := value.getD (.atom .null)

/-- The entries say the failure: these are their keys, each once, and this stands at them. -/
structure SaysFailure (manifest : String) (failure : Failure) (entries : List (String × Datum)) : Prop where
  keys : entries.map Prod.fst = ["manifest", "statement", "id", "message", "severity", "range", "note", "fix_it"]
  manifest : ("manifest", .text manifest) ∈ entries
  statement : ("statement", .text failure.statement) ∈ entries
  id : ("id", .text failure.diagnostic.id.text) ∈ entries
  message : ("message", .text failure.diagnostic.message) ∈ entries
  severity : ("severity", .text failure.diagnostic.severity.word) ∈ entries
  range : ("range", orNull (failure.diagnostic.range.map fun range =>
    .table [("start", .nat range.start), ("end", .nat range.stop)])) ∈ entries
  note : ("note", orNull (failure.diagnostic.note.map .text)) ∈ entries
  fixIt : ("fix_it", orNull (failure.diagnostic.fixIt.map fun fixIt =>
    .table [("message", .text fixIt.message), ("original", .text fixIt.replaced),
      ("replacement", .text fixIt.replacement)])) ∈ entries

/-- The reader keeps the positions of the failure as integers. -/
def KeepsRange (reading : Reading) (failure : Failure) : Prop :=
  ∀ range, failure.diagnostic.range = some range →
    reading.isInteger range.start = true ∧ reading.isInteger range.stop = true

/-- The line is the failure as one JSON object. -/
structure SaidBy (manifest : String) (failure : Failure) (line : List Char) : Prop where
  unbroken : '\n' ∉ line
  read : ∃ entries, Reading.exact.read? (String.ofList line) = some (.table entries) ∧
    SaysFailure manifest failure entries
  /-- Who reads manifests reads the same, if the positions have 64 bits. -/
  plain : KeepsRange .settings failure → Json.read? (String.ofList line) = Reading.exact.read? (String.ofList line)

theorem optional_eq_orNull {α : Type} (datum : α → Datum) (value : Option α) :
    Datum.optional datum value = orNull (value.map datum) := by
  cases value <;> rfl

theorem exists_saysFailure (manifest : String) (failure : Failure) :
    ∃ entries, record manifest failure = .table entries ∧ SaysFailure manifest failure entries := by
  have hrange := optional_eq_orNull rangeDatum failure.diagnostic.range
  have hnote := optional_eq_orNull Datum.text failure.diagnostic.note
  have hfixIt := optional_eq_orNull fixItDatum failure.diagnostic.fixIt
  refine ⟨_, rfl, ?_⟩
  exact {
    keys := rfl
    manifest := by simp
    statement := by simp
    id := by simp
    message := by simp
    severity := by simp
    range := by
      simp only [hrange, List.mem_cons]
      exact .inr (.inr (.inr (.inr (.inr (.inl rfl)))))
    note := by simp [hnote]
    fixIt := by
      simp only [hfixIt, List.mem_cons]
      exact .inr (.inr (.inr (.inr (.inr (.inr (.inr (.inl rfl))))))) }

/-! ## Records that are read back -/

section
variable {reading : Reading}

theorem keeps_text (levels : Nat) (text : String) : reading.Keeps levels (.text text) :=
  (reading.keeps_atom levels _).2 trivial

theorem keeps_nat (levels n : Nat) (h : reading.isInteger n = true) : reading.Keeps levels (.nat n) :=
  (reading.keeps_atom levels _).2 h

theorem keeps_optional {α : Type} (levels : Nat) (datum : α → Datum) (value : Option α)
    (h : ∀ a, value = some a → reading.Keeps levels (datum a)) : reading.Keeps levels (.optional datum value) := by
  cases value with
  | none => exact (reading.keeps_atom levels _).2 trivial
  | some a => exact h a rfl

variable (hsettle : ∀ entries : List (String × Datum), (entries.map Prod.fst).Nodup → reading.settle entries = entries)
include hsettle

theorem keeps_rangeDatum (range : Text.ByteRange) (hstart : reading.isInteger range.start = true)
    (hstop : reading.isInteger range.stop = true) : reading.Keeps 1 (rangeDatum range) := by
  refine ⟨hsettle _ (by simp), ?_⟩
  simp only [List.forall_mem_cons]
  exact ⟨keeps_nat 0 _ hstart, keeps_nat 0 _ hstop, nofun⟩

theorem keeps_fixItDatum (fixIt : FixIt) : reading.Keeps 1 (fixItDatum fixIt) := by
  refine ⟨hsettle _ (by simp), ?_⟩
  simp only [List.forall_mem_cons]
  exact ⟨keeps_text 0 _, keeps_text 0 _, keeps_text 0 _, nofun⟩

/-- A record has two levels: itself, and its range and its repair. -/
theorem keeps_record (manifest : String) (failure : Failure) (hrange : KeepsRange reading failure) :
    reading.Keeps 2 (record manifest failure) := by
  have hplace : reading.Keeps 1 (.optional rangeDatum failure.diagnostic.range) :=
    keeps_optional 1 _ _ fun range h => keeps_rangeDatum hsettle range (hrange range h).1 (hrange range h).2
  have hnote : reading.Keeps 1 (.optional .text failure.diagnostic.note) :=
    keeps_optional 1 _ _ fun note _ => keeps_text 1 note
  have hfixIt : reading.Keeps 1 (.optional fixItDatum failure.diagnostic.fixIt) :=
    keeps_optional 1 _ _ fun fixIt _ => keeps_fixItDatum hsettle fixIt
  refine ⟨hsettle _ (by simp), ?_⟩
  simp only [List.forall_mem_cons]
  exact ⟨keeps_text 1 _, keeps_text 1 _, keeps_text 1 _, keeps_text 1 _, keeps_text 1 _, hplace, hnote, hfixIt, nofun⟩

end

theorem lastEntries_of_nodup (entries : List (String × Datum)) (h : (entries.map Prod.fst).Nodup) :
    Json.lastEntries entries = entries := by
  induction entries with
  | nil => rfl
  | cons entry entries ih =>
    rw [List.map_cons, List.nodup_cons] at h
    have hnew : (entries.any fun other => other.1 == entry.1) = false := by
      rw [List.any_eq_false]
      intro other hother hsame
      rw [← beq_iff_eq.1 hsame] at h
      exact h.1 (List.mem_map_of_mem hother)
    rw [Json.lastEntries, hnew, ih h.2]
    rfl

theorem saidBy_record (manifest : String) (failure : Failure) :
    SaidBy manifest failure (Json.chars (record manifest failure)) := by
  have hexact : Reading.exact.Keeps 2 (record manifest failure) :=
    keeps_record (fun _ _ => rfl) manifest failure fun _ _ => ⟨rfl, rfl⟩
  have hread := Json.read?_write Reading.exact 2 (by decide) _ hexact
  obtain ⟨entries, hentries, hsays⟩ := exists_saysFailure manifest failure
  refine ⟨(Json.isOneLine_chars 2 _ hexact).not_mem, ⟨entries, ?_, hsays⟩, fun hplain => ?_⟩
  · rw [← hentries]
    exact hread
  · have hsettings : Reading.settings.Keeps 2 (record manifest failure) :=
      keeps_record lastEntries_of_nodup manifest failure hplain
    exact (Json.read?_write Reading.settings 2 (by decide) _ hsettings).trans hread.symm

/-! ## Lines -/

theorem splitOn_lines (lines : List (List Char)) (h : ∀ line ∈ lines, '\n' ∉ line) :
    (lines.flatMap (· ++ ['\n'])).splitOn '\n' = lines ++ [[]] := by
  unfold List.splitOn
  induction lines with
  | nil => rfl
  | cons line lines ih =>
    rw [List.forall_mem_cons] at h
    have hline : ∀ c ∈ line, (c == '\n') = false := by
      intro c hc
      rw [beq_eq_false_iff_ne]
      rintro rfl
      exact h.1 hc
    rw [List.flatMap_cons, List.append_assoc, List.singleton_append,
      List.splitOnP_append_cons_of_forall_mem hline '\n' rfl, ih h.2]
    rfl

/-- The report consists of lines that each end with a line break, one for each failure in order, and each line is read as the
failure. -/
theorem json_says_failures (manifest : String) (failures : List Failure) :
    ∃ lines, (json manifest failures).toList = lines.flatMap (· ++ ['\n']) ∧
      (json manifest failures).toList.splitOn '\n' = lines ++ [[]] ∧
      List.Forall₂ (SaidBy manifest) failures lines := by
  have hlines : List.Forall₂ (SaidBy manifest) failures
      (failures.map fun failure => Json.chars (record manifest failure)) := by
    rw [List.forall₂_map_right_iff, List.forall₂_same]
    exact fun failure _ => saidBy_record manifest failure
  have htext : (json manifest failures).toList =
      (failures.map fun failure => Json.chars (record manifest failure)).flatMap (· ++ ['\n']) := by
    rw [json, String.toList_join, List.flatMap_map, List.flatMap_map]
    simp only [Json.write, String.toList_append, String.toList_ofList]
    rfl
  refine ⟨_, htext, ?_, hlines⟩
  rw [htext]
  refine splitOn_lines _ ?_
  simp only [List.forall_mem_map]
  exact fun failure _ => (saidBy_record manifest failure).unbroken

/-- Line breaks, marks and control characters in all its texts, and a position that 64 bits with a sign do not hold. -/
def awkwardFailure : Failure :=
  ⟨"a\nb", "", ⟨.invalidDeclaration, "\"\x00\\\x1f\"", .warning, some ⟨7, 18446744073709551615⟩, some "é\r\n😀",
    some ⟨"\t", "", "/"⟩⟩⟩

def plainFailure : Failure :=
  ⟨"users", "", ⟨.malformedTemplate, "", .error, none, none, none⟩⟩

theorem json_says_failures_awkward :
    ∃ first second : List Char, (json "m\n" [awkwardFailure, plainFailure]).toList.splitOn '\n' = [first, second, []] ∧
      SaidBy "m\n" awkwardFailure first ∧ SaidBy "m\n" plainFailure second := by
  obtain ⟨lines, -, hsplit, hlines⟩ := json_says_failures "m\n" [awkwardFailure, plainFailure]
  obtain ⟨first, rest, hfirst, hrest, rfl⟩ := List.forall₂_cons_left_iff.1 hlines
  obtain ⟨second, rest, hsecond, hnil, rfl⟩ := List.forall₂_cons_left_iff.1 hrest
  obtain rfl := List.forall₂_nil_left_iff.1 hnil
  exact ⟨first, second, hsplit, hfirst, hsecond⟩

example : json "m" [plainFailure] =
    "\x7b\"manifest\":\"m\",\"statement\":\"users\",\"id\":\"malformed-template\",\"message\":\"\",\"severity\":\"error\"" ++
      ",\"range\":null,\"note\":null,\"fix_it\":null\x7d\n" := by decide +kernel

end Report
end TypedStatement
