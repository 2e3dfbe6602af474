import DrainLint.Proofs.Report.Reading

/-! # Reading a report back

What a reader of a report finds who has the text of the file: the regions lead to the spans that they
were written for, and the fix changes the text as the edits of the diagnostic do.

- `SourceFile.spanOfRegion?`, `spanOfRegion?_ofSpan`: the span of a region;
- `SourceFile.rewrite_places`: replacing parts by lines and columns is replacing them by offsets;
- `Diagnostic.ReadsBack`, `sarifResult_reads_back`: both forms of a fix are the same edits;
- `digitsFile_keeps_deleted`: edits that lose a deletion when they are applied.
-/

namespace DrainLint

/-! ## Regions of a text -/

namespace SourceFile

/-- The span between two places of a text. -/
def spanBetween? (source : SourceFile) (start stop : LineCol) : Option Span := do
  let lo ← source.offsetOf? start
  let hi ← source.offsetOf? stop
  if ordered : lo ≤ hi then some ⟨lo, hi, ordered⟩ else none

/-- The span that a region stands for. -/
def spanOfRegion? (source : SourceFile) (region : JsonValue) : Option Span := do
  let (start, stop) ← region.places?
  source.spanBetween? start stop

/-- The edit that replaces a part of a text. -/
def editOf? (source : SourceFile) (replacement : Replacement LineCol) : Option Edit := do
  let span ← source.spanBetween? replacement.start replacement.stop
  some ⟨span, replacement.text⟩

/-- The places of a span. -/
theorem places?_ofSpan (source : SourceFile) (span : Span) :
    (Region.ofSpan source span).toJson.places? =
      some (source.placeOf span.lo, source.placeOf span.hi) := rfl

theorem spanBetween?_placeOf (source : SourceFile) {span : Span}
    (inside : span.hi ≤ source.text.length) :
    source.spanBetween? (source.placeOf span.lo) (source.placeOf span.hi) = some span := by
  have startInside := span.lo_le_hi.trans inside
  simp [spanBetween?, offsetOf?_placeOf source startInside, offsetOf?_placeOf source inside,
    span.lo_le_hi]

/-- The region of a span inside the text leads back to the span. -/
theorem spanOfRegion?_ofSpan (source : SourceFile) {span : Span}
    (inside : span.hi ≤ source.text.length) :
    source.spanOfRegion? (Region.ofSpan source span).toJson = some span := by
  rw [spanOfRegion?, places?_ofSpan]
  exact spanBetween?_placeOf source inside

theorem editOf?_placeOf (source : SourceFile) {edit : Edit}
    (inside : edit.span.hi ≤ source.text.length) :
    source.editOf? (edit.toReplacement.map source.placeOf) = some edit := by
  rw [editOf?, Replacement.map, Edit.toReplacement, spanBetween?_placeOf source inside]
  rfl

/-- Replacing parts of a text by lines and columns is replacing them by offsets. -/
theorem rewrite_places (source : SourceFile) {replacements : List (Replacement Nat)}
    (inside : ∀ replacement ∈ replacements,
      replacement.start ≤ source.text.length ∧ replacement.stop ≤ source.text.length)
    {before after : List Char} (split : source.text = before ++ after) :
    Replacement.rewrite nextPlace (replacements.map (.map source.placeOf))
        (placeAfter .start before) after =
      Replacement.rewrite Replacement.nextOffset replacements before.length after := by
  -- The reader is at the place of the offset reached, and places compare as their offsets do.
  have mono := source.placeOf_strictMonoOn
  induction after generalizing before with
  | nil =>
    have known : before.length ∈ Set.Iic source.text.length := by simp [split]
    rw [← source.placeOf_length split, Replacement.rewrite, Replacement.rewrite,
      Replacement.written_map mono known inside]
  | cons c after inductionHypothesis =>
    have known : before.length ∈ Set.Iic source.text.length := by simp [split]
    have rest := inductionHypothesis (split.trans (List.append_cons ..))
    rw [placeAfter_append, List.length_append] at rest
    rw [Replacement.rewrite, Replacement.rewrite, ← source.placeOf_length split,
      Replacement.written_map mono known inside, Replacement.any_covers_map mono known inside,
      source.placeOf_length split]
    exact congrArg _ rest

end SourceFile

/-! ## The report of a diagnostic -/

/-- The edits of a suggestion are compatible, so applying them is not refused. -/
theorem Suggestion.applyChecked_edits (suggestion : Suggestion) (text : List Char) :
    Edit.applyChecked text suggestion.edits = .ok (suggestion.apply text) := by
  rw [Edit.applyChecked, suggestion.compatible]
  rfl

/-- What a reader of a result finds who has the text of its file, and has the diagnostic by itself
too: a region inside the text leads back to its span, and the parts that the fix replaces are the
edits of the diagnostic.  Replacing these parts gives the text that applying the edits gives, where
an insertion is listed before the replacement that it touches. -/
structure Diagnostic.ReadsBack (diagnostic : Diagnostic) (source : SourceFile)
    (result offsets : JsonValue) : Prop where
  primary : ∀ span, diagnostic.span? = some span → span.hi ≤ source.text.length →
    result.primaryRegion?.bind source.spanOfRegion? = some span
  related : ∀ index span label, diagnostic.secondary[index]? = some (span, label) →
    span.hi ≤ source.text.length →
      (result.relatedRegion? index).bind source.spanOfRegion? = some span
  fixed : ∀ suggestion, diagnostic.suggestion? = some suggestion →
    (∀ edit ∈ suggestion.edits, edit.span.hi ≤ source.text.length) →
      ∃ replacements, result.fixReplacements? = some replacements ∧
        replacements.mapM source.editOf? = some suggestion.edits ∧
          offsets.suggestedEdits? = some suggestion.edits ∧
            (suggestion.edits.Pairwise Edit.EndsFirst →
              Edit.applyChecked source.text suggestion.edits =
                .ok (Replacement.rewrite nextPlace replacements .start source.text))

namespace Diagnostic

open JsonValue

theorem edit?_toJson (edit : Edit) : edit? edit.toJson = some edit := by
  have read : edit? edit.toJson = if ordered : edit.span.lo ≤ edit.span.hi then
      some ⟨⟨edit.span.lo, edit.span.hi, ordered⟩, edit.replacement⟩ else none := rfl
  rw [read, dif_pos edit.span.lo_le_hi]

/-- Both forms of the report of a diagnostic lead back to its spans and to its edits. -/
theorem sarifResult_reads_back (diagnostic : Diagnostic) (source : SourceFile) :
    diagnostic.ReadsBack source (diagnostic.sarifResult (some source)).toJson
      diagnostic.toJson where
  primary span isSpan inside := by
    rw [SarifResult.primaryRegion?_toJson, sarifResult, isSpan]
    exact source.spanOfRegion?_ofSpan inside
  related index span label listed inside := by
    have related : (diagnostic.sarifResult (some source)).related[index]? =
        some (Region.ofSpan source span, label) := by
      simp [sarifResult, listed, Region.ofSpan?]
    rw [SarifResult.relatedRegion?_toJson _ related]
    exact source.spanOfRegion?_ofSpan inside
  fixed suggestion suggests inside := by
    have hasFix : (diagnostic.sarifResult (some source)).fix? = some ⟨suggestion.message,
        suggestion.applicability, suggestion.edits.map fun edit =>
          (Region.ofSpan source edit.span, edit.replacement)⟩ := by
      simp [sarifResult, sarifFix?, suggests]
    let placed := fun edit : Edit => edit.toReplacement.map source.placeOf
    refine ⟨suggestion.edits.map placed, ?_, ?_, ?_, fun listed => ?_⟩
    · rw [SarifResult.fixReplacements?_toJson _ hasFix, List.map_map]
      exact mapM_map_eq_some _ replacement? placed fun edit _ => rfl
    · have read := mapM_map_eq_some placed source.editOf? id fun edit member =>
        source.editOf?_placeOf (inside edit member)
      rwa [List.map_id] at read
    · have read : (suggestion.edits.map Edit.toJson).mapM edit? = some (suggestion.edits.map id) :=
        mapM_map_eq_some Edit.toJson edit? id fun edit _ => edit?_toJson edit
      rw [suggestedEdits?_toJson suggests]
      rwa [List.map_id] at read
    · have bounds : ∀ replacement ∈ suggestion.edits.map Edit.toReplacement,
          replacement.start ≤ source.text.length ∧ replacement.stop ≤ source.text.length := by
        intro replacement member
        obtain ⟨edit, listed, rfl⟩ := List.mem_map.mp member
        exact ⟨edit.span.lo_le_hi.trans (inside edit listed), inside edit listed⟩
      have rewritten := source.rewrite_places bounds (List.nil_append _).symm
      rw [List.map_map] at rewritten
      rw [suggestion.applyChecked_edits]
      exact congrArg Except.ok
        ((Edit.applyAll_eq_rewrite suggestion.compatible listed inside).trans rewritten.symm)

/-- A file with a carriage return, an empty line and no newline at its end. -/
def linesFile : SourceFile := ⟨"lines.rs", "let a;\r\n\nlet b;\nc".toList⟩

/-- Edits that delete newlines, put something in before a deletion and write at the end of a file. -/
def linesFix : Suggestion where
  message := "mend"
  edits := [⟨⟨17, 17, by decide⟩, "d"⟩, ⟨⟨6, 9, by decide⟩, " "⟩, ⟨⟨13, 13, by decide⟩, "!"⟩,
    ⟨⟨13, 15, by decide⟩, ""⟩]
  compatible := by
    simp [Edit.firstOverlap?, Edit.sortedBySpan, List.mergeSort, Span.before,
      Edit.firstCollision?, Edit.collides, Span.overlaps]

def linesDiagnostic : Diagnostic where
  errorId := "lines"
  message := "lines"
  severity := .style
  location := ⟨"lines.rs", 1, 5⟩
  span? := some ⟨4, 13, by decide⟩
  secondary := [(⟨8, 9, by decide⟩, "empty line"), (⟨17, 17, by decide⟩, "end")]
  suggestion? := some linesFix

theorem sarifResult_reads_back_linesFile : ∃ result replacements,
    result = (linesDiagnostic.sarifResult (some linesFile)).toJson ∧
      result.primaryRegion?.bind linesFile.spanOfRegion? = some ⟨4, 13, by decide⟩ ∧
        (result.relatedRegion? 1).bind linesFile.spanOfRegion? = some ⟨17, 17, by decide⟩ ∧
          result.fixReplacements? = some replacements ∧
            Replacement.rewrite nextPlace replacements .start linesFile.text =
              "let a; let !\ncd".toList := by
  have back := sarifResult_reads_back linesDiagnostic linesFile
  obtain ⟨replacements, listed, -, -, applied⟩ := back.fixed linesFix rfl (by decide +kernel)
  have insertedFirst : linesFix.edits.Pairwise Edit.EndsFirst := by
    simp [linesFix, Edit.EndsFirst]
  have spliced : linesFix.apply linesFile.text = "let a; let !\ncd".toList := by
    simp [Suggestion.apply, Edit.applyAll, Edit.sortedByStart, List.mergeSort, Edit.splice, linesFix,
      linesFile]
  have rewritten := applied insertedFirst
  rw [linesFix.applyChecked_edits, spliced, Except.ok.injEq] at rewritten
  exact ⟨_, replacements, rfl, back.primary _ rfl (by decide +kernel),
    back.related 1 _ _ rfl (by decide +kernel), listed, rewritten.symm⟩

/-! ### A deletion that gets lost -/

def digitsFile : SourceFile := ⟨"digits.rs", "0123456789".toList⟩

/-- Edits that delete two characters and, listed after that, put one in before them. -/
def digitsFix : Suggestion where
  message := "mend"
  edits := [⟨⟨5, 7, by decide⟩, ""⟩, ⟨⟨5, 5, by decide⟩, "Y"⟩]
  compatible := by
    simp [Edit.firstOverlap?, Edit.sortedBySpan, List.mergeSort, Span.before,
      Edit.firstCollision?, Edit.collides, Span.overlaps]

def digitsDiagnostic : Diagnostic where
  errorId := "digits"
  message := "digits"
  severity := .style
  location := ⟨"digits.rs", 1, 6⟩
  suggestion? := some digitsFix

/-- The reader of the report deletes the two characters, and applying the edits keeps them: the
insertion takes the place in the text back to where it stands. -/
theorem digitsFile_keeps_deleted : ∃ replacements,
    (digitsDiagnostic.sarifResult (some digitsFile)).toJson.fixReplacements? = some replacements ∧
      digitsDiagnostic.toJson.suggestedEdits? = some digitsFix.edits ∧
        (∀ edit ∈ digitsFix.edits, edit.span.hi ≤ digitsFile.text.length) ∧
          Replacement.rewrite nextPlace replacements .start digitsFile.text =
            "01234Y789".toList ∧
              Edit.applyChecked digitsFile.text digitsFix.edits = .ok "01234Y56789".toList := by
  have spliced : digitsFix.apply digitsFile.text = "01234Y56789".toList := by
    simp [Suggestion.apply, Edit.applyAll, Edit.sortedByStart, List.mergeSort, Edit.splice, digitsFix,
      digitsFile]
  refine ⟨_, rfl, rfl, by decide +kernel, by decide +kernel, ?_⟩
  rw [digitsFix.applyChecked_edits, spliced]

end Diagnostic
end DrainLint
