import DrainLint.Command.Request
import Mathlib.Data.List.Basic

/-! # Requests of plain arguments

Arguments that do not start with a dash are operands, in their order.

- `Command.Plain`: such an argument;
- `Command.ofArgs_check`: a check of some paths without any option.
-/

namespace DrainLint.Command

/-- An argument that cannot be an option. -/
def Plain (text : String) : Prop := ¬ ['-'] <+: text.toList

variable {texts paths : List String} {interface : Interface}

theorem Plain.token {text : String} (plain : Plain text) :
    interface.token text = .ok (.word text) := by
  have undashed : "-".isPrefixOf text = false := String.startsWith_string_eq_false_iff.mpr plain
  simp [Interface.token, undashed]

theorem tokens_of_plain (plain : ∀ text ∈ texts, Plain text) :
    interface.tokens texts = .ok (texts.map .word) := by
  induction texts with
  | nil => rfl
  | cons text texts inductionHypothesis =>
    have notDashes : text ≠ "--" := by
      rintro rfl
      exact plain "--" List.mem_cons_self (by decide +kernel)
    rw [Interface.tokens.eq_3 _ _ _ notDashes, (plain text List.mem_cons_self).token,
      inductionHypothesis fun later member => plain later (List.mem_cons_of_mem _ member)]
    rfl

/-- Words are operands where many of them may stand. -/
theorem readTokens_words {name : String} {stage : Stage} {reading : Reading}
    (many : interface.operands = .many name) (early : stage ≠ .after) :
    interface.readTokens stage reading (paths.map .word) =
      .ok { reading with operands := reading.operands ++ paths } := by
  induction paths generalizing stage reading with
  | nil => simp [Interface.readTokens]
  | cons path paths inductionHypothesis =>
    have next : interface.readTokens .among (reading.addOperand path) (paths.map .word) =
        .ok { reading with operands := reading.operands ++ path :: paths } := by
      rw [inductionHypothesis (by simp)]
      simp [Reading.addOperand]
    cases stage with
    | before | among =>
      simp only [List.map_cons, Interface.readTokens, many]
      exact next
    | after => exact absurd rfl early

theorem read_program (plain : ∀ path ∈ paths, Plain path) :
    program.read ("check" :: paths) = .ok { operands := "check" :: paths } := by
  have tokens : program.tokens ("check" :: paths) = .ok (("check" :: paths).map .word) :=
    tokens_of_plain fun text member => by
      rcases List.mem_cons.mp member with rfl | member
      · exact fun dashed => absurd dashed (by decide +kernel)
      · exact plain text member
  have words : (paths.map Token.word).map Token.text = paths := by
    simp [Function.comp_def, Token.text]
  have reading : program.readTokens .before {} (("check" :: paths).map .word) =
      .ok { operands := "check" :: paths } := by
    have known : commandNames.contains "check" = true := by decide +kernel
    simp only [List.map_cons, Interface.readTokens, program, known, if_true, words]
  simp only [Interface.read, tokens, reading, bind, Except.bind]
  rfl

theorem read_check (some_path : paths ≠ []) (plain : ∀ path ∈ paths, Plain path) :
    check.read paths = .ok { operands := paths } := by
  have reading : check.readTokens .before {} (paths.map .word) = .ok { operands := paths } := by
    rw [readTokens_words rfl (by simp), List.nil_append]
  have there : paths.isEmpty = false := by simpa [List.isEmpty_eq_false_iff] using some_path
  simp only [Interface.read, tokens_of_plain plain, reading, bind, Except.bind]
  simp [Interface.missing?, check, there, Reading.ending?]
  rfl

/-- Paths that cannot be options are the paths of a check without options. -/
theorem ofArgs_check (some_path : paths ≠ []) (plain : ∀ path ∈ paths, Plain path) :
    Request.ofArgs ("check" :: paths) = .ok (.act {} (.check paths)) := by
  have command : Request.ofArgs ("check" :: paths) =
      Request.ofCommand { operands := "check" :: paths } "check" paths := by
    unfold Request.ofArgs
    rw [read_program plain]
    rfl
  have reading : (check.read paths).mapError (Refusal.mk checkPage) =
      .ok { operands := paths } := by
    rw [read_check some_path plain]
    rfl
  rw [command]
  unfold Request.ofCommand
  rw [show Request.commandOf "check" = (check, checkPage, .check) from rfl]
  simp only [reading, bind, Except.bind]
  rfl

end DrainLint.Command
