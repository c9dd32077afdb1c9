import JavaDeps.Resolve.Run
import JavaDeps.Terminal.Message

/-!
# Reports on a terminal

The labels of a unit are a block of text; what could not be resolved follows as messages.
-/

namespace JavaDeps.Terminal

open Resolve (UnitResolution UnitOutcome RunReport)

/-- The lines of a section; there are none without labels. -/
def sectionText (title : String) : List Label → String
  | [] => ""
  | labels => "  " ++ title ++ ":\n" ++ String.join (labels.map fun l ↦ "    " ++ l.text ++ "\n")

/-- The block of text for a unit. -/
def unitBlock (colours : Bool) (r : UnitResolution) : String :=
  paint colours [.bold] r.label.text
    ++ (if r.kind = .test then " " ++ paint colours [.dimmed] "(test)" else "") ++ "\n"
    ++ sectionText "deps" r.deps ++ sectionText "runtime_deps" r.runtimeDeps

/-- What there is to say about a unit besides its labels. -/
def unitMessages : UnitOutcome → List Message
  | .resolved r =>
    (r.report.unresolved.toList.map fun symbol ↦
      ⟨.warning, r.directory.text ++ ": unresolved symbol " ++ symbol⟩)
    ++ r.report.ambiguities.map fun a ↦ ⟨.warning, r.directory.text ++ ": " ++ a.message⟩
  | .skipped directory failure =>
    [⟨.error, directory.text ++ ": skipped: " ++ failure.message⟩]

/-- The summary of a run: a success if there is nothing to complain about, else a warning. -/
def summaryMessage (r : RunReport) : Message :=
  ⟨if r.isClean then .success else .warning, r.summary⟩

end JavaDeps.Terminal
