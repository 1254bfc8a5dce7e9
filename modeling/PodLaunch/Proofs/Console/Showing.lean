import PodLaunch.Proofs.Console.Escaping
import PodLaunch.Proofs.Sequence

/-!
# Printouts that can be shown

A text with markup is shown if it can be rendered by itself, and a table is if its title and each of
its cells can be.
-/

namespace PodLaunch.Console

/-- A printout can be shown. -/
def Printout.IsShown (printout : Printout) : Prop :=
  ∃ lines, printout.lines = .ok lines

end PodLaunch.Console
