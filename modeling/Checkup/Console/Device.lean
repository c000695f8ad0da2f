import Checkup.Console.Markup
import Checkup.Console.Panel

/-!
# The console

What a run prints goes through a library, which reads markup, protects texts from being read as
markup and draws panels. A run is one over any such library. The plain one is without colours and as
wide as every line; it has no codes for pictures and lets control characters through.
-/

namespace Checkup

structure Console where
  /-- what is shown of a line of markup -/
  render : String → Except LibraryFault String
  escape : String → String
  panel : List String → String

def Console.plain : Console :=
  ⟨Markup.render, Markup.escape, Panel.render⟩

end Checkup
