import Checkup.Text.Search

/-!
# Source files by name

A path names a source file by its extension, and a component file by one of the two extensions that
hold markup. A single line feed after the extension does not count.
-/

namespace Checkup.SourceFile

/-- Whether text that is given backwards begins with one of the extensions backwards. -/
def beginsReversed (extensions : List String) (reversed : List Char) : Bool :=
  extensions.any fun e => e.toList.reverse.isPrefixOf reversed

def endsWithAny (extensions : List String) (path : String) : Bool :=
  match path.toList.reverse with
  | '\n' :: reversed =>
    beginsReversed extensions ('\n' :: reversed) || beginsReversed extensions reversed
  | reversed => beginsReversed extensions reversed

def componentExtensions : List String := [".tsx", ".jsx"]

def sourceExtensions : List String := [".ts", ".js"] ++ componentExtensions

def isSource (path : String) : Bool :=
  endsWithAny sourceExtensions path

def isComponent (path : String) : Bool :=
  endsWithAny componentExtensions path

theorem beginsReversed_append {more extensions : List String} {reversed : List Char}
    (hbegins : beginsReversed extensions reversed = true) :
    beginsReversed (more ++ extensions) reversed = true := by
  simp_all [beginsReversed]

theorem endsWithAny_append {more extensions : List String} {path : String}
    (hends : endsWithAny extensions path = true) :
    endsWithAny (more ++ extensions) path = true := by
  unfold endsWithAny at *
  split at hends
  · simp only [Bool.or_eq_true] at hends ⊢
    exact hends.imp beginsReversed_append beginsReversed_append
  · exact beginsReversed_append hends

theorem isSource_of_isComponent {path : String} (hcomponent : isComponent path = true) :
    isSource path = true :=
  endsWithAny_append hcomponent

end Checkup.SourceFile
