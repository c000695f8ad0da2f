import Checkup.Project.Framework
import Checkup.Project.Manifest

/-!
# Dependencies

The dependencies of a manifest are the entries of its three sections, the later section winning.
They determine two facts, the React version and the framework. Facts from several manifests are
merged left first: a fact that is determined stays.
-/

namespace Checkup

/-- Package names with what the manifest gives for them, a version as a rule. -/
abbrev Dependencies := List (String × Json)

namespace Dependencies

/-- The sections of a manifest, in the order in which they are merged. -/
def sections : List String :=
  ["peerDependencies", "dependencies", "devDependencies"]

def ofSection (manifest : Manifest) (name : String) : Dependencies :=
  ((Json.lookup manifest name).members?).getD []

def ofManifest (manifest : Manifest) : Dependencies :=
  (sections.flatMap (ofSection manifest)).foldl (fun all entry => Json.put all entry.1 entry.2) []

def names (dependencies : Dependencies) (package : String) : Bool :=
  dependencies.any (·.1 == package)

def uses (dependencies : Dependencies) (package : String) : Bool :=
  (Json.lookup dependencies package).isTruthy

def framework (dependencies : Dependencies) : Framework :=
  (Framework.listed.find? fun framework => framework.package?.any dependencies.uses).getD .unknown

def reactPackages : List String := ["react", "react-native", "next"]

def hasReact (dependencies : Dependencies) : Bool :=
  reactPackages.any dependencies.names

def compilerPackages : List String :=
  ["babel-plugin-react-compiler", "react-compiler-runtime", "eslint-plugin-react-compiler"]

def hasCompiler (dependencies : Dependencies) : Bool :=
  compilerPackages.any dependencies.names

end Dependencies

/-- What the dependencies say about React: its version, as far as it is known, and the framework. -/
structure ReactFacts where
  version : Option Json
  framework : Framework
  deriving Inhabited, Repr

namespace ReactFacts

def empty : ReactFacts :=
  ⟨none, .unknown⟩

def ofManifest (manifest : Manifest) : ReactFacts :=
  let dependencies := Dependencies.ofManifest manifest
  ⟨(Json.lookup dependencies "react").given?, dependencies.framework⟩

def isComplete (facts : ReactFacts) : Bool :=
  facts.version.isSome && facts.framework != .unknown

def fillFrom (facts other : ReactFacts) : ReactFacts :=
  ⟨facts.version.or other.version,
    if facts.framework == .unknown then other.framework else facts.framework⟩

theorem empty_fillFrom (facts : ReactFacts) : empty.fillFrom facts = facts := by
  simp [empty, fillFrom]

theorem fillFrom_of_isComplete {facts other : ReactFacts} (hcomplete : facts.isComplete = true) :
    facts.fillFrom other = facts := by
  obtain ⟨version, framework⟩ := facts
  cases version <;> simp_all [isComplete, fillFrom]

theorem fillFrom_assoc (a b c : ReactFacts) :
    (a.fillFrom b).fillFrom c = a.fillFrom (b.fillFrom c) := by
  unfold fillFrom
  by_cases ha : a.framework = .unknown <;> by_cases hb : b.framework = .unknown <;>
    cases a.version <;> simp [ha, hb]

end ReactFacts

end Checkup
