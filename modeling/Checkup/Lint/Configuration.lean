import Checkup.Lint.Catalogue
import Checkup.Project.Framework
import Checkup.Json.Printer

/-!
# The linter's configuration

Which plugins and rules the linter runs with, from the facts about a project: the rules on React
and accessibility always, then either the rules of the React compiler or the hints on memoization
that it makes moot, and the catalogue where its plugin is installed.
-/

namespace Checkup.Lint

def reactRules : List (String × Level) :=
  [("rules-of-hooks", .error), ("exhaustive-deps", .warn), ("jsx-key", .error),
    ("jsx-no-duplicate-props", .error), ("jsx-no-target-blank", .warn),
    ("no-children-prop", .warn), ("no-danger-with-children", .error),
    ("no-direct-mutation-state", .error), ("no-string-refs", .warn),
    ("no-unknown-property", .warn), ("void-dom-elements-no-children", .error)]

def accessibilityRules : List (String × Level) :=
  [("alt-text", .error), ("anchor-is-valid", .warn), ("aria-props", .error),
    ("aria-role", .error), ("click-events-have-key-events", .warn),
    ("heading-has-content", .warn), ("html-has-lang", .warn), ("iframe-has-title", .warn),
    ("no-autofocus", .warn), ("no-redundant-roles", .warn),
    ("role-has-required-aria-props", .error), ("tabindex-no-positive", .warn)]

/-- Hints on memoization, moot where the React compiler memoizes. -/
def memoizationRules : List (String × Level) :=
  [("jsx-no-new-object-as-prop", .warn), ("jsx-no-new-array-as-prop", .warn),
    ("jsx-no-new-function-as-prop", .warn), ("jsx-no-jsx-as-prop", .warn)]

def compilerRules : List (String × Level) :=
  [("purity", .error), ("refs", .error), ("immutability", .error),
    ("set-state-in-render", .error), ("static-components", .error), ("use-memo", .error),
    ("preserve-manual-memoization", .warn), ("incompatible-library", .warn),
    ("unsupported-syntax", .warn)]

structure Facts where
  framework : Framework
  compiler : Bool
  plugin : Option String
  deriving Repr

/-- The groups of rules that the linter has of its own, which are all switched off. -/
def ownGroups : List String :=
  ["correctness", "suspicious", "pedantic", "perf", "restriction", "style", "nursery"]

def Catalogue.rulesFor (framework : Framework) : List Rule :=
  general ++ (if framework == .nextjs then nextjs else []) ++
    (if framework.isNative then nativeViews else [])

def levels (plugin : String) (rules : List (String × Level)) : List (String × Json) :=
  rules.map fun (rule, level) => (plugin ++ "/" ++ rule, .text level.word)

/-- The entry of a plugin that is loaded by its name or its path. -/
def pluginEntry (name specifier : String) : Json :=
  .object [("name", .text name), ("specifier", .text specifier)]

def compilerPlugin : String := "react-hooks-js"

namespace Facts

def catalogue? (facts : Facts) : Option String :=
  facts.plugin.filter (· != "")

def plugins (facts : Facts) : List String :=
  ["react", "jsx-a11y"] ++ (if facts.compiler then [] else ["react-perf"])

def rules (facts : Facts) : List (String × Json) :=
  levels "react" reactRules ++ levels "jsx-a11y" accessibilityRules ++
    (if facts.compiler then levels compilerPlugin compilerRules
      else levels "react-perf" memoizationRules) ++
    (if facts.catalogue?.isSome then
      levels Catalogue.plugin ((Catalogue.rulesFor facts.framework).map fun r => (r.name, r.level))
    else [])

def loaded (facts : Facts) : List Json :=
  (if facts.compiler then [pluginEntry compilerPlugin "eslint-plugin-react-hooks"] else []) ++
    facts.catalogue?.toList.map (pluginEntry Catalogue.plugin)

def configuration (facts : Facts) : Json :=
  let members : List (String × Json) :=
    [("plugins", .array (facts.plugins.map .text)),
      ("categories", .object (ownGroups.map fun group => (group, .text "off"))),
      ("rules", .object facts.rules)]
  .object (members ++ if facts.loaded.isEmpty then [] else [("jsPlugins", .array facts.loaded)])

end Facts

end Checkup.Lint
