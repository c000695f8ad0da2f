import Checkup.Json.Basic

/-!
# Diagnostics

One finding of a check: where it is, which rule found it and what to do about it. Severities and
categories are closed lists; a text that is not in the list is kept as it is, and reading a label
back gives the value it came from.
-/

namespace Checkup

inductive Severity
  | error
  | warning
  | other (label : String)
  deriving DecidableEq, Repr, Inhabited

inductive Category
  | correctness
  | performance
  | architecture
  | security
  | bundleSize
  | accessibility
  | nextjs
  | reactNative
  | server
  | stateAndEffects
  | typeScript
  | reactCompiler
  | deadCode
  | other
  | custom (label : String)
  deriving DecidableEq, Repr, Inhabited

namespace Severity

def label : Severity → String
  | error => "error"
  | warning => "warning"
  | other label => label

def ofLabel (label : String) : Severity :=
  if label == "error" then error
  else if label == "warning" then warning
  else other label

theorem label_ofLabel (label : String) : (ofLabel label).label = label := by
  unfold ofLabel
  split
  · simp_all [Severity.label]
  · split <;> simp_all [Severity.label]

end Severity

namespace Category

def all : List Category :=
  [correctness, performance, architecture, security, bundleSize, accessibility, nextjs,
    reactNative, server, stateAndEffects, typeScript, reactCompiler, deadCode, other]

def label : Category → String
  | correctness => "Correctness"
  | performance => "Performance"
  | architecture => "Architecture"
  | security => "Security"
  | bundleSize => "Bundle Size"
  | accessibility => "Accessibility"
  | nextjs => "Next.js"
  | reactNative => "React Native"
  | server => "Server"
  | stateAndEffects => "State & Effects"
  | typeScript => "TypeScript"
  | reactCompiler => "React Compiler"
  | deadCode => "Dead Code"
  | other => "Other"
  | custom label => label

def ofLabel (label : String) : Category :=
  (all.find? (·.label == label)).getD (custom label)

theorem label_ofLabel (label : String) : (ofLabel label).label = label := by
  unfold ofLabel
  cases hfound : all.find? (·.label == label) with
  | none => rfl
  | some category => simpa using List.find?_some hfound

end Category

/-- A finding. The file and the help come from untyped reports and keep the value they had there. -/
structure Diagnostic where
  file : Json
  plugin : String
  rule : String
  severity : Severity
  message : String
  help : Json
  line : Int
  column : Int
  category : Category
  deriving Inhabited, Repr

namespace Diagnostic

def ruleKey (d : Diagnostic) : String :=
  d.plugin ++ "/" ++ d.rule

def isError (d : Diagnostic) : Bool :=
  d.severity == .error

def isWarning (d : Diagnostic) : Bool :=
  d.severity == .warning

def toJson (d : Diagnostic) : Json :=
  .object
    [("filePath", d.file), ("plugin", .text d.plugin), ("rule", .text d.rule),
      ("severity", .text d.severity.label), ("message", .text d.message), ("help", d.help),
      ("line", .int d.line), ("column", .int d.column), ("category", .text d.category.label)]

end Diagnostic

end Checkup
