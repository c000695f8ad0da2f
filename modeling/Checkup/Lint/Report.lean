import Checkup.Json.Shape
import Checkup.Json.Reader
import Checkup.Lint.Configuration
import Checkup.SourceFile
import Checkup.Text.Blank
import Checkup.Text.Digit
import Checkup.Text.Word

/-!
# The linter's report

The linter prints a JSON object with a list of entries. An entry with a rule code, on a component
file, becomes a diagnostic; every other entry is passed over. Messages lose what they say about
places in files.
-/

namespace Checkup.Lint

open Checkup.Text

/-- The parts of a rule code whose text, backwards and without its closing parenthesis, is given:
the plugin before the last parenthesis that leaves something on both sides, and the rule after
it. -/
def splitCode (rule : List Char) : List Char → Option (List Char × List Char)
  | [] => none
  | c :: before =>
    if c == '(' && !rule.isEmpty && !before.isEmpty then some (before.reverse, rule)
    else splitCode (c :: rule) before

def withoutLastBreak (cs : List Char) : List Char :=
  match cs.reverse with
  | '\n' :: rest => rest.reverse
  | _ => cs

def pluginPreamble : List Char := "eslint-plugin-".toList

/-- The plugin and the rule of a code such as `plugin(rule)`; any other text is a rule of an
unknown plugin. -/
def parseCode (code : String) : String × String :=
  let body := withoutLastBreak code.toList
  match body.reverse with
  | ')' :: rest =>
    if body.contains '\n' then ("unknown", code)
    else match splitCode [] rest with
      | some (plugin, rule) =>
        (String.ofList ((after? pluginPreamble plugin).getD plugin), String.ofList rule)
      | none => ("unknown", code)
  | _ => ("unknown", code)

/-- Whether the text begins with an extension, a line and a column. -/
def beginsLocation : List Char → Bool
  | '.' :: cs =>
    let (extension, afterExtension) := cs.span isWord
    match afterExtension with
    | ':' :: more =>
      let (line, afterLine) := more.span isDigit
      match afterLine with
      | ':' :: c :: _ => !extension.isEmpty && !line.isEmpty && isDigit c
      | _ => false
    | _ => false
  | _ => false

/-- Whether an extension, a line and a column stand somewhere in the text. -/
def holdsLocation : List Char → Bool
  | [] => false
  | c :: cs => beginsLocation (c :: cs) || holdsLocation cs

/-- The text before the first word that names a place in a file; `inWord` tells that the text
starts inside a word. -/
def beforeLocation (inWord : Bool) : List Char → List Char
  | [] => []
  | c :: cs =>
    if isBlank c then c :: beforeLocation false cs
    else if !inWord && holdsLocation (cs.takeWhile fun d => !isBlank d) then []
    else c :: beforeLocation true cs

/-- The text without the first place that it names and all that follows. -/
def withoutLocation (message : String) : String :=
  String.ofList (trim (beforeLocation false message.toList))

def compilerMessage : String := "React Compiler can't optimize this code"

/-- The message and the help of a finding: without places, and with the catalogue's help where the
report has none. The React compiler's plugin gets one message, and its own words become the help. -/
def cleanMessage (message : String) (help : Json) (plugin rule : String) : String × Json :=
  let cleaned := withoutLocation message
  if plugin == compilerPlugin then
    (compilerMessage, if cleaned == "" then help else .text cleaned)
  else
    (if cleaned == "" then message else cleaned,
      help.given?.getD (.text (Catalogue.helpFor rule)))

def firstSpan (entry : Json) : Except ShapeFault Json := do
  let labels ← entry.get "labels"
  if !labels.isTruthy then return .object []
  let label ← labels.first
  match label with
  | .object _ =>
    match ← label.get "span" with
    | .object members => return .object members
    | _ => return .object []
  | _ => return .object []

/-- The text that a member has to be; one that is not given is empty. -/
def givenText (entry : Json) (name : String) : Except ShapeFault String := do
  let value ← entry.get name
  if value.isTruthy then value.asText else return ""

def entryDiagnostic (entry code : Json) (file : String) : Except ShapeFault Diagnostic := do
  let (plugin, rule) := parseCode (← code.asText)
  let said ← givenText entry "message"
  let advice := (← entry.get "help").given?.getD (.text "")
  let (message, help) := cleanMessage said advice plugin rule
  let span ← firstSpan entry
  let severity : Severity := if (← entry.get "severity").isText "error" then .error else .warning
  let line ← (← span.get "line").asCount
  let column ← (← span.get "column").asCount
  return { file := .text file, plugin, rule, severity, message, help, line, column,
           category := categoryOf plugin rule }

/-- The diagnostic of an entry, if it has a code and lies in a component file. -/
def entry? (entry : Json) : Except ShapeFault (Option Diagnostic) := do
  let code ← entry.get "code"
  let file ← entry.get "filename"
  if !code.isTruthy then return none
  let path ← if file.isTruthy then file.asText else pure ""
  if !SourceFile.isComponent path then return none
  return some (← entryDiagnostic entry code path)

def entries : List Json → Except ShapeFault (List Diagnostic)
  | [] => return []
  | entry :: rest => do
    let found ← entry? entry
    return found.toList ++ (← entries rest)

end Checkup.Lint

namespace Checkup

def previewLength : Nat := 200

def unreadableReport (tool report : String) : Fault :=
  .check ⟨tool, "could not parse output: " ++ Text.clip previewLength report, false⟩

def misshapenReport (tool report : String) : Fault :=
  .check ⟨tool, "unexpected report shape: " ++ Text.clip previewLength report, false⟩

def readReport (tool report : String) : Except Fault Json :=
  match Json.read report with
  | .ok value => .ok value
  | .error .malformed => .error (unreadableReport tool report)
  | .error (.tooManyDigits count) => .error (.shape (.tooManyDigits count))

namespace Lint

def toolName : String := "oxlint"

/-- The diagnostics of a printed report; nothing printed is a report without findings. -/
def parseReport (output : String) : Except Fault (List Diagnostic) := do
  let report := Text.strip output
  if report == "" then return []
  let value ← readReport toolName report
  match value.member? "diagnostics" with
  | some (.array found) => (entries found).mapError .shape
  | _ => throw (misshapenReport toolName report)

end Lint

end Checkup
