import Checkup.Console.Literal
import Checkup.Console.Style
import Checkup.Fault
import Checkup.Text.Word

/-!
# Markup

Text for the console may carry tags in brackets: `[name]` opens a style, `[/name]` closes it and
`[/]` closes the last one. A backslash in front of a tag makes it plain text, and `escape` protects
a text that way. Without colours the styles leave nothing behind, but a tag that closes what was
never opened is a fault. A tag that begins with `@` names a handler, and what follows its equals
sign, a literal or a name with a literal in brackets, has to be readable once the tag is closed.
-/

namespace Checkup.Markup

def beginsTag (c : Char) : Bool :=
  ('a' ≤ c && c ≤ 'z') || c == '#' || c == '/' || c == '@'

/-- The inside of a tag up to its closing bracket, and the text after it; an opening bracket inside
makes it no tag. -/
def tagBody : List Char → Option (List Char × List Char)
  | [] => none
  | c :: cs =>
    if c == ']' then some ([], cs)
    else if c == '[' then none
    else (tagBody cs).map fun (body, rest) => (c :: body, rest)

/-- A tag in a text: the backslashes in front of it, its inside and the text after it. -/
structure Tag where
  escapes : Nat
  body : List Char
  rest : List Char

/-- The tag at the start of the text, with the backslashes in front of it. -/
def tag? (cs : List Char) : Option Tag :=
  let escapes := (cs.takeWhile (· == '\\')).length
  match cs.drop escapes with
  | '[' :: c :: more =>
    if beginsTag c then (tagBody (c :: more)).map fun (body, rest) => ⟨escapes, body, rest⟩
    else none
  | _ => none

inductive Part
  | plain (text : List Char)
  | literal (text : List Char)
  | tag (body : List Char)

/-- The parts of a text, `pending` being the plain text before it, backwards; `fuel` bounds the
steps. -/
def partsFrom (pending : List Char) : Nat → List Char → List Part
  | 0, _ => [.plain pending.reverse]
  | fuel + 1, cs =>
    match cs with
    | [] => [.plain pending.reverse]
    | c :: more =>
      match tag? (c :: more) with
      | none => partsFrom (c :: pending) fuel more
      | some found =>
        let backslashes := List.replicate (found.escapes / 2) '\\'
        let shown := if found.escapes % 2 == 1 then
            Part.literal ('[' :: found.body ++ [']'])
          else Part.tag found.body
        .plain pending.reverse :: .literal backslashes :: shown :: partsFrom [] fuel found.rest

def parts (cs : List Char) : List Part :=
  partsFrom [] (cs.length + 1) cs

/-- Plain text as it is shown: an escaped bracket loses its backslash. -/
def shown : List Char → List Char
  | [] => []
  | '\\' :: '[' :: cs => '[' :: shown cs
  | c :: cs => c :: shown cs

/-- A tag that opens something: its name, the same for all spellings of a style, and what follows
its equals sign. -/
structure Opening where
  name : String
  parameters : Option (List Char)

namespace Opening

def isHandler (opening : Opening) : Bool :=
  opening.name.startsWith "@"

def style (opening : Opening) : List Char :=
  opening.name.toList ++ match opening.parameters with
    | none => []
    | some parameters => ' ' :: parameters

/-- Whether the text is a name, of letters, digits, underscores and dots, that may be missing. -/
def isHandlerName (cs : List Char) : Bool :=
  cs.all fun c => Text.isWord c || c == '.'

/-- The literal in what follows a handler's equals sign. It stands in brackets after a name, which
alone stands for empty brackets, or it is everything. -/
def literal (parameters : List Char) : List Char :=
  let written := Text.trim parameters
  let (name, rest) := written.span (· != '(')
  if !isHandlerName name then written
  else if rest.isEmpty then ['(', ')']
  else if rest.getLast? == some ')' && !rest.contains '\n' then rest
  else written

def isReadable (opening : Opening) : Bool :=
  match opening.parameters with
  | none => true
  | some parameters => parameters.isEmpty || Literal.isLiteral (literal parameters)

end Opening

def unmatched : LibraryFault :=
  ⟨"MarkupError", "closing tag without an opening one"⟩

def ofShape (fault : ShapeFault) : LibraryFault :=
  ⟨fault.kind, fault.wording⟩

def orStop {α : Type} : Except StyleFault α → Except LibraryFault (Option α)
  | .ok found => .ok (some found)
  | .error .unknown => .ok none
  | .error (.numeral text .malformed) => .error (ofShape (.notNumeral text))
  | .error (.numeral _ (.tooManyDigits count)) => .error (ofShape (.tooManyDigits count))

def styleName (cs : List Char) : Except LibraryFault String := do
  return ((← orStop (Style.normalize cs)).getD "")

def openingOf (body : List Char) : Except LibraryFault Opening := do
  let (name, rest) := body.span (· != '=')
  return ⟨← styleName name, rest.tail?⟩

def take? (name : String) : List Opening → Option (Opening × List Opening)
  | [] => none
  | opening :: others =>
    if opening.name == name then some (opening, others)
    else (take? name others).map fun (found, rest) => (found, opening :: rest)

/-- The opening that a closing tag belongs to, and the others, the last opened first; the name is
empty for the last one. -/
def closed? (name : List Char) (openings : List Opening) :
    Except LibraryFault (Option (Opening × List Opening)) := do
  if (Text.trim name).isEmpty then
    return match openings with
      | [] => none
      | last :: others => some (last, others)
  return take? (← styleName (Text.trim name)) openings

/-- The open tags after a tag, and those whose styles were applied by it. -/
def follow (body : List Char) (openings : List Opening) :
    Except LibraryFault (List Opening × List Opening) := do
  match body with
  | '/' :: rest =>
    match ← closed? (rest.takeWhile (· != '=')) openings with
    | none => throw unmatched
    | some (opening, others) =>
      if !opening.isHandler then return (others, [opening])
      else if opening.isReadable then return (others, [])
      else throw unmatched
  | _ => return ((← openingOf body) :: openings, [])

/-- What the parts show, with these tags open, and the tags whose styles are applied to it. -/
def showParts (openings : List Opening) : List Part → Except LibraryFault (List Char × List Opening)
  | [] => .ok ([], openings)
  | .plain text :: rest => do
    let (more, applied) ← showParts openings rest
    return (shown text ++ more, applied)
  | .literal text :: rest => do
    let (more, applied) ← showParts openings rest
    return (text ++ more, applied)
  | .tag body :: rest => do
    let (openings, closed) ← follow body openings
    let (more, applied) ← showParts openings rest
    return (more, closed ++ applied)

/-- Looks every applied style up; one that is unknown changes nothing. -/
def applyStyles : List Opening → Except LibraryFault Unit
  | [] => .ok ()
  | opening :: rest => do
    let _ ← orStop (Style.read opening.style)
    applyStyles rest

def render (text : String) : Except LibraryFault String :=
  if text.toList.contains '[' then do
    let (found, applied) ← showParts [] (parts text.toList)
    applyStyles applied
    return String.ofList found
  else .ok text

/-- The text with the tags in it protected; `fuel` bounds the steps. -/
def protect : Nat → List Char → List Char
  | 0, cs => cs
  | fuel + 1, cs =>
    match cs with
    | [] => []
    | c :: more =>
      match tag? (c :: more) with
      | none => c :: protect fuel more
      | some found =>
        List.replicate (2 * found.escapes + 1) '\\' ++ '[' :: found.body ++
          ']' :: protect fuel found.rest

/-- A single backslash at the end, which would protect what follows, is doubled. -/
def doubleLast (cs : List Char) : List Char :=
  match cs.reverse with
  | ['\\'] => ['\\', '\\']
  | '\\' :: c :: _ => if c == '\\' then cs else cs ++ ['\\']
  | _ => cs

def escape (text : String) : String :=
  let cs := text.toList
  String.ofList (doubleLast (protect (cs.length + 1) cs))

end Checkup.Markup
