import Checkup.Text.Blank

/-!
# Literals

A tag of the console's markup can hand values to a handler. They are written as literals: numbers,
quoted texts and bytes, `True`, `False`, `None` and `...`, and tuples, sets and dictionaries of
literals. A real number and an imaginary one can be added or subtracted; no other arithmetic, and no
name, is a literal. Square brackets cannot stand in a tag, so there are no lists here.
-/

namespace Checkup.Literal

inductive Amount
  | whole (n : Nat)
  | real
  | imaginary
  deriving DecidableEq, Repr

inductive Token
  /-- a bracket, a comma, a colon or a sign -/
  | mark (c : Char)
  | amount (amount : Amount)
  /-- a quoted text -/
  | text
  /-- quoted bytes -/
  | bytes
  /-- a constant with a name of its own -/
  | constant
  /-- the word that makes an empty set when empty brackets follow -/
  | setWord
  | lineEnd
  deriving DecidableEq, Repr

/-! ## Numbers -/

def isNameChar (c : Char) : Bool :=
  c.isAlphanum || c == '_' || 128 ≤ c.toNat

def digitValue (c : Char) : Nat :=
  if c.isDigit then c.toNat - '0'.toNat else c.toLower.toNat - 'a'.toNat + 10

def isDigitIn (base : Nat) (c : Char) : Bool :=
  c.isAlphanum && digitValue c < base

def valueIn (base : Nat) (digits : List Char) : Nat :=
  digits.foldl (fun n c => base * n + digitValue c) 0

/-- The digits at the start of the text, each with at most one underscore before it, and the rest;
an underscore without a digit after it is an error. -/
def digits? (base : Nat) : List Char → Option (List Char × List Char)
  | [] => some ([], [])
  | ['_'] => none
  | '_' :: c :: cs =>
    if isDigitIn base c then (digits? base cs).map fun (digits, rest) => (c :: digits, rest)
    else none
  | c :: cs =>
    if isDigitIn base c then (digits? base cs).map fun (digits, rest) => (c :: digits, rest)
    else some ([], c :: cs)

/-- The decimal digits at the start of the text, which may be missing. -/
def decimalDigits? (cs : List Char) : Option (List Char × List Char) :=
  if cs.head?.any (·.isDigit) then digits? 10 cs else some ([], cs)

def base? (c : Char) : Option Nat :=
  match c.toLower with
  | 'x' => some 16
  | 'o' => some 8
  | 'b' => some 2
  | _ => none

def digitLimit : Nat := 4300

/-- The whole number with these decimal digits; a zero in front is allowed only to zero. -/
def wholeOf? (digits : List Char) : Option Amount :=
  let n := valueIn 10 digits
  if digits.head? == some '0' && n != 0 then none
  else if digitLimit < digits.length then none
  else some (.whole n)

def afterFraction? : List Char → Option (Option (List Char × List Char))
  | '.' :: cs => (decimalDigits? cs).map some
  | _ => some none

/-- What is left after an exponent, if the text begins with one. -/
def afterExponent? : List Char → Option (Option (List Char))
  | [] => some none
  | c :: cs =>
    if c != 'e' && c != 'E' then some none
    else
      let unsigned := match cs with
        | '+' :: more => more
        | '-' :: more => more
        | _ => cs
      match decimalDigits? unsigned with
      | some (_ :: _, rest) => some (some rest)
      | _ => none

def decimal? (cs : List Char) : Option (Amount × List Char) := do
  let (units, afterUnits) ← decimalDigits? cs
  let fraction ← afterFraction? afterUnits
  if units.isEmpty && !(fraction.any fun (places, _) => !places.isEmpty) then none
  let beforeExponent := (fraction.map (·.2)).getD afterUnits
  let exponent ← afterExponent? beforeExponent
  match exponent.getD beforeExponent with
  | 'j' :: rest | 'J' :: rest => return (.imaginary, rest)
  | rest =>
    if fraction.isSome || exponent.isSome then return (.real, rest)
    return (← wholeOf? units, rest)

/-- Reads a number in the base that its first two characters tell. -/
def number? : List Char → Option (Amount × List Char)
  | '0' :: c :: cs =>
    match base? c with
    | none => decimal? ('0' :: c :: cs)
    | some base =>
      match digits? base cs with
      | some (d :: ds, rest) => some (.whole (valueIn base (d :: ds)), rest)
      | _ => none
  | cs => decimal? cs

def numberToken? (cs : List Char) : Option (Token × List Char) := do
  let (amount, rest) ← number? cs
  if rest.head?.any isNameChar then none else return (.amount amount, rest)

/-! ## Quoted texts -/

/-- What stands before the closing quotes, and the rest; three quotes may enclose several lines. -/
def quoted? (quote : Char) (isTriple : Bool) : List Char → Option (List Char × List Char)
  | [] => none
  | '\\' :: c :: cs => (quoted? quote isTriple cs).map fun (body, rest) => ('\\' :: c :: body, rest)
  | c :: cs =>
    if c == '\n' && !isTriple then none
    else if c == quote && !isTriple then some ([], cs)
    else if c == quote && [quote, quote].isPrefixOf cs then some ([], cs.drop 2)
    else (quoted? quote isTriple cs).map fun (body, rest) => (c :: body, rest)

/-- Whether the text begins with this many hexadecimal digits, of a value up to the limit. -/
def beginsHexadecimal (count limit : Nat) (cs : List Char) : Bool :=
  let digits := cs.take count
  digits.length == count && digits.all (isDigitIn 16) && valueIn 16 digits ≤ limit

/-- Whether the text begins with the name of a character in braces. -/
def beginsCharacterName : List Char → Bool
  | '\x7b' :: cs =>
    let name := cs.takeWhile fun c => (c.toNat < 128 && c.isAlphanum) || c == ' ' || c == '-'
    !name.isEmpty && (cs.drop name.length).head? == some '\x7d'
  | _ => false

def areEscapesComplete (isBytes : Bool) : List Char → Bool
  | '\\' :: c :: cs =>
    (match c with
      | 'x' => beginsHexadecimal 2 255 cs
      | 'u' => isBytes || beginsHexadecimal 4 65535 cs
      | 'U' => isBytes || beginsHexadecimal 8 1114111 cs
      | 'N' => isBytes || beginsCharacterName cs
      | _ => true) && areEscapesComplete isBytes cs
  | _ :: cs => areEscapesComplete isBytes cs
  | [] => true

/-- The kind of text that the letters before a quote ask for: whether it is bytes, and whether its
backslashes are plain. -/
def prefixKind? (letters : List Char) : Option (Bool × Bool) :=
  match String.ofList (letters.map Char.toLower) with
  | "" | "u" => some (false, false)
  | "r" => some (false, true)
  | "b" => some (true, false)
  | "br" | "rb" => some (true, true)
  | _ => none

/-- Reads a quoted text after the letters before its first quote. -/
def quotedToken? (letters : List Char) (quote : Char) (cs : List Char) :
    Option (Token × List Char) := do
  let (isBytes, isRaw) ← prefixKind? letters
  let isTriple := [quote, quote].isPrefixOf cs
  let (body, rest) ← quoted? quote isTriple (if isTriple then cs.drop 2 else cs)
  if isBytes && body.any fun c => 128 ≤ c.toNat then none
  if !isRaw && !areEscapesComplete isBytes body then none
  return (if isBytes then .bytes else .text, rest)

/-! ## Tokens -/

def wordToken? (word : List Char) : Option Token :=
  match String.ofList word with
  | "True" | "False" | "None" => some .constant
  | "set" => some .setWord
  | _ => none

def isMark (c : Char) : Bool :=
  "()\x7b\x7d,:+-".toList.contains c

def isQuote (c : Char) : Bool :=
  c == '\'' || c == '"'

def token? : List Char → Option (Token × List Char)
  | [] => none
  | '.' :: '.' :: '.' :: cs => some (.constant, cs)
  | c :: cs =>
    if isMark c then some (.mark c, cs)
    else if c.isDigit || c == '.' then numberToken? (c :: cs)
    else
      let word := (c :: cs).takeWhile isNameChar
      match (c :: cs).drop word.length with
      | [] => (wordToken? word).map (·, [])
      | next :: rest =>
        if isQuote next then quotedToken? word next rest
        else (wordToken? word).map (·, next :: rest)

def depthLimit : Nat := 200

/-- How many brackets are open after a token, if that is allowed. -/
def depthAfter? (depth : Nat) : Token → Option Nat
  | .mark '(' | .mark '\x7b' => if depth < depthLimit then some (depth + 1) else none
  | .mark ')' | .mark '\x7d' => if depth = 0 then none else some (depth - 1)
  | _ => some depth

/-- The tokens of the text, `depth` brackets being open; `fuel` bounds the steps. -/
def tokensFrom (depth : Nat) : Nat → List Char → Option (List Token)
  | 0, _ => none
  | _, [] => if depth = 0 then some [] else none
  | fuel + 1, c :: cs =>
    if c == ' ' || c == '\t' || c == '\x0c' then tokensFrom depth fuel cs
    else if c == '#' then tokensFrom depth fuel (cs.dropWhile (· != '\n'))
    else if c == '\n' then
      if depth = 0 then (tokensFrom depth fuel cs).map (.lineEnd :: ·)
      else tokensFrom depth fuel cs
    else if c == '\\' then
      match cs with
      | '\n' :: next :: rest => tokensFrom depth fuel (next :: rest)
      | _ => none
    else do
      let (token, rest) ← token? (c :: cs)
      let after ← depthAfter? depth token
      return token :: (← tokensFrom after fuel rest)

/-- The text with a line feed for each of the ways to end a line. -/
def unifyLineEnds : List Char → List Char
  | [] => []
  | '\r' :: '\n' :: cs => '\n' :: unifyLineEnds cs
  | '\r' :: cs => '\n' :: unifyLineEnds cs
  | c :: cs => c :: unifyLineEnds cs

/-- The text after the lines in front of it that hold nothing but a comment; the line after them
must not be indented. `fuel` bounds the steps. -/
def afterComments? : Nat → List Char → Option (List Char)
  | 0, _ => none
  | fuel + 1, cs =>
    match cs.dropWhile fun c => c == ' ' || c == '\t' || c == '\x0c' with
    | '#' :: rest => afterComments? fuel (rest.dropWhile (· != '\n'))
    | '\n' :: rest => afterComments? fuel rest
    | rest => if rest.length = cs.length then some cs else none

/-- The tokens of one expression, without the ends of the lines around it. -/
def tokens? (cs : List Char) : Option (List Token) := do
  if cs.contains '\x00' then none
  let written ← afterComments? (cs.length + 1) (unifyLineEnds cs)
  let found ← tokensFrom 0 (written.length + 1) written
  let inner := found.reverse.dropWhile (· == .lineEnd)
  if inner.isEmpty || inner.contains .lineEnd then none else return inner.reverse

/-! ## Values -/

inductive Kind
  /-- a number without a sign -/
  | amount (amount : Amount)
  /-- a number with a sign -/
  | signed (amount : Amount)
  /-- another value that can be a key or the member of a set -/
  | key
  /-- a value that cannot -/
  | holder
  /-- the word that makes an empty set, without the brackets -/
  | setWord
  deriving DecidableEq, Repr

namespace Kind

def value? : Kind → Option Kind
  | setWord => none
  | kind => some kind

def isKey : Kind → Bool
  | holder | setWord => false
  | _ => true

def tuple (items : List Kind) : Kind :=
  if items.all isKey then key else holder

/-- Whether the number can be the real part of a complex one: a whole number must not be too large
to be rounded to a real one. -/
def isRealPart : Kind → Bool
  | amount (.whole n) | signed (.whole n) => n < Nat.pow 2 1024 - Nat.pow 2 970
  | amount .real | signed .real => true
  | _ => false

end Kind

/-- The tokens after the quoted texts that continue one, which are all of one sort. -/
def afterQuoted? (sort : Token) : List Token → Option (List Token)
  | .text :: rest => if sort = .text then afterQuoted? sort rest else none
  | .bytes :: rest => if sort = .bytes then afterQuoted? sort rest else none
  | rest => some rest

/-- What follows a value: brackets may follow only the word for a set, and then empty ones. -/
def called? (kind : Kind) : List Token → Option (Kind × List Token)
  | .mark '(' :: .mark ')' :: .mark '(' :: _ => none
  | .mark '(' :: .mark ')' :: rest => if kind = .setWord then some (.holder, rest) else none
  | .mark '(' :: _ => none
  | rest => some (kind, rest)

mutual

/-- Reads a value or the sum of a real number and an imaginary one; `fuel` bounds the depth. -/
def sum? : Nat → List Token → Option (Kind × List Token)
  | 0, _ => none
  | fuel + 1, tokens => do
    let (first, rest) ← term? fuel tokens
    match rest with
    | .mark '+' :: more | .mark '-' :: more =>
      match ← term? fuel more with
      | (.amount .imaginary, .mark '+' :: _) | (.amount .imaginary, .mark '-' :: _) => none
      | (.amount .imaginary, after) => if first.isRealPart then return (.key, after) else none
      | _ => none
    | _ => return (first, rest)

def term? : Nat → List Token → Option (Kind × List Token)
  | 0, _ => none
  | fuel + 1, .mark '+' :: tokens | fuel + 1, .mark '-' :: tokens => do
    match ← atom? fuel tokens with
    | (.amount amount, rest) => return (.signed amount, rest)
    | _ => none
  | fuel + 1, tokens => atom? fuel tokens

def atom? : Nat → List Token → Option (Kind × List Token)
  | 0, _ => none
  | fuel + 1, tokens => do
    let (kind, rest) ← match tokens with
      | .amount amount :: rest => some (.amount amount, rest)
      | .text :: rest => (afterQuoted? .text rest).map (.key, ·)
      | .bytes :: rest => (afterQuoted? .bytes rest).map (.key, ·)
      | .constant :: rest => some (.key, rest)
      | .setWord :: rest => some (.setWord, rest)
      | .mark '(' :: rest => round? fuel rest
      | .mark '\x7b' :: rest => curly? fuel rest
      | _ => none
    called? kind rest

/-- Reads what stands in round brackets: a value, or the items of a tuple. -/
def round? : Nat → List Token → Option (Kind × List Token)
  | 0, _ => none
  | _ + 1, .mark ')' :: rest => some (.key, rest)
  | fuel + 1, tokens => do
    let (first, rest) ← sum? fuel tokens
    match rest with
    | .mark ')' :: after => return (first, after)
    | .mark ',' :: more =>
      let (items, after) ← items? fuel ')' more
      return (.tuple ((← first.value?) :: items), after)
    | _ => none

/-- Reads what stands in curly brackets: the members of a set, or the entries of a dictionary. -/
def curly? : Nat → List Token → Option (Kind × List Token)
  | 0, _ => none
  | _ + 1, .mark '\x7d' :: rest => some (.holder, rest)
  | fuel + 1, tokens => do
    let (first, rest) ← sum? fuel tokens
    if !first.isKey then none
    match rest with
    | .mark '\x7d' :: after => return (.holder, after)
    | .mark ',' :: more =>
      let (items, after) ← items? fuel '\x7d' more
      if items.all Kind.isKey then return (.holder, after) else none
    | .mark ':' :: more =>
      let (value, after) ← sum? fuel more
      let _ ← value.value?
      return (.holder, ← entries? fuel after)
    | _ => none

/-- Reads the items up to a closing bracket, the last of which may have a comma too. -/
def items? : Nat → Char → List Token → Option (List Kind × List Token)
  | 0, _, _ => none
  | fuel + 1, close, tokens =>
    if tokens.head? = some (.mark close) then some ([], tokens.tail)
    else do
      let (item, rest) ← sum? fuel tokens
      let item ← item.value?
      match rest with
      | .mark ',' :: more =>
        let (items, after) ← items? fuel close more
        return (item :: items, after)
      | .mark c :: after => if c = close then return ([item], after) else none
      | _ => none

def entries? : Nat → List Token → Option (List Token)
  | 0, _ => none
  | _ + 1, .mark '\x7d' :: rest | _ + 1, .mark ',' :: .mark '\x7d' :: rest => some rest
  | fuel + 1, .mark ',' :: tokens => do
    let (name, rest) ← sum? fuel tokens
    if !name.isKey then none
    match rest with
    | .mark ':' :: more =>
      let (value, after) ← sum? fuel more
      let _ ← value.value?
      entries? fuel after
    | _ => none
  | _ + 1, _ => none

end

/-- Whether the text is a literal. What stands alone is read as if it stood in round brackets, where
several values make a tuple. -/
def isLiteral (cs : List Char) : Bool :=
  match tokens? cs with
  | none => false
  | some tokens =>
    match round? (4 * tokens.length + 4) (tokens ++ [.mark ')']) with
    | some (kind, []) => kind.value?.isSome
    | _ => false

end Checkup.Literal
