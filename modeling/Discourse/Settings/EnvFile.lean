import Discourse.Text.Blank

/-!
# Files of variables

A file of variables has one binding a line, `NAME=value`. The word `export` may stand in front,
blanks around the name and the value are free, and `#` begins a comment, in front of which an
unquoted value needs a blank. A value in quotes may hold any character, line breaks too, and has
escapes. A line that is no binding is passed over. A value may refer to variables by
`${NAME}` or `${NAME:-default}`. Lines end in a line feed, a carriage return or both, and a mark of
the byte order at the beginning is no part of the text.

* `plainText`: the text without that mark and with line feeds alone.
* `bindings`: the bindings in order; a name without `=` has no value.
* `assignments`: the bindings with their references resolved, the last value of a name at its first
  place.
-/

namespace Discourse.EnvFile

open Text (isBlank stripChars)

/-! ## Lines -/

/-- The text with each end of a line as one line feed. -/
def joinLineEnds : List Char → List Char
  | '\r' :: '\n' :: cs => '\n' :: joinLineEnds cs
  | c :: cs => (if c == '\r' then '\n' else c) :: joinLineEnds cs
  | [] => []

/-- The mark of the byte order, with which a file may begin. -/
def orderMark : Char := Char.ofNat 0xFEFF

/-- The text of a file without the mark of the byte order and with line feeds alone. -/
def plainText (cs : List Char) : List Char :=
  joinLineEnds (if cs.head? == some orderMark then cs.drop 1 else cs)

/-! ## Parts of a line -/

/-- Whether `c` ends a line. -/
def isLineEnd (c : Char) : Bool := c == '\n'

/-- Whether `c` is a blank within a line. -/
def isInlineBlank (c : Char) : Bool := isBlank c && !isLineEnd c

/-- Whether `c` can be part of an unquoted name. -/
def isNameChar (c : Char) : Bool := !(c == '=' || c == '#' || isBlank c)

/-- What follows the word `export` and the blanks after it, or everything. -/
def skipExport (cs : List Char) : List Char :=
  let rest := cs.drop 6
  if cs.take 6 == "export".toList && (rest.head?.map isInlineBlank).getD false then
    rest.dropWhile isInlineBlank
  else cs

/-- What stands up to the closing quote, and what follows it. The character after a backslash does
not close. -/
def untilQuote (quote : Char) : List Char → Option (List Char × List Char)
  | [] => none
  | [c] => if c == quote then some ([], []) else none
  | c :: d :: rest =>
    if c == quote then some ([], d :: rest)
    else if c == '\\' then
      (untilQuote quote rest).map fun (value, rest) => (c :: d :: value, rest)
    else (untilQuote quote (d :: rest)).map fun (value, rest) => (c :: value, rest)

/-- The character that a letter after a backslash stands for between double quotes. -/
def doubleQuoteEscape? : Char → Option Char
  | '\\' => some '\\'
  | '\'' => some '\''
  | '"' => some '"'
  | 'a' => some (Char.ofNat 7)
  | 'b' => some (Char.ofNat 8)
  | 'f' => some (Char.ofNat 12)
  | 'n' => some '\n'
  | 'r' => some '\r'
  | 't' => some '\t'
  | 'v' => some (Char.ofNat 11)
  | _ => none

/-- The character that a letter after a backslash stands for between single quotes. -/
def singleQuoteEscape? : Char → Option Char
  | '\\' => some '\\'
  | '\'' => some '\''
  | _ => none

/-- The text with its escapes replaced. -/
def unescape (escape? : Char → Option Char) : List Char → List Char
  | '\\' :: c :: cs =>
    match escape? c with
    | some d => d :: unescape escape? cs
    | none => '\\' :: unescape escape? (c :: cs)
  | c :: cs => c :: unescape escape? cs
  | [] => []

/-- The text up to the first comment, which begins with a blank. -/
def cutComment : List Char → List Char
  | [] => []
  | c :: cs =>
    if isBlank c && (cs.dropWhile isBlank).head? == some '#' then [] else c :: cutComment cs

/-- The value after an equals sign, and what follows it. -/
def readValue? (cs : List Char) : Option (List Char × List Char) :=
  match cs.dropWhile isInlineBlank with
  | '\'' :: rest =>
    (untilQuote '\'' rest).map fun (value, rest) => (unescape singleQuoteEscape? value, rest)
  | '"' :: rest =>
    (untilQuote '"' rest).map fun (value, rest) => (unescape doubleQuoteEscape? value, rest)
  | _ =>
    let (line, rest) := cs.span fun c => !isLineEnd c
    some (stripChars isBlank (cutComment line), rest)

/-- What follows a comment, if one begins here. -/
def skipComment (cs : List Char) : List Char :=
  match cs.dropWhile isInlineBlank with
  | '#' :: rest => rest.dropWhile fun c => !isLineEnd c
  | _ => cs

/-- What follows the end of the line, none when the line goes on. -/
def lineEnd? (cs : List Char) : Option (List Char) :=
  match cs.dropWhile isInlineBlank with
  | [] => some []
  | c :: rest => if isLineEnd c then some rest else none

/-- What follows the current line. -/
def skipLine (cs : List Char) : List Char := (cs.dropWhile fun c => !isLineEnd c).drop 1

/-! ## Bindings -/

/-- A name, if there is one before a comment, and what follows it. -/
def readName? (cs : List Char) : Option (Option (List Char) × List Char) :=
  match cs with
  | '#' :: _ => some (none, cs)
  | '\'' :: rest =>
    let (name, rest) := rest.span (· != '\'')
    if name.isEmpty || rest.isEmpty then none else some (some name, rest.drop 1)
  | cs =>
    let (name, rest) := cs.span isNameChar
    if name.isEmpty then none else some (some name, rest)

/-- A name with or without a value. -/
structure Binding where
  name : String
  value : Option String
  deriving DecidableEq, Repr

/-- The binding of the name and value. -/
def bind (name : Option (List Char)) (value : Option (List Char)) : Option Binding :=
  name.map fun name => ⟨String.ofList name, value.map String.ofList⟩

/-- The binding at the front, if the line is one, and what follows its line. -/
def readBinding (cs : List Char) : Option Binding × List Char :=
  match readName? (skipExport cs) with
  | none => (none, skipLine (skipExport cs))
  | some (name, rest) =>
    match rest.dropWhile isInlineBlank with
    | '=' :: rest =>
      match readValue? rest with
      | none => (none, skipLine rest)
      | some (value, rest) =>
        match lineEnd? (skipComment rest) with
        | some rest => (bind name (some value), rest)
        | none => (none, skipLine (skipComment rest))
    | rest =>
      match lineEnd? (skipComment rest) with
      | some rest => (bind name none, rest)
      | none => (none, skipLine (skipComment rest))

/-- The bindings of at most `fuel` lines. -/
def bindingsUpTo : Nat → List Char → List Binding
  | 0, _ => []
  | fuel + 1, cs =>
    match cs.dropWhile isBlank with
    | [] => []
    | c :: cs =>
      let (binding, rest) := readBinding (c :: cs)
      binding.toList ++ bindingsUpTo fuel rest

/-- The bindings of a file, in order. A line takes at least one character. -/
def bindings (text : String) : List Binding :=
  bindingsUpTo text.length (plainText text.toList)

/-! ## References -/

/-- The name and the default of a reference whose opening has been read, and what follows it. -/
def readReference? (cs : List Char) : Option (String × String × List Char) :=
  let (name, rest) := cs.span fun c => c != '}' && c != ':'
  match rest with
  | '}' :: rest => some (String.ofList name, "", rest)
  | ':' :: '-' :: rest =>
    let (default, rest) := rest.span (· != '}')
    match rest with
    | _ :: rest => some (String.ofList name, String.ofList default, rest)
    | [] => none
  | _ => none

/-- The text with at most `fuel` characters and references looked at. -/
def resolveUpTo (lookup : String → Option String) : Nat → List Char → List Char
  | 0, cs => cs
  | fuel + 1, cs =>
    match cs with
    | [] => []
    | '$' :: '{' :: rest =>
      match readReference? rest with
      | some (name, default, rest) =>
        ((lookup name).getD default).toList ++ resolveUpTo lookup fuel rest
      | none => '$' :: resolveUpTo lookup fuel ('{' :: rest)
    | c :: cs => c :: resolveUpTo lookup fuel cs

/-- The text with its references replaced by what `lookup` finds, or else by their defaults. -/
def resolve (lookup : String → Option String) (text : String) : String :=
  String.ofList (resolveUpTo lookup text.length text.toList)

/-- The bindings with one set, at its place if there is one of that name, else at the end. -/
def setVariable (b : Binding) : List Binding → List Binding
  | [] => [b]
  | c :: cs => if c.name == b.name then b :: cs else c :: setVariable b cs

/-- The value that a reference finds: that of an earlier binding, or that of the environment. A
binding without a value gives the empty text. -/
def lookupIn (environment : List (String × String)) (earlier : List Binding) (name : String) :
    Option String :=
  match earlier.find? (·.name == name) with
  | some b => some (b.value.getD "")
  | none => (environment.find? (·.1 == name)).map Prod.snd

/-- The variables of a file. -/
def assignments (environment : List (String × String)) (text : String) : List Binding :=
  (bindings text).foldl
    (fun earlier b =>
      setVariable { b with value := b.value.map (resolve (lookupIn environment earlier)) } earlier)
    []

end Discourse.EnvFile
