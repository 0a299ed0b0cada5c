import Discourse.Json
import Discourse.Text.Hexadecimal

/-!
# Tokens of a structured value

The marks, texts and words of which a written value consists, and how they are told apart. White
space stands between tokens and nowhere else. A word is whatever is not white space, a mark or a
text; most words mean nothing.

* `Token.chars`: how a token is written.
* `tokens?`: the tokens of a text, none when a text is left open or a word means nothing.
* `frontTokens`: the tokens before the first place where nothing can be made of the text.
-/

namespace Discourse.Json

/-- The smallest part of a written value. -/
inductive Token where
  | listOpen
  | listClose
  | objectOpen
  | objectClose
  | comma
  | colon
  | text (t : Text)
  /-- A value without parts other than a text. -/
  | plain (v : Json)
  deriving Repr, Inhabited

/-! ## Writing -/

/-- A character inside a written text. -/
def writeChar (c : Char) : List Char :=
  if c == '"' || c == '\\' then ['\\', c]
  else if c == '\n' then ['\\', 'n']
  else if c == '\r' then ['\\', 'r']
  else if c == '\t' then ['\\', 't']
  else if c.toNat < 0x20 then '\\' :: 'u' :: Text.hexDigits 4 c.toNat
  else [c]

/-- A code point inside a written text. -/
def writePoint : CodePoint → List Char
  | .char c => writeChar c
  | p => '\\' :: 'u' :: Text.hexDigits 4 p.number

/-- A text between quotes. -/
def writeText (t : Text) : List Char := '"' :: t.points.flatMap writePoint ++ ['"']

/-- A number as an integer times a power of ten. -/
def writeBinary (x : Binary) : List Char :=
  let places := (-x.exponent).toNat
  let digits := x.mantissa * Binary.twoTo x.exponent * Nat.pow 5 places
  (toString digits ++ "e-" ++ toString places).toList

/-- A value without parts. -/
def writePlain : Json → List Char
  | bool b => if b then "true".toList else "false".toList
  | integer n => (toString n).toList
  | binary x => writeBinary x
  | word w => w.toList
  | _ => "null".toList

/-- How the token is written. -/
def Token.chars : Token → List Char
  | listOpen => ['[']
  | listClose => [']']
  | objectOpen => ['{']
  | objectClose => ['}']
  | comma => [',']
  | colon => [':']
  | text t => writeText t
  | plain v => writePlain v

/-! ## The meaning of a word -/

/-- The digits at the front, and what follows them. -/
def spanDigits (cs : List Char) : List Char × List Char := cs.span Char.isDigit

/-- The number nearest to a decimal with a sign, or a word if it is too large. -/
def ofDecimal (negative : Bool) (digits : List Char) (exponent : Int) : Json :=
  match Binary.ofDecimal? (digits.filterMap Text.decimalValue?) exponent with
  | some x => binary (x.withSign negative)
  | none => word (if negative then "-Infinity" else "Infinity")

/-- A number without its sign: an integer, or a decimal when a fraction or an exponent is
written. -/
def readUnsigned? (negative : Bool) (cs : List Char) : Option Json :=
  let (whole, rest) := spanDigits cs
  if whole.isEmpty || (whole.length > 1 && whole.head? == some '0') then none
  else
    match rest with
    | [] =>
      match Text.readDigits whole with
      | .ok n => some (integer (Text.withSign negative n))
      | .error _ => none
    | '.' :: rest =>
      let (fraction, rest) := spanDigits rest
      if fraction.isEmpty then none
      else
        (Text.readExponent? rest).map fun e =>
          ofDecimal negative (whole ++ fraction) (e - fraction.length)
    | rest => (Text.readExponent? rest).map (ofDecimal negative whole)

/-- What a word means, if anything. -/
def readWord? (cs : List Char) : Option Json :=
  if cs == "null".toList then some null
  else if cs == "true".toList then some (bool true)
  else if cs == "false".toList then some (bool false)
  else if cs == "NaN".toList || cs == "Infinity".toList || cs == "-Infinity".toList then
    some (word (String.ofList cs))
  else
    match cs with
    | '-' :: cs => readUnsigned? true cs
    | cs => readUnsigned? false cs

/-! ## Reading -/

/-- The mark that a character is, if it is one. -/
def mark? : Char → Option Token
  | '[' => some .listOpen
  | ']' => some .listClose
  | '{' => some .objectOpen
  | '}' => some .objectClose
  | ',' => some .comma
  | ':' => some .colon
  | _ => none

/-- Whether `c` may stand between tokens. -/
def isTokenSpace (c : Char) : Bool := c == ' ' || c == '\t' || c == '\n' || c == '\r'

/-- The character that a letter after a backslash stands for. -/
def escaped? : Char → Option Char
  | '"' => some '"'
  | '\\' => some '\\'
  | '/' => some '/'
  | 'b' => some (Char.ofNat 8)
  | 'f' => some (Char.ofNat 12)
  | 'n' => some '\n'
  | 'r' => some '\r'
  | 't' => some '\t'
  | _ => none

/-- The code points of a row of numbers, in which a pair of halves is one character. -/
def pointsOf : List Nat → List CodePoint
  | [] => []
  | [n] => [.ofNumber n]
  | high :: low :: ns =>
    if CodePoint.isHighHalf high && CodePoint.isLowHalf low then
      .ofNumber (CodePoint.joinHalves high low) :: pointsOf ns
    else .ofNumber high :: pointsOf (low :: ns)

/-- Where the reading of tokens stands. What has been read of a token is kept last first, a text
as the numbers of its code points. -/
inductive Mode where
  | between
  | inWord (cs : List Char)
  | inText (ns : List Nat)
  | afterBackslash (ns : List Nat)
  /-- `due` hexadecimal digits, one at least, complete the `value`. -/
  | inCode (ns : List Nat) (due value : Nat)
  deriving Repr

/-- What a character between tokens begins. -/
def begin (c : Char) : Mode × List Token :=
  if isTokenSpace c then (.between, [])
  else
    match mark? c with
    | some t => (.between, [t])
    | none => if c == '"' then (.inText [], []) else (.inWord [c], [])

/-- Whether a word ends before `c`. -/
def endsWord (c : Char) : Bool := isTokenSpace c || (mark? c).isSome || c == '"'

/-- What the next character does, none when nothing can be made of it. -/
def step : Mode → Char → Option (Mode × List Token)
  | .between, c => some (begin c)
  | .inWord cs, c =>
    if endsWord c then
      (readWord? cs.reverse).map fun v => ((begin c).1, .plain v :: (begin c).2)
    else some (.inWord (c :: cs), [])
  | .inText ns, c =>
    if c == '"' then some (.between, [.text ⟨pointsOf ns.reverse⟩])
    else if c == '\\' then some (.afterBackslash ns, [])
    else if c.toNat < 0x20 then none
    else some (.inText (c.toNat :: ns), [])
  | .afterBackslash ns, c =>
    if c == 'u' then some (.inCode ns 4 0, [])
    else (escaped? c).map fun d => (.inText (d.toNat :: ns), [])
  | .inCode ns due value, c =>
    (Text.hexValue? c).map fun d =>
      if due ≤ 1 then (.inText ((16 * value + d) :: ns), [])
      else (.inCode ns (due - 1) (16 * value + d), [])

/-- What the end of the text completes. -/
def finish : Mode → Option (List Token)
  | .between => some []
  | .inWord cs => (readWord? cs.reverse).map fun v => [.plain v]
  | _ => none

/-- The tokens of the characters, `read` being those before them, last first. -/
def lex (mode : Mode) (read : List Token) : List Char → Option (List Token)
  | [] => (finish mode).map (read.reverse ++ ·)
  | c :: cs =>
    match step mode c with
    | some (mode, ts) => lex mode (ts.reverse ++ read) cs
    | none => none

/-- The tokens of a text. -/
def tokens? (s : String) : Option (List Token) := lex .between [] s.toList

/-- The tokens at the front of the characters, as far as something can be made of them, `read`
being those before them, last first. -/
def lexFront (mode : Mode) (read : List Token) : List Char → List Token
  | [] => read.reverse
  | c :: cs =>
    match step mode c with
    | some (mode, ts) => lexFront mode (ts.reverse ++ read) cs
    | none => read.reverse

/-- The tokens at the front of a text, up to the one that the end of the text would complete. -/
def frontTokens (s : String) : List Token := lexFront .between [] s.toList

end Discourse.Json
