import Discourse.Text.Blank
import Discourse.Text.Digit
import Discourse.Text.WordChar

/-!
# Line patterns

A pattern describes how a line may be read from the left. Where it leaves a choice the choices
are tried in a fixed order, and the first one that lets the rest of the line be read stands: a
run of characters is tried longest first, or shortest first when it is not eager, and of two
alternatives the left one is tried first. The groups of a pattern are the parts of the line that
are kept.

* `Pattern.readings`: all the ways to read, in the order in which they are tried.
* `Pattern.search`: the first way that a continuation accepts, found without listing the others.
* `search_eq_findSome?`: the two agree.
* `Pattern.match?`: the groups of a line that is read to its end.
-/

namespace Discourse

/-- A class of characters. -/
inductive CharClass where
  | blank
  | word
  | decimal
  | oneOf (cs : List Char)
  | noneOf (cs : List Char)
  deriving DecidableEq, Repr

/-- Whether the character is in the class. -/
def CharClass.has : CharClass → Char → Bool
  | .blank, c => Text.isBlank c
  | .word, c => Text.isWordChar c
  | .decimal, c => Text.isDecimal c
  | .oneOf cs, c => cs.contains c
  | .noneOf cs, c => !cs.contains c

/-- How a line may be read. -/
inductive Pattern where
  /-- Reads nothing. -/
  | nothing
  /-- Reads the given text. -/
  | literal (text : List Char)
  /-- Reads one character of the class. -/
  | one (cls : CharClass)
  /-- Reads any number of characters of the class, as many as possible when eager, as few as
  possible otherwise. -/
  | many (cls : CharClass) (eager : Bool)
  /-- Reads the one, then the other. -/
  | seq (first second : Pattern)
  /-- Reads the one, or else the other. -/
  | either (left right : Pattern)
  /-- Reads and keeps what was read. -/
  | group (inner : Pattern)
  deriving DecidableEq, Repr

namespace Pattern

/-! ## Building -/

/-- Reads the patterns one after another. -/
def sequence : List Pattern → Pattern
  | [] => nothing
  | p :: ps => seq p (sequence ps)

/-- Reads the pattern if possible. -/
def maybe (p : Pattern) : Pattern := either p nothing

/-- Reads the given text. -/
def text (s : String) : Pattern := literal s.toList

/-- Reads one of the given texts, the first that is possible. -/
def anyOf : List String → Pattern
  | [] => either nothing nothing
  | [s] => text s
  | s :: ss => either (text s) (anyOf ss)

/-- Reads at least one character of the class, as many as possible. -/
def some (cls : CharClass) : Pattern := seq (one cls) (many cls true)

/-- Reads at least one character of the class, as few as possible. -/
def few (cls : CharClass) : Pattern := seq (one cls) (many cls false)

/-! ## Parts of a line -/

/-- A part of a line: what is left of the line where the part begins, and where it ends. -/
structure Part where
  start : List Char
  rest : List Char
  deriving DecidableEq, Repr, Inhabited

/-- The characters of a part. -/
def Part.chars (p : Part) : List Char := p.start.take (p.start.length - p.rest.length)

/-! ## All the ways to read -/

/-- What may be left after a run of the class: shortest run last. -/
def runRests (cls : CharClass) : List Char → List (List Char)
  | [] => [[]]
  | c :: cs => if cls.has c then runRests cls cs ++ [c :: cs] else [c :: cs]

/-- All the ways to read the front of a text: the parts that are kept, and what is left. -/
def readings : Pattern → List Char → List (List Part × List Char)
  | nothing, cs => [([], cs)]
  | literal t, cs => if t.isPrefixOf cs then [([], cs.drop t.length)] else []
  | one cls, cs =>
    match cs with
    | [] => []
    | c :: rest => if cls.has c then [([], rest)] else []
  | many cls eager, cs =>
    (if eager then runRests cls cs else (runRests cls cs).reverse).map fun rest => ([], rest)
  | seq p q, cs =>
    (p.readings cs).flatMap fun (groups, rest) =>
      (q.readings rest).map fun (more, rest) => (groups ++ more, rest)
  | either p q, cs => p.readings cs ++ q.readings cs
  | group p, cs => (p.readings cs).map fun (_, rest) => ([⟨cs, rest⟩], rest)

/-! ## The first way that is accepted -/

variable {α : Type}

/-- The first answer of `k` to what may be left after a run, longest run first. -/
def searchEager (cls : CharClass) (k : List Char → Option α) : List Char → Option α
  | [] => k []
  | c :: cs =>
    if cls.has c then
      match searchEager cls k cs with
      | .some a => .some a
      | none => k (c :: cs)
    else k (c :: cs)

/-- The first answer of `k` to what may be left after a run, shortest run first. -/
def searchLazy (cls : CharClass) (k : List Char → Option α) : List Char → Option α
  | [] => k []
  | c :: cs =>
    match k (c :: cs) with
    | .some a => .some a
    | none => if cls.has c then searchLazy cls k cs else none

/-- The first answer of `k` to a way of reading. -/
def search : Pattern → List Char → (List Part → List Char → Option α) → Option α
  | nothing, cs, k => k [] cs
  | literal t, cs, k => if t.isPrefixOf cs then k [] (cs.drop t.length) else none
  | one cls, cs, k =>
    match cs with
    | [] => none
    | c :: rest => if cls.has c then k [] rest else none
  | many cls eager, cs, k =>
    if eager then searchEager cls (k []) cs else searchLazy cls (k []) cs
  | seq p q, cs, k =>
    p.search cs fun groups rest => q.search rest fun more rest => k (groups ++ more) rest
  | either p q, cs, k =>
    match p.search cs k with
    | .some a => .some a
    | none => q.search cs k
  | group p, cs, k => p.search cs fun _ rest => k [⟨cs, rest⟩] rest

/-- The groups of the first way to read the whole line. -/
def match? (p : Pattern) (line : String) : Option (List String) :=
  p.search line.toList fun groups rest =>
    if rest.isEmpty then .some (groups.map fun part => String.ofList part.chars) else none

/-! ## The two agree -/

theorem searchEager_eq (cls : CharClass) (k : List Char → Option α) (cs : List Char) :
    searchEager cls k cs = (runRests cls cs).findSome? k := by
  induction cs with
  | nil =>
    simp only [searchEager, runRests, List.findSome?_cons, List.findSome?_nil]
    cases k [] <;> rfl
  | cons c cs ih =>
    unfold searchEager runRests
    split
    · rw [ih, List.findSome?_append]
      cases h : (runRests cls cs).findSome? k with
      | some a => rfl
      | none =>
        simp only [List.findSome?_cons, List.findSome?_nil, Option.none_or]
        cases k (c :: cs) <;> rfl
    · simp only [List.findSome?_cons, List.findSome?_nil]
      cases k (c :: cs) <;> rfl

theorem searchLazy_eq (cls : CharClass) (k : List Char → Option α) (cs : List Char) :
    searchLazy cls k cs = (runRests cls cs).reverse.findSome? k := by
  induction cs with
  | nil =>
    simp only [searchLazy, runRests, List.reverse_singleton, List.findSome?_cons,
      List.findSome?_nil]
    cases k [] <;> rfl
  | cons c cs ih =>
    unfold searchLazy runRests
    split <;> rename_i hk
    · split <;> simp [hk]
    · split <;> simp [hk, ih]

theorem search_eq_findSome? (p : Pattern) (cs : List Char)
    (k : List Part → List Char → Option α) :
    p.search cs k = (p.readings cs).findSome? fun x => k x.1 x.2 := by
  induction p generalizing cs k with
  | nothing =>
    simp only [search, readings, List.findSome?_cons, List.findSome?_nil]
    cases k [] cs <;> rfl
  | literal t =>
    unfold search readings
    split
    · simp only [List.findSome?_cons, List.findSome?_nil]
      cases k [] (cs.drop t.length) <;> rfl
    · rfl
  | one cls =>
    unfold search readings
    cases cs with
    | nil => rfl
    | cons c rest =>
      dsimp only
      split
      · simp only [List.findSome?_cons, List.findSome?_nil]
        cases k [] rest <;> rfl
      · rfl
  | many cls eager =>
    unfold search readings
    cases eager
    · simp only [Bool.false_eq_true, if_false, searchLazy_eq, List.findSome?_map]
      rfl
    · simp [searchEager_eq, List.findSome?_map, Function.comp_def]
  | seq p q ihp ihq =>
    unfold search readings
    rw [ihp]
    simp only [ihq]
    induction p.readings cs with
    | nil => rfl
    | cons x xs ih =>
      simp only [List.findSome?_cons, List.flatMap_cons, List.findSome?_append,
        List.findSome?_map, Function.comp_def, ih]
      cases (q.readings x.2).findSome? fun y => k (x.1 ++ y.1) y.2 <;> rfl
  | either p q ihp ihq =>
    unfold search readings
    rw [List.findSome?_append, ← ihp, ← ihq]
    cases p.search cs k <;> rfl
  | group p ih =>
    unfold search readings
    rw [ih, List.findSome?_map]
    rfl

end Pattern

end Discourse
