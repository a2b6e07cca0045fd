import LanguageServer.Text.Alphanumeric
import LanguageServer.Text.Whitespace

/-!
# Patterns

Which texts are regular expressions. The parts of a pattern stand for characters, or for bytes where
a flag says so; then a part that could end inside a character is refused. So is a condition on words
whose letters may be of any writing system. Parts may be nested, but not too deep. The module does
NOT match patterns, and it does NOT know what is written in braces: outside a set an opening brace
makes a text no pattern.
-/

namespace LanguageServer.Pattern

open Text

structure Mode where
  /-- Blanks and comments between parts do not count. -/
  spaced : Bool := false
  /-- Parts stand for characters, not for bytes. -/
  unicode : Bool := true

/-- Drops blanks and comments. A comment goes from a number sign to the end of its line. -/
def dropBlanks (inComment : Bool) : List Char → List Char
  | [] => []
  | c :: cs =>
    if inComment then dropBlanks (c != '\n') cs
    else if isWhitespace c then dropBlanks false cs
    else if c = '#' then dropBlanks true cs
    else c :: cs

theorem length_dropBlanks_le (inComment : Bool) (cs : List Char) :
    (dropBlanks inComment cs).length ≤ cs.length := by
  fun_induction dropBlanks inComment cs <;> grind

namespace Mode

def skip (mode : Mode) (cs : List Char) : List Char :=
  if mode.spaced then dropBlanks false cs else cs

theorem length_skip_le (mode : Mode) (cs : List Char) : (mode.skip cs).length ≤ cs.length := by
  unfold skip
  split
  · exact length_dropBlanks_le _ _
  · exact Nat.le_refl _

/-- The character after the next blanks. Of a comment only the sign before it is left out. -/
def peek? (mode : Mode) (cs : List Char) : Option Char :=
  if mode.spaced then
    match cs.dropWhile isWhitespace with
    | '#' :: cs => (cs.dropWhile isWhitespace).head?
    | cs => cs.head?
  else cs.head?

/-- The mode after some flags; those behind a minus sign are taken back. -/
def withFlags (mode : Mode) (flags : List Char) : Mode :=
  let state (flag : Char) (old : Bool) : Bool :=
    if flags.contains flag then !(flags.takeWhile (· != flag)).contains '-' else old
  { spaced := state 'x' mode.spaced, unicode := state 'u' mode.unicode }

end Mode

/-! ## Nesting -/

/-- How deep the parts of a group or a set are nested. -/
structure Level where
  /-- How many parts of the branch have been read. -/
  count : Nat := 0
  last : Nat := 0
  /-- The greatest depth of those before it. -/
  others : Nat := 0
  /-- The depth of what stands before the branch. -/
  before? : Option Nat := none

namespace Level

def depthMax : Nat := 250

def add (level : Level) (depth : Nat) : Level :=
  { level with count := level.count + 1, last := depth, others := max level.others level.last }

def repeatLast (level : Level) : Level := { level with last := level.last + 1 }

/-- Several parts are one level deeper than the deepest of them. -/
def branch (level : Level) : Nat :=
  if level.count ≤ 1 then level.last else max level.last level.others + 1

/-- So are several branches. -/
def total (level : Level) : Nat :=
  match level.before? with
  | none => level.branch
  | some depth => max depth level.branch + 1

def nextBranch (level : Level) : Level :=
  { before? := some (max (level.before?.getD 0) level.branch) }

/-- Begins another operand of a set; the operands before it are nested. -/
def nextOperand (level : Level) : Level := { before? := some level.total }

end Level

/-! ## Escapes -/

inductive Atom where
  | character (c : Char)
  | set
  /-- A condition on the place. -/
  | place
deriving DecidableEq, Repr

def controls : List (Char × Char) :=
  [('a', '\x07'), ('f', '\x0c'), ('t', '\t'), ('n', '\n'), ('r', '\r'), ('v', '\x0b')]

/-- What a single character stands for behind a backslash. -/
def escaped? (mode : Mode) (c : Char) : Option Atom :=
  if "dsw".toList.contains c then some .set
  else if "DSW".toList.contains c then if mode.unicode then some .set else none
  else if "Az".toList.contains c then some .place
  else if "bB<>".toList.contains c then if mode.unicode then none else some .place
  else
    match controls.lookup c with
    | some control => some (.character control)
    | none => if c.toNat < 0x80 && !c.isAlphanum then some (.character c) else none

def hexNumber? (mode : Mode) : Nat → Nat → List Char → Option (Nat × List Char)
  | 0, value, cs => some (value, cs)
  | count + 1, value, cs =>
    match mode.skip cs with
    | [] => none
    | c :: cs => (hexValue? c).bind fun digit => hexNumber? mode count (value * 16 + digit) cs

/-- A character by its number. Two digits write a byte where parts stand for bytes. -/
def numbered? (mode : Mode) (count : Nat) (cs : List Char) : Option (Atom × List Char) := do
  let (n, rest) ← hexNumber? mode count 0 cs
  if n.isValidChar && (mode.unicode || 2 < count || n < 0x80) then
    some (.character (.ofNat n), rest)
  else none

def categories : List Char := "clmnpsz".toList

def category? (mode : Mode) (cs : List Char) : Option (Atom × List Char) :=
  match mode.skip cs with
  | [] => none
  | c :: cs => if mode.unicode && categories.contains c.toLower then some (.set, cs) else none

def escape? (mode : Mode) : List Char → Option (Atom × List Char)
  | [] => none
  | 'x' :: cs => numbered? mode 2 cs
  | 'u' :: cs => numbered? mode 4 cs
  | 'U' :: cs => numbered? mode 8 cs
  | 'p' :: cs | 'P' :: cs => category? mode cs
  | c :: cs => (escaped? mode c).map (·, cs)

/-! ## Sets -/

def namedSets : List String :=
  ["alnum", "alpha", "ascii", "blank", "cntrl", "digit", "graph", "lower", "print", "punct",
    "space", "upper", "word", "xdigit"]

/-- Reads a named set behind its bracket and tells whether it is turned around. -/
def namedSet? : List Char → Option (Bool × List Char)
  | ':' :: cs =>
    let (negated, cs) := match cs with
      | '^' :: cs => (true, cs)
      | cs => (false, cs)
    match cs.dropWhile (· != ':') with
    | ':' :: ']' :: rest =>
      if namedSets.contains (.ofList (cs.takeWhile (· != ':'))) then some (negated, rest) else none
    | _ => none
  | _ => none

def openDashes (mode : Mode) (level : Level) : List Char → Level × List Char
  | '-' :: cs => openDashes mode (level.add 0) (mode.skip cs)
  | cs => (level, cs)
termination_by cs => cs.length
decreasing_by exact Nat.lt_succ_of_le (mode.length_skip_le cs)

/-- Reads the start of a set behind its bracket. A closing bracket or dashes at the start stand for
themselves, and a set of bytes is not turned around. -/
def openSet? (mode : Mode) (cs : List Char) : Option (Level × List Char) :=
  let (negated, cs) := match mode.skip cs with
    | '^' :: cs => (true, mode.skip cs)
    | cs => (false, cs)
  if negated && !mode.unicode then none
  else
    match cs with
    | ']' :: cs => some (Level.add {} 0, cs)
    | cs => some (openDashes mode {} cs)

def atom? (mode : Mode) : List Char → Option (Atom × List Char)
  | [] => none
  | '\\' :: cs => escape? mode cs
  | c :: cs => some (.character c, cs)

def Atom.isMember (mode : Mode) : Atom → Bool
  | character c => mode.unicode || c.toNat < 0x80
  | set => true
  | place => false

/-- Whether two things are the ends of a range. -/
def isRange (mode : Mode) : Atom → Atom → Bool
  | .character first, .character last => first ≤ last && (mode.unicode || last.toNat < 0x80)
  | _, _ => false

/-- Reads a member of a set or a range of members. A dash stands for itself at the end of a set and
before another one. -/
def member? (mode : Mode) (cs : List Char) : Option (List Char) := do
  let (first, rest) ← atom? mode cs
  let single := if first.isMember mode then some rest else none
  match mode.skip rest with
  | '-' :: cs =>
    match mode.peek? cs with
    | some ']' | some '-' => single
    | _ =>
      let (last, rest) ← atom? mode (mode.skip cs)
      if isRange mode first last then some rest else none
  | _ => single

/-- Reads one part of a set. The sets that are open are given from the innermost. -/
def setPart? (mode : Mode) (level : Level) (outer : List Level) (cs : List Char) :
    Option (List Level × List Char) :=
  match mode.skip cs with
  | '[' :: cs =>
    match namedSet? cs with
    | some (negated, cs) =>
      if negated && !mode.unicode then none else some (level.add 0 :: outer, cs)
    | none => do
      let (first, cs) ← openSet? mode cs
      some (first :: level :: outer, cs)
  | ']' :: cs =>
    match outer with
    | [] => none
    | next :: outer => some (next.add (level.total + 1) :: outer, cs)
  | '&' :: '&' :: cs | '-' :: '-' :: cs | '~' :: '~' :: cs =>
    some (level.nextOperand :: outer, cs)
  | cs => (member? mode cs).map (level.add 0 :: outer, ·)

/-- Reads on until only the level around the set is left, and gives that level. -/
def closeSet? (mode : Mode) (levels : List Level) (cs : List Char) : Option (Level × List Char) :=
  match levels with
  | [] => none
  | [level] => some (level, cs)
  | level :: outer =>
    match setPart? mode level outer cs with
    | none => none
    | some (levels, rest) =>
      if rest.length < cs.length then closeSet? mode levels rest else none
termination_by cs.length

/-! ## Groups -/

inductive Opening where
  | group (mode : Mode) (name? : Option (List Char))
  | flags (mode : Mode)

/-- A name starts with a letter or an underscore. -/
def isName : List Char → Bool
  | [] => false
  | c :: cs =>
    (c == '_' || isAlphabetic c) && cs.all fun c => "_.[]".toList.contains c || isAlphanumeric c

/-- Flags do not occur twice, and some have to follow a minus sign. -/
def areFlags (flags : List Char) : Bool :=
  flags.all ("imsURux-".toList.contains ·) && flags.eraseDups == flags &&
    flags.getLast? != some '-'

def named? (mode : Mode) (cs : List Char) : Option (Opening × List Char) :=
  let name := cs.takeWhile (· != '>')
  match cs.dropWhile (· != '>') with
  | [] => none
  | _ :: cs => if isName name then some (.group mode (some name), cs) else none

def flagged? (mode : Mode) (cs : List Char) : Option (Opening × List Char) :=
  let isFlag (c : Char) : Bool := c != ':' && c != ')'
  let flags := cs.takeWhile isFlag
  match cs.dropWhile isFlag with
  | [] => none
  | c :: cs =>
    if !areFlags flags then none
    else if c = ':' then some (.group (mode.withFlags flags) none, cs)
    else if flags.isEmpty then none
    else some (.flags (mode.withFlags flags), cs)

/-- Reads what stands behind an opening parenthesis up to the content of the group. -/
def opening? (mode : Mode) (cs : List Char) : Option (Opening × List Char) :=
  match mode.skip cs with
  | '?' :: 'P' :: '<' :: cs | '?' :: '<' :: cs => named? mode cs
  | '?' :: cs => flagged? mode cs
  | cs => some (.group mode none, cs)

/-! ## Whole patterns -/

structure State where
  mode : Mode := {}
  level : Level := {}
  /-- The open groups from the innermost, each with the mode and level outside it. -/
  around : List (Mode × Level) := []
  /-- Names of groups; they do not occur twice. -/
  names : List (List Char) := []
  repeatable : Bool := false

namespace State

def add (state : State) (depth : Nat) : State :=
  { state with level := state.level.add depth, repeatable := true }

def opened (state : State) : Opening → Option State
  | .flags mode => some { state with mode, level := state.level.add 0, repeatable := false }
  | .group mode name? =>
    if name?.any state.names.contains then none
    else some {
      mode
      around := (state.mode, state.level) :: state.around
      names := name?.toList ++ state.names }

def closed? (state : State) : Option State :=
  match state.around with
  | [] => none
  | (mode, level) :: around =>
    some (State.add { state with mode, level, around } (state.level.total + 1))

/-- Reads one part of a pattern. A question mark behind a repetition belongs to it. -/
def part? (state : State) : List Char → Option (State × List Char)
  | [] | '{' :: _ => none
  | '(' :: cs => do
    let (opening, cs) ← opening? state.mode cs
    some (← state.opened opening, cs)
  | ')' :: cs => state.closed?.map (·, cs)
  | '|' :: cs => some ({ state with level := state.level.nextBranch, repeatable := false }, cs)
  | '?' :: cs | '*' :: cs | '+' :: cs =>
    if state.repeatable then
      let state := { state with level := state.level.repeatLast }
      match cs with
      | '?' :: cs => some (state, cs)
      | cs => some (state, cs)
    else none
  | '[' :: cs => do
    let (first, cs) ← openSet? state.mode cs
    let (level, cs) ← closeSet? state.mode [first, state.level] cs
    some ({ state with level, repeatable := true }, cs)
  | '.' :: cs => if state.mode.unicode then some (state.add 0, cs) else none
  | cs => (atom? state.mode cs).map fun (_, cs) => (state.add 0, cs)

def accepts (state : State) (cs : List Char) : Bool :=
  match state.mode.skip cs with
  | [] => state.around.isEmpty && state.level.total ≤ Level.depthMax
  | next =>
    match state.part? next with
    | none => false
    | some (state, rest) => if rest.length < cs.length then state.accepts rest else false
termination_by cs.length

end State

def isPattern (cs : List Char) : Bool := State.accepts {} cs

end LanguageServer.Pattern
