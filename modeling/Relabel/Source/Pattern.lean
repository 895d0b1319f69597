import Relabel.Source.Scan

/-!
# Patterns of regular expressions

When a pattern is well-formed: groups and sets are closed, a quantifier has something to repeat, a
range goes upward, a back reference names a closed group, escaped letters have a meaning, and what
a look-behind looks for has a fixed width. Groups may be named, and may be left without a number,
tried once, chosen by another group, or read with other flags.
-/

namespace Relabel.Source.Pattern

/-- How many characters a part of a pattern can match: at least and, if bounded, at most. -/
structure Width where
  least : Nat := 0
  most : Option Nat := some 0
deriving Repr, DecidableEq, Inhabited

namespace Width

def one : Width := ⟨1, some 1⟩

def add (a b : Width) : Width :=
  ⟨a.least + b.least, (· + ·) <$> a.most <*> b.most⟩

def either (a b : Width) : Width :=
  ⟨min a.least b.least, max <$> a.most <*> b.most⟩

def times (w : Width) (least : Nat) (most : Option Nat) : Width :=
  let top := match w.most, most with
    | some 0, _ => some 0
    | some m, some n => some (m * n)
    | _, _ => none
  ⟨w.least * least, top⟩

def isFixed (w : Width) : Bool :=
  w.most == some w.least

end Width

/-- What stands before a quantifier. -/
inductive Item where
  | nothing
  | anchor
  | repeated
  | atom (width : Width)
deriving Repr, DecidableEq, Inhabited

def Item.width : Item → Width
  | atom width => width
  | _ => {}

structure Progress where
  rest : List Char
  /-- The groups in order of their opening; an open one has no width yet. -/
  groups : Array (Option Width) := #[]
  /-- The names of groups, with their places among the groups. -/
  names : List (String × Nat) := []
  /-- Inside a look-behind, the number of groups that were opened before it. -/
  before : Option Nat := none
  /-- The least number of groups that the pattern has to have. -/
  demand : Nat := 0

/-- Reading fails on a malformed pattern. -/
abbrev Reading (α : Type) : Type := StateT Progress Option α

def peek : Reading (Option Char) := do
  return (← get).rest.head?

def take? : Reading (Option Char) := do
  let p ← get
  set { p with rest := p.rest.drop 1 }
  return p.rest.head?

def take : Reading Char := do
  match ← take? with
  | some c => return c
  | none => failure

def require (condition : Bool) : Reading Unit :=
  if condition then return else failure

/-- Reads a character if it comes next. -/
def accept (c : Char) : Reading Bool := do
  if (← peek) == some c then
    let _ ← take?
    return true
  return false

def expect (c : Char) : Reading Unit := do
  require (← accept c)

/-- Reads at most so many characters of a class. -/
def takeRun (count : Nat) (p : Char → Bool) : Reading (List Char) := do
  let now ← get
  let digits := (now.rest.take count).takeWhile p
  set { now with rest := now.rest.drop digits.length }
  return digits

def digitRun : Reading (List Char) := do
  takeRun (← get).rest.length Char.isDigit

/-- Reads the text up to a mark, and the mark. There has to be a text. -/
def takeUntil (mark : Char) : Reading (List Char) := do
  let text ← takeRun (← get).rest.length (· != mark)
  expect mark
  require (!text.isEmpty)
  return text

/-- The number of a character. -/
def codeOf (c : Char) : Nat :=
  (Text.half? c).getD c.toNat

/-- The number of the character that a letter stands for after a backslash. -/
def controlCode? : Char → Option Nat
  | 'a' => some 7
  | 't' => some 9
  | 'n' => some 10
  | 'v' => some 11
  | 'f' => some 12
  | 'r' => some 13
  | _ => none

def isClassLetter (c : Char) : Bool :=
  "dDsSwW".toList.contains c

/-- Reads the digits of an escape of fixed length. -/
def fixedEscape (count : Nat) : Reading Nat := do
  let digits ← takeRun count isHexDigit
  let code := valueOf 16 digits
  require (digits.length == count && code ≤ 0x10FFFF)
  return code

/-- The number of the character after a backslash when it is one of the escapes known everywhere;
none for a class of characters. -/
def commonEscape (c : Char) : Reading (Option Nat) := do
  if isClassLetter c then return none
  else if let some code := controlCode? c then return some code
  else if c == 'x' then return some (← fixedEscape 2)
  else if c == 'u' then return some (← fixedEscape 4)
  else if c == 'U' then return some (← fixedEscape 8)
  else if c.isAlpha then failure
  else return some (codeOf c)

/-- A reference to a group, which has to be closed. A look-behind does not refer to a group inside
of itself. -/
def reference (place : Nat) : Reading Item := do
  let p ← get
  require (p.before.all (place < ·))
  match p.groups[place]? with
  | some (some width) => return .atom width
  | _ => failure

def namedReference (name : String) : Reading Item := do
  match (← get).names.lookup name with
  | some place => reference place
  | none => failure

def greatestOctal : Nat := 0o377

/-- An escaped number is an octal code or a group's number. -/
def numberEscape (c : Char) : Reading Item := do
  if c == '0' then
    let _ ← takeRun 2 isOctalDigit
    return .atom .one
  let second ← takeRun 1 Char.isDigit
  if isOctalDigit c && second.all isOctalDigit && !second.isEmpty &&
      (← peek).any isOctalDigit then
    let third ← take
    require (valueOf 8 (c :: second ++ [third]) ≤ greatestOctal)
    return .atom .one
  reference (valueOf 10 (c :: second) - 1)

/-- An escape outside of sets, after the backslash. -/
def escape : Reading Item := do
  let c ← take
  if "AbBZ".toList.contains c then return .anchor
  else if c.isDigit then numberEscape c
  else
    let _ ← commonEscape c
    return .atom .one

/-- The number of one member of a set; none for a class of characters. -/
def setMember : Reading (Option Nat) := do
  let c ← take
  if c != '\\' then return some (codeOf c)
  let c ← take
  if c == 'b' then return some 8
  else if isOctalDigit c then
    let code := valueOf 8 (c :: (← takeRun 2 isOctalDigit))
    require (code ≤ greatestOctal)
    return some code
  else if c.isDigit then failure
  else commonEscape c

/-- The members of a set up to the closing bracket, which counts as a member if it comes first. -/
def setMembers : Nat → Bool → Reading Unit
  | 0, _ => failure
  | fuel + 1, isFirst => do
    let isOver ← if isFirst then pure false else accept ']'
    if isOver then return
    let low ← setMember
    if ← accept '-' then
      if ← accept ']' then return
      match low, ← setMember with
      | some low, some high => require (low ≤ high)
      | _, _ => failure
    setMembers fuel false

def charSet : Reading Item := do
  let _ ← accept '^'
  setMembers (← get).rest.length.succ true
  return .atom .one

/-! ## Quantifiers -/

/-- A bound of a quantifier is less than this. -/
def boundLimit : Nat := 0xFFFFFFFF

/-- The bounds of a quantifier; none if a brace stands for itself. -/
def bounds? (c : Char) : Reading (Option (Nat × Option Nat)) := do
  if c == '?' then return some (0, some 1)
  else if c == '*' then return some (0, none)
  else if c == '+' then return some (1, none)
  let place ← get
  if (← peek) == some '\x7d' then return none
  let low ← digitRun
  let high ← if ← accept ',' then digitRun else pure low
  if !(← accept '\x7d') then
    set place
    return none
  let least := valueOf 10 low
  let most := if high.isEmpty then none else some (valueOf 10 high)
  require (least < boundLimit && most.all fun most ↦ least ≤ most && most < boundLimit)
  return some (least, most)

/-- A quantifier, or a brace that stands for itself. -/
def quantifier (c : Char) (last : Item) : Reading (Option Item) := do
  match ← bounds? c with
  | none => return none
  | some (least, most) =>
    match last with
    | .atom width =>
      if !(← accept '?') then
        let _ ← accept '+'
      return some (.atom (width.times least most))
    | _ => failure

/-- The flags that a group can set. -/
def flagLetters : List Char := "aimstux".toList

/-- Of these flags only one can be set, and none taken back. -/
def isAlphabetFlag (c : Char) : Bool :=
  c == 'a' || c == 'u'

/-- Reads flags up to a mark that is none. -/
def flagRun : Reading (List Char) := do
  takeRun (← get).rest.length flagLetters.contains

/-- What the flags at the start of a group are for. -/
inductive FlagScope where
  | group
  | whole
deriving Repr, DecidableEq

/-- Reads the flags of a group, and the mark after them. -/
def groupFlags : Reading FlagScope := do
  let on ← flagRun
  require (!(on.contains 'a' && on.contains 'u'))
  if !on.isEmpty && (← accept ')') then return .whole
  require (!on.contains 't')
  if ← accept '-' then
    let off ← flagRun
    require (!off.isEmpty && !off.any isAlphabetFlag && !off.contains 't' &&
      !off.any on.contains)
  expect ':'
  return .group

def isName (cs : List Char) : Bool :=
  !cs.contains '$' && match cs with
    | [] => false
    | c :: rest => Text.isIdentifierStart c && rest.all Text.isIdentifierPart

/-- Reads a name up to a mark. -/
def nameUntil (mark : Char) : Reading String := do
  let name ← takeUntil mark
  require (isName name)
  return String.ofList name

/-- Opens a group and gives its place. -/
def openGroup (name : Option String) : Reading Nat := do
  let p ← get
  let place := p.groups.size
  match name with
  | some name =>
    require (p.names.lookup name).isNone
    set { p with groups := p.groups.push none, names := (name, place) :: p.names }
  | none => set { p with groups := p.groups.push none }
  return place

def closeGroup (place : Nat) (width : Width) : Reading Unit :=
  modify fun p ↦ { p with groups := p.groups.set! place (some width) }

/-- The group on which a choice depends, by name or number. A number may be that of a later
group. -/
def chooser : Reading Unit := do
  let text ← takeUntil ')'
  let p ← get
  let place ← if isName text then
      match p.names.lookup (String.ofList text) with
      | some place => pure place
      | none => failure
    else do
      require (text.all Char.isDigit && valueOf 10 text != 0)
      modify fun p ↦ { p with demand := max p.demand (valueOf 10 text) }
      pure (valueOf 10 text - 1)
  if p.before.isSome then
    let _ ← reference place

mutual

/-- A group, after its opening parenthesis; none for what adds nothing to the pattern. At the start
of the pattern flags can be set for all of it. -/
def group : Nat → Bool → Reading (Option Item)
  | 0, _ => failure
  | fuel + 1, isStart => do
    if !(← accept '?') then return some (.atom (← numbered fuel none))
    let c ← take
    if c == ':' || c == '>' then return some (.atom (← closed fuel))
    else if c == '=' || c == '!' then
      let _ ← closed fuel
      return some (.atom {})
    else if c == '<' then
      let c ← take
      require (c == '=' || c == '!')
      return some (.atom (← lookBehind fuel))
    else if c == 'P' then
      if ← accept '<' then return some (.atom (← numbered fuel (some (← nameUntil '>'))))
      expect '='
      some <$> namedReference (← nameUntil ')')
    else if c == '#' then
      let _ ← takeRun (← get).rest.length (· != ')')
      expect ')'
      return none
    else if c == '(' then
      chooser
      return some (.atom (← choice fuel))
    else
      modify fun p ↦ { p with rest := c :: p.rest }
      match ← groupFlags with
      | .whole =>
        require isStart
        return none
      | .group => return some (.atom (← closed fuel))

/-- A group that has a number, after the head of the group. -/
def numbered : Nat → Option String → Reading Width
  | 0, _ => failure
  | fuel + 1, name => do
    let place ← openGroup name
    let width ← closed fuel
    closeGroup place width
    return width

/-- A look-behind, after its head. It matches nothing itself. -/
def lookBehind : Nat → Reading Width
  | 0 => failure
  | fuel + 1 => do
    let outer := (← get).before
    modify fun p ↦ { p with before := p.before.or (some p.groups.size) }
    let width ← closed fuel
    modify fun p ↦ { p with before := outer }
    require (width.isFixed && width.least ≤ boundLimit)
    return {}

/-- The one or two alternatives of a choice, with the parenthesis that closes them. -/
def choice : Nat → Reading Width
  | 0 => failure
  | fuel + 1 => do
    let yes ← sequence fuel false {} .nothing
    let width ← if ← accept '|' then
        pure (yes.either (← sequence fuel false {} .nothing))
      else pure (yes.either {})
    expect ')'
    return width

/-- Alternatives with the parenthesis that closes them. -/
def closed : Nat → Reading Width
  | 0 => failure
  | fuel + 1 => do
    let width ← alternatives fuel false
    expect ')'
    return width

def alternatives : Nat → Bool → Reading Width
  | 0, _ => failure
  | fuel + 1, isStart => do
    let first ← sequence fuel isStart {} .nothing
    if ← accept '|' then return first.either (← alternatives fuel false) else return first

/-- Items one after another; `last` is not yet added to the width. -/
def sequence : Nat → Bool → Width → Item → Reading Width
  | 0, _, _, _ => failure
  | fuel + 1, isStart, before, last => do
    match ← peek with
    | none | some '|' | some ')' => return before.add last.width
    | some c =>
      let _ ← take
      if c == '*' || c == '+' || c == '?' || c == '\x7b' then
        match ← quantifier c last with
        | some item => sequence fuel false (before.add item.width) .repeated
        | none => sequence fuel false (before.add last.width) (.atom .one)
      else
        let item ← if c == '\\' then some <$> escape
          else if c == '[' then some <$> charSet
          else if c == '(' then group fuel isStart
          else if c == '^' || c == '$' then pure (some .anchor)
          else pure (some (.atom .one))
        match item with
        | some item => sequence fuel false (before.add last.width) item
        | none => sequence fuel isStart before last

end

/-- Stands for the characters beyond the basic plane. -/
def astralCode : Nat := 0xFFFF

/-- Replaces the escapes of characters by the characters; none if one is out of range. -/
def unescape : Nat → List Char → Option (List Char)
  | 0, cs => some cs
  | _, [] => some []
  | fuel + 1, '\\' :: 'u' :: rest =>
    let four := (rest.take 4).takeWhile isHexDigit
    let inner := (rest.drop 1).takeWhile isHexDigit
    let after := (rest.drop 1).dropWhile isHexDigit
    if rest.head? == some '\x7b' && !inner.isEmpty && after.head? == some '\x7d' then
      let code := valueOf 16 inner
      if 0x10FFFF < code then none
      else (Text.ofCode (min code astralCode) :: ·) <$> unescape fuel (after.drop 1)
    else if four.length = 4 then
      (Text.ofCode (valueOf 16 four) :: ·) <$> unescape fuel (rest.drop 4)
    else ('\\' :: ·) <$> unescape fuel ('u' :: rest)
  | fuel + 1, c :: rest => (c :: ·) <$> unescape fuel rest

/-- Joins the two halves of a surrogate pair. -/
def joinHalves : List Char → List Char
  | high :: low :: rest =>
    let isPair := (Text.half? high).any (· < 0xDC00) && (Text.half? low).any (0xDC00 ≤ ·)
    if isPair then Text.ofCode astralCode :: joinHalves rest
    else high :: joinHalves (low :: rest)
  | cs => cs

def isWellFormed (pattern : List Char) : Bool :=
  match unescape pattern.length pattern with
  | none => false
  | some cs =>
    let cs := joinHalves cs
    match (alternatives (4 * cs.length + 4) true).run { rest := cs } with
    | some (_, p) => p.rest.isEmpty && p.demand ≤ p.groups.size
    | none => false

end Relabel.Source.Pattern
