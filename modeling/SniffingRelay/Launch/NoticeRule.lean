import SniffingRelay.Launch.Notice
import SniffingRelay.Launch.NoticePattern
import SniffingRelay.Text.Blank
import SniffingRelay.Text.Numeral
import SniffingRelay.Text.Pieces

set_option autoImplicit false

-- A rule is a level, or a target of notices with the level up to which they are shown, as in
-- `relay=warn`. Between brackets a rule can name the work it is about and a field, as in
-- `relay[session{host}]=info`. A rule is scanned without the blanks around it, but its parts are
-- cut from the text as it was given, at the offsets that the scan found.

namespace SniffingRelay

/-- A field that has to be there, and what its value has to match. -/
structure FieldCondition where
  name : String
  value : Option String := none
  deriving DecidableEq, Repr

structure NoticeRule where
  -- What the targets of notices have to start with.
  target : Option String := none
  -- The name of the work that a notice has to come from.
  work : Option String := none
  field : Option FieldCondition := none
  -- The highest rank shown.
  rank : Nat
  deriving DecidableEq, Repr

namespace NoticeRule

/-- Why a text is no rule. -/
inductive Flaw where
  | malformed
  | badLevel
  | badPattern (flaw : Pattern.Flaw)
  -- An offset found in the scan is inside a character of the text as it was given.
  | insideCharacter
  deriving DecidableEq, Repr

def Flaw.message : Flaw -> String
  | .malformed => "invalid filter directive"
  | .badLevel =>
      "error parsing level filter: expected one of \"off\", \"error\", \"warn\", \"info\", \"debug\", "
        ++ "\"trace\", or a number 0-5"
  | .badPattern flaw => "invalid field filter: " ++ flaw.message
  | .insideCharacter => "offset is not a character boundary"

def everything : Nat := 5

def rankNames : List (String × Nat) :=
  [("", 1), ("off", 0), ("error", 1), ("warn", 2), ("info", 3), ("debug", 4), ("trace", 5)]

def readRank? (text : String) : Option Nat :=
  match Numeral.ofText everything text with
  | .ok rank => some rank
  | .error _ => rankNames.lookup text.toLower

def splitBytes : Nat -> List Char -> Except Flaw (List Char × List Char)
  | 0, text => .ok ([], text)
  | _ + 1, [] => .error .insideCharacter
  | count + 1, c :: rest =>
      if c.utf8Size ≤ count + 1 then do
        let (before, after) <- splitBytes (count + 1 - c.utf8Size) rest
        return (c :: before, after)
      else .error .insideCharacter

def cut (given : List Char) (start : Nat) (stop : Option Nat := none) : Except Flaw String := do
  let (_, after) <- splitBytes start given
  match stop with
  | none => return String.ofList after
  | some stop => do
      let (part, _) <- splitBytes (stop - start) after
      return String.ofList part

/-- What a scan is in the middle of, and where that started. -/
inductive Part where
  | nothing
  | levelOrTarget (start : Nat)
  | work (start : Nat)
  | field (start : Nat)
  | fieldEnd
  | targetEnd
  | level (start : Nat)
  deriving DecidableEq, Repr

def mayStart (c : Char) : Bool :=
  c ∈ ['-', ':', '_'] || Alphanumeric.isAlphanumeric c

-- A name, or a name and a value after an equals sign. What follows a second one is left out.
def readField (text : String) : Except Flaw FieldCondition :=
  match Pieces.ofText '=' text with
  | [""] => .error .malformed
  | name :: value :: _ =>
      match NoticePattern.flaw? value with
      | none => .ok { name, value := some value }
      | some flaw => .error (.badPattern flaw)
  | [name] => .ok { name }
  | [] => .error .malformed

def scanStep (given : List Char) (offset : Nat) (rule : NoticeRule) :
    Part -> Char -> Except Flaw (NoticeRule × Part)
  | .nothing, '[' => .ok (rule, .work (offset + 1))
  | .nothing, c => if mayStart c then .ok (rule, .levelOrTarget offset) else .error .malformed
  | .levelOrTarget start, '=' => do
      return ({ rule with target := some (<- cut given start offset) }, .level (offset + 1))
  | .levelOrTarget start, '[' => do
      return ({ rule with target := some (<- cut given start offset) }, .work (offset + 1))
  | .work start, ']' => do
      return ({ rule with work := some (<- cut given start offset) }, .targetEnd)
  | .work start, '\x7b' => do
      let work <- cut given start offset
      return ({ rule with work := if work = "" then none else some work }, .field (offset + 1))
  | .field start, '\x7d' => do
      return ({ rule with field := some (<- readField (<- cut given start offset)) }, .fieldEnd)
  | .fieldEnd, ']' => .ok (rule, .targetEnd)
  | .targetEnd, '=' => .ok (rule, .level (offset + 1))
  | .fieldEnd, _ | .targetEnd, _ => .error .malformed
  | part, _ => .ok (rule, part)

def scan (given : List Char) :
    Nat -> NoticeRule × Part -> List Char -> Except Flaw (NoticeRule × Part)
  | _, state, [] => .ok state
  | offset, (rule, part), c :: rest => do
      scan given (offset + c.utf8Size) (<- scanStep given offset rule part c) rest

-- A level that is left out is the highest, and what is no level is a target.
def finish (given : List Char) (rule : NoticeRule) : Part -> Except Flaw NoticeRule
  | .levelOrTarget start => do
      let text <- cut given start
      match readRank? text with
      | some rank => return { rule with rank }
      | none => return { rule with target := some text }
  | .level start => do
      let text <- cut given start
      if text = "" then return rule
      else
        match readRank? text with
        | some rank => return { rule with rank }
        | none => throw .badLevel
  | .targetEnd => .ok rule
  | .nothing | .work _ | .field _ | .fieldEnd => .error .malformed

def read (text : String) : Except Flaw NoticeRule := do
  let given := text.toList
  let (rule, part) <- scan given 0 ({ rank := everything }, .nothing) (Blank.trim given)
  finish given rule part

-- Whether the rule is about what happens inside some work or depends on the values of fields.
def isDynamic (rule : NoticeRule) : Bool :=
  rule.work.isSome || rule.field.any (·.value.isSome)

-- Whether the rule is about a notice that does not come from inside any work.
def fits (rule : NoticeRule) (notice : Notice) : Bool :=
  !rule.isDynamic
    && rule.target.all (·.toList.isPrefixOf notice.target.toList)
    && rule.field.all (·.name ∈ notice.fields)

-- Rules with longer targets are closer; of those, rules with a field, and with a later name.
def closeness (rule : NoticeRule) : Option Nat × Option String :=
  (rule.target.map String.utf8ByteSize, rule.field.map FieldCondition.name)

end NoticeRule

end SniffingRelay
