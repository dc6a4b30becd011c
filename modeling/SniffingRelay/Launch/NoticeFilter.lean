import SniffingRelay.Launch.NoticeRule
import SniffingRelay.Text.Pieces

set_option autoImplicit false

-- A comma-separated list of rules. Of the rules that fit a notice the closest decides, and of
-- equals the last.

namespace SniffingRelay

structure NoticeFilter where
  rules : List NoticeRule
  deriving DecidableEq, Repr

namespace NoticeFilter

def pieces (text : String) : List String :=
  (Pieces.ofText ',' text).filter (· ≠ "")

-- Without any rule, notices are shown up to a rank.
def ofRules (rank : Nat) : List NoticeRule -> NoticeFilter
  | [] => ⟨[{ rank }]⟩
  | rules => ⟨rules⟩

-- Every rule has to be well formed, and nothing is shown without rules.
def read (text : String) : Except NoticeRule.Flaw NoticeFilter := do
  return ofRules 0 (<- (pieces text).mapM NoticeRule.read)

/-- A part of a text that is no rule. -/
structure Rejected where
  text : String
  flaw : NoticeRule.Flaw
  deriving DecidableEq, Repr

def Rejected.message (rejected : Rejected) : String :=
  "ignoring \x60" ++ rejected.text ++ "\x60: " ++ rejected.flaw.message

/-- What reading a text leniently comes to. There is no filter if the reading broke off. -/
structure Reading where
  filter : Option NoticeFilter
  rejected : List Rejected := []
  deriving DecidableEq, Repr

-- Rules that are not well formed are left out. The reading breaks off inside a character.
def readPieces : List NoticeRule -> List Rejected -> List String -> Reading
  | rules, rejected, [] => { filter := some (ofRules 1 rules), rejected }
  | rules, rejected, piece :: later =>
      match NoticeRule.read piece with
      | .ok rule => readPieces (rules ++ [rule]) rejected later
      | .error .insideCharacter => { filter := none, rejected }
      | .error flaw => readPieces rules (rejected ++ [{ text := piece, flaw }]) later

-- Only errors are shown without rules.
def readLeniently (text : String) : Reading := readPieces [] [] (pieces text)

-- The filter in the environment if it is well formed, or else another one.
def choose (given : Option String) (fallback : String) : Reading :=
  match given.map read with
  | some (.ok filter) => { filter := some filter }
  | some (.error .insideCharacter) => { filter := none }
  | some (.error _) | none => readLeniently fallback

def closer (best : Option NoticeRule) (rule : NoticeRule) : Option NoticeRule :=
  match best with
  | none => some rule
  | some other =>
      if (compareLex (compareOn Prod.fst) (compareOn Prod.snd)
        rule.closeness other.closeness).isLT then some other
      else some rule

def shows (filter : NoticeFilter) (notice : Notice) : Bool :=
  match (filter.rules.filter (·.fits notice)).foldl closer none with
  | none => false
  | some rule => notice.severity.rank ≤ rule.rank

end NoticeFilter

end SniffingRelay
