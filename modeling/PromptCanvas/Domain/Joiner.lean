import PromptCanvas.Domain.Joiner.Table
import PromptCanvas.Text.Combining

set_option autoImplicit false
set_option relaxedAutoImplicit false

namespace PromptCanvas.Domain

inductive Joining where
  | both
  | next
  | previous
  | transparent
  | none
  deriving Repr, DecidableEq

namespace Joiner

def read : List Char → Joining
  | ['D'] => .both
  | ['L'] => .next
  | ['R'] => .previous
  | ['T'] => .transparent
  | _ => .none

def table : Text.CharTable Joining := .ofLines read lines

def joining (c : Char) : Joining := (table.get? c.toNat).getD .none

def nonJoiner : Char := '\u200c'

def joiner : Char := '\u200d'

/-- The first way of joining that is not passed over, in the order given. -/
def firstJoining? (cs : List Char) : Option Joining :=
  (cs.map joining).find? (· ≠ .transparent)

/-- Whether letters would join over a place; those before it come last first. -/
def wouldJoin (before after : List Char) : Bool :=
  (firstJoining? before).any (fun j => j = .both || j = .next) &&
    (firstJoining? after).any fun j => j = .both || j = .previous

def isAllowed (before : List Char) (c : Char) (after : List Char) : Bool :=
  before.head?.any Text.isVirama || (c = nonJoiner && wouldJoin before after)

/-- Whether every joiner in the rest of a label is allowed; what stands before comes last first. -/
def allAllowedFrom (before : List Char) : List Char → Bool
  | [] => true
  | c :: after =>
    ((c ≠ nonJoiner && c ≠ joiner) || isAllowed before c after) &&
      allAllowedFrom (c :: before) after

def allAllowed (label : List Char) : Bool := allAllowedFrom [] label

end Joiner

end PromptCanvas.Domain
