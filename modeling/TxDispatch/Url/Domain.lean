import TxDispatch.Url.Domain.Direction
import TxDispatch.Url.Domain.Joiner
import TxDispatch.Url.Domain.Punycode

namespace TxDispatch.Url.Domain

open Text

def isDenied (c : Char) : Bool := c.toNat ≤ 0x20 || c == '\x7f' || "%#/:<>?@[\\]^|".toList.contains c

def read? (c : Char) : Option (List Char) :=
  if c.toNat < 0x80 then if isDenied c then none else some [c.toLower]
  else if refusedRuns.has c then none
  else if ignoredRuns.has c then some []
  else match asciiRuns.find? fun r => r.1 ≤ c.toNat && c.toNat ≤ r.2.1 with
    | some (first, _, a) => some [Char.ofNat (a.toNat + (c.toNat - first))]
    | none => match asciiTexts.find? fun t => t.1 == c.toNat with
      | some (_, text) => some text.toList
      | none => some [c]

def isFinal (c : Char) : Bool := read? c == some [c] && !mappedRuns.has c

/-- Whether characters make a label: they do not begin with a mark, and joiners are in place. -/
def isLabel (cs : List Char) : Bool := !(cs.head?.any markRuns.has) && Joiner.inPlace [] cs

/-- The characters that a label stands for, if it is in order. A label that is written in Punycode
has to be so for a reason, and has to give a label in its final form. -/
def characters? : List Char → Option (List Char)
  | 'x' :: 'n' :: '-' :: '-' :: rest => do
    let cs ← Punycode.decode? rest
    if cs.any (0x80 ≤ ·.toNat) && cs.all isFinal && isLabel cs then some cs else none
  | cs => if isLabel cs then some cs else none

def labels (cs : List Char) : List (List Char) := cs.splitOn '.'

def ofText? (cs : List Char) : Option (List Char) := do
  let name := (← cs.mapM read?).flatten
  if Direction.isOrdered (← (labels name).mapM characters?) then some name else none

end TxDispatch.Url.Domain
