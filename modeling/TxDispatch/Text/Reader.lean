namespace TxDispatch.Text

/-- Gives what it read and what is left of the text, if it can read something. -/
abbrev Reader (α : Type) := List Char → Option (α × List Char)

def Reader.given (c : Char) : Reader Unit
  | d :: cs => if d == c then some ((), cs) else none
  | [] => none

def Reader.text : List Char → Reader Unit
  | [], cs => some ((), cs)
  | c :: rest, cs => do text rest (← given c cs).2

end TxDispatch.Text
