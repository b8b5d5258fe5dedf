import TagMenu.Text.Blank

namespace TagMenu.Text

/-- The pieces of `chars` between the separators, one more than there are separators. -/
def pieces (separator : Char) : List Char → List (List Char)
  | [] => [[]]
  | c :: rest =>
    if c = separator then [] :: pieces separator rest
    else
      match pieces separator rest with
      | [] => [[c]]
      | first :: others => (c :: first) :: others

def cutFirst? (separator : Char) : List Char → Option (List Char × List Char)
  | [] => none
  | c :: rest =>
    if c = separator then some ([], rest)
    else (cutFirst? separator rest).map fun (before, after) => (c :: before, after)

/-- What stands before the last mark and after it. A name that has none, or has nothing before it, stays as it is. -/
def cutExtension {α : Type} [DecidableEq α] (mark : α) (name : List α) : List α × Option (List α) :=
  let after := (name.reverse.takeWhile (· != mark)).reverse
  let before := name.take (name.length - after.length - 1)
  if before.isEmpty || after.length = name.length then (name, none) else (before, some after)

def dropFinal (c : Char) : List Char → List Char
  | [] => []
  | [d] => if d = c then [] else [d]
  | d :: e :: rest => d :: dropFinal c (e :: rest)

def dropTerminator (line : List Char) : List Char := dropFinal '\r' (dropFinal '\n' line)

/-- Pieces as lines: all but the last were ended by a line feed and lose a carriage return at
    their end; the last one counts only if it is not empty. -/
def linesOfPieces : List (List Char) → List (List Char)
  | [] => []
  | [last] => if last.isEmpty then [] else [last]
  | line :: next :: more => dropFinal '\r' line :: linesOfPieces (next :: more)

/-- The lines of a text. A line ends with a line feed, together with a carriage return directly
    before it; what follows the last line feed is a line if it is not empty. -/
def lines (chars : List Char) : List (List Char) := linesOfPieces (pieces '\n' chars)

def nonBlankLines (text : String) : List String :=
  ((lines text.toList).map fun line => String.ofList (trimChars line)).filter fun line =>
    !line.isEmpty

end TagMenu.Text
