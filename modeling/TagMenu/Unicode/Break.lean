import TagMenu.Unicode.BreakTables
import TagMenu.Unicode.CodeSet

namespace TagMenu.Unicode.Break

def graphemeNames : List (String × String) := [
  ("cn", "control"), ("ex", "extend"), ("pp", "prepend"), ("ri", "regionalindicator"),
  ("sm", "spacingmark")]

def wordNames : List (String × String) := [
  ("dq", "doublequote"), ("ex", "extendnumlet"), ("fo", "format"), ("hl", "hebrewletter"),
  ("ka", "katakana"), ("le", "aletter"), ("mb", "midnumlet"), ("ml", "midletter"),
  ("mn", "midnum"), ("nl", "newline"), ("nu", "numeric"), ("ri", "regionalindicator"),
  ("sq", "singlequote")]

def sentenceNames : List (String × String) := [
  ("at", "aterm"), ("cl", "close"), ("ex", "extend"), ("fo", "format"), ("le", "oletter"),
  ("lo", "lower"), ("nu", "numeric"), ("sc", "scontinue"), ("se", "sep"), ("st", "sterm"),
  ("up", "upper")]

def codes? (tables names : List (String × String)) (name : String) : Option CodeSet :=
  (tables.lookup ((names.lookup name).getD name)).map CodeSet.ofTable

end TagMenu.Unicode.Break
