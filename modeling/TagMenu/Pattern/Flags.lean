import TagMenu.Pattern.Fault

namespace TagMenu.Pattern

inductive Flag where
  | caseless
  | multiLine
  | dotAll
  | crlf
  | lazy
  | unicode
  | extended
deriving DecidableEq, Repr

def Flag.ofLetter? : Char → Option Flag
  | 'i' => some caseless
  | 'm' => some multiLine
  | 's' => some dotAll
  | 'R' => some crlf
  | 'U' => some lazy
  | 'u' => some unicode
  | 'x' => some extended
  | _ => none

/-- The flags in force. Which of several matches is preferred has no bearing on whether there is
    one, so that flag is not kept. -/
structure Flags where
  caseless : Bool := false
  multiLine : Bool := false
  dotAll : Bool := false
  crlf : Bool := false
  unicode : Bool := true
  extended : Bool := false
deriving DecidableEq, Repr

def Flags.set (flags : Flags) (value : Bool) : Flag → Flags
  | .caseless => { flags with caseless := value }
  | .multiLine => { flags with multiLine := value }
  | .dotAll => { flags with dotAll := value }
  | .crlf => { flags with crlf := value }
  | .lazy => flags
  | .unicode => { flags with unicode := value }
  | .extended => { flags with extended := value }

/-- The letters between a question mark and the colon or bracket that ends them: flags to set, then
    after a hyphen flags to clear. -/
structure FlagList where
  changes : List (Flag × Bool) := []
  negated : Bool := false
  dangling : Bool := false
deriving DecidableEq, Repr

namespace FlagList

def isEmpty (list : FlagList) : Bool := list.changes.isEmpty && !list.negated

def apply (list : FlagList) (flags : Flags) : Flags :=
  list.changes.foldr (fun (flag, value) flags => flags.set value flag) flags

def push (list : FlagList) (c : Char) : Except Fault FlagList :=
  if c = '-' then
    if list.negated then .error .danglingNegation
    else .ok { list with negated := true, dangling := true }
  else
    match Flag.ofLetter? c with
    | none => .error .unknownFlag
    | some flag =>
      if list.changes.any (·.1 = flag) then .error .repeatedFlag
      else .ok { list with changes := (flag, !list.negated) :: list.changes, dangling := false }

def read (list : FlagList) : List Char → Except Fault (FlagList × Char × List Char)
  | [] => .error .unclosedGroup
  | c :: rest =>
    if c = ':' ∨ c = ')' then
      if list.dangling then .error .danglingNegation else .ok (list, c, rest)
    else do
      let list ← list.push c
      list.read rest

end FlagList

end TagMenu.Pattern
