import TagMenu.Shell.Input

namespace TagMenu.Shell

/-- How far commands are read: to the end of a line, or to a token that ends them, with at least one
    command before it unless `mayBeEmpty`. -/
inductive Extent where
  | line
  | upTo (mayBeEmpty : Bool)
deriving DecidableEq, Repr

structure Manners where
  keywords : Bool := false
  skipLines : Bool := false
  aliases : Bool := false
  ending : Bool := false

def atCommand : Manners := { keywords := true, aliases := true }

def beforeCommand : Manners := { keywords := true, aliases := true, skipLines := true }

def unexpected {α : Type} (found : Token) : Reader α := fail (.unexpected found.name)

def notExpected {α : Type} (found expected : Token) : Reader α :=
  fail (.notExpected found.name expected.name)

def functionName? (word : Word) : Option Octets := do
  let name ← plainText? word
  if isName name && !specialCommands.contains name.toText then some name else none

structure Simple where
  line : Nat
  assignments : List Word := []
  words : List Word := []
  redirects : List Redirect := []

def Simple.command (simple : Simple) : Command :=
  .simple simple.line simple.assignments.reverse simple.words.reverse simple.redirects.reverse

def currentLine : Reader Nat := return (← get).line

def awaitDocument (ending : Octets) (dropTabs literal : Bool) : Reader Nat :=
  modifyGet fun input =>
    let number := input.nextDocument
    (number, { input with
      nextDocument := number + 1
      pending := input.pending ++ [{ number, ending, dropTabs, literal }] })

def keepDocument (number : Nat) (text : Word) : Reader Unit :=
  modify fun input => { input with documents := (number, text) :: input.documents }

def append (before? : Body) (command : Command) : Command :=
  match before? with
  | none => command
  | some before => .sequence before command

def inBackground : Command → Command
  | .redirected line body redirects => .background (.redirected line body redirects)
  | command => .background command

def lettersOf (word : Word) : Octets :=
  word.filterMap fun
    | .letter _ c => some c
    | _ => none

def allArguments : Word := [.parameter true ['@'] .keep]

mutual

def readLetters (bound : Nat) (purpose : Purpose) (draft : Draft) (next? : Option Char) :
    Reader (Draft × Option Char) :=
  match bound, next? with
  | 0, _ => fail .endless
  | _ + 1, none => return (draft, none)
  | bound + 1, some c => do
    let continueWith (draft : Draft) : Reader (Draft × Option Char) := do
      let next? ← if draft.frame.manner = .single then take else takeJoined
      let next? ← if c = '\n' then startLine purpose next? else pure next?
      readLetters bound purpose draft next?
    match draft.frame.manner, c with
    | .single, c => continueWith (if c = '\'' then draft.closeQuote purpose c else draft.letter c)
    | _, '\\' => continueWith (← readEscape purpose draft)
    | _, '$' => continueWith (← readDollar bound purpose draft)
    | _, '\x60' =>
      if purpose.isEnding then continueWith { draft.letter c with quotes := true }
      else
        let quoted := draft.frame.quoted
        let body ← readApart bound (← takeBackquoted quoted)
        continueWith (draft.add (.output quoted body))
    | _, '\x7d' => continueWith draft.closeBrace
    | .double, '"' => continueWith (draft.closeQuote purpose c)
    | .plain, '"' => continueWith (draft.openQuote purpose .double)
    | .plain, '\'' => continueWith (draft.openQuote purpose .single)
    | .plain, c =>
      if ['\n', '<', '>', '(', ')', ';', '&', '|', ' ', '\t'].contains c
          && draft.frame.braces = 0 then
        return (draft, some c)
      else continueWith (draft.letter c)
    | .formula, '(' =>
      let frame := draft.frame
      continueWith ({ draft with frame := { frame with brackets := frame.brackets + 1 } }.letter c)
    | .formula, ')' =>
      let frame := draft.frame
      if frame.brackets != 0 then
        let frame := { frame with brackets := frame.brackets - 1 }
        continueWith ({ draft with frame }.letter c)
      else
        let next? ← takeJoined
        if next? = some ')' then continueWith (draft.leave.add .close)
        else
          putBack next?
          continueWith (draft.letter c)
    | _, c => continueWith (draft.letter c)

def readDollar (bound : Nat) (purpose : Purpose) (draft : Draft) : Reader Draft :=
  match bound with
  | 0 => fail .endless
  | bound + 1 => do
    let next? ← takeJoined
    match purpose.isEnding, next? with
    | false, some '(' =>
      let next? ← takeJoined
      if next? = some '(' then
        let quoted := draft.frame.quoted
        return (draft.add (.openFormula quoted)).enter { manner := .formula, quoted := true }
      else
        putBack next?
        return draft.add (.output draft.frame.quoted (← readSubstitution bound))
    | false, some '\x7b' => readBracedParameter draft
    | false, some c =>
      if isNameStart c || isSpecial c then readBareParameter draft c
      else
        putBack next?
        return draft.letter '$'
    | _, next? =>
      putBack next?
      return draft.letter '$'

def readSubstitution (bound : Nat) : Reader Body :=
  match bound with
  | 0 => fail .endless
  | bound + 1 => do
    let pending := (← get).pending
    modify fun input => { input with pending := [] }
    let body ← readCommands bound (.upTo true) none
    match ← readToken bound {} with
    | .mark .closeBracket =>
      for missing in (← get).pending do
        keepDocument missing.number []
      modify fun input => { input with pending }
      return body
    | token => notExpected token (.mark .closeBracket)

def readApart (bound : Nat) (text : Octets) : Reader Body :=
  match bound with
  | 0 => fail .endless
  | bound + 1 => do
    let outer ← get
    set { outer with rest := text, line := 1, token? := none, pending := [], replaced := [] }
    let body ← readCommands bound (.upTo true) none
    let inner ← get
    set { outer with documents := inner.documents, nextDocument := inner.nextDocument }
    return body

def readDocuments (bound : Nat) : Reader Unit :=
  match bound with
  | 0 => fail .endless
  | bound + 1 => do
    match (← get).pending with
    | [] => return
    | pending :: rest =>
      modify fun input => { input with pending := rest }
      let purpose := Purpose.document pending
      let next? ← startLine purpose (← if pending.literal then take else takeJoined)
      let draft := Draft.ofManner (if pending.literal then .single else .double)
      let (draft, _) ← readLetters bound purpose draft next?
      if let some fault := draft.fault? true then fail fault
      keepDocument pending.number draft.word
      readDocuments bound

def readFreshToken (bound : Nat) (purpose : Purpose) : Reader Token :=
  match bound with
  | 0 => fail .endless
  | bound + 1 => do
    skipBlanks
    let next? ← takeJoined
    let either (sign : Char) (double single : Mark) : Reader Token := do
      let second? ← takeJoined
      if second? = some sign then return .mark double
      putBack second?
      return .mark single
    match next? with
    | none => return .endOfText
    | some '\n' => return .newline
    | some '&' => either '&' .both .ampersand
    | some '|' => either '|' .either .pipe
    | some ';' => either ';' .endOfCase .semicolon
    | some '(' => return .mark .openBracket
    | some ')' => return .mark .closeBracket
    | next? =>
      let (draft, after?) ← readLetters bound purpose (.ofManner .plain) next?
      if let some fault := draft.fault? false then fail fault
      match after?, draft.quotes with
      | some '<', false =>
        if let some descriptor := draft.descriptor? 0 then
          return .redirect descriptor (← readDirection '<')
      | some '>', false =>
        if let some descriptor := draft.descriptor? 1 then
          return .redirect descriptor (← readDirection '>')
      | _, _ => pure ()
      putBack after?
      return .word draft.word draft.quotes

def readToken (bound : Nat) (manners : Manners) : Reader Token :=
  match bound with
  | 0 => fail .endless
  | bound + 1 => do
    let token ← match (← get).token? with
      | some token =>
        modify fun input => { input with token? := none }
        pure token
      | none => readFreshToken bound (if manners.ending then .ending else .word)
    match token with
    | .newline =>
      if manners.skipLines then
        readDocuments bound
        readToken bound manners
      else return token
    | .word word false =>
      match plainText? word with
      | none => return token
      | some text =>
        if manners.keywords then
          if let some keyword := Keyword.ofText? text then return .keyword keyword
        if manners.aliases then
          if let some value := (← get).alias? text then
            replace text value
            return ← readToken bound manners
        return token
    | token => return token

def readRedirect (bound : Nat) (descriptor : Nat) (direction : Direction) : Reader Redirect :=
  match bound with
  | 0 => fail .endless
  | bound + 1 => do
    match direction with
    | .document dropTabs =>
      match ← readToken bound { ending := true } with
      | .word word quoted =>
        return .document descriptor (← awaitDocument (lettersOf word) dropTabs quoted)
      | token => unexpected token
    | .file opening =>
      match ← readToken bound {} with
      | .word word _ => return .file descriptor opening word
      | token => unexpected token
    | .copy =>
      match ← readToken bound {} with
      | .word word _ => return .copy descriptor word
      | token => unexpected token

def readRedirects (bound : Nat) : Reader (List Redirect) :=
  match bound with
  | 0 => fail .endless
  | bound + 1 => do
    match ← readToken bound atCommand with
    | .redirect descriptor direction =>
      let redirect ← readRedirect bound descriptor direction
      return redirect :: (← readRedirects bound)
    | token =>
      unread token
      return []

def readCommands (bound : Nat) (extent : Extent) (before? : Body) : Reader Body :=
  match bound with
  | 0 => fail .endless
  | bound + 1 => do
    let token ← readToken bound { atCommand with skipLines := extent != .line }
    let isEnd := token.endsCommands
      && (extent = .upTo true || before?.isSome && extent = .upTo false)
    match token with
    | .newline =>
      readDocuments bound
      return before?
    | .endOfText =>
      readDocuments bound
      unread token
      return before?
    | token =>
      unread token
      if isEnd then return before?
      let command ← readConditional bound (← readPipeline bound {})
      let token ← readToken bound {}
      let command := match token with
        | .mark .ampersand => inBackground command
        | _ => command
      let all := append before? command
      match token with
      | .endOfText =>
        readDocuments bound
        unread token
        return some all
      | .newline =>
        unread token
        readCommands bound extent (some all)
      | .mark .ampersand | .mark .semicolon => readCommands bound extent (some all)
      | token =>
        if extent = .line then unexpected token
        unread token
        return some all

def readConditional (bound : Nat) (first : Command) : Reader Command :=
  match bound with
  | 0 => fail .endless
  | bound + 1 => do
    match ← readToken bound {} with
    | .mark .both =>
      readConditional bound (.both first (← readPipeline bound beforeCommand))
    | .mark .either =>
      readConditional bound (.either first (← readPipeline bound beforeCommand))
    | token =>
      unread token
      return first

def readPipeline (bound : Nat) (manners : Manners) : Reader Command :=
  match bound with
  | 0 => fail .endless
  | bound + 1 => do
    let token ← readToken bound manners
    let isNegated := match token with
      | .keyword .negate => true
      | _ => false
    unless isNegated do unread token
    let first ← readCommand bound (if isNegated then atCommand else {})
    let rest ← readPiped bound
    let command := if rest.isEmpty then first else .pipeline (first :: rest)
    return if isNegated then .negate command else command

def readPiped (bound : Nat) : Reader (List Command) :=
  match bound with
  | 0 => fail .endless
  | bound + 1 => do
    match ← readToken bound {} with
    | .mark .pipe =>
      let command ← readCommand bound beforeCommand
      return command :: (← readPiped bound)
    | token =>
      unread token
      return []

def demand (bound : Nat) (manners : Manners) (keyword : Keyword) : Reader Unit :=
  match bound with
  | 0 => fail .endless
  | bound + 1 => do
    match ← readToken bound manners with
    | .keyword found =>
      unless found = keyword do notExpected (.keyword found) (.keyword keyword)
    | token => notExpected token (.keyword keyword)

def readCommand (bound : Nat) (manners : Manners) : Reader Command :=
  match bound with
  | 0 => fail .endless
  | bound + 1 => do
    let line ← currentLine
    let token ← readToken bound manners
    let redirected (body : Command) : Reader Command := do
      let redirects ← readRedirects bound
      return if redirects.isEmpty then body else .redirected line (some body) redirects
    match token with
    | .keyword .if_ =>
      redirected (← readBranch bound)
    | .keyword .while_ => redirected (← readLoop bound false)
    | .keyword .until_ => redirected (← readLoop bound true)
    | .keyword .for_ => redirected (← readEach bound line)
    | .keyword .case_ => redirected (← readChoice bound line)
    | .mark .openBracket =>
      let body ← readCommands bound (.upTo false) none
      match ← readToken bound {} with
      | .mark .closeBracket => return .subshell line body (← readRedirects bound)
      | token => notExpected token (.mark .closeBracket)
    | .keyword .openBrace =>
      let body ← readCommands bound (.upTo false) none
      demand bound {} .closeBrace
      let redirects ← readRedirects bound
      match body, redirects with
      | some body, [] => return body
      | body, redirects => return .redirected line body redirects
    | .word _ _ | .redirect _ _ =>
      unread token
      readSimple bound { line := ← currentLine }
    | token => unexpected token

def readBranch (bound : Nat) : Reader Command :=
  match bound with
  | 0 => fail .endless
  | bound + 1 => do
    let test ← readCommands bound (.upTo false) none
    demand bound {} .then_
    let body ← readCommands bound (.upTo false) none
    match ← readToken bound {} with
    | .keyword .elif_ => return .branch test body (some (← readBranch bound))
    | .keyword .else_ =>
      let otherwise ← readCommands bound (.upTo false) none
      demand bound {} .fi_
      return .branch test body otherwise
    | token =>
      unread token
      demand bound {} .fi_
      return .branch test body none

def readLoop (bound : Nat) (isUntil : Bool) : Reader Command :=
  match bound with
  | 0 => fail .endless
  | bound + 1 => do
    let test ← readCommands bound (.upTo false) none
    demand bound {} .do_
    let body ← readCommands bound (.upTo false) none
    demand bound {} .done_
    return .loop isUntil test body

def readWords (bound : Nat) : Reader (List Word) :=
  match bound with
  | 0 => fail .endless
  | bound + 1 => do
    match ← readToken bound {} with
    | .word word _ => return word :: (← readWords bound)
    | .newline | .mark .semicolon => return []
    | token => unexpected token

def readEach (bound : Nat) (line : Nat) : Reader Command :=
  match bound with
  | 0 => fail .endless
  | bound + 1 => do
    let name ← match ← readToken bound {} with
      | .word word _ =>
        match plainText? word with
        | some name => if isName name then pure name else fail .loopVariable
        | none => fail .loopVariable
      | _ => fail .loopVariable
    let words ← match ← readToken bound beforeCommand with
      | .keyword .in_ => readWords bound
      | .mark .semicolon => pure [allArguments]
      | token => do
        unread token
        pure [allArguments]
    demand bound beforeCommand .do_
    let body ← readCommands bound (.upTo false) none
    demand bound {} .done_
    return .each line name words body

def readChoice (bound : Nat) (line : Nat) : Reader Command :=
  match bound with
  | 0 => fail .endless
  | bound + 1 => do
    match ← readToken bound {} with
    | .word word _ =>
      demand bound beforeCommand .in_
      return .choose line word (← readCases bound)
    | token => notExpected token (.word [] false)

def readCases (bound : Nat) : Reader (List (List Word × Body)) :=
  match bound with
  | 0 => fail .endless
  | bound + 1 => do
    match ← readToken bound { keywords := true, skipLines := true } with
    | .keyword .esac_ => return []
    | token =>
      let first ← match token with
        | .mark .openBracket => readToken bound {}
        | token => pure token
      let forms ← readForms bound first
      let body ← readCommands bound (.upTo true) none
      match ← readToken bound { keywords := true, skipLines := true } with
      | .keyword .esac_ => return [(forms, body)]
      | .mark .endOfCase => return (forms, body) :: (← readCases bound)
      | token => notExpected token (.mark .endOfCase)

def readForms (bound : Nat) (first : Token) : Reader (List Word) :=
  match bound with
  | 0 => fail .endless
  | bound + 1 => do
    match ← readToken bound {} with
    | .mark .pipe =>
      let next ← readToken bound {}
      return first.asWord :: (← readForms bound next)
    | .mark .closeBracket => return [first.asWord]
    | token => notExpected token (.mark .closeBracket)

def readSimple (bound : Nat) (simple : Simple) : Reader Command :=
  match bound with
  | 0 => fail .endless
  | bound + 1 => do
    match ← readToken bound { aliases := simple.words.isEmpty } with
    | .word word _ =>
      if simple.words.isEmpty && isAssignment word then
        readSimple bound { simple with assignments := word :: simple.assignments }
      else readSimple bound { simple with words := word :: simple.words }
    | .redirect descriptor direction =>
      let redirect ← readRedirect bound descriptor direction
      readSimple bound { simple with redirects := redirect :: simple.redirects }
    | .mark .openBracket =>
      match simple with
      | { words := [word], assignments := [], redirects := [], .. } =>
        match ← readToken bound {} with
        | .mark .closeBracket =>
          let some name := functionName? word | fail .functionName
          let line ← currentLine
          return .define line name (← readCommand bound beforeCommand)
        | token => notExpected token (.mark .closeBracket)
      | simple =>
        unread (.mark .openBracket)
        return simple.command
    | token =>
      unread token
      return simple.command

end

def readingBound (length : Nat) : Nat := 16 * length + 4096

def readLine : Reader Body := do
  modify fun input => { input with token? := none, pending := [] }
  let input ← get
  let aliasLength := (input.aliases.map fun (_, text) => text.length).foldl (· + ·) 0
  readCommands (readingBound (input.rest.length + aliasLength)) .line none

end TagMenu.Shell
