import TagMenu.Shell.Numeral

namespace TagMenu.Shell

inductive BinaryOperator where
  | times
  | divide
  | remainder
  | plus
  | minus
  | shiftLeft
  | shiftRight
  | less
  | lessEqual
  | greater
  | greaterEqual
  | equal
  | notEqual
  | bitAnd
  | bitXor
  | bitOr
deriving DecidableEq, Repr

def BinaryOperator.level : BinaryOperator → Nat
  | times | divide | remainder => 0
  | plus | minus => 1
  | shiftLeft | shiftRight => 2
  | less | lessEqual | greater | greaterEqual => 3
  | equal | notEqual => 4
  | bitAnd => 5
  | bitXor => 6
  | bitOr => 7

def loosest : Nat := 8

inductive FormulaFault where
  | noPrimary
  | noBracket
  | noColon
  | noEnd
  | divisionByZero
deriving DecidableEq, Repr

def FormulaFault.message : FormulaFault → String
  | noPrimary => "expecting primary"
  | noBracket => "expecting ')'"
  | noColon => "expecting ':'"
  | noEnd => "expecting EOF"
  | divisionByZero => "division by zero"

/-- A formula as it is read. One that is not well formed holds what is wrong, at the place where that is
    found. -/
inductive Formula where
  | number (value : Int)
  | variable_ (name : Octets)
  | assign (name : Octets) (operator : Option BinaryOperator) (value : Formula)
  | choose (test yes no : Formula)
  | either (left right : Formula)
  | both (left right : Formula)
  | binary (operator : BinaryOperator) (left right : Formula)
  | negative (operand : Formula)
  | not (operand : Formula)
  | bitNot (operand : Formula)
  | missing (fault : FormulaFault)
  | unfinished (before : Formula) (fault : FormulaFault)
deriving Repr

inductive Term where
  | number (value : Int)
  | name (name : Octets)
  | binary (operator : BinaryOperator)
  | assign (operator : Option BinaryOperator)
  | both
  | either
  | question
  | colon
  | openBracket
  | closeBracket
  | not
  | bitNot
  | unknown
deriving DecidableEq, Repr

def withAssign (operator : BinaryOperator) : Octets → Term × Octets
  | '=' :: rest => (.assign (some operator), rest)
  | rest => (.binary operator, rest)

def nextTerm (c : Char) (rest : Octets) : Term × Octets :=
  match c, rest with
  | '=', '=' :: rest => (.binary .equal, rest)
  | '=', rest => (.assign none, rest)
  | '>', '=' :: rest => (.binary .greaterEqual, rest)
  | '>', '>' :: rest => withAssign .shiftRight rest
  | '>', rest => (.binary .greater, rest)
  | '<', '=' :: rest => (.binary .lessEqual, rest)
  | '<', '<' :: rest => withAssign .shiftLeft rest
  | '<', rest => (.binary .less, rest)
  | '|', '|' :: rest => (.either, rest)
  | '|', rest => withAssign .bitOr rest
  | '&', '&' :: rest => (.both, rest)
  | '&', rest => withAssign .bitAnd rest
  | '!', '=' :: rest => (.binary .notEqual, rest)
  | '!', rest => (.not, rest)
  | '*', rest => withAssign .times rest
  | '/', rest => withAssign .divide rest
  | '%', rest => withAssign .remainder rest
  | '+', rest => withAssign .plus rest
  | '-', rest => withAssign .minus rest
  | '^', rest => withAssign .bitXor rest
  | '(', rest => (.openBracket, rest)
  | ')', rest => (.closeBracket, rest)
  | '~', rest => (.bitNot, rest)
  | '?', rest => (.question, rest)
  | ':', rest => (.colon, rest)
  | c, rest =>
    if c.isDigit then
      let found := Numeral.ofStart false (c :: rest)
      (.number (clamp found.value), found.rest)
    else if isNameStart c then
      (.name (c :: rest.takeWhile isNamePart), rest.dropWhile isNamePart)
    else (.unknown, rest)

def terms : Nat → Octets → List Term
  | 0, _ | _ + 1, [] => []
  | bound + 1, c :: rest =>
    if c = ' ' || c = '\t' || c = '\n' then terms bound rest
    else
      let (term, rest) := nextTerm c rest
      term :: terms bound rest

abbrev Parsed := Formula × List Term

mutual

def parseAssignment (bound : Nat) (input : List Term) : Parsed :=
  match bound, input with
  | 0, _ => (.missing .noPrimary, input)
  | bound + 1, .name name :: .assign operator :: rest =>
    let (value, rest) := parseAssignment bound rest
    (.assign name operator value, rest)
  | bound + 1, input => parseChoice bound input

def parseChoice (bound : Nat) (input : List Term) : Parsed :=
  match bound with
  | 0 => (.missing .noPrimary, input)
  | bound + 1 =>
    match parseEither bound input with
    | (test, .question :: rest) =>
      match parseAssignment bound rest with
      | (yes, .colon :: rest) =>
        let (no, rest) := parseChoice bound rest
        (.choose test yes no, rest)
      | (yes, rest) => (.choose test yes (.missing .noColon), rest)
    | parsed => parsed

def parseEither (bound : Nat) (input : List Term) : Parsed :=
  match bound with
  | 0 => (.missing .noPrimary, input)
  | bound + 1 =>
    match parseBoth bound input with
    | (left, .either :: rest) =>
      let (right, rest) := parseEither bound rest
      (.either left right, rest)
    | parsed => parsed

def parseBoth (bound : Nat) (input : List Term) : Parsed :=
  match bound with
  | 0 => (.missing .noPrimary, input)
  | bound + 1 =>
    let (first, rest) := parsePrimary bound input
    match parseBinary bound first rest loosest with
    | (left, .both :: rest) =>
      let (right, rest) := parseBoth bound rest
      (.both left right, rest)
    | parsed => parsed

def parseBinary (bound : Nat) (left : Formula) (input : List Term) (level : Nat) : Parsed :=
  match bound, input with
  | 0, _ => (.unfinished left .noPrimary, input)
  | bound + 1, .binary operator :: rest =>
    if operator.level < level then
      let (right, rest) := parsePrimary bound rest
      let (right, rest) := parseBinary bound right rest operator.level
      parseBinary bound (.binary operator left right) rest level
    else (left, input)
  | _ + 1, _ => (left, input)

def parsePrimary (bound : Nat) (input : List Term) : Parsed :=
  match bound, input with
  | 0, _ => (.missing .noPrimary, input)
  | bound + 1, .openBracket :: rest =>
    match parseAssignment bound rest with
    | (inner, .closeBracket :: rest) => (inner, rest)
    | (inner, rest) => (.unfinished inner .noBracket, rest)
  | _ + 1, .number value :: rest => (.number value, rest)
  | _ + 1, .name name :: rest => (.variable_ name, rest)
  | bound + 1, .binary .plus :: rest => parsePrimary bound rest
  | bound + 1, .binary .minus :: rest =>
    let (operand, rest) := parsePrimary bound rest
    (.negative operand, rest)
  | bound + 1, .not :: rest =>
    let (operand, rest) := parsePrimary bound rest
    (.not operand, rest)
  | bound + 1, .bitNot :: rest =>
    let (operand, rest) := parsePrimary bound rest
    (.bitNot operand, rest)
  | _ + 1, input => (.missing .noPrimary, input)

end

def Formula.parse (text : Octets) : Formula :=
  let input := terms text.length text
  match parseAssignment (8 * input.length + 8) input with
  | (formula, []) => formula
  | (formula, _) => .unfinished formula .noEnd

def ofTruth (truth : Bool) : Int := if truth then 1 else 0

def places (n : Int) : Nat := unsigned n % 64

def bitwise (combine : Nat → Nat → Nat) (left right : Int) : Int :=
  wrap (combine (unsigned left) (unsigned right))

def BinaryOperator.apply (operator : BinaryOperator) (left right : Int) :
    Except FormulaFault Int :=
  match operator with
  | times => .ok (wrap (left * right))
  | divide => if right = 0 then .error .divisionByZero else .ok (wrap (left.tdiv right))
  | remainder => if right = 0 then .error .divisionByZero else .ok (left.tmod right)
  | plus => .ok (wrap (left + right))
  | minus => .ok (wrap (left - right))
  | shiftLeft => .ok (wrap (left * Nat.pow 2 (places right)))
  | shiftRight => .ok (left.fdiv (Nat.pow 2 (places right)))
  | less => .ok (ofTruth (left < right))
  | lessEqual => .ok (ofTruth (left ≤ right))
  | greater => .ok (ofTruth (left > right))
  | greaterEqual => .ok (ofTruth (left ≥ right))
  | equal => .ok (ofTruth (left = right))
  | notEqual => .ok (ofTruth (left != right))
  | bitAnd => .ok (bitwise Nat.land left right)
  | bitXor => .ok (bitwise Nat.xor left right)
  | bitOr => .ok (bitwise Nat.lor left right)

variable {m : Type → Type} [Monad m]

structure FormulaScope (m : Type → Type) where
  value : Octets → m Int
  assign : Octets → Int → m Unit
  refuse : FormulaFault → m Int

def FormulaScope.apply (scope : FormulaScope m) (operator : BinaryOperator) (left right : Int) :
    m Int :=
  match operator.apply left right with
  | .ok value => return value
  | .error fault => scope.refuse fault

/-- The value of a formula. What `counts` not has no effect and no value, only the faults of its form.
    Of what stands beside a condition one side counts. Everything is done in the order of the text, so
    that the first thing that is wrong is what is refused. -/
def Formula.evaluate (scope : FormulaScope m) (counts : Bool) : Formula → m Int
  | number value => return value
  | variable_ name => if counts then scope.value name else return 0
  | assign name operator value => do
    let value ← value.evaluate scope counts
    if !counts then return value
    let value ← match operator with
      | some operator => scope.apply operator (← scope.value name) value
      | none => pure value
    scope.assign name value
    return value
  | choose test yes no => do
    let test := (← test.evaluate scope counts) != 0
    let yes ← yes.evaluate scope (counts && test)
    let no ← no.evaluate scope (counts && !test)
    return if test then yes else no
  | either left right => do
    let left := (← left.evaluate scope counts) != 0
    let right := (← right.evaluate scope (counts && !left)) != 0
    return ofTruth (left || right)
  | both left right => do
    let left := (← left.evaluate scope counts) != 0
    let right := (← right.evaluate scope (counts && left)) != 0
    return ofTruth (left && right)
  | binary operator left right => do
    let left ← left.evaluate scope counts
    let right ← right.evaluate scope counts
    if counts then scope.apply operator left right else return right
  | negative operand => return wrap (-(← operand.evaluate scope counts))
  | not operand => return ofTruth ((← operand.evaluate scope counts) = 0)
  | bitNot operand => return -1 - (← operand.evaluate scope counts)
  | missing fault => scope.refuse fault
  | unfinished before fault => do
    let _ ← before.evaluate scope counts
    scope.refuse fault

end TagMenu.Shell
