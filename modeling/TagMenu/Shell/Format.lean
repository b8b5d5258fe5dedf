import TagMenu.Number.Double
import TagMenu.Shell.Numeral

namespace TagMenu.Shell

def readOctal (text : Octets) : Char × Octets :=
  let digits := (text.take 3).takeWhile fun c => (Text.octalValue? c).isSome
  (Char.ofNat (Text.numeral 8 (digits.filterMap Text.octalValue?) % 0x100), text.drop digits.length)

def readHex? (text : Octets) : Option (Char × Octets) :=
  let digits := (text.take 2).takeWhile fun c => (Text.hexValue? c).isSome
  if digits.isEmpty then none
  else some (Char.ofNat (Text.numeral 16 (digits.filterMap Text.hexValue?)), text.drop digits.length)

/-- What an escape stands for, after its backslash, and what follows it. With `more` there are also
    escapes for quotes and with hexadecimal digits. An escape that is unknown stands for its
    backslash. -/
def readFormatEscape (more : Bool) (text : Octets) : Char × Octets :=
  match text with
  | 'a' :: rest => ('\x07', rest)
  | 'b' :: rest => ('\x08', rest)
  | 'e' :: rest => ('\x1b', rest)
  | 'f' :: rest => ('\x0c', rest)
  | 'n' :: rest => ('\n', rest)
  | 'r' :: rest => ('\x0d', rest)
  | 't' :: rest => ('\t', rest)
  | 'v' :: rest => ('\x0b', rest)
  | '\\' :: rest => ('\\', rest)
  | c :: rest =>
    if (Text.octalValue? c).isSome then readOctal text
    else if more && c = '"' then ('"', rest)
    else if more && c = 'x' then (readHex? rest).getD ('\\', text)
    else ('\\', text)
  | [] => ('\\', [])

/-- A text with its escapes replaced, and whether one of them ends all output. An octal number can
    have a nought before it. There are at most `bound` characters. -/
def unescape (more : Bool) : Nat → Octets → Octets × Bool
  | 0, _ | _ + 1, [] => ([], false)
  | bound + 1, '\\' :: rest =>
    match rest with
    | 'c' :: _ => ([], true)
    | rest =>
      let rest := match rest with
        | '0' :: d :: after => if (Text.octalValue? d).isSome then d :: after else rest
        | rest => rest
      let (c, rest) := readFormatEscape more rest
      let (text, ends) := unescape more bound rest
      (c :: text, ends)
  | bound + 1, c :: rest =>
    let (text, ends) := unescape more bound rest
    (c :: text, ends)

def unescaped (more : Bool) (text : Octets) : Octets × Bool := unescape more (text.length + 1) text

structure Layout where
  left : Bool := false
  zeros : Bool := false
  plus : Bool := false
  blank : Bool := false
  alternate : Bool := false
  width : Nat := 0
  precision : Option Nat := none
deriving Repr

namespace Layout

def addFlag (layout : Layout) : Char → Layout
  | '-' => { layout with left := true }
  | '0' => { layout with zeros := true }
  | '+' => { layout with plus := true }
  | ' ' => { layout with blank := true }
  | _ => { layout with alternate := true }

def pad (layout : Layout) (text : Octets) : Octets :=
  let blanks := List.replicate (layout.width - text.length) ' '
  if layout.left then text ++ blanks else blanks ++ text

def padNumber (layout : Layout) (zeros : Bool) (sign digits : Octets) : Octets :=
  if zeros && !layout.left then
    sign ++ List.replicate (layout.width - sign.length - digits.length) '0' ++ digits
  else layout.pad (sign ++ digits)

def signOf (layout : Layout) (negative : Bool) : Octets :=
  if negative then ['-'] else if layout.plus then ['+'] else if layout.blank then [' '] else []

def fillDigits (layout : Layout) (magnitude : Nat) (digits : Octets) : Octets :=
  match layout.precision with
  | some 0 => if magnitude = 0 then [] else digits
  | some least => List.replicate (least - digits.length) '0' ++ digits
  | none => digits

def signedNumber (layout : Layout) (value : Int) : Octets :=
  let digits := layout.fillDigits value.natAbs (toString value.natAbs).toList
  layout.padNumber (layout.zeros && layout.precision.isNone) (layout.signOf (value < 0)) digits

def unsignedNumber (layout : Layout) (base : Nat) (start : Octets) (value : Nat) : Octets :=
  let digits := layout.fillDigits value (Nat.toDigits base value)
  layout.padNumber (layout.zeros && layout.precision.isNone) start digits

def octalNumber (layout : Layout) (value : Nat) : Octets :=
  let digits := layout.fillDigits value (Nat.toDigits 8 value)
  let digits := if layout.alternate && digits.head? != some '0' then '0' :: digits else digits
  layout.padNumber (layout.zeros && layout.precision.isNone) [] digits

def hexNumber (layout : Layout) (value : Nat) : Octets :=
  layout.unsignedNumber 16 (if layout.alternate && value != 0 then ['0', 'x'] else []) value

end Layout

def roundedQuotient (numerator denominator : Nat) : Nat :=
  let quotient := numerator / denominator
  let twice := 2 * (numerator % denominator)
  if twice > denominator || twice = denominator && quotient % 2 = 1 then quotient + 1 else quotient

def pointed (places : Nat) (pointAlways : Bool) (parts : Nat) : Octets :=
  let digits := (toString parts).toList
  let digits := List.replicate (places + 1 - digits.length) '0' ++ digits
  let whole := digits.take (digits.length - places)
  let fraction := digits.drop (digits.length - places)
  if places = 0 && !pointAlways then whole else whole ++ '.' :: fraction

def fixedText (places : Nat) (pointAlways : Bool) (numerator denominator : Nat) : Octets :=
  pointed places pointAlways (roundedQuotient (numerator * Nat.pow 10 places) denominator)

def scaledQuotient (numerator denominator : Nat) (power : Int) : Nat :=
  if power < 0 then roundedQuotient numerator (denominator * Nat.pow 10 (-power).toNat)
  else roundedQuotient (numerator * Nat.pow 10 power.toNat) denominator

def leadingPower (numerator denominator : Nat) : Int :=
  let guess : Int := (Nat.toDigits 10 numerator).length - (Nat.toDigits 10 denominator).length
  let reached := if guess < 0 then decide (denominator ≤ numerator * Nat.pow 10 (-guess).toNat)
    else decide (denominator * Nat.pow 10 guess.toNat ≤ numerator)
  if reached then guess else guess - 1

def scientific (places : Nat) (numerator denominator : Nat) : Nat × Int :=
  if numerator = 0 then (0, 0)
  else
    let power := leadingPower numerator denominator
    let digits := scaledQuotient numerator denominator (places - power)
    if digits = Nat.pow 10 (places + 1) then (Nat.pow 10 places, power + 1) else (digits, power)

def powerText (power : Int) : Octets :=
  let digits := (toString power.natAbs).toList
  (if power < 0 then '-' else '+') :: List.replicate (2 - digits.length) '0' ++ digits

def scientificText (places : Nat) (pointAlways : Bool) (numerator denominator : Nat) : Octets :=
  let (digits, power) := scientific places numerator denominator
  pointed places pointAlways digits ++ 'e' :: powerText power

def dropNoughts (text : Octets) : Octets :=
  let mantissa := text.takeWhile (· != 'e')
  let power := text.drop mantissa.length
  if mantissa.contains '.' then
    let kept := mantissa.reverse.dropWhile (· == '0')
    (match kept with
      | '.' :: kept => kept
      | kept => kept).reverse ++ power
  else text

def generalText (digits : Nat) (alternate : Bool) (numerator denominator : Nat) : Octets :=
  let digits := if digits = 0 then 1 else digits
  let (_, power) := scientific (digits - 1) numerator denominator
  let text := if -4 ≤ power && power < digits then
      fixedText (digits - 1 - power).toNat alternate numerator denominator
    else scientificText (digits - 1) alternate numerator denominator
  if alternate then text else dropNoughts text

def Layout.fraction (layout : Layout) (letter : Char) (value : Float) : Octets :=
  let double := Double.ofFloat value
  let negative := double.isNegative
  let upper (text : Octets) := if letter.isUpper then text.map Char.toUpper else text
  if value.isNaN then layout.pad (upper (layout.signOf negative ++ "nan".toList))
  else if value.isInf then layout.pad (upper (layout.signOf negative ++ "inf".toList))
  else
    let (numerator, denominator) := double.ratio
    let places := layout.precision.getD 6
    let digits := match letter.toLower with
      | 'f' => fixedText places layout.alternate numerator denominator
      | 'e' => scientificText places layout.alternate numerator denominator
      | _ => generalText places layout.alternate numerator denominator
    layout.padNumber layout.zeros (layout.signOf negative) (upper digits)

structure Fraction where
  value : Float
  rest : Octets
  fits : Bool

def readFraction? (text : Octets) : Option Fraction :=
  let text := text.dropWhile Octets.isSpace
  let (negative, text) := match text with
    | '-' :: rest => (true, rest)
    | '+' :: rest => (false, rest)
    | rest => (false, rest)
  let signed (value : Float) := if negative then -value else value
  let whole := text.takeWhile Char.isDigit
  let rest := text.drop whole.length
  let (fraction, rest) := match rest with
    | '.' :: after => (after.takeWhile Char.isDigit, after.dropWhile Char.isDigit)
    | rest => ([], rest)
  let digits := (whole ++ fraction).filterMap Text.decimalValue?
  if digits.isEmpty then
    let lower := (text.take 3).map Char.toLower
    if lower = "inf".toList then
      let long := (text.take 8).map Char.toLower = "infinity".toList
      some ⟨signed (1.0 / 0.0), text.drop (if long then 8 else 3), true⟩
    else if lower = "nan".toList then some ⟨signed (0.0 / 0.0), text.drop 3, true⟩
    else none
  else
    let (power, rest) := match rest with
      | e :: after =>
        let found := Numeral.read true after
        if (e = 'e' || e = 'E') && found.present && !(after.head?.any Octets.isSpace) then
          (found.value, found.rest)
        else (0, rest)
      | [] => (0, [])
    let power := power - fraction.length
    let significand := Text.numeral 10 digits
    -- Beyond this nothing is left of a number, or it is too large.
    let power := max (-5000) (min 5000 power)
    let value := Float.ofScientific significand (power < 0) power.natAbs
    some ⟨signed value, rest, !value.isInf && (value != 0 || significand = 0)⟩

structure Dialect where
  moreEscapes : Bool
  idleLetters : List Char
  notNumeric : Octets → Octets
  notWhole : Octets → Octets
  outOfRange : Octets → Octets
  noLetter : Octets → Octets
  unknownLetter : Octets → Octets

structure Printing where
  reversed : Octets := []
  arguments : List Octets
  complaints : List Octets := []
  asked : Bool := false

inductive Halt where
  | ended
  | wrong (text : Octets)

abbrev Print := ExceptT Halt (StateM Printing)

def print (text : Octets) : Print Unit :=
  modify fun printing => { printing with reversed := text.reverse ++ printing.reversed }

def nextArgument? : Print (Option Octets) := do
  let printing ← get
  set { printing with arguments := printing.arguments.drop 1, asked := true }
  return printing.arguments.head?

def note (text : Octets) : Print Unit :=
  modify fun printing => { printing with complaints := text :: printing.complaints }

def checkNumeral (dialect : Dialect) (argument rest : Octets) (present fits : Bool) :
    Print Unit := do
  if !rest.isEmpty then
    note (if present then dialect.notWhole argument else dialect.notNumeric argument)
  else if !fits then note (dialect.outOfRange argument)

def quotedNumber? : Octets → Option Int
  | '"' :: rest | '\'' :: rest => some (rest.head?.elim 0 fun c => c.toNat)
  | _ => none

def numberArgument (dialect : Dialect) (least most : Int) : Print Int := do
  let some argument ← nextArgument? | return 0
  if let some number := quotedNumber? argument then return number
  let found := Numeral.read false argument
  let fits := least ≤ found.value && found.value ≤ most
  checkNumeral dialect argument found.rest found.present fits
  return max least (min most found.value)

def wordArgument (dialect : Dialect) : Print Int :=
  numberArgument dialect smallestWord largestWord

def unsignedArgument (dialect : Dialect) : Print Nat := do
  let value ← numberArgument dialect (1 - wordCount) (wordCount - 1)
  return unsigned value

def fractionArgument (dialect : Dialect) : Print Float := do
  let some argument ← nextArgument? | return 0
  if let some number := quotedNumber? argument then return Float.ofInt number
  match readFraction? argument with
  | some found =>
    checkNumeral dialect argument found.rest true found.fits
    return found.value
  | none =>
    checkNumeral dialect argument argument false true
    return 0

def readSize (dialect : Dialect) (form : Octets) : Print (Int × Octets) := do
  match form with
  | '*' :: rest => return (← wordArgument dialect, rest)
  | form =>
    let digits := form.takeWhile Char.isDigit
    return (Text.numeral 10 (digits.filterMap Text.decimalValue?), form.drop digits.length)

def printPlace (dialect : Dialect) (layout : Layout) (letter : Char) (place : Octets) :
    Print Unit := do
  let cut (text : Octets) := match layout.precision with
    | some length => text.take length
    | none => text
  match letter with
  | 's' => print (layout.pad (cut ((← nextArgument?).getD [])))
  | 'b' =>
    let (text, ends) := unescaped dialect.moreEscapes ((← nextArgument?).getD [])
    print (layout.pad (cut text))
    if ends then throw .ended
  | 'c' => print (layout.pad [(((← nextArgument?).getD []).head?.getD '\x00')])
  | 'd' | 'i' => print (layout.signedNumber (← wordArgument dialect))
  | 'o' => print (layout.octalNumber (← unsignedArgument dialect))
  | 'u' => print (layout.unsignedNumber 10 [] (← unsignedArgument dialect))
  | 'x' => print (layout.hexNumber (← unsignedArgument dialect))
  | 'X' => print ((layout.hexNumber (← unsignedArgument dialect)).map Char.toUpper)
  | 'e' | 'E' | 'f' | 'F' | 'g' | 'G' =>
    print (layout.fraction letter (← fractionArgument dialect))
  | _ => throw (.wrong (dialect.unknownLetter place))

def printOnce (dialect : Dialect) : Nat → Octets → Print Unit
  | 0, _ | _ + 1, [] => return
  | bound + 1, '%' :: '%' :: rest => do
    print ['%']
    printOnce dialect bound rest
  | bound + 1, '%' :: start => do
    let isFlag (c : Char) := ['#', '-', '+', ' ', '0'].contains c
    let layout := (start.takeWhile isFlag).foldl Layout.addFlag {}
    let (width, rest) ← readSize dialect (start.dropWhile isFlag)
    let layout := { layout with left := layout.left || width < 0, width := width.natAbs }
    let (layout, rest) ← match rest with
      | '.' :: rest => do
        let (precision, rest) ← readSize dialect rest
        let precision := if precision < 0 then none else some precision.toNat
        pure ({ layout with precision }, rest)
      | rest => pure (layout, rest)
    let rest := rest.dropWhile fun c => dialect.idleLetters.contains c
    let place := '%' :: start.take (start.length - rest.length + 1)
    match rest with
    | [] => throw (.wrong (dialect.noLetter place))
    | letter :: rest =>
      printPlace dialect layout letter place
      printOnce dialect bound rest
  | bound + 1, '\\' :: rest => do
    if dialect.moreEscapes && rest.head? = some 'c' then throw .ended
    let (c, rest) := readFormatEscape dialect.moreEscapes rest
    print [c]
    printOnce dialect bound rest
  | bound + 1, c :: rest => do
    print [c]
    printOnce dialect bound rest

def printRounds (dialect : Dialect) (form : Octets) : Nat → Print Unit
  | 0 => return
  | rounds + 1 => do
    printOnce dialect (form.length + 1) form
    let printing ← get
    if printing.asked && !printing.arguments.isEmpty then printRounds dialect form rounds

structure Printed where
  text : Octets
  complaints : List Octets
  fault? : Option Octets
  unused : List Octets

def format (dialect : Dialect) (form : Octets) (arguments : List Octets) : Printed :=
  let (result, printing) := (printRounds dialect form (arguments.length + 1)).run.run { arguments }
  let fault? := match result with
    | .error (.wrong text) => some text
    | _ => none
  ⟨printing.reversed.reverse, printing.complaints.reverse, fault?, printing.arguments⟩

end TagMenu.Shell
