namespace TagMenu.Text

def isBlank (c : Char) : Bool :=
  let code := c.toNat
  (0x9 ≤ code && code ≤ 0xD) || code == 0x20 || code == 0x85 || code == 0xA0 || code == 0x1680 ||
    (0x2000 ≤ code && code ≤ 0x200A) || code == 0x2028 || code == 0x2029 || code == 0x202F ||
    code == 0x205F || code == 0x3000

def dropEndWhile (drop : Char → Bool) : List Char → List Char
  | [] => []
  | c :: rest =>
    match dropEndWhile drop rest with
    | [] => if drop c then [] else [c]
    | kept => c :: kept

def trimChars (chars : List Char) : List Char := dropEndWhile isBlank (chars.dropWhile isBlank)

end TagMenu.Text
