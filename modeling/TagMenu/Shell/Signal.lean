import TagMenu.Shell.Numeral

namespace TagMenu.Shell.Signal

def names : List String :=
  ["EXIT", "HUP", "INT", "QUIT", "ILL", "TRAP", "ABRT", "BUS", "FPE", "KILL", "USR1", "SEGV", "USR2",
    "PIPE", "ALRM", "TERM", "16", "CHLD", "CONT", "STOP", "TSTP", "TTIN", "TTOU", "URG", "XCPU",
    "XFSZ", "VTALRM", "PROF", "WINCH", "IO", "PWR", "SYS"]

def name (number : Nat) : Octets := (names[number]?.getD "").toList

def ofText? (text : Octets) : Option Nat :=
  if !text.isEmpty && text.all Char.isDigit then
    let number := Text.numeral 10 (text.filterMap Text.decimalValue?)
    if number < 65 then some number else none
  else names.findIdx? fun known => known.toList = text.map Char.toUpper

def isHarmless (number : Nat) : Bool := [0, 17, 18, 23, 28].contains number

def farewell (number : Nat) : Option String :=
  match number with
  | 1 => some "Hangup"
  | 3 => some "Quit"
  | 4 => some "Illegal instruction"
  | 6 => some "Aborted"
  | 8 => some "Floating point exception"
  | 9 => some "Killed"
  | 10 => some "User defined signal 1"
  | 11 => some "Segmentation fault"
  | 12 => some "User defined signal 2"
  | 14 => some "Alarm clock"
  | 15 => some "Terminated"
  | _ => none

end TagMenu.Shell.Signal
