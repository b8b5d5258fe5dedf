import TagMenu.Shell.Octets

namespace TagMenu.Shell

def isNowhere (name : Octets) : Bool := name = "/dev/null".toList

def programs : List String :=
  ["sh", "cat", "printf", "echo", "true", "false", "test", "[", "pwd", "basename", "dirname"]

def isProgram (name : Octets) : Bool := (programs.map String.toList).contains name

def programDirectories : List String := ["/usr/bin/", "/bin/"]

def programAt? (path : Octets) : Option Octets :=
  let name := (path.reverse.takeWhile (· != '/')).reverse
  let directory := path.take (path.length - name.length)
  if isProgram name && (programDirectories.map String.toList).contains directory then some name
  else none

def standardPath : Octets :=
  "/usr/local/sbin:/usr/local/bin:/usr/sbin:/usr/bin:/sbin:/bin".toList

end TagMenu.Shell
