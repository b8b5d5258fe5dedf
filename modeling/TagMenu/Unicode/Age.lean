import TagMenu.Unicode.AgeTables
import TagMenu.Unicode.CodeSet

namespace TagMenu.Unicode.Age

def isNamed (version name : String) : Bool :=
  name == version || name.toList == 'v' :: version.toList.filter (· != '.')

def codes? (name : String) : Option CodeSet :=
  (tables.findIdx? fun (version, _) => isNamed version name).map fun i =>
    (tables.take (i + 1)).foldr (fun (_, table) => (CodeSet.ofTable table).union) .empty

end TagMenu.Unicode.Age
