import TagMenu.Unicode.PropertyTables

namespace TagMenu.Unicode.Property

def shortNames : List (String × String) := [
  ("ahex", "asciihexdigit"), ("alpha", "alphabetic"), ("bidic", "bidicontrol"),
  ("ci", "caseignorable"), ("cwcf", "changeswhencasefolded"), ("cwcm", "changeswhencasemapped"),
  ("cwl", "changeswhenlowercased"), ("cwt", "changeswhentitlecased"),
  ("cwu", "changeswhenuppercased"), ("di", "defaultignorablecodepoint"), ("dep", "deprecated"),
  ("dia", "diacritic"), ("ecomp", "emojicomponent"), ("emod", "emojimodifier"),
  ("ebase", "emojimodifierbase"), ("epres", "emojipresentation"),
  ("extpict", "extendedpictographic"), ("ext", "extender"), ("grbase", "graphemebase"),
  ("grext", "graphemeextend"), ("hex", "hexdigit"), ("idsb", "idsbinaryoperator"),
  ("idst", "idstrinaryoperator"), ("idc", "idcontinue"), ("ids", "idstart"),
  ("ideo", "ideographic"), ("joinc", "joincontrol"), ("loe", "logicalorderexception"),
  ("lower", "lowercase"), ("nchar", "noncharactercodepoint"), ("patsyn", "patternsyntax"),
  ("patws", "patternwhitespace"), ("qmark", "quotationmark"), ("ri", "regionalindicator"),
  ("sterm", "sentenceterminal"), ("sd", "softdotted"), ("term", "terminalpunctuation"),
  ("uideo", "unifiedideograph"), ("upper", "uppercase"), ("vs", "variationselector"),
  ("wspace", "whitespace"), ("space", "whitespace"), ("xidc", "xidcontinue"),
  ("xids", "xidstart"), ("pcm", "prependedconcatenationmark"),
  ("bidim", "bidimirrored"), ("grlink", "graphemelink"), ("idsu", "idsunaryoperator"),
  ("mcm", "modifiercombiningmark"), ("oalpha", "otheralphabetic"),
  ("odi", "otherdefaultignorablecodepoint"), ("ogrext", "othergraphemeextend"),
  ("oidc", "otheridcontinue"), ("oids", "otheridstart"), ("olower", "otherlowercase"),
  ("omath", "othermath"), ("oupper", "otheruppercase")]

def codes? (name : String) : Option CodeSet :=
  (tables.lookup ((shortNames.lookup name).getD name)).map CodeSet.ofTable

def alphabetic : CodeSet := (codes? "alphabetic").getD .empty

end TagMenu.Unicode.Property
