namespace TagMenu.Pattern

inductive Fault where
  | unopenedGroup
  | unclosedGroup
  | unsupportedLookAround
  | badGroupName
  | repeatedGroupName
  | unknownFlag
  | repeatedFlag
  | danglingNegation
  | missingFlags
  | nothingToRepeat
  | missingCount
  | countTooLarge
  | unclosedCount
  | reversedCount
  | unfinishedEscape
  | unknownEscape
  | backreference
  | badHex
  | notACharacter
  | unknownWordEdge
  | unknownProperty
  | unclosedClass
  | badClassMember
  | badRangeEnd
  | reversedRange
  | notAscii
  | nestedTooDeep
  | tooLarge
deriving DecidableEq, Repr

end TagMenu.Pattern
