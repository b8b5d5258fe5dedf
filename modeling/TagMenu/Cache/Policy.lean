import TagMenu.Text.Shown

namespace TagMenu

inductive Eviction where
  | retain
  /-- They are dropped once so many refreshes in a row have not listed them. -/
  | idle (refreshes : UInt32)
deriving DecidableEq, Repr, Inhabited

namespace Eviction

/-- After how many refreshes without it a file is dropped, if ever. There has to be at least one. -/
def limit? : Eviction → Option Nat
  | retain => none
  | idle refreshes => some (Nat.max refreshes.toNat 1)

def shown : Eviction → Text.Shown
  | retain => .word "Retain"
  | idle refreshes => .wrapped "IdleRefreshes" (.number refreshes.toNat)

end Eviction

end TagMenu
