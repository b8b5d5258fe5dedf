import Mathlib
import TagMenu.Proofs.Cache.Lookup
import TagMenu.Proofs.Source.Stages

namespace TagMenu

namespace Call

def own : Call → List String
  | noted (.progress text) => [text]
  | _ => []

def said : Call → List String
  | discovered _ said => said
  | _ => []

def load? : Call → Option (Path × Nat)
  | read path (.ok candidates) => some (path, candidates.length)
  | _ => none

def notes (calls : List Call) : List String := calls.flatMap own

def asides (calls : List Call) : List String := calls.flatMap said

def loads (calls : List Call) : List (Path × Nat) := calls.filterMap load?

def log (calls : List Call) : List String := calls.flatMap fun call => call.said ++ call.own

section

variable (calls more : List Call)

@[simp] theorem notes_append : notes (calls ++ more) = notes calls ++ notes more := List.flatMap_append

@[simp] theorem asides_append : asides (calls ++ more) = asides calls ++ asides more := List.flatMap_append

@[simp] theorem loads_append : loads (calls ++ more) = loads calls ++ loads more := List.filterMap_append

@[simp] theorem log_append : log (calls ++ more) = log calls ++ log more := List.flatMap_append

end

def tells (texts : List String) : List Call := texts.map fun text => noted (.progress text)

@[simp] theorem tells_append (texts more : List String) : tells (texts ++ more) = tells texts ++ tells more :=
  List.map_append

@[simp] theorem notes_tells (texts : List String) : notes (tells texts) = texts := by
  simp [notes, tells, own, List.flatMap_map]

@[simp] theorem asides_tells (texts : List String) : asides (tells texts) = [] := by
  simp [asides, tells, said, List.flatMap_map]

@[simp] theorem loads_tells (texts : List String) : loads (tells texts) = [] := by
  simp [loads, tells, load?]

@[simp] theorem log_tells (texts : List String) : log (tells texts) = texts := by
  simp [log, tells, own, said, List.flatMap_map]

theorem mem_log {calls : List Call} {text : String} (member : text ∈ log calls) :
    text ∈ asides calls ∨ text ∈ notes calls := by
  obtain ⟨call, called, told⟩ := List.mem_flatMap.mp member
  exact (List.mem_append.mp told).imp (fun told => List.mem_flatMap.mpr ⟨call, called, told⟩)
    fun told => List.mem_flatMap.mpr ⟨call, called, told⟩

end Call

namespace Source

variable {path other : Path} {count number : Nat} {text : String} {texts more : List String}

def loadedText (path : Path) (count : Nat) : String := path.text ++ ", with " ++ toString count ++ " tags"

theorem toList_loadedText (path : Path) (count : Nat) :
    (loadedText path count).toList =
      (path.text.toList ++ ", with".toList) ++ ' ' :: Nat.toDigits 10 count ++ " tags".toList := by
  simp [loadedText, Nat.toString_eq_repr]

theorem loadedText_inj (same : loadedText path count = loadedText other number) : path = other ∧ count = number := by
  have free : ∀ count, ∀ c ∈ (Nat.toDigits 10 count).reverse, decide (c ≠ ' ') = true := fun count c member => by
    have digit := Nat.isDigit_of_mem_toDigits (by decide) (by decide) (List.mem_reverse.mp member)
    rw [decide_eq_true_eq]
    rintro rfl
    exact absurd digit (by decide)
  -- From the end on, the number goes as far as the first blank, and then the rest is the path.
  have chars := congrArg String.toList same
  rw [toList_loadedText, toList_loadedText, List.append_left_inj] at chars
  have backwards := congrArg List.reverse chars
  simp only [List.reverse_append, List.reverse_cons, List.append_assoc, List.cons_append]
    at backwards
  have digits := congrArg (List.takeWhile (· ≠ ' ')) backwards
  rw [List.takeWhile_append_of_pos (free count), List.takeWhile_append_of_pos (free number),
    List.takeWhile_cons_of_neg (by decide), List.takeWhile_cons_of_neg (by decide), List.append_nil, List.append_nil,
    List.reverse_inj] at digits
  rw [digits, List.append_left_inj, List.append_left_inj] at chars
  have numbers : Nat.repr count = Nat.repr number := by
    rw [Nat.repr_eq_ofList_toDigits, Nat.repr_eq_ofList_toDigits, digits]
  exact ⟨congrArg Path.mk (String.toList_inj.mp chars), Nat.repr_inj.mp numbers⟩

/-- Is this text what the user is told of a load of the file, in some spelling? -/
def About (path : Path) (text : String) : Prop := ∃ other count, other.key = path.key ∧ text = loadedText other count

theorem about_loadedText : About path (loadedText other count) ↔ other.key = path.key := by
  constructor
  · rintro ⟨spelling, number, same, text⟩
    rwa [(loadedText_inj text).1]
  · exact fun same => ⟨other, count, same, rfl⟩

theorem not_about_of_end (ending : text.toList.getLast? ≠ some 's') : ¬ About path text := by
  rintro ⟨other, count, -, rfl⟩
  refine ending ?_
  rw [toList_loadedText, List.getLast?_append]
  rfl

/-- The last thing that these texts say of a file is how many candidates it has, under this path. -/
def Latest (texts : List String) (path : Path) (count : Nat) : Prop :=
  ∃ before after, texts = before ++ loadedText path count :: after ∧ ∀ text ∈ after, ¬ About path text

end Source

end TagMenu
