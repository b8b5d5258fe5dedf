import Mathlib
import TagMenu.Command.Arguments
import TagMenu.Pattern.Progress

namespace TagMenu.Command

open Pattern (ok_of_bind)

variable {level : Level} {given after : Given} {form : OptionForm} {value name argument : String}
  {attached : Option String} {chars : List Char} {arguments : List String}

/-- All values that have been taken are such as their options accept, and what waits for a value is an option. -/
structure Level.Admits (level : Level) (given : Given) : Prop where
  taken : ∀ option ∈ given.options, ∃ form ∈ level.options, form.name = option.1 ∧
    ∀ accepts, form.purpose = .value accepts → accepts option.2 = true
  pending : ∀ waiting ∈ given.pending, waiting.1 ∈ level.options

namespace Level

theorem admits_nothing (level : Level) : level.Admits {} := ⟨by simp, by simp⟩

theorem Admits.take (admits : level.Admits given) (listed : form ∈ level.options)
    (run : given.take form value = .ok after) : level.Admits after := by
  unfold Given.take at run
  split at run
  · cases run
  · have more : (∀ accepts, form.purpose = .value accepts → accepts value = true) →
        level.Admits { given with options := given.options ++ [(form.name, value)] } := fun accepted =>
      ⟨List.forall_mem_append.mpr ⟨admits.taken, by simpa using ⟨form, listed, rfl, accepted⟩⟩, admits.pending⟩
    cases purpose : form.purpose with
    | flag =>
      simp only [purpose] at run
      cases run
      exact more fun _ other => by simp [purpose] at other
    | value accepts =>
      simp only [purpose] at run
      split at run
      · cases run
        exact more fun _ same => by simp_all
      · cases run
    | print text =>
      simp only [purpose] at run
      cases run

theorem Admits.settle (admits : level.Admits given) (run : given.settle = .ok after) : level.Admits after := by
  unfold Given.settle at run
  split at run
  · cases run
    exact admits
  · cases run
  · rename_i form value waits
    have cleared : level.Admits { given with pending := none } := ⟨admits.taken, by simp⟩
    exact cleared.take (admits.pending _ waits) run

theorem Admits.addWord (admits : level.Admits given) (run : given.addWord level value = .ok after) :
    level.Admits after := by
  obtain ⟨settled, first, run⟩ := ok_of_bind run
  have kept := admits.settle first
  by_cases full : level.limit.any (· ≤ settled.words.length) = true
  · simp only [full, if_true] at run
    cases run
  · cases fits : level.acceptsWord value with
    | false =>
      simp only [full, fits] at run
      cases run
    | true =>
      simp only [full, fits] at run
      cases run
      exact ⟨kept.taken, kept.pending⟩

theorem Admits.addOption (admits : level.Admits given) (listed : form ∈ level.options)
    (run : given.addOption form attached = .ok after) : level.Admits after := by
  obtain ⟨settled, first, run⟩ := ok_of_bind run
  have kept := admits.settle first
  split at run
  · cases run
    exact ⟨kept.taken, by simpa using listed⟩
  · exact kept.take listed run
  · exact kept.take listed run
  · cases run

theorem Admits.readLong (admits : level.Admits given) (run : level.readLong given chars = .ok after) :
    level.Admits after := by
  unfold Level.readLong at run
  simp only at run
  split at run
  · rename_i found
    exact admits.addOption (List.mem_of_find?_eq_some found) run
  · cases run

theorem Admits.readLetters (admits : level.Admits given) (run : level.readLetters given chars = .ok after) :
    level.Admits after := by
  induction chars generalizing given with
  | nil =>
    cases run
    exact admits
  | cons letter rest ih =>
    unfold Level.readLetters at run
    split at run
    · cases run
    · rename_i form found
      have listed := List.mem_of_find?_eq_some found
      split at run
      · exact admits.addOption listed run
      · obtain ⟨more, first, run⟩ := ok_of_bind run
        exact ih (admits.addOption listed first) run

theorem Admits.readItem (admits : level.Admits given) (run : level.readItem given argument = .ok after) :
    level.Admits after := by
  unfold Level.readItem at run
  split at run
  · exact admits.readLong run
  · exact admits.readLetters run
  · exact admits.addWord run

theorem Admits.addWords {words : List String} (admits : level.Admits given)
    (run : words.foldlM (Given.addWord level) given = .ok after) : level.Admits after := by
  induction words generalizing given with
  | nil =>
    cases run
    exact admits
  | cons word rest ih =>
    rw [List.foldlM_cons] at run
    obtain ⟨more, first, run⟩ := ok_of_bind run
    exact ih (admits.addWord first) run

theorem Admits.read {command : Option (String × List String)} (admits : level.Admits given)
    (run : level.read given arguments = .ok (after, command)) : level.Admits after := by
  induction arguments generalizing given with
  | nil =>
    rw [Level.read] at run
    obtain ⟨settled, first, run⟩ := ok_of_bind run
    cases run
    exact admits.settle first
  | cons argument rest ih =>
    rw [Level.read] at run
    split at run
    · rename_i form waits
      split at run
      · cases run
      · have filled : level.Admits { given with pending := some (form, some argument) } :=
          ⟨admits.taken, by simpa using admits.pending _ waits⟩
        exact ih filled run
    · split at run
      · cases run
        exact admits
      · split at run
        · obtain ⟨settled, first, run⟩ := ok_of_bind run
          obtain ⟨all, words, run⟩ := ok_of_bind run
          cases run
          exact (admits.settle first).addWords words
        · obtain ⟨more, first, run⟩ := ok_of_bind run
          exact ih (admits.readItem first) run

theorem Admits.accepted (admits : level.Admits given) (accepts : String → Bool)
    (only : ∀ form ∈ level.options, form.name = name → form.purpose = .value accepts)
    (member : value ∈ given.valuesOf name) : accepts value = true := by
  obtain ⟨option, found, rfl⟩ := List.mem_map.mp member
  obtain ⟨listed, named⟩ := List.mem_filter.mp found
  obtain ⟨form, known, same, accepted⟩ := admits.taken option listed
  exact accepted accepts (only form known (same.trans (eq_of_beq named)))

end Level

theorem filled_of_completionOf {completion : Completion} (admits : completeLevel.Admits given)
    (asked : completionOf given = some (.complete completion)) :
    (∀ path ∈ completion.tags, path.isEmpty = false) ∧ ∀ file ∈ completion.file, file.isEmpty = false := by
  have filled : ∀ name, (∀ form ∈ completeLevel.options, form.name = name → form.purpose = .value isFilled) →
      ∀ value ∈ given.valuesOf name, (⟨value⟩ : Path).isEmpty = false := fun name only value member => by
    simpa [isFilled, Path.isEmpty] using admits.accepted isFilled only member
  obtain ⟨pattern, -, same⟩ := Option.map_eq_some_iff.mp asked
  cases same
  constructor
  · exact List.forall_mem_map.mpr (filled "tags" (by simp [completeLevel, sharedOptions]))
  · intro file given
    obtain ⟨value, first, rfl⟩ := Option.map_eq_some_iff.mp given
    exact filled "file" (by simp [completeLevel, sharedOptions]) value (List.mem_of_mem_head? first)

theorem readCommand_of_readArguments {invocation : Invocation}
    (asked : readArguments arguments = .invocation invocation) :
    ∃ outer name rest, readCommand outer name rest = .ok invocation := by
  unfold readArguments at asked
  split at asked
  · rename_i halt _
    cases halt <;> cases asked
  · cases asked
  · rename_i outer name rest _
    split at asked
    · unfold readHelp at asked
      split at asked
      · cases asked
      · split at asked <;> cases asked
      · cases asked
    · split at asked
      · rename_i read
        cases asked
        exact ⟨outer, name, rest, read⟩
      · rename_i halt _
        cases halt <;> cases asked

theorem completionOf_of_readCommand {outer : Given} {completion : Completion} {config : Option Path} {verbose : Bool}
    (read : readCommand outer name arguments = .ok ⟨.complete completion, config, verbose⟩) :
    ∃ inner, completeLevel.Admits inner ∧ completionOf inner = some (.complete completion) := by
  unfold readCommand commandNamed? at read
  split at read
  · cases read
  · rename_i level taskOf named
    obtain ⟨⟨inner, command⟩, run, read⟩ := ok_of_bind read
    obtain ⟨settled, -, read⟩ := ok_of_bind read
    split at read
    · rename_i task asked
      obtain rfl : task = .complete completion := congrArg Invocation.task (Except.ok.inj read)
      split at named
      · cases named
        exact ⟨inner, completeLevel.admits_nothing.read run, asked⟩
      · cases named
        unfold checkOf at asked
        split at asked <;> cases asked
      · cases named
        cases asked
      · cases named
    · cases read

theorem filled_of_readArguments {completion : Completion} {config : Option Path} {verbose : Bool}
    (asked : readArguments arguments = .invocation ⟨.complete completion, config, verbose⟩) :
    (∀ path ∈ completion.tags, path.isEmpty = false) ∧ ∀ file ∈ completion.file, file.isEmpty = false := by
  obtain ⟨outer, name, rest, read⟩ := readCommand_of_readArguments asked
  obtain ⟨inner, admits, task⟩ := completionOf_of_readCommand read
  exact filled_of_completionOf admits task

end TagMenu.Command
