import ScriptGate.CommandLine.Arguments

/-! # What the arguments of a command ask for

A task is read from sorted arguments. Its options are the numbers that the arguments give. -/

namespace ScriptGate.CommandLine

/-- The number that is given for an option, if any. -/
def Sorted.number? (sorted : Sorted) (choice : Choice) : Option Int :=
  (sorted.value? choice).bind Number.readWhole?

/-- The options of a run are the numbers that are given for them. -/
structure Sorted.Gives (sorted : Sorted) (testMode : Bool) (options : RunOptions) : Prop where
  timeout : options.timeout.map (·.val) = sorted.number? .timeout
  testMode : options.testMode = testMode
  maxResults : options.maxResults.map (·.val) = sorted.number? .maxResults

/-- What a command makes of sorted arguments. -/
inductive Command.Asks (sorted : Sorted) : Command → Activity → Prop where
  | validate : Asks sorted .validate .validate
  | screen : Asks sorted .screen .screen
  | execute {options : RunOptions} (gives : sorted.Gives false options) :
      Asks sorted .execute (.run options)
  | test {options : RunOptions} (gives : sorted.Gives true options) :
      Asks sorted .test (.run options)

theorem map_val_of_numberOption {within : Int → Prop} {sorted : Sorted} {choice : Choice}
    {accept : Int → Except FieldProblem { number : Int // within number }}
    (keeps : ∀ number accepted, accept number = .ok accepted → accepted.val = number)
    {given : Option { number : Int // within number }}
    (isGiven : numberOption sorted choice accept = .ok given) :
    given.map (·.val) = sorted.number? choice := by
  unfold numberOption at isGiven
  rw [Sorted.number?]
  cases written : sorted.value? choice with
  | none =>
      rw [written] at isGiven
      cases isGiven
      rfl
  | some value =>
      simp only [written] at isGiven
      rw [Option.bind_some]
      cases read : Number.readWhole? value with
      | none =>
          rw [read] at isGiven
          cases isGiven
      | some number =>
          simp only [read] at isGiven
          cases taken : accept number with
          | error problem =>
              rw [taken] at isGiven
              cases isGiven
          | ok accepted =>
              rw [taken] at isGiven
              cases isGiven
              rw [Option.map_some, keeps number accepted taken]

theorem TimeLimit.val_of_ofInt {number : Int} {limit : TimeLimit}
    (accepted : TimeLimit.ofInt number = .ok limit) : limit.val = number := by
  unfold TimeLimit.ofInt at accepted
  split at accepted
  · cases accepted
    rfl
  · cases accepted

theorem RecordCap.val_of_ofInt {number : Int} {cap : RecordCap}
    (accepted : RecordCap.ofInt number = .ok cap) : cap.val = number := by
  unfold RecordCap.ofInt at accepted
  split at accepted
  · cases accepted
  · split at accepted
    · cases accepted
    · cases accepted
      rfl

theorem gives_of_runOptions {sorted : Sorted} {testMode : Bool} {options : RunOptions}
    (isRead : runOptions testMode sorted = .ok options) : sorted.Gives testMode options := by
  unfold runOptions at isRead
  cases cap : numberOption sorted .maxResults RecordCap.ofInt with
  | error error =>
      rw [cap] at isRead
      cases isRead
  | ok maxResults =>
      cases limit : numberOption sorted .timeout TimeLimit.ofInt with
      | error error =>
          rw [cap, limit] at isRead
          cases isRead
      | ok timeout =>
          rw [cap, limit] at isRead
          cases isRead
          exact ⟨map_val_of_numberOption (fun _ _ => TimeLimit.val_of_ofInt) limit, rfl,
            map_val_of_numberOption (fun _ _ => RecordCap.val_of_ofInt) cap⟩

theorem exists_gives_of_run {sorted : Sorted} {testMode : Bool} {activity : Activity}
    (isAsked : (runOptions testMode sorted).map .run = .ok activity) :
    ∃ options, activity = .run options ∧ sorted.Gives testMode options := by
  cases isRead : runOptions testMode sorted with
  | error error =>
      rw [isRead] at isAsked
      cases isAsked
  | ok options =>
      rw [isRead] at isAsked
      cases isAsked
      exact ⟨options, rfl, gives_of_runOptions isRead⟩

theorem asks_of_activity {command : Command} {sorted : Sorted} {activity : Activity}
    (isAsked : command.activity sorted = .ok activity) : command.Asks sorted activity := by
  cases command with
  | validate =>
      cases isAsked
      exact .validate
  | screen =>
      cases isAsked
      exact .screen
  | execute =>
      obtain ⟨options, rfl, gives⟩ := exists_gives_of_run isAsked
      exact .execute gives
  | test =>
      obtain ⟨options, rfl, gives⟩ := exists_gives_of_run isAsked
      exact .test gives

/-- A task comes from sorted arguments, of which one names the script file. -/
theorem exists_sorted_of_task {command : Command} {arguments : List Argument} {task : Task}
    (isRead : Task.ofArguments command arguments = .ok task) :
    ∃ sorted, sortArguments command.options true arguments = .ok sorted ∧
      sorted.others = [task.path] ∧ command.Asks sorted task.activity := by
  unfold Task.ofArguments at isRead
  cases sort : sortArguments command.options true arguments with
  | error error =>
      rw [sort] at isRead
      cases isRead
  | ok sorted =>
      simp only [sort] at isRead
      split at isRead
      · cases isRead
      · split at isRead
        · cases isRead
        · next activity path isAsked isPath =>
            cases isRead
            exact ⟨sorted, rfl, isPath, asks_of_activity isAsked⟩
        · cases isRead
        · cases isRead

end ScriptGate.CommandLine
