import UrlMask.Proofs.Program.SecondRun

/-!
# Runs without a log

Where the log cannot be opened, its lines go to the error stream. A run notes the same events there
as in the log, in the same order and under the same filter; only the event of the log being opened
is missing. What is said of a fault follows behind, as it does without them. Nothing else is
different.

* `Unlogged`: what a run finds that has no log.
* `opening_unlogged`, `readConfig_unlogged`: what happens before the command is run.
* `runCommand_unlogged`: a run with a log is one without, and the log being opened.
* `run_unlogged`: what is seen of both runs.
-/
namespace UrlMask.Program

variable {s s' : Surroundings} {i : Invocation} {args : List String} {o : Outcome} {path : String}

/-- What a run finds that has no log: otherwise it is what the other run finds. -/
structure Unlogged (s s' : Surroundings) : Prop where
  logPath : s'.logPath = none
  logSetting : s'.logSetting = s.logSetting
  configPath : s'.configPath = s.configPath
  config : s'.config = s.config
  input : s'.input = s.input

theorem opening_unlogged (hlog : s.logPath = some path) (h : Unlogged s s') :
    opening s = .logOpened path :: opening s' := by
  simp only [opening, logOpened, hlog, h.logPath, h.config, h.configPath]
  rfl

theorem readConfig_unlogged (h : Unlogged s s') : readConfig s' = readConfig s := by
  simp only [readConfig, h.config, h.configPath]

/-- The run with a log comes to the same, but for the event of the log being opened. -/
theorem runCommand_unlogged (hlog : s.logPath = some path) (h : Unlogged s s')
    (hi : SameInput s s' i) : runCommand s i =
      { runCommand s' i with events := .logOpened path :: (runCommand s' i).events } := by
  have hleft : configAfter s' = configAfter s := by
    simp only [configAfter, h.config]
  unfold runCommand
  rw [readConfig_unlogged h, hleft, opening_unlogged hlog h]
  cases readConfig s with
  | error f => rfl
  | ok c =>
    simp only [perform_congr h.input hi]
    rfl

/-- The line that tells of the log being opened, if the filter lets it through. -/
def openedLine (s : Surroundings) (path : String) : List Char :=
  if (LogFilter.ofSetting s.logSetting).shows (.logOpened path) then (Event.logOpened path).line
  else []

theorem logLines_logOpened (s : Surroundings) (o : Outcome) (path : String) :
    { o with events := .logOpened path :: o.events }.logLines s =
      openedLine s path ++ o.logLines s := by
  unfold Outcome.logLines openedLine
  rw [List.filter_cons]
  split <;> rfl

/-- A run with the same arguments and without a log ends as the one with a log does, writes the same
and leaves the same configuration. To the error stream goes what the other run wrote to the log
behind the line that tells of its being opened, and then what the other run wrote there. -/
theorem run_unlogged (hlog : s.logPath = some path) (h : Unlogged s s')
    (hrun : run s args = .ok o) (hi : ∀ i, CommandLine.read args = .ok i → SameInput s s' i) :
    ∃ o' rest, run s' args = .ok o' ∧ o'.exitCode = o.exitCode ∧ o'.output = o.output ∧
      o'.config = o.config ∧ o.log s = some (openedLine s path ++ rest) ∧ o'.log s' = none ∧
      o'.errors s' = rest ++ o.errors s := by
  obtain ⟨i, hread, rfl⟩ := map_ok.1 hrun
  have hboth := runCommand_unlogged hlog h (hi i hread)
  have hlines : (runCommand s' i).logLines s' = (runCommand s' i).logLines s := by
    simp only [Outcome.logLines, h.logSetting]
  refine ⟨runCommand s' i, (runCommand s' i).logLines s, map_ok.2 ⟨i, hread, rfl⟩, ?_⟩
  rw [hboth]
  refine ⟨rfl, rfl, rfl, ?_, ?_, ?_⟩
  · simp only [Outcome.log, hlog, Option.isSome_some, if_true, logLines_logOpened]
  · simp only [Outcome.log, h.logPath, Option.isSome_none, Bool.false_eq_true, if_false]
  · simp only [Outcome.errors, hlog, h.logPath, Option.isSome_some, Option.isSome_none, if_true,
      Bool.false_eq_true, if_false, hlines, List.nil_append]
    rfl

/-- A list of one URL, and a line that is no text. -/
def garbled : Surroundings := { fresh with input := Utf8.encode ['a', ':', '\n'] ++ [255] }

/-- The list is refused at its second line. Without a log, what was noted before is said first. -/
theorem run_unlogged_of_list : ∃ o o' rest, run garbled ["filter", "--purl=a:"] = .ok o ∧
    run { garbled with logPath := none } ["filter", "--purl=a:"] = .ok o' ∧
    o'.exitCode = 1 ∧ o'.output = o.output ∧ o'.config = o.config ∧ rest ≠ [] ∧
    o.log garbled = some ((Event.logOpened "purl.log").line ++ rest) ∧
    o'.errors { garbled with logPath := none } = rest ++ o.errors garbled := by
  have hread : CommandLine.read ["filter", "--purl=a:"] = .ok (.filter ["a:"] none) := by
    decide +kernel
  have hexit : (runCommand garbled (.filter ["a:"] none)).exitCode = 1 := by
    decide +kernel
  have hopened : openedLine garbled "purl.log" = (Event.logOpened "purl.log").line :=
    if_pos (by decide +kernel)
  have hmore : (runCommand garbled (.filter ["a:"] none)).log garbled ≠
      some (Event.logOpened "purl.log").line := by
    decide +kernel
  have hrun : run garbled ["filter", "--purl=a:"] =
      .ok (runCommand garbled (.filter ["a:"] none)) := map_ok.2 ⟨_, hread, rfl⟩
  have hsame : Unlogged garbled { garbled with logPath := none } := ⟨rfl, rfl, rfl, rfl, rfl⟩
  obtain ⟨o', rest, hrun', hcode, hout, hconfig, hlog, -, herrors⟩ :=
    run_unlogged rfl hsame hrun fun i hi => by
      cases hread.symm.trans hi
      trivial
  rw [hopened] at hlog
  refine ⟨_, o', rest, hrun, hrun', hcode.trans hexit, hout, hconfig, ?_, hlog, herrors⟩
  rintro rfl
  exact hmore (by rw [hlog, List.append_nil])

end UrlMask.Program
