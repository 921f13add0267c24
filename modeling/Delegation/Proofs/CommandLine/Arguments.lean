import Delegation.Proofs.CommandLine.Modes

/-!
# Asking for a mode

A mode is asked for by a flag, and writing by none.  Such a flag changes nothing but the mode: the
arguments behind it are read as they are read without it, as long as they do not ask for a mode
themselves.

## Main Definitions

* `Mode.arguments` — the arguments that ask for a mode.

## Main Statements

* `readGenerate_inMode` — arguments are read the same way in every mode.
* `run_inMode` — so the flag of a mode in front of them executes the command in this mode.
-/

namespace Delegation.CommandLine

/-- The arguments that ask for a mode. -/
def Mode.arguments : Mode → List String
  | .check => ["--check"]
  | .model => ["--model"]
  | .print => ["--dry-run"]
  | .write => []

namespace Settings

variable {settings next : Settings}

theorem inMode_verbose (settings : Settings) (mode : Mode) (verbose : Bool) :
    { settings.inMode mode with verbose } = { settings with verbose }.inMode mode := by
  cases mode <;> rfl

/-- An option can be given its value in every mode, which stays the same. -/
theorem give_inMode {value : String} {option : ValueOption}
    (given : settings.give value option = some next) (mode : Mode) :
    next.mode = settings.mode ∧
      (settings.inMode mode).give value option = some (next.inMode mode) := by
  cases option with
  | release =>
      simp only [give, Option.ite_none_left_eq_some, Option.map_eq_some_iff] at given ⊢
      obtain ⟨unset, release, number, rfl⟩ := given
      refine ⟨rfl, ?_⟩
      cases mode <;> exact ⟨unset, release, number, rfl⟩
  | _ =>
      simp only [give, Option.map_eq_some_iff] at given ⊢
      obtain ⟨path, checked, rfl⟩ := given
      refine ⟨rfl, ?_⟩
      cases mode <;> exact ⟨path, checked, rfl⟩

/-- A flag that does not ask for a mode can be raised in every mode. -/
theorem raise_inMode {flag : Flag} (raised : settings.raise flag = some next)
    (plain : next.mode = .write) (mode : Mode) :
    settings.mode = .write ∧ (settings.inMode mode).raise flag = some (next.inMode mode) := by
  obtain ⟨check, model, dryRun⟩ := mode_eq_write_iff.mp plain
  cases flag <;> simp only [raise, Option.ite_none_left_eq_some, Option.some.injEq] at raised ⊢
  all_goals obtain ⟨unset, rfl⟩ := raised
  case noMarker | verbose =>
    refine ⟨plain, ?_⟩
    cases mode <;> exact ⟨unset, rfl⟩
  -- the other flags would have asked for a mode
  all_goals contradiction

end Settings

/-- Letters decide nothing that is a generation. -/
theorem readLetters_ne_generate {allowsVersion verbose : Bool} {letters : List Char}
    {settings : Settings} :
    readLetters allowsVersion verbose letters ≠ .error (.generate settings) := by
  fun_induction readLetters allowsVersion verbose letters
  case case3 ih => exact ih
  case case5 => split <;> nofun
  all_goals nofun

/-- **Arguments are read the same way in every mode**, if they do not ask for a mode themselves. -/
theorem readGenerate_inMode {settings final : Settings} {arguments : List String}
    (read : readGenerate settings arguments = .generate final) (plain : final.mode = .write)
    (mode : Mode) : settings.mode = .write ∧
      readGenerate (settings.inMode mode) arguments = .generate (final.inMode mode) := by
  fun_induction readGenerate settings arguments
  -- what decides against a generation without looking further
  all_goals try cases read
  case case1 => exact ⟨plain, rfl⟩
  case case2 form nothing =>
    refine ⟨plain, ?_⟩
    simp only [readGenerate, form, nothing, if_true]
  -- letters
  case case5 settings _ rest _ form verbose letters ih =>
    obtain ⟨written, others⟩ := ih read
    refine ⟨written, ?_⟩
    simp only [readGenerate, form, Settings.verbose_inMode, letters, Settings.inMode_verbose]
    exact others
  case case6 letters => exact absurd letters readLetters_ne_generate
  -- a flag
  case case8 found next raised notHelp form ih =>
    obtain ⟨written, others⟩ := ih read
    obtain ⟨written', raised'⟩ := Settings.raise_inMode raised written mode
    refine ⟨written', ?_⟩
    simp only [readGenerate, form, found, raised']
    exact others
  -- an option with its value, in one argument or in two
  case case10 found noFlag value rest next given notHelp form ih =>
    obtain ⟨written, others⟩ := ih read
    obtain ⟨same, given'⟩ := Settings.give_inMode given mode
    refine ⟨same.symm.trans written, ?_⟩
    simp only [readGenerate, form, noFlag, found, given']
    exact others
  case case12 found noFlag value rest isValue next given notHelp form ih =>
    obtain ⟨written, others⟩ := ih read
    obtain ⟨same, given'⟩ := Settings.give_inMode given mode
    refine ⟨same.symm.trans written, ?_⟩
    simp only [readGenerate, form, noFlag, found, isValue, given', if_true]
    exact others

/-- Behind `generate`, the flag of a mode is raised before the other arguments are read. -/
theorem ofArguments_arguments (mode : Mode) (arguments : List String) :
    Invocation.ofArguments ("generate" :: (mode.arguments ++ arguments)) =
      readGenerate (Settings.inMode {} mode) arguments := by
  have command : Argument.ofText "generate" = .plain "generate" := by decide
  have check : Argument.ofText "--check" = .long "check" none := by decide
  have model : Argument.ofText "--model" = .long "model" none := by decide
  have dryRun : Argument.ofText "--dry-run" = .long "dry-run" none := by decide
  rw [Invocation.ofArguments, readCommand]
  simp only [command]
  cases mode with
  | write => rfl
  | _ =>
      simp [Mode.arguments, readGenerate, check, model, dryRun, Flag.ofName?, Settings.raise,
        Settings.inMode]

/-- The flag of a mode asks for the mode and for nothing else. -/
theorem Invocation.ofArguments_inMode {arguments : List String} {settings : Settings}
    (read : ofArguments ("generate" :: arguments) = .generate settings)
    (plain : settings.mode = .write) (mode : Mode) :
    ofArguments ("generate" :: (mode.arguments ++ arguments)) =
      .generate (settings.inMode mode) := by
  have read : readGenerate {} arguments = .generate settings :=
    (ofArguments_arguments .write arguments).symm.trans read
  rw [ofArguments_arguments]
  exact (readGenerate_inMode read plain mode).2

/-- **The flag of a mode in front of its arguments executes the command in this mode.** -/
theorem run_inMode {arguments : List String} {settings : Settings}
    (read : Invocation.ofArguments ("generate" :: arguments) = .generate settings)
    (plain : settings.mode = .write) (mode : Mode) (tree : FileTree) :
    run ("generate" :: (mode.arguments ++ arguments)) tree =
      execute .plain (settings.inMode mode) tree := by
  rw [run, Invocation.ofArguments_inMode read plain mode]

end Delegation.CommandLine
