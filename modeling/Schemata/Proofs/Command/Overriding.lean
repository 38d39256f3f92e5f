import Schemata.Command.Document
import Schemata.Proofs.Basic

/-!
# Overriding the configuration

What the command line gives takes the place of what the file says, and the result is validated
(`overridden_eq`). The file is validated on its own before that: one that leaves no depth is refused
whatever depth the command line gives. For every other file, loading and overriding come to one
validation of the result, so what is overridden does not matter.
-/

namespace Schemata

/-- What can be read at a path is there. -/
theorem FileTree.lookup_isOk_of_readText {path text : String} {tree : FileTree}
    (read : tree.readText path = .ok text) : (tree.lookup path).isOk = true := by
  cases found : tree.lookup path with
  | error fault =>
    rw [readText, found] at read
    cases read
  | ok entry => rfl

namespace Config

/-- The failure of a configuration that leaves no depth. -/
def noDepth : CommandError :=
  .config (.invalidValue { key := "engine.max_depth", reason := "must be greater than zero" })

/-- Validate a configuration, as a step of a command. -/
def validated (config : Config) : Except CommandError Config :=
  match config.validate with
  | .ok config => .ok config
  | .error invalid => .error (.config (.invalidValue invalid))

/-- The file at a path says a configuration, valid or not. -/
def SaidAt (config : Config) (path : String) (tree : FileTree) : Prop :=
  ∃ text, tree.readText path = .ok text ∧ Config.parse text = .ok config

/-! ### Overriding and validating -/

variable {config config' merged : Config} {overrides : Overrides}

/-- Overriding again changes nothing. -/
theorem override_override :
    (config.override overrides).override overrides = config.override overrides := by
  obtain ⟨pretty, id, title, description, maxDepth⟩ := overrides
  cases pretty <;> cases id <;> cases title <;> cases description <;> cases maxDepth <;> rfl

theorem validated_eq :
    config.validated = if config.maxDepth = 0 then .error noDepth else .ok config := by
  rw [validated, validate]
  by_cases zero : config.maxDepth = 0
  · rw [if_pos zero, if_pos zero]
    rfl
  · rw [if_neg zero, if_neg zero]

theorem validated_eq_ok_iff :
    config.validated = .ok merged ↔ config.maxDepth ≠ 0 ∧ config = merged := by
  rw [validated_eq]
  by_cases zero : config.maxDepth = 0
  · simp [zero]
  · simp [zero]

theorem validated_eq_error_iff : config.validated = .error noDepth ↔ config.maxDepth = 0 := by
  rw [validated_eq]
  by_cases zero : config.maxDepth = 0
  · simp [zero]
  · simp [zero]

theorem one_le_of_validated (ok : config.validated = .ok merged) : 1 ≤ merged.maxDepth.toNat := by
  obtain ⟨nonzero, rfl⟩ := validated_eq_ok_iff.1 ok
  exact Nat.one_le_iff_ne_zero.2 fun zero ↦ nonzero (UInt64.toNat_inj.1 zero)

theorem overridden_eq : config.overridden overrides = (config.override overrides).validated := rfl

theorem ofText_eq (path : String) {text : String} (parsed : Config.parse text = .ok config) :
    ofText path text = config.validated := by
  rw [ofText, parsed]
  rfl

/-- Overriding what was overridden the same way changes nothing, not even a failure. -/
theorem overridden_bind_overridden :
    ((config.overridden overrides).bind fun merged ↦ merged.overridden overrides)
      = config.overridden overrides := by
  cases result : config.overridden overrides with
  | error error => rfl
  | ok merged =>
    obtain ⟨nonzero, rfl⟩ := validated_eq_ok_iff.1 (overridden_eq ▸ result)
    show (config.override overrides).overridden overrides = _
    rw [overridden_eq, override_override, ← overridden_eq, result]

/-! ### Loading -/

/-- The outcome of a file that says a configuration: it is validated, overridden and validated. -/
def outcome (config : Config) (overrides : Overrides) : Except CommandError Config :=
  if config.maxDepth = 0 then .error noDepth else (config.override overrides).validated

theorem validated_bind_overridden :
    (config.validated.bind fun config ↦ config.overridden overrides)
      = config.outcome overrides := by
  rw [validated_eq, outcome]
  by_cases zero : config.maxDepth = 0
  · rw [if_pos zero, if_pos zero]
    rfl
  · rw [if_neg zero, if_neg zero]
    exact overridden_eq

/-- The command line has its way unless it would mend the depth of the file. -/
theorem outcome_eq_validated_iff :
    config.outcome overrides = (config.override overrides).validated
      ↔ (config.maxDepth = 0 → (config.override overrides).maxDepth = 0) := by
  rw [outcome]
  by_cases zero : config.maxDepth = 0
  · rw [if_pos zero, eq_comm, validated_eq_error_iff]
    exact ⟨fun h _ ↦ h, fun h ↦ h zero⟩
  · rw [if_neg zero]
    exact ⟨fun _ h ↦ absurd h zero, fun _ ↦ rfl⟩

/-- Files that are alike once overridden have one outcome, unless one of them leaves no depth and
the command line would mend that. -/
theorem outcome_eq_outcome_iff (alike : config.override overrides = config'.override overrides) :
    config.outcome overrides = config'.outcome overrides
      ↔ (config.maxDepth = 0 ↔ config'.maxDepth = 0)
        ∨ (config.override overrides).maxDepth = 0 := by
  rw [outcome, outcome, ← alike]
  by_cases zero : config.maxDepth = 0
  · by_cases zero' : config'.maxDepth = 0
    · simp [zero, zero']
    · simp only [zero, zero', if_true, if_false, true_iff, false_or]
      rw [eq_comm, validated_eq_error_iff]
  · by_cases zero' : config'.maxDepth = 0
    · simp only [zero, zero', if_true, if_false, iff_true, false_or]
      exact validated_eq_error_iff
    · simp [zero, zero']

section Load

variable {path? : Option String} {tree : FileTree}

/-- What loading comes to on a file system that is a value. -/
def loaded (path? : Option String) (tree : FileTree) : Except CommandError Config :=
  let path := path?.getD fileName
  if (tree.lookup path).isOk then
    match tree.readText path with
    | .ok text => ofText path text
    | .error fault => .error (.config (.unreadable path fault))
  else path?.elim (.ok {}) fun path ↦ .error (.config (.notFound path))

/-- Loading leaves the files as they are. -/
theorem load_run (path? : Option String) (tree : FileTree) :
    (load path? : OnFileTree (Except CommandError Config)).run tree
      = pure (loaded path? tree, tree) := by
  cases present : (tree.lookup (path?.getD fileName)).isOk with
  | true =>
    cases read : tree.readText (path?.getD fileName) with
    | error fault => simp [load, loaded, FileAccess.isPresent, FileAccess.read, present, read]
    | ok text => simp [load, loaded, FileAccess.isPresent, FileAccess.read, present, read]
  | false =>
    cases path? with
    | some path =>
      rw [Option.getD_some] at present
      simp [load, loaded, FileAccess.isPresent, present]
    | none =>
      rw [Option.getD_none] at present
      simp [load, loaded, FileAccess.isPresent, present]

theorem loadWith_run (path? : Option String) (overrides : Overrides) (tree : FileTree) :
    (loadWith path? overrides : OnFileTree (Except CommandError Config)).run tree
      = pure ((loaded path? tree).bind fun config ↦ config.overridden overrides, tree) := by
  simp [loadWith, load_run]

/-- The file that is read decides what is loaded. -/
theorem loaded_of_saidAt (said : config.SaidAt (path?.getD fileName) tree) :
    loaded path? tree = config.validated := by
  obtain ⟨text, read, parsed⟩ := said
  have present := FileTree.lookup_isOk_of_readText read
  simp only [loaded, present, read, if_true]
  exact ofText_eq _ parsed

/-- What is loaded, from a file or by default, leaves some depth. -/
theorem one_le_of_loaded (ok : loaded path? tree = .ok merged) : 1 ≤ merged.maxDepth.toNat := by
  cases present : (tree.lookup (path?.getD fileName)).isOk with
  | true =>
    cases read : tree.readText (path?.getD fileName) with
    | error fault => simp [loaded, present, read] at ok
    | ok text =>
      cases parsed : Config.parse text with
      | error fault => simp [loaded, present, read, ofText, parsed] at ok
      | ok config =>
        rw [loaded_of_saidAt ⟨text, read, parsed⟩] at ok
        exact one_le_of_validated ok
  | false =>
    cases path? with
    | some path =>
      rw [Option.getD_some] at present
      simp [loaded, present] at ok
    | none =>
      rw [Option.getD_none] at present
      simp only [loaded, Option.getD_none, present, Bool.false_eq_true, if_false, Option.elim_none,
        Except.ok.injEq] at ok
      subst ok
      decide

end Load

/-! ### A working directory with a file -/

deriving instance DecidableEq for JsonSchema.Metadata, Config

/-- A working directory with one file, from which the configuration is read. -/
def directoryOf (text : String) : FileTree := [([fileName], .file text.toUTF8)]

theorem readText_directoryOf (text : String) : (directoryOf text).readText fileName = .ok text := by
  have parts : Path.parts fileName = [fileName] := by
    simp +decide [Path.parts, String.splitOn, String.splitOnAux, fileName]
  have usable : Path.check fileName = .ok () := by
    rw [Path.check, if_neg (by simp [fileName]), if_neg (by decide)]
  have found : (directoryOf text).lookup fileName = .ok (.file text.toUTF8) := by
    rw [FileTree.lookup, FileTree.resolve, usable, parts]
    rfl
  have isText : String.fromUTF8? text.toUTF8 = some text := dif_pos text.isValidUTF8
  rw [String.toUTF8_eq_toByteArray] at found isText
  simp [FileTree.readText, found, isText, bind, Except.bind, pure, Except.pure]

/-- The working directory whose file is read as a configuration says it. -/
theorem saidAt_directoryOf {text : String} {config : Config}
    (parsed : (Config.parse text).toOption = some config) :
    config.SaidAt fileName (directoryOf text) := by
  refine ⟨text, readText_directoryOf text, ?_⟩
  cases result : Config.parse text with
  | error fault => simp [result, Except.toOption] at parsed
  | ok config' => simpa [result, Except.toOption] using parsed

/-! ### Loading and overriding -/

/-- The outcome of a file that says a configuration. -/
theorem loadWith_run_of_saidAt (path? : Option String) {tree : FileTree}
    (said : config.SaidAt (path?.getD fileName) tree) :
    (loadWith path? overrides : OnFileTree (Except CommandError Config)).run tree
      = (config.outcome overrides, tree) := by
  rw [loadWith_run, loaded_of_saidAt said, validated_bind_overridden]
  rfl

/-- Where the file says a configuration, loading and overriding come to one validation of the
configuration with the given values in place of its own, unless the file leaves no depth: then
loading fails with just that, whatever is given. Files that are alike once overridden have one
outcome, unless one of them leaves no depth and the given depth would mend that. Overriding twice is
overriding once, and whatever is returned leaves some depth. -/
theorem loadWith_validates_override (overrides : Overrides) :
    (∀ (path? : Option String) (tree : FileTree) (config : Config),
        config.SaidAt (path?.getD fileName) tree →
        (loadWith path? overrides : OnFileTree (Except CommandError Config)).run tree
            = (if config.maxDepth = 0 then .error noDepth
                else (config.override overrides).validated, tree)
          ∧ (((loadWith path? overrides : OnFileTree (Except CommandError Config)).run tree).1
                = (config.override overrides).validated
              ↔ (config.maxDepth = 0 → (config.override overrides).maxDepth = 0)))
      ∧ (∀ (path? path'? : Option String) (tree tree' : FileTree) (config config' : Config),
          config.SaidAt (path?.getD fileName) tree →
          config'.SaidAt (path'?.getD fileName) tree' →
          config.override overrides = config'.override overrides →
          (((loadWith path? overrides : OnFileTree (Except CommandError Config)).run tree).1
              = ((loadWith path'? overrides : OnFileTree (Except CommandError Config)).run tree').1
            ↔ (config.maxDepth = 0 ↔ config'.maxDepth = 0)
              ∨ (config.override overrides).maxDepth = 0))
      ∧ (∀ config : Config,
          ((config.overridden overrides).bind fun merged ↦ merged.overridden overrides)
            = config.overridden overrides)
      ∧ (∀ (config merged : Config), config.overridden overrides = .ok merged →
          1 ≤ merged.maxDepth.toNat)
      ∧ ∀ (path? : Option String) (tree : FileTree) (merged : Config),
          ((load path? : OnFileTree (Except CommandError Config)).run tree).1 = .ok merged
            ∨ ((loadWith path? overrides : OnFileTree (Except CommandError Config)).run tree).1
              = .ok merged →
          1 ≤ merged.maxDepth.toNat := by
  have overridden (config merged : Config) (ok : config.overridden overrides = .ok merged) :
      1 ≤ merged.maxDepth.toNat :=
    one_le_of_validated (overridden_eq ▸ ok)
  refine ⟨fun path? tree config said ↦ ?_, fun path? path'? tree tree' config config' said said'
    alike ↦ ?_, fun config ↦ overridden_bind_overridden, overridden, fun path? tree merged ok ↦ ?_⟩
  · rw [loadWith_run_of_saidAt path? said]
    exact ⟨rfl, outcome_eq_validated_iff⟩
  · rw [loadWith_run_of_saidAt path? said, loadWith_run_of_saidAt path'? said']
    exact outcome_eq_outcome_iff alike
  · rw [load_run, loadWith_run] at ok
    rcases ok with ok | ok
    · exact one_le_of_loaded ok
    · obtain ⟨config, -, ok⟩ := bind_eq_ok_iff.1 ok
      exact overridden config merged ok

/-- A depth of its own, which the command line may change: files of depth seven and five come to the
same. -/
theorem loadWith_validates_override_nine :
    let overrides : Overrides := { pretty := some false, maxDepth := some 9 }
    let seven := directoryOf "[engine]\nmax_depth = 7\n"
    let five := directoryOf "[engine]\nmax_depth = 5\n"
    (loadWith none overrides : OnFileTree (Except CommandError Config)).run seven
        = (.ok { pretty := false, maxDepth := 9 }, seven)
      ∧ ((loadWith none overrides : OnFileTree (Except CommandError Config)).run seven).1
        = ((loadWith none overrides : OnFileTree (Except CommandError Config)).run five).1 := by
  intro overrides seven five
  have saidSeven : Config.SaidAt { maxDepth := 7 } fileName seven :=
    saidAt_directoryOf (by decide +kernel)
  have saidFive : Config.SaidAt { maxDepth := 5 } fileName five :=
    saidAt_directoryOf (by decide +kernel)
  obtain ⟨one, two, -⟩ := loadWith_validates_override overrides
  constructor
  · exact (one none seven _ saidSeven).1
  · exact (two none none seven five _ _ saidSeven saidFive rfl).2 (.inl (by decide))

/-- A file that leaves no depth is refused although the command line gives one, and a file that
differs from it in nothing but the depth is not. -/
theorem depth_not_mended :
    let overrides : Overrides := { maxDepth := some 5 }
    let zero := directoryOf "[engine]\nmax_depth = 0\n"
    let seven := directoryOf "[engine]\nmax_depth = 7\n"
    ∃ config config' : Config, config.SaidAt fileName zero ∧ config'.SaidAt fileName seven
      ∧ config.override overrides = config'.override overrides
      ∧ (config.override overrides).validated = .ok { maxDepth := 5 }
      ∧ ((loadWith none overrides : OnFileTree (Except CommandError Config)).run zero).1
        = .error noDepth
      ∧ ((loadWith none overrides : OnFileTree (Except CommandError Config)).run seven).1
        = .ok { maxDepth := 5 } := by
  intro overrides zero seven
  have saidZero : Config.SaidAt { maxDepth := 0 } fileName zero :=
    saidAt_directoryOf (by decide +kernel)
  have saidSeven : Config.SaidAt { maxDepth := 7 } fileName seven :=
    saidAt_directoryOf (by decide +kernel)
  refine ⟨_, _, saidZero, saidSeven, rfl, rfl, ?_, ?_⟩
  · rw [loadWith_run_of_saidAt none saidZero]
    rfl
  · rw [loadWith_run_of_saidAt none saidSeven]
    rfl

end Config

end Schemata
