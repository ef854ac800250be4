import MiniBasic.CommandLine.Invocation

/-!
# The switch that forbids colours

The switch may stand anywhere in front of `--`, before the name of the command or behind it, and it
is taken once at each of these two places.  It forbids colours and changes nothing else of what the
arguments ask for (`Invocation.plain_of_read_insert`).

Where it stands among the arguments of the command, what is read before it is the same, and what is
read behind it differs in this one field only, up to the end (`Arguments.plain_of_read`).  In front
of the command it is handed on to the reading of the command, which joins it with the other.
-/

namespace MiniBasic.CommandLine

theorem except_bind_eq_ok_iff {ε α β : Type} {first : Except ε α} {next : α → Except ε β} {b : β} :
    (first >>= next) = .ok b ↔ ∃ a, first = .ok a ∧ next a = .ok b := by
  cases first with
  | error cause => simp [bind, Except.bind]
  | ok a => simp [bind, Except.bind]

/-- What succeeds twice goes on from the same first result. -/
theorem exists_of_bind_eq_ok {ε α β : Type} {first : Except ε α} {next next' : α → Except ε β}
    {b b' : β} (isFirst : (first >>= next) = .ok b) (isSecond : (first >>= next') = .ok b') :
    ∃ a, next a = .ok b ∧ next' a = .ok b' := by
  obtain ⟨a, rfl, isFirst⟩ := except_bind_eq_ok_iff.mp isFirst
  exact ⟨a, isFirst, isSecond⟩

theorem Switch.ofArgument?_noColor (topic : Topic) :
    ofArgument? topic "--no-color" = some .noColor := by
  cases topic <;> rfl

/-! ## Arguments of a command -/

namespace Arguments

variable {topic : Topic} {args out out' : Arguments} {front back rest : List String}

/-- Arguments that forbid colours, and are otherwise the same. -/
def plain (args : Arguments) : Arguments := { args with noColor := true }

theorem addFile_plain (args : Arguments) (topic : Topic) (name : String) :
    args.plain.addFile topic name = plain <$> args.addFile topic name := by
  unfold addFile
  show (if args.file.isSome then _ else _) = _
  split
  next => rfl
  next => split <;> rfl

theorem addFormat_plain (args : Arguments) (name : String) :
    args.plain.addFormat name = plain <$> args.addFormat name := by
  unfold addFormat
  show (if args.format.isSome then _ else _) = _
  split
  next => rfl
  next =>
    split
    next => rfl
    next => split <;> rfl

theorem addAwaited_plain (args : Arguments) (topic : Topic) (name : String) :
    args.plain.addAwaited topic name = plain <$> args.addAwaited topic name := by
  unfold addAwaited
  split
  next => rfl
  next => rfl
  next =>
    split
    next => rfl
    next => exact args.addFormat_plain name

theorem readFiles_plain (topic : Topic) (args : Arguments) (names : List String) :
    readFiles topic args.plain names = plain <$> readFiles topic args names := by
  induction names generalizing args with
  | nil => rfl
  | cons name rest ih =>
    rw [readFiles, readFiles, addFile_plain]
    cases args.addFile topic name with
    | error cause => rfl
    | ok added => exact ih added

/-- Arguments that are read although colours are forbidden already are read as before. -/
theorem plain_of_read (isRead : read topic args rest = .ok out)
    (isPlain : read topic args.plain rest = .ok out') : out' = out.plain := by
  fun_induction read topic args rest with
  | case1 args =>
    cases isRead
    cases isPlain
    rfl
  | case2 args names =>
    rw [read.eq_def] at isPlain
    simp only [if_pos, readFiles_plain, isRead] at isPlain
    cases isPlain
    rfl
  | case3 args argument rest other isFile ih =>
    obtain ⟨added, isAdded, isRead⟩ := except_bind_eq_ok_iff.mp isRead
    rw [read.eq_def] at isPlain
    simp only [if_neg other, isFile, addFile_plain, isAdded] at isPlain
    exact ih added isRead isPlain
  | case4 args argument rest other isSwitch ih =>
    -- the switch is repeated
    rw [read.eq_def] at isPlain
    simp only [if_neg other, isSwitch] at isPlain
    cases isPlain
  | case7 args argument rest other name isFormat ih =>
    obtain ⟨added, isAdded, isRead⟩ := except_bind_eq_ok_iff.mp isRead
    rw [read.eq_def] at isPlain
    simp only [if_neg other, isFormat, addFormat_plain, isAdded] at isPlain
    exact ih added isRead isPlain
  | case9 args argument other isFormat name later ih =>
    obtain ⟨added, isAdded, isRead⟩ := except_bind_eq_ok_iff.mp isRead
    rw [read.eq_def] at isPlain
    simp only [if_neg other, isFormat, addAwaited_plain, isAdded] at isPlain
    exact ih added isRead isPlain
  | case5 | case6 | case8 => cases isRead

/-- The switch in front of arguments is taken unless it was taken before. -/
theorem read_noColor (isRead : read topic args ("--no-color" :: rest) = .ok out) :
    read topic args.plain rest = .ok out := by
  have noDashes : "--no-color" ≠ "--" := by decide
  rw [read.eq_def] at isRead
  simp only [if_neg noDashes, Switch.ofArgument?_noColor] at isRead
  obtain ⟨added, isAdded, isRead⟩ := except_bind_eq_ok_iff.mp isRead
  unfold addNoColor at isAdded
  split at isAdded
  next => cases isAdded
  next =>
    cases isAdded
    exact isRead

/-- The switch somewhere in front of the files changes nothing but that colours are forbidden. -/
theorem plain_of_read_insert (noDashes : "--" ∉ front)
    (isRead : read topic args (front ++ back) = .ok out)
    (isPlain : read topic args (front ++ "--no-color" :: back) = .ok out') : out' = out.plain := by
  fun_induction read topic args front with
  | case1 args => exact plain_of_read isRead (read_noColor isPlain)
  | case2 args names => exact absurd List.mem_cons_self noDashes
  | case3 args argument rest other isFirst ih | case4 args argument rest other isFirst ih
  | case7 args argument rest other name isFirst ih =>
    -- a file, the switch, or a format with its name
    rw [List.cons_append, read.eq_def] at isRead isPlain
    simp only [if_neg other, isFirst] at isRead isPlain
    obtain ⟨added, isRead, isPlain⟩ := exists_of_bind_eq_ok isRead isPlain
    exact ih added (List.not_mem_of_not_mem_cons noDashes) isRead isPlain
  | case5 args argument rest other ending isFirst
  | case6 args argument rest other option isFirst =>
    rw [List.cons_append, read.eq_def] at isRead
    simp only [if_neg other, isFirst] at isRead
    cases isRead
  | case8 args argument other isFirst =>
    -- the name of a format is awaited, and the switch is none
    rw [List.singleton_append, read.eq_def] at isPlain
    simp only [if_neg other, isFirst] at isPlain
    rw [addAwaited, Switch.ofArgument?_noColor] at isPlain
    cases isPlain
  | case9 args argument other isFirst name later ih =>
    rw [List.cons_append, List.cons_append, read.eq_def] at isRead isPlain
    simp only [if_neg other, isFirst] at isRead isPlain
    obtain ⟨added, isRead, isPlain⟩ := exists_of_bind_eq_ok isRead isPlain
    have noDashes := List.not_mem_of_not_mem_cons (List.not_mem_of_not_mem_cons noDashes)
    exact ih added noDashes isRead isPlain

end Arguments

/-! ## Invocations -/

/-- The command does not depend on the switch. -/
theorem Command.ofArguments_plain {topic : Topic} {args : Arguments} {command command' : Command}
    (isCommand : ofArguments topic args = .ok command)
    (isPlain : ofArguments topic args.plain = .ok command') : command' = command := by
  cases topic with
  | lex | parse =>
    cases isCommand
    cases isPlain
    rfl
  | check =>
    obtain ⟨_, _, _ | file⟩ := args
    · cases isCommand
    · cases isCommand
      cases isPlain
      rfl
  | program | help => cases isCommand

namespace Invocation

variable {topic : Topic} {noColor : Bool} {styled styled' : Invocation}
  {front back rest : List String} {argument : String}

theorem readCommand_eq_ok_iff : readCommand noColor topic rest = .ok styled ↔
    topic ≠ .help ∧ ∃ args command, Arguments.read topic {} rest = .ok args ∧
      Command.ofArguments topic args = .ok command ∧
      styled = ⟨command, noColor || args.noColor⟩ := by
  unfold readCommand
  by_cases isHelp : topic = .help
  · rw [if_pos isHelp]
    exact ⟨(nomatch ·), fun isRead => absurd isHelp isRead.1⟩
  · rw [if_neg isHelp]
    show (Arguments.read topic {} rest >>= fun args => Command.ofArguments topic args >>=
      fun command => Except.ok _) = _ ↔ _
    simp only [except_bind_eq_ok_iff]
    constructor
    · rintro ⟨args, isArgs, command, isCommand, ⟨⟩⟩
      exact ⟨isHelp, args, command, isArgs, isCommand, rfl⟩
    · rintro ⟨-, args, command, isArgs, isCommand, rfl⟩
      exact ⟨args, isArgs, command, isCommand, rfl⟩

/-- The first argument is the name of the command, or the switch in front of it. -/
theorem read_cons_eq_ok_iff : read noColor (argument :: rest) = .ok styled ↔
    (∃ topic, Topic.ofName? argument = some topic ∧ readCommand noColor topic rest = .ok styled) ∨
      Topic.ofName? argument = none ∧ Switch.ofArgument? .program argument = some .noColor ∧
        noColor = false ∧ read true rest = .ok styled := by
  by_cases dashes : argument = "--"
  · subst dashes
    have noName : Topic.ofName? "--" = none := by decide
    have noSwitch : Switch.ofArgument? .program "--" = none := rfl
    cases rest <;> simp [read, noName, noSwitch]
  · rw [read.eq_def]
    split
    next same => cases same
    next same => exact absurd (List.cons.inj same).1 dashes
    next same => exact absurd (List.cons.inj same).1 dashes
    next same =>
      cases same
      cases isName : Topic.ofName? argument with
      | some topic => simp
      | none =>
        cases isSwitch : Switch.ofArgument? .program argument with
        | none => simp
        | some switch => cases switch <;> cases noColor <;> simp

/-- With the switch in front, colours are forbidden. -/
theorem noColor_of_read (isRead : read true rest = .ok styled) : styled.noColor = true := by
  cases rest with
  | nil => cases isRead
  | cons argument rest =>
    rcases read_cons_eq_ok_iff.mp isRead with ⟨topic, -, isCommand⟩ | ⟨-, -, nothing, -⟩
    · obtain ⟨-, args, command, -, -, rfl⟩ := readCommand_eq_ok_iff.mp isCommand
      rfl
    · cases nothing

/-- Colours forbidden, and otherwise the same. -/
def plain (invocation : Invocation) : Invocation := { invocation with noColor := true }

theorem plain_of_read (isRead : read noColor rest = .ok styled)
    (isPlain : read true rest = .ok styled') : styled' = styled.plain := by
  cases rest with
  | nil => cases isRead
  | cons argument rest =>
    rcases read_cons_eq_ok_iff.mp isPlain with ⟨topic, isName, isPlain⟩ | ⟨-, -, nothing, -⟩
    · rcases read_cons_eq_ok_iff.mp isRead with ⟨topic', isName', isRead⟩ | ⟨noName, -⟩
      · cases isName.symm.trans isName'
        obtain ⟨-, args, command, isArgs, isCommand, rfl⟩ := readCommand_eq_ok_iff.mp isRead
        obtain ⟨-, args', command', isArgs', isCommand', rfl⟩ := readCommand_eq_ok_iff.mp isPlain
        cases isArgs.symm.trans isArgs'
        cases isCommand.symm.trans isCommand'
        rfl
      · cases noName.symm.trans isName
    · cases nothing

/-- The switch somewhere in front of the files changes nothing but that colours are forbidden. -/
theorem plain_of_read_insert (noDashes : "--" ∉ front)
    (isRead : read noColor (front ++ back) = .ok styled)
    (isPlain : read noColor (front ++ "--no-color" :: back) = .ok styled') :
    styled' = styled.plain := by
  induction front generalizing noColor with
  | nil =>
    rcases read_cons_eq_ok_iff.mp isPlain with ⟨topic, isName, -⟩ | ⟨-, -, -, isPlain⟩
    · cases isName
    · exact plain_of_read isRead isPlain
  | cons argument front ih =>
    replace noDashes := List.not_mem_of_not_mem_cons noDashes
    rcases read_cons_eq_ok_iff.mp isPlain with ⟨topic, isName, isPlain⟩ | ⟨noName, -, -, isPlain⟩
    · rcases read_cons_eq_ok_iff.mp isRead with ⟨topic', isName', isRead⟩ | ⟨noName, -⟩
      · cases isName.symm.trans isName'
        obtain ⟨-, args, command, isArgs, isCommand, rfl⟩ := readCommand_eq_ok_iff.mp isRead
        obtain ⟨-, args', command', isArgs', isCommand', rfl⟩ := readCommand_eq_ok_iff.mp isPlain
        obtain rfl := Arguments.plain_of_read_insert noDashes isArgs isArgs'
        obtain rfl := Command.ofArguments_plain isCommand isCommand'
        exact congrArg _ (Bool.or_true noColor)
      · cases noName.symm.trans isName
    · rcases read_cons_eq_ok_iff.mp isRead with ⟨topic', isName', -⟩ | ⟨-, -, -, isRead⟩
      · cases noName.symm.trans isName'
      · exact ih noDashes isRead isPlain

/-- The switch may stand in front of arguments that do not forbid colours. -/
theorem ofArguments_noColor (isRead : ofArguments rest = .ok styled)
    (colours : styled.noColor = false) :
    ofArguments ("--no-color" :: rest) = .ok styled.plain := by
  refine read_cons_eq_ok_iff.mpr (Or.inr ⟨by decide, Switch.ofArgument?_noColor _, rfl, ?_⟩)
  cases rest with
  | nil => cases isRead
  | cons argument rest =>
    rcases read_cons_eq_ok_iff.mp isRead with ⟨topic, isName, isRead⟩ | ⟨-, -, -, isRead⟩
    · obtain ⟨noHelp, args, command, isArgs, isCommand, rfl⟩ := readCommand_eq_ok_iff.mp isRead
      refine read_cons_eq_ok_iff.mpr (Or.inl ⟨topic, isName, ?_⟩)
      exact readCommand_eq_ok_iff.mpr ⟨noHelp, args, command, isArgs, isCommand, rfl⟩
    · exact absurd (noColor_of_read isRead) (by rw [colours]; decide)

end Invocation

end MiniBasic.CommandLine
