import WifiSniffer.Arduino.Filters

/-!
# Commands in a row

Commands have no terminator.  A channel ends at the first character that is not a digit,
but a filter is read as up to twelve bytes, whatever they are.  So a shorter argument of
a filter is ended only by the end of what has been received, and with commands behind it
their bytes become part of the argument.
-/

namespace WifiSniffer.Arduino

open WifiSniffer.Bytes WifiSniffer.Capture

/-! ## The documented commands -/

/-- A channel as text. -/
structure ChannelText where
  text : List UInt8
  digits : ∀ char ∈ text, isDigit char = true

/-- Up to six bytes as text. -/
structure FilterBytes where
  text : List UInt8
  even : text.length % 2 = 0
  length_le : text.length ≤ 12
  digits : ∀ char ∈ text, IsHexDigit char

/-- The bytes that the text stands for. -/
def FilterBytes.bytes (argument : FilterBytes) : List UInt8 :=
  (hexDecode? argument.text).get
    (hexDecode?_isSome_iff.mpr ⟨argument.even, argument.digits⟩)

/-- A command in one of its documented forms. -/
inductive Command where
  | s0
  | s1
  | ot
  | ob
  | fc (channel : ChannelText)
  | filter (name : FilterName) (argument : FilterBytes)

namespace Command

/-- The code of a command. -/
def code : Command → String
  | s0 => "S0"
  | s1 => "S1"
  | ot => "OT"
  | ob => "OB"
  | fc _ => "FC"
  | filter name _ => name.op

def argument : Command → List UInt8
  | fc channel => channel.text
  | filter _ argument => argument.text
  | _ => []

/-- What is sent for a command. -/
def text (command : Command) : List UInt8 :=
  ascii command.code ++ command.argument

/-- What a command is for. -/
def exec : Command → Sketch → Sketch
  | s0, sketch => { sketch with start := false }
  | s1, sketch => signalStart sketch
  | ot, sketch => signalStart { sketch with outType := .text }
  | ob, sketch => signalStart { sketch with outType := .binary }
  | fc channel, sketch => { sketch with selChannel := (digitsValue channel.text).toUInt32 }
  | filter name argument, sketch => name.set (.ofBytes argument.bytes) sketch

/-- The end of the argument can be told from what follows it: there is a digit, or there
are as many as are read. -/
def SelfDelimiting : Command → Prop
  | fc channel => channel.text ≠ []
  | filter _ argument => argument.text.length = 12
  | _ => True

instance (command : Command) : Decidable command.SelfDelimiting := by
  cases command <;> unfold SelfDelimiting <;> infer_instance

end Command

/-- What is sent for commands in a row. -/
def stream (commands : List Command) : List UInt8 :=
  commands.flatMap Command.text

/-- The commands one by one. -/
def execAll (commands : List Command) (sketch : Sketch) : Sketch :=
  commands.foldl (fun sketch command => command.exec sketch) sketch

/-- Only the last command may need the end of the input to end its argument. -/
def Delimited (commands : List Command) : Prop :=
  ∀ command ∈ commands.dropLast, command.SelfDelimiting

instance (commands : List Command) : Decidable (Delimited commands) :=
  inferInstanceAs (Decidable (∀ command ∈ _, _))

/-! ## The end of an argument -/

section Argument

variable {command : Command} {rest : List UInt8}

/-- Nothing, or a character that is neither a digit nor a minus sign. -/
def BeginsCode (rest : List UInt8) : Prop :=
  ∀ char ∈ rest.head?, isDigit char = false ∧ (ascii "-").contains char = false

theorem code_mem (command : Command) :
    command.code ∈ ["S0", "S1", "OT", "OB", "FC", "F1", "F2"] := by
  rcases command with _ | _ | _ | _ | _ | ⟨_ | _, _⟩
  all_goals simp [Command.code, FilterName.op]

theorem code_length (command : Command) : (ascii command.code).length = opCodeSize := by
  have codes : ∀ code ∈ ["S0", "S1", "OT", "OB", "FC", "F1", "F2"],
      (ascii code).length = opCodeSize := by
    decide
  exact codes _ (code_mem command)

theorem beginsCode_code (command : Command) : BeginsCode (ascii command.code) := by
  have codes : ∀ code ∈ ["S0", "S1", "OT", "OB", "FC", "F1", "F2"],
      isDigit ((ascii code).headD 0) = false ∧
        (ascii "-").contains ((ascii code).headD 0) = false := by
    decide
  intro char member
  have head_eq : (ascii command.code).headD 0 = char := by
    rw [List.headD_eq_head?_getD, member, Option.getD_some]
  rw [← head_eq]
  exact codes _ (code_mem command)

theorem beginsCode_stream (commands : List Command) : BeginsCode (stream commands) := by
  cases commands with
  | nil => exact fun char member => absurd member (by simp [stream])
  | cons command commands =>
      have nonempty : ascii command.code ≠ [] :=
        List.ne_nil_of_length_pos (by rw [code_length]; decide)
      have stream_eq : stream (command :: commands) =
          ascii command.code ++ (command.argument ++ stream commands) := by
        rw [stream, List.flatMap_cons, Command.text, List.append_assoc]
        rfl
      rw [BeginsCode, stream_eq, List.head?_append_of_ne_nil _ nonempty]
      exact beginsCode_code command

theorem takeWhile_append {digits : List UInt8}
    (all : ∀ char ∈ digits, isDigit char = true) (begins : BeginsCode rest) :
    (digits ++ rest).takeWhile isDigit = digits ∧ (digits ++ rest).dropWhile isDigit = rest := by
  rw [List.takeWhile_append_of_pos all, List.dropWhile_append_of_pos all]
  cases rest with
  | nil => simp
  | cons char tail => simp [(begins char rfl).1]

/-- Digits are read as far as they go. -/
theorem parseInt_append {channel : ChannelText} (begins : BeginsCode rest)
    (ends : channel.text ≠ [] ∨ rest = []) :
    parseInt (channel.text ++ rest) = (digitsValue channel.text, rest) := by
  rcases channel with ⟨digits, all⟩
  cases digits with
  | nil =>
      have empty : rest = [] := ends.resolve_left (fun nonempty => nonempty rfl)
      rw [empty]
      rfl
  | cons first tail =>
      have isFirst : isDigit first = true := all first List.mem_cons_self
      have digits_eq := takeWhile_append all begins
      rw [List.cons_append] at digits_eq
      have skipped : ((first :: tail) ++ rest).dropWhile
          (fun char => !isDigit char && !(ascii "-").contains char) =
            first :: (tail ++ rest) := by
        simp [isFirst]
      dsimp only
      rw [parseInt, skipped]
      simp only [isFirst, if_true, digits_eq]

theorem parseInt_length_le (input : List UInt8) :
    (parseInt input).2.length ≤ input.length := by
  have digits_le (text : List UInt8) : (text.dropWhile isDigit).length ≤ text.length :=
    (List.dropWhile_suffix isDigit).length_le
  have skipped_le :
      (input.dropWhile fun char => !isDigit char && !(ascii "-").contains char).length ≤
        input.length := (List.dropWhile_suffix _).length_le
  rw [parseInt]
  split
  · exact Nat.zero_le _
  · rename_i char tail rest_eq
    rw [rest_eq, List.length_cons] at skipped_le
    have tail_le := digits_le tail
    have rest_le := digits_le (char :: tail)
    rw [List.length_cons] at rest_le
    split
    · dsimp only
      rw [rest_eq]
      omega
    · dsimp only
      omega

/-- Without a digit in front the next command is not left whole. -/
theorem parseInt_length_lt (begins : BeginsCode rest) (nonempty : rest ≠ []) :
    (parseInt rest).2.length < rest.length := by
  cases rest with
  | nil => exact absurd rfl nonempty
  | cons first tail =>
      rcases begins first rfl with ⟨notDigit, notMinus⟩
      have skipped : parseInt (first :: tail) = parseInt tail := by
        simp only [parseInt, List.dropWhile_cons, notDigit, notMinus, Bool.not_false,
          Bool.and_self, if_true]
      rw [skipped]
      exact Nat.lt_succ_of_le (parseInt_length_le tail)

end Argument

/-! ## One command -/

section OneCommand

variable {command : Command} {rest : List UInt8}

theorem read_code (command : Command) (behind : List UInt8) (sketch : Sketch) :
    read [] { sketch with input := ascii command.code ++ behind } =
      Arduino.command (ascii command.code) { sketch with input := behind } := by
  have length_eq := code_length command
  have coded : (ascii command.code ++ behind).length ≥ opCodeSize := by
    rw [List.length_append, length_eq]
    omega
  rw [read, if_pos coded, readBytes, List.take_left' length_eq, List.drop_left' length_eq]
  dsimp only
  rw [List.append_nil]

theorem signalStart_input (sketch : Sketch) (input : List UInt8) :
    signalStart { sketch with input := input } = { signalStart sketch with input := input } := by
  rw [signalStart, signalStart]
  dsimp only
  split <;> rfl

theorem isOpCode_op (name : FilterName) : isOpCode (ascii name.op) name.op = true := by
  cases name <;> decide

/-- The command that selects a channel, and nothing else. -/
theorem command_fc (sketch : Sketch) :
    Arduino.command (ascii "FC") sketch =
      { sketch with
        selChannel := (parseInt sketch.input).1.toUInt32
        input := (parseInt sketch.input).2 } := by
  have fc : isOpCode (ascii "FC") "FC" = true := by decide
  have others : ∀ code ∈ ["S0", "S1", "OT", "OB", "F1", "F2"],
      isOpCode (ascii "FC") code = false := by
    decide
  simp only [List.forall_mem_cons, List.not_mem_nil, false_implies, implies_true,
    and_true] at others
  rcases others with ⟨s0, s1, ot, ob, f1, f2⟩
  simp only [Arduino.command, fc, s0, s1, ot, ob, f1, f2, if_true, if_false, Bool.false_eq_true]

/-- An argument in digits is the text that stands for its bytes. -/
theorem FilterBytes.hexDecode?_text (argument : FilterBytes) :
    hexDecode? argument.text = some argument.bytes :=
  (Option.some_get _).symm

theorem readFilter_text (argument : FilterBytes) (old : AddrFilter)
    (ends : argument.text.length = 12 ∨ rest = []) :
    readFilter old (argument.text ++ rest) = (.ofBytes argument.bytes, rest) := by
  have length_le := argument.length_le
  have taken : filterText (argument.text ++ rest) = argument.text ∧
      (argument.text ++ rest).drop 12 = rest := by
    rcases ends with full | rfl
    · exact ⟨List.take_left' full, List.drop_left' full⟩
    · rw [List.append_nil]
      exact ⟨List.take_of_length_le length_le, List.drop_of_length_le length_le⟩
  rw [readFilter_eq, taken.1, taken.2, argument.hexDecode?_text]
  rfl

/-- A command whose end can be told, or that is the last one, is executed, and the others
are left. -/
theorem read_text (sketch : Sketch) (begins : BeginsCode rest)
    (ends : command.SelfDelimiting ∨ rest = []) :
    read [] { sketch with input := command.text ++ rest } =
      { command.exec sketch with input := rest } := by
  rw [Command.text, List.append_assoc, read_code]
  cases command with
  | s0 => rfl
  | s1 => exact signalStart_input sketch rest
  | ot => exact signalStart_input { sketch with outType := .text } rest
  | ob => exact signalStart_input { sketch with outType := .binary } rest
  | fc channel =>
      have parsed := parseInt_append begins ends
      dsimp only [Command.code, Command.argument]
      rw [command_fc, parsed]
      rfl
  | filter name argument =>
      dsimp only [Command.code, Command.argument]
      rw [command_of_name name (isOpCode_op name), readFilter_text argument _ ends]
      cases name <;> rfl

/-- Otherwise something of the next command is read with it. -/
theorem length_read_text (sketch : Sketch) (begins : BeginsCode rest) (continues : rest ≠ [])
    (endless : ¬ command.SelfDelimiting) :
    (read [] { sketch with input := command.text ++ rest }).input.length < rest.length := by
  rw [Command.text, List.append_assoc, read_code]
  cases command with
  | fc channel =>
      have empty : channel.text = [] := not_not.mp endless
      dsimp only [Command.code, Command.argument]
      rw [empty, List.nil_append, command_fc]
      exact parseInt_length_lt begins continues
  | filter name argument =>
      have length_le := argument.length_le
      have short : argument.text.length ≠ 12 := endless
      have rest_pos := List.length_pos_of_ne_nil continues
      dsimp only [Command.code, Command.argument]
      rw [command_of_name name (isOpCode_op name), FilterName.input_set, readFilter_eq,
        List.length_drop, List.length_append]
      omega
  | _ => exact absurd trivial endless

/-- One call of `read` executes the next command of a row, and nothing else, exactly if the
end of the command can be told or it is the last one. -/
theorem read_text_iff (command : Command) (sketch : Sketch) (begins : BeginsCode rest) :
    read [] { sketch with input := command.text ++ rest } =
        { command.exec sketch with input := rest } ↔
      command.SelfDelimiting ∨ rest = [] := by
  constructor
  · intro executed
    by_contra endless
    push Not at endless
    have shorter := length_read_text sketch begins endless.2 endless.1
    rw [executed] at shorter
    exact absurd shorter (Nat.lt_irrefl _)
  · exact read_text sketch begins

end OneCommand

/-! ## A row of commands -/

section Row

variable (sketch : Sketch) (commands : List Command)

/-- Every call of `read` executes exactly the next command. -/
def Lockstep : Sketch → List Command → Prop
  | _, [] => True
  | sketch, command :: rest =>
      read [] { sketch with input := stream (command :: rest) } =
          { command.exec sketch with input := stream rest } ∧
        Lockstep (command.exec sketch) rest

/-- Two sketches have the same settings. -/
structure SameSettings (first second : Sketch) : Prop where
  start_eq : first.start = second.start
  outType_eq : first.outType = second.outType
  selChannel_eq : first.selChannel = second.selChannel
  addr1Filter_eq : first.addr1Filter = second.addr1Filter
  addr2Filter_eq : first.addr2Filter = second.addr2Filter

/-- Calls of `read` consume the whole input and leave the settings that the commands make,
one by one. -/
def Unambiguous : Prop :=
  ∃ count,
    ((read [])^[count] { sketch with input := stream commands }).input = [] ∧
      SameSettings ((read [])^[count] { sketch with input := stream commands })
        (execAll commands sketch)

variable {commands}

theorem stream_eq_nil_iff : stream commands = [] ↔ commands = [] := by
  cases commands with
  | nil => simp [stream]
  | cons command rest =>
      have length_eq := code_length command
      have nonempty : stream (command :: rest) ≠ [] := by
        apply List.ne_nil_of_length_pos
        rw [stream, List.flatMap_cons, Command.text, List.length_append, List.length_append,
          length_eq]
        exact Nat.add_pos_left (Nat.add_pos_left (by decide) _) _
      simp [nonempty]

theorem delimited_cons_iff {command : Command} :
    Delimited (command :: commands) ↔
      (command.SelfDelimiting ∨ commands = []) ∧ Delimited commands := by
  cases commands with
  | nil => simp [Delimited]
  | cons second rest => simp [Delimited]

/-- Every call of `read` executes exactly the next command if and only if the end of every
command but the last can be told. -/
theorem lockstep_iff : Lockstep sketch commands ↔ Delimited commands := by
  induction commands generalizing sketch with
  | nil => simp [Lockstep, Delimited]
  | cons command rest ih =>
      have step_iff := read_text_iff command sketch (beginsCode_stream rest)
      rw [Lockstep, delimited_cons_iff, ih, stream, List.flatMap_cons, ← stream, step_iff,
        stream_eq_nil_iff]

/-- Calls that execute one command each execute all of them. -/
theorem iterate_of_lockstep (lockstep : Lockstep sketch commands) :
    (read [])^[commands.length] { sketch with input := stream commands } =
      { execAll commands sketch with input := [] } := by
  induction commands generalizing sketch with
  | nil => rfl
  | cons command rest ih =>
      rcases lockstep with ⟨first, others⟩
      rw [List.length_cons, Function.iterate_succ_apply, first, ih _ others]
      rfl

theorem unambiguous_of_lockstep (lockstep : Lockstep sketch commands) :
    Unambiguous sketch commands := by
  refine ⟨commands.length, ?_⟩
  rw [iterate_of_lockstep sketch lockstep]
  exact ⟨rfl, rfl, rfl, rfl, rfl, rfl⟩

end Row

/-- Every call of `read` executes exactly the next command if and only if the end of every
command but the last can be told, and then the whole row is executed. -/
theorem unambiguous_of_delimited (sketch : Sketch) (commands : List Command) :
    (Lockstep sketch commands ↔ Delimited commands) ∧
      (Delimited commands → Unambiguous sketch commands) :=
  ⟨lockstep_iff sketch, fun delimited =>
    unambiguous_of_lockstep sketch ((lockstep_iff sketch).mpr delimited)⟩

/-- The filters of the sketch's own example. -/
def exampleFilters : List Command :=
  [.filter .first ⟨ascii "014096", by decide, by decide, by decide +kernel⟩,
    .filter .second ⟨ascii "000CCC", by decide, by decide, by decide +kernel⟩]

/-- The first filter swallows the second one. -/
theorem not_unambiguous_exampleFilters :
    ¬ Delimited exampleFilters ∧ ¬ Unambiguous setup exampleFilters := by
  have before : ({ setup with input := stream exampleFilters } : Sketch).input ≠ [] := by
    decide +kernel
  have between : (read [] { setup with input := stream exampleFilters }).input ≠ [] := by
    decide +kernel
  have swallowed : ((read [])^[2] { setup with input := stream exampleFilters }).addr1Filter ≠
      (execAll exampleFilters setup).addr1Filter := by
    decide +kernel
  have stays : read [] ((read [])^[2] { setup with input := stream exampleFilters }) =
      (read [])^[2] { setup with input := stream exampleFilters } := by
    decide +kernel
  refine ⟨by decide +kernel, ?_⟩
  rintro ⟨count, consumed, same⟩
  match count with
  | 0 => exact before consumed
  | 1 => exact between consumed
  | later + 2 =>
      have fixed := Function.iterate_fixed stays later
      rw [Function.iterate_add_apply, fixed] at same
      exact swallowed same.addr1Filter_eq

/-- A channel, a filter of six bytes and the switch. -/
theorem unambiguous_full_filter :
    Unambiguous setup
      [.fc ⟨ascii "06", by decide +kernel⟩,
        .filter .first ⟨ascii "0140960A0B0C", by decide, by decide, by decide +kernel⟩, .s0] :=
  (unambiguous_of_delimited setup _).2 (by decide +kernel)

end WifiSniffer.Arduino
