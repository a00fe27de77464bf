/-
EzDotnet.Managed.Entry — `Entry` and `Main` of the managed sample
(`samples/Managed/Sample`), and what becomes of the output in Cygwin.

`Main` writes to the console. In Cygwin, which the .NET runtime knows
nothing of, `Entry` first puts a `StreamWriter` over a `CygwinOutputStream`
under it, and each block of the writer becomes one `write` of `cygwin1`.
`CygwinOutputStream.Write` passes 0 for the offset it is given, and drops
what `write` returns.

  * `output_eq_iff`      a stream delivers what it was given exactly when
                         every `write` took its whole block and every block
                         started where its buffer does;
  * `entry_output_iff`   through the writer, which flushes its buffer from
                         the start, the first half of that is all: what
                         arrives are the arguments of the command line,
                         between two lines, unless a `write` was short.
-/
import EzDotnet.Lib.Tagged
import EzDotnet.Managed.ProgramTheorems

namespace EzDotnet.Managed

/-! ## The streams -/

/-- One `Stream.Write(buffer, offset, count)`, and how many bytes the `write`
behind it takes: none when it fails. -/
structure Write where
  buffer : Str
  offset : Nat
  count : Nat
  inBuffer : offset + count ≤ buffer.length
  accepted : Nat
  accepted_le : accepted ≤ count

namespace Write

/-- The bytes that the caller wants written. -/
def requested (w : Write) : Str := (w.buffer.drop w.offset).take w.count

/-- `Cygwin.Write(fd, data, offset, length)`: what reaches the descriptor. -/
def cygwinWrite (w : Write) (offset : Nat) : Str := (w.buffer.drop offset).take w.accepted

/-- `CygwinOutputStream.Write`. -/
def delivered (w : Write) : Str := w.cygwinWrite 0

/-- The `write` took the whole block. -/
def Complete (w : Write) : Prop := w.accepted = w.count

theorem length_requested (w : Write) : w.requested.length = w.count := by
  have hin := w.inBuffer
  unfold requested
  rw [List.length_take, List.length_drop]
  omega

theorem length_delivered (w : Write) : w.delivered.length = w.accepted := by
  have hin := w.inBuffer
  have hle := w.accepted_le
  unfold delivered cygwinWrite
  rw [List.length_take, List.length_drop]
  omega

theorem delivered_eq_requested (w : Write) :
    w.delivered = w.requested ↔ w.Complete ∧ w.buffer.take w.count = w.requested := by
  constructor
  · intro h
    have hcomplete : w.accepted = w.count := by
      rw [← w.length_delivered, h, w.length_requested]
    refine ⟨hcomplete, ?_⟩
    rw [← h, ← hcomplete]
    rfl
  · intro hex
    obtain ⟨hcomplete, hstart⟩ := hex
    rw [← hstart, ← hcomplete]
    rfl

end Write

/-- A stream delivers what was written to it exactly when every `write` took
all of its block, and every block is what its buffer starts with. -/
theorem output_eq_iff (ws : List Write) :
    ws.flatMap Write.delivered = ws.flatMap Write.requested ↔
      ∀ w ∈ ws, w.Complete ∧ w.buffer.take w.count = w.requested := by
  rw [Lib.flatMap_eq_iff_of_length_le fun w _ => ?_]
  · simp only [Write.delivered_eq_requested]
  · rw [w.length_delivered, w.length_requested]
    exact w.accepted_le

/-! ## `Main` and `Entry` -/

inductive ConsoleCall where
  | writeLine (line : Str)
  /-- `Console.Out.Flush`: nothing is left to flush, and `Flush` of the stream
  does nothing -/
  | flush
  deriving DecidableEq, Repr

/-- `$"args[{i}] => {args[i]}"`. -/
def argLine (x : Option Str × Nat) : Str :=
  lit "args[" ++ lit (toString x.2) ++ lit "] => " ++ x.1.getD []

/-- `Main`. -/
def main (args : List (Option Str)) : List ConsoleCall :=
  [.writeLine (lit "Hello")] ++ args.zipIdx.map (fun x => .writeLine (argLine x)) ++
    [.flush, .writeLine (lit "Bye")]

/-- What a text writer makes of the calls. -/
def consoleText (newLine : Str) (calls : List ConsoleCall) : Str :=
  calls.flatMap fun
    | .writeLine line => line ++ newLine
    | .flush => []

/-- Where the console output of `Main` goes. -/
inductive ConsoleOut where
  /-- a `StreamWriter` over `CygwinOutputStream(fd)` -/
  | cygwin (fd : Nat)
  | inherited
  deriving DecidableEq, Repr

/-- `Entry`: its result, where the output goes, and the calls. -/
def entry (abi : Abi) (mem : Memory) (windows cygwin1 : Bool) (args : Addr)
    (sizeBytes : BitVec 32) : Ret (Int × ConsoleOut × List ConsoleCall) :=
  (readArgv abi mem args sizeBytes).map fun argv =>
    (0, if windows && cygwin1 then .cygwin 1 else .inherited, main argv)

/-! ## What arrives -/

/-- The blocks that a `StreamWriter` with `AutoFlush` passes to its stream are
its text in its encoding, each flushed from the start of its buffer. -/
structure Flushes (encode : Str → Str) (text : Str) (ws : List Write) : Prop where
  blocks : ws.flatMap Write.requested = encode text
  fromStart : ∀ w ∈ ws, w.offset = 0

/-- The lines for these arguments. -/
def transcript (newLine : Str) (argv : List Str) : Str :=
  lit "Hello" ++ newLine ++
    argv.zipIdx.flatMap (fun x => argLine (some x.1, x.2) ++ newLine) ++
      (lit "Bye" ++ newLine)

theorem consoleText_main (newLine : Str) (argv : List Str) :
    consoleText newLine (main (argv.map some)) = transcript newLine argv := by
  unfold consoleText main transcript
  simp only [List.zipIdx_map, List.map_map, List.flatMap_append, List.flatMap_map,
    List.flatMap_cons, List.flatMap_nil, List.append_nil, List.nil_append]
  rfl

/-- In Cygwin, `Entry` prints the arguments of the command line between its
two lines, and that is what arrives on descriptor 1 exactly when no `write`
was short. -/
theorem entry_output_iff {abi : Abi} {mem : Memory} {args : Cli.Args}
    (hptr : 4 ≤ abi.ptrBytes) (hmem : mem.HoldsArgv abi args) (hargc : 5 ≤ args.argc)
    (hsize : (args.argc - 5) * abi.ptrBytes ≤ 2 ^ 31 - 1) (newLine : Str) (encode : Str → Str) :
    ∃ calls, entry abi mem true true (args.addr + 5 * abi.ptrBytes)
        (Argv.sizeInBytes abi ⟨BitVec.ofNat 32 (args.argc - 5), args.addr + 5 * abi.ptrBytes⟩)
          = .value (0, .cygwin 1, calls) ∧
      ∀ ws, Flushes encode (consoleText newLine calls) ws →
        (ws.flatMap Write.delivered = encode (transcript newLine (args.argv.drop 5)) ↔
          ∀ w ∈ ws, w.Complete) := by
  have hread := readArgv_eq hptr hmem hargc (by unfold Cli.Args.argc at hsize; omega)
  refine ⟨main ((args.argv.drop 5).map some), ?_, fun ws hws => ?_⟩
  · unfold entry Cli.Args.argc
    rw [hread]
    rfl
  · rw [← consoleText_main, ← hws.blocks, output_eq_iff]
    refine forall₂_congr fun w hw => and_iff_left ?_
    unfold Write.requested
    rw [hws.fromStart w hw, List.drop_zero]

/-- A block of its own in its own buffer, of which everything is written. -/
def Write.whole (block : Str) : Write where
  buffer := block
  offset := 0
  count := block.length
  inBuffer := by omega
  accepted := block.length
  accepted_le := le_rfl

/-- The blocks of the calls, one for each line. -/
def lineWrites (newLine : Str) (calls : List ConsoleCall) : List Write :=
  calls.filterMap fun
    | .writeLine line => some (.whole (line ++ newLine))
    | .flush => none

theorem whole_of_mem_lineWrites {newLine : Str} {calls : List ConsoleCall} {w : Write}
    (hw : w ∈ lineWrites newLine calls) : ∃ block, w = .whole block := by
  obtain ⟨call, -, hcall⟩ := List.mem_filterMap.mp hw
  cases call with
  | writeLine line => exact ⟨_, (Option.some.inj hcall).symm⟩
  | flush => cases hcall

/-- With an encoding that changes nothing, that is one way to flush the text. -/
theorem flushes_lineWrites (newLine : Str) (calls : List ConsoleCall) :
    Flushes id (consoleText newLine calls) (lineWrites newLine calls) where
  blocks := by
    induction calls with
    | nil => rfl
    | cons call calls ih =>
      cases call with
      | writeLine line =>
        have hblock : (Write.whole (line ++ newLine)).requested = line ++ newLine :=
          List.take_length
        exact congrArg₂ (· ++ ·) hblock ih
      | flush => exact ih
  fromStart w hw := by
    obtain ⟨block, rfl⟩ := whole_of_mem_lineWrites hw
    rfl

/-- Two lines, and one for each argument; written whole, they arrive. -/
theorem entry_output_twoArgs :
    ∃ calls, entry win64 twoArgsMemory true true 1040 (Argv.sizeInBytes win64 ⟨2, 1040⟩) =
        .value (0, .cygwin 1, calls) ∧
      (∀ ws, Flushes id (consoleText [0x0a#8] calls) ws →
        (ws.flatMap Write.delivered = transcript [0x0a#8] [lit "a", lit "b"] ↔
          ∀ w ∈ ws, w.Complete)) ∧
      Flushes id (consoleText [0x0a#8] calls) (lineWrites [0x0a#8] calls) ∧
      (lineWrites [0x0a#8] calls).flatMap Write.delivered =
        transcript [0x0a#8] [lit "a", lit "b"] := by
  obtain ⟨calls, hentry, harrives⟩ := @entry_output_iff win64 twoArgsMemory twoArgs
    (by decide) twoArgsMemory_holds (by decide) (by decide) [0x0a#8] id
  have hflushes := flushes_lineWrites [0x0a#8] calls
  refine ⟨calls, hentry, harrives, hflushes, (harrives _ hflushes).mpr fun w hw => ?_⟩
  obtain ⟨block, rfl⟩ := whole_of_mem_lineWrites hw
  rfl

end EzDotnet.Managed
