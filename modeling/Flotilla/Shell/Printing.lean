import Flotilla.Shell.Escape
import Flotilla.Shell.Flow

/-!
# Utilities that print

`echo`, `printf`, `seq` and `yes`.  They read nothing.

There are two kinds of `echo`.  The one of a shell minds escapes always, the other
only when it is asked to.  `printf` reads its format again as long as arguments are
left over and the format asks for some.
-/

namespace Flotilla.Shell

/-- Words with blanks between them and a line feed behind them. -/
def echoText (args : List String) : String := " ".intercalate args

/-- `echo` as a utility of its own: `-n` leaves the line feed away, and `-e` asks for escapes. -/
def echo : Utility := fun args _ =>
  let isOption (a : String) : Bool :=
    match a.toList with
    | '-' :: c :: cs => (c :: cs).all fun x => x == 'n' || x == 'e' || x == 'E'
    | _ => false
  let options := (args.takeWhile isOption).flatMap fun a => a.toList.drop 1
  let text := (echoText (args.dropWhile isOption)).toList
  let escapes := (options.reverse.find? (· != 'n')) == some 'e'
  let (bytes, ended) :=
    if escapes then unescape true (text.length + 1) text
    else (Text.encode (String.ofList text), false)
  .ofBytes (if ended || options.contains 'n' then bytes else bytes ++ [10])

/-- `echo` in a shell: escapes count always, and only `-n` is known. -/
def shellEcho : Utility := fun args _ =>
  let quiet := args.head? == some "-n"
  let text := (echoText (if quiet then args.drop 1 else args)).toList
  let (bytes, ended) := unescape true (text.length + 1) text
  .ofBytes (if ended || quiet then bytes else bytes ++ [10])

/-- What came of one reading of a format. -/
structure Formatted where
  /-- What was written. -/
  bytes : List UInt8 := []
  /-- The arguments that are left. -/
  rest : List String := []
  /-- Whether the format asked for arguments. -/
  asked : Bool := false
  /-- Whether an end was called for. -/
  ended : Bool := false

/-- The number an argument holds. -/
def argumentNumber (arg : String) : String :=
  match arg.toInt? with
  | some n => toString n
  | none => "0"

/-- One reading of a format with some arguments. -/
def formatOnce : (fuel : Nat) → List Char → List String → Formatted
  | 0, _, args => { rest := args }
  | fuel + 1, cs, args =>
    let literal (bytes : List UInt8) (rest : List Char) : Formatted :=
      let f := formatOnce fuel rest args
      { f with bytes := bytes ++ f.bytes }
    let value (shown : String → List UInt8 × Bool) (rest : List Char) : Formatted :=
      let (bytes, ended) := shown (args.head?.getD "")
      if ended then { bytes, rest := args.drop 1, asked := true, ended }
      else
        let f := formatOnce fuel rest (args.drop 1)
        { f with bytes := bytes ++ f.bytes, asked := true }
    match cs with
    | [] => { rest := args }
    | '\\' :: 'c' :: _ => { rest := args, ended := true }
    | '\\' :: rest =>
      match escape? rest with
      | some (b, rest) => literal [b] rest
      | none =>
        match rest with
        | '"' :: rest => literal [34] rest
        | _ => literal [92] rest
    | '%' :: '%' :: rest => literal [37] rest
    | '%' :: 's' :: rest => value (fun a => (Text.encode a, false)) rest
    | '%' :: 'd' :: rest | '%' :: 'i' :: rest | '%' :: 'u' :: rest =>
      value (fun a => (Text.encode (argumentNumber a), false)) rest
    | '%' :: 'c' :: rest => value (fun a => (a.toList.head?.elim [] charBytes, false)) rest
    | '%' :: 'b' :: rest => value (fun a => unescape true (a.length + 1) a.toList) rest
    | c :: rest => literal (charBytes c) rest

/-- The readings of a format, as long as there are arguments for it. -/
def formatAll (format : List Char) : (room : Nat) → List String → List UInt8
  | 0, _ => []
  | room + 1, args =>
    let f := formatOnce (format.length + 1) format args
    if f.ended || f.rest.isEmpty || !f.asked then f.bytes
    else f.bytes ++ formatAll format room f.rest

/-- `printf`: the format is read again as long as there are arguments. -/
def printf : Utility
  | [], _ => { err := "printf: usage: printf format [arg ...]\n", status := 2 }
  | format :: args, _ => .ofBytes (formatAll format.toList (args.length + 1) args)

/-- `seq`: the whole numbers up to another, or from one to another. -/
def seq : Utility := fun args _ =>
  let between (a b : Int) : Report :=
    .ofBytes ((List.range (b - a + 1).toNat).flatMap fun (i : Nat) => Text.encode s!"{a + i}\n")
  match args.filterMap String.toInt? with
  | [b] => between 1 b
  | [a, b] => between a b
  | _ => { err := "seq: missing operand\n", status := 1 }

/-- `yes`: a line over and over. -/
def yes : Utility := fun args _ =>
  let text := if args.isEmpty then "y" else echoText args
  { out := { forever := Text.encode (text ++ "\n") } }

end Flotilla.Shell
