import Flotilla.Shell.Escape
import Flotilla.Shell.Flow

/-!
# Utilities that read

`cat`, `head`, `tr` and `wc`.  They read the files they are told, or else their
input.  Two files are known: one that is empty and one of zeros without an end.
-/

namespace Flotilla.Shell

/-- What there is to read under a name. -/
def file? (name : String) : Option Flow :=
  if name == "/dev/null" then some {}
  else if name == "/dev/zero" then some { forever := [0] }
  else none

/-- What some files hold one after another, or else what is read. -/
def sources (tool : String) (names : List String) (input : Flow) : Report :=
  if names.isEmpty then { out := input }
  else
    names.foldl (fun r name =>
      match if name == "-" then some input else file? name with
      | some f => { r with out := r.out.append f }
      | none =>
        { r with err := r.err ++ s!"{tool}: {name}: No such file or directory\n", status := 1 }) {}

/-- `cat`: what is read, one thing after another. -/
def cat : Utility := fun args input => sources "cat" args input

/-- The first lines of some bytes. -/
def firstLines : (n : Nat) → List UInt8 → List UInt8
  | 0, _ => []
  | _, [] => []
  | n + 1, b :: bs => b :: if b == 10 then firstLines n bs else firstLines (n + 1) bs

/-- How much of a flow without an end is looked at for some lines. -/
def lineRoom (f : Flow) (n : Nat) : Nat := f.once.length + f.forever.length * (n + 1)

/-- `head`: the first lines or bytes. -/
def head : Utility := fun args input =>
  let read (names : List String) (cut : Flow → List UInt8) : Report :=
    let r := sources "head" names input
    { r with out := { once := cut r.out } }
  let lines (n : Nat) (names : List String) :=
    read names fun f => firstLines n (f.take (lineRoom f n))
  let bytes (n : Nat) (names : List String) := read names fun f => f.take n
  match args with
  | "-c" :: n :: names => bytes (n.toNat?.getD 0) names
  | "-n" :: n :: names => lines (n.toNat?.getD 0) names
  | a :: names =>
    match a.toList with
    | '-' :: 'c' :: n => bytes ((String.ofList n).toNat?.getD 0) names
    | '-' :: 'n' :: n => lines ((String.ofList n).toNat?.getD 0) names
    | '-' :: n => lines ((String.ofList n).toNat?.getD 10) names
    | _ => lines 10 (a :: names)
  | [] => lines 10 []

/-- The characters that a set for `tr` names: ranges and escapes are spelled out. -/
def characterSet : (fuel : Nat) → List Char → List UInt8
  | 0, _ => []
  | fuel + 1, cs =>
    match cs with
    | [] => []
    | '\\' :: rest =>
      match escape? rest with
      | some (b, rest) => b :: characterSet fuel rest
      | none => characterSet fuel rest
    | a :: '-' :: b :: rest =>
      ((List.range (b.toNat - a.toNat + 1)).map fun i => UInt8.ofNat (a.toNat + i)) ++
        characterSet fuel rest
    | c :: rest => charBytes c ++ characterSet fuel rest

/-- The bytes that a set for `tr` names. -/
def setOf (text : String) : List UInt8 := characterSet (text.length + 1) text.toList

/-- `tr`: bytes of one set become those of another, or are taken away. -/
def tr : Utility := fun args input =>
  match args with
  | ["-d", set] =>
    let gone := setOf set
    { out := input.filterMap fun b => if gone.contains b then none else some b }
  | [old, new] =>
    let olds := setOf old
    let news := setOf new
    { out := input.filterMap fun b =>
        match olds.idxOf? b with
        | none => some b
        | some i =>
          match news[i]? with
          | some c => some c
          | none => some (news.getLast?.getD b) }
  | _ => { err := "tr: missing operand\n", status := 1 }

/-- `wc`: how many bytes or lines. -/
def wc : Utility := fun args input =>
  let size := input.once.length
  let lines := (input.once.filter (· == 10)).length
  match args with
  | ["-c"] => .ofBytes (Text.encode s!"{size}\n")
  | ["-l"] => .ofBytes (Text.encode s!"{lines}\n")
  | _ => { err := "wc: invalid option\n", status := 1 }

example : firstLines 1 [0x61, 10, 0x62, 10] = [0x61, 10] := by decide

end Flotilla.Shell
