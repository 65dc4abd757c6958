import StudySession.Text.Blank
import StudySession.Text.Percent

/-!
# Hosts of web addresses

`Host.isValid` tells which texts name a host: a domain name, an address of four numbers, or an
address of eight groups in square brackets. A name whose last label is a number has to be an address
of four numbers.
-/

namespace StudySession

namespace Host

/-- The characters that no domain name holds, by their codes; controls are refused as well. -/
def forbidden : List Nat := " \"#%/:<>?@[\\]^`\x7b|\x7d".toList.map Char.toNat

/-- The number a label of an address stands for: hexadecimal after `0x`, octal after `0`, and
decimal else. -/
def number? (label : List Char) : Option Nat :=
  let read (base : Nat) (digits : List Char) : Option Nat :=
    digits.foldl (fun n? c => n?.bind fun n => (Percent.digitValue? c).bind fun d =>
      if d < base then some (n * base + d) else none) (some 0)
  match label with
  | [] => none
  | '0' :: x :: digits => if x = 'x' ∨ x = 'X' then read 16 digits else read 8 (x :: digits)
  | digits => read 10 digits

/-- The labels of a name, the empty one after a final dot left out. -/
def labels (s : List Char) : List (List Char) :=
  let all := piecesBetween (· == '.') s
  if all.length > 1 ∧ all.getLast? = some [] then all.dropLast else all

/-- Whether the last label is a number, or at least all digits. -/
def endsInNumber (s : List Char) : Bool :=
  match (labels s).getLast? with
  | some label => (!label.isEmpty && label.all Char.isDigit) || (number? label).isSome
  | none => false

/-- Whether labels make an address of four numbers; the last number may fill the places of those
left out. -/
def isFourNumbers (s : List Char) : Bool :=
  let all := labels s
  match (all.mapM number?).map List.reverse with
  | some (last :: rest) =>
    decide (all.length ≤ 4) && rest.all (fun n => decide (n < 256)) &&
      decide (last < Nat.pow 256 (5 - all.length))
  | _ => false

/-- Whether a text is a decimal number below 256 without leading zeros. -/
def isByte (s : String) : Bool :=
  match s.toList with
  | [] => false
  | ['0'] => true
  | c :: rest =>
    c != '0' && (c :: rest).all Char.isDigit && decide ((s.toNat?.getD 256) < 256)

/-- The number of groups of half an address in brackets, four decimal numbers at its end counting
as two; none where a group is not one to four hexadecimal digits. -/
def groupCount? (s : String) (atEnd : Bool) : Option Nat :=
  if s.isEmpty then some 0
  else
    let groups := s.splitOn ":"
    let isGroup (g : String) : Bool :=
      !g.isEmpty && decide (g.length ≤ 4) && g.toList.all fun c => (Percent.digitValue? c).isSome
    match groups.getLast? with
    | some last =>
      let dotted := last.splitOn "."
      if atEnd && dotted.length == 4 && dotted.all isByte then
        if groups.dropLast.all isGroup then some (groups.length + 1) else none
      else if groups.all isGroup then some groups.length
      else none
    | none => none

/-- Whether a text between square brackets is an address of eight groups, of which one run of zeros
may be left out. -/
def isBracketed (s : String) : Bool :=
  match s.splitOn "::" with
  | [all] => groupCount? all true == some 8
  | [before, after] =>
    match groupCount? before false, groupCount? after true with
    | some n, some m => decide (n + m ≤ 7)
    | _, _ => false
  | _ => false

def isValid (s : List Char) : Bool :=
  match s with
  | '[' :: rest => rest.getLast? == some ']' && isBracketed (String.ofList rest.dropLast)
  | s =>
    let codes := Percent.codes s
    !codes.isEmpty && codes.all (fun n => decide (32 < n) && n != 127 && !forbidden.contains n) &&
      (!endsInNumber s || isFourNumbers s)

end Host

end StudySession
