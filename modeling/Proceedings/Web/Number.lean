import Proceedings.Text.Numeral
import Proceedings.Text.Part
import Proceedings.Web.Escape

/-! # Numeric hosts

A host may be given by its number in the network: four numbers below 256 with points between them,
or eight groups of hexadecimal digits with colons between them. A row of zero groups may be left out
once, and the last two groups may be written as four numbers.
-/

namespace Proceedings.Host

/-- Where a character leads in a host that looks like four numbers. An odd place lies in a run of
digits, an even one before it. -/
def places (c : Char) (place : Nat) : List Nat :=
  let digit := c.isDigit
  if place % 2 = 0 then if digit then [place + 1] else []
  else (if digit then [place] else []) ++ if place < 7 then [place + 1] else []

/-- A host that looks like four numbers: four runs of digits, with any one character between each
two. -/
def looksNumeric (host : List Char) : Bool :=
  (host.foldl (fun reached c => (reached.flatMap (places c)).eraseDups) [0]).contains 7

/-- A number below 256 in its shortest spelling. -/
def isByte (digits : List Char) : Bool :=
  !digits.isEmpty && digits.all Char.isDigit && digits.length ≤ 3 &&
    (digits.head? != some '0' || digits.length == 1) &&
    Numeral.natOfChars digits < 256

/-- Four numbers with points between them. -/
def isFourNumbers (host : List Char) : Bool :=
  let parts := partsBetween (· == '.') host
  parts.length == 4 && parts.all isByte

/-- A group of up to four hexadecimal digits. -/
def isGroup (digits : List Char) : Bool :=
  !digits.isEmpty && digits.length ≤ 4 && digits.all Escape.isHexDigit

/-- The groups on one side of the row that is left out; there need not be any. -/
def sideGroups (parts : List (List Char)) : List (List Char) :=
  if parts == [[]] then [] else parts

/-- Eight groups, or fewer around a row that is left out. -/
def isEightGroups : List (List Char) → Bool
  | [] => false
  | first :: rest =>
    let front := rest.takeWhile (!·.isEmpty)
    match rest.drop front.length with
    | [] => front.length == 7 && (first :: front).all isGroup
    | [_] => false
    | _ :: back =>
      let groups := sideGroups (first :: front) ++ sideGroups back
      groups.length ≤ 7 && groups.all isGroup

/-- The parts between colons, with four numbers at the end taken as two groups. -/
def groupsOf? (parts : List (List Char)) : Option (List (List Char)) :=
  match parts.getLast? with
  | some last =>
    if !last.contains '.' then some parts
    else if isFourNumbers last then some (parts.dropLast ++ [['0'], ['0']])
    else none
  | none => none

/-- The number of a host in groups, with the name of a zone behind a percent sign if there is
one. -/
def isGrouped (host : List Char) : Bool :=
  let number := host.takeWhile (· != '%')
  let zone := host.drop number.length
  zone != ['%'] && !(zone.drop 1).contains '%' &&
    ((groupsOf? (partsBetween (· == ':') number)).map isEightGroups).getD false

end Proceedings.Host
