import RichText.Text.Cut

/-!
Numeric host addresses, as they stand in a link between brackets.
-/
namespace RichText.Link

open RichText.Text

/-- A number from 0 to 255 in decimal, without zeros in front. -/
def isOctet (s : List Char) : Bool :=
  !s.isEmpty && s.all Char.isDigit && s.length ≤ 3 && (s == ['0'] || s.head? != some '0') &&
    natOfDigits s ≤ 255

/-- An address of four octets. -/
def isIpv4 (s : List Char) : Bool :=
  let octets := splitAt '.' s
  octets.length = 4 && octets.all isOctet

/-- One of the eight groups of a longer address. -/
def isGroup (s : List Char) : Bool :=
  !s.isEmpty && s.length ≤ 4 && s.all isHexDigit

/-- How many of the eight groups some texts between colons stand for, if they are well formed; the
last may be an address of four octets if `dotted`, and fills two. -/
def countGroups (dotted : Bool) : List (List Char) → Option Nat
  | [] => some 0
  | [last] =>
    if isGroup last then some 1 else if dotted && isIpv4 last then some 2 else none
  | group :: rest => if isGroup group then (countGroups dotted rest).map (· + 1) else none

/-- The groups of a text between colons; an empty text has none. -/
def groups (s : List Char) : List (List Char) :=
  if s.isEmpty then [] else splitAt ':' s

/-- The texts before and after the first double colon. -/
def cutDoubleColon : List Char → Option (List Char × List Char)
  | [] => none
  | [_] => none
  | c :: d :: rest =>
    if c = ':' && d = ':' then some ([], rest)
    else (cutDoubleColon (d :: rest)).map fun (before, after) => (c :: before, after)

/-- An address of eight groups, in which one double colon may stand for any number of zero groups.
-/
def isGrouped (s : List Char) : Bool :=
  match cutDoubleColon s with
  | none => countGroups true (groups s) == some 8
  | some (before, after) =>
    match countGroups false (groups before), countGroups true (groups after) with
    | some m, some n => m + n ≤ 7
    | _, _ => false

/-- An address of eight groups, with a zone after a percent sign if need be. -/
def isIpv6 (s : List Char) : Bool :=
  match cut '%' s with
  | (address, none) => isGrouped address
  | (address, some zone) => !zone.isEmpty && !zone.contains '%' && isGrouped address

/-- The form kept for later kinds of addresses: `v`, a hexadecimal version, a point and more. -/
def isFuture (s : List Char) : Bool :=
  match s with
  | 'v' :: rest =>
    match cut '.' rest with
    | (version, some after) =>
      !version.isEmpty && version.all isHexDigit && !after.isEmpty && !after.contains '\n'
    | _ => false
  | _ => false

end RichText.Link
