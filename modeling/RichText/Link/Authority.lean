import RichText.Link.Address
import RichText.Text.Quoted

/-!
The authority of a link target, which names a host and a port: where it stands in the target, and
what makes it unusable.
-/
namespace RichText.Link

open RichText.Text

inductive AuthorityFault
  | misplacedBracket
  | notAnAddress (host : String)
  | shortAddress
  | unknownAddressForm
  | disguisedDelimiter (authority : String)
  | portNotANumber (port : String)
  | portTooLong (digits : Nat)
  | portTooLarge
deriving DecidableEq

def AuthorityFault.message : AuthorityFault → String
  | misplacedBracket => "Invalid IPv6 URL"
  | notAnAddress host => quoted host ++ " does not appear to be an IPv4 or IPv6 address"
  | shortAddress => "An IPv4 address cannot be in brackets"
  | unknownAddressForm => "IPvFuture address is invalid"
  | disguisedDelimiter authority =>
    "netloc '" ++ authority ++ "' contains invalid characters under NFKC normalization"
  | portNotANumber port => "Port could not be cast to integer value as " ++ quoted port
  | portTooLong digits =>
    "Exceeds the limit (4300 digits) for integer string conversion: value has " ++
      toString digits ++ " digits; use sys.set_int_max_str_digits() to increase the limit"
  | portTooLarge => "Port out of range 0-65535"

/-- The name of a scheme: a letter, then letters, digits, `+`, `-` and `.`, all of them ASCII. -/
def isSchemeName : List Char → Bool
  | [] => false
  | c :: rest => c.isAlpha && rest.all fun c => c.isAlphanum || c = '+' || c = '-' || c = '.'

/-- What follows the scheme and its colon, if there is a scheme. -/
def afterScheme (target : List Char) : List Char :=
  match cut ':' target with
  | (name, some rest) => if isSchemeName name then rest else target
  | (_, none) => target

def endsAuthority (c : Char) : Bool :=
  c = '/' || c = '?' || c = '#'

/-- The authority: what follows two slashes behind the scheme. -/
def authority? (target : List Char) : Option (List Char) :=
  (dropStart? ['/', '/'] (afterScheme target)).map (·.takeWhile (!endsAuthority ·))

def hostAndPort (authority : List Char) : List Char :=
  afterLast '@' authority

/-- The host that brackets announce: it stands in the brackets and nothing but a port beside them.
-/
def bracketedHost (authority : List Char) : Except AuthorityFault (List Char) :=
  match cut '[' (hostAndPort authority) with
  | (host, none) => .ok (cut ':' host).1
  | (_ :: _, some _) => .error .misplacedBracket
  | ([], some rest) =>
    match cut ']' rest with
    | (host, none) | (host, some []) | (host, some (':' :: _)) => .ok host
    | (_, some (_ :: _)) => .error .misplacedBracket

/-- Brackets come in pairs around an address of a long form. -/
def checkBrackets (authority : List Char) : Except AuthorityFault Unit :=
  match authority.contains '[', authority.contains ']' with
  | false, false => .ok ()
  | true, true => do
    let host ← bracketedHost authority
    if host.head? = some 'v' then
      if isFuture host then .ok () else .error .unknownAddressForm
    else if isIpv4 host then .error .shortAddress
    else if isIpv6 host then .ok ()
    else .error (.notAnAddress (String.ofList host))
  | _, _ => .error .misplacedBracket

/-- The characters whose compatibility form holds a delimiter of targets. -/
def disguised : List Char := [
  '\u2047', '\u2048', '\u2049', '\u2100', '\u2101', '\u2105', '\u2106', '\u2a74', '\ufe13',
  '\ufe16', '\ufe55', '\ufe56', '\ufe5f', '\ufe6b', '\uff03', '\uff0f', '\uff1a', '\uff1f',
  '\uff20']

/-- No character may turn into a delimiter when the host is normalized. -/
def checkDisguised (authority : List Char) : Except AuthorityFault Unit :=
  if authority.any disguised.contains then .error (.disguisedDelimiter (String.ofList authority))
  else .ok ()

def portText (authority : List Char) : List Char :=
  let hostPort := hostAndPort authority
  let rest := match (cut '[' hostPort).2 with
    | some bracketed => ((cut ']' bracketed).2).getD []
    | none => hostPort
  ((cut ':' rest).2).getD []

/-- The digits that a number may be written with, leading zeros included. -/
def maxDigits : Nat := 4300

/-- A port is a decimal number of sixteen bits that is not written with too many digits. -/
def checkPort (authority : List Char) : Except AuthorityFault Unit :=
  let port := portText authority
  if port.isEmpty then .ok ()
  else if !port.all Char.isDigit then .error (.portNotANumber (String.ofList port))
  else if maxDigits < port.length then .error (.portTooLong port.length)
  else if 65535 < natOfDigits port then .error .portTooLarge
  else .ok ()

/-- The checks of an authority; the first that fails decides. -/
def checkAuthority (authority : List Char) : Except AuthorityFault Unit := do
  checkBrackets authority
  checkDisguised authority
  checkPort authority

end RichText.Link
