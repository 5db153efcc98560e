/-
This file translates the checks that the handlers make on their input text.
-/

import AuthService.Construction.Domain

namespace AuthService

/-- These characters are the white space of `unicode.IsSpace`. -/
def isSpace (c : Char) : Bool :=
  let n := c.val.toNat
  (9 ≤ n && n ≤ 13) || n == 0x20 || n == 0x85 || n == 0xA0 || n == 0x1680 ||
    (0x2000 ≤ n && n ≤ 0x200A) || n == 0x2028 || n == 0x2029 || n == 0x202F ||
    n == 0x205F || n == 0x3000

/-- This is `strings.TrimSpace`. -/
def trimSpace (text : List Char) : List Char :=
  ((text.dropWhile isSpace).reverse.dropWhile isSpace).reverse

/-- This is `strings.CutPrefix`. -/
def cutPrefix (text start : String) : Option String :=
  if start.toList.isPrefixOf text.toList then
    some (String.ofList (text.toList.drop start.toList.length))
  else none

def isAsciiLetter (c : Char) : Bool := ('a' ≤ c && c ≤ 'z') || ('A' ≤ c && c ≤ 'Z')

def isAsciiDigit (c : Char) : Bool := '0' ≤ c && c ≤ '9'

def isLocalChar (c : Char) : Bool :=
  isAsciiLetter c || isAsciiDigit c || ['.', '_', '%', '+', '-'].contains c

def isDomainChar (c : Char) : Bool :=
  isAsciiLetter c || isAsciiDigit c || ['.', '-'].contains c

/-- The domain ends with the last dot and at least two letters. -/
def domainMatches (domain : List Char) : Bool :=
  let last := domain.reverse.takeWhile (· != '.')
  match domain.reverse.dropWhile (· != '.') with
  | _ :: body => !body.isEmpty && body.all isDomainChar && decide (2 ≤ last.length) && last.all isAsciiLetter
  | [] => false

/-- This is the match of `emailRe`. Neither part of an address contains the separator. -/
def emailMatches (email : String) : Bool :=
  match email.toList.splitOn '@' with
  | [user, domain] => !user.isEmpty && user.all isLocalChar && domainMatches domain
  | _ => false

/-- This is `validate.Email`, with the error text when the address is refused. -/
def validateEmail (email : String) : Option String :=
  if email = "" then some "email is required"
  else if emailMatches email then none
  else some "invalid email format"

/-- The loop of `validate.Password` stops when it has seen a letter and a digit. -/
def scanPassword (isLetter isDigit : Char → Bool) : List Char → Bool → Bool → Bool × Bool
  | [], hasLetter, hasDigit => (hasLetter, hasDigit)
  | c :: rest, hasLetter, hasDigit =>
      let hasDigit' := if isLetter c then hasDigit else hasDigit || isDigit c
      let hasLetter' := hasLetter || isLetter c
      if hasLetter' && hasDigit' then (true, true)
      else scanPassword isLetter isDigit rest hasLetter' hasDigit'

/-- This is `validate.Password`, with the error text when the password is refused. -/
def validatePassword (isLetter isDigit : Char → Bool) (password : String) : Option String :=
  if password.utf8ByteSize < 8 then some "password must be at least 8 characters"
  else
    let found := scanPassword isLetter isDigit password.toList false false
    if !found.1 then some "password must contain at least one letter"
    else if !found.2 then some "password must contain at least one digit"
    else none

/-- The host part of `net.SplitHostPort`, or nothing when the address is refused. -/
def splitHost (address : List Char) : Option (List Char) :=
  let port := address.reverse.takeWhile (· != ':')
  match address.reverse.dropWhile (· != ':') with
  | [] => none
  | _ :: front =>
      let host := front.reverse
      match host with
      | '[' :: inner =>
          match inner.reverse with
          | ']' :: body =>
              if body.contains ']' || body.contains '[' || port.contains '[' || port.contains ']' then none
              else some body.reverse
          | _ => none
      | _ =>
          if host.contains ':' || host.contains '[' || host.contains ']' ||
              port.contains '[' || port.contains ']' then none
          else some host

/-- The last part that is not blank, scanned from the right. -/
def rightmostPart (value : String) : String :=
  match (value.toList.splitOn ',').reverse.find? (fun part => !(trimSpace part).isEmpty) with
  | some part => String.ofList (trimSpace part)
  | none => ""

/-- The client address and the user agent of a request. -/
structure ClientInfo where
  ipAddress : String
  userAgent : String

/-- The forwarded address is preferred to the peer address of the connection. -/
def extractClientInfo (ctx : Context) : ClientInfo :=
  let forwarded := match ctx.metadata with
    | some md =>
        let ipAddress := match md "x-forwarded-for" with
          | value :: _ => rightmostPart value
          | [] => ""
        if ipAddress = "" then (md "x-real-ip").headD "" else ipAddress
    | none => ""
  let userAgent := match ctx.metadata with
    | some md => (md "user-agent").headD ""
    | none => ""
  let ipAddress :=
    if forwarded = "" then
      match ctx.peer with
      | some address => ((splitHost address.toList).map String.ofList).getD ""
      | none => ""
    else forwarded
  { ipAddress, userAgent }

/-- This is `peerIP` of the interceptors: the peer address up to its last colon. -/
def peerIP (ctx : Context) : String :=
  match ctx.peer with
  | none => ""
  | some address =>
      match address.toList.reverse.dropWhile (· != ':') with
      | _ :: front => String.ofList front.reverse
      | [] => address

/-- This is `extractIP` of the rate limiter. -/
def extractIP (ctx : Context) : String :=
  let forwarded := match ctx.metadata with
    | some md =>
        match md "x-forwarded-for" with
        | value :: _ => rightmostPart value
        | [] => ""
    | none => ""
  if forwarded = "" then peerIP ctx else forwarded

example : validateEmail "user@example.com" = none := by decide

example : validateEmail "user@example" = some "invalid email format" := by decide

example : rightmostPart "1.2.3.4, 5.6.7.8 ,, " = "5.6.7.8" := by decide

end AuthService
